/-! The names of the kernel functions that the machine brings along. -/

namespace AdventureVm

/-- A kernel function that works on memory alone. -/
inductive Builtin where
  | clone
  | disposeClone
  | isObject
  | respondsTo
  | scriptID
  | disposeScript
  | newList
  | disposeList
  | newNode
  | firstNode
  | lastNode
  | emptyList
  | nextNode
  | prevNode
  | nodeValue
  | addAfter
  | addToFront
  | addToEnd
  | findKey
  | deleteKey
  | memory
  | strLen
  | strCmp
  | strCpy
  | strAt
deriving Repr, DecidableEq, Inhabited

namespace Builtin

/-- The name under which games know a function. -/
def name : Builtin → String
  | clone => "Clone"
  | disposeClone => "DisposeClone"
  | isObject => "IsObject"
  | respondsTo => "RespondsTo"
  | scriptID => "ScriptID"
  | disposeScript => "DisposeScript"
  | newList => "NewList"
  | disposeList => "DisposeList"
  | newNode => "NewNode"
  | firstNode => "FirstNode"
  | lastNode => "LastNode"
  | emptyList => "EmptyList"
  | nextNode => "NextNode"
  | prevNode => "PrevNode"
  | nodeValue => "NodeValue"
  | addAfter => "AddAfter"
  | addToFront => "AddToFront"
  | addToEnd => "AddToEnd"
  | findKey => "FindKey"
  | deleteKey => "DeleteKey"
  | memory => "Memory"
  | strLen => "StrLen"
  | strCmp => "StrCmp"
  | strCpy => "StrCpy"
  | strAt => "StrAt"

/-- All functions, in the order in which a game without a list of its own numbers them. -/
def all : List Builtin :=
  [clone, disposeClone, isObject, respondsTo, scriptID, disposeScript, newList, disposeList,
    newNode, firstNode, lastNode, emptyList, nextNode, prevNode, nodeValue, addAfter, addToFront,
    addToEnd, findKey, deleteKey, memory, strLen, strCmp, strCpy, strAt]

/-- The function with a name. -/
def ofName? (name : String) : Option Builtin :=
  all.find? (·.name == name)

/-- A function is recovered from its name. -/
@[simp] theorem ofName?_name (builtin : Builtin) : ofName? builtin.name = some builtin := by
  -- The names are all different, which is checked for each of them.
  cases builtin <;> decide

end Builtin

end AdventureVm
