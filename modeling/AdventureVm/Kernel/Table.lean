import AdventureVm.Kernel.Bytes
import AdventureVm.Kernel.Host
import AdventureVm.Kernel.Lists
import AdventureVm.Kernel.Objects
import AdventureVm.Text.Quoted

/-! The table of kernel functions. -/

namespace AdventureVm

/-- Runs a function that the machine brings along. -/
def KernelCall.run (call : KernelCall) : StoreM Address :=
  match call.builtin with
  | .clone => call.clone
  | .disposeClone => call.disposeClone
  | .isObject => call.isObject
  | .respondsTo => call.respondsTo
  | .scriptID => call.scriptID
  | .disposeScript => call.disposeScript
  | .newList => call.newList
  | .disposeList => call.disposeList
  | .newNode => call.newNode
  | .firstNode => call.firstNode
  | .lastNode => call.lastNode
  | .emptyList => call.emptyList
  | .nextNode => call.nextNode
  | .prevNode => call.prevNode
  | .nodeValue => call.nodeValue
  | .addAfter => call.addAfter
  | .addToFront => call.addToFront
  | .addToEnd => call.addToEnd
  | .findKey => call.findKey
  | .deleteKey => call.deleteKey
  | .memory => call.memory
  | .strLen => call.strLen
  | .strCmp => call.strCmp
  | .strCpy => call.strCpy
  | .strAt => call.strAt

/-- What stands behind a name of the kernel table. -/
inductive KernelFunction where
  /-- A function that the machine brings along. -/
  | builtin (builtin : Builtin)
  /-- Nothing yet: a call is recorded and answers null. -/
  | stub
  /-- A function that the surrounding program has added. -/
  | host (action : List Address → HostAction)

/-- A kernel function and its name. -/
structure KernelEntry where
  /-- The name under which games know the function. -/
  name : String
  /-- The function. -/
  function : KernelFunction

namespace KernelEntry

/-- There is a function behind the name. -/
def isImplemented (entry : KernelEntry) : Bool :=
  match entry.function with
  | .stub => false
  | _ => true

/-- The function of a name that a game lists. -/
def ofName (name : String) : KernelEntry :=
  { name
    function := match Builtin.ofName? name with
      | some builtin => .builtin builtin
      | none => .stub }

/-- The name in quotation marks, and whether there is a function. -/
def text (entry : KernelEntry) : String :=
  "(" ++ quoted entry.name ++ ", " ++ (if entry.isImplemented then "true" else "false") ++ ")"

end KernelEntry

/-- The kernel functions by number. -/
structure KernelTable where
  /-- The entries in the order of their numbers. -/
  entries : Array KernelEntry := #[]

namespace KernelTable

/-- The table of the names that a game lists. -/
def ofNames (names : Array String) : KernelTable :=
  ⟨names.map .ofName⟩

/-- The table of the functions that the machine brings along. -/
def builtins : KernelTable :=
  ofNames (Builtin.all.map Builtin.name).toArray

/-- The table of a game; one without names gets what the machine brings along. -/
def ofGame (names : Array String) : KernelTable :=
  if names.isEmpty then builtins else ofNames names

/-- The number of entries. -/
def size (table : KernelTable) : Nat :=
  table.entries.size

/-- The entry with a number. -/
def get? (table : KernelTable) (index : Nat) : Option KernelEntry :=
  table.entries[index]?

/-- The number of the first entry with a name. -/
def indexOf? (table : KernelTable) (name : String) : Option Nat :=
  table.entries.findIdx? (·.name == name)

/-- Adds a function or replaces the first one of its name, and answers its number. -/
def register (table : KernelTable) (name : String) (action : List Address → HostAction) :
    Nat × KernelTable :=
  let entry : KernelEntry := ⟨name, .host action⟩
  match table.indexOf? name with
  -- The number of a known name stays, so calls by number reach the new function.
  | some index => (index, ⟨table.entries.setIfInBounds index entry⟩)
  | none => (table.size, ⟨table.entries.push entry⟩)

/-- The names of all entries. -/
def names (table : KernelTable) : Array String :=
  table.entries.map (·.name)

/-- The entries between brackets. -/
def text (table : KernelTable) : String :=
  "[" ++ ", ".intercalate (table.entries.toList.map KernelEntry.text) ++ "]"

end KernelTable

end AdventureVm
