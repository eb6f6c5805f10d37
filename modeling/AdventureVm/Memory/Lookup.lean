import AdventureVm.Memory.Store

/-! Looking up selectors along the superclass chain. -/

namespace AdventureVm

/-- What a selector means to an object. -/
inductive SelectorLookup where
  /-- A property of the object that was asked. -/
  | variable (object : Address) (index : Nat)
  /-- A method, and the object or class that has it. -/
  | method (address owner : Address)
  | notFound
deriving Repr, DecidableEq, Inhabited

namespace Heap

/-- The selectors of an object's properties: its own list, else that of its class. -/
def propertySelectors? (heap : Heap) (object : Object) : Option (Array UInt16) :=
  match object.selectors with
  | some selectors => some selectors
  | none =>
    ((heap.classes.address? object.species).bind heap.object?).bind (·.selectors)

/-- The number of objects that are asked before a chain counts as endless. -/
def chainLimit : Nat := 256

/--
Asks an object and then its superclasses, up to so many of them.

Methods come before properties, and a property found on the way is one of the receiver. The records
are those of a chain that breaks off.
-/
def search (heap : Heap) (receiver : Address) (selector : UInt16) :
    Nat → Address → Except Fault (SelectorLookup × List Record)
  | 0, _ => .ok (.notFound, [.plain .warn s!"superclass chain of {receiver} is too deep"])
  | limit + 1, current => do
    let object ← heap.object current
    -- An object without an answer passes the question on to its superclass.
    match object.method? selector with
    | some address => return (.method address current, [])
    | none =>
      match (heap.propertySelectors? object).bind (·.findIdx? (· == selector)) with
      | some index => return (.variable receiver index, [])
      | none =>
        if !object.hasSuperclass then
          return (.notFound, [])
        match heap.classes.address? object.superclass with
        | some parent =>
          -- A class that is its own superclass ends the chain.
          if parent = current then return (.notFound, [])
          else search heap receiver selector limit parent
        | none =>
          let name := heap.objectName current
          return (.notFound, heap.nameRecords .warn current ++ [.plain .warn
            (s!"superclass {object.superclass} of {name} is not loaded; " ++
              s!"selector {selector} unresolved")])

/-- What a selector means to an object, with the records of the search. -/
def resolve (heap : Heap) (receiver : Address) (selector : UInt16) :
    Except Fault (SelectorLookup × List Record) :=
  heap.search receiver selector chainLimit receiver

/-- What a selector means to an object. -/
def lookup (heap : Heap) (receiver : Address) (selector : UInt16) : Except Fault SelectorLookup :=
  (heap.resolve receiver selector).map (·.1)

end Heap

/-- An object has a property or a method for the selector. -/
def SelectorLookup.isFound : SelectorLookup → Bool
  | notFound => false
  | _ => true

namespace Store

/-- What a selector means to an object, with a warning when the search breaks off. -/
def resolve (receiver : Address) (selector : UInt16) : StoreM SelectorLookup :=
  StoreM.noted (·.resolve receiver selector)

/-- Answers whether there is an object that has a property or a method for a selector. -/
def respondsTo (receiver : Address) (selector : UInt16) : StoreM Bool := do
  match ← StoreM.outcome (resolve receiver selector) with
  | .ok found => return found.isFound
  | .error _ => return false

end Store

end AdventureVm
