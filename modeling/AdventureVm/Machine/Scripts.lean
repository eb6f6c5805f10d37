import AdventureVm.Machine.Basic
import AdventureVm.Memory.Lookup

/-! Scripts, classes and selectors as the machine finds them. -/

namespace AdventureVm

/-- The name of a selector, if it has one. -/
def Resources.selectorName? (resources : Resources) (selector : UInt16) : Option String :=
  resources.selectorNames[selector.toNat]?.filter (!·.isEmpty)

/-- The number of the first selector with a name. -/
def Resources.selectorNumber? (resources : Resources) (name : String) : Option UInt16 :=
  (resources.selectorNames.findIdx? (· == name)).map .ofNat

namespace Machine

/-- Locks a script, which is loaded if need be. -/
def lockScript (number : UInt16) : VmM SegmentId := do
  VmM.store (Store.instantiateScript (← VmM.setup (·.resources)) number)

/-- Drops a lock on a script. -/
def unlockScript (number : UInt16) : VmM Unit :=
  VmM.store (Store.uninstantiateScript number)

/-- The segment of a script, which is locked if it first has to be brought into memory. -/
def ensureScript (number : UInt16) : VmM SegmentId := do
  VmM.store (Store.ensureScript (← VmM.setup (·.resources)) number)

/-- The address of an export of a script. -/
def scriptExport (number : UInt16) (index : Nat) : VmM Address := do
  let id ← ensureScript number
  match (← VmM.require (·.script id)).export? index with
  | some address => return address
  | none => throw (.kernelArgument "export" s!"script {number} has no export {index}")

/-- The object that stands for the game. -/
def gameObject : VmM Address :=
  scriptExport globalsScript 0

/-- The address of a class, whose script is brought into memory if need be. -/
def resolveClass (species : UInt16) : VmM Address := do
  match ← VmM.read (·.classes.address? species) with
  | some address => return address
  | none =>
    match ← VmM.read (·.classes.script? species) with
    | none => throw (.classNotFound species)
    | some number =>
      -- Loading the script makes its classes known, if it has them.
      let _ ← ensureScript number
      match ← VmM.read (·.classes.address? species) with
      | some address => return address
      | none => throw (.classNotFound species)

/-- The failure of an object to understand a selector. -/
def selectorNotFound (object : Address) (selector : UInt16) : VmM Fault := do
  return .selectorNotFound object selector (← VmM.setup (·.resources.selectorName? selector))

/-- The position of the property that a selector names. -/
def propertyIndex (object : Address) (selector : UInt16) : VmM Nat := do
  match ← VmM.store (Store.resolve object selector) with
  | .variable _ index => return index
  | _ => throw (← selectorNotFound object selector)

/-- The value of the property that a selector names. -/
def getProperty (object : Address) (selector : UInt16) : VmM Address := do
  let index ← propertyIndex object selector
  VmM.require (·.readProperty object index)

/-- Replaces the value of the property that a selector names. -/
def setProperty (object : Address) (selector : UInt16) (value : Address) : VmM Unit := do
  let index ← propertyIndex object selector
  VmM.store (StoreM.attempt (·.writeProperty object index value))

/-- Answers whether an object has a property or a method for a selector. -/
def respondsTo (object : Address) (selector : UInt16) : VmM Bool :=
  VmM.store (Store.respondsTo object selector)

end Machine

end AdventureVm
