import AdventureVm.Kernel.Arguments
import AdventureVm.Memory.Lookup
import AdventureVm.Memory.Records

/-! Kernel functions on objects and scripts. -/

namespace AdventureVm

namespace KernelCall

/-- Clones an object. -/
def clone (call : KernelCall) : StoreM Address := do
  let origin ← call.argument 0
  let copy ← Store.createClone origin
  -- Reading the name may itself be worth a record, which then comes first.
  StoreM.record (← StoreM.read (·.nameRecords .debug origin))
  let name ← StoreM.read (·.objectName origin)
  StoreM.note .debug s!"cloned {name} as {copy}"
  return copy

/-- Frees a clone; anything else stays as it is. -/
def disposeClone (call : KernelCall) : StoreM Address := do
  let address ← call.argument 0
  if ← StoreM.read fun heap => (heap.object? address).any (·.isClone) then
    Store.freeRecord .clones address
  else
    StoreM.note .warn s!"DisposeClone on {address}, which is not a clone"
  return call.acc

/-- Answers whether there is an object at an address. -/
def isObject (call : KernelCall) : StoreM Address := do
  let address ← call.argument 0
  return .ofBool (← StoreM.read (·.isObject address))

/-- Answers whether an object has a property or a method for a selector. -/
def respondsTo (call : KernelCall) : StoreM Address := do
  let object ← call.argument 0
  let selector ← call.number 1
  return .ofBool (← Store.respondsTo object selector)

/-- The address of an export of a script, the first one unless the call says which. -/
def scriptID (call : KernelCall) : StoreM Address := do
  let number ← call.number 0
  let index := ((← call.number? 1).getD 0).toNat
  -- A script that is brought into memory by this stays locked.
  let id ← Store.ensureScript call.resources number
  match (← StoreM.require (·.script id)).export? index with
  | some address => return address
  | none =>
    StoreM.note .warn s!"ScriptID: script {number} has no export {index}"
    return .null

/-- Drops a lock on a script. -/
def disposeScript (call : KernelCall) : StoreM Address := do
  let number ← call.number 0
  Store.uninstantiateScript number
  return call.acc

end KernelCall

end AdventureVm
