import AdventureVm.Memory.View

/-! Objects in memory, their properties and their names. -/

namespace AdventureVm

namespace Heap

/-- The object or clone at an address. -/
def object? (heap : Heap) (address : Address) : Option Object :=
  match heap.get? address.segment with
  | some (.script script) => script.objectAt? address.offset
  | some (.clones pool) => pool.get? address.offset.toNat
  | _ => none

/-- Changes the object or clone at an address, if there is one. -/
def modifyObject (heap : Heap) (address : Address) (change : Object → Object) : Heap :=
  heap.modify address.segment fun segment =>
    match segment with
    | .script script => .script (script.modifyObject address.offset change)
    | .clones pool => .clones (pool.modify address.offset.toNat change)
    | other => other

/-- There is an object or clone at an address. -/
def isObject (heap : Heap) (address : Address) : Bool :=
  (heap.object? address).isSome

/-- The object or clone that has to be at an address. -/
def object (heap : Heap) (address : Address) : Except Fault Object :=
  match heap.object? address with
  | some object => .ok object
  | none => .error (.notAnObject address)

/-- The value of a property. -/
def readProperty (heap : Heap) (address : Address) (index : Nat) : Except Fault Address := do
  let object ← heap.object address
  match object.property? index with
  | some value => return value
  | none => throw (.propertyOutOfRange address index object.properties.size)

/-- Replaces the value of a property. -/
def writeProperty (heap : Heap) (address : Address) (index : Nat) (value : Address) :
    Except Fault Heap := do
  let object ← heap.object address
  if index < object.properties.size then
    return heap.modifyObject address (·.setProperty index value)
  else throw (.propertyOutOfRange address index object.properties.size)

/-- The name of an object for messages. -/
def objectName (heap : Heap) (address : Address) : String :=
  match heap.object? address with
  | none => s!"<invalid {address}>"
  | some object =>
    -- A number for a name is no text, wherever it points.
    match heap.readString object.nameAddress with
    | .ok text => if object.nameAddress.isPointer then utf8Text text else s!"<obj {address}>"
    | .error _ => s!"<obj {address}>"

/-- What is recorded while the name of an object is put into a record of the given level. -/
def nameRecords (heap : Heap) (level : Level) (address : Address) : List Record :=
  match heap.object? address with
  | none => []
  | some object => (heap.stringRecords object.nameAddress).map (·.serving level)

end Heap

end AdventureVm
