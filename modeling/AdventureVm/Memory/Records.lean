import AdventureVm.Memory.Store

/-! Records in pools and blocks of dynamic memory: making them, changing them and freeing them. -/

namespace AdventureVm

/-- How the records of one type are kept in segments. -/
structure RecordKind (α : Type) where
  /-- The kind of their segments. -/
  kind : SegmentKind
  /-- The pool in a segment of that kind. -/
  pool? : Segment → Option (Pool α)
  /-- The segment that holds a pool. -/
  segment : Pool α → Segment

namespace RecordKind

/-- Clones. -/
def clones : RecordKind Object where
  kind := .clones
  pool?
    | .clones pool => some pool
    | _ => none
  segment := .clones

/-- Lists. -/
def lists : RecordKind ListEnds where
  kind := .lists
  pool?
    | .lists pool => some pool
    | _ => none
  segment := .lists

/-- Nodes. -/
def nodes : RecordKind Node where
  kind := .nodes
  pool?
    | .nodes pool => some pool
    | _ => none
  segment := .nodes

/-- Hunks. -/
def hunks : RecordKind Block where
  kind := .hunks
  pool?
    | .hunks pool => some pool
    | _ => none
  segment := .hunks

/-- Changes the pool in a segment, if it holds one of this kind. -/
def modify {α : Type} (records : RecordKind α) (change : Pool α → Pool α) (segment : Segment) :
    Segment :=
  match records.pool? segment with
  | some pool => records.segment (change pool)
  | none => segment

end RecordKind

/-- Empties a slot of a pool; a segment that is no pool stays as it is. -/
def Segment.release (segment : Segment) (index : Nat) : Segment :=
  match segment with
  | clones pool => .clones (pool.release index)
  | lists pool => .lists (pool.release index)
  | nodes pool => .nodes (pool.release index)
  | hunks pool => .hunks (pool.release index)
  | other => other

namespace Heap

/-- The list at an address. -/
def list (heap : Heap) (address : Address) : Except Fault ListEnds :=
  match heap.dereference address with
  | .ok (.list ends) => .ok ends
  | _ => .error (heap.invalid address 0)

/-- The node at an address. -/
def node (heap : Heap) (address : Address) : Except Fault Node :=
  match heap.dereference address with
  | .ok (.node node) => .ok node
  | _ => .error (heap.invalid address 0)

/-- Changes the list at an address, if there is one. -/
def modifyList (heap : Heap) (address : Address) (change : ListEnds → ListEnds) : Heap :=
  heap.modify address.segment
    (RecordKind.lists.modify fun pool => pool.modify address.offset.toNat change)

/-- Changes the node at an address, if there is one. -/
def modifyNode (heap : Heap) (address : Address) (change : Node → Node) : Heap :=
  heap.modify address.segment
    (RecordKind.nodes.modify fun pool => pool.modify address.offset.toNat change)

end Heap

namespace Store

/-- The pool that new records of a kind go into; the first record makes it. -/
def currentPool (kind : SegmentKind) : StoreM SegmentId := do
  let current ← StoreM.read (·.pools.get kind)
  -- Segment zero stands for no pool.
  if current ≠ 0 then
    return current
  let id ← allocate kind
  StoreM.change fun heap => { heap with pools := heap.pools.set kind id }
  return id

/-- Puts a new record, which may depend on its own address, into the current pool of its kind. -/
def create {α : Type} (records : RecordKind α) (make : Address → α) : StoreM Address := do
  let id ← currentPool records.kind
  -- The record may hold its own address, so the slot is chosen first.
  let slot ← StoreM.read fun heap => ((heap.get? id).bind records.pool?).map Pool.next?
  match slot with
  | none => throw (.invalidAddress ⟨id, 0⟩ none 0)
  | some none => throw (.outOfMemory 1 s!"{records.kind.name} pool full")
  | some (some index) =>
    let address : Address := ⟨id, UInt16.ofNat index⟩
    StoreM.change fun heap =>
      heap.modify id (records.modify fun pool => pool.occupy (make address))
    return address

/-- Makes a clone of the object at an address. -/
def createClone (origin : Address) : StoreM Address := do
  let object ← StoreM.require (·.object origin)
  create .clones object.cloneAt

/-- Makes a list without nodes. -/
def createList : StoreM Address :=
  create .lists fun _ => {}

/-- Makes a node that is in no list. -/
def createNode (value key : Address) : StoreM Address :=
  create .nodes fun _ => { value, key }

/-- Makes a block of zero bytes in the pool of hunks. -/
def createHunk (size : Nat) (description : String) : StoreM Address :=
  create .hunks fun _ => .zeros size description

/-- Makes a block of zero bytes in a segment of its own; it cannot be empty. -/
def createDynmem (size : Nat) (description : String) : StoreM Address := do
  if size = 0 ∨ size ≥ segmentLimit then
    throw (.outOfMemory size s!"dynamic memory '{description}'")
  let id ← insert (.dynmem (.zeros size description))
  return ⟨id, 0⟩

/-- Frees a record of a kind. -/
def freeRecord (kind : SegmentKind) (address : Address) : StoreM Unit := do
  -- A slot that is empty already must not be listed as empty again.
  let present ← StoreM.read fun heap =>
    kind.isPool && heap.kind? address.segment == some kind && heap.isValidAddress address
  if present then
    StoreM.change (·.modify address.segment (·.release address.offset.toNat))
  else
    throw (← StoreM.read (·.invalid address 0))

/-- Frees a block of dynamic memory, given the address of its first byte. -/
def freeDynmem (address : Address) : StoreM Unit := do
  if (← StoreM.read (·.kind? address.segment)) = some .dynmem ∧ address.offset = 0 then
    free address.segment
  else
    throw (← StoreM.read (·.invalid address 0))

/-- Frees the record or the script at an address. -/
def freeAt (address : Address) : StoreM Unit := do
  match ← StoreM.read (·.kind? address.segment) with
  | some .script => free address.segment
  | some kind =>
    if kind.isPool then freeRecord kind address
    else throw (← StoreM.read (·.invalid address 0))
  | none => throw (← StoreM.read (·.invalid address 0))

/-- Stores a value at an address. -/
def writeValue (address value : Address) : StoreM Unit := do
  StoreM.record (← StoreM.read (·.writeRecords address value))
  StoreM.attempt (·.writeValue address value)

/-- The text at an address, with a warning when no zero ends it. -/
def readString (address : Address) : StoreM Bytes := do
  StoreM.record (← StoreM.read (·.stringRecords address))
  StoreM.require (·.readString address)

end Store

end AdventureVm
