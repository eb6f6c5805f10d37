import AdventureVm.Machine.Context
import AdventureVm.Memory.Records

/-! What the collector keeps track of, where it starts and where references lead. -/

namespace AdventureVm

namespace Heap

/--
The address under which the thing that an address belongs to is kept track of.

Local variables belong to their script, a record of a pool stands for itself, and anything else is
one thing with its whole segment.
-/
def canonical? (heap : Heap) (address : Address) : Option Address :=
  match heap.get? address.segment with
  | none => none
  | some (.locals table) => (heap.scriptSegment? table.script).map fun owner => ⟨owner, 0⟩
  | some segment => some ⟨address.segment, segment.canonicalOffset address.offset⟩

/-- The address of a whole segment that is no pool. -/
def isWholeSegment (heap : Heap) (address : Address) : Bool :=
  address.offset == 0 && (heap.kind? address.segment).any (!·.isPool)

/-- There is something at a canonical address. -/
def isEntity (heap : Heap) (address : Address) : Bool :=
  heap.isValidAddress address || heap.isWholeSegment address

/-- The canonical addresses of everything in a segment. -/
def entitiesIn (id : SegmentId) (segment : Segment) : List Address :=
  let slots (indices : List Nat) : List Address := indices.map fun index => ⟨id, UInt16.ofNat index⟩
  match segment with
  | .clones pool => slots pool.liveIndices
  | .lists pool => slots pool.liveIndices
  | .nodes pool => slots pool.liveIndices
  | .hunks pool => slots pool.liveIndices
  | _ => [⟨id, 0⟩]

/-- The canonical addresses of everything in memory. -/
def entities (heap : Heap) : List Address :=
  heap.segmentIds.flatMap fun id => (heap.get? id).elim [] (entitiesIn id)

/-- The values that the thing at a canonical address holds. -/
def contents (heap : Heap) (address : Address) : List Address :=
  let slot := address.offset.toNat
  match heap.get? address.segment with
  | some (.script script) =>
    -- The local variables of a script count as part of it.
    script.objects.toList.flatMap (·.properties.toList) ++
      (heap.locals script.localsSegment).toOption.elim [] (·.values.toList)
  | some (.locals table) => table.values.toList
  | some (.stack slots) => slots.toList
  | some (.clones pool) =>
    (pool.get? slot).elim [] fun clone => clone.properties.toList ++ clone.origin.toList
  | some (.lists pool) => (pool.get? slot).elim [] fun ends => [ends.first, ends.last]
  | some (.nodes pool) =>
    (pool.get? slot).elim [] fun node => [node.pred, node.succ, node.key, node.value]
  | _ => []

/-- The references that the thing at a canonical address holds. -/
def references (heap : Heap) (address : Address) : List Address :=
  (heap.contents address).filter (·.isPointer)

/-- The things in a segment that the collector may free: records, and scripts nobody wants. -/
def deallocatableIn (id : SegmentId) (segment : Segment) : List Address :=
  match segment with
  | .script script => if script.markedDeleted && script.lockers == 0 then [⟨id, 0⟩] else []
  | _ => if segment.kind.isPool then entitiesIn id segment else []

/-- The things that the collector may free. -/
def deallocatable (heap : Heap) : List Address :=
  heap.segmentIds.flatMap fun id => (heap.get? id).elim [] (deallocatableIn id)

/-- The scripts that somebody uses. -/
def lockedScripts (heap : Heap) : List SegmentId :=
  heap.segmentIds.filter fun id => (heap.script id).toOption.any (·.lockers > 0)

/-- What a frame holds on to. -/
def frameRoots (frame : Frame) : List Address :=
  [frame.objp, frame.sendp] ++
    (if frame.pc.isPointer then [⟨frame.pc.segment, 0⟩] else []) ++
    (if frame.locals = 0 then [] else [⟨frame.locals, 0⟩])

/-- Everything that running code and locked scripts can refer to directly. -/
def roots (heap : Heap) (context : Context) : List Address :=
  -- Slots above the stack pointer are left over from calls that have ended.
  let live := (heap.stack context.stackSegment).toOption.elim [] fun slots =>
    slots.toList.take context.stackTop
  ([context.acc, context.prev] ++ live ++ context.frames.list.reverse.flatMap frameRoots ++
    heap.globalsSegment?.toList.map (Address.mk · 0) ++
    heap.lockedScripts.map (Address.mk · 0)).filter
      (·.isPointer)

end Heap

end AdventureVm
