import AdventureVm.ClassTable
import AdventureVm.Fault
import AdventureVm.Memory.Segment

/-! The memory of the machine: its segments, and which of them hold what. -/

namespace AdventureVm

/-- The pools that new records are put into; zero where there is none yet. -/
structure CurrentPools where
  /-- The segment of new clones. -/
  clones : SegmentId := 0
  /-- The segment of new lists. -/
  lists : SegmentId := 0
  /-- The segment of new nodes. -/
  nodes : SegmentId := 0
  /-- The segment of new hunks. -/
  hunks : SegmentId := 0
deriving Repr, DecidableEq, Inhabited

namespace CurrentPools

/-- The current pool of a kind; segments that are no pools have none. -/
def get (pools : CurrentPools) : SegmentKind → SegmentId
  | .clones => pools.clones
  | .lists => pools.lists
  | .nodes => pools.nodes
  | .hunks => pools.hunks
  | _ => 0

/-- Makes a segment the current pool of its kind. -/
def set (pools : CurrentPools) (kind : SegmentKind) (id : SegmentId) : CurrentPools :=
  match kind with
  | .clones => { pools with clones := id }
  | .lists => { pools with lists := id }
  | .nodes => { pools with nodes := id }
  | .hunks => { pools with hunks := id }
  | _ => pools

end CurrentPools

/-- The whole memory. -/
structure Heap where
  /-- The format of the game's scripts. -/
  version : Version
  /-- The segments by number; the first place stays empty, because segment zero means a number. -/
  segments : Array (Option Segment) := #[none]
  /-- The segments of the scripts in memory, by script number. -/
  residents : List (UInt16 × SegmentId) := []
  /-- The known classes. -/
  classes : ClassTable := {}
  /-- The pools that new records are put into. -/
  pools : CurrentPools := {}
deriving Repr, Inhabited

/-- The number of things in memory, by kind. -/
structure HeapStats where
  /-- All segments. -/
  segments : Nat := 0
  /-- Scripts. -/
  scripts : Nat := 0
  /-- Clones. -/
  clones : Nat := 0
  /-- Lists. -/
  lists : Nat := 0
  /-- Nodes. -/
  nodes : Nat := 0
  /-- Hunks. -/
  hunks : Nat := 0
  /-- The bytes of the blocks that scripts asked for. -/
  dynmemBytes : Nat := 0
deriving Repr, DecidableEq, Inhabited

namespace Heap

/-- The segment with a number. -/
def get? (heap : Heap) (id : SegmentId) : Option Segment :=
  heap.segments[id.toNat]?.join

/-- What the segment with a number holds. -/
def kind? (heap : Heap) (id : SegmentId) : Option SegmentKind :=
  (heap.get? id).map Segment.kind

/-- There is a segment with this number. -/
def isLive (heap : Heap) (id : SegmentId) : Bool :=
  (heap.get? id).isSome

/-- Puts a segment into a place, or empties it. -/
def put (heap : Heap) (id : SegmentId) (segment : Option Segment) : Heap :=
  { heap with segments := heap.segments.setIfInBounds id.toNat segment }

/-- A segment is found where it was put. -/
theorem get?_put_self {heap : Heap} {id : SegmentId} (segment : Option Segment)
    (inside : id.toNat < heap.segments.size) : (heap.put id segment).get? id = segment := by
  -- The place exists, so it now holds the segment.
  simp [get?, put, inside]

/-- Putting a segment into a place leaves the other places alone. -/
theorem get?_put_of_ne {heap : Heap} {id other : SegmentId} (segment : Option Segment)
    (different : other ≠ id) : (heap.put id segment).get? other = heap.get? other := by
  -- Different numbers are different places.
  have apart : id.toNat ≠ other.toNat := fun same => different (UInt16.toNat_inj.mp same.symm)
  simp [get?, put, apart]

/-- Changes a segment, if there is one with this number. -/
def modify (heap : Heap) (id : SegmentId) (change : Segment → Segment) : Heap :=
  { heap with segments := heap.segments.modify id.toNat (Option.map change) }

/-- The number of segments. -/
def liveCount (heap : Heap) : Nat :=
  heap.segments.countP Option.isSome

/-- The numbers of the segments in increasing order. -/
def segmentIds (heap : Heap) : List SegmentId :=
  -- Place zero is left out, since its number is that of plain numbers.
  ((List.range heap.segments.size).filter fun id => id ≠ 0 && heap.segments[id]?.join.isSome).map
    UInt16.ofNat

/-- The first segment of a kind. -/
def findKind? (heap : Heap) (kind : SegmentKind) : Option SegmentId :=
  heap.segmentIds.find? fun id => heap.kind? id == some kind

/-- Something is at the address. -/
def isValidAddress (heap : Heap) (address : Address) : Bool :=
  (heap.get? address.segment).any (·.isValidOffset address.offset)

/-- The failure to find a segment of the wanted kind. -/
def wrongSegment (heap : Heap) (id : SegmentId) : Fault :=
  .invalidAddress ⟨id, 0⟩ (heap.kind? id) 0

/-- The stack with a number. -/
def stack (heap : Heap) (id : SegmentId) : Except Fault (Array Address) :=
  match heap.get? id with
  | some (.stack slots) => .ok slots
  | _ => .error (heap.wrongSegment id)

/-- Stores a value into a slot of a stack, if there is such a slot. -/
def setStackSlot (heap : Heap) (id : SegmentId) (index : Nat) (value : Address) : Heap :=
  heap.modify id fun segment =>
    match segment with
    | .stack slots => .stack (slots.setIfInBounds index value)
    | other => other

/-- The scratch texts with a number. -/
def systemStrings (heap : Heap) (id : SegmentId) : Except Fault ScratchTexts :=
  match heap.get? id with
  | some (.systemStrings texts) => .ok texts
  | _ => .error (heap.wrongSegment id)

/-- Replaces a scratch text, if there is one at that position. -/
def setSystemString (heap : Heap) (id : SegmentId) (index : Nat) (value : Bytes) : Heap :=
  heap.modify id fun segment =>
    match segment with
    | .systemStrings texts => .systemStrings (texts.modify index (·.set value))
    | other => other

/-- The script in a segment. -/
def script (heap : Heap) (id : SegmentId) : Except Fault Script :=
  match heap.get? id with
  | some (.script script) => .ok script
  | _ => .error (heap.wrongSegment id)

/-- Changes the script in a segment, if there is one. -/
def modifyScript (heap : Heap) (id : SegmentId) (change : Script → Script) : Heap :=
  heap.modify id fun segment =>
    match segment with
    | .script script => .script (change script)
    | other => other

/-- The local variables in a segment. -/
def locals (heap : Heap) (id : SegmentId) : Except Fault LocalsTable :=
  match heap.get? id with
  | some (.locals table) => .ok table
  | _ => .error (heap.wrongSegment id)

/-- Stores a value into a local variable, if there is such a variable. -/
def setLocal (heap : Heap) (id : SegmentId) (index : Nat) (value : Address) : Heap :=
  heap.modify id fun segment =>
    match segment with
    | .locals table => .locals { table with values := table.values.setIfInBounds index value }
    | other => other

/-- The segment of a script that is in memory. -/
def scriptSegment? (heap : Heap) (number : UInt16) : Option SegmentId :=
  heap.residents.lookup number

/-- A script that is in memory. -/
def scriptByNumber? (heap : Heap) (number : UInt16) : Option Script :=
  (heap.scriptSegment? number).bind fun id => (heap.script id).toOption

/-- The segment of the global variables, which are the local variables of one script. -/
def globalsSegment? (heap : Heap) : Option SegmentId :=
  (heap.scriptByNumber? globalsScript).bind fun script =>
    -- A script without variables has no segment for them.
    if script.localsSegment = 0 then none else some script.localsSegment

/-- A segment that a script in memory is said to be in, whether it is there or not. -/
def isReserved (heap : Heap) (id : SegmentId) : Bool :=
  heap.residents.any (·.2 == id)

/-- Counts what is in a segment. -/
def countSegment (stats : HeapStats) (segment : Segment) : HeapStats :=
  let stats := { stats with segments := stats.segments + 1 }
  match segment with
  | .script _ => { stats with scripts := stats.scripts + 1 }
  | .clones pool => { stats with clones := stats.clones + pool.used }
  | .lists pool => { stats with lists := stats.lists + pool.used }
  | .nodes pool => { stats with nodes := stats.nodes + pool.used }
  | .hunks pool => { stats with hunks := stats.hunks + pool.used }
  | .dynmem block => { stats with dynmemBytes := stats.dynmemBytes + block.size }
  | _ => stats

/-- Counts what is in memory. -/
def stats (heap : Heap) : HeapStats :=
  (heap.segmentIds.filterMap heap.get?).foldl countSegment {}

end Heap

end AdventureVm
