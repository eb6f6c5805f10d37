import AdventureVm.Logged
import AdventureVm.Memory.Objects

/-! Memory together with its journal, and giving out and taking back segments. -/

namespace AdventureVm

/-- The memory and the journal of what was done to it. -/
structure Store where
  /-- The memory. -/
  heap : Heap
  /-- What was recorded. -/
  journal : Journal := #[]
deriving Repr, Inhabited

namespace Store

/-- Adds a record. -/
def note (store : Store) (level : Level) (text : String) : Store :=
  { store with journal := store.journal.push (.plain level text) }

/-- Adds records. -/
def record (store : Store) (records : List Record) : Store :=
  { store with journal := store.journal ++ records }

/-- Changes the memory. -/
def mapHeap (store : Store) (change : Heap → Heap) : Store :=
  { store with heap := change store.heap }

end Store

/-- Work on memory that may fail; what was done before a failure stays done. -/
abbrev StoreM := ExceptT Fault (StateM Store)

namespace StoreM

/-- Adds a record. -/
def note (level : Level) (text : String) : StoreM Unit :=
  modify fun store => store.note level text

/-- Adds records. -/
def record (records : List Record) : StoreM Unit :=
  modify fun store => store.record records

/-- Reads from memory. -/
def read {α : Type} (query : Heap → α) : StoreM α := do
  return query (← get).heap

/-- Reads from memory what may not be there. -/
def require {α : Type} (query : Heap → Except Fault α) : StoreM α := do
  match query (← get).heap with
  | .ok value => return value
  | .error fault => throw fault

/-- Reads from memory what may not be there, and keeps the records of the search. -/
def noted {α : Type} (query : Heap → Except Fault (α × List Record)) : StoreM α := do
  let (value, records) ← require query
  record records
  return value

/-- Changes memory. -/
def change (step : Heap → Heap) : StoreM Unit :=
  modify fun store => store.mapHeap step

/-- Changes memory, or leaves it as it is and fails. -/
def attempt (step : Heap → Except Fault Heap) : StoreM Unit := do
  match step (← get).heap with
  | .ok heap => change fun _ => heap
  | .error fault => throw fault

/-- Runs work that only keeps a journal. -/
def ofLogged {α : Type} (work : Logged α) : StoreM α := do
  let store ← get
  let (result, journal) := work.run store.journal
  set { store with journal }
  match result with
  | .ok value => return value
  | .error fault => throw fault

/-- Does work and answers how it ended, without failing itself. -/
def outcome {α : Type} (work : StoreM α) : StoreM (Except Fault α) :=
  ExceptT.lift work.run

end StoreM

namespace Heap

/-- The first place that is empty and that no script in memory is said to be in. -/
def vacancy? (heap : Heap) : Option SegmentId :=
  (((List.range heap.segments.size).map UInt16.ofNat).find? fun id =>
    id != 0 && !heap.isLive id && !heap.isReserved id)

/-- The place that the next segment takes; a full table has none. -/
def nextId? (heap : Heap) : Option SegmentId :=
  match heap.vacancy? with
  | some id => some id
  | none =>
    if heap.segments.size < segmentLimit then some (UInt16.ofNat heap.segments.size) else none

/-- Puts a new segment into a place, which may be the one right after the last. -/
def insert (heap : Heap) (id : SegmentId) (segment : Segment) : Heap :=
  if id.toNat < heap.segments.size then heap.put id (some segment)
  else { heap with segments := heap.segments.push (some segment) }

end Heap

namespace Store

/-- Puts a new segment into memory and answers its number. -/
def insert (segment : Segment) : StoreM SegmentId := do
  match ← StoreM.read Heap.nextId? with
  | none => throw (.outOfMemory 1 s!"segment table full allocating {segment.kind.name}")
  | some id =>
    -- The first empty place is used again before the table grows.
    StoreM.note .debug s!"allocated {segment.kind.name} segment {id}"
    StoreM.change (·.insert id segment)
    return id

/-- Puts an empty segment of a kind into memory. -/
def allocate (kind : SegmentKind) : StoreM SegmentId :=
  insert (.empty kind)

/-- Puts a stack with so many slots into memory. -/
def allocateStack (size : Nat) : StoreM SegmentId :=
  insert (.stack (Array.replicate size .null))

/-- Puts the scratch texts into memory. -/
def allocateSystemStrings : StoreM SegmentId :=
  insert (.systemStrings .fresh)

end Store

namespace Heap

/-- Forgets that a script is in a segment. -/
def forgetScript (heap : Heap) (number : UInt16) (id : SegmentId) : Heap :=
  let residents :=
    if heap.scriptSegment? number = some id then heap.residents.filter (·.1 != number)
    else heap.residents
  { heap with residents, classes := heap.classes.forget id }

/-- Forgets that a segment is the current pool of its kind. -/
def forgetPool (heap : Heap) (kind : SegmentKind) (id : SegmentId) : Heap :=
  if heap.pools.get kind = id then { heap with pools := heap.pools.set kind 0 } else heap

/-- Emptying an occupied place leaves one segment less. -/
theorem liveCount_put_none {heap : Heap} {id : SegmentId} {segment : Segment}
    (found : heap.get? id = some segment) : (heap.put id none).liveCount < heap.liveCount := by
  -- The place exists and is counted before, and not after.
  have inside : id.toNat < heap.segments.size := by
    by_cases inside : id.toNat < heap.segments.size
    · exact inside
    · simp [get?, Array.getElem?_eq_none (Nat.le_of_not_lt inside)] at found
  have occupied : heap.segments[id.toNat] = some segment := by
    simpa [get?, Array.getElem?_eq_getElem inside] using found
  have counted : 0 < heap.segments.countP Option.isSome := by
    apply Array.countP_pos_iff.mpr
    exact ⟨some segment, occupied ▸ Array.getElem_mem inside, rfl⟩
  simp only [liveCount, put, Array.setIfInBounds, inside, dif_pos, Array.countP_set, occupied,
    Option.isSome_some, Option.isSome_none, if_true, Bool.false_eq_true, if_false, Nat.add_zero]
  exact Nat.sub_lt counted Nat.one_pos

end Heap

namespace Store

/--
Takes a segment out of memory; a script takes the segment of its local variables with it.

When the local variables cannot be taken out, the script is gone all the same, but it still counts
as resident.
-/
def deallocate (store : Store) (id : SegmentId) : Except Fault Unit × Store :=
  match _occupied : store.heap.get? id with
  | none => (.error (.invalidAddress ⟨id, 0⟩ none 0), store)
  | some segment =>
    let emptied : Store :=
      { heap := store.heap.put id none
        journal := store.journal.push
          (.plain .debug s!"freeing {segment.kind.name} segment {id}") }
    match segment with
    | .script script =>
      if script.localsSegment = 0 then
        (.ok (), emptied.mapHeap (·.forgetScript script.number id))
      else
        -- The script is out of its place already, so this comes to an end even on a cycle.
        match emptied.deallocate script.localsSegment with
        | (.ok (), store) => (.ok (), store.mapHeap (·.forgetScript script.number id))
        | (.error fault, store) => (.error fault, store)
    | other =>
      if other.kind.isPool then (.ok (), emptied.mapHeap (·.forgetPool other.kind id))
      else (.ok (), emptied)
termination_by store.heap.liveCount
decreasing_by exact Heap.liveCount_put_none _occupied

/-- Takes a segment out of memory, as a step of larger work. -/
def free (id : SegmentId) : StoreM Unit :=
  fun store => store.deallocate id

end Store

end AdventureVm
