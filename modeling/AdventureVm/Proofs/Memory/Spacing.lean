import AdventureVm.Collector.Sweep
import AdventureVm.Memory.Lookup
import AdventureVm.Proofs.Memory.Loading

/-!
An empty place at the end of the table of segments.

Nobody who asks about memory can tell whether it is there, and the next segment goes to the same
place with it as without it.
-/

namespace AdventureVm

namespace Heap

/-- The same memory with one more empty place at the end of the table. -/
def spaced (heap : Heap) : Heap :=
  { heap with segments := heap.segments.push none }

/-- The table does not outgrow its numbers, and resident scripts are in places of the table. -/
structure Framed (heap : Heap) : Prop where
  opened : 0 < heap.segments.size
  bounded : heap.segments.size ≤ segmentLimit
  resident : ∀ number id, (number, id) ∈ heap.residents → id.toNat < heap.segments.size

variable {heap : Heap} {id : SegmentId}

section Tables

/-- Each place holds what it held, and the new one holds nothing. -/
@[simp] theorem get?_spaced : heap.spaced.get? id = heap.get? id := by
  simp only [get?, spaced, Array.getElem?_push]
  -- Only the number of the new place needs a look: it was beyond the table before.
  split
  · rename_i last
    rw [last, Array.getElem?_size]
    rfl
  · rfl

/-- The same scripts are resident. -/
@[simp] theorem residents_spaced : heap.spaced.residents = heap.residents := rfl

/-- The same classes are known. -/
@[simp] theorem classes_spaced : heap.spaced.classes = heap.classes := rfl

/-- The format is the same. -/
@[simp] theorem version_spaced : heap.spaced.version = heap.version := rfl

/-- The table has one place more. -/
@[simp] theorem size_spaced : heap.spaced.segments.size = heap.segments.size + 1 := by
  simp [spaced]

/-- The empty place is not among those of the segments. -/
@[simp] theorem segmentIds_spaced : heap.spaced.segmentIds = heap.segmentIds := by
  -- The last number is passed over, because nothing is in its place.
  have others : ∀ place ∈ List.range heap.segments.size,
      (place ≠ 0 && (heap.segments.push none)[place]?.join.isSome) =
        (place ≠ 0 && heap.segments[place]?.join.isSome) := by
    intro place inside
    rw [List.mem_range] at inside
    rw [Array.getElem?_push_lt inside, Array.getElem?_eq_getElem inside]
  simp only [segmentIds, size_spaced, List.range_succ, List.filter_append, List.map_append]
  simp only [spaced, List.filter_congr others]
  simp

end Tables

section Places

/-- Memory without the empty place gives out the number that the empty place has. -/
theorem nextId?_spaced (framed : heap.Framed) (room : heap.segments.size < segmentLimit) :
    heap.spaced.nextId? = heap.nextId? := by
  have number : (UInt16.ofNat heap.segments.size).toNat = heap.segments.size :=
    toNat_ofNat_of_lt room
  -- The empty place can be taken, because nobody is said to be there.
  have positive : UInt16.ofNat heap.segments.size ≠ 0 := by
    intro same
    have size := framed.opened
    rw [← number, same] at size
    exact absurd size (by decide)
  have empty : heap.get? (UInt16.ofNat heap.segments.size) = none := by
    simp [get?, number]
  have unreserved : heap.isReserved (UInt16.ofNat heap.segments.size) = false := by
    rw [isReserved, List.any_eq_false]
    intro entry member same
    have inside := framed.resident entry.1 entry.2 member
    rw [eq_of_beq same, number] at inside
    omega
  -- It comes last in the search, so it is taken only when there is no other.
  have vacancy : heap.spaced.vacancy? =
      heap.vacancy?.or (some (UInt16.ofNat heap.segments.size)) := by
    simp only [vacancy?, size_spaced, List.range_succ, List.map_append, List.find?_append, isLive,
      isReserved, get?_spaced, residents_spaced, List.map_cons, List.map_nil]
    congr 1
    rw [isReserved] at unreserved
    simp [empty, unreserved, positive]
  rw [nextId?, vacancy]
  conv_rhs => rw [nextId?]
  cases heap.vacancy? with
  | some id => rfl
  | none => simp [room]

/-- A place of the table is changed in the same way with the empty place behind it. -/
theorem put_spaced (inside : id.toNat < heap.segments.size) (contents : Option Segment) :
    heap.spaced.put id contents = (heap.put id contents).spaced := by
  -- The place is before the one that was added at the end.
  simp only [put, spaced, Heap.mk.injEq, true_and, and_true]
  simp only [Array.setIfInBounds, Array.size_push, inside, Nat.lt_succ_of_lt inside, dif_pos,
    Array.set_push]

/-- Changing what is in a place leaves the empty place empty. -/
theorem modify_spaced (change : Segment → Segment) :
    heap.spaced.modify id change = (heap.modify id change).spaced := by
  simp only [modify, spaced, Heap.mk.injEq, true_and, and_true]
  apply Array.ext_getElem?
  intro place
  simp only [Array.getElem?_modify, Array.getElem?_push, Array.size_modify]
  -- The new place is changed from nothing to nothing.
  by_cases last : place = heap.segments.size
  · simp [last]
  · simp [last]

/-- A new segment is in a place of the table. -/
theorem inside_insert (atEnd : id.toNat ≤ heap.segments.size) (segment : Segment) :
    id.toNat < (heap.insert id segment).segments.size := by
  -- The table grows by the new place, or has it already.
  unfold insert
  split
  · simpa [put]
  · simpa using Nat.lt_succ_of_le atEnd

/-- A new segment makes up for the empty place, or it goes to the same place before it. -/
theorem insert_spaced (segment : Segment) (framed : heap.Framed) (next : heap.nextId? = some id) :
    heap.spaced.insert id segment = heap.insert id segment ∨
      (heap.insert id segment).segments.size = heap.segments.size ∧
        heap.spaced.insert id segment = (heap.insert id segment).spaced := by
  obtain ⟨atEnd, _, _, _⟩ := nextId?_spec framed.opened next
  -- A place before the end is a place of both tables; else the new segment is the last of both.
  by_cases inside : id.toNat < heap.segments.size
  · right
    simp only [insert, inside, size_spaced, Nat.lt_succ_of_lt inside, if_true]
    exact ⟨by simp [put], put_spaced inside _⟩
  · left
    have last : id.toNat = heap.segments.size := by omega
    simp [insert, last, put, spaced, Array.setIfInBounds, Array.set_push]

/-- Giving up the next place right after it was taken leaves an empty place at most. -/
theorem vacated_or_spaced (segment : Segment) (framed : heap.Framed)
    (next : heap.nextId? = some id) :
    (heap.insert id segment).put id none = heap ∨
      heap.segments.size < segmentLimit ∧
        (heap.insert id segment).put id none = heap.spaced := by
  obtain ⟨atEnd, small, empty, _⟩ := nextId?_spec framed.opened next
  -- The table has grown only if there was no empty place before its end.
  by_cases inside : id.toNat < heap.segments.size
  · left
    have vacant : heap.segments[id.toNat] = none := by
      simpa [get?, inside] using empty
    simp only [insert, inside, if_true, put, Array.setIfInBounds, dif_pos, Array.size_set,
      Array.set_set]
    rw [← vacant, Array.set_getElem_self]
  · right
    have last : id.toNat = heap.segments.size := by omega
    refine ⟨by omega, ?_⟩
    simp [insert, last, put, spaced, Array.setIfInBounds, Array.set_push]

end Places

section Answers

variable {address : Address}

/-- Each place holds the same kind of segment. -/
@[simp] theorem kind?_spaced : heap.spaced.kind? id = heap.kind? id := by
  simp [kind?]

/-- Each stack is the same. -/
@[simp] theorem stack_spaced : heap.spaced.stack id = heap.stack id := by
  simp [stack, wrongSegment]

/-- Each script is the same. -/
@[simp] theorem script_spaced : heap.spaced.script id = heap.script id := by
  simp [script, wrongSegment]

/-- Local variables are the same. -/
@[simp] theorem locals_spaced : heap.spaced.locals id = heap.locals id := by
  simp [locals, wrongSegment]

/-- Each script is resident in the same place. -/
@[simp] theorem scriptSegment?_spaced {number : UInt16} :
    heap.spaced.scriptSegment? number = heap.scriptSegment? number := rfl

/-- A script is found under the same number. -/
@[simp] theorem scriptByNumber?_spaced {number : UInt16} :
    heap.spaced.scriptByNumber? number = heap.scriptByNumber? number := by
  simp [scriptByNumber?]

/-- The global variables are in the same place. -/
@[simp] theorem globalsSegment?_spaced : heap.spaced.globalsSegment? = heap.globalsSegment? := by
  simp [globalsSegment?]

/-- The same addresses lead to something. -/
@[simp] theorem isValidAddress_spaced :
    heap.spaced.isValidAddress address = heap.isValidAddress address := by
  simp [isValidAddress]

/-- The failure to find something at an address says the same. -/
@[simp] theorem invalid_spaced {requested : Nat} :
    heap.spaced.invalid address requested = heap.invalid address requested := by
  simp [invalid]

/-- Each address leads to the same. -/
@[simp] theorem dereference_spaced :
    heap.spaced.dereference address = heap.dereference address := by
  simp [dereference]

/-- Texts are looked for in the same bytes. -/
@[simp] theorem textRegion_spaced : heap.spaced.textRegion address = heap.textRegion address := by
  simp [textRegion]

/-- The same texts are found. -/
@[simp] theorem readString_spaced : heap.spaced.readString address = heap.readString address := by
  simp [readString]

/-- There are the same warnings about texts. -/
@[simp] theorem stringRecords_spaced :
    heap.spaced.stringRecords address = heap.stringRecords address := by
  simp [stringRecords]

/-- The same objects are at the same addresses. -/
@[simp] theorem object?_spaced : heap.spaced.object? = heap.object? := by
  funext address
  simp [object?]

/-- The same objects are found, or missed. -/
@[simp] theorem object_spaced : heap.spaced.object address = heap.object address := by
  simp [object]

/-- Objects have the same names. -/
@[simp] theorem objectName_spaced : heap.spaced.objectName address = heap.objectName address := by
  simp [objectName]

/-- The search asks the same objects. -/
theorem search_spaced (receiver : Address) (selector : UInt16) (limit : Nat) (current : Address) :
    heap.spaced.search receiver selector limit current =
      heap.search receiver selector limit current := by
  -- The search moves from object to object, so the current one stays quantified over.
  induction limit generalizing current with
  | zero => rfl
  | succ limit ih => simp [search, propertySelectors?, nameRecords, ih]

/-- Addresses belong to the same things. -/
@[simp] theorem canonical?_spaced : heap.spaced.canonical? address = heap.canonical? address := by
  simp [canonical?]

/-- The same things are there. -/
@[simp] theorem isEntity_spaced : heap.spaced.isEntity = heap.isEntity := by
  funext address
  simp [isEntity, isWholeSegment]

/-- References lead to the same things. -/
@[simp] theorem target?_spaced : heap.spaced.target? address = heap.target? address := by
  simp [target?]

/-- Things hold the same references. -/
@[simp] theorem references_spaced : heap.spaced.references address = heap.references address := by
  simp [references, contents]

/-- The collector keeps track of the same things. -/
@[simp] theorem entities_spaced : heap.spaced.entities = heap.entities := by
  simp [entities]

/-- The collector starts from the same references. -/
@[simp] theorem roots_spaced {context : Context} :
    heap.spaced.roots context = heap.roots context := by
  simp [roots, lockedScripts]

/-- The collector may free the same things. -/
@[simp] theorem deallocatable_spaced : heap.spaced.deallocatable = heap.deallocatable := by
  simp [deallocatable]

/-- The same references are followed, oldest first. -/
theorem mark_spaced (work : Worklist) (marking : Marking) :
    heap.spaced.mark work marking = heap.mark work marking := by
  -- Each reference leads to the same thing in both, so each step is the same.
  fun_induction mark heap work marking with
  | case1 work marking taken =>
    rw [mark, taken]
  | case2 work marking address rest taken lost ih =>
    rw [mark, taken]
    simp [lost, ih]
  | case3 work marking address rest taken entity found new ih =>
    rw [mark, taken]
    simp [found, new, ih]
  | case4 work marking address rest taken entity found old ih =>
    rw [mark, taken]
    simp [found, old, ih]

end Answers

end Heap

end AdventureVm
