import AdventureVm.Memory.Residency
import Mathlib.Data.List.Nodup
import Mathlib.Data.List.Dedup
import Mathlib.Data.List.Perm.Subperm

/-! The places of memory: which of them an operation changes, and which one comes next. -/

namespace AdventureVm

/-- A number below the limit of a segment is the number of a word. -/
theorem toNat_ofNat_of_lt {value : Nat} (small : value < segmentLimit) :
    (UInt16.ofNat value).toNat = value := by
  -- The limit is the number of words.
  simp only [segmentLimit] at small
  simp [Nat.mod_eq_of_lt small]

/-- There are no more different words than a segment has places. -/
theorem length_le_of_nodup {words : List UInt16} (distinct : words.Nodup) :
    words.length ≤ segmentLimit := by
  -- Different words have different places below the limit.
  have places : (words.map UInt16.toNat).Nodup := distinct.map fun _ _ => UInt16.toNat_inj.mp
  have inside : words.map UInt16.toNat ⊆ List.range segmentLimit := by
    intro place member
    obtain ⟨word, _, rfl⟩ := List.mem_map.mp member
    exact List.mem_range.mpr word.toNat_lt
  simpa using (places.subperm inside).length_le

namespace Heap

variable {heap : Heap} {id other : SegmentId} {segment : Segment}

/-- A place that holds a segment lies inside the table. -/
theorem inside_of_get? (found : heap.get? id = some segment) :
    id.toNat < heap.segments.size := by
  -- Outside the table there is nothing to find.
  by_cases inside : id.toNat < heap.segments.size
  · exact inside
  · simp [get?, Array.getElem?_eq_none (Nat.le_of_not_lt inside)] at found

/-- A script that has to be in a place is found if it is there. -/
theorem script_eq_ok {script : Script} :
    heap.script id = .ok script ↔ heap.get? id = some (.script script) := by
  -- Other segments and empty places give a failure.
  unfold Heap.script
  split
  · rename_i contents present
    rw [present]
    simp
  · rename_i absent
    simp only [reduceCtorEq, false_iff]
    exact absent script

/-- After something was put into an occupied place, it is there, and all else is where it was. -/
theorem get?_put (found : heap.get? id = some segment) (contents : Option Segment) :
    (heap.put id contents).get? other = if other = id then contents else heap.get? other := by
  -- The place exists because it was occupied.
  split
  · rename_i same
    subst same
    exact get?_put_self contents (inside_of_get? found)
  · rename_i different
    exact get?_put_of_ne contents different

/-- A segment is still in its place after something took the place of another one. -/
theorem get?_put_of_apart {old : Segment} (found : heap.get? id = some old)
    (present : heap.get? other = some segment) (apart : segment ≠ old)
    (contents : Option Segment) : (heap.put id contents).get? other = some segment := by
  -- The place is another one, since another segment is in it.
  rw [get?_put found, if_neg, present]
  rintro rfl
  exact apart (Option.some.inj (present.symm.trans found))

/-- A segment is still in its place after a change, or it is the one that was replaced. -/
theorem get?_put_of_some {old : Segment} (found : heap.get? id = some old)
    (present : heap.get? other = some segment) (new : Segment) :
    (heap.put id (some new)).get? other = some segment ∨
      segment = old ∧ (heap.put id (some new)).get? other = some new := by
  -- By whether the segment was in the place that changed.
  rw [get?_put found]
  split
  · rename_i here
    rw [here] at present
    exact .inr ⟨Option.some.inj (present.symm.trans found), rfl⟩
  · exact .inl present

/-- Changing a segment changes what is in its place and nothing else. -/
theorem get?_modify (change : Segment → Segment) :
    (heap.modify id change).get? other =
      if other = id then (heap.get? id).map change else heap.get? other := by
  -- The table is changed at one index, which belongs to one number only.
  split
  · rename_i same
    subst same
    simp [get?, modify, Array.getElem?_modify]
    cases heap.segments[other.toNat]? with
    | none => rfl
    | some slot => cases slot <;> rfl
  · rename_i different
    have apart : id.toNat ≠ other.toNat := fun same => different (UInt16.toNat_inj.mp same.symm)
    simp [get?, modify, Array.getElem?_modify, apart]

/-- Changing a segment is putting the changed one into its place. -/
theorem modify_eq_put (found : heap.get? id = some segment) (change : Segment → Segment) :
    heap.modify id change = heap.put id (some (change segment)) := by
  -- The place holds the segment, so the change applies to it.
  have inside := inside_of_get? found
  have occupied : heap.segments[id.toNat] = some segment := by
    simpa [get?, Array.getElem?_eq_getElem inside] using found
  simp only [modify, put, Heap.mk.injEq, true_and, and_true]
  apply Array.ext_getElem?
  intro index
  rw [Array.getElem?_modify, Array.getElem?_setIfInBounds]
  by_cases same : id.toNat = index
  · subst same
    simp [inside, occupied]
  · simp [same]

/-- A segment that is put into the next place is there, and all else is where it was. -/
theorem get?_insert (atEnd : id.toNat ≤ heap.segments.size) :
    (heap.insert id segment).get? other = if other = id then some segment else heap.get? other := by
  -- The place is inside the table, or it is the one the table grows by.
  unfold insert
  split
  · rename_i inside
    split
    · rename_i same
      subst same
      exact get?_put_self _ inside
    · rename_i different
      exact get?_put_of_ne _ different
  · rename_i outside
    have last : id.toNat = heap.segments.size := by omega
    simp only [get?, Array.getElem?_push, ← last, UInt16.toNat_inj]
    split <;> rfl

/-- The next place is inside the table or the one right after it, and holds nothing. -/
theorem nextId?_vacant (next : heap.nextId? = some id) :
    id.toNat ≤ heap.segments.size ∧ id.toNat < segmentLimit ∧ heap.get? id = none := by
  unfold nextId? at next
  cases vacant : heap.vacancy? with
  | some place =>
    -- A place that is used again was found by looking for an empty one.
    simp only [vacant, Option.some.injEq] at next
    subst next
    have empty := List.find?_some vacant
    have member := List.mem_of_find?_eq_some vacant
    simp only [List.mem_map, List.mem_range] at member
    obtain ⟨index, inside, rfl⟩ := member
    simp only [isLive, Bool.and_eq_true, Bool.not_eq_true', Option.isSome_eq_false_iff,
      Option.isNone_iff_eq_none] at empty
    have small : (UInt16.ofNat index).toNat ≤ index := by simp [Nat.mod_le]
    have bounded := (UInt16.ofNat index).toNat_lt
    exact ⟨by omega, by simpa [segmentLimit] using bounded, empty.1.2⟩
  | none =>
    -- Otherwise the table grows by one place, which lies outside of it so far.
    simp only [vacant] at next
    split at next
    · rename_i room
      simp only [Option.some.injEq] at next
      subst next
      have exact := toNat_ofNat_of_lt room
      exact ⟨by omega, by omega, by simp [get?, exact]⟩
    · simp at next

/-- A segment is still in its place after a new one was put into the next place. -/
theorem get?_insert_of_some (next : heap.nextId? = some id)
    (present : heap.get? other = some segment) (new : Segment) :
    (heap.insert id new).get? other = some segment := by
  obtain ⟨atEnd, _, empty⟩ := nextId?_vacant next
  rw [get?_insert atEnd, if_neg, present]
  -- The next place is an empty one.
  rintro rfl
  rw [empty] at present
  cases present

/-- The table does not shrink when a segment is put into it. -/
theorem size_le_insert (heap : Heap) (id : SegmentId) (segment : Segment) :
    heap.segments.size ≤ (heap.insert id segment).segments.size := by
  -- The place is one of the table, or it is added at its end.
  unfold insert
  split <;> simp [put]

/-- The next place is inside the table or the one right after it, holds nothing, and is not zero. -/
theorem nextId?_spec (opened : 0 < heap.segments.size) (next : heap.nextId? = some id) :
    id.toNat ≤ heap.segments.size ∧ id.toNat < segmentLimit ∧ heap.get? id = none ∧ id ≠ 0 := by
  obtain ⟨atEnd, small, empty⟩ := nextId?_vacant next
  refine ⟨atEnd, small, empty, ?_⟩
  unfold nextId? at next
  cases vacant : heap.vacancy? with
  | some place =>
    -- Place zero is passed over.
    simp only [vacant, Option.some.injEq] at next
    subst next
    have looked := List.find?_some vacant
    simp only [Bool.and_eq_true, bne_iff_ne] at looked
    exact looked.1.1
  | none =>
    simp only [vacant] at next
    split at next
    · rename_i room
      simp only [Option.some.injEq] at next
      subst next
      have exact := toNat_ofNat_of_lt room
      -- A place at the end is not zero, because the table is not empty.
      intro zero
      rw [zero] at exact
      simp at exact
      omega
    · simp at next

/-- The table does not shrink, and it stays within the limit, when a segment is put into it. -/
theorem size_insert (segment : Segment) (small : id.toNat < segmentLimit)
    (atEnd : id.toNat ≤ heap.segments.size) (bounded : heap.segments.size ≤ segmentLimit) :
    heap.segments.size ≤ (heap.insert id segment).segments.size ∧
      (heap.insert id segment).segments.size ≤ segmentLimit := by
  -- The table grows only when the place is the one right after it.
  unfold insert
  split
  · simp [put, bounded]
  · simp
    omega

/-- The numbers of the segments are those of the occupied places, apart from place zero. -/
theorem mem_segmentIds (bounded : heap.segments.size ≤ segmentLimit) :
    id ∈ heap.segmentIds ↔ id ≠ 0 ∧ (heap.get? id).isSome := by
  -- Below the limit every index is the number of one word.
  simp only [segmentIds, List.mem_map, List.mem_filter, List.mem_range, Bool.and_eq_true,
    decide_eq_true_eq]
  constructor
  · intro given
    obtain ⟨index, ⟨inside, positive, occupied⟩, rfl⟩ := given
    have exact := toNat_ofNat_of_lt (Nat.lt_of_lt_of_le inside bounded)
    refine ⟨?_, by simpa [get?, exact] using occupied⟩
    intro zero
    rw [zero] at exact
    exact positive (by simpa using exact.symm)
  · intro given
    obtain ⟨positive, occupied⟩ := given
    obtain ⟨segment, found⟩ := Option.isSome_iff_exists.mp occupied
    refine ⟨id.toNat, ⟨inside_of_get? found, ?_, by simpa [get?] using occupied⟩, by simp⟩
    exact fun zero => positive (UInt16.toNat_inj.mp (by simpa using zero))

/-- No segment is listed twice. -/
theorem nodup_segmentIds (bounded : heap.segments.size ≤ segmentLimit) :
    heap.segmentIds.Nodup := by
  -- Different indices below the limit are different words.
  apply List.Nodup.map_on
  · intro left leftIn right rightIn same
    simp only [List.mem_filter, List.mem_range] at leftIn rightIn
    have leftExact := toNat_ofNat_of_lt (Nat.lt_of_lt_of_le leftIn.1 bounded)
    have rightExact := toNat_ofNat_of_lt (Nat.lt_of_lt_of_le rightIn.1 bounded)
    rw [← leftExact, ← rightExact, same]
  · exact List.nodup_range.filter _

end Heap

end AdventureVm
