import AdventureVm.Proofs.Memory.Builtins
import AdventureVm.Proofs.Memory.Enduring

/-!
Nothing is ever in place zero, whatever is put into memory and taken out of it.

An address of a record is therefore never null, also in a memory whose tables do not agree with its
segments any more.
-/

namespace AdventureVm

namespace Heap

/-- Place zero is there, and nothing is in it. -/
structure Grounded (heap : Heap) : Prop where
  /-- Place zero is there. -/
  opened : 0 < heap.segments.size
  /-- Nothing is in place zero. -/
  empty : heap.get? 0 = none

variable {heap before after : Heap} {id : SegmentId}

/-- The memory is grounded where its tables agree with its segments. -/
theorem Sound.grounded (sound : heap.Sound) : heap.Grounded :=
  ⟨sound.opened, sound.zero_empty⟩

namespace Grounded

/-- There is no record at null, because place zero is empty. -/
theorem isNull_of_record (grounded : heap.Grounded) {address : Address} {entry : Entry}
    (there : heap.recordAt? address = some entry) : address.isNull = false := by
  -- A record lies in a segment, and null lies in place zero.
  have other : address.segment ≠ 0 := by
    intro zero
    obtain ⟨segment, found, _⟩ := Option.bind_eq_some_iff.mp there
    rw [zero, grounded.empty] at found
    cases found
  cases address
  simp_all [Address.isNull]

/-- What is in memory is in another place. -/
theorem ne_zero (grounded : heap.Grounded) {segment : Segment}
    (found : heap.get? id = some segment) : id ≠ 0 := by
  -- Place zero is empty.
  rintro rfl
  rw [grounded.empty] at found
  cases found

/-- Only the segments matter. -/
theorem of_same (grounded : before.Grounded) (segments : after.segments = before.segments) :
    after.Grounded :=
  ⟨segments ▸ grounded.opened, by rw [get?, segments]; exact grounded.empty⟩

/-- A segment is put into another place. -/
theorem insert (grounded : heap.Grounded) (next : heap.nextId? = some id) (segment : Segment) :
    (heap.insert id segment).Grounded := by
  -- The next place is behind all others, so it is not the first.
  obtain ⟨atEnd, _, _, positive⟩ := nextId?_spec grounded.opened next
  refine ⟨Nat.lt_of_lt_of_le grounded.opened (size_le_insert _ _ _), ?_⟩
  rw [get?_insert atEnd, if_neg positive.symm]
  exact grounded.empty

/-- A place where something is may be filled with something else, or emptied. -/
theorem put (grounded : heap.Grounded) {old : Segment} (found : heap.get? id = some old)
    (new : Option Segment) : (heap.put id new).Grounded := by
  -- The place that is filled held something, so it is not the first.
  refine ⟨by simpa [Heap.put] using grounded.opened, ?_⟩
  rw [get?_put found, if_neg (grounded.ne_zero found).symm]
  exact grounded.empty

/-- Changing a segment in place does not reach place zero. -/
theorem modify (grounded : heap.Grounded) (id : SegmentId) (change : Segment → Segment) :
    (heap.modify id change).Grounded := by
  -- Without a segment there nothing changes; otherwise it is replaced.
  cases found : heap.get? id with
  | none =>
    rw [modify_of_none found]
    exact grounded
  | some segment =>
    rw [modify_eq_put found]
    exact grounded.put found _

/-- Place zero stays empty while memory develops. -/
theorem of_develops (grounded : before.Grounded) (develops : before.Develops after) :
    after.Grounded := by
  refine ⟨develops.opened grounded.opened, ?_⟩
  -- Whatever comes has a place of its own, and the others are left or emptied.
  induction develops with
  | refl => exact grounded.empty
  | alike _ alike _ _ ih => exact (alike.places 0).trans ih
  | loaded _ loaded _ ih =>
    obtain ⟨script, _, localsSegment, _, found, _⟩ := loaded.script
    have arrivals := loaded.arrivals _ found 0
    rw [if_neg] at arrivals
    · exact arrivals.trans ih
    · rintro (zero | ⟨withVariables, zero⟩)
      · exact loaded.real zero.symm
      · exact withVariables zero.symm
  | departed _ _ _ left ih =>
    rw [left.places]
    split
    · rfl
    · exact ih
  | inserted develops next _ _ _ _ ih =>
    exact (Grounded.insert ⟨develops.opened grounded.opened, ih⟩ next _).empty
  | vacated develops found _ _ ih =>
    exact (Grounded.put ⟨develops.opened grounded.opened, ih⟩ found none).empty
  | replaced develops found _ _ ih =>
    exact (Grounded.put ⟨develops.opened grounded.opened, ih⟩ found _).empty
  | read develops found _ ih =>
    exact (Grounded.put ⟨develops.opened grounded.opened, ih⟩ found _).empty
  | registered _ _ _ _ _ ih => exact ih
  | pooled _ _ _ ih => exact ih

end Grounded

end Heap

namespace Store

open Heap

/-- Taking out a segment leaves place zero empty, also where it fails halfway. -/
theorem free_grounded (id : SegmentId) : (free id).Keeps Grounded :=
  free_keeps_of_emptying (fun grounded found => grounded.put found none) Grounded.of_same id

/-- Freeing what is at an address leaves place zero empty. -/
theorem freeAt_grounded (address : Address) : (freeAt address).Keeps Grounded :=
  fun store grounded => freeAt_comesTo grounded.opened
    (fun _ => free_grounded address.segment store grounded) grounded.of_develops

end Store

/-- Place zero is empty after whatever is done to memory. -/
theorem Action.run_grounded {store : Store} (grounded : store.heap.Grounded) (action : Action) :
    (action.run store).heap.Grounded := by
  -- An action develops memory, or it is one of the drastic ones, which are gone through.
  rcases action.develops_or_drastic grounded.opened with develops | drastic
  · exact grounded.of_develops develops
  · cases drastic with
    | insert segment =>
      show Leads (Store.insert segment) store fun _ after => after.heap.Grounded
      rw [Store.leads_insert]
      cases next : store.heap.nextId? with
      | none => exact grounded
      | some id => exact grounded.insert next segment
    | deallocate id => exact Store.free_grounded id store grounded
    | freeAt address => exact Store.freeAt_grounded address store grounded
    | alter id change => exact grounded.modify id change
    | alterClasses change => exact ⟨grounded.opened, grounded.empty⟩
    | collect context => exact Store.collect_keeps Store.freeAt_grounded context grounded

namespace Store

/--
A memory that started out empty and that actions of any kind and kernel functions have led to.

Nothing is asked of the actions: any segment may be put in, taken out, or changed to any other.
-/
inductive Happens : Store → Prop where
  | blank (version : Version) (classes : ClassTable) (journal : Journal) :
      Happens (blank version classes journal)
  /-- Something was done to memory from outside. -/
  | step {store : Store} (happens : Happens store) (action : Action) : Happens (action.run store)
  /-- A kernel function was called. -/
  | called {store : Store} (happens : Happens store) (call : KernelCall) :
      Happens (call.run.run store).2

/-- Place zero is empty in every memory, however it came about. -/
theorem Happens.grounded {store : Store} (happens : store.Happens) : store.heap.Grounded := by
  -- Induction on how memory came about.
  induction happens with
  | blank version classes journal => exact (blank_sound version classes journal).grounded
  | step _ action grounded => exact action.run_grounded grounded
  | called _ call grounded => exact grounded.of_develops (call.run_advances _ grounded.opened)

end Store

end AdventureVm
