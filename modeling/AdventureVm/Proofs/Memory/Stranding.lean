import AdventureVm.Proofs.Collector.Survivors
import AdventureVm.Proofs.Memory.Enduring
import AdventureVm.Proofs.Memory.Steady

/-!
What becomes of memory when a segment cannot be taken out.

A script leaves its place before its variables leave theirs. Where the variables are gone already,
the script goes all the same, but it is not forgotten and still counts as resident.
-/

namespace AdventureVm

namespace Heap

variable {heap before after : Heap} {id : SegmentId} {places : List SegmentId}
variable {lost : SegmentId → Prop}

/--
Taking out a segment comes to an empty place.

On the way it empties the places of scripts, each of which names the next place as that of its
variables.
-/
inductive Strands : Heap → SegmentId → List SegmentId → Prop where
  | absent {heap : Heap} {id : SegmentId} (empty : heap.get? id = none) : Strands heap id []
  | script {heap : Heap} {id : SegmentId} {script : Script} {places : List SegmentId}
      (found : heap.get? id = some (.script script)) (withVariables : script.localsSegment ≠ 0)
      (rest : Strands (heap.put id none) script.localsSegment places) :
      Strands heap id (id :: places)

/-- A place is emptied although the segment that was to be taken out could not be. -/
def Loses (heap : Heap) (id place : SegmentId) : Prop :=
  ∃ places, heap.Strands id places ∧ place ∈ places

/-- Some places were emptied, and nothing else in memory is different. -/
structure Emptied (before : Heap) (emptied : List SegmentId) (after : Heap) : Prop where
  places : ∀ place, after.get? place = if place ∈ emptied then none else before.get? place
  residents : after.residents = before.residents
  classes : after.classes = before.classes
  pools : after.pools = before.pools
  version : after.version = before.version
  size : after.segments.size = before.segments.size

/-- Emptying no place changes nothing. -/
theorem Emptied.refl (heap : Heap) : heap.Emptied [] heap :=
  ⟨by simp, rfl, rfl, rfl, rfl, rfl⟩

/-- Emptying a place before others is emptying all of them. -/
theorem Emptied.cons {segment : Segment} (found : before.get? id = some segment)
    (rest : (before.put id none).Emptied places after) : before.Emptied (id :: places) after where
  places place := by
    -- A place is empty because it is the first one, or because it is one of the others.
    rw [rest.places, get?_put found]
    by_cases later : place ∈ places <;> by_cases here : place = id <;> simp [later, here]
  residents := rest.residents
  classes := rest.classes
  pools := rest.pools
  version := rest.version
  size := by simpa [put] using rest.size

/--
Every script that counts as resident is in its segment under its number, unless its place is one of
those that were lost.
-/
structure Settled (lost : SegmentId → Prop) (heap : Heap) : Prop where
  /-- Place zero is there. -/
  opened : 0 < heap.segments.size
  /-- A script is resident once. -/
  distinct : (heap.residents.map (·.1)).Nodup
  resident : ∀ number id, (number, id) ∈ heap.residents →
    (∃ script, heap.get? id = some (.script script) ∧ script.number = number) ∨ lost id

/-- A script is no longer resident in a place where it was forgotten. -/
theorem not_mem_forgetScript (distinct : (heap.residents.map (·.1)).Nodup) (number : UInt16)
    (id : SegmentId) : (number, id) ∉ (heap.forgetScript number id).residents := by
  -- If the script was resident there it is removed; if not, there was nothing to remove.
  unfold forgetScript
  simp only
  split
  · simp
  · rename_i away
    exact fun member => away ((scriptSegment?_eq_some distinct).mpr member)

/-- Forgetting a script makes no script resident. -/
theorem forgetScript_sublist (heap : Heap) (number : UInt16) (id : SegmentId) :
    (heap.forgetScript number id).residents.Sublist heap.residents := by
  -- Entries are dropped or nothing changes.
  unfold forgetScript
  simp only
  split
  · exact List.filter_sublist
  · exact .refl _

namespace Settled

/-- More places may be said to be lost. -/
theorem mono (settled : heap.Settled lost) {more : SegmentId → Prop}
    (implied : ∀ id, lost id → more id) : heap.Settled more where
  opened := settled.opened
  distinct := settled.distinct
  -- Each resident is in its place or in a lost one, and that is still lost.
  resident number id member := (settled.resident number id member).imp_right (implied id)

/-- Memory stays settled when no script becomes resident and those that stay so are still there. -/
theorem spared (settled : before.Settled lost) (opened : 0 < after.segments.size)
    (residents : after.residents.Sublist before.residents)
    (scripts : ∀ number id script, (number, id) ∈ after.residents →
      before.get? id = some (.script script) → script.number = number →
        ∃ later, after.get? id = some (.script later) ∧ later.number = number) :
    after.Settled lost where
  opened := opened
  distinct := settled.distinct.sublist (residents.map _)
  -- Every resident afterwards was one before; it was in its place or lost.
  resident number id member := by
    rcases settled.resident number id (residents.subset member) with ⟨script, found, named⟩ | gone
    · exact .inl (scripts number id script member found named)
    · exact .inr gone

/-- Memory stays settled when a segment is put into the next place. -/
theorem insert (settled : heap.Settled lost) (next : heap.nextId? = some id) (segment : Segment) :
    (heap.insert id segment).Settled lost := by
  -- Residents are the same, and no place that was filled changes.
  refine settled.spared (Nat.lt_of_lt_of_le settled.opened (size_le_insert _ _ _)) ?_ ?_
  · rw [residents_insert]
  · intro number place script _ found named
    exact ⟨script, get?_insert_of_some next found segment, named⟩

/-- Memory stays settled when a segment is replaced, if a script keeps its number. -/
theorem replace (settled : heap.Settled lost) {old new : Segment}
    (found : heap.get? id = some old)
    (named : ∀ script, old = .script script →
      ∃ later, new = .script later ∧ later.number = script.number) :
    (heap.put id (some new)).Settled lost := by
  refine settled.spared (by simpa [put] using settled.opened) (.refl _) ?_
  intro number place script _ present same
  -- The script that is looked for may be the one that was replaced.
  rcases get?_put_of_some found present new with kept | ⟨was, changed⟩
  · exact ⟨script, kept, same⟩
  · obtain ⟨later, rfl, sameToo⟩ := named script was.symm
    exact ⟨later, changed, sameToo.trans same⟩

/-- Memory stays settled when a script is loaded. -/
theorem load (settled : before.Settled lost) {resources : Resources} {number : UInt16}
    (loaded : before.Loaded resources number id after) : after.Settled lost := by
  obtain ⟨script, locals, _, offers, found, _⟩ := loaded.script
  refine ⟨Nat.zero_lt_of_lt (inside_of_get? found), ?_, ?_⟩
  · rw [loaded.residents]
    exact distinct_setResident settled.distinct number id
  · intro other place member
    rw [loaded.residents, mem_setResident settled.distinct loaded.absent] at member
    rcases member with same | member
    · -- The script that came is in its place.
      cases same
      exact .inl ⟨_, found, offers.fresh.number⟩
    · refine (settled.resident other place member).imp_left ?_
      rintro ⟨earlier, present, named⟩
      exact ⟨earlier, loaded.kept place _ present, named⟩

/-- Memory stays settled when a script leaves together with its variables. -/
theorem leave (settled : before.Settled lost) {script : Script}
    (found : before.get? id = some (.script script)) (left : Store.Left before id script after) :
    after.Settled lost := by
  apply settled.spared (by simpa [left.size] using settled.opened)
  · rw [left.remaining]
    exact forgetScript_sublist before script.number id
  · intro number place earlier member present named
    refine ⟨earlier, ?_, named⟩
    rw [left.places, if_neg]
    · exact present
    · rintro (rfl | ⟨withVariables, rfl⟩)
      · -- The script itself is forgotten.
        rw [found, Option.some.injEq, Segment.script.injEq] at present
        subst present
        rw [← named, left.remaining] at member
        exact not_mem_forgetScript settled.distinct _ _ member
      · obtain ⟨table, tableAt⟩ := left.table withVariables
        rw [tableAt] at present
        cases present

/-- Memory that develops stays settled. -/
theorem develops (settled : before.Settled lost) (develops : before.Develops after) :
    after.Settled lost := by
  -- Only a script that leaves takes something from the table of residents.
  induction develops with
  | refl => exact settled
  | alike _ alike grown _ ih =>
    apply ih.spared (Nat.lt_of_lt_of_le ih.opened grown)
    · rw [alike.residents]
    · intro number place script _ found named
      exact ⟨script, by rw [alike.places, found], named⟩
  | loaded _ loaded _ ih => exact ih.load loaded
  | departed _ found _ left ih => exact ih.leave found left
  | inserted _ next _ _ _ _ ih => exact ih.insert next _
  | vacated _ there passing _ ih =>
    refine ih.spared (by simpa [put] using ih.opened) (.refl _) ?_
    intro number place script _ found named
    refine ⟨script, get?_put_of_apart there found ?_ none, named⟩
    rintro rfl
    exact passing (.inl rfl)
  | replaced _ found persists _ ih =>
    apply ih.replace found
    -- A script is replaced by one with the same number.
    rintro script rfl
    obtain ⟨later, same, number, _⟩ := persists.akin.of_script
    exact ⟨later, same, number⟩
  | read _ found read ih =>
    apply ih.replace found
    rintro script same
    obtain rfl := Segment.script.inj same
    obtain ⟨later, sameToo, number, _⟩ := (Develops.akin_read read).of_script
    exact ⟨later, sameToo, number⟩
  | registered _ _ _ _ _ ih => exact ⟨ih.opened, ih.distinct, ih.resident⟩
  | pooled _ _ _ ih => exact ⟨ih.opened, ih.distinct, ih.resident⟩

/-- Memory is settled but for the places that were emptied. -/
theorem emptied (settled : before.Settled lost) (emptied : before.Emptied places after) :
    after.Settled fun place => lost place ∨ place ∈ places := by
  refine ⟨by simpa [emptied.size] using settled.opened, ?_, ?_⟩
  · rw [emptied.residents]
    exact settled.distinct
  · intro number place member
    rw [emptied.residents] at member
    -- A place was emptied just now, or it is as it was.
    by_cases gone : place ∈ places
    · exact .inr (.inr gone)
    · rw [emptied.places, if_neg gone]
      exact (settled.resident number place member).imp_right .inl

end Settled

end Heap

namespace Store

open Heap StoreM

variable {store after : Store} {id : SegmentId} {places : List SegmentId} {fault : Fault}
variable {lost : SegmentId → Prop}

/-- Where an empty place is come to, the places on the way are emptied and nothing else is done. -/
theorem deallocate_strands (strands : store.heap.Strands id places) :
    ∃ fault after, store.deallocate id = (.error fault, after) ∧
      store.heap.Emptied places after.heap := by
  generalize begun : store.heap = heap at strands
  induction strands generalizing store with
  | absent empty =>
    subst begun
    exact ⟨_, store, deallocate_none empty, .refl _⟩
  | script found withVariables rest ih =>
    subst begun
    rw [deallocate_occupied found]
    simp only [if_neg withVariables]
    -- The variables are looked for in memory without the script.
    generalize out : Store.note _ Level.debug _ = without
    obtain ⟨fault, after, ended, emptied⟩ := @ih without (by rw [← out]; rfl)
    rw [ended]
    exact ⟨fault, after, rfl, emptied.cons found⟩

/-- What a success to take out a segment leaves of the scripts that count as resident. -/
structure Taken (before after : Heap) : Prop where
  size : after.segments.size = before.segments.size
  /-- No script becomes resident. -/
  residents : after.residents.Sublist before.residents
  /-- The scripts that still count as resident are still where they were. -/
  scripts : ∀ number id script, (number, id) ∈ after.residents →
    before.get? id = some (.script script) → script.number = number →
      after.get? id = some (.script script)

/-- A script that is forgotten may leave before something else does. -/
theorem Taken.forget {heap rest : Heap} {script : Script} (taken : Taken (heap.put id none) rest)
    (distinct : (heap.residents.map (·.1)).Nodup) (found : heap.get? id = some (.script script)) :
    Taken heap (rest.forgetScript script.number id) where
  size := by simpa [Heap.forgetScript, put] using taken.size
  residents := (forgetScript_sublist rest script.number id).trans taken.residents
  scripts number place other member present named := by
    have remains := (forgetScript_sublist rest script.number id).subset member
    apply taken.scripts number place other remains _ named
    rw [get?_put found, if_neg]
    · exact present
    · -- Nobody remains under the number of the script that is forgotten.
      rintro rfl
      rw [found, Option.some.injEq, Segment.script.injEq] at present
      subst present
      rw [← named] at member
      exact not_mem_forgetScript (distinct.sublist (taken.residents.map _)) _ _ member

/-- A segment that is no script may be taken out, and nothing is forgotten. -/
theorem Taken.of_other {heap after : Heap} {segment : Segment}
    (found : heap.get? id = some segment) (other : ∀ script, segment ≠ .script script)
    (segments : after.segments = (heap.put id none).segments)
    (residents : after.residents = heap.residents) : Taken heap after where
  size := by simp [segments, put]
  residents := by rw [residents]
  -- A script is in another place than the segment that was taken out.
  scripts number place script _ present _ := by
    have same : after.get? place = (heap.put id none).get? place := by
      simp only [get?, segments]
    rw [same, get?_put found, if_neg]
    · exact present
    · rintro rfl
      rw [found, Option.some.injEq] at present
      exact other script present

/--
A segment that is taken out leaves the scripts that still count as resident where they were.

Where none can be taken out, an empty place is come to.
-/
theorem deallocate_taken (store : Store) (id : SegmentId)
    (distinct : (store.heap.residents.map (·.1)).Nodup) :
    Leads (free id) store (Either (fun _ after => Taken store.heap after.heap)
      fun _ _ => ∃ places, store.heap.Strands id places) := by
  -- Only the lookup of the last place fails, and what it fails for is passed on.
  show Either _ _ (store.deallocate id).1 (store.deallocate id).2
  fun_induction deallocate store id with
  | case1 store id empty => exact ⟨[], .absent empty⟩
  | case2 store id script found without =>
    have alone : Taken (store.heap.put id none) (store.heap.put id none) :=
      ⟨rfl, .refl _, fun _ _ _ _ present _ => present⟩
    exact alone.forget distinct found
  -- The variables were freed as well, so the script is forgotten at last.
  | case3 store id script found withVariables after present emptied ended ih =>
    rw [ended] at ih
    exact (ih distinct).forget distinct found
  -- The variables could not be freed, and the script is stranded like them.
  | case4 store id script found withVariables fault after present emptied ended ih =>
    rw [ended] at ih
    obtain ⟨places, rest⟩ := ih distinct
    exact ⟨id :: places, .script found withVariables rest⟩
  | case5 store id segment found noScript pool =>
    refine .of_other found ?_ ?_ ?_
    · exact fun script same => noScript script (same ▸ found) same (proof_irrel_heq _ _)
    · simp only [heap_mapHeap, forgetPool_eq]
      rfl
    · simp only [heap_mapHeap, forgetPool_eq]
      rfl
  | case6 store id segment found noScript noPool =>
    refine .of_other found ?_ rfl rfl
    exact fun script same => noScript script (same ▸ found) same (proof_irrel_heq _ _)

/-- Memory is settled after a segment was taken out, but for what a failure to do so has emptied. -/
theorem free_settled (settled : store.heap.Settled lost) (id : SegmentId) :
    Leads (free id) store fun _ after =>
      after.heap.Settled fun place => lost place ∨ store.heap.Loses id place := by
  have told := deallocate_taken store id settled.distinct
  simp only [Leads, free, ExceptT.run] at told ⊢
  cases ended : store.deallocate id with
  | mk outcome after =>
    rw [ended] at told
    -- Taking out a segment succeeds, or fails after it emptied the places on the way.
    cases outcome with
    | ok value =>
      apply Settled.mono _ fun _ => .inl
      apply settled.spared (by simpa [told.size] using settled.opened) told.residents
      intro number place script member found named
      exact ⟨script, told.scripts number place script member found named, named⟩
    | error fault =>
      obtain ⟨places, strands⟩ := told
      obtain ⟨_, left, endedToo, emptied⟩ := deallocate_strands strands
      obtain rfl : after = left := by
        rw [endedToo] at ended
        cases ended
        rfl
      apply (settled.emptied emptied).mono
      exact fun place => .imp_right fun member => ⟨places, strands, member⟩

/-- Freeing what is at an address leaves memory settled, but for what a failure has emptied. -/
theorem freeAt_settled (settled : store.heap.Settled lost) (address : Address) :
    Leads (freeAt address) store fun _ after =>
      after.heap.Settled fun place => lost place ∨ store.heap.Loses address.segment place := by
  -- Only a script that is taken out can leave places lost.
  have develops {after : Heap} (developed : store.heap.Develops after) :
      after.Settled fun place => lost place ∨ store.heap.Loses address.segment place :=
    (settled.develops developed).mono fun _ => .inl
  exact freeAt_comesTo settled.opened (fun _ => free_settled settled address.segment) develops

/-- The places that failures empty when one thing after the other is freed. -/
def LosesAmong : Store → List Address → SegmentId → Prop
  | _, [], _ => False
  | store, address :: rest, place =>
    store.heap.Loses address.segment place ∨
      LosesAmong ((freeAt address).run store).2 rest place

/-- Sweeping leaves memory settled, but for what failures have emptied. -/
theorem sweep_settled (garbage : List Address) (collection : Collection) {store other : Store}
    (same : SameHeap store other) (settled : store.heap.Settled lost) :
    ((garbage.foldlM sweepOne collection).run other).2.heap.Settled fun place =>
      lost place ∨ store.LosesAmong garbage place := by
  -- What was recorded makes no difference to what is freed.
  induction garbage generalizing collection store other lost with
  | nil =>
    have alike : other.heap = store.heap := same
    show other.heap.Settled _
    rw [alike]
    exact settled.mono fun _ => .inl
  | cons address rest ih =>
    rw [List.foldlM_cons, StateT.run_bind]
    have freed : SameHeap ((freeAt address).run store).2
        ((sweepOne collection address).run other).2 :=
      (heap_sweepOne other collection address).trans ((freeAt_steady address).alike same).2
    apply (ih _ freed (freeAt_settled settled address)).mono
    rintro place ((earlier | here) | later)
    · exact .inl earlier
    · exact .inr (.inl here)
    · exact .inr (.inr later)

end Store

namespace Action

/-- The places that an action empties although it fails to take out what is there. -/
def Loses (action : Action) (store : Store) (place : SegmentId) : Prop :=
  match action with
  | deallocate id => store.heap.Loses id place
  | freeAt address => store.heap.Loses address.segment place
  | collect context => store.LosesAmong (store.heap.garbage context) place
  | _ => False

/-- Changing a segment in place leaves a script a script of the same number. -/
def LeavesNumbers (action : Action) (heap : Heap) : Prop :=
  match action with
  | alter id change => ∀ script, heap.get? id = some (.script script) →
      ∃ later, change (.script script) = .script later ∧ later.number = script.number
  | _ => True

variable {action : Action} {store : Store} {lost : SegmentId → Prop}

/-- An action leaves memory settled, but for what it fails to take out and empties all the same. -/
theorem run_settled (settled : store.heap.Settled lost)
    (numbers : action.LeavesNumbers store.heap) :
    (action.run store).heap.Settled fun place => lost place ∨ action.Loses store place := by
  rcases action.develops_or_drastic settled.opened with develops | drastic
  · exact (settled.develops develops).mono fun _ => .inl
  · cases drastic with
    | insert segment =>
      apply Heap.Settled.mono _ fun _ => .inl
      show Leads (Store.insert segment) store fun _ after => after.heap.Settled lost
      rw [Store.leads_insert]
      cases next : store.heap.nextId? with
      | none => exact settled
      | some id => exact settled.insert next segment
    | deallocate id => exact Store.free_settled settled id
    | freeAt address => exact Store.freeAt_settled settled address
    | alter id change =>
      apply Heap.Settled.mono _ fun _ => .inl
      show (store.heap.modify id change).Settled lost
      cases found : store.heap.get? id with
      | none =>
        rw [Heap.modify_of_none found]
        exact settled
      | some segment =>
        rw [Heap.modify_eq_put found]
        apply settled.replace found
        -- A change is asked to leave the number of a script alone.
        rintro script rfl
        exact numbers script found
    | alterClasses change => exact ⟨settled.opened, settled.distinct, fun number id member =>
        (settled.resident number id member).imp_right .inl⟩
    | collect context =>
      -- Marking changes no memory, and the sweep frees what was listed.
      exact Store.sweep_settled (store.heap.garbage context) _ rfl settled

end Action

namespace Store

variable {store : Store} {lost : SegmentId → Prop}

/--
A memory that actions from outside have led to, and the places that were emptied on the way although
what was there could not be taken out.

Any segment may be taken out at any time.
-/
inductive Traces : Store → (SegmentId → Prop) → Prop where
  | blank (version : Version) (classes : ClassTable) (journal : Journal) :
      Traces (blank version classes journal) fun _ => False
  | step {store : Store} {lost : SegmentId → Prop} {action : Action} (traces : Traces store lost)
      (numbers : action.LeavesNumbers store.heap) :
      Traces (action.run store) fun place => lost place ∨ action.Loses store place

/-- Every memory that arises is settled, but for the places that were lost. -/
theorem Traces.settled (traces : store.Traces lost) : store.heap.Settled lost := by
  -- Induction on the actions: what each may lose is added to the places that were lost.
  induction traces with
  | blank version classes journal =>
    exact ⟨by simp [Store.blank], by simp [Store.blank], by simp [Store.blank]⟩
  | step _ numbers settled => exact Action.run_settled settled numbers

/--
A segment cannot be taken out exactly where an empty place is come to.

The places on the way there are emptied then, and all else stays, the table of residents included.
This is the only way in which a resident script comes to be missing from its segment.
-/
theorem failed_deallocation_empties (traces : store.Traces lost) (id : SegmentId) :
    ((∃ fault after, store.deallocate id = (.error fault, after)) ↔
        ∃ places, store.heap.Strands id places) ∧
      (∀ places, store.heap.Strands id places →
        store.heap.Emptied places (store.deallocate id).2.heap) ∧
      ∀ number place, store.heap.scriptSegment? number = some place →
        (∃ script, store.heap.get? place = some (.script script) ∧ script.number = number) ∨
          lost place := by
  -- All that led here keeps residents in their segments, but for the lost places.
  have settled := traces.settled
  refine ⟨⟨?_, ?_⟩, ?_, ?_⟩
  · rintro ⟨fault, after, ended⟩
    have told := deallocate_taken store id settled.distinct
    simp only [Leads, free, ExceptT.run, ended] at told
    exact told
  · rintro ⟨places, strands⟩
    obtain ⟨fault, after, ended, _⟩ := deallocate_strands strands
    exact ⟨fault, after, ended⟩
  · intro places strands
    obtain ⟨fault, after, ended, emptied⟩ := deallocate_strands strands
    rw [ended]
    exact emptied
  · intro number place found
    exact settled.resident number place
      ((Heap.scriptSegment?_eq_some settled.distinct).mp found)

/-- A memory into which a script was loaded, and out of which its variables were taken. -/
def bereaved : Store :=
  (Action.deallocate 2).run ((Action.loadScript .oneVariable 1).run (blank .sci0 {} #[]))

/-- That memory arises, and nothing has been lost so far. -/
theorem bereaved_traces :
    bereaved.Traces fun place => (False ∨ False) ∨
      ((Action.loadScript .oneVariable 1).run (blank .sci0 {} #[])).heap.Loses 2 place :=
  .step (.step (.blank .sci0 {} #[]) trivial) trivial

/-- The script cannot be taken out properly, because its variables are not there any more. -/
theorem failed_deallocation_empties_bereaved :
    (∃ lost, bereaved.Traces lost) ∧ bereaved.heap.Strands 1 [1] ∧
      bereaved.heap.Emptied [1] (bereaved.deallocate 1).2.heap := by
  have variableless : (bereaved.heap.script 1).toOption.map (·.localsSegment) = some 2 := by
    decide +kernel
  obtain ⟨script, present, own⟩ := Option.map_eq_some_iff.mp variableless
  have found : bereaved.heap.get? 1 = some (.script script) := Heap.get?_of_toOption present
  -- The chain ends right away, at the empty place of the variables.
  have gone : (bereaved.heap.put 1 none).get? 2 = none := by
    have empty : ((bereaved.heap.put 1 none).get? 2).isNone = true := by decide +kernel
    simpa using empty
  have strands : bereaved.heap.Strands 1 [1] :=
    .script found (by simp [own]) (.absent (own ▸ gone))
  exact ⟨⟨_, bereaved_traces⟩, strands,
    (failed_deallocation_empties bereaved_traces 1).2.1 [1] strands⟩

/-- The script is lost, but it still counts as resident, so that loading it again finds nothing. -/
theorem failed_deallocation_loses_script :
    (bereaved.deallocate 1).1.toOption = none ∧ (bereaved.heap.get? 1).isSome = true ∧
      ((bereaved.deallocate 1).2.heap.get? 1).isSome = false ∧
      (bereaved.deallocate 1).2.heap.scriptSegment? 1 = some 1 ∧
      ((loadScript .oneVariable 1).run (bereaved.deallocate 1).2).1.toOption = some 1 := by
  decide +kernel

end Store

end AdventureVm
