import AdventureVm.Proofs.Collector.Histories

/-! What the survivors of a collection refer to, and the one kind of survivor that may lose it. -/

namespace AdventureVm

namespace Heap

variable {heap before after : Heap} {context : Context} {collection : Collection}
  {entity value : Address}

/-- A record or a script is in memory under its own address. -/
def IsAlive (heap : Heap) (entity : Address) : Prop :=
  (heap.recordAt? entity).isSome = true ∨
    entity.offset = 0 ∧ heap.kind? entity.segment = some .script

/-- Nothing can be reached where there is nothing to start from. -/
theorem not_reach_of_rootless (sound : heap.Sound) (rootless : heap.roots context = []) :
    ¬ heap.Reach context entity := by
  -- Every way starts at a root.
  intro reach
  induction reach with
  | root root leads =>
    have listed := (mem_roots sound).mpr ⟨leads.isPointer sound, root⟩
    rw [rootless] at listed
    simp at listed
  | held _ _ _ unreached => exact unreached

/-- A script that somebody uses can be reached. -/
theorem reach_of_locked {id : SegmentId} {script : Script}
    (found : heap.get? id = some (.script script)) (used : 0 < script.lockers) :
    heap.Reach context ⟨id, 0⟩ :=
  -- It is a root, and leads to itself.
  .root (.locked found used) (.whole found rfl (by simp [Segment.kind]))

/-- A script that is there after a collection was there before. -/
theorem Collected.script_before (collected : before.Collected context collection after)
    {id : SegmentId} (kind : after.kind? id = some .script) :
    ∃ script, before.get? id = some (.script script) := by
  obtain ⟨segment, found, same⟩ := Option.map_eq_some_iff.mp kind
  cases there : before.get? id with
  | none =>
    rw [collected.vacant id there] at found
    simp at found
  | some contents =>
    by_cases pool : contents.kind.isPool = true
    · -- A pool stays a pool.
      have kept := collected.pool_kept id contents there pool
      rw [kind, Option.some.injEq] at kept
      simp [← kept, SegmentKind.isPool] at pool
    · -- Any other segment stays as it was, or leaves.
      rcases collected.segment_kept id contents there (by simpa using pool) with
        kept | ⟨gone, _⟩
      · rw [kept, Option.some.injEq] at found
        subst found
        cases contents with
        | script script => exact ⟨script, rfl⟩
        | _ => simp [Segment.kind] at same
      · rw [gone] at found
        simp at found

/-- A survivor can be reached, unless it is a script that nobody uses. -/
theorem Collected.reach_of_alive (collected : before.Collected context collection after)
    (alive : after.IsAlive entity)
    (used : ∀ script, before.get? entity.segment = some (.script script) →
      0 < script.lockers ∨ before.Reach context entity) : before.Reach context entity := by
  rcases alive with record | ⟨first, kind⟩
  · -- A record that cannot be reached is gone.
    by_contra unreached
    simp [collected.record_freed entity unreached] at record
  · -- A script that somebody uses is a root, and any other survives for its reach alone.
    obtain ⟨id, offset⟩ := entity
    simp only at first kind used
    subst first
    obtain ⟨script, scriptAt⟩ := collected.script_before kind
    rcases used script scriptAt with locked | reach
    · exact reach_of_locked scriptAt locked
    · exact reach

/-- A valid address that something reachable holds stays valid. -/
theorem Collected.valid_of_held (collected : before.Collected context collection after)
    (sound : before.Sound) (reach : before.Reach context entity) (holds : before.Holds entity value)
    (valid : before.isValidAddress value = true) : after.isValidAddress value = true := by
  cases found : before.get? value.segment with
  | none => simp [isValidAddress, found] at valid
  | some segment =>
    simp only [isValidAddress, found, Option.any_some] at valid
    by_cases pool : segment.kind.isPool = true
    · -- The record itself can be reached.
      have target : before.Reach context value := .held reach holds (.record found pool valid)
      have record : (before.recordAt? value).isSome = true :=
        isSome_recordAt?.mpr ⟨segment, found, pool, valid⟩
      rw [← collected.record_kept value target, isSome_recordAt?] at record
      obtain ⟨now, foundNow, _, validNow⟩ := record
      simp [isValidAddress, foundNow, validNow]
    · have noPool : segment.kind.isPool = false := by simpa using pool
      rcases collected.segment_kept _ _ found noPool with
        kept | ⟨_, place, script, scriptAt, gone, with_⟩
      · simp [isValidAddress, kept, valid]
      · -- The script with which the segment would have left can be reached.
        have target : before.Reach context ⟨place, 0⟩ := by
          rcases with_ with here | ⟨withVariables, own⟩
          · -- The value refers to the script itself.
            rw [← here]
            refine .held reach holds (.whole found noPool ?_)
            intro kind
            rw [here, scriptAt, Option.some.injEq] at found
            simp [← found, Segment.kind] at kind
          · -- The value refers to a variable, and the script is the one that has it.
            obtain ⟨placed, table, tableAt, named⟩ :=
              sound.ownLocals place script scriptAt withVariables
            rw [← own] at tableAt
            exact .held reach holds (.locals tableAt (named ▸ placed))
        rw [collected.script_kept place script scriptAt (.inl target)] at gone
        simp at gone

end Heap

namespace Store

open Heap

/-- A script has come into memory, and its variable has been made to refer to a new list. -/
def lentList (arrival : Action) : Store :=
  (Action.writeValue ⟨2, 0⟩ ⟨3, 0⟩).run (Action.createList.run (arrival.run (blank .sci0 {} #[])))

/-- The memory with the script and the list arises however the script has come. -/
theorem lentList_arises {arrival : Action} (fits : arrival.Fits (blank .sci0 {} #[]).heap) :
    (lentList arrival).Arises :=
  .step (.step (.step (.blank .sci0 {} #[]) fits) trivial) trivial

/-- What the script of that memory and its variable look like, given how many use the script. -/
structure Lent (heap : Heap) (users : Nat) : Prop where
  /-- The script is in the first segment, and nothing marks it. -/
  script : (heap.script 1).toOption.map
    (fun script => (script.lockers, script.markedDeleted, script.localsSegment)) =
      some (users, false, 2)
  /-- Its variable is in the second segment. -/
  locals : (heap.locals 2).toOption = some ⟨1, #[⟨3, 0⟩]⟩
  /-- The list is in the third segment. -/
  list : heap.isValidAddress ⟨3, 0⟩ = true

/-- The script is in its segment, and its variable holds the address of the list. -/
theorem Lent.holds {heap : Heap} {users : Nat} (lent : Lent heap users) :
    ∃ script, heap.get? 1 = some (.script script) ∧ script.lockers = users ∧
      script.markedDeleted = false ∧ heap.Holds ⟨1, 0⟩ ⟨3, 0⟩ := by
  obtain ⟨script, present, account⟩ := Option.map_eq_some_iff.mp lent.script
  simp only [Prod.mk.injEq] at account
  have found : heap.get? 1 = some (.script script) := get?_of_toOption present
  -- The account of the script says in which segment its variables are.
  have variableAt : heap.get? script.localsSegment = some (.locals ⟨1, #[⟨3, 0⟩]⟩) := by
    have there := lent.locals
    rw [account.2.2]
    unfold Heap.locals at there
    split at there
    · rename_i table tableAt
      simp only [Except.toOption, Option.some.injEq] at there
      rw [tableAt, there]
    · simp [Except.toOption] at there
  exact ⟨script, found, account.1, account.2.1, .ownLocal found variableAt (by simp)⟩

/--
A valid address that a survivor holds stays valid through a collection.

The survivor is a clone, a list, a node, or a script that is locked or can be reached. A script that
merely has not been marked stays too, but what it holds is not kept for its sake.
-/
theorem held_stays_valid {store : Store} (arises : store.Arises) (context : Context)
    {entity value : Address} (alive : ((collect context).run store).2.heap.IsAlive entity)
    (used : ∀ script, store.heap.get? entity.segment = some (.script script) →
      0 < script.lockers ∨ store.heap.Reach context entity)
    (holds : store.heap.Holds entity value) (valid : store.heap.isValidAddress value = true) :
    ((collect context).run store).2.heap.isValidAddress value = true := by
  -- The survivor can be reached, and so can what it holds.
  have collected := collected store arises.sound context
  exact collected.valid_of_held arises.sound (collected.reach_of_alive alive used) holds valid

/-- A list stays with the locked script whose variable refers to it. -/
theorem held_stays_valid_locked :
    Lent (lentList (.instantiate .oneVariable 1)).heap 1 ∧
      ((collect { stackSegment := 0 }).run
        (lentList (.instantiate .oneVariable 1))).2.heap.isValidAddress ⟨3, 0⟩ = true := by
  have lent : Lent (lentList (.instantiate .oneVariable 1)).heap 1 :=
    ⟨by decide +kernel, by decide +kernel, by decide +kernel⟩
  have arises : (lentList (.instantiate .oneVariable 1)).Arises := lentList_arises trivial
  obtain ⟨script, found, users, _, holds⟩ := lent.holds
  have locked : 0 < script.lockers := by omega
  -- A locked script is a root itself, so it is not collected.
  have stays := (collected _ arises.sound { stackSegment := 0 }).script_kept 1 script found
    (.inr (.inl locked))
  refine ⟨lent, held_stays_valid arises _ ?_ ?_ holds lent.list⟩
  · exact .inr ⟨rfl, by simp [kind?, stays, Segment.kind]⟩
  · intro other otherAt
    rw [found, Option.some.injEq, Segment.script.injEq] at otherAt
    exact .inl (otherAt ▸ locked)

/-- A script that is loaded but not locked stays without the list that its variable refers to. -/
theorem unlocked_script_dangles :
    ¬ ∀ (store : Store) (context : Context) (entity value : Address), store.Arises →
      ((collect context).run store).2.heap.IsAlive entity → store.heap.Holds entity value →
      store.heap.isValidAddress value = true →
      ((collect context).run store).2.heap.isValidAddress value = true := by
  intro claim
  let store := lentList (.loadScript .oneVariable 1)
  have arises : store.Arises := lentList_arises trivial
  have lent : Lent store.heap 0 := ⟨by decide +kernel, by decide +kernel, by decide +kernel⟩
  have collected := collected store arises.sound { stackSegment := 0 }
  obtain ⟨script, found, _, unmarked, holds⟩ := lent.holds
  have stays := collected.script_kept 1 script found (.inr (.inr unmarked))
  have valid := claim store { stackSegment := 0 } ⟨1, 0⟩ ⟨3, 0⟩ arises
    (.inr ⟨rfl, by simp [kind?, stays, Segment.kind]⟩) holds lent.list
  -- Nothing uses the script, so nothing can be reached and the list is freed.
  have unreached : ¬ store.heap.Reach { stackSegment := 0 } ⟨3, 0⟩ :=
    not_reach_of_rootless arises.sound (by decide +kernel)
  have gone := collected.record_freed ⟨3, 0⟩ unreached
  have kind : store.heap.kind? 3 = some .lists := by decide +kernel
  obtain ⟨segment, poolAt, pool⟩ := Option.map_eq_some_iff.mp kind
  have poolStays := collected.pool_kept 3 segment poolAt (by rw [pool]; rfl)
  obtain ⟨now, foundNow, kindNow⟩ := Option.map_eq_some_iff.mp poolStays
  have record : (((collect { stackSegment := 0 }).run store).2.heap.recordAt? ⟨3, 0⟩).isSome :=
    isSome_recordAt?.mpr ⟨now, foundNow, by rw [kindNow, pool]; rfl, by
      simpa [isValidAddress, foundNow] using valid⟩
  simp [gone] at record

end Store

end AdventureVm
