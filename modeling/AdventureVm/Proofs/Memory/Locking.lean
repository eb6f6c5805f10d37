import AdventureVm.Proofs.Memory.Loading

/-! Locking scripts and letting them go keeps memory sound and every resident script where it is. -/

namespace AdventureVm

/-- The script with another account of who needs it. -/
def Script.withLocks (script : Script) (lockers : Nat) (deleted holds : Bool) : Script :=
  { script with lockers, markedDeleted := deleted, holdsSuperclasses := holds }

/-- The script after a lock was taken back from it because a superclass could not be locked. -/
def Script.giveUp (script : Script) : Script :=
  script.withLocks (script.lockers - 1) (script.markedDeleted || script.lockers - 1 == 0) false

namespace Heap

/--
Scripts that were resident still are, in the same place and with the same contents.

Who needs them may have changed, and further scripts may have become resident.
-/
structure Extends (before after : Heap) : Prop where
  /-- The tables agree with the segments. -/
  sound : after.Sound
  /-- Resident scripts stay, apart from who needs them. -/
  stays : ∀ number id script, before.scriptSegment? number = some id →
    before.get? id = some (.script script) →
    after.scriptSegment? number = some id ∧ ∃ lockers deleted holds,
      after.get? id = some (.script (script.withLocks lockers deleted holds))

namespace Extends

variable {before between after : Heap} {id : SegmentId}

/-- Nothing happens to a resident script while nothing happens. -/
theorem refl (sound : before.Sound) : Extends before before :=
  ⟨sound, fun _ _ script placed found => ⟨placed, script.lockers, script.markedDeleted,
    script.holdsSuperclasses, found⟩⟩

/-- What stays through one stretch of work and through the next stays through both. -/
theorem trans (first : Extends before between) (second : Extends between after) :
    Extends before after := by
  -- The account of who needs a script is replaced twice.
  refine ⟨second.sound, ?_⟩
  intro number id script placed found
  obtain ⟨placed, _, _, _, found⟩ := first.stays number id script placed found
  obtain ⟨placed, lockers, deleted, holds, found⟩ := second.stays number id _ placed found
  exact ⟨placed, lockers, deleted, holds, found⟩

/-- Memory that holds the same has kept every resident script. -/
theorem of_alike (sound : after.Sound) (alike : Alike before after) : Extends before after := by
  -- Places and residents are the same.
  refine ⟨sound, ?_⟩
  intro number id script placed found
  refine ⟨?_, script.lockers, script.markedDeleted, script.holdsSuperclasses, ?_⟩
  · simpa [scriptSegment?, alike.residents] using placed
  · rw [alike.places]
    exact found

/-- Bringing a script into memory keeps those that are there. -/
theorem of_brought {resources : Resources} {number : UInt16} (sound : before.Sound)
    (brought : before.Brought resources number id after) : Extends before after := by
  -- The script that becomes resident was not, so its entry hides no other one.
  refine ⟨brought.sound, ?_⟩
  intro other place script placed found
  refine ⟨?_, script.lockers, script.markedDeleted, script.holdsSuperclasses,
    brought.kept place _ found⟩
  rw [scriptSegment?_eq_some sound.distinct] at placed
  rw [scriptSegment?_eq_some brought.sound.distinct, brought.residents,
    mem_setResident sound.distinct brought.absent]
  exact .inr placed

/-- Changing who needs a script keeps everything else. -/
theorem put_withLocks {script : Script} (sound : before.Sound)
    (found : before.get? id = some (.script script)) (lockers : Nat) (deleted holds : Bool) :
    Extends before (before.put id (some (.script (script.withLocks lockers deleted holds)))) := by
  refine ⟨sound.put found ⟨rfl, fun bounded => bounded⟩, ?_⟩
  intro number place other placed foundToo
  refine ⟨placed, ?_⟩
  rw [get?_put found]
  split
  · -- In its own place the script has the new account.
    rename_i here
    subst here
    rw [found, Option.some.injEq, Segment.script.injEq] at foundToo
    subst foundToo
    exact ⟨lockers, deleted, holds, rfl⟩
  · exact ⟨other.lockers, other.markedDeleted, other.holdsSuperclasses, foundToo⟩

/-- Changing who needs a script in place keeps everything else. -/
theorem modifyScript {script : Script} (sound : before.Sound)
    (found : before.get? id = some (.script script)) {change : Script → Script}
    (locks : ∃ lockers deleted holds, change script = script.withLocks lockers deleted holds) :
    Extends before (before.modifyScript id change) := by
  -- The change in place is the same as putting the changed script there.
  obtain ⟨lockers, deleted, holds, same⟩ := locks
  have step := put_withLocks sound found lockers deleted holds
  rw [Heap.modifyScript, modify_eq_put found]
  simpa only [same] using step

/-- A script that was not there before may leave again. -/
theorem depart {script : Script} (extended : Extends before between)
    (vacant : before.get? id = none)
    (found : between.get? id = some (.script script))
    (departed : Store.Departed between id script after) : Extends before after := by
  -- A resident script is in another place, and that place is no table of variables.
  refine ⟨departed.sound, ?_⟩
  intro number place other placed otherAt
  have elsewhere : place ≠ id := by
    intro equal
    subst equal
    rw [vacant] at otherAt
    simp at otherAt
  obtain ⟨placed, lockers, deleted, holds, kept⟩ :=
    extended.stays number place other placed otherAt
  constructor
  · rw [scriptSegment?_eq_some extended.sound.distinct] at placed
    rw [scriptSegment?_eq_some departed.sound.distinct, departed.residents]
    exact ⟨placed, elsewhere⟩
  · refine ⟨lockers, deleted, holds, ?_⟩
    rw [departed.places, if_neg]
    · exact kept
    · intro either
      rcases either with here | ⟨withVariables, variablesAt⟩
      · exact elsewhere here
      · obtain ⟨_, table, tableAt, _⟩ := extended.sound.ownLocals id script found withVariables
        rw [← variablesAt, kept] at tableAt
        simp at tableAt

end Extends

end Heap

namespace Store

/-- A script with one user less differs in nothing but who needs it. -/
theorem unlocked_eq (script : Script) :
    ∃ lockers deleted holds, unlocked script = script.withLocks lockers deleted holds := by
  -- The last user takes the marks of the others along.
  unfold unlocked
  split
  · exact ⟨_, _, _, rfl⟩
  · exact ⟨script.lockers - 1, script.markedDeleted, script.holdsSuperclasses, rfl⟩

/-- Replacing a script by itself with one user less keeps every resident script. -/
theorem unlock_extends {heap : Heap} {id : SegmentId} {script : Script} (sound : heap.Sound)
    (found : heap.get? id = some (.script script)) :
    heap.Extends (heap.put id (some (.script (unlocked script)))) := by
  -- Dropping a lock changes the account of the script and nothing else.
  obtain ⟨lockers, deleted, holds, same⟩ := unlocked_eq script
  rw [same]
  exact .put_withLocks sound found lockers deleted holds

/-- Dropping locks keeps every resident script. -/
theorem release_extends (store : Store) (numbers : List UInt16) (sound : store.heap.Sound) :
    store.heap.Extends (store.release numbers).heap := by
  -- Each step of the recursion replaces at most one script by itself with fewer users.
  fun_induction release store numbers with
  | case1 store => exact .refl sound
  | case2 store number rest absent ih => exact ih sound
  | case3 store number rest id placed script found idle ih => exact ih sound
  | case4 store number rest id placed script found busy changed last noted holds ih =>
    have step : store.heap.Extends changed.heap := unlock_extends sound found
    exact step.trans (ih step.sound)
  | case5 store number rest id placed script found busy changed last noted free ih =>
    have step : store.heap.Extends changed.heap := unlock_extends sound found
    exact step.trans (ih step.sound)
  | case6 store number rest id placed script found busy changed more ih =>
    have step : store.heap.Extends changed.heap := unlock_extends sound found
    exact step.trans (ih step.sound)
  | case7 store number rest id placed elsewhere ih => exact ih sound

/-- A lock is dropped on a resident script by its account, which may have others dropped too. -/
theorem release_resident {store : Store} {number : UInt16} {id : SegmentId} {script : Script}
    (placed : store.heap.scriptSegment? number = some id)
    (found : store.heap.get? id = some (.script script)) (rest : List UInt16) :
    store.release (number :: rest) =
      if script.lockers = 0 ∧ script.markedDeleted then store.release rest
      else
        let changed := store.mapHeap (·.put id (some (.script (unlocked script))))
        if script.lockers ≤ 1 then
          let noted := changed.note .debug s!"script {number} marked for deletion"
          if script.holdsSuperclasses then
            noted.release (owners store.heap number script ++ rest)
          else noted.release rest
        else changed.release rest := by
  -- The script that is found is the one whose account decides.
  rw [release]
  simp only [placed]
  split
  · rename_i other foundToo
    rw [found, Option.some.injEq, Segment.script.injEq] at foundToo
    subst foundToo
    rfl
  · rename_i none_
    exact absurd found (none_ script)

/-- Locks dropped in two stretches are dropped in one. -/
theorem release_append (store : Store) (first second : List UInt16) :
    store.release (first ++ second) = (store.release first).release second := by
  -- The recursion looks at the second list only when the first is used up.
  fun_induction release store first with
  | case1 store => rfl
  | case2 store number rest absent ih =>
    rw [List.cons_append, release, absent]
    exact ih
  | case3 store number rest id placed script found idle ih =>
    rw [List.cons_append, release_resident placed found, if_pos idle]
    exact ih
  -- Here the owners come before the rest, and the second list stays behind both.
  | case4 store number rest id placed script found busy changed last noted holds ih =>
    rw [List.cons_append, release_resident placed found, if_neg busy]
    simp only [if_pos last, if_pos holds, ← List.append_assoc]
    exact ih
  | case5 store number rest id placed script found busy changed last noted free ih =>
    rw [List.cons_append, release_resident placed found, if_neg busy]
    simp only [if_pos last, if_neg free]
    exact ih
  | case6 store number rest id placed script found busy changed more ih =>
    rw [List.cons_append, release_resident placed found, if_neg busy]
    simp only [if_neg more]
    exact ih
  | case7 store number rest id placed elsewhere ih =>
    rw [List.cons_append, release]
    simp only [placed]
    exact ih

/-- Dropping one lock after the other is dropping them all. -/
theorem leads_forM_uninstantiate (numbers : List UInt16) (store : Store)
    (post : Except Fault Unit → Store → Prop) :
    Leads (numbers.forM uninstantiateScript) store post ↔
      post (.ok ()) (store.release numbers) := by
  -- Each lock is dropped in the memory that the ones before it left.
  induction numbers generalizing store with
  | nil => simp [release]
  | cons number rest ih =>
    rw [← List.singleton_append, release_append, ← ih]
    rfl

/-- After the locks that a script had taken were dropped, it gives up its own lock, or leaves. -/
theorem leads_rollBack {resident : Bool} {id : SegmentId} {script : Script} {locked : List UInt16}
    {store : Store} {post : Except Fault Unit → Store → Prop}
    (found : (store.release locked).heap.get? id = some (.script script))
    (stays : resident = true →
      post (.ok ()) ((store.release locked).mapHeap (·.modifyScript id Script.giveUp)))
    (leaves : resident = false → Leads (free id) (store.release locked) post) :
    Leads (rollBack resident id locked) store post := by
  -- Dropping the locks cannot fail; then the script was there before or it was not.
  simp only [rollBack, leads_bind, leads_forM_uninstantiate, either_ok]
  cases resident with
  | true =>
    simp only [if_true, leads_bind, StoreM.leads_require, Heap.script_eq_ok.mpr found, either_ok,
      StoreM.leads_change]
    exact stays rfl
  | false => exact leaves rfl

/-- Locking the scripts of superclasses keeps every resident script if locking each of them does. -/
theorem lockOwners_extends {lock : UInt16 → StoreM SegmentId}
    (each : ∀ owner (store : Store), store.heap.Sound →
      Leads (lock owner) store fun _ after => store.heap.Extends after.heap)
    (number : UInt16) (species locked : List UInt16) (store : Store) (sound : store.heap.Sound) :
    Leads (lockOwners lock number species locked) store
      (Either (fun _ after => store.heap.Extends after.heap) fun _ _ => False) := by
  -- What was reached is extended further by every lock, taken or dropped.
  have goesOn (owner : UInt16) : (lock owner).Keeps store.heap.Extends := by
    intro between extended
    exact (each owner between extended.sound).mono fun _ _ further => extended.trans further
  exact leads_lockOwners_keeps goesOn species locked (.refl sound)

/-- A rollback keeps every script that was resident before the one that is given up came. -/
theorem rollBack_extends {before : Heap} {resident : Bool} {id : SegmentId} {script : Script}
    (locked : List UInt16) (store : Store) (extended : before.Extends store.heap)
    (vacant : resident = false → before.get? id = none)
    (placed : store.heap.scriptSegment? script.number = some id)
    (found : store.heap.get? id = some (.script script)) :
    Leads (rollBack resident id locked) store
      (Either (fun _ after => before.Extends after.heap) fun _ _ => False) := by
  have released := release_extends store locked extended.sound
  obtain ⟨_, lockers, deleted, holds, foundAfter⟩ :=
    released.stays script.number id script placed found
  refine leads_rollBack foundAfter (fun _ => ?_) fun came => ?_
  · -- A script that was there before stays, with the lock taken back.
    exact (extended.trans released).trans (.modifyScript released.sound foundAfter ⟨_, _, _, rfl⟩)
  · -- A script that came in vain leaves.
    exact (leads_free_script released.sound foundAfter).certain fun _ _ departed =>
      (extended.trans released).depart (vacant came) foundAfter departed

/-- A script that loading answers is resident there, and if it was not, its place was empty. -/
theorem arrival_resident {before after : Store} {resources : Resources} {number : UInt16}
    {id : SegmentId} (sound : before.heap.Sound)
    (arrived : before.heap.scriptSegment? number = some id ∧ after = before ∨
      before.heap.Brought resources number id after.heap) :
    ∃ script, after.heap.get? id = some (.script script) ∧ script.number = number ∧
      after.heap.scriptSegment? number = some id ∧
      ((before.heap.scriptSegment? number).isSome = false → before.heap.get? id = none) := by
  rcases arrived with ⟨placed, rfl⟩ | brought
  · -- The script was resident already.
    obtain ⟨script, found, named, _⟩ := sound.script_of_resident placed
    exact ⟨script, found, named, placed, by simp [placed]⟩
  · have placed : after.heap.scriptSegment? number = some id := by
      rw [Heap.scriptSegment?_eq_some brought.sound.distinct, brought.residents]
      simp [Heap.setResident]
    obtain ⟨script, found, named, _⟩ := brought.sound.script_of_resident placed
    exact ⟨script, found, named, placed, fun _ => brought.vacant⟩

/-- Locking a script keeps every script that was resident, also when it fails. -/
theorem instantiateWithin_extends (resources : Resources) (bound : Nat) (number : UInt16)
    (store : Store) (sound : store.heap.Sound) :
    Leads (instantiateWithin resources bound number) store fun _ after =>
      store.heap.Extends after.heap := by
  -- The bound counts how far superclasses are followed, from any script and any memory.
  induction bound generalizing number store with
  | zero => exact .refl sound
  | succ bound ih =>
    simp only [instantiateWithin, leads_bind, StoreM.leads_read, either_ok]
    apply (leads_loadScript resources number store sound).either
    · intro id loaded arrived
      have extended : store.heap.Extends loaded.heap := by
        rcases arrived with ⟨_, same⟩ | brought
        · rw [same]
          exact .refl sound
        · exact .of_brought sound brought
      obtain ⟨script, found, named, placed, vacant⟩ := arrival_resident sound arrived
      have present := Heap.script_eq_ok.mpr found
      simp only [StoreM.leads_require, present, either_ok, StoreM.leads_change]
      have marked : loaded.heap.Extends (loaded.heap.modifyScript id fun script =>
          { script.lock.mark false with holdsSuperclasses := true }) :=
        .modifyScript extended.sound found ⟨_, _, _, rfl⟩
      split
      · exact extended.trans marked
      · -- The script that was marked stays resident while its superclasses are locked.
        obtain ⟨placedThen, lockers, deleted, holds, foundThen⟩ :=
          marked.stays number id script placed found
        rw [leads_bind]
        apply (lockOwners_extends ih number script.superclasses [] _ marked.sound).certain
        intro failure between locked
        obtain ⟨placedNow, _, _, _, foundNow⟩ := locked.stays number id _ placedThen foundThen
        have whole := (extended.trans marked).trans locked
        cases failure with
        | none => exact whole
        -- What is rolled back is in the place where the script was, or comes out of a place that
        -- was empty.
        | some failed =>
          obtain ⟨fault, taken⟩ := failed
          simp only [either_ok, leads_bind]
          apply (rollBack_extends taken between whole vacant (named ▸ placedNow) foundNow).certain
          intro _ after kept
          exact kept
    · intro fault after failed
      exact .of_alike failed.1 failed.2

end Store

end AdventureVm
