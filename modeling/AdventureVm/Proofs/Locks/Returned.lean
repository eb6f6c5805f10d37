import AdventureVm.Proofs.Locks.Accounting
import AdventureVm.Proofs.Locks.Watched
import Mathlib.Data.List.ReduceOption

/-!
A script that loses its last lock gives back the locks that it took.

Which scripts those are is not remembered but found out anew from the table of classes, so this
holds as long as the table says about the superclasses of the script what it said when they were
locked.
-/

namespace AdventureVm

namespace Locking

/-- The scripts other than the holder that were known to define its superclasses, each once. -/
def due (holder : UInt16) (answers : List (Option UInt16)) : List UInt16 :=
  (answers.reduceOption.filter (· != holder)).eraseDups

variable {holder owner : UInt16} {answers : List (Option UInt16)}

/-- One more value is a repetition, or it comes after the others. -/
theorem eraseDups_concat (values : List UInt16) (value : UInt16) :
    (values ++ [value]).eraseDups =
      if value ∈ values then values.eraseDups else values.eraseDups ++ [value] := by
  -- What a list gains at its end is removed again exactly if the list has it.
  rw [List.eraseDups_append]
  split
  · rename_i listed
    simp [List.removeAll, listed]
  · rename_i unlisted
    simp [List.removeAll, unlisted, List.eraseDups_cons]

/-- A species of no known script makes nothing due. -/
theorem due_none : due holder (answers ++ [none]) = due holder answers := by
  simp [due, List.reduceOption_append]

/-- A species of the holder itself, or of a script that is due already, makes nothing due. -/
theorem due_skip (known : owner = holder ∨ owner ∈ due holder answers) :
    due holder (answers ++ [some owner]) = due holder answers := by
  -- Either the filter drops the owner as the holder itself, or it repeats one that is listed.
  by_cases own : owner = holder
  · simp [due, own, List.reduceOption_append]
  · have listed : owner ∈ answers.reduceOption := by
      simpa [due, own] using known
    simp [due, own, List.reduceOption_append, eraseDups_concat, listed]

/-- A species of another script makes that script due after the others. -/
theorem due_take (other : owner ≠ holder) (unlisted : owner ∉ due holder answers) :
    due holder (answers ++ [some owner]) = due holder answers ++ [owner] := by
  -- The owner passes the filter and is no repetition, so it stays at the end.
  have new : owner ∉ answers.reduceOption := by
    simpa [due, other] using unlisted
  simp [due, other, List.reduceOption_append, eraseDups_concat, new]

/-- The scripts that are due by the answers so far were locked, and no others. -/
def IsHonest (locking : Locking) : Prop :=
  locking.locked = due locking.holder locking.answers

end Locking

/-- The scripts whose locks a script gives back are those that would be due by now. -/
theorem Store.owners_eq_due (heap : Heap) (number : UInt16) (script : Script) :
    owners heap number script =
      Locking.due number (script.superclasses.map heap.classes.script?) := by
  simp [owners, Locking.due, List.reduceOption, List.filterMap_map]

namespace Heap

variable {before between after : Heap} {number : UInt16} {id : SegmentId} {script : Script}

/-- Every script that holds its superclasses did so before, with the same objects. -/
def Calmer (before after : Heap) : Prop :=
  ∀ number script, after.scriptByNumber? number = some script → script.holdsSuperclasses = true →
    ∃ earlier, before.scriptByNumber? number = some earlier ∧
      earlier.holdsSuperclasses = true ∧ earlier.objects = script.objects

namespace Calmer

/-- Memory that finds the same scripts is as calm as before. -/
theorem of_same (same : after.scriptByNumber? = before.scriptByNumber?) : Calmer before after :=
  fun _ script found holds => ⟨script, same ▸ found, holds, rfl⟩

/-- What grows calmer twice has grown calmer. -/
theorem trans (first : Calmer before between) (second : Calmer between after) :
    Calmer before after := by
  -- Backwards: a holder at the end was one in between, and so one at the start.
  intro number script found holds
  obtain ⟨later, foundLater, holdsLater, sameLater⟩ := second number script found holds
  obtain ⟨earlier, foundEarlier, holdsEarlier, same⟩ := first number later foundLater holdsLater
  exact ⟨earlier, foundEarlier, holdsEarlier, same.trans sameLater⟩

/-- Memory grows calmer when what one number finds is replaced by nothing that holds anew. -/
theorem of_update {found : Option Script}
    (same : after.scriptByNumber? = Function.update before.scriptByNumber? number found)
    (calm : ∀ script, found = some script → script.holdsSuperclasses = true →
      ∃ earlier, before.scriptByNumber? number = some earlier ∧
        earlier.holdsSuperclasses = true ∧ earlier.objects = script.objects) :
    Calmer before after := by
  intro other script seen holds
  rw [same] at seen
  -- Only the number that was updated finds anything new.
  by_cases here : other = number
  · subst here
    rw [Function.update_self] at seen
    exact calm script seen holds
  · rw [Function.update_of_ne here] at seen
    exact ⟨script, seen, holds, rfl⟩

/-- A script that was loaded holds nothing yet. -/
theorem of_brought {resources : Resources} (sound : before.Sound)
    (brought : before.Brought resources number id after) : Calmer before after := by
  obtain ⟨base, locals, place, offers, found, _⟩ := brought.script
  apply of_update (brought.scriptByNumber? sound found)
  intro script same holds
  -- What was loaded is fresh, so nobody has made it hold anything.
  rw [Option.some.injEq] at same
  subst same
  have free := offers.fresh.free
  simp only at holds free
  rw [free] at holds
  simp at holds

/-- Changing who needs a script makes it hold nothing that it did not. -/
theorem put (sound : before.Sound) (placed : before.scriptSegment? number = some id)
    (found : before.get? id = some (.script script)) {lockers : Nat} {deleted holds : Bool}
    (calm : holds = true → script.holdsSuperclasses = true) :
    Calmer before
      (before.put id (some (.script (script.withLocks lockers deleted holds)))) := by
  -- Only the replaced script could be a new holder, and it is none that was not one before.
  apply of_update (scriptByNumber?_put sound placed found _)
  intro changed same holding
  rw [Option.some.injEq] at same
  subst same
  exact ⟨script, scriptByNumber?_of_placed placed found, calm holding, rfl⟩

/-- A script that has left holds nothing. -/
theorem of_departed (sound : before.Sound) (placed : before.scriptSegment? number = some id)
    (found : before.get? id = some (.script script))
    (departed : Store.Departed before id script after) : Calmer before after := by
  -- Its number sees nothing any more, so there is nothing to show of it.
  apply of_update (scriptByNumber?_departed sound placed found departed)
  intro script impossible
  simp at impossible

/-- Scripts that were swept hold nothing, and the others hold what they held. -/
theorem of_swept {freed : List Address} (sound : before.Sound)
    (swept : before.Swept freed after) : Calmer before after := by
  -- A number sees what it saw, or the script under it was swept.
  intro number script found holds
  rcases swept.scriptByNumber? sound number with same | ⟨gone, _⟩
  · exact ⟨script, same ▸ found, holds, rfl⟩
  · rw [gone] at found
    simp at found

end Calmer

end Heap

namespace Store

open Heap

/-- A script with one user less holds nothing that it did not. -/
theorem unlocked_calmer {heap : Heap} {number : UInt16} {id : SegmentId} {script : Script}
    (sound : heap.Sound) (placed : heap.scriptSegment? number = some id)
    (found : heap.get? id = some (.script script)) :
    heap.Calmer (heap.put id (some (.script (unlocked script)))) := by
  -- The last user takes the flag along, and the others leave it.
  by_cases last : script.lockers ≤ 1
  · have same : unlocked script = script.withLocks (script.lockers - 1) true false := by
      rw [unlocked, if_pos last]
      rfl
    rw [same]
    exact .put sound placed found (by simp)
  · rw [unlocked_more (by omega)]
    exact .put sound placed found fun holds => holds

/-- Dropping locks makes no script hold its superclasses. -/
theorem release_calmer (store : Store) (numbers : List UInt16) (sound : store.heap.Sound) :
    store.heap.Calmer (store.release numbers).heap := by
  -- Each step of the recursion replaces at most one script by itself with fewer users.
  fun_induction release store numbers with
  | case1 store => exact .of_same rfl
  | case2 store number rest absent ih => exact ih sound
  | case3 store number rest id placed script found idle ih => exact ih sound
  | case4 store number rest id placed script found busy changed last noted holds ih =>
    have step : store.heap.Calmer changed.heap := unlocked_calmer sound placed found
    exact step.trans (ih (unlock_extends sound found).sound)
  | case5 store number rest id placed script found busy changed last noted free ih =>
    have step : store.heap.Calmer changed.heap := unlocked_calmer sound placed found
    exact step.trans (ih (unlock_extends sound found).sound)
  | case6 store number rest id placed script found busy changed more ih =>
    have step : store.heap.Calmer changed.heap := unlocked_calmer sound placed found
    exact step.trans (ih (unlock_extends sound found).sound)
  | case7 store number rest id placed elsewhere ih => exact ih sound

/-- A rollback makes no script hold its superclasses, and the one that is given up does not. -/
theorem rollBack_calmer {resident : Bool} {number : UInt16} {id : SegmentId} {script : Script}
    (locked : List UInt16) (store : Store) (sound : store.heap.Sound)
    (placed : store.heap.scriptSegment? number = some id)
    (found : store.heap.get? id = some (.script script)) :
    Leads (rollBack resident id locked) store
      (Either (fun _ after => after.heap.Sound ∧ store.heap.Calmer after.heap ∧
        ∀ script, after.heap.scriptByNumber? number = some script →
          script.holdsSuperclasses = false) fun _ _ => False) := by
  have released := release_extends store locked sound
  have calmer := release_calmer store locked sound
  obtain ⟨placedAfter, lockers, deleted, holds, foundAfter⟩ :=
    released.stays number id script placed found
  refine leads_rollBack foundAfter (fun _ => ?_) fun _ => ?_
  · -- A script that was there before stays, but holds its superclasses no longer.
    rw [either_ok, heap_mapHeap]
    refine ⟨(Extends.modifyScript released.sound foundAfter ⟨_, _, _, rfl⟩).sound, ?_, ?_⟩
    · rw [modifyScript, modify_eq_put foundAfter]
      refine calmer.trans (Calmer.put released.sound placedAfter foundAfter ?_)
      exact fun impossible => absurd impossible Bool.false_ne_true
    · intro last seen
      rw [scriptByNumber?_modifyScript released.sound placedAfter foundAfter,
        Function.update_self, Option.some.injEq] at seen
      rw [← seen]
      rfl
  · -- A script that came in vain leaves, and nothing is found by its number.
    refine (leads_free_script released.sound foundAfter).certain fun _ after departed => ?_
    refine ⟨departed.sound, calmer.trans (.of_departed released.sound placedAfter foundAfter
      departed), ?_⟩
    intro last seen
    rw [scriptByNumber?_departed released.sound placedAfter foundAfter departed,
      Function.update_self] at seen
    simp at seen

end Store

namespace Watched

variable {watched between after : Watched} {busy : Nat → Prop} {number : UInt16}

/--
What is written down is true of memory.

Lockings that are still at work are busy; they have not gone through all their species yet.
-/
structure Faithful (busy : Nat → Prop) (watched : Watched) : Prop where
  /-- The tables agree with the segments. -/
  sound : watched.store.heap.Sound
  /-- Every locking has locked the scripts that were due. -/
  honest : ∀ index, (watched.lockings index).IsHonest
  /-- A script that holds its superclasses does so by a locking of its own. -/
  known : ∀ number script, watched.store.heap.scriptByNumber? number = some script →
    script.holdsSuperclasses = true → watched.latest number < watched.begun ∧
      (watched.locking number).holder = number ∧
      (watched.locking number).species = script.superclasses
  /-- That locking has gone through all its species, unless it is busy. -/
  complete : ∀ number script, watched.store.heap.scriptByNumber? number = some script →
    script.holdsSuperclasses = true → ¬ busy (watched.latest number) →
      (watched.locking number).answers.length = (watched.locking number).species.length

/-- Lockings may have been begun, and the first ones are as they were. -/
structure Follows (first : Nat) (before after : Watched) : Prop where
  /-- Lockings are not taken back. -/
  begun : before.begun ≤ after.begun
  /-- Nothing more is written down about the first ones. -/
  older : ∀ index < first, after.lockings index = before.lockings index

/-- What holds of some first lockings holds of fewer. -/
theorem Follows.fewer {first fewer : Nat} (follows : Follows first watched after)
    (less : fewer ≤ first) : Follows fewer watched after :=
  ⟨follows.begun, fun index small => follows.older index (by omega)⟩

/-- What is left alone twice is left alone. -/
theorem Follows.trans {first : Nat} (once : Follows first watched between)
    (again : Follows first between after) : Follows first watched after :=
  ⟨once.begun.trans again.begun,
    fun index small => (again.older index small).trans (once.older index small)⟩

namespace Faithful

/-- What is written down stays true while memory grows calmer. -/
theorem calm (faithful : Faithful busy watched) {store : Store} (sound : store.heap.Sound)
    (calmer : watched.store.heap.Calmer store.heap) : Faithful busy { watched with store } := by
  refine ⟨sound, faithful.honest, ?_, ?_⟩
  · intro number script found holds
    obtain ⟨earlier, foundEarlier, holdsEarlier, same⟩ := calmer number script found holds
    -- The superclasses of a script are told by its objects, which are the same.
    have superclasses : script.superclasses = earlier.superclasses := by
      rw [Script.superclasses, Script.superclasses, same]
    rw [superclasses]
    exact faithful.known number earlier foundEarlier holdsEarlier
  · intro number script found holds idle
    obtain ⟨earlier, foundEarlier, holdsEarlier, _⟩ := calmer number script found holds
    exact faithful.complete number earlier foundEarlier holdsEarlier idle

/-- A busy locking may advance, as long as it locks the scripts that are due. -/
theorem advance {index : Nat} (faithful : Faithful busy watched) (working : busy index)
    {answer : Option UInt16} {taken : List UInt16}
    (honest : ((watched.lockings index).advance answer taken).IsHonest) :
    Faithful busy (watched.write index (·.advance answer taken)) := by
  -- The locking keeps its holder and its species, and so do the others.
  have same : ∀ other, ((watched.write index (·.advance answer taken)).lockings other).holder =
      (watched.lockings other).holder ∧
      ((watched.write index (·.advance answer taken)).lockings other).species =
        (watched.lockings other).species := by
    intro other
    by_cases here : other = index
    · subst here
      simp [Watched.write, Locking.advance]
    · simp [Watched.write, here]
  refine ⟨faithful.sound, ?_, ?_, ?_⟩
  · intro other
    by_cases here : other = index
    · subst here
      simpa [Watched.write] using honest
    · simpa [Watched.write, here] using faithful.honest other
  · intro number script found holds
    obtain ⟨begun, ownHolder, ownSpecies⟩ := faithful.known number script found holds
    exact ⟨begun, (same _).1.trans ownHolder, (same _).2.trans ownSpecies⟩
  · intro number script found holds idle
    -- A locking that is at rest is another one.
    have elsewhere : watched.latest number ≠ index := by
      intro here
      exact idle (here ▸ working)
    have complete := faithful.complete number script found holds idle
    simpa [Watched.write, Watched.locking, elsewhere] using complete

/-- A script that comes to hold its superclasses does so by a locking that is begun for it. -/
theorem start (faithful : Faithful busy watched) {store : Store} {script : Script}
    {species : List UInt16} (sound : store.heap.Sound)
    (found : store.heap.scriptByNumber? =
      Function.update watched.store.heap.scriptByNumber? number (some script))
    (superclasses : script.superclasses = species) :
    Faithful (fun index => busy index ∨ index = watched.begun)
      (({ watched with store } : Watched).start number species) := by
  subst superclasses
  refine ⟨sound, ?_, ?_, ?_⟩
  · intro index
    by_cases here : index = watched.begun
    · subst here
      simp [Watched.start, Locking.IsHonest, Locking.due]
    · simpa [Watched.start, here] using faithful.honest index
  · intro other contents seen holds
    simp only [Watched.start, found] at seen
    by_cases here : other = number
    · subst here
      rw [Function.update_self, Option.some.injEq] at seen
      -- Its latest locking is the one that begins here.
      simp [Watched.start, Watched.locking, seen]
    · -- Another script that holds its superclasses does so by an earlier locking.
      rw [Function.update_of_ne here] at seen
      obtain ⟨begun, holder, species⟩ := faithful.known other contents seen holds
      have earlier : watched.latest other ≠ watched.begun := by omega
      simp only [Watched.start, Watched.locking, Function.update_of_ne here,
        Function.update_of_ne earlier]
      exact ⟨by omega, holder, species⟩
  · intro other contents seen holds idle
    simp only [Watched.start, found] at seen idle
    by_cases here : other = number
    · subst here
      simp at idle
    · rw [Function.update_of_ne here] at seen idle
      rw [not_or] at idle
      have complete := faithful.complete other contents seen holds idle.1
      simpa [Watched.start, Watched.locking, here, idle.2] using complete

/-- A locking is no longer busy when it is complete or its holder holds nothing. -/
theorem settle {index : Nat} (faithful : Faithful (fun other => busy other ∨ other = index) watched)
    (settled : ∀ number script, watched.store.heap.scriptByNumber? number = some script →
      script.holdsSuperclasses = true → watched.latest number = index →
        (watched.lockings index).answers.length = (watched.lockings index).species.length) :
    Faithful busy watched := by
  -- The locking that ends is covered by the assumption; any other was idle before.
  refine ⟨faithful.sound, faithful.honest, faithful.known, ?_⟩
  intro number script found holds idle
  by_cases here : watched.latest number = index
  · rw [Watched.locking, here]
    exact settled number script found holds here
  · exact faithful.complete number script found holds (by simp [idle, here])

end Faithful

end Watched

namespace Store

open Heap Watched

/-- Work whose lockings are written down as they happen, whatever lockings are busy. -/
def LocksFaithfully (work : WatchedM SegmentId) : Prop :=
  ∀ (busy : Nat → Prop) (watched : Watched), watched.Faithful busy →
    Leads work watched fun _ after => after.Faithful busy ∧ Follows watched.begun watched after

/-- How far a busy locking has come when it has gone through some species. -/
structure Advanced (busy : Nat → Prop) (index : Nat) (species : List UInt16)
    (before after : Watched) (failure : Option (Fault × List UInt16)) : Prop where
  faithful : after.Faithful busy
  follows : Follows index before after
  holder : (after.lockings index).holder = (before.lockings index).holder
  wanted : (after.lockings index).species = (before.lockings index).species
  complete : failure = none → (after.lockings index).answers.length =
    (before.lockings index).answers.length + species.length

/-- Writing about one locking leaves the ones before it alone. -/
theorem follows_write (watched : Watched) (index : Nat) (change : Locking → Locking) :
    Follows index watched (watched.write index change) := by
  -- The index written about is not below itself.
  refine ⟨Nat.le_refl _, ?_⟩
  intro other small
  have elsewhere : other ≠ index := by omega
  simp [Watched.write, elsewhere]

/-- Going through one species and then through others is going through all of them. -/
theorem Advanced.cons {busy : Nat → Prop} {index : Nat} {first : UInt16} {rest : List UInt16}
    {before between after : Watched} {failure : Option (Fault × List UInt16)}
    {answer : Option UInt16} {taken : List UInt16}
    (follows : Follows (index + 1) before between)
    (later : Advanced busy index rest (between.write index (·.advance answer taken)) after
      failure) :
    Advanced busy index (first :: rest) before after failure := by
  -- Locking one class leaves the account of the script itself alone until it is written.
  have same : between.lockings index = before.lockings index := follows.older index (by omega)
  have written : (between.write index (·.advance answer taken)).lockings index =
      (before.lockings index).advance answer taken := by
    rw [← same]
    simp [Watched.write]
  have holder := later.holder
  have wanted := later.wanted
  have complete := later.complete
  rw [written] at holder wanted complete
  refine ⟨later.faithful, ((follows.fewer (by omega)).trans
    (follows_write between index _)).trans later.follows, holder, wanted, ?_⟩
  intro succeeded
  rw [complete succeeded, Locking.advance, List.length_append, List.length_cons, List.length_cons,
    List.length_nil]
  omega

/-- Locking the scripts of superclasses is written down as it happens. -/
theorem lockOwners_faithful {lock : UInt16 → WatchedM SegmentId}
    (each : ∀ owner, LocksFaithfully (lock owner)) {busy : Nat → Prop} {index : Nat}
    {number : UInt16} (working : busy index) (species locked : List UInt16) (watched : Watched)
    (faithful : watched.Faithful busy) (begun : index < watched.begun)
    (holder : (watched.lockings index).holder = number)
    (soFar : (watched.lockings index).locked = locked) :
    Leads (lockOwnersWatched lock index number species locked) watched
      (Either (fun failure after => Advanced busy index species watched after failure)
        fun _ _ => False) := by
  -- The list of locked scripts grows from species to species, so it stays quantified over.
  induction species generalizing locked watched with
  | nil => exact ⟨faithful, ⟨Nat.le_refl _, fun _ _ => rfl⟩, rfl, rfl, fun _ => rfl⟩
  | cons first rest ih =>
    have honest := faithful.honest index
    rw [Locking.IsHonest, holder, soFar] at honest
    -- Whatever comes of the first species, it is written down and the others follow.
    have onward : ∀ (between : Watched) (answer : Option UInt16) (taken : List UInt16),
        between.Faithful busy → Follows (index + 1) watched between →
        locked ++ taken = Locking.due number ((watched.lockings index).answers ++ [answer]) →
        Leads (lockOwnersWatched lock index number rest (locked ++ taken))
          (between.write index (·.advance answer taken))
          (Either (fun failure after => Advanced busy index (first :: rest) watched after failure)
            fun _ _ => False) := by
      intro between answer taken faithfulNow follows due
      have same : between.lockings index = watched.lockings index :=
        follows.older index (by omega)
      have honestNow : ((between.lockings index).advance answer taken).IsHonest := by
        simp only [same, Locking.IsHonest, Locking.advance, holder, soFar]
        exact due
      have next := faithfulNow.advance working honestNow
      apply (ih (locked ++ taken) _ next (begun.trans_le follows.begun)
        (by simp [Watched.write, Locking.advance, same, holder])
        (by simp [Watched.write, Locking.advance, same, soFar])).certain
      intro failure after later
      exact later.cons follows
    have still : Follows (index + 1) watched watched := ⟨Nat.le_refl _, fun _ _ => rfl⟩
    simp only [lockOwnersWatched, leads_bind, WatchedM.leads_store, StoreM.leads_read, either_ok]
    split
    · -- A species of no known script is noted and passed over.
      simp only [leads_bind, WatchedM.leads_store, StoreM.leads_note, WatchedM.leads_write,
        either_ok]
      let noted := watched.store.note .warn
        s!"script {number}: superclass species {first} has no known script"
      have next := onward { watched with store := noted } none []
        (faithful.calm faithful.sound (.of_same rfl)) ⟨Nat.le_refl _, fun _ _ => rfl⟩
        (by rw [Locking.due_none, List.append_nil, honest])
      rwa [List.append_nil] at next
    · rename_i owner known
      split
      · rename_i listed
        simp only [leads_bind, WatchedM.leads_write, either_ok]
        have next := onward _ (some owner) [] faithful still
          (by rw [Locking.due_skip (honest ▸ listed), List.append_nil, honest])
        rwa [List.append_nil] at next
      · -- Locking the script is work on its own, during which this locking stays busy.
        rename_i unlisted
        rw [not_or] at unlisted
        simp only [leads_bind, WatchedM.leads_outcome, either_ok]
        apply (each owner busy watched faithful).mono
        intro outcome between kept
        obtain ⟨faithfulNow, follows⟩ := kept
        have follows : Follows (index + 1) watched between := follows.fewer (by omega)
        cases outcome with
        | ok id =>
          simp only [leads_bind, WatchedM.leads_write, either_ok]
          exact onward between (some owner) [owner] faithfulNow follows
            (by rw [Locking.due_take unlisted.1 (honest ▸ unlisted.2), honest])
        -- A refusal ends the list, and what was written down so far stays.
        | error fault =>
          have same := follows.older index (by omega)
          exact ⟨faithfulNow, follows.fewer (by omega), congrArg Locking.holder same,
            congrArg Locking.species same, fun impossible => absurd impossible (by simp)⟩

/-- Locking the scripts of superclasses while somebody watches keeps every resident script. -/
theorem lockOwnersWatched_extends (resources : Resources) (bound index : Nat) (number : UInt16)
    (species locked : List UInt16) (watched : Watched) (sound : watched.store.heap.Sound) :
    Leads (lockOwnersWatched (instantiateWatched resources bound) index number species locked)
      watched fun _ after => watched.store.heap.Extends after.store.heap := by
  -- Watching does not matter, and for the plain work this is known.
  have plain := lockOwners_extends (instantiateWithin_extends resources bound) number species
    locked watched.store sound
  exact (lockOwners_shows (instantiateWatched_shows resources bound) index number species locked
    watched fun _ after => watched.store.heap.Extends after.heap).mpr
      (plain.certain fun _ _ extended => extended)

/-- A locking that was begun is gone through, or given up, and then it is no longer busy. -/
theorem lockSuperclasses_faithful {resources : Resources} {bound index : Nat} {number : UInt16}
    (each : ∀ owner, LocksFaithfully (instantiateWatched resources bound owner))
    {busy : Nat → Prop} {species : List UInt16} (resident : Bool) {id : SegmentId} {script : Script}
    (watched : Watched) (faithful : watched.Faithful fun other => busy other ∨ other = index)
    (begun : index < watched.begun)
    (blank : watched.lockings index = { holder := number, species })
    (placed : watched.store.heap.scriptSegment? number = some id)
    (found : watched.store.heap.get? id = some (.script script)) :
    Leads (do
        match ← lockOwnersWatched (instantiateWatched resources bound) index number species [] with
        | none => return id
        | some (fault, locked) =>
          WatchedM.store (rollBack resident id locked)
          throw fault) watched
      fun _ after => after.Faithful busy ∧ Follows index watched after := by
  have went := lockOwners_faithful each (.inr rfl) species [] watched faithful begun
    (by rw [blank]) (by rw [blank])
  -- Locking others moves nothing, so the script is still found at its place.
  have kept := lockOwnersWatched_extends resources bound index number species [] watched
    faithful.sound
  rw [leads_bind]
  apply (went.and kept).mono
  intro outcome between both
  obtain ⟨advanced, extended⟩ := both
  cases outcome with
  | error fault => exact advanced.elim
  | ok failure =>
    rw [either_ok] at advanced
    have holder := advanced.holder
    rw [blank] at holder
    cases failure with
    | none =>
      -- All species are gone through, so the locking is complete.
      refine ⟨advanced.faithful.settle ?_, advanced.follows⟩
      intro other contents seen holds latest
      rw [advanced.complete rfl, advanced.wanted, blank]
      simp
    | some failed =>
      -- The script holds its superclasses no longer, so nothing is asked of the locking.
      obtain ⟨fault, locked⟩ := failed
      obtain ⟨placedNow, _, _, _, foundNow⟩ := extended.stays number id script placed found
      simp only [either_ok, leads_bind, WatchedM.leads_store]
      apply (rollBack_calmer locked between.store extended.sound placedNow foundNow).certain
      intro _ after gaveUp
      rw [either_ok, leads_throw]
      obtain ⟨sound, calmer, free⟩ := gaveUp
      have final := advanced.faithful.calm sound calmer
      refine ⟨final.settle ?_, advanced.follows.begun, advanced.follows.older⟩
      intro other contents seen holds latest
      have own := (final.known other contents seen holds).2.1
      simp only [Watched.locking] at own latest
      rw [latest, holder] at own
      rw [← own] at seen
      rw [free contents seen] at holds
      simp at holds

/-- Locking a script is written down as it happens, also when it fails. -/
theorem instantiate_faithful (resources : Resources) (bound : Nat) (number : UInt16) :
    LocksFaithfully (instantiateWatched resources bound number) := by
  -- The bound counts how far superclasses are followed, from any script and any memory.
  induction bound generalizing number with
  | zero => exact fun busy watched faithful => ⟨faithful, Nat.le_refl _, fun _ _ => rfl⟩
  | succ bound ih =>
    intro busy watched faithful
    have still : ∀ store : Store, Follows watched.begun watched { watched with store } :=
      fun _ => ⟨Nat.le_refl _, fun _ _ => rfl⟩
    simp only [instantiateWatched, leads_bind, WatchedM.leads_store, StoreM.leads_read, either_ok]
    apply (leads_loadScript resources number watched.store faithful.sound).either
    · intro id loaded arrived
      have calm : watched.store.heap.Calmer loaded.heap ∧ loaded.heap.Sound := by
        -- Loading adds scripts that hold nothing.
        rcases arrived with ⟨_, same⟩ | brought
        · rw [same]
          exact ⟨.of_same rfl, faithful.sound⟩
        · exact ⟨.of_brought faithful.sound brought, brought.sound⟩
      have after := faithful.calm calm.2 calm.1
      obtain ⟨script, found, named, placed, vacant⟩ := arrival_resident faithful.sound arrived
      have present := script_eq_ok.mpr found
      simp only [StoreM.leads_require, present, either_ok, StoreM.leads_change]
      have marked : loaded.heap.Extends (loaded.heap.modifyScript id fun script =>
          { script.lock.mark false with holdsSuperclasses := true }) :=
        .modifyScript calm.2 found ⟨_, _, _, rfl⟩
      split
      · -- A script that holds its superclasses already goes on doing so.
        rename_i holds
        refine ⟨after.calm marked.sound ?_, still _⟩
        simp only [heap_mapHeap, modifyScript, modify_eq_put found]
        exact .put calm.2 placed found fun _ => holds
      · obtain ⟨placedThen, lockers, deleted, holds, foundThen⟩ :=
          marked.stays number id script placed found
        -- The locking that begins here is busy until all superclasses are gone through.
        have seen := scriptByNumber?_modifyScript calm.2 placed found fun script =>
          { script.lock.mark false with holdsSuperclasses := true }
        have sound := marked.sound
        obtain ⟨locked, same⟩ : ∃ locked, locked = loaded.mapHeap (·.modifyScript id fun script =>
          { script.lock.mark false with holdsSuperclasses := true }) := ⟨_, rfl⟩
        have heap : locked.heap = loaded.heap.modifyScript id fun script =>
          { script.lock.mark false with holdsSuperclasses := true } := by rw [same, heap_mapHeap]
        rw [← heap] at placedThen foundThen seen sound
        rw [← same, leads_bind, WatchedM.leads_start, either_ok]
        have begun := after.start sound seen (rfl : _ = script.superclasses)
        apply (lockSuperclasses_faithful ih (watched.store.heap.scriptSegment? number).isSome _
          begun (Nat.lt_succ_self _) (by simp [Watched.start]) placedThen foundThen).mono
        intro outcome final kept
        refine ⟨kept.1, Nat.le_of_succ_le kept.2.begun, ?_⟩
        intro index small
        -- Lockings before this one are not written to.
        have elsewhere : index ≠ watched.begun := by omega
        rw [kept.2.older index small]
        simp [Watched.start, elsewhere]
    · intro fault after failed
      exact ⟨faithful.calm failed.1 (.of_same failed.2.scriptByNumber?), still _⟩

end Store

/-- One thing that is asked of the scripts in memory. -/
inductive Errand where
  /-- A script is to be loaded. -/
  | load (number : UInt16)
  /-- A script is to be locked. -/
  | lock (number : UInt16)
  /-- A lock on a script is to be dropped. -/
  | unlock (number : UInt16)
  /-- Garbage is to be collected. -/
  | collect (context : Context)

namespace Errand

/-- The memory and the journal after an errand, whether it succeeded or failed. -/
def run (resources : Resources) (store : Store) : Errand → Store
  | load number => ((Store.loadScript resources number).run store).2
  | lock number => ((Store.instantiateScript resources number).run store).2
  | unlock number => ((Store.uninstantiateScript number).run store).2
  | collect context => ((Store.collect context).run store).2

/-- What is written down, and memory, after an errand. -/
def watch (resources : Resources) (watched : Watched) : Errand → Watched
  | lock number => ((Store.instantiateWatched resources (segmentLimit + 1) number).run watched).2
  | errand => { watched with store := errand.run resources watched.store }

/-- Watching an errand does not change what it does. -/
theorem store_watch (resources : Resources) (watched : Watched) (errand : Errand) :
    (errand.watch resources watched).store = errand.run resources watched.store := by
  -- Only a lock is watched in detail; the other errands run as they are.
  cases errand with
  | lock number =>
    have same := (Store.instantiateWatched_shows resources (segmentLimit + 1) number).run_eq watched
    simp only [watch, run, Store.instantiateScript, same]
  | load number => rfl
  | unlock number => rfl
  | collect context => rfl

/-- After an errand, what is written down is true of memory if it was before. -/
theorem watch_faithful (resources : Resources) {watched : Watched}
    (faithful : watched.Faithful fun _ => False) (errand : Errand) :
    (errand.watch resources watched).Faithful fun _ => False := by
  -- Only locking makes a script hold its superclasses; whatever else is done leaves memory calmer.
  cases errand with
  | load number =>
    have loaded : Leads (Store.loadScript resources number) watched.store fun _ after =>
        after.heap.Sound ∧ watched.store.heap.Calmer after.heap := by
      apply (Store.leads_loadScript resources number watched.store faithful.sound).either
      · intro id after arrived
        rcases arrived with ⟨_, same⟩ | brought
        · rw [same]
          exact ⟨faithful.sound, .of_same rfl⟩
        · exact ⟨brought.sound, .of_brought faithful.sound brought⟩
      · intro fault after failed
        exact ⟨failed.1, .of_same failed.2.scriptByNumber?⟩
    exact faithful.calm loaded.1 loaded.2
  | lock number =>
    exact (Store.instantiate_faithful resources (segmentLimit + 1) number _ watched faithful).1
  -- Dropping locks takes the flag from scripts and gives it to none.
  | unlock number =>
    exact faithful.calm (Store.release_extends watched.store [number] faithful.sound).sound
      (Store.release_calmer watched.store [number] faithful.sound)
  | collect context =>
    obtain ⟨_, after, _, ran, swept⟩ := Store.run_collect watched.store faithful.sound context
    have same : (collect context).run resources watched.store = after := by
      simp only [run, ran]
    simp only [watch, same]
    exact faithful.calm swept.sound (.of_swept faithful.sound swept)

end Errand

/-- The memory and the journal after some errands. -/
def Store.after (resources : Resources) (store : Store) (errands : List Errand) : Store :=
  errands.foldl (Errand.run resources) store

/-- What is written down, and memory, after some errands that were watched from the start. -/
def Watched.after (resources : Resources) (store : Store) (errands : List Errand) : Watched :=
  errands.foldl (Errand.watch resources) { store }

namespace Watched

variable {resources : Resources} {version : Version} {classes : ClassTable} {journal : Journal}

/-- Watching errands does not change what they do. -/
theorem store_after (store : Store) (errands : List Errand) :
    (Watched.after resources store errands).store = Store.after resources store errands := by
  -- The last errand finds the memory that the ones before it left.
  induction errands using List.reverseRecOn with
  | nil => rfl
  | append_singleton errands errand ih =>
    simp only [Watched.after, Store.after, List.foldl_append, List.foldl_cons, List.foldl_nil]
      at ih ⊢
    rw [Errand.store_watch, ih]

/-- After any errands, what is written down is true of memory. -/
theorem after_faithful (errands : List Errand) :
    (Watched.after resources (Store.blank version classes journal) errands).Faithful
      fun _ => False := by
  -- At the start there are no scripts, and every errand keeps to what is true.
  induction errands using List.reverseRecOn with
  | nil =>
    have nobody : ∀ number, (Store.blank version classes journal).heap.scriptByNumber? number =
        none := fun number => Heap.scriptByNumber?_of_absent rfl
    refine ⟨Store.blank_sound version classes journal, fun _ => rfl, ?_, ?_⟩ <;>
      simp [Watched.after, nobody]
  | append_singleton errands errand ih =>
    simp only [Watched.after, List.foldl_append, List.foldl_cons, List.foldl_nil] at ih ⊢
    exact errand.watch_faithful resources ih

/-- The scripts that would be due by now are those that were locked, unless classes have moved. -/
theorem Faithful.owners_eq {watched : Watched} {number : UInt16} {script : Script}
    (faithful : watched.Faithful fun _ => False)
    (found : watched.store.heap.scriptByNumber? number = some script)
    (holds : script.holdsSuperclasses = true)
    (unchanged : ∀ entry ∈ script.superclasses.zip (watched.locking number).answers,
      watched.store.heap.classes.script? entry.1 = entry.2) :
    Store.owners watched.store.heap number script = (watched.locking number).locked := by
  obtain ⟨_, holder, species⟩ := faithful.known number script found holds
  have complete := faithful.complete number script found holds id
  have honest : (watched.locking number).IsHonest := faithful.honest _
  -- Every superclass was asked about, and the answer would be the same now.
  have same : script.superclasses.map watched.store.heap.classes.script? =
      (watched.locking number).answers := by
    rw [← List.forall₂_eq_eq_eq, List.forall₂_map_left_iff, List.forall₂_iff_zip]
    refine ⟨by rw [complete, species], ?_⟩
    intro kind answer member
    exact unchanged (kind, answer) member
  rw [Store.owners_eq_due, same, honest, holder]

end Watched

namespace Store

variable {resources : Resources} {version : Version} {classes : ClassTable} {journal : Journal}

/-- The last lock on a script is dropped, and then one lock on each of some other scripts. -/
def dropLast (number : UInt16) (id : SegmentId) (script : Script) (others : List UInt16) :
    StoreM Unit := do
  StoreM.change (·.put id (some (.script (script.withLocks 0 true false))))
  StoreM.note .debug s!"script {number} marked for deletion"
  others.forM uninstantiateScript

/-- Locks are given back one by one. -/
theorem run_forM_uninstantiate (numbers : List UInt16) (store : Store) :
    (numbers.forM uninstantiateScript).run store = (.ok (), store.release numbers) := by
  -- The leading condition is taken to be the outcome itself.
  have ended := (leads_forM_uninstantiate numbers store fun outcome after =>
    outcome = .ok () ∧ after = store.release numbers).mpr ⟨rfl, rfl⟩
  exact Prod.ext ended.1 ended.2

/-- A script that loses its last lock gives back a lock on each script that would be due by now. -/
theorem uninstantiate_last {store : Store} {number : UInt16} {id : SegmentId} {script : Script}
    (placed : store.heap.scriptSegment? number = some id)
    (found : store.heap.get? id = some (.script script)) (last : script.lockers = 1) :
    (uninstantiateScript number).run store = (dropLast number id script
      (if script.holdsSuperclasses then owners store.heap number script else [])).run store := by
  have busy : ¬ (script.lockers = 0 ∧ script.markedDeleted = true) := by omega
  have few : script.lockers ≤ 1 := by omega
  -- Both sides drop the last lock first and then the others.
  have left : (uninstantiateScript number).run store = (.ok (), store.release [number]) := rfl
  have right : ∀ others, (dropLast number id script others).run store =
      (.ok (), ((store.mapHeap (·.put id (some (.script (unlocked script))))).note .debug
        s!"script {number} marked for deletion").release others) := by
    intro others
    rw [unlocked_last last]
    exact run_forM_uninstantiate others _
  rw [left, right, release_resident placed found, if_neg busy]
  simp only [if_pos few]
  split
  · rw [List.append_nil]
  · rfl

/--
A script that loses its last lock gives back the locks that it took.

They are the locks that were taken when the script came to hold its superclasses, and each is given
back once, provided that the table of classes still says about the superclasses of the script what
it said when each of them was gone through. A script that does not hold its superclasses gives back
nothing.
-/
theorem last_unlock_returns (errands : List Errand) {number : UInt16} {id : SegmentId}
    {script : Script}
    (placed : (after resources (blank version classes journal) errands).heap.scriptSegment? number =
      some id)
    (found : (after resources (blank version classes journal) errands).heap.get? id =
      some (.script script))
    (last : script.lockers = 1)
    (unchanged : ∀ entry ∈ script.superclasses.zip
      ((Watched.after resources (blank version classes journal) errands).locking number).answers,
      (after resources (blank version classes journal) errands).heap.classes.script? entry.1 =
        entry.2) :
    (uninstantiateScript number).run (after resources (blank version classes journal) errands) =
      (dropLast number id script
        (if script.holdsSuperclasses then
          ((Watched.after resources (blank version classes journal) errands).locking number).locked
        else [])).run (after resources (blank version classes journal) errands) := by
  have faithful := @Watched.after_faithful resources version classes journal errands
  have same := @Watched.store_after resources (blank version classes journal) errands
  -- The store that is watched is the one that the errands lead to.
  revert placed found unchanged
  generalize Watched.after resources (blank version classes journal) errands = watched at *
  rw [← same]
  intro placed found unchanged
  rw [uninstantiate_last placed found last]
  split
  · rename_i holds
    rw [faithful.owners_eq (Heap.scriptByNumber?_of_placed placed found) holds unchanged]
  · rfl

/-- What a script says about who needs it and about its superclasses. -/
def account (heap : Heap) (number : UInt16) : Option (SegmentId × Nat × Bool × List UInt16) := do
  let id ← heap.scriptSegment? number
  let script ← (heap.script id).toOption
  return (id, script.lockers, script.holdsSuperclasses, script.superclasses)

/-- A script whose account is known is in memory. -/
theorem placed_of_account {heap : Heap} {number : UInt16} {id : SegmentId} {lockers : Nat}
    {holds : Bool} {superclasses : List UInt16}
    (known : account heap number = some (id, lockers, holds, superclasses)) :
    heap.scriptSegment? number = some id ∧ ∃ script, heap.get? id = some (.script script) ∧
      script.lockers = lockers ∧ script.holdsSuperclasses = holds ∧
      script.superclasses = superclasses := by
  obtain ⟨place, placed, rest⟩ := Option.bind_eq_some_iff.mp known
  obtain ⟨script, found, same⟩ := Option.bind_eq_some_iff.mp rest
  simp only [pure, Option.some.injEq, Prod.mk.injEq] at same
  obtain ⟨rfl, counted, held, listed⟩ := same
  -- An account is that of the script which the number finds.
  have seen : heap.scriptByNumber? number = some script := by
    rw [Heap.scriptByNumber?, placed]
    exact found
  obtain ⟨_, placedToo, there⟩ := Heap.placed_of_scriptByNumber? seen
  rw [placed, Option.some.injEq] at placedToo
  exact ⟨placed, script, placedToo ▸ there, counted, held, listed⟩

/-- An instance that was locked has locked its class, and gives that lock back with its own. -/
theorem last_unlock_returns_class :
    ∃ id script,
      (after Resources.classAndInstance (blank .sci0 (.ofScripts [(0, 1)]) #[])
        [.lock 2]).heap.get? id = some (.script script) ∧
      script.lockers = 1 ∧ script.holdsSuperclasses = true ∧
      ((Watched.after Resources.classAndInstance (blank .sci0 (.ofScripts [(0, 1)]) #[])
        [.lock 2]).locking 2).locked = [1] ∧
      (uninstantiateScript 2).run
          (after Resources.classAndInstance (blank .sci0 (.ofScripts [(0, 1)]) #[]) [.lock 2]) =
        (dropLast 2 id script [1]).run
          (after Resources.classAndInstance (blank .sci0 (.ofScripts [(0, 1)]) #[]) [.lock 2]) := by
  -- The memory is at hand, so what it says of the instance is computed.
  have known : account (after Resources.classAndInstance (blank .sci0 (.ofScripts [(0, 1)]) #[])
      [.lock 2]).heap 2 = some (1, 1, true, [0]) := by
    decide +kernel
  have locking : (Watched.after Resources.classAndInstance (blank .sci0 (.ofScripts [(0, 1)]) #[])
      [.lock 2]).locking 2 = ⟨2, [0], [some 1], [1]⟩ := by
    decide +kernel
  have still : (after Resources.classAndInstance (blank .sci0 (.ofScripts [(0, 1)]) #[])
      [.lock 2]).heap.classes.script? 0 = some 1 := by
    decide +kernel
  obtain ⟨placed, script, found, last, holds, superclasses⟩ := placed_of_account known
  have returned := last_unlock_returns [.lock 2] placed found last (by
    rw [locking, superclasses]
    simpa using still)
  rw [locking, holds] at returned
  exact ⟨1, script, found, last, holds, by rw [locking], returned⟩

/--
An instance whose class was not known when it was locked takes away a lock of somebody else.

The class is locked only after the instance, and not for it. When the instance loses its last lock,
the lock on the class goes with it.
-/
theorem unlock_takes_foreign_lock :
    ∃ id script other,
      (after Resources.classAndInstance (blank .sci0 {} #[]) [.lock 2, .lock 1]).heap.get? id =
        some (.script script) ∧ script.lockers = 1 ∧ script.holdsSuperclasses = true ∧
      (after Resources.classAndInstance (blank .sci0 {} #[])
        [.lock 2, .lock 1]).heap.scriptByNumber? 1 = some other ∧ other.lockers = 1 ∧
      ((Watched.after Resources.classAndInstance (blank .sci0 {} #[])
        [.lock 2, .lock 1]).locking 2).locked = [] ∧
      (uninstantiateScript 2).run
          (after Resources.classAndInstance (blank .sci0 {} #[]) [.lock 2, .lock 1]) =
        (dropLast 2 id script [1]).run
          (after Resources.classAndInstance (blank .sci0 {} #[]) [.lock 2, .lock 1]) := by
  have known : account (after Resources.classAndInstance (blank .sci0 {} #[])
      [.lock 2, .lock 1]).heap 2 = some (1, 1, true, [0]) := by
    decide +kernel
  have knownClass : account (after Resources.classAndInstance (blank .sci0 {} #[])
      [.lock 2, .lock 1]).heap 1 = some (2, 1, true, []) := by
    decide +kernel
  have now : (after Resources.classAndInstance (blank .sci0 {} #[])
      [.lock 2, .lock 1]).heap.classes.script? 0 = some 1 := by
    decide +kernel
  obtain ⟨placed, script, found, last, holds, superclasses⟩ := placed_of_account known
  obtain ⟨placedClass, other, foundClass, once, _⟩ := placed_of_account knownClass
  -- The class of the instance is known by now, so its script is an owner.
  have due : owners (after Resources.classAndInstance (blank .sci0 {} #[])
      [.lock 2, .lock 1]).heap 2 script = [1] := by
    simp [owners, superclasses, now, List.eraseDups_cons]
  have dropped := uninstantiate_last placed found last
  rw [holds, due] at dropped
  exact ⟨1, script, other, found, last, holds,
    Heap.scriptByNumber?_of_placed placedClass foundClass, once, by decide +kernel, dropped⟩

end Store

end AdventureVm
