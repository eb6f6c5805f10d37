import AdventureVm.Proofs.Locks.Accounting
import AdventureVm.Proofs.Locks.Turns

/-! A lock that is refused leaves the locks on all scripts as they were. -/

namespace AdventureVm

/-- The locks on a script in memory, or none. -/
def Heap.debts (heap : Heap) (number : UInt16) : Nat :=
  (heap.scriptByNumber? number).elim 0 (·.lockers)

/--
Memory is as the resources say, and each script holds its superclasses exactly while it is locked.

Who has taken the locks is left open.
-/
structure Heap.Accountable (heap : Heap) (resources : Resources) (version : Version) : Prop
    extends heap.Faithful resources version where
  /-- A script holds its superclasses exactly while it is locked. -/
  holds : ∀ number script, heap.scriptByNumber? number = some script →
    (script.holdsSuperclasses = true ↔ 0 < script.lockers)
  /-- A script that is marked is not locked. -/
  marked : ∀ number script, heap.scriptByNumber? number = some script →
    script.markedDeleted = true → script.lockers = 0

/-- What locking and unlocking goes by in a script. -/
def Script.account (script : Script) : UInt16 × List UInt16 × Nat × Bool × Bool :=
  (script.number, script.superclasses, script.lockers, script.markedDeleted,
    script.holdsSuperclasses)

/-- The same scripts are in memory, with the same accounts. -/
structure Heap.SameAccounts (before after : Heap) : Prop where
  version : after.version = before.version
  species : ∀ species, after.classes.script? species = before.classes.script? species
  accounts : ∀ number, (after.scriptByNumber? number).map Script.account =
    (before.scriptByNumber? number).map Script.account

/-- What a script needs is told by its account. -/
theorem Script.needs_iff {resources : Resources} {script : Script} {other : UInt16} :
    script.Needs resources other ↔ other ≠ script.number ∧
      ∃ species ∈ script.superclasses, resources.owner? species = some other := by
  -- The account lists the superclasses of the objects that have one.
  simp only [Needs, mem_superclasses]
  constructor
  · rintro ⟨different, object, defined, has, owner⟩
    exact ⟨different, _, ⟨object, defined, has, rfl⟩, owner⟩
  · rintro ⟨different, _, ⟨object, defined, has, rfl⟩, owner⟩
    exact ⟨different, object, defined, has, owner⟩

namespace Heap

variable {resources : Resources} {version : Version} {heap before after : Heap}

/-- Balanced books say who is held, and so all that is asked of an account. -/
theorem Balanced.accountable {owed : UInt16 → Nat} {edges : UInt16 → UInt16 → Prop}
    {busy : UInt16 → Prop} (balanced : heap.Balanced resources version owed edges busy) :
    heap.Accountable resources version :=
  ⟨balanced.faithful, balanced.books.holds, balanced.books.marked⟩

namespace Accountable

/-- Books on which every lock is owed to somebody outside, and every locked script is busy. -/
theorem balanced (accountable : heap.Accountable resources version) :
    heap.Balanced resources version heap.debts (fun _ _ => False) fun number =>
      0 < heap.debts number := by
  have owed : ∀ number script, heap.scriptByNumber? number = some script →
      heap.debts number = script.lockers := by
    intro number script seen
    simp [debts, seen]
  refine ⟨accountable.sound, accountable.format, accountable.species, ?_⟩
  constructor
  case offered => exact accountable.offered
  case lockers =>
    intro number script seen
    -- Nobody holds a lock here: each one is counted as a debt.
    rw [owed number script seen, ncard_holders_eq_zero.mpr fun _ held => held, Nat.add_zero]
  case absent =>
    intro number unseen
    exact ⟨by simp [debts, unseen], fun _ held => held⟩
  case holds => exact accountable.holds
  case marked => exact accountable.marked
  case taken => exact fun _ _ edge => edge.elim
  case complete =>
    -- Whoever holds its superclasses is locked, and so it is busy.
    intro holder script other seen holding idle _
    refine absurd ?_ idle
    rw [owed holder script seen]
    exact (accountable.holds holder script seen).mp holding
  case pending => exact fun _ working => working

/-- A script that gets another account in place keeps the rest accountable. -/
theorem put (accountable : heap.Accountable resources version) {number : UInt16} {id : SegmentId}
    {script : Script} (placed : heap.scriptSegment? number = some id)
    (found : heap.get? id = some (.script script)) {lockers : Nat} {deleted holding : Bool}
    (flag : holding = true ↔ 0 < lockers) (mark : deleted = true → lockers = 0) :
    (heap.put id (some (.script (script.withLocks lockers deleted holding)))).Accountable resources
      version := by
  refine ⟨accountable.toFaithful.put placed found lockers deleted holding, ?_, ?_⟩
  all_goals
    rw [scriptByNumber?_put accountable.sound placed found]
    intro other contents seen
    rcases Books.seen_update seen with ⟨rfl, rfl⟩ | ⟨_, earlier⟩
  · -- The script in question is as it is said to be, any other one as before.
    exact flag
  · exact accountable.holds other contents earlier
  · exact mark
  · exact accountable.marked other contents earlier

/-- Dropping a lock keeps memory accountable, also on a script that nobody has locked. -/
theorem unlock (accountable : heap.Accountable resources version) {number : UInt16}
    {id : SegmentId} {script : Script} (placed : heap.scriptSegment? number = some id)
    (found : heap.get? id = some (.script script)) :
    (heap.put id (some (.script (Store.unlocked script)))).Accountable resources version := by
  have seen := scriptByNumber?_of_placed placed found
  -- Only the last lock leaves a mark on the script.
  by_cases several : 1 < script.lockers
  · rw [Store.unlocked_more several]
    have held := (accountable.holds number script seen).mpr (by omega)
    apply accountable.put placed found
    · rw [held]
      simp only [true_iff]
      omega
    · intro deleted
      have zero := accountable.marked number script seen deleted
      omega
  · have last : Store.unlocked script = script.withLocks 0 true false := by
      have few : script.lockers - 1 = 0 := by omega
      rw [Store.unlocked, if_pos (by omega)]
      simp [Script.unlock, Script.mark, Script.withLocks, few]
    rw [last]
    exact accountable.put placed found (by simp) (by simp)

/-- Memory in which all scripts have the same accounts is as accountable. -/
theorem of_sameAccounts (accountable : before.Accountable resources version)
    (sound : after.Sound) (same : before.SameAccounts after) :
    after.Accountable resources version := by
  -- Each script in memory has the account of one that was there.
  have earlier : ∀ {number script}, after.scriptByNumber? number = some script →
      ∃ other, before.scriptByNumber? number = some other ∧ other.account = script.account := by
    intro number script seen
    have accounts := same.accounts number
    rw [seen, Option.map_some, eq_comm, Option.map_eq_some_iff] at accounts
    exact accounts
  refine ⟨⟨sound, same.version.trans accountable.format, ?_, ?_⟩, ?_, ?_⟩
  · intro species
    rw [same.species]
    exact accountable.species species
  all_goals
    intro number script seen
    obtain ⟨other, seenBefore, account⟩ := earlier seen
    simp only [Script.account, Prod.mk.injEq] at account
    obtain ⟨named, superclasses, lockers, deleted, holding⟩ := account
  · -- What the script needs depends on its number and its superclasses only.
    obtain ⟨numbered, needed⟩ := accountable.offered number other seenBefore
    refine ⟨named ▸ numbered, ?_⟩
    intro owner needs
    apply needed owner
    rw [Script.needs_iff, named, superclasses]
    exact Script.needs_iff.mp needs
  · rw [← lockers, ← holding]
    exact accountable.holds number other seenBefore
  · rw [← lockers, ← deleted]
    exact accountable.marked number other seenBefore

end Accountable

end Heap

namespace Store

variable {resources : Resources} {version : Version}

/-- Dropping locks keeps memory accountable, whether they were given or not. -/
theorem release_accountable (store : Store) (numbers : List UInt16)
    (accountable : store.heap.Accountable resources version) :
    (store.release numbers).heap.Accountable resources version := by
  -- Each step replaces at most one script by itself with one lock less.
  fun_induction release store numbers with
  | case1 store => exact accountable
  | case2 store number rest absent ih => exact ih accountable
  | case3 store number rest id placed script found idle ih => exact ih accountable
  | case4 store number rest id placed script found busy changed last noted holds ih =>
    exact ih (accountable.unlock placed found)
  | case5 store number rest id placed script found busy changed last noted free ih =>
    exact ih (accountable.unlock placed found)
  | case6 store number rest id placed script found busy changed more ih =>
    exact ih (accountable.unlock placed found)
  | case7 store number rest id placed elsewhere ih => exact ih accountable

/--
The memories that loading, locking, unlocking and collecting lead to, and other work beside.

Locks may be dropped that were never given. The other work leaves the accounts of scripts alone.
-/
inductive Handled (resources : Resources) (version : Version) : Store → Prop where
  | start (journal : Journal) :
      Handled resources version (blank version (.ofScripts resources.classScripts) journal)
  | load {store : Store} (handled : Handled resources version store) (number : UInt16) :
      Handled resources version ((loadScript resources number).run store).2
  /-- A lock was asked for, and given or refused. -/
  | lock {store : Store} (handled : Handled resources version store) (number : UInt16) :
      Handled resources version ((instantiateScript resources number).run store).2
  | unlock {store : Store} (handled : Handled resources version store) (number : UInt16) :
      Handled resources version ((uninstantiateScript number).run store).2
  | collect {store : Store} (handled : Handled resources version store) (context : Context) :
      Handled resources version ((Store.collect context).run store).2
  | work {store : Store} {action : Action} (handled : Handled resources version store)
      (fits : action.Fits store.heap)
      (same : store.heap.SameAccounts (action.run store).heap) :
      Handled resources version (action.run store)

/-- Every memory that is handled so is accountable. -/
theorem Handled.accountable (orderly : resources.Orderly version) {store : Store}
    (handled : Handled resources version store) : store.heap.Accountable resources version := by
  induction handled with
  | start journal => exact (blank_balanced journal).accountable
  | @load store _ number ih =>
    -- Loading leaves the counts of all scripts that were there.
    have kept : Leads (loadScript resources number) store fun _ after =>
        after.heap.Accountable resources version := by
      apply (leads_loadScript resources number store ih.sound).either
      · intro id after arrived
        rcases arrived with ⟨_, rfl⟩ | brought
        · exact ih
        · exact (ih.balanced.of_brought orderly brought).accountable
      · intro fault after failed
        exact (ih.balanced.of_alike failed.1 failed.2).accountable
    exact kept
  | @lock store _ number ih =>
    -- A refused lock has given back what it took, so both endings balance.
    have kept : Leads (instantiateWithin resources (segmentLimit + 1) number) store
        fun _ after => after.heap.Accountable resources version := by
      apply (instantiateWithin_balanced orderly (segmentLimit + 1) number store _ _ _
        ih.balanced).either
      · rintro _ after ⟨_, _, balanced⟩
        exact balanced.accountable
      · rintro _ after ⟨_, _, balanced⟩
        exact balanced.accountable
    exact kept
  | @unlock store _ number ih => exact release_accountable store [number] ih
  | collect _ context ih => exact (collect_balanced ih.balanced context).accountable
  | work _ fits same ih => exact ih.of_sameAccounts (Action.run_sound ih.sound fits) same

/-- A script that is seen by its number is resident, and a resident script is seen. -/
theorem isSome_scriptSegment? {heap : Heap} (sound : heap.Sound) (number : UInt16) :
    (heap.scriptSegment? number).isSome = (heap.scriptByNumber? number).isSome := by
  -- The place that a script is said to be in holds that script.
  cases placed : heap.scriptSegment? number with
  | none =>
    rw [Heap.scriptByNumber?_of_absent placed]
    rfl
  | some id =>
    obtain ⟨script, found, _⟩ := sound.script_of_resident placed
    rw [Heap.scriptByNumber?_of_placed placed found]
    rfl

/-- After a refusal, every script that was in memory still is, and differs at most by its mark. -/
theorem refused_stays (orderly : resources.Orderly version) {store after : Store}
    (accountable : store.heap.Accountable resources version) {number : UInt16} {fault : Fault}
    (refused : (instantiateScript resources number).run store = (.error fault, after)) :
    after.heap.Accountable resources version ∧
      ∀ other script, store.heap.scriptByNumber? other = some script → ∃ deleted,
        after.heap.scriptByNumber? other = some { script with markedDeleted := deleted } := by
  have locks := instantiateWithin_balanced orderly (segmentLimit + 1) number store _ _ _
    accountable.balanced
  have extended := instantiateWithin_extends resources (segmentLimit + 1) number store
    accountable.sound
  rw [Leads, show (instantiateWithin resources (segmentLimit + 1) number).run store =
    (.error fault, after) from refused] at locks extended
  obtain ⟨edges, grown, balanced⟩ := locks
  refine ⟨balanced.accountable, ?_⟩
  -- Scripts that were locked are busy and take no locks, so no script has taken any.
  have unheld := balanced.books.unheld orderly fun holder other edge => by
    by_contra owing
    exact (grown.kept holder other (Nat.pos_of_ne_zero owing)).mp edge
  intro other script seen
  obtain ⟨id, placed, found⟩ := Heap.placed_of_scriptByNumber? seen
  obtain ⟨placedThen, lockers, deleted, holding, foundThen⟩ :=
    extended.stays other id script placed found
  have seenThen := Heap.scriptByNumber?_of_placed placedThen foundThen
  have owed : lockers = script.lockers := by
    have balance := balanced.books.lockers other _ seenThen
    rw [ncard_holders_eq_zero.mpr fun holder => unheld holder other] at balance
    simpa [Heap.debts, seen, Script.withLocks] using balance
  -- Whether it is locked tells whether it holds its superclasses, before and afterwards.
  have held : holding = script.holdsSuperclasses := by
    have afterwards := balanced.books.holds other _ seenThen
    rw [Bool.eq_iff_iff, accountable.holds other script seen, ← owed]
    exact afterwards
  subst owed held
  exact ⟨deleted, seenThen⟩

/--
A lock that is refused leaves everything in memory as it was, but for marks.

The script is in memory afterwards if it was before. Every script that was in memory still is, and
differs at most by a mark, which a script gets if nobody has locked it and superclasses lead to it.
-/
theorem refused_lock_restores (orderly : resources.Orderly version) {store after : Store}
    (handled : Handled resources version store) {number : UInt16} {fault : Fault}
    (refused : (instantiateScript resources number).run store = (.error fault, after)) :
    (after.heap.scriptSegment? number).isSome = (store.heap.scriptSegment? number).isSome ∧
      ∀ other script, store.heap.scriptByNumber? other = some script →
        after.heap.scriptByNumber? other = some script ∨
        after.heap.scriptByNumber? other = some { script with markedDeleted := true } ∧
          script.lockers = 0 ∧ script.markedDeleted = false ∧
          LedTo resources version number other := by
  have accountable := handled.accountable orderly
  obtain ⟨accountableThen, stays⟩ := refused_stays orderly accountable refused
  have turned := instantiateWithin_turned orderly (segmentLimit + 1) number store
    accountable.toFaithful
  rw [Leads, show (instantiateWithin resources (segmentLimit + 1) number).run store =
    (.error fault, after) from refused] at turned
  obtain ⟨turned, absent⟩ := turned
  constructor
  · rw [isSome_scriptSegment? accountableThen.sound, isSome_scriptSegment? accountable.sound]
    cases seen : store.heap.scriptByNumber? number with
    -- A script that is not there has no place, before or after.
    | none =>
      have nowhere := isSome_scriptSegment? accountable.sound number
      rw [seen, Option.isSome_none, Option.isSome_eq_false_iff, Option.isNone_iff_eq_none]
        at nowhere
      rw [absent nowhere]
    | some script =>
      obtain ⟨_, seenThen⟩ := stays number script seen
      rw [seenThen]
      rfl
  · intro other script seen
    obtain ⟨deleted, seenThen⟩ := stays other script seen
    -- The account is as before, so only the mark can differ.
    by_cases same : deleted = script.markedDeleted
    · subst same
      exact .inl seenThen
    · right
      cases marked : script.markedDeleted with
      | true =>
        -- A script that was marked is locked or marked afterwards, and it is not locked.
        have free := accountable.marked other script seen marked
        have claimed : IsClaimed (store.heap.scriptByNumber? other) := by
          intro contents present
          rw [seen, Option.some.injEq] at present
          exact .inr (present ▸ marked)
        rcases turned.turns.claimed claimed _ seenThen with locked | marks
        · exact absurd locked (by simp [free])
        · exact absurd (marks.trans marked.symm) same
      | false =>
        have marks : deleted = true := by simpa [marked] using same
        subst marks
        have free : ({ script with markedDeleted := true } : Script).lockers = 0 :=
          accountableThen.marked other _ seenThen rfl
        refine ⟨seenThen, free, rfl, ?_⟩
        -- A script that superclasses do not lead to is as it was.
        by_contra apart
        rw [turned.turns.untouched apart, seen, Option.some.injEq] at seenThen
        rw [seenThen] at marked
        cases marked

end Store

namespace Resources

/-- Resources that offer less are in order when those that offer more are. -/
theorem Orderly.of_fewer {resources fewer : Resources} {version : Version}
    (orderly : resources.Orderly version) (named : fewer.classScripts = resources.classScripts)
    (offered : ∀ {number id script locals}, fewer.Offers version number id script locals →
      resources.Offers version number id script locals) : fewer.Orderly version := by
  have owner : ∀ species, fewer.owner? species = resources.owner? species := by
    intro species
    rw [owner?, owner?, named]
  constructor
  · intro number id script locals offers object member isClass
    rw [owner]
    exact orderly.owned number id script locals (offered offers) object member isClass
  · intro number cycle
    -- A cycle of dependences among fewer scripts is one among all.
    refine orderly.acyclic number (Relation.TransGen.mono ?_ number number cycle)
    intro holder other depends
    obtain ⟨id, script, locals, offers, needs⟩ := depends
    exact ⟨id, script, locals, offered offers, by simpa only [Script.Needs, owner] using needs⟩

/-- The script with the instance, without the script that its class is in. -/
def instanceAlone : Resources :=
  { classAndInstance with
    script? := fun number => if number = 2 then classAndInstance.script? 2 else none }

/-- The script is in order on its own. -/
theorem instanceAlone_orderly : instanceAlone.Orderly .sci0 := by
  have named : instanceAlone.classScripts = classAndInstance.classScripts := rfl
  apply classAndInstance_orderly.of_fewer named
  intro number id script locals offers
  obtain ⟨bytes, heap, journal, after, stored, heapStored, loaded⟩ := offers
  refine ⟨bytes, heap, journal, after, ?_, heapStored, loaded⟩
  -- What is offered here is offered there as well.
  by_cases second : number = 2
  · simpa [instanceAlone, second] using stored
  · simp [instanceAlone, second] at stored

end Resources

namespace Store

/-- The memory into which the instance was loaded without its class. -/
def instanceLoaded : Store :=
  ((loadScript .instanceAlone 2).run
    (blank .sci0 (.ofScripts Resources.instanceAlone.classScripts) #[])).2

/-- A lock on an instance without its class is refused, and leaves nothing but a mark. -/
theorem refused_lock_restores_instance :
    Resources.instanceAlone.Orderly .sci0 ∧ Handled .instanceAlone .sci0 instanceLoaded ∧
      ∃ fault after script,
        (instantiateScript .instanceAlone 2).run instanceLoaded = (.error fault, after) ∧
        instanceLoaded.heap.scriptByNumber? 2 = some script ∧
        (after.heap.scriptSegment? 2).isSome = true ∧
        after.heap.scriptByNumber? 2 = some { script with markedDeleted := true } := by
  have handled : Handled .instanceAlone .sci0 instanceLoaded := .load (.start #[]) 2
  have failed : ((instantiateScript .instanceAlone 2).run instanceLoaded).1.toOption = none := by
    decide +kernel
  obtain ⟨fault, refused⟩ := StoreM.failed_of_toOption failed
  have unmarked : (instanceLoaded.heap.scriptByNumber? 2).map (·.markedDeleted) = some false := by
    decide +kernel
  have marked : (((instantiateScript .instanceAlone 2).run
      instanceLoaded).2.heap.scriptByNumber? 2).map (·.markedDeleted) = some true := by
    decide +kernel
  obtain ⟨script, resident, fresh⟩ := Option.map_eq_some_iff.mp unmarked
  have restored := refused_lock_restores Resources.instanceAlone_orderly handled refused
  refine ⟨Resources.instanceAlone_orderly, handled, fault, _, script, refused, resident,
    restored.1.trans (by decide +kernel), ?_⟩
  -- The script cannot be the same, since it was not marked before.
  rcases restored.2 2 script resident with same | changed
  · rw [same, Option.map_some, fresh] at marked
    cases marked
  · exact changed.1

end Store

/--
Three scripts of which two need each other.

Script 10 has instances of two classes. The first class is in script 11, which needs script 13,
which needs script 11 again. The second is in script 12, which is missing.
-/
def Resources.ring : Resources where
  script?
    | 10 => some #[0, 0, 0, 0, 1, 0, 24, 0, 52, 18, 0, 0, 8, 0, 4, 0, 1, 0, 1, 0, 0, 0, 56, 0, 0, 0,
      0, 0, 1, 0, 24, 0, 52, 18, 0, 0, 8, 0, 4, 0, 3, 0, 3, 0, 0, 0, 58, 0, 0, 0, 0, 0, 5, 0, 8, 0,
      80, 0, 81, 0, 2, 0, 4, 0, 8, 0, 10, 0, 2, 0, 22, 0, 46, 0, 0, 0]
    | 11 => some #[0, 0, 0, 0, 6, 0, 32, 0, 52, 18, 0, 0, 16, 0, 4, 0, 1, 0, 255, 255, 0, 128, 64, 0,
      0, 16, 1, 16, 2, 16, 3, 16, 0, 0, 0, 0, 1, 0, 24, 0, 52, 18, 0, 0, 8, 0, 4, 0, 2, 0, 2, 0, 0,
      0, 66, 0, 0, 0, 0, 0, 5, 0, 8, 0, 88, 0, 89, 0, 2, 0, 4, 0, 8, 0, 10, 0, 2, 0, 22, 0, 54, 0,
      0, 0]
    | 13 => some #[0, 0, 0, 0, 6, 0, 32, 0, 52, 18, 0, 0, 16, 0, 4, 0, 2, 0, 255, 255, 0, 128, 64, 0,
      0, 16, 1, 16, 2, 16, 3, 16, 0, 0, 0, 0, 1, 0, 24, 0, 52, 18, 0, 0, 8, 0, 4, 0, 1, 0, 1, 0, 0,
      0, 66, 0, 0, 0, 0, 0, 5, 0, 8, 0, 89, 0, 88, 0, 2, 0, 4, 0, 8, 0, 10, 0, 2, 0, 22, 0, 54, 0,
      0, 0]
    | _ => none
  classScripts := [(1, 11), (2, 13), (3, 12)]

namespace Store

/-- The memory into which one of the two scripts that need each other was loaded. -/
def ringLoaded : Store :=
  ((loadScript .ring 11).run (blank .sci0 (.ofScripts Resources.ring.classScripts) #[])).2

/-- Where scripts need each other, a lock that is refused can leave a script locked. -/
theorem refused_lock_leaks :
    ringLoaded.Arises ∧
      ∃ fault after, (instantiateScript .ring 10).run ringLoaded = (.error fault, after) ∧
        (ringLoaded.heap.scriptByNumber? 11).map (fun script =>
          (script.lockers, script.markedDeleted, script.holdsSuperclasses)) =
            some (0, false, false) ∧
        (after.heap.scriptByNumber? 11).map (fun script =>
          (script.lockers, script.markedDeleted, script.holdsSuperclasses)) =
            some (1, false, true) := by
  have arises : ((Action.loadScript .ring 11).run
      (blank .sci0 (.ofScripts Resources.ring.classScripts) #[])).Arises :=
    .step (.blank .sci0 _ #[]) trivial
  -- The scripts of the ring lock each other, so taking back one lock leaves the other one.
  have leaked : (fun ended : Except Fault SegmentId × Store => (ended.1.toOption,
      (ended.2.heap.scriptByNumber? 11).map fun script =>
        (script.lockers, script.markedDeleted, script.holdsSuperclasses)))
      ((instantiateScript .ring 10).run ringLoaded) = (none, some (1, false, true)) := by
    cbv
  rw [Prod.mk.injEq] at leaked
  obtain ⟨fault, refused⟩ := StoreM.failed_of_toOption leaked.1
  exact ⟨arises, fault, _, refused, by decide +kernel, leaked.2⟩

end Store

end AdventureVm
