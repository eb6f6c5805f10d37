import AdventureVm.Proofs.Memory.Locking
import Mathlib.Data.FinEnum
import Mathlib.Data.Set.Card
import Mathlib.Logic.Relation

/-! The books that balance the locks on scripts against those who hold them. -/

namespace AdventureVm

/-- The script that a game's resources name as the one that defines the class of a species. -/
def Resources.owner? (resources : Resources) (species : UInt16) : Option UInt16 :=
  (ClassTable.ofScripts resources.classScripts).script? species

/-- A script has an object whose superclass is defined in the other script. -/
def Script.Needs (resources : Resources) (script : Script) (other : UInt16) : Prop :=
  other ≠ script.number ∧ ∃ object ∈ script.objects, object.hasSuperclass = true ∧
    resources.owner? object.superclass = some other

/-- The other script is needed by the script that the resources offer under a number. -/
def Resources.Depends (resources : Resources) (version : Version) (number other : UInt16) : Prop :=
  ∃ id script locals, resources.Offers version number id script locals ∧
    script.Needs resources other

/-- Each class is defined only by the script that is named for it, and no script needs itself. -/
structure Resources.Orderly (resources : Resources) (version : Version) : Prop where
  /-- A class is in the script that the resources name for its species. -/
  owned : ∀ number id script locals, resources.Offers version number id script locals →
    ∀ object ∈ script.objects, object.isClass = true →
      resources.owner? object.species = some number
  /-- Following superclasses from script to script leads to no script twice. -/
  acyclic : ∀ number, ¬ Relation.TransGen (resources.Depends version) number number

/-- From every script, going back to scripts that need it comes to an end. -/
theorem Resources.Orderly.wellFounded {resources : Resources} {version : Version}
    (orderly : resources.Orderly version) : WellFounded (resources.Depends version) := by
  -- There are finitely many numbers, and no way leads from one back to itself.
  have irreflexive : Std.Irrefl (Relation.TransGen (resources.Depends version)) :=
    ⟨orderly.acyclic⟩
  have transitive : IsTrans UInt16 (Relation.TransGen (resources.Depends version)) :=
    ⟨fun _ _ _ => Relation.TransGen.trans⟩
  exact Subrelation.wf Relation.TransGen.single
    (Finite.wellFounded_of_trans_of_irrefl (Relation.TransGen (resources.Depends version)))

/-- Locks that are owed to nobody in particular, after more of them were given out. -/
def charge (owed : UInt16 → Nat) (numbers : List UInt16) (number : UInt16) : Nat :=
  owed number + numbers.count number

/-- Who has locked a script for the sake of its superclasses. -/
def holders (edges : UInt16 → UInt16 → Prop) (number : UInt16) : Set UInt16 :=
  { holder | edges holder number }

/--
The locks on the scripts in memory are accounted for.

Every lock is owed to somebody outside, or was taken by a script for the sake of a superclass. A
script that is busy may still be taking such locks; every other script that holds its superclasses
has taken all of them.
-/
structure Books (resources : Resources) (version : Version) (view : UInt16 → Option Script)
    (owed : UInt16 → Nat) (edges : UInt16 → UInt16 → Prop) (busy : UInt16 → Prop) : Prop where
  /-- A script in memory knows its number and needs what the resources say that it needs. -/
  offered : ∀ number script, view number = some script → script.number = number ∧
    ∀ other, script.Needs resources other → resources.Depends version number other
  /-- Every lock is accounted for. -/
  lockers : ∀ number script, view number = some script →
    script.lockers = owed number + (holders edges number).ncard
  /-- Nobody has locked a script that is not in memory. -/
  absent : ∀ number, view number = none → owed number = 0 ∧ ∀ holder, ¬ edges holder number
  /-- A script holds its superclasses exactly while it is locked. -/
  holds : ∀ number script, view number = some script →
    (script.holdsSuperclasses = true ↔ 0 < script.lockers)
  /-- A script that is marked is not locked. -/
  marked : ∀ number script, view number = some script → script.markedDeleted = true →
    script.lockers = 0
  /-- Only a script that holds its superclasses has locked others, and only those it needs. -/
  taken : ∀ holder other, edges holder other → ∃ script, view holder = some script ∧
    script.holdsSuperclasses = true ∧ script.Needs resources other
  /-- Unless it is busy, it has locked all of those. -/
  complete : ∀ holder script other, view holder = some script →
    script.holdsSuperclasses = true → ¬ busy holder → script.Needs resources other →
    edges holder other
  /-- A busy script is locked for the sake of whoever is at work on it. -/
  pending : ∀ number, busy number → 0 < owed number

/-- The edges without those of one holder. -/
def without (edges : UInt16 → UInt16 → Prop) (number holder other : UInt16) : Prop :=
  edges holder other ∧ holder ≠ number

/-- The edges and one more. -/
def adding (edges : UInt16 → UInt16 → Prop) (number owner holder other : UInt16) : Prop :=
  edges holder other ∨ holder = number ∧ other = owner

/-- A script that nobody has locked has no holders to count. -/
theorem ncard_holders_eq_zero {edges : UInt16 → UInt16 → Prop} {number : UInt16} :
    (holders edges number).ncard = 0 ↔ ∀ holder, ¬ edges holder number := by
  -- There are finitely many holders, so a count of zero means none.
  rw [Set.ncard_eq_zero, Set.eq_empty_iff_forall_notMem]
  rfl

open Classical in
/-- Without one holder, each script that it had locked has one holder less. -/
theorem ncard_without (edges : UInt16 → UInt16 → Prop) (number other : UInt16) :
    (holders (without edges number) other).ncard + (if edges number other then 1 else 0) =
      (holders edges other).ncard := by
  -- The holder is taken out of the set, if it was in it.
  have same : holders (without edges number) other = holders edges other \ {number} := by
    ext holder
    simp [holders, without]
  rw [same]
  split
  · rename_i edge
    exact Set.ncard_sdiff_singleton_add_one edge
  · rename_i none_
    have outside : number ∉ holders edges other := none_
    rw [Set.sdiff_singleton_eq_self outside, Nat.add_zero]

/-- With one more edge, the script it leads to has one holder more. -/
theorem ncard_adding {edges : UInt16 → UInt16 → Prop} {number owner : UInt16}
    (fresh : ¬ edges number owner) (other : UInt16) :
    (holders (adding edges number owner) other).ncard =
      (holders edges other).ncard + if other = owner then 1 else 0 := by
  -- The new holder is put into one set, in which it was not.
  split
  · rename_i here
    subst here
    have same : holders (adding edges number other) other =
        insert number (holders edges other) := by
      ext holder
      simp [holders, adding, or_comm]
    have outside : number ∉ holders edges other := fresh
    rw [same, Set.ncard_insert_of_notMem outside]
  · rename_i elsewhere
    have same : holders (adding edges number owner) other = holders edges other := by
      ext holder
      simp [holders, adding, elsewhere]
    rw [same, Nat.add_zero]

/-- A lock that is given out is owed on the script that it is on. -/
theorem charge_cons (owed : UInt16 → Nat) (number : UInt16) (rest : List UInt16) (other : UInt16) :
    charge owed (number :: rest) other =
      charge owed rest other + if other = number then 1 else 0 := by
  unfold charge
  rw [List.count_cons]
  -- The number that is added is counted where it is looked for.
  by_cases same : other = number
  · simp [same]
    omega
  · have different : (number == other) = false := by simpa using Ne.symm same
    simp [same, different]

/-- What is owed to somebody stays owed when more is given out. -/
theorem charge_pending {owed : UInt16 → Nat} {busy : UInt16 → Prop}
    (pending : ∀ holder, busy holder → 0 < owed holder) (numbers : List UInt16) :
    ∀ holder, busy holder → 0 < charge owed numbers holder := by
  -- Charging adds to what is owed and takes nothing away.
  intro holder working
  have owing := pending holder working
  unfold charge
  omega

/-- A list without repetitions charges one lock on each of its members. -/
theorem charge_append {numbers : List UInt16} (distinct : numbers.Nodup) (owed : UInt16 → Nat)
    (rest : List UInt16) (other : UInt16) :
    charge owed (numbers ++ rest) other =
      charge owed rest other + if other ∈ numbers then 1 else 0 := by
  unfold charge
  rw [List.count_append]
  -- A member occurs once, anything else not at all.
  split
  · rename_i member
    rw [List.count_eq_one_of_mem distinct member]
    omega
  · rename_i absent
    rw [List.count_eq_zero.mpr absent]
    omega

namespace Books

variable {resources : Resources} {version : Version} {view : UInt16 → Option Script}
  {owed : UInt16 → Nat} {edges : UInt16 → UInt16 → Prop} {busy : UInt16 → Prop}
  {number : UInt16} {script : Script}

/-- What is seen after one script was set is that script, or was seen before. -/
theorem seen_update {new contents : Script} {other : UInt16}
    (seen : Function.update view number (some new) other = some contents) :
    other = number ∧ contents = new ∨ other ≠ number ∧ view other = some contents := by
  -- By whether the number is the one that was set.
  by_cases same : other = number
  · subst same
    rw [Function.update_self, Option.some.injEq] at seen
    exact .inl ⟨rfl, seen.symm⟩
  · rw [Function.update_of_ne same] at seen
    exact .inr ⟨same, seen⟩

/-- What is not seen after one script was set was not seen before. -/
theorem unseen_update {new : Script} {other : UInt16}
    (unseen : Function.update view number (some new) other = none) :
    other ≠ number ∧ view other = none := by
  -- The script that was set is seen, so the number is another one.
  by_cases same : other = number
  · subst same
    rw [Function.update_self] at unseen
    cases unseen
  · rw [Function.update_of_ne same] at unseen
    exact ⟨same, unseen⟩

/-- A script that somebody outside has locked is in memory. -/
theorem present (books : Books resources version view owed edges busy)
    (outstanding : 0 < owed number) : ∃ script, view number = some script := by
  -- Nothing is owed on a script that is not there.
  cases found : view number with
  | none =>
    have zero := (books.absent number found).1
    omega
  | some script => exact ⟨script, rfl⟩

/-- A script that is not locked is locked by nobody. -/
theorem unlocked (books : Books resources version view owed edges busy)
    (found : view number = some script) (free : script.lockers = 0) :
    owed number = 0 ∧ ∀ holder, ¬ edges holder number := by
  -- A holder would be counted.
  have balance := books.lockers number script found
  exact ⟨by omega, ncard_holders_eq_zero.mp (by omega)⟩

/-- A script that has taken a lock holds its superclasses and needs what it has locked. -/
theorem reason (books : Books resources version view owed edges busy)
    (found : view number = some script) {other : UInt16} (edge : edges number other) :
    script.holdsSuperclasses = true ∧ script.Needs resources other := by
  -- The books name a resident script that took the lock; under its number there is only one.
  obtain ⟨contents, seen, holds, needs⟩ := books.taken number other edge
  rw [found, Option.some.injEq] at seen
  rw [seen]
  exact ⟨holds, needs⟩

/-- A script that does not hold its superclasses is locked by nobody and has locked nobody. -/
theorem idle (books : Books resources version view owed edges busy)
    (found : view number = some script) (free : ¬ script.holdsSuperclasses = true) :
    owed number = 0 ∧ (∀ holder, ¬ edges holder number) ∧ ∀ other, ¬ edges number other := by
  have zero : script.lockers = 0 := by
    have flag := books.holds number script found
    by_contra positive
    exact free (flag.mpr (by omega))
  obtain ⟨unowed, unheld⟩ := books.unlocked found zero
  -- Only a script that holds its superclasses has taken a lock.
  exact ⟨unowed, unheld, fun other edge => free (books.reason found edge).1⟩

/--
The books stay balanced when one script gets another account and locks change hands.

What changes hands is given by the new debts and the new edges; only the script itself may get edges
that it did not have.
-/
theorem adjust (books : Books resources version view owed edges busy)
    (found : view number = some script) {lockers : Nat} {deleted holds : Bool}
    {owed' : UInt16 → Nat} {edges' : UInt16 → UInt16 → Prop} {busy' : UInt16 → Prop}
    (balance : ∀ other, owed' other + (holders edges' other).ncard =
      if other = number then lockers else owed other + (holders edges other).ncard)
    (flag : holds = true ↔ 0 < lockers) (mark : deleted = true → lockers = 0)
    (taken : ∀ holder other, edges' holder other →
      if holder = number then holds = true ∧ script.Needs resources other else edges holder other)
    (own : holds = true → ¬ busy' number → ∀ other, script.Needs resources other →
      edges' number other)
    (others : ∀ holder other, holder ≠ number → ¬ busy' holder →
      ¬ busy holder ∧ (edges holder other → edges' holder other))
    (pending : ∀ holder, busy' holder → 0 < owed' holder) :
    Books resources version
      (Function.update view number (some (script.withLocks lockers deleted holds)))
      owed' edges' busy' := by
  -- Every fact is about the script itself, whose account is given, or about another one.
  constructor
  case offered =>
    intro other contents seen
    rcases seen_update seen with ⟨rfl, rfl⟩ | ⟨_, earlier⟩
    · exact books.offered other script found
    · exact books.offered other contents earlier
  case lockers =>
    intro other contents seen
    rw [balance]
    rcases seen_update seen with ⟨rfl, rfl⟩ | ⟨different, earlier⟩
    · rw [if_pos rfl]
      rfl
    · rw [if_neg different]
      exact books.lockers other contents earlier
  case absent =>
    intro other unseen
    obtain ⟨different, earlier⟩ := unseen_update unseen
    -- Nothing was owed on it and nobody had locked it, so the same holds now.
    obtain ⟨unowed, unheld⟩ := books.absent other earlier
    have after := balance other
    rw [if_neg different, unowed, ncard_holders_eq_zero.mpr unheld] at after
    exact ⟨by omega, ncard_holders_eq_zero.mp (by omega)⟩
  case holds =>
    intro other contents seen
    rcases seen_update seen with ⟨rfl, rfl⟩ | ⟨_, earlier⟩
    · exact flag
    · exact books.holds other contents earlier
  case marked =>
    intro other contents seen
    rcases seen_update seen with ⟨rfl, rfl⟩ | ⟨_, earlier⟩
    · exact mark
    · exact books.marked other contents earlier
  case taken =>
    intro holder other edge
    have reason := taken holder other edge
    by_cases same : holder = number
    · rw [if_pos same] at reason
      subst same
      exact ⟨_, Function.update_self .., reason⟩
    · rw [if_neg same] at reason
      rw [Function.update_of_ne same]
      exact books.taken holder other reason
  -- Only an idle holder has to have locked all that it needs.
  case complete =>
    intro holder contents other seen holding idle needs
    rcases seen_update seen with ⟨rfl, rfl⟩ | ⟨different, earlier⟩
    · exact own holding idle other needs
    · obtain ⟨idleBefore, kept⟩ := others holder other different idle
      exact kept (books.complete holder contents other earlier holding idleBefore needs)
  case pending => exact pending

/-- The books stay balanced when locks change hands and no script gets another account. -/
theorem transfer (books : Books resources version view owed edges busy)
    (found : view number = some script) {owed' : UInt16 → Nat} {edges' : UInt16 → UInt16 → Prop}
    (balance : ∀ other, owed' other + (holders edges' other).ncard =
      owed other + (holders edges other).ncard)
    (taken : ∀ holder other, edges' holder other →
      if holder = number then script.holdsSuperclasses = true ∧ script.Needs resources other
      else edges holder other)
    (working : busy number)
    (others : ∀ holder other, holder ≠ number → edges holder other → edges' holder other)
    (pending : ∀ holder, busy holder → 0 < owed' holder) :
    Books resources version view owed' edges' busy := by
  -- The script keeps the account that it has.
  have same : Function.update view number (some (script.withLocks script.lockers
      script.markedDeleted script.holdsSuperclasses)) = view := by
    have kept : script.withLocks script.lockers script.markedDeleted script.holdsSuperclasses =
        script := rfl
    rw [kept, ← found, Function.update_eq_self]
  rw [← same]
  apply books.adjust found
  · intro other
    rw [balance]
    split
    · rename_i here
      rw [here]
      exact (books.lockers number script found).symm
    · rfl
  · exact books.holds number script found
  · exact books.marked number script found
  · exact taken
  · -- The script itself is at work, so nothing is asked of its locks yet.
    intro _ idle
    exact absurd working idle
  · intro holder other different idle
    exact ⟨idle, others holder other different⟩
  · exact pending

/-- A lock on a script that nobody is known to have taken can be put down to a busy script. -/
theorem lend {owner : UInt16}
    (books : Books resources version view (charge owed [owner]) edges busy)
    (working : busy number) (found : view number = some script)
    (needs : script.Needs resources owner) (fresh : ¬ edges number owner)
    (pending : ∀ holder, busy holder → 0 < owed holder) :
    Books resources version view owed (adding edges number owner) busy := by
  have holding : script.holdsSuperclasses = true := by
    -- A busy script is locked, and a locked script holds its superclasses.
    rw [books.holds number script found, books.lockers number script found, charge]
    have locked := pending number working
    omega
  apply books.transfer found ?_ ?_ working ?_ pending
  · -- One lock on the owner is owed no more, and has a holder instead.
    intro other
    rw [ncard_adding fresh, charge_cons]
    simp only [charge, List.count_nil]
    omega
  · intro holder other either
    rcases either with edge | ⟨rfl, rfl⟩
    · split
      · rename_i here
        subst here
        exact books.reason found edge
      · exact edge
    · rw [if_pos rfl]
      exact ⟨holding, needs⟩
  · intro holder other _ edge
    exact .inl edge

/-- The locks that a busy script has taken can be put down to somebody outside. -/
theorem reclaim {locked : List UInt16} (books : Books resources version view owed edges busy)
    (working : busy number) (distinct : locked.Nodup)
    (listed : ∀ other, edges number other ↔ other ∈ locked) :
    Books resources version view (charge owed locked) (without edges number) busy := by
  obtain ⟨script, found⟩ := books.present (books.pending number working)
  apply books.transfer found ?_ ?_ working ?_ ?_
  · -- Each script on the list has one holder less, and one lock on it is owed instead.
    intro other
    have counted := ncard_without edges number other
    have charged := charge_append distinct owed [] other
    rw [List.append_nil] at charged
    simp only [listed, charge, List.count_nil] at counted charged ⊢
    omega
  · intro holder other given
    obtain ⟨edge, different⟩ := given
    rw [if_neg different]
    exact edge
  · intro holder other different edge
    exact ⟨edge, different⟩
  · exact charge_pending books.pending locked

/-- A busy script is done when it has locked all that it needs. -/
theorem finish
    (books : Books resources version view owed edges fun other => busy other ∨ other = number)
    (found : view number = some script)
    (all : ¬ busy number → ∀ other, script.Needs resources other → edges number other) :
    Books resources version view owed edges busy := by
  refine ⟨books.offered, books.lockers, books.absent, books.holds, books.marked, books.taken, ?_,
    fun holder working => books.pending holder (.inl working)⟩
  -- Only the script that was busy has something to show for.
  intro holder contents other seen holding idle needs
  by_cases same : holder = number
  · subst same
    rw [found, Option.some.injEq] at seen
    subst seen
    exact all idle other needs
  · exact books.complete holder contents other seen holding (by simp [idle, same]) needs

/-- Locking a script makes it busy. -/
theorem lock (books : Books resources version view owed edges busy)
    (found : view number = some script) :
    Books resources version
      (Function.update view number (some (script.withLocks (script.lockers + 1) false true)))
      (charge owed [number]) edges fun other => busy other ∨ other = number := by
  apply books.adjust found
  · -- The new lock is owed to whoever asked for it.
    intro other
    have balance := books.lockers number script found
    rw [charge_cons]
    simp only [charge, List.count_nil]
    split
    · rename_i here
      rw [here]
      omega
    · omega
  · simp
  · simp
  · intro holder other edge
    split
    · rename_i here
      subst here
      exact ⟨rfl, (books.reason found edge).2⟩
    · exact edge
  · intro _ idle
    -- Until its superclasses are locked the script counts as busy.
    simp at idle
  · intro holder other _ idle
    exact ⟨fun working => idle (.inl working), fun edge => edge⟩
  · intro holder either
    rcases either with working | rfl
    · exact charge_pending books.pending [number] holder working
    · simp [charge]

/-- Dropping one of several locks leaves the others. -/
theorem drop {rest : List UInt16}
    (books : Books resources version view (charge owed (number :: rest)) edges busy)
    (found : view number = some script) (more : 1 < script.lockers)
    (pending : ∀ holder, busy holder → 0 < owed holder) :
    Books resources version (Function.update view number (some (script.withLocks
        (script.lockers - 1) script.markedDeleted script.holdsSuperclasses)))
      (charge owed rest) edges busy := by
  have balance := books.lockers number script found
  -- A script with a lock holds its superclasses, and one lock is left.
  have held : script.holdsSuperclasses = true := (books.holds number script found).mpr (by omega)
  apply books.adjust found
  · intro other
    split
    · rename_i here
      rw [here]
      rw [charge_cons, if_pos rfl] at balance
      omega
    · rename_i elsewhere
      rw [charge_cons, if_neg elsewhere, Nat.add_zero]
  · rw [held]
    simp only [true_iff]
    omega
  · -- A marked script would have no lock to drop.
    intro deleted
    have zero := books.marked number script found deleted
    omega
  · intro holder other edge
    split
    · rename_i here
      subst here
      exact books.reason found edge
    · exact edge
  · intro holding idle other needs
    exact books.complete number script other found holding idle needs
  · intro holder other _ idle
    exact ⟨idle, fun edge => edge⟩
  · exact charge_pending pending rest

/-- Dropping the last lock on a script makes it give back the locks that it has taken. -/
theorem dropLast {rest owners : List UInt16}
    (books : Books resources version view (charge owed (number :: rest)) edges busy)
    (found : view number = some script) (last : script.lockers = 1)
    (pending : ∀ holder, busy holder → 0 < owed holder) (distinct : owners.Nodup)
    (listed : ∀ other, other ∈ owners ↔ script.Needs resources other) :
    Books resources version (Function.update view number (some (script.withLocks 0 true false)))
      (charge owed (owners ++ rest)) (without edges number) busy := by
  -- The lock that is dropped is the only one, so nobody else has locked the script.
  have balance := books.lockers number script found
  rw [charge_cons, if_pos rfl] at balance
  have idle : ¬ busy number := by
    intro working
    have owing := pending number working
    unfold charge at balance
    omega
  have held : script.holdsSuperclasses = true := (books.holds number script found).mpr (by omega)
  have given : ∀ other, edges number other ↔ other ∈ owners := by
    intro other
    rw [listed]
    constructor
    · exact fun edge => (books.reason found edge).2
    · exact books.complete number script other found held idle
  apply books.adjust found
  · -- What the script had locked has one holder less, and one lock on it is to be dropped.
    intro other
    have counted := ncard_without edges number other
    simp only [given] at counted
    rw [charge_append distinct]
    by_cases same : other = number
    · rw [if_pos same]
      -- A script does not need itself.
      have absent : other ∉ owners := by
        intro member
        exact ((listed other).mp member).1 (same.trans (books.offered number script found).1.symm)
      rw [if_neg absent] at counted ⊢
      rw [same] at counted ⊢
      omega
    · rw [if_neg same, charge_cons, if_neg same]
      omega
  · simp
  · simp
  · intro holder other given
    obtain ⟨edge, different⟩ := given
    rw [if_neg different]
    exact edge
  · simp
  · intro holder other different still
    exact ⟨still, fun edge => ⟨edge, different⟩⟩
  · exact charge_pending pending (owners ++ rest)

/-- A script whose superclasses could not be locked gives up its own lock. -/
theorem abandon
    (books : Books resources version view (charge owed [number]) edges
      fun other => busy other ∨ other = number)
    (found : view number = some script) (free : owed number = 0)
    (unheld : ∀ holder, ¬ edges holder number) (unheldBy : ∀ other, ¬ edges number other)
    (pending : ∀ holder, busy holder → 0 < owed holder) :
    script.lockers = 1 ∧ ∀ deleted,
      Books resources version
        (Function.update view number (some (script.withLocks 0 deleted false)))
        owed edges busy := by
  -- The lock that it was given is all that there is.
  have empty := ncard_holders_eq_zero.mpr unheld
  have balance := books.lockers number script found
  rw [charge_cons, if_pos rfl, empty] at balance
  simp only [charge, List.count_nil, free] at balance
  refine ⟨by omega, fun deleted => ?_⟩
  apply books.adjust found
  · intro other
    split
    · rename_i here
      rw [here]
      omega
    · rename_i elsewhere
      rw [charge_cons, if_neg elsewhere]
      rfl
  · simp
  · simp
  · -- The script itself has locked nobody.
    intro holder other edge
    rw [if_neg]
    · exact edge
    · intro equal
      subst equal
      exact unheldBy other edge
  · simp
  · intro holder other different idle
    exact ⟨by simp [idle, different], fun edge => edge⟩
  · exact pending

/-- A script that comes into memory is locked by nobody. -/
theorem arrive (books : Books resources version view owed edges busy)
    (absent : view number = none) {id localsSegment : SegmentId} {locals : Array Address}
    (offered : resources.Offers version number id script locals) :
    Books resources version (Function.update view number (some { script with localsSegment }))
      owed edges busy := by
  have fresh := offered.fresh
  obtain ⟨unowed, unheld⟩ := books.absent number absent
  -- Whatever is seen is the new script or a script that was there before.
  constructor
  case offered =>
    intro other contents seen
    rcases seen_update seen with ⟨rfl, rfl⟩ | ⟨_, earlier⟩
    · exact ⟨fresh.number, fun needed needs => ⟨id, script, locals, offered, needs⟩⟩
    · exact books.offered other contents earlier
  case lockers =>
    intro other contents seen
    rcases seen_update seen with ⟨rfl, rfl⟩ | ⟨_, earlier⟩
    · -- A script that comes has no lock, and none was owed or held on it.
      rw [unowed, ncard_holders_eq_zero.mpr unheld]
      exact fresh.lockers
    · exact books.lockers other contents earlier
  case absent =>
    intro other unseen
    exact books.absent other (unseen_update unseen).2
  case holds =>
    intro other contents seen
    rcases seen_update seen with ⟨rfl, rfl⟩ | ⟨_, earlier⟩
    · simp [fresh.lockers, fresh.free]
    · exact books.holds other contents earlier
  case marked =>
    intro other contents seen
    rcases seen_update seen with ⟨rfl, rfl⟩ | ⟨_, earlier⟩
    · simp [fresh.unmarked]
    · exact books.marked other contents earlier
  case taken =>
    -- A script that has taken a lock was there before, so it is not the new one.
    intro holder other edge
    obtain ⟨contents, seen, reason⟩ := books.taken holder other edge
    have different : holder ≠ number := by
      intro equal
      subst equal
      rw [absent] at seen
      cases seen
    rw [Function.update_of_ne different]
    exact ⟨contents, seen, reason⟩
  case complete =>
    intro holder contents other seen holding idle needs
    rcases seen_update seen with ⟨rfl, rfl⟩ | ⟨_, earlier⟩
    · simp [fresh.free] at holding
    · exact books.complete holder contents other earlier holding idle needs
  case pending => exact books.pending

/-- Scripts that are not locked may leave memory. -/
theorem leave (books : Books resources version view owed edges busy)
    {left : UInt16 → Option Script}
    (parts : ∀ other, left other = view other ∨
      left other = none ∧ ∀ contents, view other = some contents → contents.lockers = 0) :
    Books resources version left owed edges busy := by
  -- Whatever is still there was there before.
  have earlier : ∀ {other contents}, left other = some contents → view other = some contents := by
    intro other contents seen
    rcases parts other with same | ⟨gone, _⟩
    · exact same ▸ seen
    · rw [gone] at seen
      simp at seen
  constructor
  case offered => exact fun other contents seen => books.offered other contents (earlier seen)
  case lockers => exact fun other contents seen => books.lockers other contents (earlier seen)
  case absent =>
    intro other unseen
    cases found : view other with
    | none => exact books.absent other found
    | some contents =>
      -- A script that has left was not locked, so nothing was owed on it either.
      rcases parts other with same | ⟨_, free⟩
      · rw [same, found] at unseen
        cases unseen
      · exact books.unlocked found (free contents found)
  case holds => exact fun other contents seen => books.holds other contents (earlier seen)
  case marked => exact fun other contents seen => books.marked other contents (earlier seen)
  case taken =>
    intro holder other edge
    obtain ⟨contents, seen, holding, needs⟩ := books.taken holder other edge
    rcases parts holder with same | ⟨_, free⟩
    · exact ⟨contents, same ▸ seen, holding, needs⟩
    · -- A script that holds its superclasses is locked, and so it has not left.
      have zero := free contents seen
      have locked := (books.holds holder contents seen).mp holding
      omega
  case complete =>
    exact fun holder contents other seen => books.complete holder contents other (earlier seen)
  case pending => exact books.pending

/--
Scripts that nobody outside has locked have locked nobody.

The scripts that hold such a script would need each other in a row without a beginning.
-/
theorem unheld (orderly : resources.Orderly version)
    (books : Books resources version view owed edges busy)
    (free : ∀ holder other, edges holder other → owed holder = 0) :
    ∀ holder other, ¬ edges holder other := by
  intro holder
  -- Whoever has locked the holder comes before it.
  induction holder using orderly.wellFounded.induction with
  | _ holder ih =>
    intro other edge
    obtain ⟨script, seen, holding, _⟩ := books.taken holder other edge
    have locked := (books.holds holder script seen).mp holding
    have balance := books.lockers holder script seen
    have unowed := free holder other edge
    have nobody : (holders edges holder).ncard = 0 := by
      rw [ncard_holders_eq_zero]
      intro earlier held
      obtain ⟨contents, seenToo, _, needs⟩ := books.taken earlier holder held
      exact ih earlier ((books.offered earlier contents seenToo).2 holder needs) holder held
    omega

end Books

end AdventureVm
