import AdventureVm.Machine.Run
import AdventureVm.Proofs.Memory.Outcomes
import Mathlib.Order.Defs.Unbundled

/-! What work of the machine ends with, one rule for each way of putting work together. -/

namespace AdventureVm

namespace VmM

section Rules

variable {α β : Type}

/--
Whenever the work, started on a machine, comes to its end, the outcome and the machine that is then
there satisfy a condition.
-/
def Ends (work : VmM α) (machine : Machine) (post : Except Fault α → Machine → Prop) : Prop :=
  ∀ outcome after, work machine = some (outcome, after) → post outcome after

/-- A condition that follows from one that is met is met as well. -/
theorem Ends.mono {work : VmM α} {machine : Machine} {post weaker : Except Fault α → Machine → Prop}
    (met : Ends work machine post)
    (implied : ∀ outcome after, post outcome after → weaker outcome after) :
    Ends work machine weaker :=
  -- Both conditions are about the same ends.
  fun outcome after ended => implied outcome after (met outcome after ended)

/-- Two conditions that are met are met together. -/
theorem Ends.and {work : VmM α} {machine : Machine} {first second : Except Fault α → Machine → Prop}
    (met : Ends work machine first) (metToo : Ends work machine second) :
    Ends work machine fun outcome after => first outcome after ∧ second outcome after :=
  fun outcome after ended => ⟨met outcome after ended, metToo outcome after ended⟩

/-- A two-part condition is weakened part by part. -/
theorem Ends.either {work : VmM α} {machine : Machine} {succeeded : α → Machine → Prop}
    {failed : Fault → Machine → Prop} {post : Except Fault α → Machine → Prop}
    (met : Ends work machine (Either succeeded failed))
    (onSuccess : ∀ value after, succeeded value after → post (.ok value) after)
    (onFailure : ∀ fault after, failed fault after → post (.error fault) after) :
    Ends work machine post := by
  -- Each outcome is a success or a failure.
  refine met.mono ?_
  intro outcome after holds
  cases outcome with
  | ok value => exact onSuccess value after holds
  | error fault => exact onFailure fault after holds

/-- Work whose end is known ends with that alone. -/
theorem ends_of_eq {work : VmM α} {machine after : Machine} {outcome : Except Fault α}
    (ended : work machine = some (outcome, after)) (post : Except Fault α → Machine → Prop) :
    Ends work machine post ↔ post outcome after := by
  constructor
  · intro met
    exact met outcome after ended
  · -- Work has one end at most.
    intro holds other later endedToo
    rw [ended, Option.some.injEq, Prod.mk.injEq] at endedToo
    rw [← endedToo.1, ← endedToo.2]
    exact holds

/-- Work that gives a value leaves the machine alone. -/
@[simp] theorem ends_pure (value : α) (machine : Machine)
    (post : Except Fault α → Machine → Prop) :
    Ends (pure value) machine post ↔ post (.ok value) machine :=
  ends_of_eq rfl post

/-- Work that fails leaves the machine alone. -/
@[simp] theorem ends_throw (fault : Fault) (machine : Machine)
    (post : Except Fault α → Machine → Prop) :
    Ends (throw fault) machine post ↔ post (.error fault) machine :=
  ends_of_eq rfl post

/-- The second of two pieces of work is done where the first one succeeds. -/
theorem run_bind (first : VmM α) (next : α → VmM β) (machine : Machine) :
    (first >>= next) machine = (first machine).bind fun result =>
      match result with
      | (.ok value, between) => next value between
      | (.error fault, between) => some (.error fault, between) := by
  -- The composition is defined by the same cases, written in another way.
  show Option.bind (first machine) _ = _
  congr 1
  funext ⟨outcome, between⟩
  cases outcome <;> rfl

/-- Where the first of two pieces of work succeeds, the second goes on. -/
theorem run_bind_of_ok {first : VmM α} {machine between : Machine} {value : α}
    (done : first machine = some (.ok value, between)) (next : α → VmM β) :
    (first >>= next) machine = next value between := by
  rw [run_bind, done, Option.bind_some]

/-- Where the first of two pieces of work fails, there is no second. -/
theorem run_bind_of_error {first : VmM α} {machine between : Machine} {fault : Fault}
    (failed : first machine = some (.error fault, between)) (next : α → VmM β) :
    (first >>= next) machine = some (.error fault, between) := by
  rw [run_bind, failed, Option.bind_some]

/-- The second of two pieces of work starts where the first ends, unless that one fails. -/
theorem ends_bind (first : VmM α) (next : α → VmM β) (machine : Machine)
    (post : Except Fault β → Machine → Prop) :
    Ends (first >>= next) machine post ↔
      Ends first machine (Either (fun value between => Ends (next value) between post)
        fun fault between => post (.error fault) between) := by
  -- The first piece has no end, or it succeeds, or it fails.
  simp only [Ends, run_bind]
  cases ended : first machine with
  | none => simp
  | some result =>
    obtain ⟨outcome, between⟩ := result
    cases outcome <;> simp

/-- The machine is looked at. -/
@[simp] theorem ends_get (machine : Machine) (post : Except Fault Machine → Machine → Prop) :
    Ends get machine post ↔ post (.ok machine) machine :=
  ends_of_eq rfl post

/-- The machine is changed and tells something about itself. -/
@[simp] theorem ends_modifyGet (change : Machine → α × Machine) (machine : Machine)
    (post : Except Fault α → Machine → Prop) :
    Ends (modifyGet change) machine post ↔ post (.ok (change machine).1) (change machine).2 :=
  ends_of_eq rfl post

/-- Work on memory changes nothing but memory. -/
@[simp] theorem ends_store (work : StoreM α) (machine : Machine)
    (post : Except Fault α → Machine → Prop) :
    Ends (store work) machine post ↔
      Leads work machine.store fun outcome after => post outcome { machine with store := after } :=
  ends_of_eq rfl post

/-- Work on memory whose end is known ends with that. -/
theorem run_store {work : StoreM α} {machine : Machine} {outcome : Except Fault α} {after : Store}
    (leads : Leads work machine.store fun result later => result = outcome ∧ later = after) :
    store work machine = some (outcome, { machine with store := after }) := by
  -- The outcome and the store are determined by what is known of the end.
  obtain ⟨rfl, rfl⟩ := leads
  rfl

/-- Work on memory that cannot fail changes nothing but memory. -/
@[simp] theorem ends_storeState (work : StateM Store α) (machine : Machine)
    (post : Except Fault α → Machine → Prop) :
    Ends (storeState work) machine post ↔
      post (.ok (work.run machine.store).1)
        { machine with store := (work.run machine.store).2 } :=
  ends_of_eq rfl post

/-- A question about memory is answered. -/
@[simp] theorem ends_read (query : Heap → α) (machine : Machine)
    (post : Except Fault α → Machine → Prop) :
    Ends (read query) machine post ↔ post (.ok (query machine.store.heap)) machine :=
  ends_of_eq rfl post

/-- What may not be in memory is read, or the work fails. -/
theorem run_require (query : Heap → Except Fault α) (machine : Machine) :
    require query machine = some (query machine.store.heap, machine) :=
  run_store ((StoreM.leads_require _ _ _).mpr ⟨rfl, rfl⟩)

/-- A question about memory is answered, or fails. -/
@[simp] theorem ends_require (query : Heap → Except Fault α) (machine : Machine)
    (post : Except Fault α → Machine → Prop) :
    Ends (require query) machine post ↔ post (query machine.store.heap) machine :=
  ends_of_eq (run_require query machine) post

/-- A question about registers and frames is answered. -/
@[simp] theorem ends_context (query : Context → α) (machine : Machine)
    (post : Except Fault α → Machine → Prop) :
    Ends (context query) machine post ↔ post (.ok (query machine.context)) machine :=
  ends_of_eq rfl post

/-- Registers and frames are changed. -/
@[simp] theorem ends_modifyContext (change : Context → Context) (machine : Machine)
    (post : Except Fault Unit → Machine → Prop) :
    Ends (modifyContext change) machine post ↔
      post (.ok ()) { machine with context := change machine.context } :=
  ends_of_eq rfl post

/-- A question about the work is answered. -/
@[simp] theorem ends_status (query : Status → α) (machine : Machine)
    (post : Except Fault α → Machine → Prop) :
    Ends (status query) machine post ↔ post (.ok (query machine.status)) machine :=
  ends_of_eq rfl post

/-- How the work stands is changed. -/
@[simp] theorem ends_modifyStatus (change : Status → Status) (machine : Machine)
    (post : Except Fault Unit → Machine → Prop) :
    Ends (modifyStatus change) machine post ↔
      post (.ok ()) { machine with status := change machine.status } :=
  ends_of_eq rfl post

/-- A question about what the machine was given is answered. -/
@[simp] theorem ends_setup (query : Setup → α) (machine : Machine)
    (post : Except Fault α → Machine → Prop) :
    Ends (setup query) machine post ↔ post (.ok (query machine.setup)) machine :=
  ends_of_eq rfl post

/-- How the work ended is told as a success. -/
theorem run_outcome (work : VmM α) (machine : Machine) :
    outcome work machine = (work machine).map fun result => (.ok result.1, result.2) := by
  show Option.bind (work machine) _ = _
  cases work machine <;> rfl

/-- Work whose failure is answered does not fail itself. -/
@[simp] theorem ends_outcome (work : VmM α) (machine : Machine)
    (post : Except Fault (Except Fault α) → Machine → Prop) :
    Ends (outcome work) machine post ↔
      Ends work machine fun result after => post (.ok result) after := by
  simp only [Ends, run_outcome]
  -- The work has no end, or its end is told as a success.
  cases work machine with
  | none => simp
  | some result =>
    obtain ⟨ended, after⟩ := result
    simp

/-- The work ends as given. -/
@[simp] theorem ends_ofExcept (result : Except Fault α) (machine : Machine)
    (post : Except Fault α → Machine → Prop) :
    Ends (ofExcept result) machine post ↔ post result machine := by
  -- An answer is returned, a fault is thrown.
  cases result with
  | ok value => exact ends_pure value machine post
  | error fault => exact ends_throw fault machine post

end Rules

section Along

variable {α β : Type} {rel weaker : Machine → Machine → Prop}

/-- Wherever the work starts and however it ends, it leads along a relation. -/
def Along (rel : Machine → Machine → Prop) (work : VmM α) : Prop :=
  ∀ machine, Ends work machine fun _ after => rel machine after

/-- Work that leads along a relation leads along a weaker one. -/
theorem Along.mono {work : VmM α} (along : Along rel work)
    (implied : ∀ before after, rel before after → weaker before after) : Along weaker work :=
  fun machine => (along machine).mono fun _ after => implied machine after

/-- Work whose failure is answered leads to the same place. -/
theorem Along.outcome {work : VmM α} (along : Along rel work) : Along rel (outcome work) := by
  -- The machine afterwards is the same; only the answer is wrapped.
  intro machine
  rw [ends_outcome]
  exact along machine

variable [IsPreorder Machine rel]

/-- Giving a value leads nowhere. -/
theorem along_pure (value : α) : Along rel (pure value) :=
  fun machine => (ends_pure _ _ _).mpr (refl machine)

/-- Failing leads nowhere. -/
theorem along_throw (fault : Fault) : Along rel (throw fault : VmM α) :=
  fun machine => (ends_throw _ _ _).mpr (refl machine)

/-- Work that leads from a machine along a relation may be followed by any work that does. -/
theorem Ends.followed {first : VmM α} {next : α → VmM β} {machine : Machine}
    (ends : Ends first machine fun _ after => rel machine after)
    (alongNext : ∀ value, Along rel (next value)) :
    Ends (first >>= next) machine fun _ after => rel machine after := by
  rw [ends_bind]
  refine ends.mono ?_
  intro outcome between reached
  cases outcome with
  | ok value =>
    -- The second piece starts where the first one ended.
    refine (alongNext value between).mono ?_
    intro _ after further
    exact IsTrans.trans _ _ _ reached further
  | error fault => exact reached

/-- Two pieces of work that lead along a relation do so together. -/
theorem Along.bind {first : VmM α} {next : α → VmM β} (along : Along rel first)
    (alongNext : ∀ value, Along rel (next value)) : Along rel (first >>= next) :=
  fun machine => Ends.followed (along machine) alongNext

/-- Reading from memory leads nowhere. -/
theorem along_read (query : Heap → α) : Along rel (read query) :=
  fun machine => (ends_read _ _ _).mpr (refl machine)

/-- Reading from memory what may not be there leads nowhere. -/
theorem along_require (query : Heap → Except Fault α) : Along rel (require query) :=
  fun machine => (ends_require _ _ _).mpr (refl machine)

/-- Reading from registers and frames leads nowhere. -/
theorem along_context (query : Context → α) : Along rel (context query) :=
  fun machine => (ends_context _ _ _).mpr (refl machine)

/-- Reading how the work stands leads nowhere. -/
theorem along_status (query : Status → α) : Along rel (status query) :=
  fun machine => (ends_status _ _ _).mpr (refl machine)

/-- Reading what the machine was given leads nowhere. -/
theorem along_setup (query : Setup → α) : Along rel (setup query) :=
  fun machine => (ends_setup _ _ _).mpr (refl machine)

/-- Looking at the machine leads nowhere. -/
theorem along_get : Along rel get :=
  fun machine => (ends_get _ _).mpr (refl machine)

/-- Ending as given leads nowhere. -/
theorem along_ofExcept (result : Except Fault α) : Along rel (ofExcept result) :=
  fun machine => (ends_ofExcept _ _ _).mpr (refl machine)

end Along

end VmM

namespace Machine

variable {β : Type}

/-- What can be seen of the machine is the same before and after. -/
def Same (view : Machine → β) (before after : Machine) : Prop :=
  view after = view before

/-- What has a property before has it afterwards. -/
def Passes (property : Machine → Prop) (before after : Machine) : Prop :=
  property before → property after

instance (view : Machine → β) : IsPreorder Machine (Same view) where
  refl _ := rfl
  trans _ _ _ first second := Eq.trans second first

instance (property : Machine → Prop) : IsPreorder Machine (Passes property) where
  refl _ holds := holds
  trans _ _ _ first second holds := second (first holds)

end Machine

namespace VmM

variable {α β : Type} {property : Machine → Prop} {machine : Machine}

/-- Work that ends with a property wherever it starts with it passes the property on. -/
theorem along_passes {work : VmM α}
    (keeps : ∀ before, property before → Ends work before fun _ after => property after) :
    Along (Machine.Passes property) work :=
  fun before outcome after ended holds => keeps before holds outcome after ended

/-- Work that passes a property on ends with it where it starts with it. -/
theorem Along.keeps {work : VmM α} (along : Along (Machine.Passes property) work)
    (holds : property machine) : Ends work machine fun _ after => property after :=
  (along machine).mono fun _ _ passes => passes holds

/-- Work that passes a property on may be followed by work that needs it. -/
theorem Along.then {first : VmM α} {next : α → VmM β} {post : Except Fault β → Machine → Prop}
    (along : Along (Machine.Passes property) first) (holds : property machine)
    (onFailure : ∀ fault between, property between → post (.error fault) between)
    (onSuccess : ∀ value between, property between → Ends (next value) between post) :
    Ends (first >>= next) machine post := by
  -- The property is passed on by a failure as well.
  rw [ends_bind]
  refine (along machine).mono ?_
  intro outcome between passes
  cases outcome with
  | ok value => exact onSuccess value between (passes holds)
  | error fault => exact onFailure fault between (passes holds)

end VmM

namespace Machine

open VmM

section Runs

variable {depth : Nat} {machine : Machine} {post : Except Fault Unit → Machine → Prop}

/-- A request to stop is taken where a look finds one. -/
theorem ends_takeStop (machine : Machine)
    (post : Except Fault (Option StopRequest) → Machine → Prop) :
    Ends takeStop machine post ↔ post (.ok machine.asked?) machine.polled :=
  ends_of_eq rfl post

/-- Without any steps a run has no end. -/
theorem ends_runUntil_zero : Ends (runUntil 0 depth) machine post := by
  -- There is no outcome to be looked at.
  intro outcome after ended
  cases ended

/--
What a run ends with, by where the machine stands.

The run is over, or the machine is asked to stop, or a step is taken and the run goes on from there.
-/
theorem ends_runUntil_succ {fuel : Nat}
    (returned : machine.context.depth ≤ depth → post (.ok ()) machine)
    (stopped : ∀ request, machine.asked? = some request →
      post (.error (.interrupted request)) machine.polled)
    (steps : depth < machine.context.depth → machine.asked? = none →
      Ends (step (runWithin fuel)) machine.polled
        (Either (fun _ between => Ends (runUntil fuel depth) between post)
          fun fault between => post (.error fault) between)) :
    Ends (runUntil (fuel + 1) depth) machine post := by
  intro outcome after ended
  rw [runUntil] at ended
  split at ended
  · rename_i shallow
    cases ended
    exact returned shallow
  · rename_i deep
    split at ended
    · rename_i request found
      cases ended
      exact stopped request found
    · rename_i quiet
      -- The step has no end, or it fails, or the run goes on after it.
      have taken := steps (Nat.lt_of_not_le deep) quiet
      generalize stepped : step _ machine.polled = result at ended
      rcases result with _ | ⟨_ | _, between⟩
      · cases ended
      · cases ended
        exact taken _ _ stepped
      · exact taken _ _ stepped outcome after ended

end Runs

end Machine

end AdventureVm
