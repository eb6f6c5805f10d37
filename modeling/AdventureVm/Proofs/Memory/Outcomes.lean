import AdventureVm.Memory.Records
import AdventureVm.Memory.Residency

/-! What work on memory leads to, one rule for each way of putting work together. -/

namespace AdventureVm

/-- Two steps in a row succeed when the first does and the second does with its result. -/
theorem bind_eq_ok {ε α β : Type} {first : Except ε α} {next : α → Except ε β} {result : β} :
    first >>= next = .ok result ↔ ∃ value, first = .ok value ∧ next value = .ok result := by
  -- A failure of the first step is a failure of both.
  cases first with
  | error fault => simp [Bind.bind, Except.bind]
  | ok value => simp [Bind.bind, Except.bind]

section Rules

variable {σ α β : Type}

/-- The work, started in a state, ends with an outcome and a state that satisfy a condition. -/
def Leads (work : ExceptT Fault (StateM σ) α) (state : σ) (post : Except Fault α → σ → Prop) :
    Prop :=
  post (work.run state).1 (work.run state).2

/-- A condition with one part for success and one for failure. -/
def Either (succeeded : α → σ → Prop) (failed : Fault → σ → Prop) : Except Fault α → σ → Prop
  | .ok value, state => succeeded value state
  | .error fault, state => failed fault state

/-- A success is judged by its value. -/
@[simp] theorem either_ok (succeeded : α → σ → Prop) (failed : Fault → σ → Prop) (value : α)
    (state : σ) : Either succeeded failed (.ok value) state ↔ succeeded value state := Iff.rfl

/-- A failure is judged by its fault. -/
@[simp] theorem either_error (succeeded : α → σ → Prop) (failed : Fault → σ → Prop) (fault : Fault)
    (state : σ) : Either succeeded failed (.error fault) state ↔ failed fault state := Iff.rfl

/-- A condition is reached when it holds of whatever the work ends with. -/
theorem Leads.intro {work : ExceptT Fault (StateM σ) α} {state : σ}
    {post : Except Fault α → σ → Prop}
    (holds : ∀ outcome after, work.run state = (outcome, after) → post outcome after) :
    Leads work state post :=
  -- Work ends with one outcome and one state.
  holds _ _ rfl

/-- A condition that follows from a reached one is reached as well. -/
theorem Leads.mono {work : ExceptT Fault (StateM σ) α} {state : σ}
    {post weaker : Except Fault α → σ → Prop} (reached : Leads work state post)
    (implied : ∀ outcome after, post outcome after → weaker outcome after) :
    Leads work state weaker :=
  -- Both conditions are about the same outcome and the same state.
  implied _ _ reached

/-- Two conditions that are reached are reached together. -/
theorem Leads.and {work : ExceptT Fault (StateM σ) α} {state : σ}
    {first second : Except Fault α → σ → Prop} (reached : Leads work state first)
    (reachedToo : Leads work state second) :
    Leads work state fun outcome after => first outcome after ∧ second outcome after :=
  -- Work ends with one outcome and one state.
  ⟨reached, reachedToo⟩

/-- Work that gives a value leaves the state alone. -/
@[simp] theorem leads_pure (value : α) (state : σ) (post : Except Fault α → σ → Prop) :
    Leads (pure value) state post ↔ post (.ok value) state := Iff.rfl

/-- Work that fails leaves the state alone. -/
@[simp] theorem leads_throw (fault : Fault) (state : σ) (post : Except Fault α → σ → Prop) :
    Leads (throw fault) state post ↔ post (.error fault) state := Iff.rfl

/-- Work that cannot fail gives its value. -/
@[simp] theorem leads_lift (work : StateM σ α) (state : σ) (post : Except Fault α → σ → Prop) :
    Leads (ExceptT.lift work) state post ↔ post (.ok (work.run state).1) (work.run state).2 :=
  Iff.rfl

/-- The second of two pieces of work starts where the first ends, unless that one fails. -/
theorem leads_bind (first : ExceptT Fault (StateM σ) α) (next : α → ExceptT Fault (StateM σ) β)
    (state : σ) (post : Except Fault β → σ → Prop) :
    Leads (first >>= next) state post ↔
      Leads first state (Either (fun value between => Leads (next value) between post)
        fun fault between => post (.error fault) between) := by
  -- The outcome of the first piece decides which of the two cases is meant.
  simp only [Leads, ExceptT.run, Bind.bind, ExceptT.bind, ExceptT.mk, StateT.bind, ExceptT.bindCont,
    pure]
  obtain ⟨outcome, between⟩ := first state
  cases outcome <;> rfl

/-- A two-part condition is weakened part by part. -/
theorem Leads.either {work : ExceptT Fault (StateM σ) α} {state : σ} {succeeded : α → σ → Prop}
    {failed : Fault → σ → Prop} {post : Except Fault α → σ → Prop}
    (reached : Leads work state (Either succeeded failed))
    (onSuccess : ∀ value after, succeeded value after → post (.ok value) after)
    (onFailure : ∀ fault after, failed fault after → post (.error fault) after) :
    Leads work state post := by
  -- Each outcome is a success or a failure.
  apply reached.mono
  intro outcome after holds
  cases outcome with
  | ok value => exact onSuccess value after holds
  | error fault => exact onFailure fault after holds

/-- Two pieces of work lead where the second one leads, or where the first one fails. -/
theorem Leads.bind {work : ExceptT Fault (StateM σ) α} {next : α → ExceptT Fault (StateM σ) β}
    {state : σ} {succeeded : α → σ → Prop} {failed : Fault → σ → Prop}
    {post : Except Fault β → σ → Prop} (reached : Leads work state (Either succeeded failed))
    (onSuccess : ∀ value after, succeeded value after → Leads (next value) after post)
    (onFailure : ∀ fault after, failed fault after → post (.error fault) after) :
    Leads (work >>= next) state post :=
  (leads_bind work next state post).mpr (reached.either onSuccess onFailure)

/-- Work that cannot fail reaches what each of its successes comes to. -/
theorem Leads.certain {work : ExceptT Fault (StateM σ) α} {state : σ} {succeeded : α → σ → Prop}
    {post : Except Fault α → σ → Prop}
    (reached : Leads work state (Either succeeded fun _ _ => False))
    (onSuccess : ∀ value after, succeeded value after → post (.ok value) after) :
    Leads work state post := by
  -- The case of a failure cannot occur.
  apply reached.either onSuccess
  intro _ _ impossible
  exact impossible.elim

end Rules

namespace Store

/-- A record leaves memory alone. -/
@[simp] theorem heap_note (store : Store) (level : Level) (text : String) :
    (store.note level text).heap = store.heap := rfl

/-- Records leave memory alone. -/
@[simp] theorem heap_record (store : Store) (records : List Record) :
    (store.record records).heap = store.heap := rfl

/-- Memory is changed as asked. -/
@[simp] theorem heap_mapHeap (store : Store) (change : Heap → Heap) :
    (store.mapHeap change).heap = change store.heap := rfl

end Store

namespace StoreM

variable {α : Type}

/-- A record is added to the journal. -/
@[simp] theorem leads_note (level : Level) (text : String) (store : Store)
    (post : Except Fault Unit → Store → Prop) :
    Leads (note level text) store post ↔ post (.ok ()) (store.note level text) := Iff.rfl

/-- Records are added to the journal. -/
@[simp] theorem leads_record (records : List Record) (store : Store)
    (post : Except Fault Unit → Store → Prop) :
    Leads (record records) store post ↔ post (.ok ()) (store.record records) := Iff.rfl

/-- A question about memory is answered. -/
@[simp] theorem leads_read (query : Heap → α) (store : Store)
    (post : Except Fault α → Store → Prop) :
    Leads (read query) store post ↔ post (.ok (query store.heap)) store := Iff.rfl

/-- The memory and the journal are looked at. -/
theorem leads_get (store : Store) (post : Except Fault Store → Store → Prop) :
    Leads get store post ↔ post (.ok store) store := Iff.rfl

/-- A question about memory is answered, or fails. -/
@[simp] theorem leads_require (query : Heap → Except Fault α) (store : Store)
    (post : Except Fault α → Store → Prop) :
    Leads (require query) store post ↔ post (query store.heap) store := by
  -- The outcome is what the question gives, whether it succeeds or fails.
  simp only [require, leads_bind, leads_get, either_ok]
  cases query store.heap with
  | ok value => rfl
  | error fault => rfl

/-- Memory is changed. -/
@[simp] theorem leads_change (step : Heap → Heap) (store : Store)
    (post : Except Fault Unit → Store → Prop) :
    Leads (change step) store post ↔ post (.ok ()) (store.mapHeap step) := Iff.rfl

/-- Memory is changed, or the work fails and memory is not. -/
theorem leads_attempt (step : Heap → Except Fault Heap) (store : Store)
    (post : Except Fault Unit → Store → Prop) :
    Leads (attempt step) store post ↔
      match step store.heap with
      | .ok heap => post (.ok ()) (store.mapHeap fun _ => heap)
      | .error fault => post (.error fault) store := by
  -- The step decides which of the two cases is meant.
  simp only [attempt, leads_bind]
  show Leads (match step store.heap with
    | .ok heap => change fun _ => heap
    | .error fault => throw fault : StoreM Unit) store post ↔ _
  cases step store.heap <;> rfl

/-- Work that only keeps a journal leaves memory alone. -/
theorem leads_ofLogged (work : Logged α) (store : Store) (post : Except Fault α → Store → Prop) :
    Leads (ofLogged work) store post ↔
      post (work.run store.journal).1 { store with journal := (work.run store.journal).2 } := by
  -- The outcome of the inner work is passed on.
  simp only [Leads, ofLogged, ExceptT.run, Bind.bind, ExceptT.bind, ExceptT.mk, StateT.bind,
    ExceptT.bindCont, get, getThe, MonadStateOf.get, liftM, monadLift, MonadLift.monadLift,
    ExceptT.lift, Functor.map, StateT.map, StateT.get, set, MonadStateOf.set, pure]
  obtain ⟨outcome, journal⟩ := work store.journal
  cases outcome <;> rfl

/-- Work whose failure is answered does not fail itself. -/
@[simp] theorem leads_outcome (work : StoreM α) (store : Store)
    (post : Except Fault (Except Fault α) → Store → Prop) :
    Leads (outcome work) store post ↔
      Leads work store fun result after => post (.ok result) after :=
  Iff.rfl

/-- Work keeps a property of memory when memory has it afterwards whenever it had it before. -/
def Keeps (work : StoreM α) (property : Heap → Prop) : Prop :=
  ∀ store, property store.heap → Leads work store fun _ after => property after.heap

/-- A property that work keeps is at hand afterwards, whether the work succeeds or fails. -/
theorem Keeps.either {work : StoreM α} {property : Heap → Prop} (keeps : work.Keeps property)
    {store : Store} (before : property store.heap) {post : Except Fault α → Store → Prop}
    (onSuccess : ∀ value after, property after.heap → post (.ok value) after)
    (onFailure : ∀ fault after, property after.heap → post (.error fault) after) :
    Leads work store post := by
  -- Each outcome is a success or a failure.
  apply (keeps store before).mono
  intro outcome after kept
  cases outcome with
  | ok value => exact onSuccess value after kept
  | error fault => exact onFailure fault after kept

/-- An attempt keeps what the step keeps when it succeeds. -/
theorem attempt_keeps {step : Heap → Except Fault Heap} {property : Heap → Prop}
    (keeps : ∀ {heap after}, property heap → step heap = .ok after → property after) :
    (attempt step).Keeps property := by
  -- An attempt that fails leaves memory as it is.
  intro store before
  rw [leads_attempt]
  split
  · rename_i heap done
    exact keeps before done
  · exact before

/-- Work that gives a value succeeds with it. -/
theorem run_eq_of_toOption {work : StoreM α} {store : Store} {value : α}
    (given : (work.run store).1.toOption = some value) :
    work.run store = (.ok value, (work.run store).2) := by
  cases outcome : work.run store with
  | mk result after =>
    rw [outcome] at given
    -- A failure gives no value.
    cases result with
    | ok other =>
      cases given
      rfl
    | error fault => cases given

/-- Work that gives no value fails. -/
theorem failed_of_toOption {work : StoreM α} {store : Store}
    (failed : (work.run store).1.toOption = none) :
    ∃ fault, work.run store = (.error fault, (work.run store).2) := by
  -- A success would have given a value.
  cases outcome : work.run store with
  | mk result after =>
    rw [outcome] at failed
    cases result with
    | ok value => cases failed
    | error fault => exact ⟨fault, rfl⟩

end StoreM

namespace Store

variable {lock : UInt16 → StoreM SegmentId} {number : UInt16}

/--
Locking the owners of species one after the other, with a condition that holds between two species.

The condition may speak of the species that are left, of the scripts that were locked, and of
memory. A species without an owner is only noted, one whose owner is the script itself or is locked
already is passed over, and the first owner that cannot be locked is the last that is tried.
-/
theorem leads_lockOwners (holds : List UInt16 → List UInt16 → Store → Prop)
    (refused : Fault → List UInt16 → Store → Prop) {species locked : List UInt16} {store : Store}
    (begins : holds species locked store)
    (unowned : ∀ kind later locked store text, holds (kind :: later) locked store →
      store.heap.classes.script? kind = none → holds later locked (store.note .warn text))
    (passed : ∀ kind later locked store owner, holds (kind :: later) locked store →
      store.heap.classes.script? kind = some owner → owner = number ∨ owner ∈ locked →
      holds later locked store)
    (locks : ∀ kind later locked store owner, holds (kind :: later) locked store →
      store.heap.classes.script? kind = some owner → owner ≠ number → owner ∉ locked →
      Leads (lock owner) store (Either (fun _ after => holds later (locked ++ [owner]) after)
        fun fault after => refused fault locked after)) :
    Leads (lockOwners lock number species locked) store (Either
      (fun failure after => match failure with
        | none => ∃ taken, holds [] taken after
        | some (fault, taken) => refused fault taken after)
      fun _ _ => False) := by
  -- The list of locked scripts grows from species to species, so it stays quantified over.
  induction species generalizing locked store with
  | nil => exact ⟨locked, begins⟩
  | cons kind later ih =>
    simp only [lockOwners, leads_bind, StoreM.leads_read, either_ok]
    cases owner : store.heap.classes.script? kind with
    | none =>
      simp only [leads_bind, StoreM.leads_note, either_ok]
      exact ih (unowned kind later locked store _ begins owner)
    | some found =>
      simp only
      split
      · rename_i known
        exact ih (passed kind later locked store found begins owner known)
      · rename_i fresh
        rw [not_or] at fresh
        rw [leads_bind, StoreM.leads_outcome]
        refine (locks kind later locked store found begins owner fresh.1 fresh.2).either ?_ ?_
        · exact fun _ between goesOn => ih goesOn
        · exact fun _ _ failed => failed

/-- What locking each script keeps about memory, locking the owners of species keeps. -/
theorem leads_lockOwners_keeps {keeps : Heap → Prop} (each : ∀ owner, (lock owner).Keeps keeps)
    (species locked : List UInt16) {store : Store} (before : keeps store.heap) :
    Leads (lockOwners lock number species locked) store
      (Either (fun _ after => keeps after.heap) fun _ _ => False) := by
  -- The property is what every turn of the loop keeps, whether it goes on or ends.
  refine (leads_lockOwners (fun _ _ between => keeps between.heap)
    (fun _ _ between => keeps between.heap) before ?_ ?_ ?_).certain ?_
  · exact fun _ _ _ _ _ kept _ => kept
  · exact fun _ _ _ _ _ kept _ _ => kept
  · exact fun _ _ _ between owner kept _ _ _ =>
      (each owner).either kept (fun _ _ keptThen => keptThen) fun _ _ keptThen => keptThen
  · intro failure after kept
    cases failure with
    | none =>
      obtain ⟨_, kept⟩ := kept
      exact kept
    | some _ => exact kept

end Store

end AdventureVm
