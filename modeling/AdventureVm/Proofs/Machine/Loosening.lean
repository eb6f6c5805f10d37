import AdventureVm.Proofs.Machine.Steady

/-!
Limits and policies only ever stop a run.

A run that comes to its end does the same under looser settings, instruction by instruction, with
everything that it loads and collects on the way.
-/

namespace AdventureVm

open VmM

namespace VmM

variable {α β : Type}

/-- Work whose failure is passed on follows when it does and what comes after its success does. -/
theorem Follows.orFails {work : VmM α} {next : Except Fault α → VmM β} (here : Follows work)
    (fails : ∀ fault machine value after, next (.error fault) machine ≠ some (.ok value, after))
    (further : ∀ value, Follows (next (.ok value))) : Follows (outcome work >>= next) := by
  intro tight loose alike value after ended
  obtain ⟨result, between, first, second⟩ := bind_eq_some_ok.mp ended
  rw [run_outcome] at first
  obtain ⟨⟨result, between⟩, reached, rfl, rfl⟩ := Option.map_eq_some_iff.mp first
  -- After a failure there would be none but failures.
  cases result with
  | error fault => exact absurd second (fails fault between value after)
  | ok found =>
    obtain ⟨betweenToo, reachedToo, alikeThen⟩ := here alike found between reached
    obtain ⟨later, secondToo, alikeLater⟩ := further found alikeThen value after second
    refine ⟨later, bind_eq_some_ok.mpr ⟨.ok found, betweenToo, ?_, secondToo⟩, alikeLater⟩
    rw [run_outcome, reachedToo]
    rfl

/-- Work that begins with what the machine was given has to follow only with what that can be. -/
theorem follows_ofSetup {query : Setup → α} {next : α → VmM β}
    (same : ∀ tight loose : Machine, tight.LoosensTo loose →
      query loose.setup = query tight.setup)
    (further : ∀ tight loose : Machine, tight.LoosensTo loose →
      Follows (next (query tight.setup))) : Follows (setup query >>= next) := by
  -- Both sides are given the same answer to the query, so the same work comes next.
  intro tight loose alike value after ended
  obtain ⟨later, ended, alikeLater⟩ := further tight loose alike alike value after ended
  rw [← same tight loose alike] at ended
  exact ⟨later, ended, alikeLater⟩

end VmM

namespace Machine

section Steps

/-- A kernel function that was not added is steady. -/
theorem applyKernel_steady (run : Runner) {entry : KernelEntry} (arguments : List Address)
    (builtin : ∀ action, entry.function ≠ .host action) :
    Steady (applyKernel run entry arguments) := by
  -- By what stands in the entry: a built-in function, nothing, or an added one.
  unfold applyKernel
  split
  · exact (steady_resources id).bind fun _ => (steady_context _).bind fun _ =>
      steady_store (KernelCall.run_steady _)
  · exact (steady_note _ _).bind fun _ => steady_pure _
  · rename_i action same
    exact absurd same (builtin action)

/-- Calling a kernel function follows. -/
theorem callKernel_follows (run : Runner) (index bytes : Nat) :
    Follows (callKernel run index bytes) := by
  refine countKernelCall_steady.follows.bind fun _ => (callBase_steady bytes).follows.bind
    fun found => (stackSlice_steady _ _).follows.bind fun arguments => ?_
  -- The entry comes from the table, which has no added function in it.
  refine follows_ofSetup (fun _ _ alike => congrArg (·.get? index) alike.kernel)
    fun tight loose alike => ?_
  cases listed : tight.setup.kernel.get? index with
  | none => exact (steady_throw (by simp)).follows
  | some entry =>
    have builtin : ∀ action, entry.function ≠ .host action :=
      alike.builtin entry (Array.mem_of_getElem? listed)
    refine (steady_note _ _).follows.bind fun _ => (steady_context _).follows.bind fun depth =>
      (steady_setState _).follows.bind fun _ => ?_
    refine (applyKernel_steady run arguments builtin).follows.orFails ?_ fun value => ?_
    · intro fault machine value after ended
      cases ended
    · exact (steady_setState _).follows.bind fun _ => (steady_modifyContext _).follows.bind fun _ =>
        (steady_pure value).follows.bind fun _ => (steady_setAcc _).follows.bind fun _ =>
          (setStackPointer_steady _).follows

/-- An instruction follows. -/
theorem execute_follows (run : Runner) (instruction : Instruction) (next : Address) :
    Follows (execute run instruction next) := by
  -- Calling the kernel is the one instruction that is not steady.
  by_cases kernel : instruction.operation = .callKernel
  · refine (steady_context _).follows.bind fun acc => ?_
    rw [kernel]
    exact callKernel_follows run _ _
  · exact (execute_steady run next kernel).follows

/-- A step follows, whether or not it is recorded. -/
theorem step_follows (run : Runner) : Follows (step run) := by
  have carries (frame : Frame) (instruction : Instruction) :
      Follows (carryOut run frame instruction) :=
    (modifyFrame_steady _).follows.bind fun _ => steady_countStep.follows.bind fun _ =>
      execute_follows run instruction _
  have advances (frame : Frame) : Follows (advance run frame) := by
    intro tight loose alike value after ended
    cases read : instructionAt tight.store.heap frame.pc with
    | error fault =>
      rw [advance_of_error run read] at ended
      cases ended
    | ok instruction =>
      -- The same instruction is read under looser settings, and only the journals may differ.
      have readToo : instructionAt loose.store.heap frame.pc = .ok instruction := by
        rw [alike.heap]
        exact read
      obtain ⟨store, same, goesOn⟩ := advance_of_ok run read
      obtain ⟨storeToo, sameToo, goesOnToo⟩ := advance_of_ok run readToo
      rw [goesOn] at ended
      rw [goesOnToo]
      exact carries frame instruction
        (alike.withStore (sameToo.trans (alike.heap.trans same.symm))) value after ended
  -- A frame that only accesses a property reads no instruction.
  rw [step_eq]
  refine frame_steady.follows.bind fun frame => ?_
  split
  · exact (accessSelected_steady frame _).follows
  · exact advances frame

end Steps

section Runs

/-- What a run from outside tells, given how the message was answered. -/
def told (after before : Machine) (result : Except Fault Address) : RunOutcome :=
  let steps := after.status.steps - before.status.steps
  match result with
  | .ok acc => { state := .halted, acc, steps, fault := none }
  | .error (.interrupted request) =>
    { state := request.finalState, acc := after.context.acc, steps, fault := none }
  | .error fault => { state := .aborted, acc := after.context.acc, steps, fault := some fault }

/-- What a run from outside leaves, given how the message was answered. -/
def closed (after before : Machine) (result : Except Fault Address) : Machine :=
  let steps := after.status.steps - before.status.steps
  match result with
  | .ok _ => after
  | .error (.interrupted request) =>
    let text := s!"run stopped by {request.name} after {steps} steps"
    { after with store := after.store.note .debug text }
  | .error fault =>
    let store := after.store.note .error s!"script aborted: {fault.message}"
    { after with store, status := { after.status with state := .aborted } }

/-- Closing a run is no change to registers, frames, the flag and what the machine was given. -/
theorem closed_same (before after : Machine) (result : Except Fault Address) :
    (after.closed before result).context = after.context ∧
      (after.closed before result).setup = after.setup ∧
      (after.closed before result).status.stop = after.status.stop := by
  -- Closing sets the state alone, and only for a fault that was not a request.
  cases result with
  | ok acc => exact ⟨rfl, rfl, rfl⟩
  | error fault => cases fault <;> exact ⟨rfl, rfl, rfl⟩

/-- The state that is told is that in which the answer leaves a run. -/
theorem told_state (before after : Machine) (result : Except Fault Address) :
    (after.told before result).state =
      match result with
      | .ok _ => .halted
      | .error fault => fault.finalState := by
  -- By the result, and for a fault by what it is.
  cases result with
  | ok acc => rfl
  | error fault => cases fault <;> rfl

/-- A run from outside that comes to its end had its message answered. -/
theorem answered_of_halted {before after : Machine} {result : Except Fault Address}
    (halted : (after.told before result).state = .halted) : ∃ acc, result = .ok acc := by
  -- No fault leads to the state of a run that has halted.
  rw [told_state] at halted
  cases result with
  | ok acc => exact ⟨acc, rfl⟩
  | error fault =>
    cases fault with
    | interrupted request => cases request <;> cases halted
    | _ => cases halted

/-- A run of any number of steps follows. -/
theorem runUntil_follows (fuel depth : Nat) : Follows (runUntil fuel depth) := by
  induction fuel with
  | zero =>
    intro tight loose alike value after ended
    cases ended
  | succ fuel ih =>
    intro tight loose alike value after ended
    have context := alike.context
    -- The same requests reach both machines, so they are asked to stop at the same time.
    have asked : loose.asked? = tight.asked? := congrArg (·.stop.take.1) alike.status
    have polled : tight.polled.LoosensTo loose.polled := alike.withStatus Status.polled
    rw [runUntil] at ended ⊢
    rw [context, asked]
    split at ended
    · -- Both are at the same depth, so both runs end here.
      rename_i shallow
      cases ended
      exact ⟨loose, if_pos shallow, alike⟩
    · rename_i deep
      rw [if_neg deep]
      split at ended
      · cases ended
      · -- A step that succeeds does so under looser settings, and the rest of the run after it.
        generalize stepped : step _ tight.polled = result at ended
        rcases result with _ | ⟨_ | _, between⟩
        · cases ended
        · cases ended
        · obtain ⟨betweenToo, steppedToo, alikeThen⟩ := step_follows _ polled () between stepped
          rw [steppedToo]
          exact ih alikeThen value after ended

/-- Setting what the machine is doing before and after a run follows if the run does. -/
theorem settle_follows (depth : Nat) {work : VmM Unit} (here : Follows work) :
    Follows (settle depth work) := by
  -- The states that are set are the same on both sides; a failure is passed on.
  refine (steady_status _).follows.bind fun outer => (steady_setState _).follows.bind fun _ => ?_
  refine here.orFails ?_ fun _ => (steady_setState _).follows
  intro fault machine value after ended
  cases ended

/-- Sending a message from outside follows. -/
theorem sendVia_follows (fuel : Nat) (object : Address) (selector : UInt16)
    (arguments : List Address) : Follows (sendVia (runWithin fuel) object selector arguments) := by
  refine (steady_context _).follows.bind fun depth => (steady_context _).follows.bind fun base =>
    takeRest_steady.follows.bind fun rest => ?_
  have sends : Follows (do
      let words ← writeMessage base selector arguments
      dispatch object object base words
      runWithin fuel depth) :=
    (writeMessage_steady _ _ _).follows.bind fun words => (dispatch_steady _ _ _ _).follows.bind
      fun _ => settle_follows depth (runUntil_follows fuel depth)
  -- A run that fails under tighter settings makes the whole message fail.
  refine sends.orFails ?_ fun _ => (steady_modifyContext _).follows.bind fun _ =>
    (steady_context _).follows
  intro fault machine value after ended
  cases ended

/-- How the message was answered decides what a run from outside tells and leaves. -/
theorem executeVia_eq (run : Runner) (object : Address) (selector : UInt16)
    (arguments : List Address) (machine : Machine) :
    executeVia run object selector arguments machine =
      (sendVia run object selector arguments machine).map fun sent =>
        (.ok (sent.2.told machine sent.1), sent.2.closed machine sent.1) := by
  -- By the outcome of the message: no end, a fault, an answer.
  show Option.bind (outcome (sendVia run object selector arguments) machine) _ = _
  rw [run_outcome]
  rcases sendVia run object selector arguments machine with _ | ⟨_ | acc, after⟩
  · rfl
  · rename_i fault
    cases fault <;> rfl
  · rfl

/--
Limits and policies are conservative.

A run from outside that comes to its end does so under looser settings, with the same outcome, and
leaves a machine in the same state.
-/
theorem loosening_keeps_run (fuel : Nat) {tight loose : Machine} (alike : tight.LoosensTo loose)
    (object : Address) (selector : UInt16) (arguments : List Address) {outcome : RunOutcome}
    {after : Machine}
    (ended : executeVia (runWithin fuel) object selector arguments tight =
      some (.ok outcome, after))
    (halted : outcome.state = .halted) :
    ∃ later, executeVia (runWithin fuel) object selector arguments loose =
      some (.ok outcome, later) ∧ after.LoosensTo later := by
  rw [executeVia_eq] at ended
  obtain ⟨⟨result, between⟩, sent, same⟩ := Option.map_eq_some_iff.mp ended
  cases same
  -- The message was answered, and it is answered in the same way under looser settings.
  obtain ⟨acc, rfl⟩ := answered_of_halted halted
  obtain ⟨later, sentToo, alikeLater⟩ := sendVia_follows fuel object selector arguments alike acc
    between sent
  refine ⟨later, ?_, alikeLater⟩
  rw [executeVia_eq, sentToo, Option.map_some]
  simp only [told, closed, alike.status, alikeLater.status]

end Runs

/--
A machine whose object has a method that asks a kernel function about the object itself.

There is room for one frame, and the kernel call is the one at which garbage is collected.
-/
def limitedMachine : Machine where
  store := { heap := {
    version := .sci0
    segments := #[none, some (.stack (Array.replicate 8 .null)), some (.script {
      number := 5, segment := 2, data := #[121, 125, 67, 0, 2, 72]
      objects := #[{
        pos := ⟨2, 100⟩, codeSegment := 2, version := .sci0, properties := #[.number 9]
        selectors := some #[20], methods := [⟨21, 0⟩], origin := none, lastSent := none }] })]
    residents := [(5, 2)] } }
  context := { stackSegment := 1, rest := 1 }
  status := { countdown := 1 }
  setup := {
    config := { stackSize := 8, maxCallDepth := 1 }, resources := {}, stringsSegment := 0
    kernel := ⟨#[⟨"IsObject", .builtin .isObject⟩]⟩ }

/-- The same machine with more room for frames, which passes over messages and records its steps. -/
def roomyMachine : Machine :=
  { limitedMachine with
    setup := { limitedMachine.setup with
      config := { stackSize := 8, continueOnInvalidSelector := true, traceInstructions := true } } }

/-- The settings of the second machine are looser. -/
theorem limitedMachine_loosens : limitedMachine.LoosensTo roomyMachine where
  -- The two machines differ in their settings only, which are compared field by field.
  heap := rfl
  context := rfl
  status := rfl
  config := ⟨rfl, rfl, rfl, by decide, by decide⟩
  kernel := rfl
  resources := rfl
  stringsSegment := rfl
  builtin := by
    intro entry member action
    obtain rfl : entry = ⟨"IsObject", .builtin .isObject⟩ := by
      simpa [limitedMachine] using member
    simp

/-- The method runs through the collection and its kernel call, in four steps on either machine. -/
theorem loosening_keeps_run_method :
    let outcome : RunOutcome := { state := .halted, acc := .number 1, steps := 4, fault := none }
    ∃ after later,
      executeVia (runWithin 9) ⟨2, 100⟩ 21 [] limitedMachine = some (.ok outcome, after) ∧
      after.status.countdown = 500 ∧
      executeVia (runWithin 9) ⟨2, 100⟩ 21 [] roomyMachine = some (.ok outcome, later) ∧
      after.LoosensTo later := by
  -- How the run ends on the first machine is computed.
  have result : (executeVia (runWithin 9) ⟨2, 100⟩ 21 [] limitedMachine).map
      (fun ended => (ended.1, ended.2.status.countdown)) =
      some (.ok { state := .halted, acc := .number 1, steps := 4, fault := none }, 500) := by
    decide +kernel
  obtain ⟨⟨outcome, after⟩, ended, same⟩ := Option.map_eq_some_iff.mp result
  obtain ⟨rfl, counted⟩ := Prod.mk.inj same
  obtain ⟨later, endedToo, alike⟩ :=
    loosening_keeps_run 9 limitedMachine_loosens ⟨2, 100⟩ 21 [] ended rfl
  exact ⟨after, later, ended, counted, endedToo, alike⟩

end Machine

end AdventureVm
