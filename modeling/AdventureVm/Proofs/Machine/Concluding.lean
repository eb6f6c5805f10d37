import AdventureVm.Proofs.Machine.Noticing

/-!
A run from outside leaves the machine in the state that it tells.

Between such runs there are no frames and nothing is being run, whatever the machine was asked to do
before.
-/

namespace AdventureVm

open VmM

/-- Nothing is being run. -/
def ExecState.IsIdle (state : ExecState) : Prop :=
  state = .halted ∨ state = .aborted ∨ state = .restarting ∨ state = .loadingSavedState

/-- A failed run is no longer being run. -/
theorem Fault.finalState_isIdle (fault : Fault) : fault.finalState.IsIdle := by
  -- Each request has a state of its own; all other faults abort.
  cases fault with
  | interrupted request =>
    cases request <;> simp [finalState, StopRequest.finalState, ExecState.IsIdle]
  | _ => simp [finalState, ExecState.IsIdle]

namespace Machine

/-- Nothing is being run on the machine. -/
def IsIdle (machine : Machine) : Prop :=
  machine.status.state.IsIdle

section States

variable {α : Type} {may : List Frame → List Frame → Prop}

/-- An idle machine runs no kernel function. -/
theorem IsIdle.not_awaiting {machine : Machine} (idle : machine.IsIdle) :
    machine.status.state ≠ .awaitingKernelCall := by
  -- Waiting for a kernel function is no idle state.
  intro waits
  simp [IsIdle, ExecState.IsIdle, waits] at idle

/-- Work that does not change what the machine is doing leaves it idle. -/
theorem along_isIdle {work : VmM α} (along : Along (Same (·.status.state)) work) :
    Along (Passes IsIdle) work := by
  -- Being idle is a matter of what the machine is doing, which stays.
  refine along.mono fun before after same idle => ?_
  rw [IsIdle, show after.status.state = before.status.state from same]
  exact idle

/-- Changing registers or frames does not change what the machine is doing. -/
theorem modifyContext_sameState (change : Context → Context) :
    Along (Same (·.status.state)) (modifyContext change) := by
  -- The status is no part of the context.
  intro machine
  rw [ends_modifyContext]
  rfl

/-- Memory, registers and the operand stack may be worked on while the machine does the same. -/
instance : AdmitsStack (Same fun machine => machine.status.state) where
  store _ machine := (ends_store _ machine _).mpr (Leads.intro fun _ _ _ => rfl)
  registers _ _ _ := modifyContext_sameState _
  setStackPointer _ := by
    rw [setStackPointer, modifyFrame]
    exact modifyContext_sameState _

/-- Starting a frame does not change what the machine is doing. -/
theorem pushFrame_sameState (frame : Frame) :
    Along (Same (·.status.state)) (pushFrame frame) :=
  (pushFrame_starts frame).mono fun _ _ starts => starts.state

/-- Sending messages does not change what the machine is doing. -/
theorem dispatch_sameState (target work : Address) (base words : Nat) :
    Along (Same (·.status.state)) (dispatch target work base words) :=
  dispatch_starting pushFrame_sameState target work base words

/-- What the machine is doing after a run is decided by how the run ended and what it did before. -/
theorem settle_state (depth : Nat) (work : VmM Unit) (machine : Machine) :
    Ends (settle depth work) machine (Either
      (fun _ after => after.status.state =
        if machine.status.state = .awaitingKernelCall then .awaitingKernelCall else .halted)
      fun fault after => after.status.state = fault.finalState) := by
  -- One case for a run that succeeds, one for a run that fails.
  simp only [settle, setState, ends_bind, ends_status, ends_modifyStatus, ends_outcome, either_ok]
  intro outcome between _
  cases outcome with
  | ok _ => simp only [ends_modifyStatus, either_ok]
  | error fault =>
    simp only [ends_bind, ends_modifyContext, ends_modifyStatus, ends_throw, either_ok,
      either_error]

/-- A run from an idle machine leaves it idle. -/
theorem runWithin_isIdle (fuel depth : Nat) : Along (Passes IsIdle) (runWithin fuel depth) := by
  refine along_passes fun machine idle => ?_
  refine (settle_state depth _ machine).either ?_ ?_
  · intro _ after settled
    -- An idle machine waits for no kernel call, so a run that ends well halts it.
    rw [if_neg idle.not_awaiting] at settled
    exact .inl settled
  · intro fault after settled
    rw [IsIdle, settled]
    exact fault.finalState_isIdle

/-- Memory and registers may be worked on while nothing is being run. -/
instance : Admits (Passes IsIdle) where
  store advances := along_isIdle (Admits.store advances)
  registers same sameStack sameRest := along_isIdle (Admits.registers same sameStack sameRest)

end States

section Idle

variable (fuel : Nat)

/-- Ending a run leaves the machine as idle as the run does. -/
theorem conclude_sameState (rest depth : Nat) (result : Except Fault Unit) :
    Along (Same (·.status.state)) (do
      modifyContext fun context => { context with rest }
      conclude depth result) := by
  -- Both branches touch registers and frames only.
  refine (modifyContext_sameState _).bind fun _ => ?_
  cases result with
  | ok _ => exact along_context _
  | error fault => exact (modifyContext_sameState _).bind fun _ => along_throw _

/-- Taking the waiting arguments leaves the machine idle. -/
theorem takeRest_isIdle : Along (Passes IsIdle) takeRest :=
  along_isIdle ((along_context _).bind fun _ => (modifyContext_sameState _).bind fun _ =>
    along_pure _)

/-- Sending a message from outside leaves the machine idle. -/
theorem sendVia_isIdle (object : Address) (selector : UInt16) (arguments : List Address) :
    Along (Passes IsIdle) (sendVia (runWithin fuel) object selector arguments) := by
  -- Only the run itself changes what the machine is doing, and it ends idle.
  refine (along_context _).bind fun depth => (along_context _).bind fun base =>
    takeRest_isIdle.bind fun rest => ?_
  refine Along.bind (Along.outcome ?_) fun result => along_isIdle (conclude_sameState rest depth _)
  exact (writeMessage_proceeds _ _ _).bind fun words =>
    (along_isIdle (dispatch_sameState _ _ _ _)).bind fun _ => runWithin_isIdle fuel depth

/-- Calling an export from outside leaves the machine idle. -/
theorem callExportVia_isIdle (number : UInt16) (index : Nat) (arguments : List Address) :
    Along (Passes IsIdle) (callExportVia (runWithin fuel) number index arguments) := by
  -- Only the run itself changes what the machine is doing, and it ends idle.
  refine (scriptExport_proceeds _ _).bind fun target => (along_context _).bind fun context =>
    takeRest_isIdle.bind fun rest => (stackSetAll_proceeds _ _).bind fun _ =>
      (along_require _).bind fun script => ?_
  refine Along.bind (Along.outcome ?_) fun result => along_isIdle (conclude_sameState rest _ _)
  exact (along_isIdle (pushFrame_sameState _)).bind fun _ => runWithin_isIdle fuel _

/-- A collection does not change what the machine is doing. -/
theorem collectGarbage_sameState : Along (Same (·.status.state)) collectGarbage := by
  -- A collection sets the countdown, another part of the status.
  refine (along_setup _).bind fun interval => ?_
  intro machine
  simp only [ends_bind, ends_modifyStatus, ends_context, ends_storeState, either_ok]
  rfl

/-- Whatever may be asked for from outside leaves the machine idle. -/
theorem grants_isIdle : Grants (Passes IsIdle) (fun _ => True) (runWithin fuel) where
  send object selector arguments := sendVia_isIdle fuel object selector arguments
  callExport number index arguments := callExportVia_isIdle fuel number index arguments
  -- Only a failed run sets the state, and aborted is idle too.
  abort machine := (ends_modifyStatus _ machine _).mpr fun _ => .inr (.inl rfl)
  status _ goesOn := along_isIdle fun machine =>
    (ends_modifyStatus _ machine _).mpr (goesOn machine.status).state
  memory _ := along_isIdle fun machine => (ends_storeState _ machine _).mpr rfl
  register _ _ _ := along_isIdle fun machine => (ends_modifyGet _ machine _).mpr rfl
  collect := along_isIdle collectGarbage_sameState

end Idle

/--
A machine that was started and then used from outside.

Each time it did one thing after the other, as an added kernel function would, or it ran a kernel
function, or it was given other kernel functions and another request to stop, or none.
-/
inductive Reached : Machine → Prop where
  | start {config : Config} {resources : Resources} {machine : Machine}
      (started : Machine.start config resources = .ok machine) : Reached machine
  | used {machine after : Machine} {fuel : Nat} {action : HostAction}
      {result : Except Fault Address} (reached : Reached machine)
      (ended : action.perform (runWithin fuel) machine = some (result, after)) : Reached after
  | called {machine after : Machine} {fuel : Nat} {entry : KernelEntry} {arguments : List Address}
      {result : Except Fault Address} (reached : Reached machine)
      (ended : applyKernel (runWithin fuel) entry arguments machine = some (result, after)) :
      Reached after
  | given {machine : Machine} (kernel : KernelTable) (stop : StopFlag) (reached : Reached machine) :
      Reached { machine with
        setup := { machine.setup with kernel }, status := { machine.status with stop } }

/-- Between two uses there are no frames and nothing is being run. -/
theorem Reached.idle {machine : Machine} (reached : machine.Reached) :
    machine.context.frames = .empty ∧ machine.IsIdle := by
  -- A use or a call empties the frames by itself and leaves the machine idle if it was.
  induction reached with
  | @start config resources machine started =>
    unfold Machine.start at started
    dsimp only at started
    split at started
    · cases started
    · cases started
      exact ⟨rfl, .inl rfl⟩
  | used _ ended ih =>
    have respects := HostAction.respects_all
    refine ⟨?_, (grants_isIdle _).perform (respects _) _ _ _ ended ih.2⟩
    have same := (grants_sameFrames (runWithin_comesBack _)).perform (respects _) _ _ _ ended
    exact same.trans ih.1
  | called _ ended ih =>
    refine ⟨?_, (grants_isIdle _).applyKernel (KernelEntry.respects_all _) _ _ _ _ ended ih.2⟩
    exact (applyKernel_same (runWithin_comesBack _) _ _ _ _ _ ended).trans ih.1
  | given _ _ _ ih => exact ih

section Leaving

variable {fuel : Nat} {machine : Machine} (idle : machine.IsIdle)
include idle

/-- How the machine is left when a message was to be answered, by whether it was. -/
theorem answer_leaves (depth base : Nat) (object : Address) (selector : UInt16)
    (arguments : List Address) :
    Ends (do
      let words ← writeMessage base selector arguments
      dispatch object object base words
      runWithin fuel depth) machine (Either (fun _ after => after.status.state = .halted)
        fun fault after => fault.IsGenuine ∨ after.status.state = fault.finalState) := by
  have writes : Along (Same (·.status.state)) (writeMessage base selector arguments) :=
    writeMessage_proceeds _ _ _
  -- Up to the run, a failure is no request to stop.
  rw [ends_bind]
  refine ((writes machine).and
    ((writeMessage_steady _ _ _).genuine machine)).mono ?_
  rintro result written ⟨same, genuine, _⟩
  cases result with
  | error fault => exact .inl genuine
  | ok words =>
    rw [either_ok, ends_bind]
    refine ((dispatch_sameState object object base words written).and
      ((dispatch_steady _ _ _ _).genuine written)).mono ?_
    rintro result sent ⟨sameToo, genuine, _⟩
    cases result with
    | error fault => exact .inl genuine
    | ok _ =>
      -- The run begins on a machine that is as idle as before.
      have state : sent.status.state = machine.status.state := sameToo.trans same
      refine (settle_state depth _ sent).either ?_ ?_
      · intro _ after settled
        rw [state, if_neg idle.not_awaiting] at settled
        exact settled
      · intro fault after settled
        exact .inr settled

/-- How the machine is left by a message from outside. -/
theorem sendVia_leaves (object : Address) (selector : UInt16) (arguments : List Address) :
    Ends (sendVia (runWithin fuel) object selector arguments) machine fun result after =>
      after.context.rest = machine.context.rest ∧
        Either (fun _ after => after.status.state = .halted)
          (fun fault after => fault.IsGenuine ∨ after.status.state = fault.finalState)
          result after := by
  rw [sendVia, ends_bind, ends_context, either_ok, ends_bind, ends_context, either_ok, ends_bind,
    ends_takeRest, either_ok, ends_bind, ends_outcome]
  have idleToo : IsIdle { machine with context := { machine.context with rest := 0 } } := idle
  refine (answer_leaves idleToo _ _ object selector arguments).mono ?_
  intro result between left
  -- Only now are the arguments put back that waited.
  rw [either_ok, ends_bind, ends_modifyContext, either_ok]
  cases result with
  | ok _ =>
    rw [conclude, ends_context]
    exact ⟨rfl, left⟩
  | error fault =>
    simp only [conclude, ends_bind, ends_modifyContext, either_ok, ends_throw]
    exact ⟨rfl, left⟩

/-- What a run from outside tells is what the machine is left doing. -/
theorem executeVia_state {object : Address} {selector : UInt16} {arguments : List Address}
    {result : Except Fault Address} {between : Machine}
    (sent : sendVia (runWithin fuel) object selector arguments machine = some (result, between)) :
    (between.closed machine result).status.state = (between.told machine result).state := by
  -- An interrupted run must tell the request, and left the state that goes with it.
  have left := (sendVia_leaves idle object selector arguments _ _ sent).2
  cases result with
  | ok acc => exact left
  | error fault =>
    cases fault with
    | interrupted request => exact left.resolve_left fun genuine => genuine request rfl
    | _ => rfl

end Leaving

section Told

variable (before after : Machine) (result : Except Fault Address)

/-- The state that is told is that of a machine on which nothing is being run. -/
theorem told_isIdle : (after.told before result).state.IsIdle := by
  -- The state that is told is halted or the final one of the fault.
  rw [told_state]
  cases result with
  | ok acc => exact .inl rfl
  | error fault => exact fault.finalState_isIdle

/-- A failure is told only of a run that was aborted. -/
theorem told_aborted (failed : (after.told before result).fault ≠ none) :
    (after.told before result).state = .aborted := by
  -- A success tells no failure, nor does an interruption.
  cases result with
  | ok acc => exact absurd rfl failed
  | error fault =>
    cases fault with
    | interrupted request => exact absurd rfl failed
    | _ => rfl

end Told

/-- How a run from outside leaves the machine. -/
structure Concluded (before : Machine) (outcome : RunOutcome) (after : Machine) : Prop where
  /-- No frames are left. -/
  frames : after.context.frames = .empty
  /-- The same number of arguments waits for the next call. -/
  rest : after.context.rest = before.context.rest
  /-- What the machine is doing is what is told. -/
  state : after.status.state = outcome.state
  /-- Nothing is being run. -/
  idle : outcome.state.IsIdle
  /-- A failure is told only of a run that was aborted. -/
  fault : outcome.fault ≠ none → outcome.state = .aborted
  /-- The request that is told of was taken during the run, by the run itself or inside of a kernel
  call, unless a kernel function made one up. -/
  noticed : ∀ request : StopRequest, request ≠ .abort → outcome.state = request.finalState →
    before.setup.kernel.Honest request → before.HasTaken request after

/-- Whatever the machine was used for before, a run from outside leaves it in the state that it
tells. -/
theorem execute_concludes {machine after : Machine} (reached : machine.Reached) {fuel : Nat}
    {object : Address} {selector : UInt16} {arguments : List Address}
    {result : Except Fault RunOutcome}
    (ended : executeVia (runWithin fuel) object selector arguments machine =
      some (result, after)) :
    ∃ outcome, result = .ok outcome ∧ Concluded machine outcome after := by
  -- The run sends one message and then tells how that ended.
  obtain ⟨empty, idle⟩ := reached.idle
  have whole := ended
  rw [executeVia_eq] at ended
  obtain ⟨⟨answer, between⟩, sent, same⟩ := Option.map_eq_some_iff.mp ended
  cases same
  have restored := sendVia_restores (runWithin_comesBack fuel) object selector arguments machine
    _ _ sent
  have left := sendVia_leaves idle object selector arguments _ _ sent
  have context := (closed_same machine between answer).1
  exact ⟨_, rfl, {
    frames := by rw [context, restored.frames, empty]
    rest := by rw [context, left.1]
    state := executeVia_state idle sent
    idle := told_isIdle machine between answer
    fault := told_aborted machine between answer
    noticed := fun _ special told honest => hasTaken_of_told special honest whole told }⟩

/-- A machine whose only kernel function asks for a restart and then runs, in a run of its own, the
method that called it. -/
def restartingMachine : Machine where
  store := limitedMachine.store
  context := { stackSegment := 1 }
  status := { countdown := 500 }
  setup := {
    config := { stackSize := 8 }, resources := {}, stringsSegment := 2
    kernel := ⟨#[⟨"Restart", .host fun arguments =>
      .requestStop .restart (.send (arguments.headD .null) 21 [] .finish)⟩]⟩ }

/-- Such a machine is one that was started and given its memory and its kernel function. -/
theorem restartingMachine_reached : restartingMachine.Reached := by
  -- Start the machine, fill its memory through a host action, give it the kernel function.
  have started := Reached.start (show Machine.start { stackSize := 8 } {} = .ok _ from rfl)
  have filled := started.used (show HostAction.perform (runWithin 0)
    (.memory (fun _ => limitedMachine.store) fun _ => .finish (.ok .null)) _ = some _ from rfl)
  exact filled.given restartingMachine.setup.kernel {}

/-- The kernel function makes up no request. -/
theorem restartingMachine_honest : restartingMachine.setup.kernel.Honest .restart := by
  -- There is only one entry, and it asks for a restart before anything else.
  intro entry member action same arguments
  obtain rfl : entry = restartingMachine.setup.kernel.entries[0] := by
    simpa [restartingMachine] using member
  cases same
  exact .requestStop (.send fun result own => .finish own)

/-- The request is noticed by the inner run and ends the outer one, which is what that one tells. -/
theorem execute_concludes_nested :
    ∃ outcome after,
      executeVia (runWithin 9) ⟨2, 100⟩ 21 [] restartingMachine = some (.ok outcome, after) ∧
      outcome.state = .restarting ∧ Concluded restartingMachine outcome after ∧
      restartingMachine.HasTaken .restart after := by
  -- The run ends within nine steps, so what it tells can be evaluated.
  have result : (executeVia (runWithin 9) ⟨2, 100⟩ 21 [] restartingMachine).map (·.1) =
      some (.ok { state := .restarting, acc := .null, steps := 3, fault := none }) := by
    decide +kernel
  obtain ⟨⟨_, after⟩, ended, rfl⟩ := Option.map_eq_some_iff.mp result
  obtain ⟨_, same, concluded⟩ := execute_concludes restartingMachine_reached ended
  cases same
  exact ⟨_, after, ended, rfl, concluded,
    concluded.noticed .restart (by decide) rfl restartingMachine_honest⟩

/-- Another thread stops that run after two steps, before the kernel function is called. -/
example :
    let stop : StopFlag := { signals := [.quiet, .quiet, .leave .restoreGame] }
    (executeVia (runWithin 9) ⟨2, 100⟩ 21 []
      { restartingMachine with status := { countdown := 500, stop } }).map (·.1) =
      some (.ok { state := .loadingSavedState, acc := .null, steps := 2, fault := none }) := by
  decide +kernel

end Machine

end AdventureVm
