import AdventureVm.Proofs.Machine.Composition

/-!
Work that begins over some frames ends over the same frames.

A run may start frames, end them and change them, and kernel functions may start runs of their own.
None of that reaches the frames that were there before.
-/

namespace AdventureVm

open VmM

/-- Starting frames again and again is starting frames. -/
instance : IsPreorder (List Frame) List.IsSuffix where
  refl := List.suffix_refl
  trans _ _ _ := List.IsSuffix.trans

namespace Machine

/-- The frames that are given are still there, below any that were started since. -/
def StandsOver (below : List Frame) (machine : Machine) : Prop :=
  below <:+ machine.context.frames.list

/-- The frames that are given are still there, and one that was started since is the current one. -/
def RunsOver (below : List Frame) (machine : Machine) : Prop :=
  ∃ frame callers, machine.context.frames.list = frame :: callers ∧ below <:+ callers

/-- The frames are the same, in every part. -/
abbrev SameFrames : Machine → Machine → Prop :=
  Same (·.context.frames)

section Frames

variable {α : Type} {below : List Frame} {machine : Machine} {home : SegmentId}

/-- Where a frame that was started since is the current one, the others are below it. -/
theorem RunsOver.standsOver (runs : machine.RunsOver below) : machine.StandsOver below := by
  -- The frames below are a suffix of the callers, hence of all frames.
  obtain ⟨frame, callers, split, rest⟩ := runs
  rw [StandsOver, split]
  exact rest.trans (List.suffix_cons frame callers)

/-- What leaves the frames alone does not touch those below. -/
theorem RunsOver.same {after : Machine} (runs : machine.RunsOver below)
    (same : machine.SameFrames after) : after.RunsOver below := by
  -- The list of frames is the same, so it splits in the same way.
  obtain ⟨frame, callers, split, rest⟩ := runs
  refine ⟨frame, callers, ?_, rest⟩
  rw [← split]
  exact congrArg FrameStack.list same

/-- What moves the current frame does not touch those below. -/
theorem RunsOver.moves {after : Machine} (runs : machine.RunsOver below)
    (moves : machine.Moves home after) : after.RunsOver below := by
  -- There is a current frame, and only that one may have been changed.
  obtain ⟨frame, callers, split, rest⟩ := runs
  have changed := moves.frames
  rw [split] at changed
  generalize later : after.context.frames.list = frames at changed
  cases changed with
  | current _ => exact ⟨_, callers, later, rest⟩

/-- What starts frames does not touch those below. -/
theorem RunsOver.starts {after : Machine} (runs : machine.RunsOver below)
    (starts : machine.Proceeds List.IsSuffix after) : after.RunsOver below := by
  obtain ⟨frame, callers, split, rest⟩ := runs
  obtain ⟨started, same⟩ := starts.frames
  rw [split] at same
  -- The current frame is one of those that were started, or the one that was current before.
  cases started with
  | nil => exact ⟨frame, callers, same.symm, rest⟩
  | cons first others =>
    refine ⟨first, others ++ frame :: callers, same.symm, ?_⟩
    exact rest.trans ((List.suffix_cons frame callers).trans (List.suffix_append others _))

/-- There are more frames than those below. -/
theorem RunsOver.deep (runs : machine.RunsOver below) : below.length < machine.context.depth := by
  -- The current frame comes in addition to those below.
  obtain ⟨frame, callers, split, rest⟩ := runs
  rw [Context.depth, FrameStack.size_eq, split, List.length_cons]
  have := rest.length_le
  omega

/-- Dropping frames does not touch those below while there are more of them left. -/
theorem RunsOver.truncate {depth : Nat} (runs : machine.RunsOver below)
    (deep : below.length < depth) :
    { machine with context := machine.context.truncate depth }.RunsOver below := by
  -- Counted from the outermost, those below come first, so dropping begins with the others.
  obtain ⟨frame, callers, split, above, same⟩ := runs
  have size : machine.context.frames.size = above.length + 1 + below.length := by
    rw [FrameStack.size_eq, split, ← same, List.length_cons, List.length_append]
    omega
  have list : (machine.context.truncate depth).frames.list =
      (frame :: above).drop (machine.context.frames.size - depth) ++ below := by
    have short : machine.context.frames.size - depth ≤ (frame :: above).length := by
      rw [List.length_cons]
      omega
    rw [← List.drop_append_of_le_length short, List.cons_append, same, ← split]
    rfl
  -- One of the frames that were started since is left at least.
  generalize kept : (frame :: above).drop (machine.context.frames.size - depth) = left at list
  cases left with
  | nil =>
    have dropped := List.drop_eq_nil_iff.mp kept
    rw [List.length_cons] at dropped
    omega
  | cons first others => exact ⟨first, others ++ below, list, List.suffix_append others below⟩

/-- Work that leaves the frames alone does not touch those below. -/
theorem along_same_runsOver {work : VmM α} (along : Along SameFrames work) :
    Along (Passes (RunsOver below)) work :=
  along.mono fun _ _ same runs => runs.same same

/-- Work that moves the current frame does not touch those below. -/
theorem along_moves_runsOver {work : VmM α} (along : Along (Moves home) work) :
    Along (Passes (RunsOver below)) work :=
  along.mono fun _ _ moves runs => runs.moves moves

/-- Work that changes no frame leaves the frames alone. -/
theorem along_sameFrames {work : VmM α} (along : Along (Proceeds Eq) work) :
    Along SameFrames work :=
  along.mono fun _ _ proceeds => FrameStack.ext proceeds.frames.symm

/-- Memory may be worked on, and registers may be set, while the frames are left alone. -/
instance : Admits SameFrames :=
  .of_proceeds fun _ _ proceeds => FrameStack.ext proceeds.frames.symm

/-- The current frame may use the operand stack without touching those below. -/
instance : AdmitsStack (Passes (RunsOver below)) where
  store advances := along_same_runsOver (Admits.store advances)
  registers same sameStack sameRest :=
    along_same_runsOver (Admits.registers same sameStack sameRest)
  setStackPointer sp := along_moves_runsOver (@setStackPointer_moves 0 sp)

end Frames

section Starting

/-- Leaving the frames alone is starting none. -/
theorem Proceeds.starting {machine between : Machine} (same : machine.Proceeds Eq between) :
    machine.Proceeds List.IsSuffix between :=
  same.mono fun _ _ equal => equal ▸ List.suffix_refl _

/-- Where the frames are the same, the stack ends at the same place. -/
theorem Proceeds.stackTop {machine between : Machine} (same : machine.Proceeds Eq between) :
    between.context.stackTop = machine.context.stackTop := by
  -- The current frame says where the stack ends.
  rw [Context.stackTop, Context.current?, ← same.frames]
  rfl

/-- A frame is started, unless there are too many already. -/
theorem ends_pushFrame (frame : Frame) (machine : Machine)
    (post : Except Fault Unit → Machine → Prop)
    (refused : ∀ fault, post (.error fault) machine)
    (started : post (.ok ()) { machine with context := machine.context.push frame }) :
    Ends (pushFrame frame) machine post := by
  -- The limit is looked at first, so a frame that is refused leaves no trace.
  simp only [pushFrame, ends_bind, ends_context, ends_setup, either_ok]
  split
  · simp only [ends_bind, ends_throw, either_error]
    exact refused _
  · simp only [ends_modifyContext]
    exact started

/-- Starting a frame does no more. -/
theorem pushFrame_starts (frame : Frame) :
    Along (Proceeds List.IsSuffix) (pushFrame frame) := by
  -- A refused frame changes nothing, a pushed one comes before the others.
  intro machine
  apply ends_pushFrame
  · intro fault
    exact refl machine
  · exact ⟨List.suffix_cons frame _, rfl, rfl, fun _ => .refl, rfl⟩

/-- Starting frames does no more. -/
theorem pushFrames_start (frames : List Frame) :
    Along (Proceeds List.IsSuffix) (pushFrames frames) :=
  pushFrames_along fun frame _ => pushFrame_starts frame

/-- A stack pointer that is set to what it is changes nothing. -/
theorem setStackPointer_self {machine : Machine} {base : Nat}
    (top : machine.context.stackTop = base) :
    Ends (setStackPointer base) machine fun _ after => machine.Proceeds Eq after := by
  -- Without a frame there is no pointer, and with one the pointer is the top of the stack.
  rw [setStackPointer, modifyFrame, ends_modifyContext]
  refine ⟨?_, rfl, rfl, fun _ => .refl, rfl⟩
  simp only [Context.modifyCurrent, FrameStack.list_modifyCurrent]
  simp only [Context.stackTop, Context.current?] at top
  cases frames : machine.context.frames.list with
  | nil => rfl
  | cons frame callers =>
    rw [frames] at top
    simp only [List.head?_cons, Option.elim_some] at top
    rw [List.modifyHead_cons, ← top]

/-- Where messages begin at the top of the stack, sending them does no more than start frames. -/
theorem dispatch_starts {machine : Machine} {base : Nat} (top : machine.context.stackTop = base)
    (target work : Address) (words : Nat) :
    Ends (dispatch target work base words) machine fun _ after =>
      machine.Proceeds List.IsSuffix after := by
  -- From wherever no frame was changed, the stack pointer is set to what it is.
  have sends (messages : List Message) {between : Machine} (same : machine.Proceeds Eq between) :
      Ends (do
        setStackPointer base
        pushFrames (← answers target work (base + words) messages)) between fun _ after =>
        machine.Proceeds List.IsSuffix after := by
    rw [ends_bind]
    refine (setStackPointer_self (same.stackTop.trans top)).mono ?_
    intro outcome later unchanged
    have reached : machine.Proceeds Eq later := IsTrans.trans _ _ _ same unchanged
    cases outcome with
    | error fault => exact reached.starting
    | ok _ =>
      refine ((answers_proceed target work _ messages).bind pushFrames_start later).mono ?_
      intro _ after starts
      exact IsTrans.trans _ _ _ reached.starting starts
  have reads : Along (Proceeds Eq) (operands? fun slots =>
      readMessages? slots base (base + words)) := operands?_proceed _
  have warns (excess : Nat) : Along (Proceeds Eq) (warnOverrun target excess) :=
    warnOverrun_proceeds _ _
  rw [dispatch, ends_bind]
  refine (reads machine).mono ?_
  intro outcome between same
  cases outcome with
  | error fault => exact same.starting
  | ok found =>
    rw [either_ok]
    dsimp only
    -- An overrun is warned about, and then the message is sent all the same.
    split
    · rw [ends_bind]
      refine (warns _ between).mono ?_
      intro outcome later warned
      have unchanged : machine.Proceeds Eq later := IsTrans.trans _ _ _ same warned
      cases outcome with
      | error fault => exact unchanged.starting
      | ok _ => exact sends found.1 unchanged
    · exact sends found.1 same

end Starting

section Work

variable {below : List Frame}

/-- Work that changes no frame does not touch those below. -/
theorem along_runsOver {α : Type} {work : VmM α} (along : Along (Proceeds Eq) work) :
    Along (Passes (RunsOver below)) work :=
  along_same_runsOver (along_sameFrames along)

/-- Sending messages from a frame does not touch the frames below it. -/
theorem dispatch_runsOver (target work : Address) (base words : Nat) :
    Along (Passes (RunsOver below)) (dispatch target work base words) := by
  -- The sender's stack pointer is moved, and frames are started over the sender.
  refine dispatch_starting (fun frame => ?_) target work base words
  exact (pushFrame_starts frame).mono fun _ _ starts runs => runs.starts starts

/-- Sending the messages on top of the stack does not touch the frames below the current one. -/
theorem sendMessages_runsOver (target work : Address) (bytes : Nat) :
    Along (Passes (RunsOver below)) (sendMessages target work bytes) :=
  sendMessages_along (along_runsOver takeRest_proceeds) (dispatch_runsOver target work) bytes

/-- Calling a procedure changes the frame that calls and none below it. -/
theorem callProcedure_runsOver (target : Address) (bytes : Nat) (locals : Option SegmentId) :
    Along (Passes (RunsOver below)) (callProcedure target bytes locals) := by
  refine (along_runsOver (callBase_proceeds _)).bind fun found => ?_
  refine frame_proceeds.bind fun caller => ?_
  intro machine
  rw [ends_bind]
  apply ends_pushFrame
  · exact fun _ runs => runs
  · rw [either_ok, ends_modifyContext]
    -- The frame below the new one is the one that was current.
    rintro ⟨frame, callers, split, rest⟩
    simp only [RunsOver, Context.setCallerStackPointer, FrameStack.list_modifyCaller, Context.push,
      FrameStack.list_push, split]
    exact ⟨_, _, rfl, rest.trans (List.suffix_cons _ callers)⟩

/-- Calling an export does not touch the frames below the current one. -/
theorem callExported_runsOver (number : UInt16) (index bytes : Nat) :
    Along (Passes (RunsOver below)) (callExported number index bytes) :=
  callExported_along (fun target locals => callProcedure_runsOver target bytes locals) number index

/-- A collection leaves registers and frames alone. -/
theorem collectGarbage_same : Along (Same (·.context)) collectGarbage := by
  -- Garbage is in memory, and only the count until the next collection is elsewhere.
  refine (along_setup _).bind fun interval => ?_
  intro machine
  simp only [ends_bind, ends_modifyStatus, ends_context, ends_storeState, either_ok]
  rfl

/-- Counting a kernel call leaves registers and frames alone. -/
theorem countKernelCall_same : Along (Same (·.context)) countKernelCall := by
  have counts (left : Nat) : Along (Same (·.context))
      (modifyStatus fun status => { status with countdown := left }) := by
    intro machine
    rw [ends_modifyStatus]
    rfl
  -- There may be no counting, and a collection only when the count runs out.
  refine (along_setup _).bind fun interval => ?_
  split
  · exact along_pure _
  · refine (along_status _).bind fun countdown => (counts _).bind fun _ => ?_
    split
    · exact collectGarbage_same.bind fun _ => along_pure _
    · exact along_pure _

end Work

/-- How an entry into the machine leaves it, whether it succeeds or fails. -/
structure Restored (before : Machine) (outcome : Except Fault Address) (after : Machine) :
    Prop where
  /-- The frames are those that were there before, in every part. -/
  frames : after.context.frames = before.context.frames
  /-- After a success the same number of arguments waits for the next call. -/
  rest : ∀ value, outcome = .ok value → after.context.rest = before.context.rest
  /-- After a success the machine is given back to the kernel function that had it. -/
  awaiting : ∀ value, outcome = .ok value → before.status.state = .awaitingKernelCall →
    after.status.state = .awaitingKernelCall

/-- How a run that was begun from a machine stands when it is over, before the registers are put
back. -/
structure Settled (before : Machine) (result : Except Fault Unit) (after : Machine) : Prop where
  /-- The frames that were there before are still there. -/
  stands : after.StandsOver before.context.frames.list
  /-- After a success there are no others. -/
  frames : result = .ok () → after.context.frames = before.context.frames
  /-- After a success the machine is given back to the kernel function that had it. -/
  awaiting : result = .ok () → before.status.state = .awaitingKernelCall →
    after.status.state = .awaitingKernelCall

end Machine

/-- Wherever it is started over some frames, the runner comes back to them. -/
def Runner.ComesBack (run : Runner) : Prop :=
  ∀ (machine : Machine) (below : FrameStack), machine.StandsOver below.list →
    Ends (run below.size) machine fun outcome after => after.context.frames = below ∧
      (outcome = .ok () → machine.status.state = .awaitingKernelCall →
        after.status.state = .awaitingKernelCall)

namespace Machine

section Entries

variable {run : Runner} {before : Machine}

/-- A failure is judged by its frames alone. -/
theorem Restored.of_failure {after : Machine} {fault : Fault}
    (frames : after.context.frames = before.context.frames) :
    Restored before (.error fault) after :=
  ⟨frames, by simp, by simp⟩

/-- A failure that happens while frames are started leaves the others where they are. -/
theorem Settled.of_failure {between : Machine} {fault : Fault}
    (starts : before.Proceeds List.IsSuffix between) : Settled before (.error fault) between :=
  ⟨starts.frames, by simp, by simp⟩

/-- A run that is begun by starting frames settles over the others. -/
theorem run_settles (comesBack : run.ComesBack) {between : Machine}
    (starts : before.Proceeds List.IsSuffix between) :
    Ends (run before.context.depth) between (Settled before) := by
  -- The runner is given the depth of the frames that were there, so it comes back to them.
  refine (comesBack between before.context.frames starts.frames).mono ?_
  intro result after ended
  obtain ⟨frames, awaiting⟩ := ended
  refine ⟨?_, fun _ => frames, fun succeeded waits => ?_⟩
  · exact frames ▸ List.suffix_refl after.context.frames.list
  · -- Starting frames did not change what the machine was doing.
    exact awaiting succeeded (starts.state.trans waits)

/-- The arguments that wait are taken. -/
theorem ends_takeRest (machine : Machine) (post : Except Fault Nat → Machine → Prop) :
    Ends takeRest machine post ↔ post (.ok machine.context.rest)
      { machine with context := { machine.context with rest := 0 } } :=
  ends_of_eq rfl post

/-- Putting the registers back restores what a run that has settled left. -/
theorem conclude_restores {work : VmM Unit} {machine : Machine}
    (settles : Ends work machine (Settled before)) :
    Ends (do
      let result ← VmM.outcome work
      modifyContext fun context => { context with rest := before.context.rest }
      conclude before.context.depth result) machine (Restored before) := by
  -- A failure is held back until the registers are as before.
  rw [ends_bind, ends_outcome]
  refine settles.mono ?_
  intro result between settled
  rw [either_ok, ends_bind, ends_modifyContext, either_ok]
  cases result with
  | ok _ =>
    simp only [conclude, ends_context]
    exact ⟨settled.frames rfl, fun _ _ => rfl, fun _ _ => settled.awaiting rfl⟩
  | error fault =>
    -- The frames that were started since are dropped.
    simp only [conclude, ends_bind, ends_modifyContext, ends_throw, either_ok]
    obtain ⟨above, split⟩ := settled.stands
    exact .of_failure (FrameStack.truncate_append split.symm)

/-- Sending a message leaves the frames as they were. -/
theorem sendVia_restores (comesBack : run.ComesBack) (object : Address) (selector : UInt16)
    (arguments : List Address) (machine : Machine) :
    Ends (sendVia run object selector arguments) machine (Restored machine) := by
  have taken : machine.Proceeds Eq
      { machine with context := { machine.context with rest := 0 } } :=
    ⟨rfl, rfl, rfl, fun _ => .refl, rfl⟩
  have writes : Along (Proceeds Eq) (writeMessage machine.context.stackTop selector arguments) :=
    writeMessage_proceeds _ _ _
  rw [sendVia, ends_bind, ends_context, either_ok, ends_bind, ends_context, either_ok, ends_bind,
    ends_takeRest, either_ok]
  apply conclude_restores
  -- The message is written, then sent, then the frames that answer it are run.
  rw [ends_bind]
  refine (writes _).mono ?_
  intro outcome written same
  have unchanged : machine.Proceeds Eq written := IsTrans.trans _ _ _ taken same
  cases outcome with
  | error fault => exact .of_failure unchanged.starting
  | ok words =>
    rw [either_ok, ends_bind]
    refine (dispatch_starts unchanged.stackTop object object words).mono ?_
    intro outcome begun starts
    have started := IsTrans.trans _ _ _ unchanged.starting starts
    cases outcome with
    | error fault => exact .of_failure started
    | ok _ => exact run_settles comesBack started

/-- Looking up an export leaves registers and frames alone. -/
theorem scriptExport_same (number : UInt16) (index : Nat) :
    Along (Same (·.context)) (scriptExport number index) := by
  refine Along.bind ?_ fun id => (along_require _).bind fun script => ?_
  · refine (along_setup _).bind fun resources => ?_
    intro machine
    -- Work on memory has no access to the registers.
    rw [ends_store]
    rfl
  · split
    · exact along_pure _
    · exact along_throw _

/-- Calling an export leaves the frames as they were. -/
theorem callExportVia_restores (comesBack : run.ComesBack) (number : UInt16) (index : Nat)
    (arguments : List Address) (machine : Machine) :
    Ends (callExportVia run number index arguments) machine (Restored machine) := by
  -- Whatever fails before the frame is started fails with the frames as they are.
  have finds : Along (Proceeds Eq) (scriptExport number index) := scriptExport_proceeds _ _
  rw [callExportVia, ends_bind]
  refine ((finds machine).and (scriptExport_same number index machine)).mono ?_
  intro outcome found both
  obtain ⟨proceeds, same⟩ := both
  cases outcome with
  | error fault => exact .of_failure (congrArg Context.frames same)
  | ok target =>
    have taken : machine.Proceeds Eq
        { found with context := { found.context with rest := 0 } } :=
      ⟨proceeds.frames, proceeds.setup, proceeds.state, proceeds.memory, proceeds.stackSegment⟩
    have writes : Along (Proceeds Eq)
        (stackSetAll found.context.stackTop (.ofNat arguments.length :: arguments)) :=
      stackSetAll_proceeds _ _
    rw [either_ok, ends_bind, ends_context, either_ok, ends_bind, ends_takeRest, either_ok,
      ends_bind]
    refine (writes _).mono ?_
    intro outcome written stored
    have unchanged : machine.Proceeds Eq written := IsTrans.trans _ _ _ taken stored
    have frames : written.context.frames = machine.context.frames :=
      FrameStack.ext unchanged.frames.symm
    cases outcome with
    | error fault => exact .of_failure frames
    | ok _ =>
      rw [either_ok, ends_bind, ends_require]
      -- The script is read again, since it was found before the arguments were written.
      cases written.store.heap.script target.segment with
      | error fault => exact .of_failure frames
      | ok script =>
        rw [either_ok, show found.context = machine.context from same]
        apply conclude_restores
        rw [ends_bind]
        refine (pushFrame_starts _ written).mono ?_
        intro outcome started starts
        have whole := IsTrans.trans _ _ _ unchanged.starting starts
        cases outcome with
        | error fault => exact .of_failure whole
        | ok _ => exact run_settles comesBack whole

/-- Setting what the machine is doing leaves the frames alone. -/
theorem setState_same (state : ExecState) : Along SameFrames (setState state) := by
  -- Frames are no part of the status.
  intro machine
  rw [setState, ends_modifyStatus]
  rfl

end Entries

section Running

variable {run : Runner} {below : List Frame}

/-- Whatever an added kernel function may ask for leaves the frames as they were. -/
theorem grants_sameFrames (comesBack : run.ComesBack) :
    Grants SameFrames (fun _ => True) run where
  send object selector arguments machine :=
    (sendVia_restores comesBack object selector arguments machine).mono
      fun _ _ restored => restored.frames
  callExport number index arguments machine :=
    (callExportVia_restores comesBack number index arguments machine).mono
      fun _ _ restored => restored.frames
  -- What follows has nothing to do with frames.
  abort := setState_same .aborted
  status _ _ machine := (ends_modifyStatus _ machine _).mpr rfl
  memory _ machine := (ends_storeState _ machine _).mpr rfl
  register _ _ _ machine := (ends_modifyGet _ machine _).mpr rfl
  collect := collectGarbage_same.mono fun _ _ same => congrArg Context.frames same

/-- Running a kernel function leaves the frames as they were. -/
theorem applyKernel_same (comesBack : run.ComesBack) (entry : KernelEntry)
    (arguments : List Address) : Along SameFrames (applyKernel run entry arguments) :=
  (grants_sameFrames comesBack).applyKernel entry.respects_all arguments

/-- Calling a kernel function does not touch the frames below the current one. -/
theorem callKernel_runsOver (comesBack : run.ComesBack) (index bytes : Nat) :
    Along (Passes (RunsOver below)) (callKernel run index bytes) := by
  have counts : Along SameFrames countKernelCall :=
    countKernelCall_same.mono fun _ _ same => congrArg Context.frames same
  refine (along_same_runsOver counts).bind fun _ => ?_
  refine (along_runsOver (callBase_proceeds bytes)).bind fun found => ?_
  refine (stackSlice_proceeds _ _).bind fun arguments => (along_setup _).bind fun entry => ?_
  cases entry with
  | none => exact along_throw _
  | some entry =>
    have sets (state : ExecState) : Along (Passes (RunsOver below)) (setState state) :=
      along_same_runsOver (setState_same state)
    refine (note_proceeds _ _).bind fun _ => along_passes fun machine runs => ?_
    rw [ends_bind, ends_context, either_ok]
    -- What is dropped afterwards was started by the function.
    have drops : Along (Passes (RunsOver below))
        (modifyContext (·.truncate machine.context.depth)) := by
      intro between
      rw [ends_modifyContext]
      exact fun still => still.truncate runs.deep
    refine Along.keeps ?_ runs
    refine (sets .awaitingKernelCall).bind fun _ => ?_
    refine (along_same_runsOver (applyKernel_same comesBack entry arguments)).outcome.bind
      fun result => ?_
    refine (sets .running).bind fun _ => drops.bind fun _ => ?_
    refine (along_ofExcept result).bind fun value => ?_
    exact (setAcc_proceeds value).bind fun _ => AdmitsStack.setStackPointer found.1

/-- Executing an instruction ends the current frame at most. -/
theorem execute_standsOver (comesBack : run.ComesBack) (instruction : Instruction)
    (next : Address) {machine : Machine} (runs : machine.RunsOver below) :
    Ends (execute run instruction next) machine fun _ after => after.StandsOver below := by
  -- Work that does not touch what is below does not end the current frame either.
  have stands {work : VmM Unit} (along : Along (Passes (RunsOver below)) work) :
      Ends work machine fun _ after => after.StandsOver below :=
    (along.keeps runs).mono fun _ _ stillRuns => stillRuns.standsOver
  by_cases plain : instruction.operation.isPlain
  · exact stands (along_moves_runsOver (execute_moves run next plain))
  · rw [execute, ends_bind, ends_context, either_ok]
    cases operation : instruction.operation with
    | call => exact stands (callProcedure_runsOver _ _ _)
    | callKernel => exact stands (callKernel_runsOver comesBack _ _)
    | callBase => exact stands (callExported_runsOver _ _ _)
    | callExport => exact stands (callExported_runsOver _ _ _)
    -- Returning uncovers the callers, among which the frames below are.
    | ret =>
      simp only [dropFrame, ends_modifyContext]
      obtain ⟨frame, callers, split, rest⟩ := runs
      rw [StandsOver, Context.pop, FrameStack.list_pop, split]
      exact rest
    | send => exact stands (sendMessages_runsOver _ _ _)
    | sendSelf =>
      exact stands (frame_proceeds.bind fun _ => sendMessages_runsOver _ _ _)
    | sendSuper =>
      exact stands ((resolveClass_proceeds _).bind fun _ => frame_proceeds.bind fun _ =>
        sendMessages_runsOver _ _ _)
    | _ =>
      rw [operation] at plain
      simp [Operation.isPlain] at plain

/-- Accessing the property that a message asks for ends the current frame and does no more. -/
theorem accessSelected_standsOver (frame : Frame) (index : Nat) {machine : Machine}
    (runs : machine.RunsOver below) :
    Ends (accessSelected frame index) machine fun _ after => after.StandsOver below := by
  have accesses := along_sameFrames (selected_proceeds frame index)
  -- The frame goes first, and the property is accessed from the one that sent the message.
  rw [accessSelected, ends_bind, dropFrame, ends_modifyContext, either_ok]
  refine (accesses _).mono ?_
  intro _ after same
  obtain ⟨current, callers, split, rest⟩ := runs
  rw [StandsOver, show after.context.frames = _ from same, Context.pop, FrameStack.list_pop, split]
  exact rest

/-- A step ends the current frame at most. -/
theorem step_standsOver (comesBack : run.ComesBack) {machine : Machine}
    (runs : machine.RunsOver below) :
    Ends (step run) machine fun _ after => after.StandsOver below := by
  -- The current frame is one of those above, so the step is theirs.
  apply ends_step
  · exact fun _ => runs.standsOver
  · exact fun frame index _ => accessSelected_standsOver frame index runs
  · exact fun _ _ _ _ _ moves => (runs.moves moves).standsOver
  · intro frame instruction between _ _ moves
    exact execute_standsOver comesBack instruction _ (runs.moves moves)

/-- Where there are more frames than those below, one of the others is the current one. -/
theorem StandsOver.runsOver {machine : Machine} (stands : machine.StandsOver below)
    (deep : below.length < machine.context.depth) : machine.RunsOver below := by
  -- The frames above are not none, by their number.
  obtain ⟨above, split⟩ := stands
  cases above with
  | nil =>
    rw [Context.depth, FrameStack.size_eq, ← split, List.nil_append] at deep
    exact absurd deep (Nat.lt_irrefl _)
  | cons frame others =>
    exact ⟨frame, others ++ below, split.symm, List.suffix_append others below⟩

/-- Where there are no more frames than those below, these are all. -/
theorem StandsOver.eq {machine : Machine} {below : FrameStack}
    (stands : machine.StandsOver below.list) (shallow : machine.context.depth ≤ below.size) :
    machine.context.frames = below := by
  -- A suffix that is as long as the whole is the whole.
  apply FrameStack.ext
  rw [Context.depth, FrameStack.size_eq, FrameStack.size_eq] at shallow
  exact (stands.eq_of_length_le shallow).symm

/-- Setting what the machine is doing before and after a run leaves its frames as the run does. -/
theorem settle_comesBack {work : Nat → VmM Unit}
    (returns : ∀ (machine : Machine) (below : FrameStack), machine.StandsOver below.list →
      Ends (work below.size) machine fun outcome after =>
        after.StandsOver below.list ∧ (outcome = .ok () → after.context.frames = below)) :
    Runner.ComesBack fun depth => settle depth (work depth) := by
  intro machine below stands
  simp only [settle, setState, ends_bind, ends_status, ends_modifyStatus, ends_outcome, either_ok]
  refine Ends.mono (returns _ below ?_) ?_
  · exact stands
  intro outcome between returned
  obtain ⟨still, frames⟩ := returned
  cases outcome with
  | ok _ =>
    simp only [ends_modifyStatus]
    refine ⟨frames rfl, fun _ waits => ?_⟩
    rw [if_pos waits]
  | error fault =>
    -- The frames that a failed run leaves are dropped.
    simp only [ends_bind, ends_modifyContext, ends_modifyStatus, ends_throw, either_ok]
    obtain ⟨above, split⟩ := still
    exact ⟨FrameStack.truncate_append split.symm, by simp⟩

/-- However many steps it takes, a run ends over the frames over which it was started. -/
theorem runUntil_returns (fuel : Nat) (machine : Machine) (below : FrameStack)
    (stands : machine.StandsOver below.list) :
    Ends (runUntil fuel below.size) machine fun outcome after =>
      after.StandsOver below.list ∧ (outcome = .ok () → after.context.frames = below) := by
  -- A kernel function that is called in a step has fewer steps left for runs of its own.
  induction fuel generalizing machine below with
  | zero => exact ends_runUntil_zero
  | succ fuel ih =>
    apply ends_runUntil_succ
    case returned =>
      -- Nothing stands above what is below any more.
      exact fun shallow => ⟨stands, fun _ => stands.eq shallow⟩
    case stopped =>
      -- A request to stop ends the run before the step, with the frames as they are.
      exact fun request _ => ⟨stands, by simp⟩
    case steps =>
      intro deep _
      rw [below.size_eq] at deep
      have still : machine.polled.StandsOver below.list := stands
      have comesBack : Runner.ComesBack (runWithin fuel) := settle_comesBack ih
      refine (step_standsOver comesBack (still.runsOver deep)).mono ?_
      intro ending between stillThen
      cases ending with
      | ok _ => exact ih between below stillThen
      | error fault => exact ⟨stillThen, by simp⟩

/-- A run of any number of steps comes back to the frames over which it was started. -/
theorem runWithin_comesBack (fuel : Nat) : Runner.ComesBack (runWithin fuel) :=
  settle_comesBack (runUntil_returns fuel)

end Running

/-- A way into the machine, from outside or from a kernel function. -/
inductive Entry where
  /-- Sends a message. -/
  | send (object : Address) (selector : UInt16) (arguments : List Address)
  /-- Calls an export of a script. -/
  | callExport (number : UInt16) (index : Nat) (arguments : List Address)

/-- Goes that way and runs the frames that are started. -/
def Entry.via (run : Runner) : Entry → VmM Address
  | send object selector arguments => sendVia run object selector arguments
  | callExport number index arguments => callExportVia run number index arguments

/--
Whatever the machine is asked to run, and however that ends, the frames that were there are left as
they were, each in every part. Where it succeeds, the same arguments wait as before, and a kernel
function that had the machine has it again.

One way to end is a request to stop, which another thread may leave before any step of the run.
-/
theorem entry_restores_frames (entry : Entry) (fuel : Nat) {machine after : Machine}
    {outcome : Except Fault Address}
    (ended : entry.via (runWithin fuel) machine = some (outcome, after)) :
    Restored machine outcome after := by
  -- Runs come back to the frames below them, and each entry starts its run over all that are there.
  have comesBack := runWithin_comesBack fuel
  cases entry with
  | send object selector arguments =>
    exact sendVia_restores comesBack object selector arguments machine outcome after ended
  | callExport number index arguments =>
    exact callExportVia_restores comesBack number index arguments machine outcome after ended

/--
A machine in the middle of a kernel call, with two frames and two arguments that wait.

The first export of its script calls a kernel function that in turn calls the second export.
-/
def busyMachine : Machine where
  store := { heap := {
    version := .sci0
    segments := #[none, some (.stack (Array.replicate 16 .null)),
      some (.script { number := 5, segment := 2, data := #[119, 67, 0, 0, 72, 53, 7, 72]
                      exports := #[0, 5] })]
    residents := [(5, 2)] } }
  context := {
    stackSegment := 1, rest := 2
    frames := .ofList [{ kind := .method, pc := ⟨2, 4⟩, sp := 5, fp := 3, argp := 2, argc := 1 },
      { kind := .call, pc := ⟨2, 4⟩, sp := 2 }] }
  status := { state := .awaitingKernelCall, countdown := 500 }
  setup := {
    config := {}, resources := {}, stringsSegment := 0
    kernel := ⟨#[⟨"Again", .host fun _ => .callExport 5 1 [] .finish⟩]⟩ }

/-- The same machine, which another thread asks to stop while the second export is being run. -/
def disturbedMachine : Machine :=
  { busyMachine with
    status := { busyMachine.status with
      stop := { signals := [.quiet, .quiet, .quiet, .leave .abort] } } }

/-- The run inside of a run comes to its end, and so does the outer one; or both are stopped by
another thread. -/
theorem entry_restores_frames_nested :
    (∃ after, (Entry.callExport 5 0 [.number 3]).via (runWithin 9) busyMachine =
        some (.ok (.number 7), after) ∧
      Restored busyMachine (.ok (.number 7)) after) ∧
    ∃ after, (Entry.callExport 5 0 [.number 3]).via (runWithin 9) disturbedMachine =
        some (.error (.interrupted .abort), after) ∧
      Restored disturbedMachine (.error (.interrupted .abort)) after := by
  -- How the call ends is computed; where the frames are is left to the theorem.
  have result : ((Entry.callExport 5 0 [.number 3]).via (runWithin 9) busyMachine).map
      (·.1) = some (.ok (.number 7)) := by decide +kernel
  have stopped : ((Entry.callExport 5 0 [.number 3]).via (runWithin 9) disturbedMachine).map
      (·.1) = some (.error (.interrupted .abort)) := by decide +kernel
  obtain ⟨⟨outcome, after⟩, ended, rfl⟩ := Option.map_eq_some_iff.mp result
  obtain ⟨⟨outcome, later⟩, endedToo, rfl⟩ := Option.map_eq_some_iff.mp stopped
  exact ⟨⟨after, ended, entry_restores_frames _ 9 ended⟩,
    later, endedToo, entry_restores_frames _ 9 endedToo⟩

end Machine

end AdventureVm
