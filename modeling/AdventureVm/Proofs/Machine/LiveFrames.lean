import AdventureVm.Proofs.Collector.Exactness
import AdventureVm.Proofs.Machine.Running

/-!
Frames whose code is in memory.

Starting frames, executing instructions, loading and disposing of scripts, and collecting keep the
code of every frame in memory, together with its variables, as long as no kernel function was added.
-/

namespace AdventureVm

open VmM

/-- What a frame needs is in memory. -/
structure Frame.IsLive (heap : Heap) (frame : Frame) : Prop where
  /-- The code is that of a script, and the variables are those of the same script. -/
  code : frame.RunsCode → ∃ script, heap.get? frame.pc.segment = some (.script script) ∧
    script.localsSegment = frame.locals
  /-- A frame without code has no variables. -/
  bare : ¬ frame.RunsCode → frame.locals = 0

/-- No kernel function was added to those that the machine brings along. -/
def KernelTable.IsBuiltin (table : KernelTable) : Prop :=
  ∀ entry ∈ table.entries, ∀ action, entry.function ≠ .host action

/-- What every frame needs is in memory. -/
structure Machine.IsLive (machine : Machine) : Prop where
  /-- The tables of memory agree with each other. -/
  sound : machine.store.heap.Sound
  /-- What each frame needs is in memory. -/
  frames : ∀ frame ∈ machine.context.frames.list, frame.IsLive machine.store.heap
  /-- No kernel function was added. -/
  kernel : machine.setup.kernel.IsBuiltin

/-- There is a current frame, which runs code of the segment that is called home. -/
structure Machine.LivesIn (home : SegmentId) (machine : Machine) : Prop where
  /-- What every frame needs is in memory. -/
  live : machine.IsLive
  /-- The current frame is at home. -/
  current : ∃ frame, machine.context.current? = some frame ∧ frame.RunsCode ∧
    frame.pc.segment = home

namespace Frame

variable {heap after : Heap} {frame next : Frame}

/-- A frame that runs code needs the script of the code, with its variables. -/
theorem isLive_of_code {script : Script} (runs : frame.RunsCode)
    (found : heap.get? frame.pc.segment = some (.script script))
    (own : script.localsSegment = frame.locals) : frame.IsLive heap :=
  ⟨fun _ => ⟨script, found, own⟩, fun noCode => absurd runs noCode⟩

/-- A frame that goes on in the same segment needs the same. -/
theorem IsLive.goes (live : frame.IsLive heap) (goes : frame.Goes frame.pc.segment next) :
    next.IsLive heap := by
  -- It stands for the same, has the same variables, and its code is in the same script.
  have segment : next.pc.segment = frame.pc.segment := or_self_iff.mp goes.segment
  have runs : next.RunsCode ↔ frame.RunsCode := by
    rw [RunsCode, RunsCode, goes.kind]
  refine ⟨fun code => ?_, fun noCode => ?_⟩
  · rw [segment, goes.locals]
    exact live.code (runs.mp code)
  · rw [goes.locals]
    exact live.bare fun code => noCode (runs.mpr code)

/-- What a frame needs stays where every script stays, with the same variables. -/
theorem IsLive.of_stays (live : frame.IsLive heap)
    (stays : ∀ script, heap.get? frame.pc.segment = some (.script script) → frame.RunsCode →
      ∃ later, after.get? frame.pc.segment = some (.script later) ∧
        later.localsSegment = script.localsSegment) : frame.IsLive after := by
  -- The script of the code is there by assumption; a frame without code needs nothing.
  refine ⟨fun code => ?_, live.bare⟩
  obtain ⟨script, found, same⟩ := live.code code
  obtain ⟨later, foundLater, kept⟩ := stays script found code
  exact ⟨later, foundLater, kept.trans same⟩

/-- What a frame needs stays while memory develops. -/
theorem IsLive.develops (live : frame.IsLive heap) (develops : heap.Develops after) :
    frame.IsLive after := by
  -- A script stays in its place, whatever becomes of its locks.
  apply live.of_stays
  intro script found _
  obtain ⟨later, foundLater, _, kept⟩ := develops.script_stays found
  exact ⟨later, foundLater, kept⟩

/-- The frame of a property needs nothing. -/
theorem isLive_property (target work : Address) (index top : Nat) (message : Message) :
    (Machine.propertyFrame target work index top message).IsLive heap :=
  ⟨by simp [RunsCode, Machine.propertyFrame], fun _ => rfl⟩

end Frame

namespace Machine

variable {α : Type} {machine after : Machine} {home : SegmentId}

section Kept

/-- Memory may develop, and frames may go on in their segments or end, under what is live. -/
theorem IsLive.goes (live : machine.IsLive)
    (develops : machine.store.heap.Develops after.store.heap) (setup : after.setup = machine.setup)
    (goes : ∀ frame ∈ after.context.frames.list, ∃ former ∈ machine.context.frames.list,
      former.Goes former.pc.segment frame) : after.IsLive := by
  -- Each frame afterwards goes on from one that was live, in memory that only developed.
  refine ⟨develops.sound live.sound, ?_, ?_⟩
  · intro frame member
    obtain ⟨former, there, goesOn⟩ := goes frame member
    exact ((live.frames former there).goes goesOn).develops develops
  · rw [setup]
    exact live.kernel

/-- Frames may go on in their segments or end under what is live. -/
theorem IsLive.context (live : machine.IsLive) {context : Context}
    (goes : ∀ frame ∈ context.frames.list, ∃ former ∈ machine.context.frames.list,
      former.Goes former.pc.segment frame) : { machine with context }.IsLive :=
  @IsLive.goes machine { machine with context } live .refl rfl goes

/-- Dropping frames leaves what the others need. -/
theorem IsLive.truncate (live : machine.IsLive) (depth : Nat) :
    { machine with context := machine.context.truncate depth }.IsLive :=
  live.context fun frame member => ⟨frame, List.mem_of_mem_drop member, .refl frame⟩

/-- Ending a frame leaves what the others need. -/
theorem IsLive.pop (live : machine.IsLive) :
    { machine with context := machine.context.pop }.IsLive :=
  live.context fun frame member => ⟨frame, List.mem_of_mem_tail member, .refl frame⟩

/-- Moving the stack pointer of a frame is no change to what it needs. -/
theorem IsLive.setStackPointer (live : machine.IsLive) {context : Context} {place sp : Nat}
    (moved : context.frames.list =
      machine.context.frames.list.modify place fun frame => { frame with sp }) :
    { machine with context }.IsLive := by
  apply live.context
  intro frame member
  rw [moved] at member
  obtain ⟨index, held⟩ := List.mem_iff_getElem?.mp member
  rw [List.getElem?_modify] at held
  obtain ⟨former, there, same⟩ := Option.map_eq_some_iff.mp held
  refine ⟨former, List.mem_of_getElem? there, ?_⟩
  -- Only the frame in the place is changed, and only in its stack pointer.
  split at same
  · subst same
    exact ⟨rfl, rfl, .inl rfl⟩
  · subst same
    exact .refl former

/-- A frame may be started when what it needs is in memory. -/
theorem IsLive.push (live : machine.IsLive) {frame : Frame}
    (liveFrame : frame.IsLive machine.store.heap) :
    { machine with context := machine.context.push frame }.IsLive := by
  -- The new frame is live by assumption, all others were before.
  refine ⟨live.sound, ?_, live.kernel⟩
  intro other member
  rcases List.mem_cons.mp member with rfl | former
  · exact liveFrame
  · exact live.frames other former

/-- Work that changes no frame keeps what frames need. -/
theorem IsLive.proceeds (live : machine.IsLive) (proceeds : machine.Proceeds Eq after) :
    after.IsLive := by
  -- Each frame is one of those that were there.
  apply live.goes (proceeds.memory live.sound.opened) proceeds.setup
  intro frame member
  rw [← proceeds.frames] at member
  exact ⟨frame, member, .refl frame⟩

/-- Work that moves the current frame keeps it at home, and keeps what frames need. -/
theorem LivesIn.moves (lives : machine.LivesIn home) (moves : machine.Moves home after) :
    after.LivesIn home := by
  obtain ⟨frame, isCurrent, runs, segment⟩ := lives.current
  have changed := moves.frames
  generalize before : machine.context.frames.list = frames at changed
  generalize now : after.context.frames.list = later at changed
  rw [Context.current?, before] at isCurrent
  cases changed with
  | none => simp at isCurrent
  | @current first next callers goes =>
    rw [List.head?_cons, Option.some.injEq] at isCurrent
    subst isCurrent
    -- The frame was at home, so wherever it goes it stays there.
    rw [← segment] at goes
    refine ⟨lives.live.goes (moves.memory lives.live.sound.opened) moves.setup ?_, next, ?_, ?_, ?_⟩
    · -- Callers are the same frames as before, and each stays live as memory develops.
      intro other member
      rw [now] at member
      rw [before]
      rcases List.mem_cons.mp member with rfl | caller
      · exact ⟨first, List.mem_cons_self, goes⟩
      · exact ⟨other, List.mem_cons_of_mem _ caller, .refl other⟩
    · rw [Context.current?, now, List.head?_cons]
    · rw [Frame.RunsCode, goes.kind]
      exact runs
    · rw [or_self_iff.mp goes.segment, segment]

/-- Work that changes no frame keeps what frames need. -/
theorem along_isLive {work : VmM α} (along : Along (Proceeds Eq) work) :
    Along (Passes IsLive) work :=
  along.mono fun _ _ proceeds live => live.proceeds proceeds

/-- Work that changes no frame keeps the current one at home. -/
theorem along_livesIn {work : VmM α} (along : Along (Moves home) work) :
    Along (Passes (LivesIn home)) work :=
  along.mono fun _ _ moves lives => lives.moves moves

/-- How the work stands is nothing that a frame needs. -/
theorem modifyStatus_isLive (change : Status → Status) :
    Along (Passes IsLive) (modifyStatus change) := by
  -- Memory, frames and kernel functions are other parts of the machine.
  intro machine
  rw [ends_modifyStatus]
  exact fun live => ⟨live.sound, live.frames, live.kernel⟩

/-- Dropping frames keeps what the others need. -/
theorem truncate_isLive (depth : Nat) :
    Along (Passes IsLive) (modifyContext (·.truncate depth)) := by
  -- The frames that are left were among the live ones.
  intro machine
  rw [ends_modifyContext]
  exact fun live => live.truncate depth

/-- What frames need is kept by what comes before and after the steps of a run. -/
instance : AdmitsRuns (Passes IsLive) where
  store advances := along_isLive (Admits.store advances)
  registers same sameStack _ := along_isLive (registers_proceed same sameStack)
  status := modifyStatus_isLive
  truncate := truncate_isLive
  rest _ := along_isLive (registers_proceed (fun _ => rfl) fun _ => rfl)

/-- Moving the current stack pointer keeps what frames need. -/
theorem setStackPointer_isLive (sp : Nat) : Along (Passes IsLive) (setStackPointer sp) := by
  intro machine
  rw [setStackPointer, modifyFrame, ends_modifyContext]
  intro live
  -- The current frame is the first of the list.
  apply @IsLive.setStackPointer machine live _ 0 sp
  rw [Context.modifyCurrent, FrameStack.list_modifyCurrent, List.modifyHead_eq_modify_zero]

/-- The current frame may use the operand stack. -/
instance : AdmitsStack (Passes IsLive) where
  setStackPointer := setStackPointer_isLive

end Kept

section Messages

/-- The frame of a method finds its code in memory. -/
theorem methodFrame_isLive (target work pc : Address) (top : Nat) (message : Message)
    (live : machine.IsLive) :
    Ends (methodFrame target work pc top message) machine (Either
      (fun frame after => after.IsLive ∧ frame.IsLive after.store.heap)
      fun _ after => after.IsLive) := by
  rw [methodFrame, ends_bind, ends_require]
  cases found : machine.store.heap.script pc.segment with
  | error fault => exact live
  | ok script =>
    have develops : machine.store.heap.Develops
        (machine.store.heap.modifyObject target fun object =>
          { object with lastSent := some message.selector }) :=
      Heap.Develops.refl.modifyObject target fun _ => rfl
    rw [either_ok, ends_bind, ends_store, StoreM.leads_change, either_ok, ends_pure, either_ok]
    refine ⟨live.goes develops rfl fun frame member => ⟨frame, member, .refl frame⟩, ?_⟩
    -- The script is still there, with the variables that the frame was given.
    obtain ⟨later, foundLater, _, same⟩ :=
      develops.script_stays (Heap.script_eq_ok.mp found)
    exact Frame.isLive_of_code (.inr rfl) foundLater same

/-- The frame that answers a message finds its code in memory. -/
theorem answer?_isLive (target work : Address) (top : Nat) (message : Message)
    (live : machine.IsLive) :
    Ends (answer? target work top message) machine (Either
      (fun answer after => after.IsLive ∧ ∀ frame ∈ answer, frame.IsLive after.store.heap)
      fun _ after => after.IsLive) := by
  refine (store_proceeds (Store.resolve_advances _ _)).then live
    (fun _ _ live => live) ?_
  intro found resolved live
  -- A method gets a frame of code, a variable one that accesses it.
  cases found with
  | method pc owner =>
    simp only [ends_bind]
    refine (methodFrame_isLive target work pc top message live).either ?_ ?_
    · intro frame after both
      simpa using both
    · exact fun _ _ live => live
  | «variable» object index =>
    simp only [ends_pure, either_ok]
    refine ⟨live, ?_⟩
    simpa using Frame.isLive_property target work index top message
  | notFound =>
    refine (selectorNotFound_proceeds _ _).then live (fun _ _ live => live) ?_
    intro fault _ live
    refine (along_setup _).then live (fun _ _ live => live) ?_
    intro lenient _ live
    split
    · -- A message that is passed over is answered by no frame.
      refine (note_proceeds _ _).then live (fun _ _ live => live) ?_
      intro _ _ live
      refine (setAcc_proceeds _).then live (fun _ _ live => live) ?_
      intro _ _ live
      rw [ends_pure, either_ok]
      exact ⟨live, by simp⟩
    · rw [ends_throw]
      exact live

/-- The frames that answer messages find their code in memory. -/
theorem answers_isLive (target work : Address) (top : Nat) (messages : List Message)
    (live : machine.IsLive) :
    Ends (answers target work top messages) machine (Either
      (fun frames after => after.IsLive ∧ ∀ frame ∈ frames, frame.IsLive after.store.heap)
      fun _ after => after.IsLive) := by
  -- Loading a script for one message may come between the frames for the others.
  induction messages generalizing machine with
  | nil =>
    rw [answers, ends_pure, either_ok]
    exact ⟨live, by simp⟩
  | cons message rest ih =>
    rw [answers, ends_bind]
    refine (answer?_isLive target work top message live).either ?_ fun _ _ live => live
    intro first between both
    obtain ⟨live, firstLive⟩ := both
    -- What the first frame needs stays while the others are looked for.
    have proceeds : Along (Proceeds Eq) (answers target work top rest) := answers_proceed _ _ _ _
    rw [either_ok, ends_bind]
    refine ((ih live).and (proceeds between)).mono ?_
    intro outcome after told
    cases outcome with
    | error fault => exact told.1
    | ok others =>
      obtain ⟨⟨liveAfter, othersLive⟩, further⟩ := told
      rw [either_ok, ends_pure, either_ok]
      refine ⟨liveAfter, ?_⟩
      intro frame member
      rcases List.mem_append.mp member with isFirst | isOther
      · exact (firstLive frame (by simpa using isFirst)).develops
          (further.memory live.sound.opened)
      · exact othersLive frame isOther

/-- Frames may be started when what they need is in memory. -/
theorem pushFrames_isLive {heap : Heap} {frames : List Frame}
    (each : ∀ frame ∈ frames, frame.IsLive heap) :
    Along (Passes fun machine => machine.IsLive ∧ machine.store.heap = heap)
      (pushFrames frames) := by
  -- Starting frames leaves memory alone, so what the others need is still there.
  refine pushFrames_along fun frame member machine => ?_
  apply ends_pushFrame
  · exact fun _ holds => holds
  · rintro ⟨live, same⟩
    exact ⟨live.push (same ▸ each frame member), same⟩

/-- Sending messages keeps what frames need. -/
theorem dispatch_isLive (target work : Address) (base words : Nat) :
    Along (Passes IsLive) (dispatch target work base words) := by
  refine dispatch_along fun messages => (setStackPointer_isLive base).bind fun _ => ?_
  refine along_passes fun machine live => ?_
  rw [ends_bind]
  refine (answers_isLive target work _ messages live).either ?_ fun _ _ live => live
  intro frames between both
  obtain ⟨liveThen, each⟩ := both
  -- All frames have been found by now, so memory does not change while they are started.
  refine ((pushFrames_isLive each).keeps ⟨liveThen, rfl⟩).mono ?_
  exact fun _ _ keeps => keeps.1

/-- Sending the messages on top of the stack keeps what frames need. -/
theorem sendMessages_isLive (target work : Address) (bytes : Nat) :
    Along (Passes IsLive) (sendMessages target work bytes) :=
  sendMessages_along takeRest_along (dispatch_isLive target work) bytes

end Messages

section Calls

/-- Calling a procedure keeps what frames need, if its code and its variables are in memory. -/
theorem callProcedure_isLive {target : Address} (bytes : Nat) {locals : Option SegmentId}
    {script : Script} (live : machine.IsLive)
    (found : machine.store.heap.get? target.segment = some (.script script))
    (own : ∀ caller, machine.context.current? = some caller →
      script.localsSegment = locals.getD caller.locals) :
    Ends (callProcedure target bytes locals) machine fun _ after => after.IsLive := by
  -- Finding the words of the call changes no frame.
  have reads : Along (Proceeds Eq) (callBase bytes) := callBase_proceeds _
  rw [callProcedure, ends_bind]
  refine (reads machine).mono ?_
  intro outcome between proceeds
  have liveThen := live.proceeds proceeds
  cases outcome with
  | error fault => exact liveThen
  | ok base =>
    rw [either_ok, ends_bind, frame, ends_bind, ends_context, either_ok]
    cases current : between.context.current? with
    | none => exact (ends_throw _ _ _).mpr liveThen
    | some caller =>
      simp only [ends_pure, either_ok, ends_bind]
      apply ends_pushFrame
      · exact fun _ => liveThen
      · -- The script is still there, with the variables that the frame is given.
        obtain ⟨later, foundLater, _, same⟩ :=
          (proceeds.memory live.sound.opened).script_stays found
        have given : script.localsSegment = locals.getD caller.locals := by
          apply own
          rw [← current, Context.current?, Context.current?, proceeds.frames]
        rw [either_ok, ends_modifyContext]
        apply @IsLive.setStackPointer _ (liveThen.push ?_) _ 1 base.1
        · rfl
        · exact Frame.isLive_of_code (.inl rfl) foundLater (same.trans given)

/-- A call in the same script keeps what frames need. -/
theorem callLocal_isLive {target : Address} (bytes : Nat)
    (lives : machine.LivesIn target.segment) :
    Ends (callProcedure target bytes none) machine fun _ after => after.IsLive := by
  obtain ⟨caller, isCurrent, runs, segment⟩ := lives.current
  obtain ⟨script, found, same⟩ :=
    (lives.live.frames caller (List.mem_of_mem_head? isCurrent)).code runs
  rw [segment] at found
  -- The callee runs with the variables of the caller, which belong to the same script.
  refine callProcedure_isLive bytes lives.live found ?_
  intro other otherCurrent
  rw [isCurrent, Option.some.injEq] at otherCurrent
  rw [← otherCurrent]
  exact same

/-- Calling an export keeps what frames need. -/
theorem callExported_isLive (number : UInt16) (index bytes : Nat) (live : machine.IsLive) :
    Ends (callExported number index bytes) machine fun _ after => after.IsLive := by
  -- The script may have to be loaded, and then it is where loading says it is.
  have loads : Along (Proceeds Eq) (VmM.store (Store.loadScript machine.setup.resources number)) :=
    store_proceeds (Store.loadScript_advances _ _)
  rw [callExported, ends_bind, ends_setup, either_ok, ends_bind]
  have arrives : Ends (VmM.store (Store.loadScript machine.setup.resources number)) machine
      (Either (fun id after => ∃ script, after.store.heap.get? id = some (.script script) ∧
        script.segment = id) fun _ _ => True) := by
    rw [ends_store]
    refine (Store.leads_loadScript _ number machine.store live.sound).either ?_ ?_
    · intro id after arrived
      obtain ⟨_, _, _, placed, _⟩ := Store.arrival_resident live.sound arrived
      have sound : after.heap.Sound := by
        rcases arrived with ⟨_, rfl⟩ | brought
        · exact live.sound
        · exact brought.sound
      obtain ⟨script, found, _, home⟩ := sound.script_of_resident placed
      exact ⟨script, found, home⟩
    · exact fun _ _ _ => trivial
  refine ((loads machine).and arrives).mono ?_
  intro outcome loaded both
  obtain ⟨proceeds, arrived⟩ := both
  have liveThen := live.proceeds proceeds
  cases outcome with
  | error fault => exact liveThen
  | ok id =>
    obtain ⟨script, found, home⟩ := arrived
    -- The call is then one of a procedure in that script, with the variables of the script.
    have present := Heap.script_eq_ok.mpr found
    rw [either_ok, ends_bind, ends_require, present, either_ok]
    cases exported : script.export? index with
    | none => exact (ends_throw _ _ _).mpr liveThen
    | some target =>
      refine callProcedure_isLive bytes liveThen ?_ fun _ _ => rfl
      -- The address of an export is one in the segment of the script.
      rw [Script.export?] at exported
      obtain ⟨offset, _, rfl⟩ := Option.map_eq_some_iff.mp exported
      rw [home]
      exact found

/-- The code of a frame can be reached, whatever became of the locks on the script. -/
theorem reach_code {heap : Heap} {context : Context} {frame : Frame} {script : Script}
    (member : frame ∈ context.frames.list)
    (found : heap.get? frame.pc.segment = some (.script script)) :
    heap.Reach context ⟨frame.pc.segment, 0⟩ :=
  -- The segment of the next instruction is a root.
  .root (.code member) (.whole found rfl (by simp [Segment.kind]))

/-- A collection keeps what frames need, because frames hold on to their code. -/
theorem IsLive.collect (live : machine.IsLive) :
    { machine with store := ((Store.collect machine.context).run machine.store).2 }.IsLive := by
  obtain ⟨_, store, _, run, swept⟩ := Store.run_collect machine.store live.sound machine.context
  have collected := Store.collected machine.store live.sound machine.context
  rw [run] at collected ⊢
  refine ⟨swept.sound, ?_, live.kernel⟩
  intro frame member
  -- The code of a frame is reached from the frame, so its script is kept.
  apply (live.frames frame member).of_stays
  intro script found _
  exact ⟨script, collected.script_kept _ script found (.inl (reach_code member found)), rfl⟩

/-- A collection, and counting anew from it, keeps what frames need. -/
theorem collectGarbage_isLive : Along (Passes IsLive) collectGarbage := by
  -- Scripts of live frames are roots, so the collection spares them.
  intro machine
  simp only [collectGarbage, ends_bind, ends_setup, ends_modifyStatus, ends_context,
    ends_storeState, either_ok, id_eq]
  intro live
  exact ⟨live.collect.sound, live.collect.frames, live.collect.kernel⟩

/-- A kernel function that was not added keeps what frames need. -/
theorem applyKernel_isLive (run : Runner) {entry : KernelEntry} (arguments : List Address)
    (builtin : ∀ action, entry.function ≠ .host action) :
    Along (Passes IsLive) (applyKernel run entry arguments) := by
  -- By what stands in the entry: a built-in function, nothing, or an added one.
  unfold applyKernel
  split
  · refine (along_setup _).bind fun resources => (along_context _).bind fun acc => ?_
    exact store_proceeds (KernelCall.run_advances _)
  · exact (note_proceeds _ _).bind fun _ => along_pure _
  · rename_i action same
    exact absurd same (builtin action)

/-- Calling a kernel function keeps what frames need. -/
theorem callKernel_isLive (run : Runner) (index bytes : Nat) :
    Along (Passes IsLive) (callKernel run index bytes) :=
  callKernel_passes collectGarbage_isLive (fun _ _ entry live listed arguments =>
    applyKernel_isLive run arguments (live.kernel entry (Array.mem_of_getElem? listed))) index bytes

end Calls

section Running

variable {run : Runner}

/-- Executing an instruction keeps what frames need. -/
theorem execute_isLive (run : Runner) (instruction : Instruction) {next : Address}
    (lives : machine.LivesIn next.segment) :
    Ends (execute run instruction next) machine fun _ after => after.IsLive := by
  -- Only a call in the same script has to know where the current frame is.
  have keeps {work : VmM Unit} (along : Along (Passes IsLive) work) :
      Ends work machine fun _ after => after.IsLive := along.keeps lives.live
  by_cases plain : instruction.operation.isPlain
  · exact ((along_livesIn (execute_moves run next plain)).keeps lives).mono
      fun _ _ stillLives => stillLives.live
  · rw [execute, ends_bind, ends_context, either_ok]
    cases operation : instruction.operation with
    | call => exact callLocal_isLive _ lives
    | callKernel => exact keeps (callKernel_isLive run _ _)
    | callBase => exact callExported_isLive _ _ _ lives.live
    | callExport => exact callExported_isLive _ _ _ lives.live
    -- The callers of a live frame are live.
    | ret =>
      simp only [dropFrame, ends_modifyContext]
      exact lives.live.pop
    | send => exact keeps (sendMessages_isLive _ _ _)
    | sendSelf =>
      exact keeps (frame_proceeds.bind fun _ => sendMessages_isLive _ _ _)
    | sendSuper =>
      exact keeps ((resolveClass_proceeds _).bind fun _ => frame_proceeds.bind fun _ =>
        sendMessages_isLive _ _ _)
    | _ =>
      rw [operation] at plain
      simp [Operation.isPlain] at plain

/-- Accessing the property that a message asks for keeps what frames need. -/
theorem accessSelected_isLive (frame : Frame) (index : Nat) :
    Along (Passes IsLive) (accessSelected frame index) := by
  -- The frame of the property is dropped first, which needs no more than before.
  have drops : Along (Passes IsLive) dropFrame := by
    intro machine
    rw [dropFrame, ends_modifyContext]
    exact fun live => live.pop
  exact drops.bind fun _ => selected_proceeds frame index

/-- A step keeps what frames need. -/
theorem step_isLive (run : Runner) : Along (Passes IsLive) (step run) := by
  refine along_passes fun machine live => ?_
  -- A frame that runs code is at home in the segment of its next instruction.
  have lives {frame : Frame} (current : machine.context.current? = some frame)
      (runs : frame.RunsCode) : machine.LivesIn frame.pc.segment :=
    ⟨live, frame, current, runs, rfl⟩
  apply ends_step
  · exact fun _ => live
  · exact fun frame index _ => (accessSelected_isLive frame index).keeps live
  · exact fun _ _ _ current runs moves => ((lives current runs).moves moves).live
  · intro frame instruction between current runs moves
    have atHome : between.LivesIn (frame.pc.shift instruction.length).segment :=
      (lives current runs).moves moves
    exact execute_isLive run instruction atHome

/-- A run keeps what frames need. -/
theorem runWithin_isLive (fuel depth : Nat) : Along (Passes IsLive) (runWithin fuel depth) :=
  runWithin_along (fun run _ => step_isLive run) fuel depth

/-- Sending a message keeps what frames need, if running does. -/
theorem sendVia_isLive (keeps : ∀ depth, Along (Passes IsLive) (run depth)) (object : Address)
    (selector : UInt16) (arguments : List Address) :
    Along (Passes IsLive) (sendVia run object selector arguments) :=
  sendVia_along (fun _ _ => dispatch_isLive _ _ _ _) keeps selector arguments

/-- Calling an export keeps what frames need, if running does. -/
theorem callExportVia_isLive (keeps : ∀ depth, Along (Passes IsLive) (run depth))
    (number : UInt16) (index : Nat) (arguments : List Address) :
    Along (Passes IsLive) (callExportVia run number index arguments) := by
  -- The frame is made by hand, of the export and of the variables of its script.
  refine (scriptExport_proceeds _ _).bind fun target => (along_context _).bind fun context => ?_
  refine takeRest_along.bind fun rest => (stackSetAll_proceeds _ _).bind fun _ => ?_
  intro machine
  rw [ends_bind, ends_require]
  cases found : machine.store.heap.script target.segment with
  | error fault => exact fun live => live
  | ok script =>
    rw [either_ok]
    refine Ends.followed ?_ fun result => conclude_along rest _ result
    rw [ends_outcome]
    refine Ends.followed ?_ fun _ => keeps _
    apply ends_pushFrame
    · exact fun _ live => live
    · -- The script in which the export is found has the variables that the frame is given.
      intro live
      apply live.push
      exact Frame.isLive_of_code (.inl rfl) (Heap.script_eq_ok.mp found) rfl

end Running

end Machine

end AdventureVm
