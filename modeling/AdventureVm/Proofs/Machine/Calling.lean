import AdventureVm.Proofs.Machine.Returning
import AdventureVm.Proofs.Machine.Sending

/-!
Calls and returns.

A frame that calls, or sends messages, gives up the words of that and is left alone until it is the
current one again, whatever the frames that were started in between do to the stack.
-/

namespace AdventureVm

open VmM

namespace Instruction

/-- The number of words that the frame of a call takes from the stack, its count included. -/
def callWords? (instruction : Instruction) : Option Nat :=
  let words (index : Nat) : Nat := (instruction.operand index).toNat / 2
  match instruction.operation with
  | .call | .callKernel | .callBase => some (words 1 + 1)
  | .callExport => some (words 2 + 1)
  | .send | .sendSelf => some (words 0)
  | .sendSuper => some (words 1)
  | _ => none

/-- The object that messages are sent to, and the one whose properties the methods see. -/
def parties? (heap : Heap) (acc self : Address) (instruction : Instruction) :
    Option (Address × Address) :=
  match instruction.operation with
  | .send => some (acc, acc)
  | .sendSelf => some (self, self)
  | .sendSuper => (heap.classes.address? (wordOfInt (instruction.operand 0))).map (·, self)
  | _ => none

end Instruction

/-- The frame after an instruction that took so many words from its stack. -/
def Frame.resumed (frame : Frame) (instruction : Instruction) (words : Nat) : Frame :=
  { frame with pc := frame.pc.shift instruction.length, sp := frame.sp - words }

namespace Machine

/-- The current frame, over its callers, is about to execute an instruction. -/
structure Executes (frame : Frame) (callers : List Frame) (instruction : Instruction)
    (machine : Machine) : Prop where
  /-- The frames are these. -/
  frames : machine.context.frames.list = frame :: callers
  /-- The current one runs code. -/
  runs : frame.RunsCode
  /-- The instruction is where the frame is. -/
  code : instructionAt machine.store.heap frame.pc = .ok instruction

/-- Looking for a request to stop does not change what is executed next. -/
theorem Executes.polled {machine : Machine} {frame : Frame} {callers : List Frame}
    {instruction : Instruction} (executes : machine.Executes frame callers instruction) :
    machine.polled.Executes frame callers instruction :=
  ⟨executes.frames, executes.runs, executes.code⟩

section Calls

variable {machine : Machine} {current : Frame} {callers : List Frame}

/-- The current frame gave up so many words of its stack, and any frames were started over it. -/
def GaveUp (current : Frame) (callers : List Frame) (words : Nat) (after : Machine) : Prop :=
  ∃ base started, base + words = current.sp ∧
    after.context.frames.list = started ++ { current with sp := base } :: callers

/-- The words of a call end where the stack of the current frame does. -/
theorem gives_callBase (frames : machine.context.frames.list = current :: callers) (bytes : Nat) :
    Gives (callBase bytes) machine fun found after =>
      found.1 + (bytes / 2 + 1 + machine.context.rest) = current.sp ∧
      machine.SameFrames after := by
  rw [Gives, callBase, ends_bind, ends_takeRest, either_ok]
  have framesToo : ({ machine with context := { machine.context with rest := 0 } } :
      Machine).context.frames.list = current :: callers := frames
  refine Gives.bind (gives_stackBase framesToo _) ?_
  rintro base given ⟨rfl, fits⟩
  -- Correcting the count on the stack for the arguments that waited touches no frame.
  have same : machine.SameFrames ({ machine with context := { machine.context with rest := 0 } } :
      Machine) := rfl
  refine (along_sameFrames (stackGet_proceeds _)).gives_bind same fun count read same => ?_
  dsimp only
  split
  · refine (along_sameFrames (stackSet_proceeds _ _)).gives_bind same fun _ stored same => ?_
    exact gives_pure ⟨fits, same⟩
  · exact gives_pure ⟨fits, same⟩

/-- A frame is started, and the one below it goes on with a shorter stack. -/
theorem gives_enter {base words : Nat} (frames : machine.context.frames.list = current :: callers)
    (fits : base + words = current.sp) (fresh : Frame) :
    Gives (do
      pushFrame fresh
      VmM.modifyContext (·.setCallerStackPointer base)) machine fun _ after =>
      after.GaveUp current callers words := by
  rw [Gives, ends_bind]
  apply ends_pushFrame
  · exact fun _ => trivial
  · -- The new frame is above by then, so the pointer of the frame below it is what is moved.
    rw [either_ok, ends_modifyContext]
    refine ⟨base, [fresh], fits, ?_⟩
    simp only [Context.setCallerStackPointer, FrameStack.list_modifyCaller, Context.push,
      FrameStack.list_push, frames]
    rfl

/-- Calling a procedure takes its arguments from the caller. -/
theorem gives_callProcedure (frames : machine.context.frames.list = current :: callers)
    (target : Address) (bytes : Nat) (locals : Option SegmentId) :
    Gives (callProcedure target bytes locals) machine fun _ after =>
      after.GaveUp current callers (bytes / 2 + 1 + machine.context.rest) := by
  -- First the base of the arguments is found in the caller, then the frame is entered there.
  refine (gives_callBase frames bytes).bind ?_
  rintro ⟨base, argc⟩ between ⟨fits, same⟩
  have framesThen : between.context.frames.list = current :: callers := by
    rw [show between.context.frames = machine.context.frames from same, frames]
  dsimp only at fits ⊢
  rw [Gives, ends_bind, ends_frame_of_cons framesThen, either_ok]
  exact gives_enter framesThen fits _

/-- Calling an export takes its arguments from the caller. -/
theorem gives_callExported (frames : machine.context.frames.list = current :: callers)
    (number : UInt16) (index bytes : Nat) :
    Gives (callExported number index bytes) machine fun _ after =>
      after.GaveUp current callers (bytes / 2 + 1 + machine.context.rest) := by
  -- Loading the script is work on memory, which leaves registers and frames alone.
  have loads (work : StoreM SegmentId) : Along (Same (·.context)) (VmM.store work) := by
    intro machine
    rw [ends_store]
    exact rfl
  have same : Same (·.context) machine machine := rfl
  refine (along_setup _).gives_bind same fun resources given same => ?_
  refine (loads _).gives_bind same fun id loaded same => ?_
  refine (along_require _).gives_bind same fun script found same => ?_
  cases script.export? index with
  | none => exact gives_throw _ _
  | some target =>
    have context : found.context = machine.context := same
    have framesThen : found.context.frames.list = current :: callers := by rw [context, frames]
    rw [← context]
    exact gives_callProcedure framesThen target bytes (some script.localsSegment)

/-- After a kernel function that left the frames alone, the caller gives up the arguments. -/
theorem gives_finishKernel {base words depth : Nat}
    (frames : machine.context.frames.list = current :: callers)
    (fits : base + words = current.sp) (shallow : machine.context.frames.size ≤ depth)
    (result : Except Fault Address) :
    Gives (do
      VmM.modifyContext (·.truncate depth)
      setAcc (← VmM.ofExcept result)
      setStackPointer base) machine fun _ after => after.GaveUp current callers words := by
  rw [Gives, ends_bind, ends_modifyContext, either_ok, ends_bind, ends_ofExcept]
  cases result with
  | error fault => trivial
  | ok value =>
    simp only [either_ok, ends_bind, setAcc, setStackPointer, modifyFrame, ends_modifyContext]
    refine ⟨base, [], fits, ?_⟩
    -- No frame is above the caller any more, so there is nothing to cut off.
    simp only [Context.modifyCurrent, FrameStack.list_modifyCurrent, Context.truncate,
      FrameStack.truncate_of_le shallow, frames]
    rfl

/-- Calling a kernel function takes its arguments from the caller, whatever the function did. -/
theorem gives_callKernel {run : Runner} (comesBack : run.ComesBack)
    (frames : machine.context.frames.list = current :: callers) (index bytes : Nat) :
    Gives (callKernel run index bytes) machine fun _ after =>
      after.GaveUp current callers (bytes / 2 + 1 + machine.context.rest) := by
  have start : Same (·.context) machine machine := rfl
  refine countKernelCall_same.gives_bind start fun _ counted same => ?_
  have context : counted.context = machine.context := same
  rw [← context] at frames ⊢
  refine (gives_callBase frames bytes).bind ?_
  rintro ⟨base, argc⟩ between ⟨fits, same⟩
  refine (along_sameFrames (stackSlice_proceeds _ _)).gives_bind same fun arguments read same => ?_
  refine (along_setup _).gives_bind same fun entry given same => ?_
  -- A number with no function is refused, and the frames stay as they are.
  cases entry with
  | none => exact gives_throw _ _
  | some entry =>
    refine (along_sameFrames (note_proceeds _ _)).gives_bind same fun _ noted sameThen => ?_
    rw [Gives, ends_bind, ends_context, either_ok]
    refine (setState_same _).gives_bind sameThen fun _ waiting same => ?_
    refine (applyKernel_same comesBack entry arguments).outcome.gives_bind same
      fun result applied same => ?_
    refine (setState_same _).gives_bind same fun _ running same => ?_
    -- The function left as many frames as there were, so none is dropped.
    have framesNow : running.context.frames = counted.context.frames := same
    have framesThen : noted.context.frames = counted.context.frames := sameThen
    apply gives_finishKernel
    · rw [framesNow, frames]
    · exact fits
    · exact Nat.le_of_eq (by rw [Context.depth, framesNow, framesThen])

/-- The address of a class is known once it was found, and no stack was touched to find it. -/
theorem gives_resolveClass (species : UInt16) (machine : Machine) :
    Gives (resolveClass species) machine fun address after =>
      after.context = machine.context ∧
      after.store.heap.classes.address? species = some address ∧
      ∀ place slots, machine.store.heap.HasStack place slots →
        after.store.heap.HasStack place slots := by
  rw [Gives, resolveClass, ends_bind, ends_read, either_ok]
  cases known : machine.store.heap.classes.address? species with
  | some address => exact (ends_pure _ _ _).mpr ⟨rfl, known, fun _ _ has => has⟩
  | none =>
    -- The class is known only after its script is in memory, so it is looked for once more.
    rw [ends_bind, ends_read, either_ok]
    cases machine.store.heap.classes.script? species with
    | none => exact (ends_throw _ _ _).mpr trivial
    | some number =>
      rw [ends_bind, ensureScript, ends_bind, ends_setup, either_ok, ends_store]
      refine (Store.leads_ensureScript_spares _ number _).either ?_ fun _ _ _ => trivial
      intro id brought spares
      rw [either_ok, ends_bind, ends_read, either_ok]
      cases found : brought.heap.classes.address? species with
      | none => exact (ends_throw _ _ _).mpr trivial
      | some address => exact (ends_pure _ _ _).mpr ⟨rfl, found, spares⟩

end Calls

section Steps

variable {run : Runner} {machine : Machine} {frame : Frame} {callers : List Frame}
  {instruction : Instruction}

/-- The frame has been sent on to the next instruction, and no more that matters to it was done. -/
structure Ready (frame : Frame) (instruction : Instruction) (machine ready : Machine) : Prop where
  /-- The current frame is at the next instruction. -/
  context : ready.context = machine.context.modifyCurrent fun current =>
    { current with pc := frame.pc.shift instruction.length }
  /-- The operand stack is the same. -/
  stack : ∀ slots, machine.store.heap.HasStack machine.context.stackSegment slots →
    ready.store.heap.HasStack ready.context.stackSegment slots

/-- A frame that was sent on to the next instruction is ready for the one it was at. -/
theorem ready_sentOn (frame : Frame) (instruction : Instruction) {store : Store}
    (same : store.heap = machine.store.heap) : machine.Ready frame instruction
      (sentOn { machine with store } (frame.pc.shift instruction.length)) := by
  -- Only the place of the frame has changed, and memory is the same.
  refine ⟨rfl, fun slots has => ?_⟩
  show store.heap.HasStack machine.context.stackSegment slots
  rw [same]
  exact has

/-- The frame that executes an instruction is the current one. -/
theorem Executes.current (executes : machine.Executes frame callers instruction) :
    machine.context.current? = some frame :=
  current?_of_cons executes.frames

/-- A step executes the instruction after the frame was sent on to the next one. -/
theorem Executes.run_step (executes : machine.Executes frame callers instruction) (run : Runner) :
    ∃ store, store.heap = machine.store.heap ∧
      step run machine = execute run instruction (frame.pc.shift instruction.length)
        (sentOn { machine with store } (frame.pc.shift instruction.length)) := by
  -- The frame runs code, so the step goes on to the instruction there.
  obtain ⟨store, same, goesOn⟩ := advance_of_ok run executes.code
  exact ⟨store, same, (step_of_runs run executes.current executes.runs).trans goesOn⟩

/-- A frame that runs code is ready for the instruction it is at before that is executed, with the
same memory. -/
theorem Executes.ends_step_same (executes : machine.Executes frame callers instruction)
    (post : Except Fault Unit → Machine → Prop)
    (executed : ∀ ready, machine.Ready frame instruction ready →
      ready.store.heap = machine.store.heap → ready.setup = machine.setup →
      Ends (execute run instruction (frame.pc.shift instruction.length)) ready post) :
    Ends (step run) machine post := by
  -- A step records the instruction, sends the frame on, and executes; only the last matters.
  obtain ⟨store, same, stepped⟩ := executes.run_step run
  rw [Ends, stepped]
  exact executed _ (ready_sentOn frame instruction same) same rfl

/-- A frame that runs code is ready for the instruction it is at before that is executed. -/
theorem Executes.ends_step (executes : machine.Executes frame callers instruction)
    (post : Except Fault Unit → Machine → Prop)
    (executed : ∀ ready, machine.Ready frame instruction ready →
      Ends (execute run instruction (frame.pc.shift instruction.length)) ready post) :
    Ends (step run) machine post :=
  executes.ends_step_same post fun ready isReady _ _ => executed ready isReady

/-- How a machine stands right after an instruction that calls or sends. -/
structure Called (before : Machine) (frame : Frame) (callers : List Frame)
    (instruction : Instruction) (words : Nat) (started : List Frame) (after : Machine) : Prop where
  /-- The words were on the stack of the frame. -/
  room : words + before.context.rest ≤ frame.sp
  /-- The frame has given them up and is at the next instruction, below those that were started. -/
  frames : after.context.frames.list =
    started ++ frame.resumed instruction (words + before.context.rest) :: callers
  /-- What was started are the frames that answer the messages. -/
  sent : ∀ target work slots,
    instruction.parties? after.store.heap before.context.acc frame.objp = some (target, work) →
    before.store.heap.HasStack before.context.stackSegment slots →
    let base := frame.sp - (words + before.context.rest)
    after.Sent target work (withRest slots base words before.context.rest) base frame.sp started

/-- An instruction that comes after a look for a request to stop comes after what was before it. -/
theorem Called.of_polled {before after : Machine} {words : Nat} {started : List Frame}
    (called : before.polled.Called frame callers instruction words started after) :
    before.Called frame callers instruction words started after :=
  ⟨called.room, called.frames, called.sent⟩

section Ready

variable {ready : Machine}

/-- The frame that is ready is over its callers. -/
theorem Ready.frames (isReady : machine.Ready frame instruction ready)
    (executes : machine.Executes frame callers instruction) : ready.context.frames.list =
      { frame with pc := frame.pc.shift instruction.length } :: callers := by
  -- Only the current frame was sent on.
  rw [isReady.context, Context.modifyCurrent, FrameStack.list_modifyCurrent, executes.frames]
  rfl

/-- Where words were given up and nothing is sent, a call was made. -/
theorem Ready.called (isReady : machine.Ready frame instruction ready) {after : Machine}
    {words : Nat} (gaveUp : after.GaveUp { frame with pc := frame.pc.shift instruction.length }
      callers (words + ready.context.rest))
    (silent : ∀ heap acc self, instruction.parties? heap acc self = none) :
    ∃ started, machine.Called frame callers instruction words started after := by
  obtain ⟨base, started, fits, list⟩ := gaveUp
  rw [isReady.context] at fits
  -- The stack pointer is what is given up on top of where the call begins.
  have total : base + (words + machine.context.rest) = frame.sp := fits
  refine ⟨started, by omega, ?_, ?_⟩
  · rw [list, Frame.resumed, ← total, Nat.add_sub_cancel]
  · intro target work slots parties
    rw [silent] at parties
    simp at parties

/-- Where messages are sent, those that mean something are answered. -/
theorem Ready.gives_sent (isReady : machine.Ready frame instruction ready)
    (executes : machine.Executes frame callers instruction) (target work : Address) (bytes : Nat)
    (parties : ∀ heap : Heap, heap.classes = ready.store.heap.classes →
      instruction.parties? heap machine.context.acc frame.objp = some (target, work)) :
    Gives (sendMessages target work bytes) ready fun _ after =>
      ∃ started, machine.Called frame callers instruction (bytes / 2) started after := by
  refine (gives_sendMessages (isReady.frames executes) target work bytes).mono ?_
  rintro _ after ⟨base, started, fits, list, classes, sent⟩
  have rest : ready.context.rest = machine.context.rest := by rw [isReady.context]; rfl
  rw [rest] at fits sent
  -- Sending knows where the messages start, and the caller how many words they are.
  have total : base + (bytes / 2 + machine.context.rest) = frame.sp := fits
  have lowered : frame.sp - (bytes / 2 + machine.context.rest) = base := by omega
  refine ⟨started, by omega, ?_, ?_⟩
  · rw [list, Frame.resumed, lowered]
  · intro receiver owner slots meant has
    rw [parties _ classes, Option.some.injEq, Prod.mk.injEq] at meant
    rw [← meant.1, ← meant.2, lowered]
    exact sent slots (isReady.stack slots has)

/-- Right after an instruction that calls or sends, the frame has given up the words of that. -/
theorem Ready.gives_execute (isReady : machine.Ready frame instruction ready)
    (executes : machine.Executes frame callers instruction) (comesBack : run.ComesBack)
    {words : Nat} (takes : instruction.callWords? = some words) :
    Gives (execute run instruction (frame.pc.shift instruction.length)) ready fun _ after =>
      ∃ started, machine.Called frame callers instruction words started after := by
  have frames := isReady.frames executes
  have acc : ready.context.acc = machine.context.acc := by rw [isReady.context]; rfl
  rw [Gives, execute, ends_bind, ends_context, either_ok]
  unfold Instruction.callWords? at takes
  -- Each kind of call takes its own number of words; a send also names who is asked.
  cases operation : instruction.operation with
  | call =>
    simp only [operation, Option.some.injEq] at takes
    subst takes
    refine (gives_callProcedure frames _ _ none).mono fun _ after gaveUp => ?_
    exact isReady.called gaveUp fun _ _ _ => by rw [Instruction.parties?, operation]
  | callKernel =>
    simp only [operation, Option.some.injEq] at takes
    subst takes
    refine (gives_callKernel comesBack frames _ _).mono fun _ after gaveUp => ?_
    exact isReady.called gaveUp fun _ _ _ => by rw [Instruction.parties?, operation]
  | callBase =>
    simp only [operation, Option.some.injEq] at takes
    subst takes
    refine (gives_callExported frames _ _ _).mono fun _ after gaveUp => ?_
    exact isReady.called gaveUp fun _ _ _ => by rw [Instruction.parties?, operation]
  | callExport =>
    simp only [operation, Option.some.injEq] at takes
    subst takes
    refine (gives_callExported frames _ _ _).mono fun _ after gaveUp => ?_
    exact isReady.called gaveUp fun _ _ _ => by rw [Instruction.parties?, operation]
  | send =>
    simp only [operation, Option.some.injEq] at takes
    subst takes
    refine isReady.gives_sent executes _ _ _ fun heap _ => ?_
    rw [Instruction.parties?, operation, acc]
  | sendSelf =>
    simp only [operation, Option.some.injEq] at takes
    subst takes
    rw [ends_bind, ends_frame_of_cons frames, either_ok]
    refine isReady.gives_sent executes _ _ _ fun heap _ => ?_
    rw [Instruction.parties?, operation]
  | sendSuper =>
    simp only [operation, Option.some.injEq] at takes
    subst takes
    refine Gives.bind (gives_resolveClass _ ready) ?_
    rintro parent resolved ⟨context, found, spares⟩
    -- Finding the class leaves the machine as ready as it was.
    have stillReady : machine.Ready frame instruction resolved := by
      refine ⟨context.trans isReady.context, fun slots has => ?_⟩
      rw [context]
      exact spares _ _ (isReady.stack slots has)
    rw [Gives, ends_bind, ends_frame_of_cons (stillReady.frames executes), either_ok]
    refine stillReady.gives_sent executes _ _ _ fun heap classes => ?_
    rw [Instruction.parties?, operation, classes, found]
    rfl
  | _ =>
    rw [operation] at takes
    simp at takes

end Ready

end Steps

/-- How messages are answered over the frames below by what a run passes through after they were
sent. -/
structure Answered (target work : Address) (base top : Nat) (messages : List Message)
    (below : List Frame) (after : Machine) (later : List Machine) (started : List Frame) :
    Prop where
  /-- The messages are on the operand stack. -/
  held : ∃ slots, after.store.heap.stack after.context.stackSegment = .ok slots ∧
    HoldsMessages slots top base messages
  /-- Each message that means something to the target has a frame of its own, in order. -/
  each : List.Forall₂ (Frame.Answers (after.store.heap.lookup target) target work top)
    (messages.filter (Message.isResolved (after.store.heap.lookup target))) started
  /-- The frame of the first message is the current one, and so on. -/
  frames : after.context.frames.list = started ++ below
  /-- When so many of the frames have ended for the first time, the others are as they were
  started. -/
  inOrder : ∀ ended, Resumes (started.drop ended ++ below) (after :: later)
  /-- Before the frames below have their turn again, each of the others has had its own. -/
  turns : ∀ between again future, after :: later = between ++ again :: future →
    again.context.depth ≤ below.length → ∀ ended, ∃ machine ∈ between ++ [again],
      machine.context.frames.list = started.drop ended ++ below

/--
A frame that calls or sends is, when it is the current one for the first time after that, what it
was before, at the next instruction and with the words of the call taken from its stack.

That is so in every run, whatever was started in between. When it sends messages, what is started
are the frames that answer them, which come to their ends in the order of the messages.
-/
theorem calls_return {fuel depth words : Nat} {start before after : Machine}
    {past later : List Machine} {frame : Frame} {callers : List Frame} {instruction : Instruction}
    (visits : visited fuel depth start = past ++ before :: after :: later)
    (executes : before.Executes frame callers instruction)
    (takes : instruction.callWords? = some words) :
    let total := words + before.context.rest
    let below := frame.resumed instruction total :: callers
    total ≤ frame.sp ∧ Resumes below (after :: later) ∧
    ∀ target work slots messages,
      instruction.parties? after.store.heap before.context.acc frame.objp = some (target, work) →
      before.store.heap.stack before.context.stackSegment = .ok slots →
      HoldsMessages (withRest slots (frame.sp - total) words before.context.rest) frame.sp
        (frame.sp - total) messages →
      ∃ started, Answered target work (frame.sp - total) frame.sp messages below after later
        started := by
  obtain ⟨left, runs, _⟩ := visited_of_append visits
  obtain ⟨fewer, next, _, _, _, stepped, further⟩ := step_of_visited runs (by simp)
  obtain rfl := head_of_visited further
  -- The step is the execution of the instruction.
  have calls : Gives (step (runWithin fewer)) before.polled fun _ after => ∃ started,
      before.polled.Called frame callers instruction words started after :=
    executes.polled.ends_step _ fun ready isReady =>
      isReady.gives_execute executes.polled (runWithin_comesBack fewer) takes
  obtain ⟨started, called⟩ := calls _ _ stepped
  replace called := called.of_polled
  -- The frames that have not ended yet stand over the caller, however many have.
  have resumes (ended : Nat) : Resumes (started.drop ended ++
      frame.resumed instruction (words + before.context.rest) :: callers) (after :: later) := by
    rw [← further]
    apply visited_resumes
    rw [StandsOver, called.frames]
    exact ⟨started.take ended, by rw [← List.append_assoc, List.take_append_drop]⟩
  refine ⟨called.room, ?_, ?_⟩
  · have whole := resumes started.length
    rwa [List.drop_length, List.nil_append] at whole
  · intro target work slots messages parties stack holds
    have sent := called.sent target work slots parties (Heap.stack_eq_ok.mp stack)
    refine ⟨started, ⟨_, Heap.stack_eq_ok.mpr sent.stack, holds⟩, ?_, called.frames, resumes, ?_⟩
    · exact sent.answers messages frame.sp holds.read
    · intro between again future splits down ended
      refine (resumes ended).reached splits ?_
      rw [List.length_append]
      omega

/-- The slots of a stack with two messages and an argument that waits for the second of them. -/
def sendingSlots : Array Address :=
  #[.null, .null, .number 20, .number 0, .number 21, .number 0, .number 7, .null, .null]

/-- A frame that is about to send these messages. -/
def sendingFrame : Frame :=
  { kind := .method, pc := ⟨2, 0⟩, sp := 7, fp := 2, argp := 1, objp := ⟨2, 100⟩ }

/-- The caller of that frame. -/
def waitingFrame : Frame :=
  { kind := .call, pc := ⟨2, 2⟩, sp := 2 }

/--
A machine that sends two messages to an object.

The first names a property of the object. The second names a method that leaves a value on the
stack.
-/
def sendingMachine : Machine where
  store := { heap := {
    version := .sci0
    segments := #[none, some (.stack sendingSlots), some (.script {
      number := 5, segment := 2, data := #[74, 8, 72, 119, 72]
      objects := #[{
        pos := ⟨2, 100⟩, codeSegment := 2, version := .sci0, properties := #[.number 9]
        selectors := some #[20], methods := [⟨21, 3⟩], origin := none, lastSent := none }] })]
    residents := [(5, 2)] } }
  context := {
    stackSegment := 1, acc := ⟨2, 100⟩, rest := 1
    frames := .ofList [sendingFrame, waitingFrame] }
  status := { state := .running }
  setup := { config := {}, kernel := ⟨#[]⟩, resources := {}, stringsSegment := 0 }

/-- Both messages are answered, the second with the argument that waited, and the sender goes on. -/
theorem calls_return_twoMessages :
    let below := [{ sendingFrame with pc := ⟨2, 2⟩, sp := 2 }, waitingFrame]
    ∃ after later started, visited 9 1 sendingMachine = [] ++ sendingMachine :: after :: later ∧
      (after :: later).map (·.context.depth) = [4, 3, 3, 2, 1] ∧
      sendingMachine.Executes sendingFrame [waitingFrame] ⟨.send, false, [8]⟩ ∧
      Resumes below (after :: later) ∧
      Answered ⟨2, 100⟩ ⟨2, 100⟩ 2 7 [⟨20, 3, 0⟩, ⟨21, 5, 1⟩] below after later started := by
  have depths : (visited 9 1 sendingMachine).map (·.context.depth) = [2, 4, 3, 3, 2, 1] := by
    decide +kernel
  have executes : sendingMachine.Executes sendingFrame [waitingFrame]
      ⟨.send, false, [8]⟩ := ⟨rfl, .inr rfl, rfl⟩
  have held : HoldsMessages sendingSlots 6 2 ([⟨20, 3, 0⟩] ++ [⟨21, 5, 0⟩]) :=
    ⟨rfl, rfl, rfl, rfl, rfl, rfl, rfl⟩
  -- The depths tell that the run goes on after the first machine.
  generalize passed : visited 9 1 sendingMachine = machines at depths
  rcases machines with _ | ⟨first, _ | ⟨after, later⟩⟩
  · simp at depths
  · simp at depths
  · obtain rfl := head_of_visited passed
    obtain ⟨_, resumes, answers⟩ := calls_return (show _ = [] ++ _ :: after :: later from passed)
      executes rfl
    obtain ⟨started, answered⟩ := answers ⟨2, 100⟩ ⟨2, 100⟩ sendingSlots _ rfl rfl
      (held.withRest (by decide))
    exact ⟨after, later, started, rfl, (List.cons.inj depths).2, executes, resumes, answered⟩

end Machine

end AdventureVm
