import AdventureVm.Proofs.Machine.Receiving

/-!
Parameters that are passed on.

They are pushed on top of what the next call or the next messages take, and wait there. The call, or
the last of the messages, then has them as its last arguments.
-/

namespace AdventureVm

open VmM

/-- The instruction calls a procedure, of the same script or of another one. -/
def Instruction.CallsCode (instruction : Instruction) : Prop :=
  instruction.operation = .call ∨ instruction.operation = .callBase ∨
    instruction.operation = .callExport

/-- The message with more arguments. -/
def Message.extended (message : Message) (count : Nat) : Message :=
  { message with argc := message.argc + count }

namespace Machine

variable {machine : Machine} {current : Frame} {callers : List Frame} {slots : Array Address}
  {base : Nat}

section Steps

variable {run : Runner} {after : Machine} {instruction : Instruction} {values : List Address}

/-- How a machine stands after its frame has passed parameters on, given the slots before that. -/
structure PassedOn (frame : Frame) (callers : List Frame) (forwarding : Instruction)
    (slots : Array Address) (values : List Address) (after : Machine) : Prop where
  /-- There are as many values as there are parameters from the first one on. -/
  count : values.length = frame.argc + 1 - (forwarding.operand 0).toNat
  /-- The values are those of the parameters, in order, each as it is when it is pushed. -/
  forwards : Forwards slots (frame.argp + (forwarding.operand 0).toNat) frame.sp values
  /-- Parameters that are below the top of the stack are passed on as they were. -/
  parameters : frame.argp + frame.argc < frame.sp →
    HoldsValues slots (frame.argp + (forwarding.operand 0).toNat) values
  /-- The values are on top of the stack. -/
  held : HoldsValues (storeAll slots frame.sp values) frame.sp values
  /-- The frame has the values on its stack, and is at the next instruction. -/
  stands : after.Stands ({ frame with
    pc := frame.pc.shift forwarding.length, sp := frame.sp + values.length } :: callers)
    (storeAll slots frame.sp values)
  /-- They wait. -/
  waiting : after.context.rest = values.length

/-- A frame that is ready stands as before, at the next instruction. -/
theorem Ready.stands {ready : Machine} (isReady : machine.Ready current instruction ready)
    (executes : machine.Executes current callers instruction)
    (stack : machine.store.heap.HasStack machine.context.stackSegment slots) :
    ready.Stands ({ current with pc := current.pc.shift instruction.length } :: callers) slots :=
  ⟨isReady.frames executes, isReady.stack slots stack⟩

/-- As many arguments wait when a frame is ready as waited before. -/
theorem Ready.rest {ready : Machine} (isReady : machine.Ready current instruction ready) :
    ready.context.rest = machine.context.rest := by
  -- Sending the frame on leaves the registers.
  rw [isReady.context]
  rfl

/-- Passing parameters on pushes them. -/
theorem Executes.passedOn (executes : machine.Executes current callers instruction)
    (passes : instruction.operation = .rest)
    (stack : machine.store.heap.HasStack machine.context.stackSegment slots) :
    Gives (step run) machine fun _ after => ∃ values,
      PassedOn current callers instruction slots values after := by
  refine executes.ends_step _ fun ready isReady => ?_
  have stands := isReady.stands executes stack
  rw [execute, ends_bind, ends_context, either_ok, passes, pushRest, ends_bind,
    ends_frame_of_cons stands.frames, either_ok]
  refine (gives_pushSlots _ _ stands).bind ?_
  rintro _ pushed ⟨values, length, forwards, room, standsThen⟩
  rw [Gives, ends_modifyContext]
  -- As many values were pushed as will be counted to wait.
  have count : values.length = current.argc + 1 - (instruction.operand 0).toNat := length
  refine ⟨values, count, forwards, fun below index inside => ?_, fun index inside => ?_,
    ⟨?_, standsThen.stack⟩, length.symm⟩
  · exact forwards.holdsValues (by dsimp only; omega) index inside
  · refine holdsValues_storeAll ?_ index inside
    rcases room with none | room
    · omega
    · rw [length]
      exact room
  · rw [length]
    exact standsThen.frames

/-- The next step makes no call, sends nothing and passes nothing on. -/
def IsQuiet (machine : Machine) : Prop :=
  ∀ frame callers instruction, machine.Executes frame callers instruction →
    instruction.callWords? = none ∧ instruction.operation ≠ .rest

/-- As many arguments wait after a quiet step as waited before. -/
theorem IsQuiet.sameRest (quiet : machine.IsQuiet) :
    Ends (step run) machine fun _ after => machine.SameRest after := by
  -- A step fails, executes an instruction, or accesses a property for a selector.
  cases frames : machine.context.frames.list with
  | nil =>
    have bare : machine.context.current? = none := by
      rw [Context.current?, frames]
      rfl
    obtain ⟨fault, stepped⟩ := step_of_none run bare
    exact (ends_of_eq stepped _).mpr rfl
  | cons frame callers =>
    have top := current?_of_cons frames
    rcases frame.runsCode_or_selected with runs | ⟨index, kind⟩
    · cases code : instructionAt machine.store.heap frame.pc with
      | error fault =>
        rw [Ends, step_of_runs run top runs]
        exact (ends_of_eq (advance_of_error run code) _).mpr rfl
      | ok instruction =>
        -- Only here does the machine have to be quiet.
        have executes : machine.Executes frame callers instruction := ⟨frames, runs, code⟩
        obtain ⟨silent, noRest⟩ := quiet frame callers instruction executes
        refine executes.ends_step _ fun ready isReady => ?_
        refine (execute_sameRest run _ silent noRest ready).mono fun _ _ same => ?_
        exact same.trans isReady.rest
    · rw [Ends, step_of_selected run top kind]
      exact accessSelected_sameRest frame index machine

/-- Looking for a request to stop leaves a machine as quiet as it is. -/
theorem IsQuiet.polled (quiet : machine.IsQuiet) : machine.polled.IsQuiet :=
  fun frame callers instruction executes =>
    quiet frame callers instruction ⟨executes.frames, executes.runs, executes.code⟩

/-- As many arguments wait after quiet steps as waited before them. -/
theorem rest_of_visited {fuel depth : Nat} {first last : Machine} {between later : List Machine}
    (visits : visited fuel depth first = between ++ last :: later)
    (quiet : ∀ machine ∈ between, machine.IsQuiet) : last.context.rest = first.context.rest := by
  -- Induction on the quiet steps, each of which keeps the count.
  induction between generalizing fuel first with
  | nil => rw [head_of_visited visits]
  | cons machine between ih =>
    obtain rfl := head_of_visited visits
    obtain ⟨left, next, _, _, _, stepped, further⟩ := step_of_visited visits (by simp)
    have same := (quiet machine List.mem_cons_self).polled.sameRest _ _ stepped
    exact (ih further fun other member => quiet other (List.mem_cons_of_mem _ member)).trans same

/-- A block is there for the frame that is ready if it was there before. -/
theorem Ready.hasBlock {ready : Machine} {arguments : List Address}
    (isReady : machine.Ready current instruction ready)
    (block : machine.HasBlock slots base arguments values) :
    ready.HasBlock slots base arguments values :=
  ⟨block.counted, block.held, isReady.rest.trans block.waiting⟩

section Taken

variable {arguments : List Address} {words : Nat}

/-- A procedure receives what it is called with and the values that wait. -/
theorem Executes.receives (executes : machine.Executes current callers instruction)
    (calls : instruction.CallsCode) (takes : instruction.callWords? = some words)
    (stack : machine.store.heap.HasStack machine.context.stackSegment slots)
    (room : words + values.length ≤ current.sp)
    (block : machine.HasBlock slots (current.sp - (words + values.length)) arguments values) :
    Gives (step run) machine fun _ after => ∃ callee later,
      after.Stands (callee :: current.resumed instruction (words + values.length) :: callers)
        later ∧
      callee.kind = .call ∧ callee.Receives later (arguments ++ values) := by
  refine executes.ends_step _ fun ready isReady => ?_
  have stands := isReady.stands executes stack
  have blockThen := isReady.hasBlock block
  rw [execute, ends_bind, ends_context, either_ok]
  unfold Instruction.callWords? at takes
  -- The three calls differ in how many words name what is called.
  rcases calls with operation | operation | operation
  · simp only [operation, Option.some.injEq] at takes
    rw [operation]
    exact gives_callProcedure_receives stands blockThen (by dsimp only; omega) _ _
  · simp only [operation, Option.some.injEq] at takes
    rw [operation]
    exact gives_callExported_receives stands blockThen (by dsimp only; omega) _ _
  · simp only [operation, Option.some.injEq] at takes
    rw [operation]
    exact gives_callExported_receives stands blockThen (by dsimp only; omega) _ _

/-- A kernel function receives what it is called with and the values that wait. -/
theorem Executes.appliesKernel (executes : machine.Executes current callers instruction)
    (calls : instruction.operation = .callKernel) (takes : instruction.callWords? = some words)
    (sound : machine.store.heap.Sound)
    (stack : machine.store.heap.HasStack machine.context.stackSegment slots)
    (room : words + values.length ≤ current.sp)
    (block : machine.HasBlock slots (current.sp - (words + values.length)) arguments values) :
    Gives (step run) machine fun _ after =>
      machine.AppliesKernel run (instruction.operand 0).toNat (arguments ++ values) after := by
  refine executes.ends_step_same _ fun ready isReady heap setup => ?_
  have stands := isReady.stands executes stack
  have blockThen := isReady.hasBlock block
  rw [execute, ends_bind, ends_context, either_ok, calls]
  unfold Instruction.callWords? at takes
  simp only [calls, Option.some.injEq] at takes
  -- The step has not touched the setup, so the table of kernel functions is that from before.
  unfold AppliesKernel
  rw [← setup]
  exact gives_callKernel_receives (heap ▸ sound) stands blockThen (by dsimp only; omega) run _

/-- How a machine stands once messages were sent, the last of them with further values. -/
structure SentOn (target work : Address) (slots : Array Address) (base top : Nat)
    (earlier : List Message) (last : Message) (values : List Address) (started : List Frame)
    (after : Machine) : Prop where
  /-- Each message that means something got a frame, the last one with more arguments. -/
  answers : List.Forall₂ (Frame.Answers (after.store.heap.lookup target) target work top)
    ((earlier ++ [last.extended values.length]).filter
      (Message.isResolved (after.store.heap.lookup target))) started
  /-- The values come after the arguments of the last message, and all other arguments are where
  they were. -/
  held : ∃ later, after.store.heap.HasStack after.context.stackSegment later ∧
    HoldsMessages later top base (earlier ++ [last.extended values.length]) ∧
    HoldsValues later (last.argp + 1 + last.argc) values ∧
    ∀ place ≠ last.argp, later[place]? = slots[place]?

/-- The last of the messages that are sent gets the values that wait. -/
theorem Called.sentOn {after : Machine} {started : List Frame} {target work : Address}
    {earlier : List Message} {last : Message}
    (called : machine.Called current callers instruction words started after)
    (parties : instruction.parties? after.store.heap machine.context.acc current.objp =
      some (target, work))
    (stack : machine.store.heap.HasStack machine.context.stackSegment slots)
    (waiting : machine.context.rest = values.length)
    (holds : HoldsMessages slots (current.sp - values.length)
      (current.sp - (words + values.length)) (earlier ++ [last]))
    (held : HoldsValues slots (current.sp - values.length) values)
    (small : last.argc + values.length < 65536) :
    after.SentOn target work slots (current.sp - (words + values.length)) current.sp earlier last
      values started := by
  have room := called.room
  have sent := called.sent target work slots parties stack
  rw [waiting] at room sent
  have length : words = current.sp - values.length - (current.sp - (words + values.length)) := by
    omega
  have whole : current.sp - values.length + values.length = current.sp := by omega
  have extended := holds.withRest small
  rw [← length, whole] at extended
  have same : ∀ place ≠ last.argp, (withRest slots (current.sp - (words + values.length)) words
      values.length)[place]? = slots[place]? := by
    intro place other
    have kept := holds.getElem?_withRest other values.length
    rwa [← length] at kept
  refine ⟨sent.answers _ _ extended.read, _, sent.stack, extended, ?_, same⟩
  -- The values are behind the number that was changed.
  rw [holds.stop_eq]
  refine held.same fun place behind => same place ?_
  have := holds.stop_eq
  omega

end Taken

/-- After a step that calls or sends, none wait. -/
theorem Executes.takes {words : Nat} (executes : machine.Executes current callers instruction)
    (takes : instruction.callWords? = some words) :
    Gives (step run) machine fun _ after => after.NoneWait :=
  executes.ends_step _ fun ready _ => execute_takes run _ takes ready

end Steps

/--
Parameters that a frame passes on are the last arguments of what is called or sent next.

A frame passes on its parameters from one on. Steps may follow that neither call nor send and pass
nothing on. Then a call whose arguments are right below the values that were passed on is one with
these values as further arguments. When messages are sent that end right below the values, the last
of them is one with these values as further arguments, if a word can count them all.
-/
theorem parameters_are_passed_on {fuel depth words : Nat} {start resting calling after : Machine}
    {past between later : List Machine} {frame caller : Frame} {callers others : List Frame}
    {forwarding instruction : Instruction} {slots top : Array Address}
    (visits : visited fuel depth start =
      past ++ resting :: (between ++ calling :: after :: later))
    (forwards : resting.Executes frame callers forwarding)
    (isRest : forwarding.operation = .rest)
    (stack : resting.store.heap.stack resting.context.stackSegment = .ok slots)
    (quiet : ∀ machine ∈ between, machine.IsQuiet)
    (executes : calling.Executes caller others instruction)
    (takes : instruction.callWords? = some words)
    (stackThen : calling.store.heap.stack calling.context.stackSegment = .ok top) :
    ∃ values,
      (∀ next ∈ (between ++ [calling]).head?,
        next.PassedOn frame callers forwarding slots values) ∧
      let total := words + values.length
      let base := caller.sp - total
      let below := caller.resumed instruction total :: others
      total ≤ caller.sp ∧
      (∀ arguments, top[base]?.map (·.offset.toNat) = some arguments.length →
        HoldsValues top (base + 1) (arguments ++ values) →
        (instruction.CallsCode → ∃ callee held, after.Stands (callee :: below) held ∧
          callee.kind = .call ∧ callee.Receives held (arguments ++ values)) ∧
        (instruction.operation = .callKernel → calling.store.heap.Sound →
          ∃ left, calling.AppliesKernel (runWithin left) (instruction.operand 0).toNat
            (arguments ++ values) after)) ∧
      (∀ target work earlier last,
        instruction.parties? after.store.heap calling.context.acc caller.objp =
          some (target, work) →
        HoldsMessages top (caller.sp - values.length) base (earlier ++ [last]) →
        HoldsValues top (caller.sp - values.length) values →
        last.argc + values.length < 65536 →
        ∃ started, after.context.frames.list = started ++ below ∧
          after.SentOn target work top base caller.sp earlier last values started) ∧
      after.context.rest = 0 := by
  -- The parameters wait after the first step, and do so until they are taken.
  obtain ⟨_, runs, _⟩ := visited_of_append visits
  obtain ⟨_, next, _, _, _, passes, further⟩ := step_of_visited runs (by simp)
  obtain ⟨values, passed⟩ :=
    forwards.polled.passedOn isRest (Heap.stack_eq_ok.mp stack) _ _ passes
  have isHead : (between ++ [calling]).head? = some next := by
    cases between with
    | nil => exact congrArg some (head_of_visited further)
    | cons _ _ => exact congrArg some (head_of_visited further)
  have waiting : calling.context.rest = values.length :=
    (rest_of_visited further quiet).trans passed.waiting
  -- Then they are taken by one step.
  obtain ⟨_, runsToo, _⟩ := visited_of_append further
  obtain ⟨left, _, _, _, _, stepped, ended⟩ := step_of_visited runsToo (by simp)
  obtain rfl := head_of_visited ended
  have stackThen := Heap.stack_eq_ok.mp stackThen
  replace executes := executes.polled
  have calls : Gives (step (runWithin left)) calling.polled fun _ after => ∃ started,
      calling.polled.Called caller others instruction words started after :=
    executes.ends_step _ fun ready isReady =>
      isReady.gives_execute executes (runWithin_comesBack left) takes
  obtain ⟨started, called⟩ := calls _ _ stepped
  replace called := called.of_polled
  have room : words + values.length ≤ caller.sp := waiting ▸ called.room
  -- A call finds its arguments followed by the values, a send finds them after its last message.
  refine ⟨values, ?_, room, fun arguments counted held => ?_, ?_, ?_⟩
  · exact fun first isFirst => (Option.some.inj (isHead.symm.trans isFirst)) ▸ passed
  · have block : calling.polled.HasBlock top _ arguments values := ⟨counted, held, waiting⟩
    refine ⟨fun code => ?_, fun kernel sound => ⟨left, ?_⟩⟩
    · exact executes.receives code takes stackThen room block _ _ stepped
    · exact executes.appliesKernel kernel takes sound stackThen room block _ _ stepped
  · intro target work earlier last parties holds held small
    refine ⟨started, ?_, called.sentOn parties stackThen waiting holds held small⟩
    rw [called.frames, waiting]
  · exact executes.takes takes _ _ stepped

/-- Whether a frame is about to execute an instruction can be computed. -/
instance {machine : Machine} {frame : Frame} {callers : List Frame} {instruction : Instruction} :
    Decidable (machine.Executes frame callers instruction) :=
  decidable_of_iff (machine.context.frames.list = frame :: callers ∧
      (frame.kind = .call ∨ frame.kind = .method) ∧
      instructionAt machine.store.heap frame.pc = .ok instruction)
    ⟨fun ⟨frames, runs, code⟩ => ⟨frames, runs, code⟩,
      fun executes => ⟨executes.frames, executes.runs, executes.code⟩⟩

/-- A step is quiet if the instruction that comes next is. -/
theorem Executes.isQuiet {machine : Machine} {frame : Frame} {callers : List Frame}
    {instruction : Instruction} (executes : machine.Executes frame callers instruction)
    (silent : instruction.callWords? = none) (noRest : instruction.operation ≠ .rest) :
    machine.IsQuiet := by
  -- The instruction that comes next is determined by the frame and the code.
  intro other below next executesToo
  obtain ⟨rfl, rfl⟩ := List.cons.inj (executes.frames.symm.trans executesToo.frames)
  obtain rfl := Except.ok.inj (executes.code.symm.trans executesToo.code)
  exact ⟨silent, noRest⟩

/-- A frame with two parameters, and with a number and a further value on its stack. -/
def passingFrame : Frame :=
  { kind := .method, pc := ⟨2, 0⟩, sp := 6, fp := 4, argp := 1, argc := 2, objp := ⟨2, 100⟩ }

/-- The slots of its stack. -/
def passingSlots : Array Address :=
  #[.null, .number 2, .number 30, .number 31, .number 1, .number 0, .null, .null, .null]

/-- The slots once both parameters were passed on. -/
def passedSlots : Array Address :=
  #[.null, .number 2, .number 30, .number 31, .number 1, .number 0, .number 30, .number 31, .null]

/--
A machine that passes both parameters on, and then goes on with the given code.

The object has a method for the selector that is on the stack.
-/
def passingMachine (code : Bytes) : Machine where
  store := { heap := {
    version := .sci0
    segments := #[none, some (.stack passingSlots), some (.script {
      number := 5, segment := 2, data := #[0x59, 1] ++ code
      objects := #[{
        pos := ⟨2, 100⟩, codeSegment := 2, version := .sci0, properties := #[]
        selectors := some #[], methods := [⟨1, 6⟩], origin := none, lastSent := none }] })]
    residents := [(5, 2)] } }
  context := { stackSegment := 1, frames := .ofList [passingFrame] }
  status := { state := .running }
  setup := { config := {}, kernel := ⟨#[]⟩, resources := {}, stringsSegment := 0 }

/-- The machine executes the instruction with both parameters on top of the stack, waiting. -/
def HasPassed (pc : Address) (instruction : Instruction) (machine : Machine) : Prop :=
  machine.Executes { passingFrame with pc, sp := 8 } [] instruction ∧
    machine.store.heap.stack machine.context.stackSegment = .ok passedSlots

instance {machine : Machine} {pc : Address} {instruction : Instruction} :
    Decidable (machine.HasPassed pc instruction) :=
  inferInstanceAs (Decidable (_ ∧ _))

/-- A run of the machine passes through at least four machines, the second and third as told. -/
theorem exists_visited_passing (code : Bytes) (pc : Address) (second third : Instruction)
    (length : 3 < (visited 9 0 (passingMachine code)).length)
    (isSecond : ∀ machine ∈ (visited 9 0 (passingMachine code))[1]?,
      machine.HasPassed ⟨2, 2⟩ second)
    (isThird : ∀ machine ∈ (visited 9 0 (passingMachine code))[2]?,
      machine.HasPassed pc third) :
    ∃ between calling after later, visited 9 0 (passingMachine code) =
      [] ++ passingMachine code :: ([between] ++ calling :: after :: later) ∧
      between.HasPassed ⟨2, 2⟩ second ∧ calling.HasPassed pc third := by
  generalize passed : visited 9 0 (passingMachine code) = machines at length isSecond isThird
  -- A list that is long enough is spelled out.
  rcases machines with _ | ⟨first, _ | ⟨between, _ | ⟨calling, _ | ⟨after, later⟩⟩⟩⟩
  · simp at length
  · simp at length
  · simp at length
  · simp at length
  · obtain rfl := head_of_visited passed
    exact ⟨between, calling, after, later, rfl, isSecond _ rfl, isThird _ rfl⟩

/-- The machine is about to pass both parameters on. -/
theorem executes_passing (code : Bytes)
    (reads : instructionAt (passingMachine code).store.heap ⟨2, 0⟩ = .ok ⟨.rest, true, [1]⟩) :
    (passingMachine code).Executes passingFrame [] ⟨.rest, true, [1]⟩ :=
  ⟨rfl, .inr rfl, reads⟩

/-- What is passed on are both parameters. -/
theorem PassedOn.eq_passing {next : Machine} {values : List Address} (passed : next.PassedOn
    passingFrame [] ⟨.rest, true, [1]⟩ passingSlots values) : values = [.number 30, .number 31] :=
  -- The parameters are below the top of the stack.
  HoldsValues.unique (by decide : HoldsValues passingSlots 2 [.number 30, .number 31])
    (passed.parameters (by decide)) passed.count

/-- What is called and what is sent after both parameters were passed on has them. -/
theorem parameters_are_passed_on_both :
    (∃ between calling after later callee held,
      visited 9 0 (passingMachine #[0x5c, 0x41, 1, 2, 72, 72]) =
        passingMachine #[0x5c, 0x41, 1, 2, 72, 72] :: between :: calling :: after :: later ∧
      after.Stands [callee, { passingFrame with pc := ⟨2, 6⟩, sp := 4 }] held ∧
      callee.Receives held [.number 0, .number 30, .number 31]) ∧
    ∃ between calling after later started,
      visited 9 0 (passingMachine #[0x5c, 0x4a, 4, 72, 72]) =
        passingMachine #[0x5c, 0x4a, 4, 72, 72] :: between :: calling :: after :: later ∧
      after.context.frames.list = started ++ [{ passingFrame with pc := ⟨2, 5⟩, sp := 4 }] ∧
      after.SentOn ⟨2, 100⟩ ⟨2, 100⟩ passedSlots 4 8 [] ⟨1, 5, 0⟩ [.number 30, .number 31]
        started := by
  constructor
  · -- One quiet step lies between passing on and calling.
    obtain ⟨between, calling, after, later, visits, ⟨looks, _⟩, executes, stack⟩ :=
      exists_visited_passing #[0x5c, 0x41, 1, 2, 72, 72] ⟨2, 3⟩ ⟨.selfID, false, []⟩
        ⟨.call, true, [1, 2]⟩ (by decide +kernel) (by decide +kernel) (by decide +kernel)
    have quiet : ∀ machine ∈ [between], machine.IsQuiet := fun machine member =>
      List.mem_singleton.mp member ▸ looks.isQuiet rfl (by decide)
    obtain ⟨values, passed, _, calls, _, _⟩ := parameters_are_passed_on visits
      (executes_passing _ rfl) rfl rfl quiet executes rfl stack
    obtain rfl := (passed between rfl).eq_passing
    obtain ⟨callee, held, stands, _, receives⟩ := (calls [.number 0] rfl (by decide)).1 (.inl rfl)
    exact ⟨between, calling, after, later, callee, held, visits, stands, receives⟩
  · -- To send, the receiver has to be in the accumulator besides.
    obtain ⟨between, calling, after, later, visits, ⟨looks, _⟩, executes, stack⟩ :=
      exists_visited_passing #[0x5c, 0x4a, 4, 72, 72] ⟨2, 3⟩ ⟨.selfID, false, []⟩
        ⟨.send, false, [4]⟩ (by decide +kernel) (by decide +kernel) (by decide +kernel)
    have quiet : ∀ machine ∈ [between], machine.IsQuiet := fun machine member =>
      List.mem_singleton.mp member ▸ looks.isQuiet rfl (by decide)
    have acc : ∀ machine ∈ (visited 9 0 (passingMachine #[0x5c, 0x4a, 4, 72, 72]))[2]?,
        machine.context.acc = ⟨2, 100⟩ := by
      decide +kernel
    rw [visits] at acc
    obtain ⟨values, passed, _, _, sends, _⟩ := parameters_are_passed_on visits
      (executes_passing _ rfl) rfl rfl quiet executes rfl stack
    obtain rfl := (passed between rfl).eq_passing
    obtain ⟨started, frames, sent⟩ := sends ⟨2, 100⟩ ⟨2, 100⟩ [] ⟨1, 5, 0⟩
      (by rw [Instruction.parties?, acc calling rfl]) ⟨rfl, rfl, rfl, rfl⟩ (by decide) (by decide)
    exact ⟨between, calling, after, later, started, visits, frames, sent⟩

section Crowded

variable {machine : Machine} {current : Frame} {callers : List Frame} {slots : Array Address}
  {instruction : Instruction} {run : Runner}

/-- Parameters are passed on where there is room for them, and only the stack is changed in memory.
-/
theorem Executes.run_passes (executes : machine.Executes current callers instruction)
    (passes : instruction.operation = .rest)
    (stack : machine.store.heap.HasStack machine.context.stackSegment slots)
    (inside : current.argp + current.argc < slots.size)
    (begins : (instruction.operand 0).toNat ≤ current.argc)
    (room : current.sp + (current.argc + 1 - (instruction.operand 0).toNat) ≤ slots.size) :
    ∃ after others, step run machine = some (.ok (), after) ∧
      after.store.heap = machine.store.heap.withStack machine.context.stackSegment others := by
  obtain ⟨store, same, stepped⟩ := executes.run_step run
  have stands := (ready_sentOn current instruction same).stands executes stack
  -- The values are pushed from the last parameters, which the stack holds.
  have read : current.argp + (instruction.operand 0).toNat +
      (current.argc + 1 - (instruction.operand 0).toNat) ≤ slots.size := by
    omega
  obtain ⟨pushed, others, pushes, heap⟩ := stands.run_pushSlots read room
  have top := current?_of_cons stands.frames
  refine ⟨{ pushed with context := { pushed.context with
    rest := current.argc + 1 - (instruction.operand 0).toNat } }, others, ?_, heap.trans ?_⟩
  · rw [stepped, execute, run_bind_of_ok rfl]
    dsimp only
    rw [passes]
    dsimp only
    rw [pushRest, run_bind_of_ok (run_frame top), run_bind_of_ok pushes]
    rfl
  · show store.heap.withStack _ _ = _
    rw [same]
    rfl

end Crowded

/-- A frame with as many parameters as a word can count, about to send a message with another. -/
def crowdedFrame : Frame :=
  { kind := .method, pc := ⟨2, 0⟩, sp := 65539, fp := 65536, argp := 0, argc := 65535 }

/-- The slots of its stack. -/
def crowdedSlots : Array Address :=
  ((Array.replicate 131074 Address.null).setIfInBounds 65536 (.number 21)).setIfInBounds 65537
    (.number 1)

/-- A machine that passes on all parameters of that frame with the message. -/
def crowdedMachine : Machine where
  store := { heap := {
    version := .sci0
    segments := #[none, some (.stack crowdedSlots), some (.script {
      number := 5, segment := 2, data := #[0x59, 1, 0x4a, 6, 72], objects := #[] })]
    residents := [(5, 2)] } }
  context := { stackSegment := 1, frames := .ofList [crowdedFrame] }
  status := { state := .running }
  setup := { config := {}, kernel := ⟨#[]⟩, resources := {}, stringsSegment := 0 }

/-- All parameters are passed on, and the message that is sent then is still there. -/
theorem exists_visited_crowded : ∃ calling values,
    visited 1 0 crowdedMachine = [crowdedMachine, calling] ∧
    calling.PassedOn crowdedFrame [] ⟨.rest, true, [1]⟩ crowdedSlots values ∧
    calling.Executes { crowdedFrame with pc := ⟨2, 2⟩, sp := 131074 } [] ⟨.send, false, [6]⟩ ∧
    HoldsMessages (storeAll crowdedSlots 65539 values) 65539 65536 [⟨21, 65537, 1⟩] := by
  have executes : crowdedMachine.Executes crowdedFrame [] ⟨.rest, true, [1]⟩ :=
    ⟨rfl, .inr rfl, rfl⟩
  have size : crowdedSlots.size = 131074 := by
    simp only [crowdedSlots, Array.size_setIfInBounds, Array.size_replicate]
  have room : crowdedFrame.sp + (crowdedFrame.argc + 1 - 1) ≤ crowdedSlots.size := by
    rw [size]
    decide
  have below : crowdedFrame.argp + crowdedFrame.argc < crowdedSlots.size := by
    rw [size]
    decide
  have stack : crowdedMachine.store.heap.HasStack crowdedMachine.context.stackSegment
      crowdedSlots := rfl
  -- There is just enough room above the frame for all values.
  have steps : ∃ calling others, step (runWithin 0) crowdedMachine = some (.ok (), calling) ∧ _ :=
    executes.run_passes rfl stack below (by decide) room
  obtain ⟨calling, others, stepped, heap⟩ := steps
  -- The step is known, so the general lemma says what it passed on.
  obtain ⟨values, passed⟩ := executes.passedOn rfl stack _ _ stepped
  refine ⟨calling, values, ?_, passed, ⟨?_, .inr rfl, ?_⟩, ?_⟩
  · rw [visited, if_neg (by decide), (polled_of_undisturbed rfl rfl).2, stepped]
    rfl
  · have frames := passed.stands.frames
    rw [passed.count] at frames
    exact frames
  · rw [heap]
    rfl
  · refine ⟨?_, rfl, ?_, rfl⟩
    · -- The message was pushed before, so it lies below the values.
      rw [getElem?_storeAll_of_lt (by decide)]
      simp [crowdedSlots]
      rfl
    · rw [getElem?_storeAll_of_lt (by decide)]
      simp [crowdedSlots]
      rfl

/-- The parameters are not received where other parameters are passed on in between, and neither
where a word cannot count the arguments of the message. -/
theorem parameters_are_lost :
    (∃ second calling after later,
      visited 9 0 (passingMachine #[0x59, 3, 0x41, 1, 2, 72, 72]) =
        passingMachine #[0x59, 3, 0x41, 1, 2, 72, 72] :: second :: calling :: after :: later ∧
      calling.HasPassed ⟨2, 4⟩ ⟨.call, true, [1, 2]⟩ ∧
      passedSlots[4]? = some (.number 1) ∧
      HoldsValues passedSlots 5 ([.number 0] ++ [.number 30, .number 31]) ∧
      ¬ ∃ callee callers held, after.Stands (callee :: callers) held ∧
        callee.Receives held ([.number 0] ++ [.number 30, .number 31])) ∧
    ∃ calling values, visited 1 0 crowdedMachine = [crowdedMachine, calling] ∧
      calling.PassedOn crowdedFrame [] ⟨.rest, true, [1]⟩ crowdedSlots values ∧
      calling.Executes { crowdedFrame with pc := ⟨2, 2⟩, sp := 131074 } [] ⟨.send, false, [6]⟩ ∧
      HoldsMessages (storeAll crowdedSlots 65539 values) 65539 65536 [⟨21, 65537, 1⟩] ∧
      ∀ left after, step (runWithin left) calling = some (.ok (), after) →
        ∀ frame ∈ after.context.frames.list, frame.argc ≠ 1 + values.length := by
  constructor
  · obtain ⟨second, calling, after, later, visits, _, passed⟩ :=
      exists_visited_passing #[0x59, 3, 0x41, 1, 2, 72, 72] ⟨2, 4⟩ ⟨.rest, true, [3]⟩
        ⟨.call, true, [1, 2]⟩ (by decide +kernel) (by decide +kernel) (by decide +kernel)
    -- Nothing waits any more, so the first parameter is taken for the number of arguments.
    have counts : ∀ machine ∈ (visited 9 0 (passingMachine #[0x59, 3, 0x41, 1, 2, 72, 72]))[3]?,
        machine.context.frames.list.map (·.argc) = [30, 2] := by
      decide +kernel
    rw [visits] at counts
    refine ⟨second, calling, after, later, visits, passed, rfl, by decide, ?_⟩
    rintro ⟨callee, callers, held, stands, receives⟩
    have counted := counts after rfl
    rw [stands.frames, List.map_cons, receives.argc] at counted
    simp at counted
  · obtain ⟨calling, values, visits, passed, executes, holds⟩ := exists_visited_crowded
    refine ⟨calling, values, visits, passed, executes, holds, ?_⟩
    intro left after stepped frame member
    have calls : Gives (step (runWithin left)) calling fun _ after => ∃ started,
        calling.Called { crowdedFrame with pc := ⟨2, 2⟩, sp := 131074 } []
          ⟨.send, false, [6]⟩ 3 started after :=
      executes.ends_step _ fun ready isReady =>
        isReady.gives_execute executes (runWithin_comesBack left) rfl
    obtain ⟨started, called⟩ := calls _ _ stepped
    -- A frame that is started counts fewer than 65536 words, which is how many were passed.
    have short := (called.sent _ _ _ rfl passed.stands.stack).short
    have length : values.length = 65535 := passed.count
    rw [called.frames] at member
    rcases List.mem_append.mp member with fresh | below
    · have := short frame fresh
      omega
    · obtain rfl := List.mem_singleton.mp below
      show 65535 ≠ 1 + values.length
      omega

end Machine

end AdventureVm
