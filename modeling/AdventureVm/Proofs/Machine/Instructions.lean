import AdventureVm.Proofs.Machine.Proceeding

/-!
Instructions that neither start nor end a frame move the current frame and no other.

A step comes to one of three things: there is no frame, the frame stands for a property, or it runs
code and goes on there.
-/

namespace AdventureVm

open VmM

/-- Executing the operation neither starts nor ends a frame, and runs no kernel function. -/
def Operation.isPlain : Operation → Bool
  | .call | .callKernel | .callBase | .callExport | .ret | .send | .sendSelf | .sendSuper => false
  | _ => true

/-- The frame runs code, as those of procedures and methods do. -/
def Frame.RunsCode (frame : Frame) : Prop :=
  frame.kind = .call ∨ frame.kind = .method

/-- A frame that runs no code stands for a property. -/
theorem Frame.runsCode_or_selected (frame : Frame) :
    frame.RunsCode ∨ ∃ index, frame.kind = .variable index := by
  -- By the kind of the frame.
  cases kind : frame.kind with
  | call => exact .inl (.inl kind)
  | method => exact .inl (.inr kind)
  | «variable» index => exact .inr ⟨index, rfl⟩

namespace Machine

/-- The current frame may use the operand stack along the relation. -/
class AdmitsStack (rel : Machine → Machine → Prop) : Prop extends Admits rel where
  /-- The stack pointer may be moved. -/
  setStackPointer : ∀ sp, Along rel (setStackPointer sp)

/-- The current frame may push values, take them and reserve slots along the relation. -/
class AdmitsOperands (rel : Machine → Machine → Prop) : Prop extends Admits rel where
  /-- A value may be pushed. -/
  push : ∀ value, Along rel (push value)
  /-- The value on top may be taken. -/
  pop : Along rel pop
  /-- Slots may be reserved. -/
  link : ∀ count, Along rel (link count)

variable {home : SegmentId}

/-- The machine works on, and the current frame may go on in its script or at home. -/
abbrev Moves (home : SegmentId) : Machine → Machine → Prop :=
  Proceeds (Frame.OnlyCurrent home)

/-- Changing the current frame leaves the others alone. -/
theorem modifyFrame_moves {change : Frame → Frame}
    (goes : ∀ frame : Frame, frame.Goes home (change frame)) :
    Along (Moves home) (modifyFrame change) := by
  intro machine
  rw [modifyFrame, ends_modifyContext]
  refine ⟨?_, rfl, rfl, fun _ => .refl, rfl⟩
  -- Without a frame there is nothing to change.
  simp only [Context.modifyCurrent, FrameStack.list_modifyCurrent]
  cases machine.context.frames.list with
  | nil => exact .none
  | cons frame callers => exact .current (goes frame)

/-- The stack pointer belongs to the current frame alone. -/
theorem setStackPointer_moves (sp : Nat) : Along (Moves home) (setStackPointer sp) :=
  modifyFrame_moves fun _ => ⟨rfl, rfl, .inl rfl⟩

/-- A jump home leaves the callers alone. -/
theorem jumpTo_moves {pc : Address} (homely : pc.segment = home) :
    Along (Moves home) (jumpTo pc) :=
  modifyFrame_moves fun _ => ⟨rfl, rfl, .inr homely⟩

/-- The current frame may move its stack pointer. -/
instance : AdmitsStack (Moves home) where
  setStackPointer := setStackPointer_moves

section Stack

variable {rel : Machine → Machine → Prop} [AdmitsStack rel]

/-- Pushing a value moves the current stack pointer. -/
theorem push_moves (value : Address) : Along rel (push value) :=
  frame_proceeds.bind fun _ => (stackSet_proceeds _ _).bind fun _ => AdmitsStack.setStackPointer _

/-- Taking the top of the stack moves the current stack pointer. -/
theorem pop_moves : Along rel pop := by
  -- The pointer moves only after the value could be read.
  refine frame_proceeds.bind fun frame => ?_
  split
  · exact (operands_proceed _).bind fun _ => along_throw _
  · exact (stackGet_proceeds _).bind fun _ => (AdmitsStack.setStackPointer _).bind fun _ =>
      along_pure _

/-- Reserving temporary variables moves the current stack pointer. -/
theorem link_moves (count : Nat) : Along rel (link count) :=
  frame_proceeds.bind fun _ => (stackSetAll_proceeds _ _).bind fun _ =>
    AdmitsStack.setStackPointer _

/-- Values are pushed, taken and reserved by moving the stack pointer. -/
instance : AdmitsOperands rel where
  push := push_moves
  pop := pop_moves
  link := link_moves

end Stack

section Operands

variable {rel : Machine → Machine → Prop} [AdmitsOperands rel]

/-- Pushing the values of slots is pushing one value after the other. -/
theorem pushSlots_moves (start count : Nat) : Along rel (pushSlots start count) := by
  -- Induction on the slots that are left to push.
  induction count generalizing start with
  | zero => exact along_pure _
  | succ count ih =>
    exact (stackGet_proceeds start).bind fun _ => (AdmitsOperands.push _).bind fun _ =>
      ih (start + 1)

/-- Acting on what can be read and written leads along whatever reading and writing does. -/
theorem access_moves (action : VariableAction) {read : VmM Address} {write : Address → VmM Unit}
    (reads : Along rel read) (writes : ∀ value, Along rel (write value))
    (storePopped : Bool) : Along rel (access action read write storePopped) := by
  cases action with
  | loadAcc => exact reads.bind fun _ => setAcc_proceeds _
  | loadStack => exact reads.bind fun _ => AdmitsOperands.push _
  | storeAcc =>
    -- Whether or not a value is taken from the stack, the accumulator is stored.
    have stores : Along rel (do write (← VmM.context (·.acc))) :=
      (along_context _).bind fun _ => writes _
    dsimp only [access]
    split
    · exact AdmitsOperands.pop.bind fun _ => (setAcc_proceeds _).bind fun _ => stores
    · exact stores
  | storeStack => exact AdmitsOperands.pop.bind fun _ => writes _
  | incAcc => exact reads.bind fun _ => (writes _).bind fun _ => setAcc_proceeds _
  | decAcc => exact reads.bind fun _ => (writes _).bind fun _ => setAcc_proceeds _
  | incStack => exact reads.bind fun _ => (writes _).bind fun _ => AdmitsOperands.push _
  | decStack => exact reads.bind fun _ => (writes _).bind fun _ => AdmitsOperands.push _

/-- Accessing a variable works on memory and uses the operand stack. -/
theorem accessVariable_moves (op : VariableOp) (index : Nat) :
    Along rel (accessVariable op index) :=
  (indexBy_proceeds _ _).bind fun index =>
    access_moves _ (readVariable_proceeds _ index) (writeVariable_proceeds _ index) _

/-- Accessing a property works on memory and uses the operand stack. -/
theorem accessProperty_moves (action : VariableAction) (index : Nat) :
    Along rel (accessProperty action index) :=
  frame_proceeds.bind fun frame =>
    access_moves _ (along_require _) (writeProperty_proceeds frame.objp index) _

/-- An instruction that neither starts nor ends a frame leads along every relation that admits the
use of the operand stack, if its jumps and the passing on of parameters do. -/
theorem execute_plain (run : Runner) {instruction : Instruction} (next : Address)
    (plain : instruction.operation.isPlain)
    (jumps : ∀ distance, Along rel (jumpTo (next.shift distance)))
    (passes : instruction.operation = .rest → ∀ first, Along rel (pushRest first)) :
    Along rel (execute run instruction next) := by
  refine (along_context _).bind fun acc => ?_
  -- Most instructions load the accumulator or push a value, after looking something up.
  cases operation : instruction.operation with
  | unary op => exact (along_ofExcept _).bind fun _ => setAcc_proceeds _
  | binary op =>
    exact AdmitsOperands.pop.bind fun _ => (store_proceeds (StoreM.advances_noted _)).bind fun _ =>
      setAcc_proceeds _
  | compare op =>
    have saves : Along rel (modifyContext fun context => { context with prev := acc }) :=
      Admits.registers (fun _ => rfl) (fun _ => rfl) fun _ => rfl
    exact saves.bind fun _ => AdmitsOperands.pop.bind fun _ => (along_ofExcept _).bind fun _ =>
      setAcc_proceeds _
  | branchTrue =>
    dsimp only
    split
    · exact jumps _
    · exact along_pure _
  | branchFalse =>
    dsimp only
    split
    · exact jumps _
    · exact along_pure _
  | jump => exact jumps _
  | loadImmediate => exact setAcc_proceeds _
  | push => exact AdmitsOperands.push _
  | pushImmediate => exact AdmitsOperands.push _
  | toss => exact AdmitsOperands.pop.bind fun _ => along_pure _
  | dup => exact peek_proceeds.bind fun _ => AdmitsOperands.push _
  | link => exact AdmitsOperands.link _
  | loadClass => exact (resolveClass_proceeds _).bind fun _ => setAcc_proceeds _
  | rest => exact passes operation _
  | lea => exact (variableAddress_proceeds _ _).bind fun _ => setAcc_proceeds _
  | selfID => exact frame_proceeds.bind fun _ => setAcc_proceeds _
  | pushPrev => exact (along_context _).bind fun _ => AdmitsOperands.push _
  | property action => exact accessProperty_moves _ _
  | loadOffset => exact (along_read _).bind fun _ => setAcc_proceeds _
  | pushOffset => exact (along_read _).bind fun _ => AdmitsOperands.push _
  | push0 => exact AdmitsOperands.push _
  | push1 => exact AdmitsOperands.push _
  | push2 => exact AdmitsOperands.push _
  | pushSelf => exact frame_proceeds.bind fun _ => AdmitsOperands.push _
  | «variable» op => exact accessVariable_moves _ _
  | _ =>
    rw [operation] at plain
    simp [Operation.isPlain] at plain

end Operands

/-- Passing parameters on moves the current stack pointer. -/
theorem pushRest_moves (first : Nat) : Along (Moves home) (pushRest first) := by
  -- The number of what was pushed waits in a register for the next call.
  refine frame_proceeds.bind fun frame => ?_
  refine (pushSlots_moves _ _).bind fun _ => ?_
  exact registers_proceed (fun _ => rfl) fun _ => rfl

/-- An instruction that neither starts nor ends a frame moves the current frame in its script. -/
theorem execute_moves (run : Runner) {instruction : Instruction} (next : Address)
    (plain : instruction.operation.isPlain) :
    Along (Moves next.segment) (execute run instruction next) :=
  -- Jumps stay in the segment of the next instruction.
  execute_plain run next plain (fun _ => jumpTo_moves rfl) fun _ => pushRest_moves

/-- The current frame is looked at, or there is none. -/
theorem ends_frame (machine : Machine) (post : Except Fault Frame → Machine → Prop)
    (missing : ∀ fault, post (.error fault) machine)
    (looked : ∀ frame, machine.context.current? = some frame → post (.ok frame) machine) :
    Ends frame machine post := by
  -- Looking changes nothing, so the machine is the same in both cases.
  rw [frame, ends_bind, ends_context, either_ok]
  cases current : machine.context.current? with
  | none => exact (ends_throw _ _ _).mpr (missing _)
  | some frame => exact (ends_pure _ _ _).mpr (looked frame current)

section Steps

variable {machine : Machine} {current : Frame} {instruction : Instruction}

/-- Goes on to the next instruction, counts a step and executes the instruction that was read. -/
def carryOut (run : Runner) (frame : Frame) (instruction : Instruction) : VmM Unit := do
  jumpTo (frame.pc.shift instruction.length)
  VmM.modifyStatus fun status => { status with steps := status.steps + 1 }
  execute run instruction (frame.pc.shift instruction.length)

/-- Reads the next instruction of a frame, records it if need be, and carries it out. -/
def advance (run : Runner) (frame : Frame) : VmM Unit := do
  let instruction ← VmM.require (instructionAt · frame.pc)
  if ← VmM.setup (·.config.traceInstructions) then
    traceInstruction frame instruction
  carryOut run frame instruction

/-- What the current frame stands for decides what a step does. -/
theorem step_eq (run : Runner) :
    step run = (do
      let frame ← frame
      match frame.kind with
      | .variable index => accessSelected frame index
      | _ => advance run frame) := rfl

/-- The machine after the current frame was sent on to an address and a step was counted. -/
def sentOn (machine : Machine) (next : Address) : Machine :=
  { machine with
    context := machine.context.modifyCurrent fun current => { current with pc := next }
    status := { machine.status with steps := machine.status.steps + 1 } }

/-- Sending the current frame on to its own script moves it, whatever was recorded before. -/
theorem sentOn_moves {store : Store} (same : store.heap = machine.store.heap) (next : Address) :
    machine.Moves next.segment (sentOn { machine with store } next) := by
  -- The machine that was sent on is the one after the jump, with another journal.
  have jumps := jumpTo_moves rfl machine (.ok ()) _ (rfl : jumpTo next machine = _)
  exact ⟨jumps.frames, rfl, rfl, fun _ => same ▸ .refl, rfl⟩

/-- An instruction is carried out from where the frame was sent on. -/
theorem run_carryOut (run : Runner) (frame : Frame) (instruction : Instruction)
    (machine : Machine) : carryOut run frame instruction machine =
      execute run instruction (frame.pc.shift instruction.length)
        (machine.sentOn (frame.pc.shift instruction.length)) := rfl

/-- Recording an instruction changes no more than the journal. -/
theorem run_traceInstruction (frame : Frame) (instruction : Instruction) (machine : Machine) :
    ∃ store, store.heap = machine.store.heap ∧
      traceInstruction frame instruction machine = some (.ok (), { machine with store }) := by
  -- A record is noted only if the script is there.
  rw [traceInstruction, run_bind_of_ok rfl]
  cases machine.store.heap.script frame.pc.segment with
  | error fault => exact ⟨machine.store, rfl, rfl⟩
  | ok script => exact ⟨machine.store.note .trace _, rfl, rfl⟩

/-- The instruction at a frame is carried out, with no more than a record of it before. -/
theorem advance_of_ok (run : Runner)
    (read : instructionAt machine.store.heap current.pc = .ok instruction) :
    ∃ store, store.heap = machine.store.heap ∧
      advance run current machine = carryOut run current instruction { machine with store } := by
  have known : VmM.require (instructionAt · current.pc) machine = some (.ok instruction, machine) :=
    (run_require _ machine).trans (by rw [read])
  rw [advance, run_bind_of_ok known, run_bind_of_ok rfl]
  dsimp only
  -- The trace only writes to the journal.
  split
  · obtain ⟨store, same, traced⟩ := run_traceInstruction current instruction machine
    exact ⟨store, same, run_bind_of_ok traced _⟩
  · exact ⟨machine.store, rfl, rfl⟩

/-- Without an instruction at a frame nothing is done. -/
theorem advance_of_error (run : Runner) {fault : Fault}
    (failed : instructionAt machine.store.heap current.pc = .error fault) :
    advance run current machine = some (.error fault, machine) := by
  -- The instruction is read before anything else, and the failure is passed on.
  have refused : VmM.require (instructionAt · current.pc) machine = some (.error fault, machine) :=
    (run_require _ machine).trans (by rw [failed])
  rw [advance, run_bind_of_error refused]

/-- The frame over all others is the current one. -/
theorem current?_of_cons {context : Context} {callers : List Frame}
    (frames : context.frames.list = current :: callers) : context.current? = some current := by
  rw [Context.current?, frames, List.head?_cons]

/-- The current frame is looked at. -/
theorem run_frame (top : machine.context.current? = some current) :
    frame machine = some (.ok current, machine) := by
  -- The context has a current frame.
  rw [frame, run_bind_of_ok rfl]
  dsimp only
  rw [top]
  rfl

/-- Without a frame there is no step. -/
theorem step_of_none (run : Runner) (bare : machine.context.current? = none) :
    ∃ fault, step run machine = some (.error fault, machine) := by
  -- A step looks for the current frame first.
  have missing : ∃ fault, frame machine = some (.error fault, machine) := by
    rw [frame, run_bind_of_ok rfl]
    dsimp only
    rw [bare]
    exact ⟨_, rfl⟩
  obtain ⟨fault, looked⟩ := missing
  exact ⟨fault, run_bind_of_error looked _⟩

/-- A step of a frame that stands for a property accesses the property. -/
theorem step_of_selected (run : Runner) (top : machine.context.current? = some current)
    {index : Nat} (kind : current.kind = .variable index) :
    step run machine = accessSelected current index machine := by
  rw [step_eq, run_bind_of_ok (run_frame top), kind]

/-- A step of a frame that runs code goes on in the code. -/
theorem step_of_runs (run : Runner) (top : machine.context.current? = some current)
    (runs : current.RunsCode) : step run machine = advance run current machine := by
  rw [step_eq, run_bind_of_ok (run_frame top)]
  -- Whether it is a procedure or a method makes no difference.
  rcases runs with kind | kind <;> rw [kind]

/--
What a step can do.

Without a frame it fails, a frame that stands for a property is ended, and a frame that runs code is
sent on to the next instruction before the one that was read is executed.
-/
theorem ends_step (run : Runner) (machine : Machine) (post : Except Fault Unit → Machine → Prop)
    (missing : ∀ fault, post (.error fault) machine)
    (selected : ∀ frame index, machine.context.current? = some frame →
      Ends (accessSelected frame index) machine post)
    (failed : ∀ frame fault after, machine.context.current? = some frame → frame.RunsCode →
      machine.Moves frame.pc.segment after → post (.error fault) after)
    (executed : ∀ frame instruction between, machine.context.current? = some frame →
      frame.RunsCode → machine.Moves frame.pc.segment between →
      Ends (execute run instruction (frame.pc.shift instruction.length)) between post) :
    Ends (step run) machine post := by
  cases top : machine.context.current? with
  | none =>
    obtain ⟨fault, stepped⟩ := step_of_none run top
    exact (ends_of_eq stepped post).mpr (missing fault)
  | some frame =>
    rcases frame.runsCode_or_selected with runs | ⟨index, kind⟩
    · rw [Ends, step_of_runs run top runs]
      -- An instruction that cannot be read fails before the frame was sent on.
      cases read : instructionAt machine.store.heap frame.pc with
      | error fault =>
        exact (ends_of_eq (advance_of_error run read) post).mpr
          (failed frame fault machine top runs (refl machine))
      | ok instruction =>
        obtain ⟨store, same, goesOn⟩ := advance_of_ok run read
        rw [goesOn, run_carryOut]
        exact executed frame instruction _ top runs
          (sentOn_moves same (frame.pc.shift instruction.length))
    · rw [Ends, step_of_selected run top kind]
      exact selected frame index top

end Steps

end Machine

end AdventureVm
