import AdventureVm.Machine.Arithmetic
import AdventureVm.Machine.Calls
import AdventureVm.Machine.Variables
import AdventureVm.Script.Listing

/-! One step of the machine. -/

namespace AdventureVm

namespace Machine

/-- Answers a message by reading or replacing a property, and ends the frame. -/
def accessSelected (frame : Frame) (index : Nat) : VmM Unit := do
  -- The frame is gone even if the access fails.
  dropFrame
  if frame.argc = 0 then
    VmM.setAcc (← VmM.require (·.readProperty frame.objp index))
  else
    let value ← stackGet (frame.argp + 1)
    VmM.store (StoreM.attempt (·.writeProperty frame.objp index value))

/-- The instruction at an address, which has to be in a script. -/
def instructionAt (heap : Heap) (pc : Address) : Except Fault Instruction :=
  match heap.script pc.segment with
  | .error _ => .error (heap.invalid pc 1)
  | .ok script =>
    match decode script.data pc.offset.toNat with
    | .ok instruction => .ok instruction
    | .error (.invalid opcode) => .error (.invalidOpcode opcode pc)
    -- Bytes that end inside an instruction make the place invalid.
    | .error .truncated => .error (.invalidAddress pc (some .script) 1)

/-- Records the instruction that comes next. -/
def traceInstruction (frame : Frame) (instruction : Instruction) : VmM Unit := do
  let machine ← get
  match machine.store.heap.script frame.pc.segment with
  | .error _ => return ()
  | .ok script =>
    let symbols : Symbols := { selectors := machine.setup.resources.selectorNames }
    let line := Listing.instructionLine symbols script.data frame.pc.offset.toNat instruction
    let segment := hexText 4 frame.pc.segment.toNat
    VmM.note .trace
      s!"[{machine.context.depth}] {segment}:{line} acc={machine.context.acc} sp={frame.sp}"

/-- Goes on somewhere else. -/
def jumpTo (pc : Address) : VmM Unit :=
  modifyFrame fun frame => { frame with pc }

/-- The address that an offset operand stands for, given the next instruction. -/
def offsetAddress (version : Version) (next : Address) (operand : Int) : Address :=
  if version.layout.absoluteOffsets then { next with offset := wordOfInt operand }
  else next.shift operand

/-- Executes an instruction, given the address of the next one. -/
def execute (run : Runner) (instruction : Instruction) (next : Address) : VmM Unit := do
  let operand (index : Nat) : Int := instruction.operand index
  let natural (index : Nat) : Nat := (operand index).toNat
  let word (index : Nat) : UInt16 := wordOfInt (operand index)
  let acc ← VmM.context (·.acc)
  match instruction.operation with
  | .unary op => VmM.setAcc (← VmM.ofExcept (op.apply acc))
  | .binary op =>
    let left ← pop
    VmM.setAcc (← VmM.store (StoreM.noted fun _ => op.apply left acc))
  | .compare op =>
    -- The accumulator is saved even if the comparison fails.
    VmM.modifyContext fun context => { context with prev := acc }
    let left ← pop
    VmM.setAcc (.ofBool (← VmM.ofExcept (op.apply left acc)))
  | .branchTrue => if acc.isTruthy then jumpTo (next.shift (operand 0))
  | .branchFalse => if !acc.isTruthy then jumpTo (next.shift (operand 0))
  | .jump => jumpTo (next.shift (operand 0))
  | .loadImmediate => VmM.setAcc (.ofInt (operand 0))
  | .push => push acc
  | .pushImmediate => push (.ofInt (operand 0))
  | .toss => discard pop
  | .dup => push (← peek)
  | .link => link (natural 0)
  | .call => callProcedure (next.shift (operand 0)) (natural 1) none
  | .callKernel => callKernel run (natural 0) (natural 1)
  | .callBase => callExported globalsScript (natural 0) (natural 1)
  | .callExport => callExported (word 0) (natural 1) (natural 2)
  | .ret => dropFrame
  | .send => sendMessages acc acc (natural 0)
  | .loadClass => VmM.setAcc (← resolveClass (word 0))
  | .sendSelf =>
    let object := (← frame).objp
    sendMessages object object (natural 0)
  | .sendSuper =>
    -- The class decides the method, the current object gives the properties.
    let parent ← resolveClass (word 0)
    sendMessages parent (← frame).objp (natural 1)
  | .rest => pushRest (natural 0)
  | .lea => VmM.setAcc (← variableAddress (word 0) (natural 1))
  | .selfID => VmM.setAcc (← frame).objp
  | .pushPrev => push (← VmM.context (·.prev))
  | .property action => accessProperty action (natural 0 / 2)
  | .loadOffset => VmM.setAcc (offsetAddress (← VmM.read (·.version)) next (operand 0))
  | .pushOffset => push (offsetAddress (← VmM.read (·.version)) next (operand 0))
  | .push0 => push (.number 0)
  | .push1 => push (.number 1)
  | .push2 => push (.number 2)
  | .pushSelf => push (← frame).objp
  | .variable op => accessVariable op (natural 0)

/-- Does the next step of the current frame; only instructions are counted. -/
def step (run : Runner) : VmM Unit := do
  let frame ← frame
  match frame.kind with
  | .variable index => accessSelected frame index
  | _ =>
    let instruction ← VmM.require (instructionAt · frame.pc)
    if ← VmM.setup (·.config.traceInstructions) then
      traceInstruction frame instruction
    -- The frame goes on after the instruction, unless that says otherwise.
    let next := frame.pc.shift instruction.length
    jumpTo next
    VmM.modifyStatus fun status => { status with steps := status.steps + 1 }
    execute run instruction next

end Machine

end AdventureVm
