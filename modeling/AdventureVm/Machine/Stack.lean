import AdventureVm.Machine.Basic

/-! The frames and the operand stack. -/

namespace AdventureVm

namespace Machine

/-- The current frame, which has to be there. -/
def frame : VmM Frame := do
  match ← VmM.context (·.current?) with
  | some frame => return frame
  | none => throw (.invalidAddress .null (some .stack) 0)

/-- Changes the current frame. -/
def modifyFrame (change : Frame → Frame) : VmM Unit :=
  VmM.modifyContext (·.modifyCurrent change)

/-- Moves the stack pointer of the current frame. -/
def setStackPointer (sp : Nat) : VmM Unit :=
  modifyFrame fun frame => { frame with sp }

/-- Starts a frame, unless there are too many already. -/
def pushFrame (frame : Frame) : VmM Unit := do
  -- The frame that starts counts as well.
  let depth := (← VmM.context (·.depth)) + 1
  let limit ← VmM.setup (·.config.maxCallDepth)
  if depth > limit then
    throw (.stackOverflow depth limit)
  VmM.modifyContext (·.push frame)

/-- Reads from the slots of the operand stack. -/
def operands {α : Type} (query : Array Address → α) : VmM α := do
  let id ← VmM.context (·.stackSegment)
  VmM.require fun heap => (heap.stack id).map query

/-- Reads from the slots of the operand stack what a slot outside of it does not give. -/
def operands? {α : Type} (query : Array Address → Option α) : VmM α := do
  let (found, capacity) ← operands fun slots => (query slots, slots.size)
  match found with
  | some value => return value
  | none => throw (.valueStackExhausted capacity)

/-- The value in a slot of the operand stack. -/
def stackGet (index : Nat) : VmM Address :=
  operands? (·[index]?)

/-- Stores a value into a slot of the operand stack. -/
def stackSet (index : Nat) (value : Address) : VmM Unit := do
  let capacity ← operands (·.size)
  if capacity ≤ index then
    throw (.valueStackExhausted capacity)
  let id ← VmM.context (·.stackSegment)
  VmM.store (StoreM.change (·.setStackSlot id index value))

/-- Stores values into neighbouring slots of the operand stack. -/
def stackSetAll (start : Nat) : List Address → VmM Unit
  | [] => return ()
  | value :: rest => do
    stackSet start value
    stackSetAll (start + 1) rest

/-- Pushes a value. -/
def push (value : Address) : VmM Unit := do
  let sp := (← frame).sp
  stackSet sp value
  setStackPointer (sp + 1)

/-- Takes the top of the stack away; the first frame cannot go below the first slot. -/
def pop : VmM Address := do
  match (← frame).sp with
  | 0 => throw (.valueStackExhausted (← operands (·.size)))
  | sp + 1 =>
    -- The value is read before the pointer moves.
    let value ← stackGet sp
    setStackPointer sp
    return value

/-- The top of the stack, or null below the first slot. -/
def peek : VmM Address := do
  match (← frame).sp with
  | 0 => return .null
  | sp + 1 => stackGet sp

/-- The slot at which so many words on top of the stack begin. -/
def stackBase (words : Nat) : VmM Nat := do
  let sp := (← frame).sp
  let capacity ← operands (·.size)
  if sp < words then
    throw (.valueStackExhausted capacity)
  return sp - words

/-- Takes the number of further arguments, so that none wait any more. -/
def takeRest : VmM Nat := do
  let rest ← VmM.context (·.rest)
  VmM.modifyContext fun context => { context with rest := 0 }
  return rest

/-- Reserves temporary variables, all null. -/
def link (count : Nat) : VmM Unit := do
  let sp := (← frame).sp
  stackSetAll sp (List.replicate count .null)
  setStackPointer (sp + count)

end Machine

end AdventureVm
