import AdventureVm.Machine.Stack

/-! Access to variables and properties. -/

namespace AdventureVm

/-- Where a variable is kept. -/
inductive VariableSlot where
  /-- In a table of local variables. -/
  | local (segment : SegmentId) (index : Nat)
  /-- On the operand stack. -/
  | stack (index : Nat)
deriving Repr, DecidableEq, Inhabited

namespace Machine

/-- The table of the global variables or of those of the current script. -/
def localsTable? (kind : VariableKind) : VmM (Option SegmentId) := do
  match kind with
  | .global => VmM.read (·.globalsSegment?)
  | _ =>
    -- Local variables are those of the script whose code the frame runs.
    let id := (← frame).locals
    return if id = 0 then none else some id

/-- Where a variable is kept. -/
def variableSlot (kind : VariableKind) (index : Nat) : VmM VariableSlot := do
  match kind with
  | .temp => return .stack ((← frame).fp + index)
  | .param =>
    let frame ← frame
    -- Index zero is the count, so the last parameter has the number of parameters.
    if index > frame.argc then
      throw (.variableOutOfRange kind index (frame.argc + 1))
    return .stack (frame.argp + index)
  | _ =>
    match ← localsTable? kind with
    | none => throw (.variableOutOfRange kind index 0)
    | some id =>
      let count := (← VmM.require (·.locals id)).values.size
      if count ≤ index then
        throw (.variableOutOfRange kind index count)
      return .local id index

/-- The value in a slot. -/
def readSlot (kind : VariableKind) : VariableSlot → VmM Address
  | .stack index => stackGet index
  | .local id index => do
    let table ← VmM.require (·.locals id)
    match table.values[index]? with
    | some value => return value
    | none => throw (.variableOutOfRange kind index table.values.size)

/-- Whether a variable is a parameter that was not given. -/
def isMissing (kind : VariableKind) (index : Nat) : VmM Bool := do
  match kind with
  | .param => return (← frame).argc < index
  | _ => return false

/-- The value of a variable; a parameter that was not given is null. -/
def readVariable (kind : VariableKind) (index : Nat) : VmM Address := do
  -- Only reading is lenient; a write to such a parameter fails.
  if ← isMissing kind index then
    VmM.note .warn s!"read of param {index} past argc; using 0"
    return .null
  readSlot kind (← variableSlot kind index)

/-- Stores a value into a variable. -/
def writeVariable (kind : VariableKind) (index : Nat) (value : Address) : VmM Unit := do
  match ← variableSlot kind index with
  | .stack index => stackSet index value
  | .local id index => VmM.store (StoreM.change (·.setLocal id index value))

/-- An index, with the accumulator added to it if the instruction says so. -/
def indexBy (indexed : Bool) (index : Nat) : VmM Nat := do
  if indexed then
    let acc ← VmM.context (·.acc)
    match acc.toWord? with
    | some word => return index + word.toNat
    | none => throw (.invalidOperand "indexed variable" acc)
  else return index

/-- Acts on something that can be read and written, as an instruction says. -/
def access (action : VariableAction) (read : VmM Address) (write : Address → VmM Unit)
    (storePopped : Bool) : VmM Unit := do
  match action with
  | .loadAcc => VmM.setAcc (← read)
  | .loadStack => push (← read)
  | .storeAcc =>
    -- The accumulator then holds what is stored.
    if storePopped then
      VmM.setAcc (← pop)
    write (← VmM.context (·.acc))
  | .storeStack => write (← pop)
  | .incAcc =>
    let value := (← read).shift 1
    write value
    VmM.setAcc value
  | .decAcc =>
    let value := (← read).shift (-1)
    write value
    VmM.setAcc value
  | .incStack =>
    let value := (← read).shift 1
    write value
    push value
  | .decStack =>
    let value := (← read).shift (-1)
    write value
    push value

/--
Accesses a variable.

The accumulator cannot both be an index and hold the value to store, so an indexed store of the
accumulator takes the value from the stack.
-/
def accessVariable (op : VariableOp) (index : Nat) : VmM Unit := do
  let index ← indexBy op.indexed index
  access op.action (readVariable op.kind index) (writeVariable op.kind index) op.indexed

/-- Accesses a property of the current object. -/
def accessProperty (action : VariableAction) (index : Nat) : VmM Unit := do
  let object := (← frame).objp
  access action (VmM.require (·.readProperty object index))
    (fun value => VmM.store (StoreM.attempt (·.writeProperty object index value))) false

/-- The address of a variable, given the word that tells its kind and whether it is indexed. -/
def variableAddress (word : UInt16) (index : Nat) : VmM Address := do
  -- Bits one and two are the kind, bit four says that the accumulator is added.
  let kind := VariableKind.ofBits (word.toNat / 2)
  let index ← indexBy (word.toNat / 16 % 2 == 1) index
  let stackSegment ← VmM.context (·.stackSegment)
  match kind with
  | .temp => return ⟨stackSegment, .ofNat (2 * ((← frame).fp + index))⟩
  | .param => return ⟨stackSegment, .ofNat (2 * ((← frame).argp + index))⟩
  | _ =>
    match ← localsTable? kind with
    | some id => return ⟨id, .ofNat (2 * index)⟩
    | none => throw (.variableOutOfRange kind 0 0)

end Machine

end AdventureVm
