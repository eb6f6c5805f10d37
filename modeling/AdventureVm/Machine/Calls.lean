import AdventureVm.Machine.Entry

/-! Calls of procedures and kernel functions. -/

namespace AdventureVm

namespace Machine

/--
The slot of the argument count of a call whose arguments take so many bytes, and that count.

The arguments that wait are on the stack already; they are added to the count.
-/
def callBase (bytes : Nat) : VmM (Nat × Nat) := do
  let rest ← takeRest
  let base ← stackBase (bytes / 2 + 1 + rest)
  -- The count may exceed the words of the call; nothing compares the two.
  let argc := (← stackGet base).offset.toNat + rest
  if 0 < rest then
    stackSet base (.ofNat argc)
  return (base, argc)

/-- Calls a procedure, which works for the caller's objects. -/
def callProcedure (target : Address) (bytes : Nat) (locals : Option SegmentId) : VmM Unit := do
  let (base, argc) ← callBase bytes
  let caller ← frame
  pushFrame {
    kind := .call, pc := target, sp := caller.sp, fp := caller.sp, argp := base, argc
    objp := caller.objp, sendp := caller.sendp, locals := locals.getD caller.locals }
  -- The caller goes on without the arguments.
  VmM.modifyContext (·.setCallerStackPointer base)

/-- Calls an export of a script, which is loaded if need be and not locked. -/
def callExported (number : UInt16) (index bytes : Nat) : VmM Unit := do
  let id ← VmM.store (Store.loadScript (← VmM.setup (·.resources)) number)
  let script ← VmM.require (·.script id)
  match script.export? index with
  | none => throw (.scriptCorrupt number "exports" s!"no export {index}")
  -- The procedure runs with the variables of its own script.
  | some target => callProcedure target bytes (some script.localsSegment)

/-- The values of neighbouring slots of the operand stack. -/
def stackSlice (start : Nat) : Nat → VmM (List Address)
  | 0 => return []
  | count + 1 => do
    let value ← stackGet start
    let rest ← stackSlice (start + 1) count
    return value :: rest

/-- Calls a kernel function; the arguments stay on the stack until it has ended. -/
def callKernel (run : Runner) (index bytes : Nat) : VmM Unit := do
  -- A collection comes first, while the arguments are still below the stack pointer.
  countKernelCall
  let (base, argc) ← callBase bytes
  let arguments ← stackSlice (base + 1) argc
  let some entry ← VmM.setup (·.kernel.get? index) | throw (.unknownKernelCall index)
  VmM.note .trace s!"kernel {entry.name}({argc} args)"
  let depth ← VmM.context (·.depth)
  VmM.setState .awaitingKernelCall
  let result ← VmM.outcome (applyKernel run entry arguments)
  -- Whatever the function did, the machine is running again.
  VmM.setState .running
  VmM.modifyContext (·.truncate depth)
  VmM.setAcc (← VmM.ofExcept result)
  setStackPointer base

/-- Pushes the values of neighbouring slots, each read right before it is pushed. -/
def pushSlots (start : Nat) : Nat → VmM Unit
  | 0 => return ()
  | count + 1 => do
    push (← stackGet start)
    pushSlots (start + 1) count

/-- Pushes the parameters from one on, which then wait for the next call. -/
def pushRest (first : Nat) : VmM Unit := do
  let frame ← frame
  let count := frame.argc + 1 - first
  pushSlots (frame.argp + first) count
  VmM.modifyContext fun context => { context with rest := count }

/-- Ends the current frame. -/
def dropFrame : VmM Unit :=
  VmM.modifyContext (·.pop)

end Machine

end AdventureVm
