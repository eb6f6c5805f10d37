import AdventureVm.Kernel.Builtin
import AdventureVm.Memory.Residency

/-! The arguments of a kernel call. -/

namespace AdventureVm

/-- A call of a kernel function and what it may use besides memory. -/
structure KernelCall where
  /-- Where scripts are loaded from. -/
  resources : Resources
  /-- The accumulator, which functions without a result of their own answer. -/
  acc : Address
  /-- The function. -/
  builtin : Builtin
  /-- The arguments in order. -/
  arguments : List Address

namespace KernelCall

/-- The failure of a call. -/
def rejects {α : Type} (call : KernelCall) (message : String) : StoreM α :=
  throw (.kernelArgument call.builtin.name message)

/-- The argument at a position, which has to be there. -/
def argument (call : KernelCall) (index : Nat) : StoreM Address :=
  match call.arguments[index]? with
  | some value => return value
  | none => call.rejects s!"missing argument {index + 1} of {call.arguments.length}"

/-- The argument at a position, which has to be a number. -/
def number (call : KernelCall) (index : Nat) : StoreM UInt16 := do
  let value ← call.argument index
  match value.toWord? with
  | some word => return word
  | none => call.rejects s!"argument {index + 1} is {value}, expected a number"

/-- The number at a position, if there is an argument. -/
def number? (call : KernelCall) (index : Nat) : StoreM (Option UInt16) := do
  if index < call.arguments.length then
    return some (← call.number index)
  else return none

end KernelCall

end AdventureVm
