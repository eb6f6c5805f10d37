import AdventureVm.Address
import AdventureVm.Instruction.Variable
import AdventureVm.Memory.SegmentKind

/-! Everything that can go wrong in memory, while loading and while running. -/

namespace AdventureVm

/-- A wish, from outside the instruction stream, that a run come to an end. -/
inductive StopRequest where
  | abort
  | restart
  | restoreGame
deriving Repr, DecidableEq, Inhabited

/-- The word for a request in messages. -/
def StopRequest.name : StopRequest → String
  | abort => "Abort"
  | restart => "Restart"
  | restoreGame => "RestoreGame"

/-- The cause of a failure. -/
inductive Fault where
  /-- An address names nothing of the wanted kind or size. -/
  | invalidAddress (address : Address) (kind : Option SegmentKind) (requested : Nat)
  /-- Part of a script does not fit its format. -/
  | scriptCorrupt (script : UInt16) (field detail : String)
  /-- There are no resources for a script. -/
  | scriptNotFound (script : UInt16)
  /-- Neither an object nor its superclasses answer a selector. -/
  | selectorNotFound (object : Address) (selector : UInt16) (name : Option String)
  /-- There are more frames than the limit allows. -/
  | stackOverflow (depth limit : Nat)
  /-- The operand stack has no such slot. -/
  | valueStackExhausted (capacity : Nat)
  /-- There is no room for another segment or record. -/
  | outOfMemory (requested : Nat) (context : String)
  /-- An object has no such property. -/
  | propertyOutOfRange (object : Address) (index count : Nat)
  /-- An array of variables has no such index. -/
  | variableOutOfRange (kind : VariableKind) (index count : Nat)
  /-- An operation cannot take this value. -/
  | invalidOperand (operation : String) (value : Address)
  /-- A byte of code starts no instruction. -/
  | invalidOpcode (opcode : UInt8) (pc : Address)
  /-- The kernel table has no such entry. -/
  | unknownKernelCall (index : Nat)
  /-- A kernel function rejects its arguments. -/
  | kernelArgument (name message : String)
  /-- No class of this species is known. -/
  | classNotFound (species : UInt16)
  /-- There is no object at an address. -/
  | notAnObject (address : Address)
  /-- A stop request ended the run. -/
  | interrupted (request : StopRequest)
deriving Repr, DecidableEq, Inhabited

namespace Fault

/-- The word for a cause. -/
def name : Fault → String
  | invalidAddress .. => "InvalidAddress"
  | scriptCorrupt .. => "ScriptCorrupt"
  | scriptNotFound .. => "ScriptNotFound"
  | selectorNotFound .. => "SelectorNotFound"
  | stackOverflow .. => "StackOverflow"
  | valueStackExhausted .. => "ValueStackExhausted"
  | outOfMemory .. => "OutOfMemory"
  | propertyOutOfRange .. => "PropertyOutOfRange"
  | variableOutOfRange .. => "VariableOutOfRange"
  | invalidOperand .. => "InvalidOperand"
  | invalidOpcode .. => "InvalidOpcode"
  | unknownKernelCall .. => "UnknownKernelCall"
  | kernelArgument .. => "KernelArgument"
  | classNotFound .. => "ClassNotFound"
  | notAnObject .. => "NotAnObject"
  | interrupted .. => "Interrupted"

/-- A run may be set to continue after such a fault. -/
def isRecoverable : Fault → Bool
  | selectorNotFound .. => true
  | _ => false

/-- Such a fault arises from loading and not from running a script. -/
def isLoadError : Fault → Bool
  | scriptCorrupt .. | scriptNotFound .. | outOfMemory .. => true
  | _ => false

/-- What the user is told. -/
def message : Fault → String
  | invalidAddress address kind requested =>
    let place := match kind with
      | some kind => s!" in {kind.name} segment"
      | none => ""
    s!"Invalid address {address}{place} ({requested} bytes requested)"
  | scriptCorrupt script field detail => s!"Script {script} corrupt: {field}: {detail}"
  | scriptNotFound script => s!"Script {script} not found"
  | selectorNotFound object selector (some name) =>
    s!"Object {object} has no selector '{name}' ({selector})"
  | selectorNotFound object selector none => s!"Object {object} has no selector {selector}"
  | stackOverflow depth limit => s!"Stack overflow: call depth {depth} exceeds limit {limit}"
  | valueStackExhausted capacity => s!"Operand stack exhausted ({capacity} entries)"
  | outOfMemory requested context => s!"Out of memory: {context} ({requested} requested)"
  | propertyOutOfRange object index count =>
    s!"Property {index} out of range for object {object} with {count} properties"
  | variableOutOfRange kind index count =>
    s!"{kind.name} variable {index} out of range ({count} available)"
  | invalidOperand operation value => s!"Invalid operand {value} for {operation}"
  | invalidOpcode opcode pc => "Invalid opcode 0x" ++ hexText 2 opcode.toNat ++ s!" at {pc}"
  | unknownKernelCall index => s!"Kernel call {index} is not in the kernel table"
  | kernelArgument name message => s!"Kernel {name}: {message}"
  | classNotFound species => s!"Class {species} is not registered"
  | notAnObject address => s!"{address} is not an object"
  | interrupted request => s!"Execution interrupted: {request.name}"

end Fault

end AdventureVm
