import AdventureVm.Assembly.Statement
import AdventureVm.Instruction.Decode

/-! Assembled code, in which places that are not yet known are left open. -/

namespace AdventureVm

/-- An operand that was left open. -/
structure Reference where
  /-- Where the operand is in the code. -/
  offset : Nat
  /-- Where the next instruction is. -/
  next : Nat
  /-- What the operand refers to. -/
  target : Argument
deriving Repr, DecidableEq, Inhabited

/-- Assembled code with its labels and open operands. -/
structure Assembly where
  /-- The code, with zeros for the open operands. -/
  code : Bytes := #[]
  /-- The positions of the labels that have one. -/
  labels : Array (Option Nat) := #[]
  /-- The open operands in the order of the code. -/
  references : Array Reference := #[]
deriving Repr, Inhabited

namespace Assembly

/-- The position of a label that has one. -/
def position? (assembly : Assembly) (label : Label) : Option Nat :=
  assembly.labels[label]?.join

/-- The byte that stands for an operation in its word form. -/
def opcodeByte (code : Nat) : UInt8 :=
  UInt8.ofNat (2 * code)

/-- The bytes of an operand; an open one is a zero word. -/
def argumentBytes (kind : OperandKind) : Argument → Bytes
  | .value word => if kind.size false = 1 then #[lowByte word] else wordBytes word
  | _ => wordBytes 0

/-- Adds an operand to the code; `next` is where the next instruction will be. -/
def addArgument (next : Nat) (assembly : Assembly) (kind : OperandKind) (argument : Argument) :
    Assembly :=
  let references := match argument with
    | .value _ => assembly.references
    -- What names a thing is filled in once every thing has its place.
    | target => assembly.references.push ⟨assembly.code.size, next, target⟩
  { assembly with code := assembly.code ++ argumentBytes kind argument, references }

/-- Adds an instruction in its word form. -/
def addInstruction (assembly : Assembly) (operation : Operation) (arguments : List Argument) :
    Assembly :=
  -- The word form fixes every size, so the next instruction is known before the operands are.
  let kinds := operation.operandKinds
  let next := assembly.code.size + 1 + Instruction.operandSize false kinds
  let opened := { assembly with code := assembly.code.push (opcodeByte operation.code) }
  (kinds.zip arguments).foldl (fun built (kind, argument) => built.addArgument next kind argument)
    opened

/-- Adds a statement. -/
def add (assembly : Assembly) : Statement → Assembly
  | .label => { assembly with labels := assembly.labels.push none }
  | .bind label =>
    { assembly with labels := assembly.labels.setIfInBounds label (some assembly.code.size) }
  | .instruction operation arguments => assembly.addInstruction operation arguments
  | .opcode number => { assembly with code := assembly.code.push (opcodeByte number) }
  | .raw bytes => { assembly with code := assembly.code ++ bytes }

/-- The code of a program. -/
def ofProgram (program : List Statement) : Assembly :=
  program.foldl add {}

/-- The texts that the code refers to, in the order of the references. -/
def texts (assembly : Assembly) : List String :=
  assembly.references.toList.filterMap fun reference =>
    match reference.target with
    | .text text => some text
    | _ => none

end Assembly

end AdventureVm
