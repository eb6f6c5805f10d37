import AdventureVm.Address
import AdventureVm.Bytes
import AdventureVm.Instruction.Operation

/-! Reading one instruction from code. -/

namespace AdventureVm

/-- An operation with its operands, in the form in which it was stored. -/
structure Instruction where
  /-- What is done. -/
  operation : Operation
  /-- Operands that may take a word are stored in a byte. -/
  byteForm : Bool
  /-- The operands in order. -/
  operands : List Int
deriving Repr, DecidableEq, Inhabited

namespace Instruction

/-- The operand at a position, or zero when there is none. -/
def operand (instruction : Instruction) (index : Nat) : Int :=
  instruction.operands.getD index 0

/-- The number of bytes that the operands of an operation take. -/
def operandSize (byteForm : Bool) (kinds : List OperandKind) : Nat :=
  totalSize (kinds.map (OperandKind.size byteForm))

/-- The number of bytes of an instruction, the opcode included. -/
def length (instruction : Instruction) : Nat :=
  1 + operandSize instruction.byteForm instruction.operation.operandKinds

end Instruction

/-- Why no instruction can be read. -/
inductive DecodeError where
  /-- The opcode stands for no operation. -/
  | invalid (opcode : UInt8)
  /-- The code ends before the instruction does. -/
  | truncated
deriving Repr, DecidableEq, Inhabited

/-- Reads one operand. -/
def readOperand? (code : Bytes) (start : Nat) (byteForm : Bool) (kind : OperandKind) : Option Int :=
  if kind.size byteForm = 1 then
    code[start]?.map fun byte =>
      match kind with
      | .relative | .signed => signedByte byte
      | .unsigned | .byte => byte.toNat
  else
    (word? code start).map fun word =>
      match kind with
      | .relative | .signed => signedWord word
      | .unsigned | .byte => word.toNat

/-- Reads the operands of an instruction one after the other. -/
def readOperands? (code : Bytes) (byteForm : Bool) : Nat → List OperandKind → Option (List Int)
  | _, [] => some []
  | start, kind :: kinds => do
    let value ← readOperand? code start byteForm kind
    let rest ← readOperands? code byteForm (start + kind.size byteForm) kinds
    return value :: rest

/-- Reads the instruction at a position; the low bit of the opcode chooses the form. -/
def decode (code : Bytes) (pc : Nat) : Except DecodeError Instruction :=
  match code[pc]? with
  | none => .error .truncated
  | some opcode =>
    -- The opcode alone decides the form, and so the length.
    let byteForm := opcode.toNat % 2 == 1
    match Operation.ofCode? (opcode.toNat / 2) with
    | none => .error (.invalid opcode)
    | some operation =>
      match readOperands? code byteForm (pc + 1) operation.operandKinds with
      | none => .error .truncated
      | some operands => .ok ⟨operation, byteForm, operands⟩

end AdventureVm
