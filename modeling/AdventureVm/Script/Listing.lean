import AdventureVm.Instruction.Decode
import AdventureVm.Script.Basic

/-! Listings of the code of a script. -/

namespace AdventureVm

/-- Names that a listing shows beside numbers. -/
structure Symbols where
  /-- The kernel functions by number. -/
  kernel : Array String := #[]
  /-- The selectors by number. -/
  selectors : Array String := #[]
deriving Repr, Inhabited

namespace Listing

/-- The name at a position that may be negative. -/
def nameAt? (names : Array String) (index : Int) : Option String :=
  if index < 0 then none else names[index.toNat]?

/--
The text of an operand.

Kernel functions and constants that are selectors show their names, a distance shows the offset it
leads to when counted from the next instruction.
-/
def operandText (symbols : Symbols) (operation : Operation) (next position : Nat)
    (kind : OperandKind) (value : Int) : String :=
  match operation, kind with
  | .callKernel, _ =>
    if position = 0 then
      match nameAt? symbols.kernel value with
      | some name => s!"{name} ({value})"
      | none => s!"k{value}"
    else s!"{value}"
  | .loadOffset, _ | .pushOffset, _ => hexText 4 (wordOfInt value).toNat
  -- Distances count from the end of the instruction.
  | _, .relative => hexText 4 (wordOfInt (next + value)).toNat
  | .loadImmediate, _ | .pushImmediate, _ =>
    match nameAt? symbols.selectors value with
    | some name => s!"{value} ; {name}"
    | none => s!"{value}"
  | _, _ => s!"{value}"

/-- The texts of the operands in order. -/
def operandTexts (symbols : Symbols) (operation : Operation) (next : Nat) :
    Nat → List OperandKind → List Int → List String
  | position, kind :: kinds, value :: values =>
    operandText symbols operation next position kind value ::
      operandTexts symbols operation next (position + 1) kinds values
  | _, _, _ => []

/-- The line of an instruction: offset, bytes, mnemonic and operands. -/
def instructionLine (symbols : Symbols) (code : Bytes) (pc : Nat) (instruction : Instruction) :
    String :=
  -- Distances are shown as the offsets they lead to.
  let next := pc + instruction.length
  let bytes := (code.extract pc next).toList.map fun byte => hexText 2 byte.toNat
  let operands := operandTexts symbols instruction.operation next 0
    instruction.operation.operandKinds instruction.operands
  trimEnd (hexText 4 pc ++ ": " ++ padRight 14 (" ".intercalate bytes) ++ " " ++
    padRight 8 instruction.operation.mnemonic ++ " " ++ ", ".intercalate operands)

/-- The line of the instruction at an offset and its length. -/
def line (symbols : Symbols) (code : Bytes) (pc : Nat) : Except DecodeError (String × Nat) :=
  (decode code pc).map fun instruction =>
    (instructionLine symbols code pc instruction, instruction.length)

/-- The line of a byte that starts no instruction. -/
def dataLine (pc : Nat) (byte : UInt8) : String :=
  hexText 4 pc ++ ": " ++ hexText 2 byte.toNat ++ "             db"

/-- The lines of the code from an offset on; a byte that starts no instruction has its own line. -/
def linesFrom (symbols : Symbols) (code : Bytes) (pc : Nat) : List String :=
  if inside : pc < code.size then
    match decode code pc with
    | .ok instruction =>
      instructionLine symbols code pc instruction ::
        linesFrom symbols code (pc + instruction.length)
    -- One byte is passed over, and the next may start an instruction again.
    | .error _ => dataLine pc code[pc] :: linesFrom symbols code (pc + 1)
  else []
termination_by code.size - pc
decreasing_by
  · unfold Instruction.length; omega
  · omega

end Listing

/-- The lines of all code of a script, range by range; no instruction reaches past its range. -/
def Script.listing (script : Script) (symbols : Symbols) : List String :=
  script.codeRanges.flatMap fun (start, stop) =>
    Listing.linesFrom symbols (script.data.extract 0 stop) start

end AdventureVm
