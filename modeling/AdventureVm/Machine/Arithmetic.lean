import AdventureVm.Fault
import AdventureVm.Instruction.Operation
import AdventureVm.Journal

/-! Arithmetic and comparison of values. -/

namespace AdventureVm

/-- The number that an operation needs. -/
def numberFor (mnemonic : String) (value : Address) : Except Fault UInt16 :=
  match value.toWord? with
  | some word => .ok word
  | none => .error (.invalidOperand mnemonic value)

/-- Applies an operation to the accumulator. -/
def UnaryOp.apply (op : UnaryOp) (value : Address) : Except Fault Address :=
  match op with
  | bnot => (numberFor op.mnemonic value).map fun word => .number (~~~word)
  | neg => (numberFor op.mnemonic value).map fun word => .number (-word)
  | not => .ok (.ofBool !value.isTruthy)

namespace BinaryOp

/-- A location moved by a number, or the distance of two locations in one segment. -/
def onPointers? (op : BinaryOp) (left right : Address) : Option Address :=
  match op with
  | add =>
    if left.isPointer && right.isNumber then some (left.shift (signedWord right.offset))
    else if left.isNumber && right.isPointer then some (right.shift (signedWord left.offset))
    else none
  | sub =>
    if left.isPointer && right.isNumber then some (left.shift (-signedWord right.offset))
    -- Two locations have a distance only within one segment.
    else if left.isPointer && right.segment == left.segment then
      some (.number (left.offset - right.offset))
    else none
  | _ => none

/--
Applies an operation to two words.

Products, quotients and remainders are those of signed numbers, the quotient going toward zero. A
division by zero gives zero, and so does a shift by the width of a word or more.
-/
def onWords (op : BinaryOp) (left right : UInt16) : UInt16 :=
  match op with
  -- Sums and differences are the same for signed and unsigned numbers.
  | add => left + right
  | sub => left - right
  | mul => wordOfInt (signedWord left * signedWord right)
  | div => if right = 0 then 0 else wordOfInt ((signedWord left).tdiv (signedWord right))
  | mod => if right = 0 then 0 else wordOfInt ((signedWord left).tmod (signedWord right))
  | shr => if right ≥ 16 then 0 else left >>> right
  | shl => if right ≥ 16 then 0 else left <<< right
  | xor => left ^^^ right
  | and => left &&& right
  | or => left ||| right

/-- The warning about a division by zero. -/
def warnings (op : BinaryOp) (right : UInt16) : List Record :=
  if (op == div || op == mod) && right == 0 then
    [.plain .warn s!"{op.mnemonic} by zero; result is 0"]
  else []

/-- Applies an operation to two values. -/
def apply (op : BinaryOp) (left right : Address) : Except Fault (Address × List Record) :=
  -- Only sums and differences make sense of locations.
  match op.onPointers? left right with
  | some value => .ok (value, [])
  | none => do
    let first ← numberFor op.mnemonic left
    let second ← numberFor op.mnemonic right
    return (.number (op.onWords first second), op.warnings second)

end BinaryOp

namespace Comparison

/-- The comparison is one of unsigned numbers. -/
def isUnsigned : Comparison → Bool
  | ugt | uge | ult | ule => true
  | _ => false

/-- Compares two integers. -/
def holds (op : Comparison) (left right : Int) : Bool :=
  match op with
  | eq => left == right
  | ne => left != right
  | gt | ugt => left > right
  | ge | uge => left ≥ right
  | lt | ult => left < right
  | le | ule => left ≤ right

/-- Compares two values by order; locations can only be compared within one segment. -/
def order (op : Comparison) (left right : Address) : Except Fault Bool :=
  -- Offsets in one segment are ordered like unsigned numbers.
  if left.isPointer || right.isPointer then
    if left.segment = right.segment then
      .ok (op.holds left.offset.toNat right.offset.toNat)
    else .error (.invalidOperand op.mnemonic (if left.isPointer then right else left))
  else if op.isUnsigned then .ok (op.holds left.offset.toNat right.offset.toNat)
  else .ok (op.holds (signedWord left.offset) (signedWord right.offset))

/-- Compares two values. -/
def apply (op : Comparison) (left right : Address) : Except Fault Bool :=
  match op with
  | eq => .ok (left == right)
  | ne => .ok (left != right)
  | _ => op.order left right

end Comparison

end AdventureVm
