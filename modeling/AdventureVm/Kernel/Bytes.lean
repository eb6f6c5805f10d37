import AdventureVm.Kernel.Arguments
import AdventureVm.Memory.Records

/-! Kernel functions on raw memory and texts. -/

namespace AdventureVm

/-- The difference of the first bytes that differ, a missing byte counting as zero, or zero. -/
def textDifference (left right : Bytes) (limit : Option Nat) : Int :=
  -- Past the end of both texts every difference is zero.
  let longer := max left.size right.size
  let count := limit.elim longer (min longer)
  let difference (index : Nat) : Int :=
    ((left.getD index 0).toNat : Int) - ((right.getD index 0).toNat : Int)
  (((List.range count).find? fun index => difference index ≠ 0).map difference).getD 0

namespace KernelCall

/-- Copies bytes, which are all read before the first is written. -/
def copyBytes (target source : Address) (count : Nat) : StoreM Unit := do
  let data ← StoreM.require (·.readBytes source count)
  StoreM.attempt (·.writeBytes target data)

/-- Allocates, frees, copies, reads or writes raw memory, as the first argument says. -/
def memory (call : KernelCall) : StoreM Address := do
  match ← call.number 0 with
  | 1 | 2 => Store.createDynmem (← call.number 1).toNat call.builtin.name
  | 3 =>
    -- What has no answer leaves the accumulator as it was.
    Store.freeDynmem (← call.argument 1)
    return call.acc
  | 4 =>
    let target ← call.argument 1
    let source ← call.argument 2
    copyBytes target source (← call.number 3).toNat
    return target
  | 5 =>
    let address ← call.argument 1
    StoreM.require (·.readValue address)
  | 6 =>
    let address ← call.argument 1
    let value ← call.argument 2
    Store.writeValue address value
    return call.acc
  | other => call.rejects s!"unknown subfunction {other}"

/-- The length of a text. -/
def strLen (call : KernelCall) : StoreM Address := do
  let text ← Store.readString (← call.argument 0)
  return .ofNat text.size

/-- Compares two texts, up to so many bytes if the call says so. -/
def strCmp (call : KernelCall) : StoreM Address := do
  let left ← Store.readString (← call.argument 0)
  let right ← Store.readString (← call.argument 1)
  let limit ← call.number? 2
  return .ofInt (textDifference left right (limit.map (·.toNat)))

/--
Copies a text.

A positive bound counts the bytes that may be written, the final zero included. A negative bound
copies just so many bytes, whatever they are, and a bound of zero copies nothing.
-/
def strCpy (call : KernelCall) : StoreM Address := do
  let target ← call.argument 0
  let source ← call.argument 1
  match (← call.number? 2).map signedWord with
  | none =>
    let text ← Store.readString source
    StoreM.attempt (·.writeString target text)
  | some bound =>
    if bound < 0 then
      copyBytes target source bound.natAbs
    else if 0 < bound then
      -- One byte of the bound is kept for the final zero.
      let text ← Store.readString source
      StoreM.attempt (·.writeString target (text.extract 0 (bound.toNat - 1)))
  return target

/-- The byte at a position of a text, which is then replaced if the call has a new one. -/
def strAt (call : KernelCall) : StoreM Address := do
  let text ← call.argument 0
  let index := (← call.number 1).toNat
  -- All bytes up to the position are read and written, whatever zeros are among them.
  let data ← StoreM.require (·.readBytes text (index + 1))
  if let some byte ← call.number? 2 then
    StoreM.attempt (·.writeBytes text (data.setIfInBounds index (lowByte byte)))
  return .ofNat (data.getD index 0).toNat

end KernelCall

end AdventureVm
