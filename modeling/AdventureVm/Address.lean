import AdventureVm.Text

/-! Values of the machine: a location in a memory segment, or a plain number. -/

namespace AdventureVm

/-- The number under which a memory segment is known. -/
abbrev SegmentId := UInt16

/-- A location in a segment, or the number in the offset when the segment is zero. -/
structure Address where
  /-- The segment, or zero for a number. -/
  segment : SegmentId
  /-- The place inside the segment, or the number itself. -/
  offset : UInt16
deriving Repr, DecidableEq, Hashable, Inhabited

/-- The sixteen bits of an integer, modulo 65536. -/
def wordOfInt (value : Int) : UInt16 :=
  UInt16.ofNat (value % 65536).toNat

/-- The integer a word stands for in two's complement. -/
def signedWord (word : UInt16) : Int :=
  if word.toNat < 32768 then word.toNat else (word.toNat : Int) - 65536

/-- The integer a byte stands for in two's complement. -/
def signedByte (byte : UInt8) : Int :=
  if byte.toNat < 128 then byte.toNat else (byte.toNat : Int) - 256

namespace Address

/-- The number zero, which is also the reference to nothing. -/
def null : Address := ⟨0, 0⟩

/-- A plain number. -/
def number (value : UInt16) : Address := ⟨0, value⟩

/-- A natural number, modulo 65536. -/
def ofNat (value : Nat) : Address := number (UInt16.ofNat value)

/-- An integer in two's complement, modulo 65536. -/
def ofInt (value : Int) : Address := number (wordOfInt value)

/-- One for true and zero for false. -/
def ofBool (value : Bool) : Address := number (if value then 1 else 0)

/-- The value is a number and not a location. -/
def isNumber (address : Address) : Bool := address.segment == 0

/-- The value is a location in some segment. -/
def isPointer (address : Address) : Bool := address.segment != 0

/-- The value is zero. -/
def isNull (address : Address) : Bool := address.segment == 0 && address.offset == 0

/-- The value counts as true for a branch. -/
def isTruthy (address : Address) : Bool := !address.isNull

/-- The unsigned number, unless the value is a location. -/
def toWord? (address : Address) : Option UInt16 :=
  if address.isNumber then some address.offset else none

/-- The signed number, unless the value is a location. -/
def toInt? (address : Address) : Option Int :=
  address.toWord?.map signedWord

/-- Moves the offset within its segment, modulo 65536. -/
def shift (address : Address) (delta : Int) : Address :=
  { address with offset := wordOfInt (address.offset.toNat + delta) }

/-- Segments are compared first, then offsets. -/
def order (left right : Address) : Ordering :=
  match compare left.segment.toNat right.segment.toNat with
  | .eq => compare left.offset.toNat right.offset.toNat
  | different => different

/-- Four hexadecimal digits for the segment and four for the offset. -/
def text (address : Address) : String :=
  hexText 4 address.segment.toNat ++ ":" ++ hexText 4 address.offset.toNat

end Address

instance : ToString Address := ⟨Address.text⟩

end AdventureVm
