/-! Byte buffers and the little-endian words read from and written into them. -/

namespace AdventureVm

/-- A contiguous run of bytes. -/
abbrev Bytes := Array UInt8

/-- The size of parts that follow one another. -/
def totalSize : List Nat → Nat
  | [] => 0
  | size :: rest => size + totalSize rest

/-- The word whose low byte comes first. -/
def wordOf (low high : UInt8) : UInt16 :=
  UInt16.ofNat (low.toNat + 256 * high.toNat)

/-- The low byte of a word. -/
def lowByte (word : UInt16) : UInt8 :=
  UInt8.ofNat (word.toNat % 256)

/-- The high byte of a word. -/
def highByte (word : UInt16) : UInt8 :=
  UInt8.ofNat (word.toNat / 256)

/-- The two bytes of a word, low byte first. -/
def wordBytes (word : UInt16) : Bytes :=
  #[lowByte word, highByte word]

/-- The word at an offset, when both of its bytes lie inside the buffer. -/
def word? (data : Bytes) (offset : Nat) : Option UInt16 :=
  match data[offset]?, data[offset + 1]? with
  | some low, some high => some (wordOf low high)
  | _, _ => none

/-- The bytes of a range, when the whole range lies inside the buffer. -/
def slice? (data : Bytes) (start count : Nat) : Option Bytes :=
  if start + count ≤ data.size then some (data.extract start (start + count)) else none

/-- Overwrites the bytes of a buffer from an offset on; what would land past its end is dropped. -/
def overwrite (data : Bytes) (offset : Nat) : List UInt8 → Bytes
  | [] => data
  | byte :: rest => overwrite (data.setIfInBounds offset byte) (offset + 1) rest

/-- Replaces a range of the buffer, when the whole range lies inside it. -/
def splice? (data : Bytes) (offset : Nat) (value : Bytes) : Option Bytes :=
  if offset + value.size ≤ data.size then some (overwrite data offset value.toList) else none

/-- Stores a word at an offset, when both of its bytes lie inside the buffer. -/
def setWord? (data : Bytes) (offset : Nat) (word : UInt16) : Option Bytes :=
  splice? data offset (wordBytes word)

/-- The bytes before the first zero byte, or all of them when there is none. -/
def beforeZero (data : Bytes) : Bytes :=
  data.takeWhile (· != 0)

/-- A zero byte ends the text that starts the buffer. -/
def isTerminated (data : Bytes) : Bool :=
  data.contains 0

/-- Writing into a buffer leaves its size alone. -/
@[simp] theorem size_overwrite (data : Bytes) (offset : Nat) (value : List UInt8) :
    (overwrite data offset value).size = data.size := by
  -- Each step replaces one byte, so the size stays quantified over the changing buffer.
  induction value generalizing data offset with
  | nil => rfl
  | cons byte rest ih => simp [overwrite, ih]

/-- A word is rebuilt from its two bytes. -/
@[simp] theorem wordOf_bytes (word : UInt16) : wordOf (lowByte word) (highByte word) = word := by
  -- A number below 65536 is its remainder by 256 plus 256 times its quotient.
  have bound := word.toNat_lt
  apply UInt16.toNat_inj.mp
  simp [wordOf, lowByte, highByte]
  omega

/-- The two bytes of a word are recovered from it. -/
@[simp] theorem bytes_wordOf (low high : UInt8) :
    lowByte (wordOf low high) = low ∧ highByte (wordOf low high) = high := by
  -- Both bytes are below 256, so quotient and remainder by 256 separate them.
  have lowBound := low.toNat_lt
  have highBound := high.toNat_lt
  constructor
  · apply UInt8.toNat_inj.mp
    simp [wordOf, lowByte]
  · apply UInt8.toNat_inj.mp
    simp [wordOf, highByte]
    omega

end AdventureVm
