import AdventureVm.Bytes

/-! Blocks of raw bytes and the fixed table of scratch texts. -/

namespace AdventureVm

/-- Raw bytes with a description of what they are for. -/
structure Block where
  /-- What the block is for. -/
  description : String
  /-- The bytes themselves. -/
  data : Bytes
deriving Repr, DecidableEq, Inhabited

namespace Block

/-- A block of zero bytes. -/
def zeros (size : Nat) (description : String) : Block :=
  ⟨description, Array.replicate size 0⟩

/-- The number of bytes. -/
def size (block : Block) : Nat :=
  block.data.size

/-- The bytes of a range, when all of it lies inside the block. -/
def read? (block : Block) (offset count : Nat) : Option Bytes :=
  slice? block.data offset count

/-- Replaces the bytes of a range, when all of it lies inside the block. -/
def write? (block : Block) (offset : Nat) (value : Bytes) : Option Block :=
  (splice? block.data offset value).map fun data => { block with data }

end Block

/-- A text of bounded length that the machine's services share. -/
structure ScratchText where
  /-- What the text is for. -/
  name : String
  /-- The bytes, of which those before the first zero are the text. -/
  data : Bytes
deriving Repr, DecidableEq, Inhabited

namespace ScratchText

/-- The number of bytes set aside for a text, its final zero included. -/
def capacity : Nat := 1024

/-- A text with nothing in it. -/
def empty (name : String) : ScratchText :=
  ⟨name, Array.replicate capacity 0⟩

/-- The bytes of the text. -/
def value (text : ScratchText) : Bytes :=
  beforeZero text.data

/-- Replaces the text, cut so that a final zero still fits. -/
def set (text : ScratchText) (value : Bytes) : ScratchText :=
  -- The text may itself hold a zero, at which reading it stops.
  let kept := value.extract 0 (capacity - 1)
  { text with data := kept ++ Array.replicate (capacity - kept.size) 0 }

end ScratchText

/-- The scratch texts, each addressed by its position. -/
abbrev ScratchTexts := Array ScratchText

/-- The four scratch texts with nothing in them. -/
def ScratchTexts.fresh : ScratchTexts :=
  #[.empty "savedir", .empty "parser-base", .empty "scratch-1", .empty "scratch-2"]

end AdventureVm
