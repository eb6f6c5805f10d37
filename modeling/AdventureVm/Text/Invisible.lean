import AdventureVm.Text.CodeRange

/-! Characters that leave no ink of their own, by the properties of Unicode 17. -/

namespace AdventureVm

/-- The ranges of the characters without ink. -/
def invisibleRanges : List CodeRange :=
  [⟨0x0, 0x1f⟩, ⟨0x7f, 0xa0⟩, ⟨0xad, 0xad⟩, ⟨0x34f, 0x34f⟩, ⟨0x600, 0x605⟩, ⟨0x61c, 0x61c⟩,
    ⟨0x6dd, 0x6dd⟩, ⟨0x70f, 0x70f⟩, ⟨0x890, 0x891⟩, ⟨0x8e2, 0x8e2⟩, ⟨0x115f, 0x1160⟩,
    ⟨0x1680, 0x1680⟩, ⟨0x17b4, 0x17b5⟩, ⟨0x180b, 0x180f⟩, ⟨0x2000, 0x200f⟩, ⟨0x2028, 0x202f⟩,
    ⟨0x205f, 0x206f⟩, ⟨0x3000, 0x3000⟩, ⟨0x3164, 0x3164⟩, ⟨0xe000, 0xf8ff⟩, ⟨0xfe00, 0xfe0f⟩,
    ⟨0xfeff, 0xfeff⟩, ⟨0xffa0, 0xffa0⟩, ⟨0xfff0, 0xfffb⟩, ⟨0x110bd, 0x110bd⟩, ⟨0x110cd, 0x110cd⟩,
    ⟨0x13430, 0x1343f⟩, ⟨0x1bca0, 0x1bca3⟩, ⟨0x1d173, 0x1d17a⟩, ⟨0xe0000, 0xe0fff⟩,
    ⟨0xf0000, 0xffffd⟩, ⟨0x100000, 0x10fffd⟩]

/--
Controls, formats, separators other than the blank, characters of private use, and what a display
passes over by default.
-/
def invisible : CharSet where
  ranges := invisibleRanges
  ascending := by decide +kernel

end AdventureVm
