import AdventureVm.Text.CodeRange

/-! White space. -/

namespace AdventureVm

/-- White space in the sense of the Unicode property of that name. -/
def blank : CharSet where
  ranges :=
    [⟨0x9, 0xd⟩, ⟨0x20, 0x20⟩, ⟨0x85, 0x85⟩, ⟨0xa0, 0xa0⟩, ⟨0x1680, 0x1680⟩, ⟨0x2000, 0x200a⟩,
      ⟨0x2028, 0x2029⟩, ⟨0x202f, 0x202f⟩, ⟨0x205f, 0x205f⟩, ⟨0x3000, 0x3000⟩]
  ascending := by decide +kernel

/-- Whether a character is white space. -/
def isBlank (c : Char) : Bool :=
  blank.contains c

end AdventureVm
