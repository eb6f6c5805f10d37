import AdventureVm.Text.Utf8

/-! Texts come back out of the bytes that spell them. -/

namespace AdventureVm

/-- A number below 256 is the number of its byte. -/
theorem toNat_byte {number : Nat} (small : number < 256) : (UInt8.ofNat number).toNat = number := by
  rw [UInt8.toNat_ofNat']
  omega

section Reading

variable {lead second third fourth : UInt8} {rest : List UInt8}

/-- A byte continues a character when its number is in the range set aside for that. -/
theorem isContinuation_iff :
    isContinuation second = true ↔ 0x80 ≤ second.toNat ∧ second.toNat < 0xc0 := by
  -- The two high bits are one and zero.
  simp [isContinuation, UInt8.le_iff_toNat_le]
  omega

/-- A character of one byte. -/
theorem leadingChar_one (low : lead.toNat < 0x80) :
    leadingChar lead rest = (Char.ofNat lead.toNat, 0) := by
  have one : lead < 0x80 := by simpa [UInt8.lt_iff_toNat_lt] using low
  simp [leadingChar, one]

/-- A character of two bytes. -/
theorem leadingChar_two (low : 0xc2 ≤ lead.toNat) (high : lead.toNat < 0xe0)
    (continued : isContinuation second = true) :
    leadingChar lead (second :: rest) =
      (Char.ofNat (lead.toNat % 32 * 64 + payload second), 1) := by
  -- The lead is no character of one byte, and it announces two.
  have notOne : ¬ lead < 0x80 := by simp [UInt8.lt_iff_toNat_lt]; omega
  have two : (0xc2 ≤ lead && lead ≤ 0xdf) = true := by
    simp [UInt8.le_iff_toNat_le]
    omega
  simp [leadingChar, notOne, two, continued]

/-- A character of three bytes, the second of which is the sign of no other one. -/
theorem leadingChar_three (low : 0xe0 ≤ lead.toNat) (high : lead.toNat < 0xf0)
    (continued : isContinuation second = true) (ended : isContinuation third = true)
    (long : lead.toNat = 0xe0 → 0xa0 ≤ second.toNat)
    (scalar : lead.toNat = 0xed → second.toNat < 0xa0) :
    leadingChar lead (second :: third :: rest) =
      (Char.ofNat (lead.toNat % 16 * 4096 + payload second * 64 + payload third), 2) := by
  have notOne : ¬ lead < 0x80 := by simp [UInt8.lt_iff_toNat_lt]; omega
  have notTwo : ¬ (0xc2 ≤ lead && lead ≤ 0xdf) = true := by
    simp [UInt8.le_iff_toNat_le]
    omega
  have three : (0xe0 ≤ lead && lead ≤ 0xef) = true := by
    simp [UInt8.le_iff_toNat_le]
    omega
  have range := isContinuation_iff.mp continued
  have proper : secondOfThree lead second = true := by
    -- Two leads set a limit of their own to the second byte.
    rw [secondOfThree]
    split
    · simp_all [UInt8.le_iff_toNat_le]
      omega
    · split
      · simp_all [UInt8.le_iff_toNat_le]
        omega
      · exact continued
  simp [leadingChar, notOne, notTwo, three, proper, ended]

/-- A character of four bytes, the second of which is the sign of no other one. -/
theorem leadingChar_four (low : 0xf0 ≤ lead.toNat) (high : lead.toNat < 0xf5)
    (continued : isContinuation second = true) (further : isContinuation third = true)
    (ended : isContinuation fourth = true) (long : lead.toNat = 0xf0 → 0x90 ≤ second.toNat)
    (scalar : lead.toNat = 0xf4 → second.toNat < 0x90) :
    leadingChar lead (second :: third :: fourth :: rest) =
      (Char.ofNat (lead.toNat % 8 * 262144 + payload second * 4096 + payload third * 64 +
        payload fourth), 3) := by
  -- The first byte rules out the three shorter forms.
  have notOne : ¬ lead < 0x80 := by simp [UInt8.lt_iff_toNat_lt]; omega
  have notTwo : ¬ (0xc2 ≤ lead && lead ≤ 0xdf) = true := by
    simp [UInt8.le_iff_toNat_le]
    omega
  have notThree : ¬ (0xe0 ≤ lead && lead ≤ 0xef) = true := by
    simp [UInt8.le_iff_toNat_le]
    omega
  have four : (0xf0 ≤ lead && lead ≤ 0xf4) = true := by
    simp [UInt8.le_iff_toNat_le]
    omega
  have range := isContinuation_iff.mp continued
  have proper : secondOfFour lead second = true := by
    -- Two leads set a limit of their own to the second byte.
    rw [secondOfFour]
    split
    · simp_all [UInt8.le_iff_toNat_le]
      omega
    · split
      · simp_all [UInt8.le_iff_toNat_le]
        omega
      · exact continued
  simp [leadingChar, notOne, notTwo, notThree, four, proper, further, ended]

end Reading

/-- A byte of the form in which a character is continued, with six bits of it. -/
theorem continuation_of {bits : Nat} (small : bits < 64) :
    isContinuation (UInt8.ofNat (bits + 0x80)) = true ∧
      payload (UInt8.ofNat (bits + 0x80)) = bits ∧
      (UInt8.ofNat (bits + 0x80)).toNat = bits + 0x80 := by
  -- The two high bits are the form, the six low ones the payload.
  have number := toNat_byte (show bits + 0x80 < 256 by omega)
  refine ⟨isContinuation_iff.mpr ?_, ?_, number⟩
  · omega
  · rw [payload, number]
    omega

/-- The bytes of a character are read back, whatever follows them. -/
theorem leadingChar_utf8EncodeChar (c : Char) (rest : List UInt8) :
    ∃ lead more, String.utf8EncodeChar c = lead :: more ∧
      leadingChar lead (more ++ rest) = (c, more.length) := by
  have back : Char.ofNat c.val.toNat = c := Char.ofNat_toNat c
  have scalar : c.val.toNat < 0xd800 ∨ 0xdfff < c.val.toNat ∧ c.val.toNat < 0x110000 := c.valid
  -- A character takes one to four bytes, and each case fixes the range of its number.
  fun_cases String.utf8EncodeChar c with
  | case1 v one =>
    have lead := toNat_byte (show v < 256 by omega)
    refine ⟨_, _, rfl, ?_⟩
    rw [leadingChar_one (by omega), lead, back]
    rfl
  | case2 v many two =>
    have lead := toNat_byte (show v / 64 % 0x20 + 0xc0 < 256 by omega)
    obtain ⟨last, lastBits, _⟩ := continuation_of (Nat.mod_lt v (by decide : 0 < 0x40))
    refine ⟨_, _, rfl, ?_⟩
    rw [List.cons_append, leadingChar_two (by omega) (by omega) last, lead, lastBits,
      show (v / 64 % 0x20 + 0xc0) % 32 * 64 + v % 0x40 = v by omega, back]
    rfl
  -- Here the surrogates are left out, and so the second byte is within its limits.
  | case3 v many more three =>
    have lead := toNat_byte (show v / 4096 % 0x10 + 0xe0 < 256 by omega)
    obtain ⟨middle, middleBits, second⟩ :=
      continuation_of (Nat.mod_lt (v / 64) (by decide : 0 < 0x40))
    obtain ⟨last, lastBits, _⟩ := continuation_of (Nat.mod_lt v (by decide : 0 < 0x40))
    refine ⟨_, _, rfl, ?_⟩
    rw [List.cons_append, List.cons_append, leadingChar_three (by omega) (by omega) middle last
      (by omega) (by omega), lead, middleBits, lastBits,
      show (v / 4096 % 0x10 + 0xe0) % 16 * 4096 + v / 64 % 0x40 * 64 + v % 0x40 = v by omega, back]
    rfl
  | case4 v many more most =>
    have lead := toNat_byte (show v / 262144 % 0x08 + 0xf0 < 256 by omega)
    obtain ⟨middle, middleBits, second⟩ :=
      continuation_of (Nat.mod_lt (v / 4096) (by decide : 0 < 0x40))
    obtain ⟨further, furtherBits, _⟩ :=
      continuation_of (Nat.mod_lt (v / 64) (by decide : 0 < 0x40))
    obtain ⟨last, lastBits, _⟩ := continuation_of (Nat.mod_lt v (by decide : 0 < 0x40))
    refine ⟨_, _, rfl, ?_⟩
    rw [List.cons_append, List.cons_append, List.cons_append, leadingChar_four (by omega) (by omega)
      middle further last (by omega) (by omega), lead, middleBits, furtherBits, lastBits,
      show (v / 262144 % 0x08 + 0xf0) % 8 * 262144 + v / 4096 % 0x40 * 4096 + v / 64 % 0x40 * 64 +
        v % 0x40 = v by omega, back]
    rfl

/-- Bytes that belong to a character already read are passed over. -/
theorem utf8Chars_append (used rest : List UInt8) :
    utf8Chars used.length (used ++ rest) = utf8Chars 0 rest := by
  -- Induction on the bytes that are passed over.
  induction used with
  | nil => rfl
  | cons byte used ih =>
    rw [List.length_cons, List.cons_append, utf8Chars, ih]

/-- Characters come back out of the bytes that spell them. -/
theorem utf8Chars_flatMap (chars : List Char) :
    utf8Chars 0 (chars.flatMap String.utf8EncodeChar) = chars := by
  induction chars with
  | nil => rfl
  | cons c chars ih =>
    obtain ⟨lead, more, bytes, read⟩ :=
      leadingChar_utf8EncodeChar c (chars.flatMap String.utf8EncodeChar)
    -- The rest of the bytes does not change how the first character is read.
    rw [List.flatMap_cons, bytes, List.cons_append, utf8Chars, read]
    simp only
    rw [utf8Chars_append, ih]

/-- A text comes back out of its bytes. -/
theorem utf8Text_toUTF8 (text : String) : utf8Text text.toUTF8.data = text := by
  -- The bytes are those of its characters one after the other.
  have bytes : text.toUTF8.data.toList = text.toList.flatMap String.utf8EncodeChar := by
    rw [String.toUTF8, ← String.utf8Encode_toList, List.utf8Encode, List.toList_data_toByteArray]
  rw [utf8Text, bytes, utf8Chars_flatMap, String.ofList_toList]

end AdventureVm
