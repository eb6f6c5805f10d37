import AdventureVm.Text

/-! Hexadecimal text reads back as the number that it was written for. -/

namespace AdventureVm

/-- The value of a lower-case hexadecimal digit. -/
def digitValue? (digit : Char) : Option Nat :=
  if '0' ≤ digit ∧ digit ≤ '9' then some (digit.toNat - '0'.toNat)
  else if 'a' ≤ digit ∧ digit ≤ 'f' then some (digit.toNat - 'a'.toNat + 10)
  else none

/-- The number that digits stand for, given the number of those in front of them. -/
def digitsValue? (front : Nat) : List Char → Option Nat
  | [] => some front
  | digit :: rest => (digitValue? digit).bind fun value => digitsValue? (16 * front + value) rest

/-- The number that a hexadecimal text stands for, if the text is one. -/
def hexValue? (text : String) : Option Nat :=
  match text.toList with
  | [] => none
  | digits => digitsValue? 0 digits

/-- Each of the sixteen digits reads back as its own value. -/
theorem digitValue?_hexDigit {value : Nat} (small : value < 16) :
    digitValue? (hexDigit value) = some value := by
  -- There are only sixteen digits to go through.
  have each : ∀ digit : Fin 16, digitValue? (hexDigit digit) = some digit.val := by decide +kernel
  exact each ⟨value, small⟩

/-- Digits are read one part after the other. -/
theorem digitsValue?_append (front : Nat) (first second : List Char) :
    digitsValue? front (first ++ second) =
      (digitsValue? front first).bind fun value => digitsValue? value second := by
  induction first generalizing front with
  | nil => rfl
  | cons digit rest ih =>
    -- The first digit has a value, or both sides have none.
    rw [List.cons_append, digitsValue?, digitsValue?]
    cases digitValue? digit with
    | none => rfl
    | some value => exact ih (16 * front + value)

/-- Zeros in front of a number do not change it. -/
theorem digitsValue?_zeros (count : Nat) (digits : List Char) :
    digitsValue? 0 (List.replicate count '0' ++ digits) = digitsValue? 0 digits := by
  -- Induction on the zeros: the value read so far stays zero.
  induction count with
  | zero => rfl
  | succ count ih => exact ih

/-- The digits of a number read back as the number. -/
theorem digitsValue?_hexDigits (value : Nat) : digitsValue? 0 (hexDigits value) = some value := by
  -- All digits but the last are those of a smaller number.
  induction value using Nat.strongRecOn with
  | ind value ih =>
    rw [hexDigits]
    split
    · rename_i small
      rw [digitsValue?, digitValue?_hexDigit small]
      simp [digitsValue?]
    · rename_i large
      have smaller : value / 16 < value := by omega
      have last : value % 16 < 16 := Nat.mod_lt value (by decide)
      rw [digitsValue?_append, ih _ smaller, Option.bind_some, digitsValue?,
        digitValue?_hexDigit last, Option.bind_some, digitsValue?, Nat.div_add_mod]

/-- A number has at least one digit. -/
theorem hexDigits_ne_nil (value : Nat) : hexDigits value ≠ [] := by
  -- There is one digit alone, or one at the end.
  rw [hexDigits]
  split <;> simp

/-- Hexadecimal text reads back as the number, however wide it was made. -/
theorem hexValue?_hexText (width value : Nat) : hexValue? (hexText width value) = some value := by
  have text : (hexText width value).toList =
      List.replicate (width - (hexDigits value).length) '0' ++ hexDigits value :=
    String.toList_ofList
  have reads := digitsValue?_hexDigits value
  rw [← digitsValue?_zeros (width - (hexDigits value).length), ← text] at reads
  unfold hexValue?
  split
  · -- There are digits to be read.
    rename_i empty
    rw [empty] at text
    exact absurd (List.append_eq_nil_iff.mp text.symm).2 (hexDigits_ne_nil value)
  · exact reads

/-- How many numbers have no more digits than a width. -/
def digitLimit : Nat → Nat
  | 0 => 1
  | width + 1 => 16 * digitLimit width

/-- A number has no more digits than it takes places. -/
theorem length_hexDigits_le {width value : Nat} (small : value < digitLimit (width + 1)) :
    (hexDigits value).length ≤ width + 1 := by
  induction width generalizing value with
  | zero =>
    rw [hexDigits, dif_pos (show value < 16 from small)]
    simp
  | succ width ih =>
    rw [hexDigits]
    split
    · simp
    · -- One place less is left for the digits in front of the last.
      have fewer := ih (Nat.div_lt_of_lt_mul small)
      rw [List.length_append, List.length_singleton]
      omega

/-- Text that is wide enough for a number is as wide as it was to be made. -/
theorem length_hexText {width value : Nat} (small : value < digitLimit (width + 1)) :
    (hexText (width + 1) value).length = width + 1 := by
  -- The digits are no more than the width, and zeros fill what is left of it.
  have fits := length_hexDigits_le small
  rw [hexText, String.length_ofList, List.length_append, List.length_replicate]
  omega

end AdventureVm
