import AdventureVm.Bytes

/-! Reading bytes as UTF-8 text in which every ill-formed part shows as a replacement character. -/

namespace AdventureVm

/-- The character that stands for an ill-formed part. -/
def replacement : Char := Char.ofNat 0xfffd

/-- A byte that continues a longer sequence. -/
def isContinuation (byte : UInt8) : Bool :=
  0x80 ≤ byte && byte ≤ 0xbf

/-- The second byte that a three-byte lead admits: neither overlong forms nor surrogates. -/
def secondOfThree (lead byte : UInt8) : Bool :=
  if lead == 0xe0 then 0xa0 ≤ byte && byte ≤ 0xbf
  else if lead == 0xed then 0x80 ≤ byte && byte ≤ 0x9f
  else isContinuation byte

/-- The second byte after a four-byte lead: no overlong forms, nothing past the last plane. -/
def secondOfFour (lead byte : UInt8) : Bool :=
  if lead == 0xf0 then 0x90 ≤ byte && byte ≤ 0xbf
  else if lead == 0xf4 then 0x80 ≤ byte && byte ≤ 0x8f
  else isContinuation byte

/-- The six payload bits of a continuation byte. -/
def payload (byte : UInt8) : Nat :=
  byte.toNat % 64

/--
The character that starts a byte sequence and the number of further bytes it uses.

An ill-formed start uses up the longest part that some well-formed sequence begins with.
-/
def leadingChar (lead : UInt8) (rest : List UInt8) : Char × Nat :=
  if lead < 0x80 then (Char.ofNat lead.toNat, 0)
  -- The leads 0xc0 and 0xc1 could only spell what one byte spells.
  else if 0xc2 ≤ lead && lead ≤ 0xdf then
    match rest with
    | second :: _ =>
      if isContinuation second then
        (Char.ofNat (lead.toNat % 32 * 64 + payload second), 1)
      else (replacement, 0)
    | [] => (replacement, 0)
  else if 0xe0 ≤ lead && lead ≤ 0xef then
    match rest with
    | second :: more =>
      if secondOfThree lead second then
        match more with
        | third :: _ =>
          if isContinuation third then
            (Char.ofNat (lead.toNat % 16 * 4096 + payload second * 64 + payload third), 2)
          else (replacement, 1)
        | [] => (replacement, 1)
      else (replacement, 0)
    | [] => (replacement, 0)
  -- A lead past 0xf4 would spell a number past 0x10ffff.
  else if 0xf0 ≤ lead && lead ≤ 0xf4 then
    match rest with
    | second :: more =>
      if secondOfFour lead second then
        match more with
        | third :: last =>
          if isContinuation third then
            match last with
            | fourth :: _ =>
              if isContinuation fourth then
                (Char.ofNat (lead.toNat % 8 * 262144 + payload second * 4096 +
                  payload third * 64 + payload fourth), 3)
              else (replacement, 2)
            | [] => (replacement, 2)
          else (replacement, 1)
        | [] => (replacement, 1)
      else (replacement, 0)
    | [] => (replacement, 0)
  else (replacement, 0)

/-- Decodes a byte list of which the first `skip` bytes belong to a character already read. -/
def utf8Chars : Nat → List UInt8 → List Char
  | _, [] => []
  | skip + 1, _ :: rest => utf8Chars skip rest
  | 0, lead :: rest =>
    let (c, used) := leadingChar lead rest
    c :: utf8Chars used rest

/-- The text that bytes spell in UTF-8, with replacement characters for ill-formed parts. -/
def utf8Text (data : Bytes) : String :=
  String.ofList (utf8Chars 0 data.toList)

end AdventureVm
