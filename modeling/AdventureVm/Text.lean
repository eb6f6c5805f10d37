import AdventureVm.Text.Blank

/-! Text formats shared by listings, messages and resource files. -/

namespace AdventureVm

/-- One lower-case hexadecimal digit. -/
def hexDigit (value : Nat) : Char :=
  if value < 10 then Char.ofNat (48 + value) else Char.ofNat (87 + value)

/-- The hexadecimal digits of a number, most significant first. -/
def hexDigits (value : Nat) : List Char :=
  if _small : value < 16 then [hexDigit value]
  else hexDigits (value / 16) ++ [hexDigit (value % 16)]

/-- Lower-case hexadecimal text with zeros in front up to the given width. -/
def hexText (width value : Nat) : String :=
  let digits := hexDigits value
  String.ofList (List.replicate (width - digits.length) '0' ++ digits)

/-- Text followed by blanks up to the given width. -/
def padRight (width : Nat) (text : String) : String :=
  text ++ String.ofList (List.replicate (width - text.length) ' ')

/-- Removes the white space at the end of a character list. -/
def dropBlankEnd (text : List Char) : List Char :=
  (text.reverse.dropWhile isBlank).reverse

/-- Removes the white space at the end of a text. -/
def trimEnd (text : String) : String :=
  String.ofList (dropBlankEnd text.toList)

/-- Removes the white space at both ends of a text. -/
def trim (text : String) : String :=
  String.ofList (dropBlankEnd (text.toList.dropWhile isBlank))

/-- Cuts a character list at every character of a class; the pieces may be empty. -/
def splitChars (cut : Char → Bool) : List Char → List (List Char)
  | [] => [[]]
  | c :: rest =>
    match splitChars cut rest with
    | [] => [[c]]
    | piece :: pieces => if cut c then [] :: piece :: pieces else (c :: piece) :: pieces

/-- The maximal runs of characters that are not white space. -/
def blankSeparated (text : String) : List String :=
  ((splitChars isBlank text.toList).filter (! ·.isEmpty)).map String.ofList

/-- Removes the carriage return that belongs to the end of a line. -/
def dropReturn (line : List Char) : List Char :=
  if line.getLast? = some '\r' then line.dropLast else line

/--
The lines of a text, each ended by a line feed or by a carriage return and a line feed.

What follows the last line feed counts unless it is empty.
-/
def lines (text : String) : List String :=
  let pieces := splitChars (· == '\n') text.toList
  let last := pieces.getLast?.getD []
  let ended := pieces.dropLast.map dropReturn
  (if last.isEmpty then ended else ended ++ [last]).map String.ofList

/-- The lines that messages fill when each is written with a line feed after it. -/
def writtenLines (messages : List String) : List String :=
  messages.flatMap fun message => lines (message ++ "\n")

/-- The value of a decimal digit. -/
def decimalDigit? (c : Char) : Option Nat :=
  if '0' ≤ c ∧ c ≤ '9' then some (c.toNat - 48) else none

/-- The number written by a non-empty run of decimal digits. -/
def decimal? (digits : List Char) : Option Nat :=
  if digits.isEmpty then none
  else digits.foldlM (fun value c => (decimalDigit? c).map (10 * value + ·)) 0

/-- A word written in decimal, with an optional plus sign, when it fits sixteen bits. -/
def parseWord? (text : String) : Option UInt16 := do
  let digits := match text.toList with
    | '+' :: rest => rest
    | all => all
  let value ← decimal? digits
  if value < 65536 then some (UInt16.ofNat value) else none

end AdventureVm
