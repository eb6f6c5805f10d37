import AdventureVm.Assembly.Basic

/-! Filling in the open operands of assembled code. -/

namespace AdventureVm

/-- Why a script cannot be built. -/
inductive BuildError where
  /-- A jump or call leads to a label without a position. -/
  | unboundLabel (label : Label)
  /-- An export names a label without a position. -/
  | unboundExport
  /-- A method names a label without a position. -/
  | unboundMethod
  /-- The script has no object of this name. -/
  | unknownObject (name : String)
  /-- The script has no such text. -/
  | unknownText (text : String)
  /-- An operand is too large or too small. -/
  | operandRange (value : Int) (offset : Nat)
  /-- The resources are too large for one segment. -/
  | tooLarge (size : Nat)
deriving Repr, DecidableEq, Inhabited

/-- What the user is told. -/
def BuildError.message (error : BuildError) : String :=
  let cause := match error with
    | unboundLabel label => s!"label {label} is not bound"
    | unboundExport => "exported label is not bound"
    | unboundMethod => "method label is not bound"
    | unknownObject name => s!"unknown object '{name}'"
    | unknownText text => s!"unknown string '{text}'"
    | operandRange value offset => s!"operand {value} at 0x{hexText 4 offset} does not fit a word"
    | tooLarge size => s!"script is {size} bytes"
  "Script build error: " ++ cause

/-- Where the objects and texts of a script are. -/
structure Places where
  /-- The objects by name; of two with one name the later counts. -/
  objects : List (String × Nat) := []
  /-- The texts. -/
  texts : List (String × Nat) := []
deriving Repr, Inhabited

namespace Places

/-- The place of the last entry with a name. -/
def last? (name : String) (entries : List (String × Nat)) : Option Nat :=
  (entries.reverse.find? (·.1 == name)).map (·.2)

/-- The place of an object. -/
def object (places : Places) (name : String) : Except BuildError Nat :=
  match last? name places.objects with
  | some place => .ok place
  | none => .error (.unknownObject name)

/-- The place of a text. -/
def text (places : Places) (text : String) : Except BuildError Nat :=
  match last? text places.texts with
  | some place => .ok place
  | none => .error (.unknownText text)

/-- All places moved by a distance. -/
def shift (places : Places) (distance : Nat) : Places :=
  { objects := places.objects.map fun (name, place) => (name, distance + place)
    texts := places.texts.map fun (text, place) => (text, distance + place) }

end Places

namespace Assembly

/-- The place that an open operand names, either as it is or counted from the next instruction. -/
def offsetValue (base : Nat) (absolute : Bool) (next place : Nat) : Int :=
  if absolute then place else (place : Int) - (base + next : Nat)

/-- The value of an open operand when the code starts at a base. -/
def referenceValue (assembly : Assembly) (base : Nat) (absolute : Bool) (places : Places)
    (reference : Reference) : Except BuildError Int :=
  -- Labels are distances from the next instruction, objects and texts depend on the format.
  match reference.target with
  | .value word => .ok word.toNat
  | .label label =>
    match assembly.position? label with
    | some position => .ok ((position : Int) - reference.next)
    | none => .error (.unboundLabel label)
  | .object name => (places.object name).map (offsetValue base absolute reference.next)
  | .text text => (places.text text).map (offsetValue base absolute reference.next)

/-- Fills in one open operand; it may be read as a signed or as an unsigned word. -/
def fill (assembly : Assembly) (base : Nat) (absolute : Bool) (places : Places) (code : Bytes)
    (reference : Reference) : Except BuildError Bytes := do
  let value ← assembly.referenceValue base absolute places reference
  -- Both readings of a word are allowed; the machine counts modulo 65536 in any case.
  if value < -32768 ∨ 65535 < value then
    throw (.operandRange value reference.offset)
  return overwrite code reference.offset (wordBytes (wordOfInt value)).toList

/-- The code with all operands filled in, for a place at which it starts. -/
def link (assembly : Assembly) (base : Nat) (absolute : Bool) (places : Places) :
    Except BuildError Bytes :=
  assembly.references.toList.foldlM (assembly.fill base absolute places) assembly.code

end Assembly

end AdventureVm
