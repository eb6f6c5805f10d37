import AdventureVm.Object.Parse
import AdventureVm.Text.Utf8

/-! Scripts in memory. -/

namespace AdventureVm

/-- A word of the player's language that stands for another one. -/
structure Synonym where
  /-- The word that is replaced. -/
  replaced : UInt16
  /-- The word that takes its place. -/
  replacement : UInt16
deriving Repr, DecidableEq, Inhabited

/-- A script with its objects, and who still needs it. -/
structure Script where
  /-- The number of the script. -/
  number : UInt16
  /-- The segment the script is in. -/
  segment : SegmentId := 0
  /-- The bytes of the script, followed by its heap part or by room for its local variables. -/
  data : Bytes := #[]
  /-- The number of bytes of the script part. -/
  scriptSize : Nat := 0
  /-- Where what follows the script part starts. -/
  heapStart : Nat := 0
  /-- The offsets that other scripts may call or refer to. -/
  exports : Array UInt16 := #[]
  /-- The synonyms that the script declares. -/
  synonyms : Array Synonym := #[]
  /-- The objects in the order in which they were found. -/
  objects : Array Object := #[]
  /-- The segment of the local variables, or zero. -/
  localsSegment : SegmentId := 0
  /-- The parts of the buffer that hold code, each from its start up to its end. -/
  codeRanges : List (Nat × Nat) := []
  /--
  The number of users of the script.

  It has no bound here. Where it is kept in thirty-two bits, `Store.lockers_le` says that they do.
  -/
  lockers : Nat := 0
  /-- The collector may remove the script. -/
  markedDeleted : Bool := false
  /-- The script has locked the scripts of its superclasses. -/
  holdsSuperclasses : Bool := false
deriving Repr, Inhabited

namespace Script

/-- A script without contents. -/
def empty (number : UInt16) : Script :=
  { number }

/-- The number of bytes in the buffer. -/
def size (script : Script) : Nat :=
  script.data.size

/-- The address of an export. -/
def export? (script : Script) (index : Nat) : Option Address :=
  script.exports[index]?.map fun offset => ⟨script.segment, offset⟩

/-- The position, among the objects, of the one whose properties start at an offset. -/
def objectIndex? (script : Script) (offset : UInt16) : Option Nat :=
  script.objects.findIdx? (·.pos.offset == offset)

/-- The object whose properties start at an offset. -/
def objectAt? (script : Script) (offset : UInt16) : Option Object :=
  (script.objectIndex? offset).bind (script.objects[·]?)

/-- Changes the object whose properties start at an offset, if there is one. -/
def modifyObject (script : Script) (offset : UInt16) (change : Object → Object) : Script :=
  match script.objectIndex? offset with
  | some index => { script with objects := script.objects.modify index change }
  | none => script

/-- Reads the record at an offset, unless that was done before; answers its position. -/
def instantiateObject (script : Script) (version : Version) (offset : UInt16) :
    Except Fault (Nat × Script) :=
  match script.objectIndex? offset with
  | some index => .ok (index, script)
  | none => do
    -- The index is where the object will be once it is added.
    let object ← Object.parse version ⟨script.number, script.data⟩ script.segment
      script.scriptSize offset.toNat
    return (script.objects.size, { script with objects := script.objects.push object })

/-- The text that starts at an offset of the buffer and ends before a zero byte. -/
def text? (script : Script) (offset : Nat) : Option String :=
  if offset ≤ script.data.size then
    some (utf8Text (beforeZero (script.data.extract offset script.data.size)))
  else none

/-- The script with one user more. -/
def lock (script : Script) : Script :=
  { script with lockers := script.lockers + 1 }

/-- The script with one user less, if it has any. -/
def unlock (script : Script) : Script :=
  { script with lockers := script.lockers - 1 }

/-- The script, marked for the collector or no longer so. -/
def mark (script : Script) (deleted : Bool) : Script :=
  { script with markedDeleted := deleted }

/-- Removes repetitions that follow each other directly. -/
def withoutRepeats : List UInt16 → List UInt16
  | [] => []
  | [value] => [value]
  | first :: second :: rest =>
    if first = second then withoutRepeats (second :: rest)
    else first :: withoutRepeats (second :: rest)

/-- The superclass species of the objects, each run of equal ones once. -/
def superclasses (script : Script) : List UInt16 :=
  withoutRepeats ((script.objects.toList.filter (·.hasSuperclass)).map (·.superclass))

end Script

end AdventureVm
