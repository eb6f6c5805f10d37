import AdventureVm.Bytes

/-! The two script formats and the places at which each keeps what. -/

namespace AdventureVm

/-- The family of formats a game's scripts are stored in. -/
inductive Version where
  /-- One resource made of typed blocks. -/
  | sci0
  /-- A script resource and a heap resource that share one buffer. -/
  | sci11
deriving Repr, DecidableEq, Inhabited

namespace Version

/-- The short name of a version. -/
def name : Version → String
  | sci0 => "sci0"
  | sci11 => "sci11"

/-- The version that a text names, letter case aside. -/
def ofText? (text : String) : Except String Version :=
  let lower := String.ofList (text.toList.map Char.toLower)
  if lower = "sci0" ∨ lower = "0" then .ok sci0
  else if lower = "sci11" ∨ lower = "sci1.1" ∨ lower = "1.1" then .ok sci11
  else .error s!"unknown script version '{lower}'"

end Version

/-- The kinds of block a script of the first format is made of. -/
inductive BlockKind where
  | terminator
  | object
  | code
  | synonyms
  | said
  | strings
  | classes
  | exports
  | pointers
  | preloadText
  | localVars
deriving Repr, DecidableEq, Inhabited

namespace BlockKind

/-- The kinds in the order of their codes, which count from zero. -/
def all : List BlockKind :=
  [terminator, object, code, synonyms, said, strings, classes, exports, pointers, preloadText,
    localVars]

/-- The kind a code word stands for. -/
def ofWord? (word : UInt16) : Option BlockKind :=
  all[word.toNat]?

/-- The code word of a kind. -/
def toWord : BlockKind → UInt16
  | terminator => 0
  | object => 1
  | code => 2
  | synonyms => 3
  | said => 4
  | strings => 5
  | classes => 6
  | exports => 7
  | pointers => 8
  | preloadText => 9
  | localVars => 10

/-- The word for a kind of block. -/
def name : BlockKind → String
  | terminator => "Terminator"
  | object => "Object"
  | code => "Code"
  | synonyms => "Synonyms"
  | said => "Said"
  | strings => "Strings"
  | classes => "Class"
  | exports => "Exports"
  | pointers => "Pointers"
  | preloadText => "PreloadText"
  | localVars => "LocalVars"

end BlockKind

/-- Where a format keeps the parts of a script and of its objects. -/
structure Layout where
  /-- The version these places belong to. -/
  version : Version
  /-- The number of bytes before the first block or the export table. -/
  headerSize : Nat
  /-- The property that holds an object's species. -/
  speciesSlot : Nat
  /-- The property that holds the species of an object's superclass. -/
  superclassSlot : Nat
  /-- The property that holds an object's flags. -/
  infoSlot : Nat
  /-- The property that holds the address of an object's name. -/
  nameSlot : Nat
  /-- The fewest properties an object can have. -/
  minProperties : Nat
  /-- The number of bytes between the body of an object's block and its first property. -/
  objectHeaderSize : Nat
  /-- Offsets loaded by code count from the start of the buffer, not from the next instruction. -/
  absoluteOffsets : Bool
deriving Repr, DecidableEq

/-- The places of each version. -/
def Version.layout : Version → Layout
  | .sci0 => ⟨.sci0, 4, 0, 1, 2, 3, 4, 8, false⟩
  | .sci11 => ⟨.sci11, 8, 5, 6, 7, 8, 9, 0, true⟩

/-- Unless a game says otherwise, its scripts have the first format. -/
instance : Inhabited Layout := ⟨Version.sci0.layout⟩

/-- The number of local variables that the first word of a script declares. -/
def declaredLocals? (script : Bytes) : Option Nat :=
  (word? script 0).map UInt16.toNat

/-- The bytes added after the script part so that the heap part starts at an even offset. -/
def heapPadding (scriptSize : Nat) : Nat :=
  scriptSize % 2

/-- The word that opens every object record. -/
def objectMagic : UInt16 := 0x1234

/-- The flag that marks a class. -/
def classFlag : UInt16 := 0x8000

/-- The flag that marks a clone. -/
def cloneFlag : UInt16 := 0x0001

/-- The superclass species of an object that has no superclass. -/
def noSuperclass : UInt16 := 0xffff

/-- The largest number of bytes a segment can address. -/
def segmentLimit : Nat := 65536

/-- The script whose local variables are the global variables. -/
def globalsScript : UInt16 := 0

end AdventureVm
