import AdventureVm.Assembly.Link
import AdventureVm.Format

/-! Definitions from which script resources are built. -/

namespace AdventureVm

/-- The first value of a property or of a local variable. -/
inductive Initial where
  | number (value : UInt16)
  /-- The address of a text of the script. -/
  | text (text : String)
  /-- The address of an object of the script. -/
  | object (name : String)
deriving Repr, DecidableEq, Inhabited

/-- An object or class to be built. -/
structure ObjectDefinition where
  /-- The name of the object. -/
  name : String
  /-- The species of a class, or of the class of an instance. -/
  species : UInt16
  /-- The species of the superclass. -/
  superclass : UInt16
  /-- The object is a class. -/
  isClass : Bool
  /-- Selectors and first values of the properties beyond the fixed ones. -/
  properties : List (UInt16 × Initial) := []
  /-- Selectors and code of the methods. -/
  methods : List (UInt16 × Label) := []
deriving Repr, Inhabited

/-- A class, by default without a superclass. -/
def ObjectDefinition.ofClass (name : String) (species : UInt16) : ObjectDefinition :=
  { name, species, superclass := noSuperclass, isClass := true }

/-- An instance, by default with its own class as superclass. -/
def ObjectDefinition.ofInstance (name : String) (species : UInt16) : ObjectDefinition :=
  { name, species, superclass := species, isClass := false }

/-- What a script offers to other scripts. -/
inductive ExportTarget where
  | code (label : Label)
  | object (name : String)
deriving Repr, DecidableEq, Inhabited

/-- The target is an object. -/
def ExportTarget.isObject : ExportTarget → Bool
  | object _ => true
  | code _ => false

/-- Everything a script is built from. -/
structure ScriptDefinition where
  /-- The format to build. -/
  version : Version
  /-- The number of the script. -/
  number : UInt16
  /-- The code. -/
  assembly : Assembly := {}
  /-- The objects in the order in which they are stored. -/
  objects : List ObjectDefinition := []
  /-- The first values of the local variables. -/
  locals : List Initial := []
  /-- The exports in the order of their numbers. -/
  exports : List ExportTarget := []
  /-- Pairs of a word and the word that replaces it. -/
  synonyms : List (UInt16 × UInt16) := []
deriving Repr, Inhabited

/-- A word of a resource, which may hold an address and then has to be relocated. -/
structure Cell where
  /-- The word. -/
  word : UInt16
  /-- The word is an address. -/
  isPointer : Bool := false
deriving Repr, DecidableEq, Inhabited

namespace Cell

/-- Words that hold no address, modulo 65536. -/
def plain (values : List Nat) : List Cell :=
  values.map fun value => ⟨UInt16.ofNat value, false⟩

/-- The bytes of a row of words. -/
def bytes (cells : List Cell) : Bytes :=
  (cells.flatMap fun cell => [lowByte cell.word, highByte cell.word]).toArray

/-- The offsets of the addresses in a row of words that starts at the given offset. -/
def pointers : Nat → List Cell → List Nat
  | _, [] => []
  | start, cell :: rest =>
    if cell.isPointer then start :: pointers (start + 2) rest else pointers (start + 2) rest

end Cell

/-- The bytes of a row of words that hold no address, modulo 65536. -/
def plainBytes (values : List Nat) : Bytes :=
  Cell.bytes (Cell.plain values)

/-- The bytes of a text as they are stored, with a zero at the end. -/
def textBytes (text : String) : Bytes :=
  text.toUTF8.data.push 0

/-- The bytes of texts one after the other, with a zero more when their number would be odd. -/
def textsBytes (texts : List String) : Bytes :=
  -- What follows the texts has to start at an even place.
  let bytes := (texts.map textBytes).foldl (· ++ ·) #[]
  bytes ++ Array.replicate (bytes.size % 2) 0

/-- The places of items of the given sizes that follow each other from a start on. -/
def running (start : Nat) : List Nat → List Nat
  | [] => []
  | size :: rest => start :: running (start + size) rest

/-- The selector of the first of the fixed properties; the others follow it. -/
def headerSelectors : Nat := 0x1000

namespace ObjectDefinition

/-- The number of properties, the fixed ones included. -/
def propertyCount (object : ObjectDefinition) (version : Version) : Nat :=
  version.layout.minProperties + object.properties.length

/-- The selectors of all properties. -/
def selectors (object : ObjectDefinition) (version : Version) : List Nat :=
  (List.range version.layout.minProperties).map (headerSelectors + ·) ++
    object.properties.map (·.1.toNat)

/-- The flags of the object. -/
def info (object : ObjectDefinition) : Nat :=
  if object.isClass then classFlag.toNat else 0

/-- The texts that the object needs: its name, then those of its properties. -/
def texts (object : ObjectDefinition) : List String :=
  object.name :: object.properties.filterMap fun (_, value) =>
    match value with
    | .text text => some text
    | _ => none

end ObjectDefinition

/-- The word of a first value; texts and objects are addresses. -/
def Places.cell (places : Places) : Initial → Except BuildError Cell
  | .number value => .ok ⟨value, false⟩
  | .text text => (places.text text).map fun place => ⟨UInt16.ofNat place, true⟩
  | .object name => (places.object name).map fun place => ⟨UInt16.ofNat place, true⟩

namespace ScriptDefinition

/-- The texts of the script, each once, in the order of first use. -/
def texts (definition : ScriptDefinition) : List String :=
  let inLocals := definition.locals.filterMap fun value =>
    match value with
    | .text text => some text
    | _ => none
  (definition.objects.flatMap ObjectDefinition.texts ++ inLocals ++
    definition.assembly.texts).eraseDups

/-- The places of the texts when they are stored from a start on. -/
def textPlaces (definition : ScriptDefinition) (start : Nat) : List (String × Nat) :=
  definition.texts.zip (running start (definition.texts.map fun text => text.utf8ByteSize + 1))

/-- The word of an export. -/
def exportCell (definition : ScriptDefinition) (codeBase : Nat) (places : Places) :
    ExportTarget → Except BuildError Cell
  | .code label =>
    match definition.assembly.position? label with
    | some position => .ok ⟨UInt16.ofNat (codeBase + position), false⟩
    | none => .error .unboundExport
  | .object name => (places.object name).map fun place => ⟨UInt16.ofNat place, true⟩

/-- The place of a method's code. -/
def methodOffset (definition : ScriptDefinition) (codeBase : Nat) (label : Label) :
    Except BuildError Nat :=
  match definition.assembly.position? label with
  | some position => .ok (codeBase + position)
  | none => .error .unboundMethod

/-- The number of bytes of the code, with one more when it would be odd. -/
def paddedCodeSize (definition : ScriptDefinition) : Nat :=
  definition.assembly.code.size + definition.assembly.code.size % 2

/-- Code with a zero at the end when its size is odd. -/
def padded (code : Bytes) : Bytes :=
  code ++ Array.replicate (code.size % 2) 0

end ScriptDefinition

end AdventureVm
