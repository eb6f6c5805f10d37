import AdventureVm.Definition.Basic
import AdventureVm.Script.Basic
import Mathlib.Data.List.Forall2

/-! What it means that a script in memory is the one that a definition describes. -/

namespace AdventureVm

/-- A text stands at an offset of a script's buffer, with a zero at its end. -/
structure Script.Spells (script : Script) (offset : Nat) (text : String) : Prop where
  /-- The bytes of the text and the zero are there. -/
  stored : script.data.extract offset (offset + text.utf8ByteSize + 1) = textBytes text
  /-- A reader finds the text. -/
  read : script.text? offset = some text

namespace ScriptDefinition

/-- An address is that of an object which was defined under a name. -/
def IsObject (definition : ScriptDefinition) (script : Script) (name : String)
    (address : Address) : Prop :=
  ∃ (index : Nat) (object : ObjectDefinition) (built : Object),
    definition.objects[index]? = some object ∧ object.name = name ∧
      script.objects[index]? = some built ∧ address = built.pos

/-- An address is what a first value comes to. -/
def Stands (definition : ScriptDefinition) (script : Script) : Initial → Address → Prop
  | .number value, address => address = .number value
  | .text text, address =>
    address.segment = script.segment ∧ script.Spells address.offset.toNat text
  | .object name, address => definition.IsObject script name address

/-- An offset is where the code of a label starts. -/
def IsLabel (definition : ScriptDefinition) (codeBase : Nat) (label : Label) (offset : UInt16) :
    Prop :=
  ∃ position, definition.assembly.position? label = some position ∧
    offset = UInt16.ofNat (codeBase + position)

/-- An offset is what is offered to other scripts. -/
def Offers (definition : ScriptDefinition) (codeBase : Nat) (script : Script) :
    ExportTarget → UInt16 → Prop
  | .code label, offset => definition.IsLabel codeBase label offset
  | .object name, offset => definition.IsObject script name ⟨script.segment, offset⟩

/-- The selectors of an object's properties: those of the fixed ones, then the declared ones. -/
def selectorWords (definition : ScriptDefinition) (object : ObjectDefinition) : List UInt16 :=
  (List.range definition.version.layout.minProperties).map
      (fun index => UInt16.ofNat (headerSelectors + index)) ++
    object.properties.map (·.1)

/-- An object in memory is the one that its definition describes. -/
structure ObjectRestored (definition : ScriptDefinition) (codeBase : Nat) (script : Script)
    (object : ObjectDefinition) (built : Object) : Prop where
  /-- It is in the segment of its script. -/
  segment : built.pos.segment = script.segment
  /-- So is the code of its methods. -/
  codeSegment : built.codeSegment = script.segment
  /-- It has the format of its script. -/
  version : built.version = definition.version
  species : built.species = object.species
  superclass : built.superclass = object.superclass
  isClass : built.isClass = object.isClass
  /-- Its name slot leads to its own name. -/
  name : definition.Stands script (.text object.name) built.nameAddress
  /-- It has the fixed properties and the declared ones. -/
  count : built.properties.size = object.propertyCount definition.version
  /-- The declared ones have their first values, in order. -/
  properties : List.Forall₂ (fun property address => definition.Stands script property.2 address)
    object.properties (built.properties.toList.drop definition.version.layout.minProperties)
  /-- Only an instance of the first format leaves its selectors to its class. -/
  selectors : built.selectors =
    if object.isClass = true ∨ definition.version = .sci11 then
      some (definition.selectorWords object).toArray
    else none
  /-- The methods lead to their code, in order. -/
  methods : List.Forall₂ (fun defined (method : Method) => method.selector = defined.1 ∧
    definition.IsLabel codeBase defined.2 method.offset) object.methods built.methods
  /-- It is no clone. -/
  origin : built.origin = none
  /-- Nothing was sent to it. -/
  lastSent : built.lastSent = none

/--
A script in memory is the one that a definition describes, with its code from a base on.

The local variables are given apart, since they get a segment of their own.
-/
structure Restored (definition : ScriptDefinition) (segment : SegmentId) (codeBase : Nat)
    (script : Script) (locals : Array Address) : Prop where
  number : script.number = definition.number
  segment : script.segment = segment
  /-- The objects are there in the order of their definitions. -/
  objects : List.Forall₂ (definition.ObjectRestored codeBase script) definition.objects
    script.objects.toList
  /-- The local variables have their first values. -/
  locals : List.Forall₂ (definition.Stands script) definition.locals locals.toList
  /-- What is offered to other scripts is offered in order. -/
  exports : List.Forall₂ (definition.Offers codeBase script) definition.exports
    script.exports.toList
  /-- Only the first format keeps synonyms. -/
  synonyms : script.synonyms.toList =
    match definition.version with
    | .sci0 => definition.synonyms.map fun (replaced, replacement) => ⟨replaced, replacement⟩
    | .sci11 => []
  /-- The code starts at its base. -/
  codeRanges : script.codeRanges = [(codeBase, codeBase + definition.paddedCodeSize)]
  /-- It is linked to where the objects and the texts are. -/
  code : ∃ places code,
    (∀ name place, places.object name = .ok place →
      definition.IsObject script name ⟨script.segment, UInt16.ofNat place⟩) ∧
    (∀ text place, places.text text = .ok place → script.Spells place text) ∧
    definition.assembly.link codeBase definition.version.layout.absoluteOffsets places = .ok code ∧
    script.data.extract codeBase (codeBase + code.size) = code

end ScriptDefinition

end AdventureVm
