import AdventureVm.Address
import AdventureVm.Format

/-! Objects, classes and clones. -/

namespace AdventureVm

/-- One entry of an object's method table. -/
structure Method where
  /-- The selector that the method answers. -/
  selector : UInt16
  /-- Where its code starts in the script. -/
  offset : UInt16
deriving Repr, DecidableEq, Inhabited

/-- An object of a script, a class or a clone. -/
structure Object where
  /-- Where the object is. -/
  pos : Address
  /-- The segment that holds the code of its methods. -/
  codeSegment : SegmentId
  /-- The version that says which property means what. -/
  version : Version
  /-- The values of the properties. -/
  properties : Array Address
  /-- The selectors of the properties, unless the class keeps them. -/
  selectors : Option (Array UInt16)
  /-- The methods in the order of the method table. -/
  methods : List Method
  /-- The object that a clone was made from. -/
  origin : Option Address
  /-- The selector last sent to the object. -/
  lastSent : Option UInt16
deriving Repr, DecidableEq, Inhabited

namespace Object

/-- The value of a property. -/
def property? (object : Object) (index : Nat) : Option Address :=
  object.properties[index]?

/-- Replaces the value of a property, if there is one of that index. -/
def setProperty (object : Object) (index : Nat) (value : Address) : Object :=
  { object with properties := object.properties.setIfInBounds index value }

/-- The places at which the object keeps what. -/
def layout (object : Object) : Layout :=
  object.version.layout

/-- The word in a property, or zero when there is none. -/
def wordAt (object : Object) (index : Nat) : UInt16 :=
  (object.property? index).elim 0 (·.offset)

/-- The species of the object. -/
def species (object : Object) : UInt16 :=
  object.wordAt object.layout.speciesSlot

/-- The species of the superclass. -/
def superclass (object : Object) : UInt16 :=
  object.wordAt object.layout.superclassSlot

/-- The object has a superclass. -/
def hasSuperclass (object : Object) : Bool :=
  object.superclass != noSuperclass

/-- The flags of the object. -/
def info (object : Object) : UInt16 :=
  object.wordAt object.layout.infoSlot

/-- The object is a class. -/
def isClass (object : Object) : Bool :=
  object.info &&& classFlag != 0

/-- The object is a clone. -/
def isClone (object : Object) : Bool :=
  object.info &&& cloneFlag != 0

/-- Where the name of the object is. -/
def nameAddress (object : Object) : Address :=
  (object.property? object.layout.nameSlot).getD .null

/-- The code of the first method that answers a selector. -/
def method? (object : Object) (selector : UInt16) : Option Address :=
  (object.methods.find? (·.selector == selector)).map fun found =>
    ⟨object.codeSegment, found.offset⟩

/-- The part of the script's buffer that holds the properties, from its start up to its end. -/
def span (object : Object) : Nat × Nat :=
  (object.pos.offset.toNat, object.pos.offset.toNat + 2 * object.properties.size)

/--
The object as a clone of itself at another place.

Methods and selectors are kept, the flags say that it is a clone, and what was a class becomes an
instance of that class.
-/
def cloneAt (object : Object) (pos : Address) : Object :=
  let info := (object.info &&& ~~~classFlag) ||| cloneFlag
  let flagged := object.setProperty object.layout.infoSlot (.number info)
  let instance_ :=
    -- The superclass of an instance is its class, here the class itself.
    if object.isClass then
      flagged.setProperty object.layout.superclassSlot (.number object.species)
    else flagged
  { instance_ with pos, origin := some object.pos, lastSent := none }

/-- Makes a property a location in a segment, its word moved by a distance. -/
def relocate (object : Object) (index : Nat) (segment : SegmentId) (delta : UInt16) : Object :=
  { object with
    properties := object.properties.modify index fun value => ⟨segment, value.offset + delta⟩ }

end Object

end AdventureVm
