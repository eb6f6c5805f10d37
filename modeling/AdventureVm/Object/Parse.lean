import AdventureVm.Fault
import AdventureVm.Object.Basic

/-! Reading the object records of a script. -/

namespace AdventureVm

/-- The buffer of a script that is being read, with what its messages need. -/
structure Source where
  /-- The number of the script. -/
  script : UInt16
  /-- The buffer. -/
  data : Bytes

namespace Source

/-- The failure to make sense of a part of the script. -/
def corrupt (source : Source) (field detail : String) : Fault :=
  .scriptCorrupt source.script field detail

/-- The word at an offset of the buffer. -/
def word (source : Source) (offset : Nat) (field : String) : Except Fault UInt16 :=
  match word? source.data offset with
  | some value => .ok value
  | none =>
    .error (source.corrupt field
      s!"offset 0x{hexText 4 offset} beyond buffer of {source.data.size} bytes")

/-- The words of a table, which has to end before a limit. -/
def table (source : Source) (start count limit : Nat) (field : String) :
    Except Fault (Array UInt16) :=
  -- The limit may lie inside the buffer or past its end; the nearer end counts.
  let stop := start + 2 * count
  if stop > min limit source.data.size then
    .error (source.corrupt field
      s!"{count} words at 0x{hexText 4 start} end at 0x{hexText 4 stop}, limit 0x{hexText 4 limit}")
  else .ok ((Array.range count).filterMap fun index => word? source.data (start + 2 * index))

end Source

namespace Object

/-- The record has as many properties as every object of its version. -/
def checkCount (source : Source) (layout : Layout) (count : Nat) : Except Fault Unit :=
  if count < layout.minProperties then
    .error (source.corrupt "property count"
      s!"{count} properties, at least {layout.minProperties} required")
  else .ok ()

/-- The record opens with the word that marks objects. -/
def checkMagic (source : Source) (offset : Nat) : Except Fault Unit := do
  let magic ← source.word offset "object magic"
  if magic ≠ objectMagic then
    throw (source.corrupt "object magic" s!"0x{hexText 4 magic.toNat} at 0x{hexText 4 offset}")

/--
Reads a record of the first format.

Eight bytes before the first property are the mark, an unused word, the distance to the method table
and the number of properties. Only a class has a selector list, right after its properties.
-/
def parseSci0 (source : Source) (segment : SegmentId) (base : Nat) : Except Fault Object := do
  let layout := Version.sci0.layout
  let limit := source.data.size
  if base < layout.objectHeaderSize then
    throw (source.corrupt "object header" s!"base 0x{hexText 4 base}")
  let header := base - layout.objectHeaderSize
  checkMagic source header
  let distance ← source.word (header + 4) "function area offset"
  let count := (← source.word (header + 6) "property count").toNat
  checkCount source layout count
  let values ← source.table base count limit "property values"
  let info := values[layout.infoSlot]?.getD 0
  let selectors ←
    if info &&& classFlag ≠ 0 then
      some <$> source.table (base + 2 * count) count limit "property selectors"
    else pure none
  let methodTable := base + distance.toNat
  let methodCount := (← source.word methodTable "method count").toNat
  let names ← source.table (methodTable + 2) methodCount limit "method selectors"
  -- A zero word separates the selectors from the code offsets.
  let offsets ← source.table (methodTable + 4 + 2 * methodCount) methodCount limit "method offsets"
  return {
    pos := ⟨segment, UInt16.ofNat base⟩
    codeSegment := segment
    version := .sci0
    properties := values.map Address.number
    selectors
    methods := (names.zip offsets).toList.map fun (selector, offset) => ⟨selector, offset⟩
    origin := none
    lastSent := none }

/-- The methods listed as selector and offset in turn. -/
def methodPairs : List UInt16 → List Method
  | selector :: offset :: rest => ⟨selector, offset⟩ :: methodPairs rest
  | _ => []

/--
Reads a record of the second format.

The mark is itself the first property; the next three are the number of properties and the places of
the selector and method tables, both of which lie in the script part.
-/
def parseSci11 (source : Source) (segment : SegmentId) (scriptSize base : Nat) :
    Except Fault Object := do
  let layout := Version.sci11.layout
  checkMagic source base
  let count := (← source.word (base + 2) "property count").toNat
  checkCount source layout count
  let values ← source.table base count source.data.size "property values"
  -- The tables are named by properties, before those are relocated.
  let selectorTable := (values[2]?.getD 0).toNat
  let methodTable := (values[3]?.getD 0).toNat
  let selectors ← source.table selectorTable count scriptSize "property dictionary"
  let methodCount := (← source.word methodTable "method count").toNat
  let pairs ← source.table (methodTable + 2) (2 * methodCount) scriptSize "method dictionary"
  return {
    pos := ⟨segment, UInt16.ofNat base⟩
    codeSegment := segment
    version := .sci11
    properties := values.map Address.number
    selectors := some selectors
    methods := methodPairs pairs.toList
    origin := none
    lastSent := none }

/-- Reads the record whose properties start at an offset of the buffer. -/
def parse (version : Version) (source : Source) (segment : SegmentId) (scriptSize base : Nat) :
    Except Fault Object :=
  match version with
  | .sci0 => parseSci0 source segment base
  | .sci11 => parseSci11 source segment scriptSize base

end Object

end AdventureVm
