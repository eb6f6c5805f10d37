import AdventureVm.Proofs.RoundTrip.Restored
import AdventureVm.Proofs.RoundTrip.Words

/-! Objects in the making, and what they have become once their script is loaded. -/

namespace AdventureVm

/-- The address that a word of a resource becomes in a segment, where addresses are moved. -/
def Cell.address (segment : SegmentId) (delta : Nat) (cell : Cell) : Address :=
  if cell.isPointer then ⟨segment, cell.word + UInt16.ofNat delta⟩ else .number cell.word

/-- The selectors that are written are those that an object should have. -/
theorem ScriptDefinition.map_selectors (definition : ScriptDefinition) (object : ObjectDefinition) :
    (object.selectors definition.version).map UInt16.ofNat = definition.selectorWords object := by
  simp [ObjectDefinition.selectors, selectorWords, Function.comp_def]

/-- The flags of an object say whether it is a class. -/
theorem ObjectDefinition.info_and_classFlag (object : ObjectDefinition) :
    UInt16.ofNat object.info &&& classFlag ≠ 0 ↔ object.isClass = true := by
  -- There is one info word for classes and one for instances.
  rw [ObjectDefinition.info]
  cases object.isClass <;> decide

/-- An object in the making. -/
structure Draft where
  /-- What it is made from. -/
  object : ObjectDefinition
  /-- The place of its properties, as the other parts of the script name it. -/
  place : Nat
  /-- The place of its block in the first format, of its tables in the second. -/
  home : Nat
  /-- Its properties. -/
  cells : List Cell
  /-- The places of the code of its methods. -/
  offsets : List Nat

namespace Draft

/-- The object as it is read, before addresses are set. -/
def parsed (definition : ScriptDefinition) (segment : SegmentId) (delta : Nat) (draft : Draft) :
    Object where
  pos := ⟨segment, UInt16.ofNat (delta + draft.place)⟩
  codeSegment := segment
  version := definition.version
  properties := (draft.cells.map fun cell => Address.number cell.word).toArray
  selectors :=
    if draft.object.isClass = true ∨ definition.version = .sci11 then
      some (definition.selectorWords draft.object).toArray
    else none
  methods := List.zipWith (fun method offset => ⟨method.1, UInt16.ofNat offset⟩)
    draft.object.methods draft.offsets
  origin := none
  lastSent := none

/-- The object after addresses are set. -/
def relocated (definition : ScriptDefinition) (segment : SegmentId) (delta : Nat) (draft : Draft) :
    Object :=
  { draft.parsed definition segment delta with
    properties := (draft.cells.map (Cell.address segment delta)).toArray }

/-- The draft says what the definition of its object says. -/
structure Fits (definition : ScriptDefinition) (places : Places) (codeBase : Nat) (draft : Draft) :
    Prop where
  count : draft.cells.length = draft.object.propertyCount definition.version
  species : draft.cells[definition.version.layout.speciesSlot]? = some ⟨draft.object.species, false⟩
  superclass :
    draft.cells[definition.version.layout.superclassSlot]? = some ⟨draft.object.superclass, false⟩
  info :
    draft.cells[definition.version.layout.infoSlot]? =
      some ⟨UInt16.ofNat draft.object.info, false⟩
  name : ∃ place, places.text draft.object.name = .ok place ∧
    draft.cells[definition.version.layout.nameSlot]? = some ⟨UInt16.ofNat place, true⟩
  values : List.Forall₂ (fun property cell => places.cell property.2 = .ok cell)
    draft.object.properties (draft.cells.drop definition.version.layout.minProperties)
  methods : List.Forall₂
    (fun method offset => definition.methodOffset codeBase method.2 = .ok offset)
    draft.object.methods draft.offsets

end Draft

/-- The drafts of a script have become its objects, and its texts are where they are said to be. -/
structure Settled (definition : ScriptDefinition) (places : Places) (delta : Nat)
    (drafts : List Draft) (script : Script) : Prop where
  listed : drafts.map (·.object) = definition.objects
  named : places.objects = drafts.map fun draft => (draft.object.name, draft.place)
  objects :
    script.objects.toList = drafts.map (Draft.relocated definition script.segment delta)
  texts : ∀ text place, places.text text = .ok place →
    delta + place < 65536 ∧ script.Spells (delta + place) text

/-- A place that is found under a name is listed under it. -/
theorem Places.mem_of_last? {name : String} {entries : List (String × Nat)} {place : Nat}
    (found : last? name entries = some place) : (name, place) ∈ entries := by
  -- The last entry under a name is one of the entries, and it has that name.
  obtain ⟨entry, last, rfl⟩ := Option.map_eq_some_iff.mp found
  have member := List.mem_of_find?_eq_some last
  have same := List.find?_some last
  rw [beq_iff_eq] at same
  rw [← same]
  exact List.mem_reverse.mp member

/-- A place that a text has is listed for it. -/
theorem Places.mem_of_text {places : Places} {text : String} {place : Nat}
    (found : places.text text = .ok place) : (text, place) ∈ places.texts := by
  -- Without an entry there would be a failure.
  unfold Places.text at found
  split at found
  · cases found
    exact mem_of_last? ‹_›
  · cases found

/-- A place that an object has is listed for it. -/
theorem Places.mem_of_object {places : Places} {name : String} {place : Nat}
    (found : places.object name = .ok place) : (name, place) ∈ places.objects := by
  -- Without an entry there would be a failure.
  unfold Places.object at found
  split at found
  · cases found
    exact mem_of_last? ‹_›
  · cases found

/-- Places that are moved are found where they were, further on. -/
theorem Places.last?_shift (distance : Nat) (name : String) (entries : List (String × Nat)) :
    last? name (entries.map fun (name, place) => (name, distance + place)) =
      (last? name entries).map (distance + ·) := by
  -- Names are left as they are, so the same entry is found.
  rw [last?, last?, ← List.map_reverse, List.find?_map, Option.map_map, Option.map_map]
  rfl

/-- Places that are moved by nothing stay where they are. -/
@[simp] theorem Places.shift_zero (places : Places) : places.shift 0 = places := by
  simp [shift]

/-- An object whose place is moved was there before. -/
theorem Places.object_shift {places : Places} {distance place : Nat} {name : String}
    (found : (places.shift distance).object name = .ok place) :
    ∃ before, places.object name = .ok before ∧ place = distance + before := by
  rw [Places.object, shift, last?_shift] at found
  rw [Places.object]
  -- Moving the places changes what is found, not whether something is.
  cases listed : last? name places.objects with
  | none =>
    rw [listed] at found
    cases found
  | some before =>
    rw [listed] at found
    cases found
    exact ⟨before, rfl, rfl⟩

/-- A text whose place is moved was there before. -/
theorem Places.text_shift {places : Places} {distance place : Nat} {text : String}
    (found : (places.shift distance).text text = .ok place) :
    ∃ before, places.text text = .ok before ∧ place = distance + before := by
  rw [Places.text, shift, last?_shift] at found
  rw [Places.text]
  -- Moving the places changes what is found, not whether something is.
  cases listed : last? text places.texts with
  | none =>
    rw [listed] at found
    cases found
  | some before =>
    rw [listed] at found
    cases found
    exact ⟨before, rfl, rfl⟩

/-- The place of a method's code is that of a label with a position. -/
theorem ScriptDefinition.methodOffset_eq_ok {definition : ScriptDefinition} {codeBase : Nat}
    {label : Label} {offset : Nat} (found : definition.methodOffset codeBase label = .ok offset) :
    ∃ position, definition.assembly.position? label = some position ∧
      offset = codeBase + position := by
  -- A label without a position would be a failure.
  unfold methodOffset at found
  split at found
  · cases found
    exact ⟨_, ‹_›, rfl⟩
  · cases found

/-- Two lists that go together are joined into one that goes with the first. -/
theorem forall₂_zipWith {α β γ : Type} {related : α → β → Prop} {joined : α → γ → Prop}
    {join : α → β → γ} {lefts : List α} {rights : List β}
    (pairs : List.Forall₂ related lefts rights)
    (each : ∀ left right, related left right → joined left (join left right)) :
    List.Forall₂ joined lefts (List.zipWith join lefts rights) := by
  -- Induction on the pairs.
  induction pairs with
  | nil => exact .nil
  | cons pair _ ih => exact .cons (each _ _ pair) ih

namespace Settled

open ScriptDefinition (methodOffset_eq_ok)

variable {definition : ScriptDefinition} {places : Places} {delta codeBase : Nat}
  {drafts : List Draft} {script : Script}

/-- Where an object is said to be, an object of that name is. -/
theorem isObject (settled : Settled definition places delta drafts script) {name : String}
    {place : Nat} (found : places.object name = .ok place) :
    definition.IsObject script name ⟨script.segment, UInt16.ofNat (delta + place)⟩ := by
  have listed := Places.mem_of_object found
  rw [settled.named, List.mem_map] at listed
  obtain ⟨draft, member, same⟩ := listed
  cases same
  -- The place was given to a draft, which stands at the same position as its object.
  obtain ⟨index, small, atIndex⟩ := List.getElem_of_mem member
  refine ⟨index, draft.object, draft.relocated definition script.segment delta, ?_, rfl, ?_, rfl⟩
  · rw [← settled.listed, List.getElem?_map, List.getElem?_eq_getElem small, atIndex]
    rfl
  · rw [← Array.getElem?_toList, settled.objects, List.getElem?_map,
      List.getElem?_eq_getElem small, atIndex]
    rfl

/-- A word that was written for a first value becomes what the value comes to. -/
theorem stands (settled : Settled definition places delta drafts script) {value : Initial}
    {cell : Cell} (written : places.cell value = .ok cell) :
    definition.Stands script value (cell.address script.segment delta) := by
  cases value with
  | number value =>
    cases written
    rfl
  | text text =>
    obtain ⟨place, found, rfl⟩ := map_eq_ok.mp written
    obtain ⟨small, spells⟩ := settled.texts text place found
    -- Relocation moves the text as far as the script was moved.
    have offset : (UInt16.ofNat place + UInt16.ofNat delta).toNat = delta + place := by
      rw [← UInt16.ofNat_add, UInt16.toNat_ofNat']
      omega
    exact ⟨rfl, offset ▸ spells⟩
  | object name =>
    obtain ⟨place, found, rfl⟩ := map_eq_ok.mp written
    have object := settled.isObject found
    rwa [Nat.add_comm, UInt16.ofNat_add] at object

/-- A word that was written for an export becomes what is offered. -/
theorem offers (settled : Settled definition places delta drafts script) {target : ExportTarget}
    {cell : Cell} (written : definition.exportCell codeBase places target = .ok cell) :
    definition.Offers codeBase script target
      (if cell.isPointer then cell.word + UInt16.ofNat delta else cell.word) := by
  -- An export of code is no address, so only that of an object is moved.
  cases target with
  | code label =>
    simp only [ScriptDefinition.exportCell] at written
    split at written
    · cases written
      exact ⟨_, ‹_›, rfl⟩
    · cases written
  | object name =>
    obtain ⟨place, found, rfl⟩ := map_eq_ok.mp written
    have object := settled.isObject found
    rwa [Nat.add_comm, UInt16.ofNat_add] at object

/-- A draft that says what its definition says becomes an object that does. -/
theorem objectRestored (settled : Settled definition places delta drafts script) {draft : Draft}
    (fits : draft.Fits definition places codeBase) :
    definition.ObjectRestored codeBase script draft.object
      (draft.relocated definition script.segment delta) := by
  -- A word without an address is a property that holds its number.
  have number : ∀ {slot : Nat} {word : UInt16}, draft.cells[slot]? = some ⟨word, false⟩ →
      (draft.relocated definition script.segment delta).wordAt slot = word := by
    intro slot word written
    simp [Draft.relocated, Object.wordAt, Object.property?, written, Cell.address, Address.number]
  have info := number fits.info
  refine
    { segment := rfl, codeSegment := rfl, version := rfl, species := number fits.species
      superclass := number fits.superclass, isClass := ?_, name := ?_, count := ?_
      properties := ?_, selectors := rfl, methods := ?_, origin := rfl, lastSent := rfl }
  · rw [Object.isClass, Object.info, Object.layout]
    change ((draft.relocated definition script.segment delta).wordAt
      definition.version.layout.infoSlot &&& classFlag != 0) = draft.object.isClass
    rw [info, ObjectDefinition.info]
    cases draft.object.isClass <;> decide
  · obtain ⟨place, found, written⟩ := fits.name
    have cell : places.cell (.text draft.object.name) = .ok ⟨UInt16.ofNat place, true⟩ :=
      map_eq_ok.mpr ⟨place, found, rfl⟩
    have stands := settled.stands cell
    simpa [Object.nameAddress, Object.property?, Draft.relocated, Object.layout, Draft.parsed,
      written] using stands
  · simp [Draft.relocated, fits.count]
  · -- The declared values come behind the words that every object has.
    have cells : (draft.relocated definition script.segment delta).properties.toList.drop
        definition.version.layout.minProperties =
        (draft.cells.drop definition.version.layout.minProperties).map
          (Cell.address script.segment delta) := by
      simp [Draft.relocated, List.map_drop]
    rw [cells, List.forall₂_map_right_iff]
    exact fits.values.imp fun _ _ written => settled.stands written
  · apply forall₂_zipWith fits.methods
    intro method offset found
    obtain ⟨position, bound, rfl⟩ := methodOffset_eq_ok found
    exact ⟨rfl, position, bound, rfl⟩

/-- A script whose drafts are settled is the one that its definition describes. -/
theorem restored (settled : Settled definition places delta drafts script)
    (fits : ∀ draft ∈ drafts, draft.Fits definition places codeBase) {exports cells : List Cell}
    {locals : Array Address} {code : Bytes} (number : script.number = definition.number)
    (exported : List.Forall₂ (fun target cell =>
      definition.exportCell codeBase places target = .ok cell) definition.exports exports)
    (offered : script.exports.toList = exports.map fun cell =>
      if cell.isPointer then cell.word + UInt16.ofNat delta else cell.word)
    (valued : List.Forall₂ (fun value cell => places.cell value = .ok cell) definition.locals cells)
    (given : locals.toList = cells.map (Cell.address script.segment delta))
    (synonyms : script.synonyms.toList =
      match definition.version with
      | .sci0 => definition.synonyms.map fun (replaced, replacement) => ⟨replaced, replacement⟩
      | .sci11 => [])
    (codeRanges : script.codeRanges = [(codeBase, codeBase + definition.paddedCodeSize)])
    (linked : definition.assembly.link codeBase definition.version.layout.absoluteOffsets
      (places.shift delta) = .ok code)
    (carries : Carries script.data codeBase code) :
    definition.Restored script.segment codeBase script locals := by
  refine
    { number := number, segment := rfl, objects := ?_, locals := ?_, exports := ?_
      synonyms := synonyms, codeRanges := codeRanges, code := ?_ }
  · -- Objects, variables and exports agree one by one, and code is linked for where things are now.
    rw [settled.objects, ← settled.listed, List.forall₂_map_left_iff, List.forall₂_map_right_iff,
      List.forall₂_same]
    exact fun draft member => settled.objectRestored (fits draft member)
  · rw [given, List.forall₂_map_right_iff]
    exact valued.imp fun _ _ written => settled.stands written
  · rw [offered, List.forall₂_map_right_iff]
    exact exported.imp fun _ _ written => settled.offers written
  · refine ⟨places.shift delta, code, ?_, ?_, linked, carries.extract⟩
    · intro name place found
      obtain ⟨before, there, rfl⟩ := Places.object_shift found
      exact settled.isObject there
    · intro text place found
      obtain ⟨before, there, rfl⟩ := Places.text_shift found
      exact (settled.texts text before there).2

end Settled

end AdventureVm
