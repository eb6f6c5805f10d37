import AdventureVm.Proofs.Loader.Reading

/-! An object that is read lies in the buffer, with all that its format asks for. -/

namespace AdventureVm

/-- A value is a number or an address in a segment. -/
def Address.IsOwn (segment : SegmentId) (value : Address) : Prop :=
  value.segment = 0 ∨ value.segment = segment

/-- Making one of some values an address in the segment keeps them in the segment. -/
theorem Address.isOwn_modify {segment : SegmentId} {values : Array Address}
    (own : ∀ value ∈ values, value.IsOwn segment) (index : Nat) (delta : UInt16) :
    ∀ value ∈ values.modify index fun value => ⟨segment, value.offset + delta⟩,
      value.IsOwn segment := by
  -- The changed value is in the segment, and the others were.
  intro value member
  obtain ⟨place, found⟩ := Array.getElem?_of_mem member
  rw [Array.getElem?_modify] at found
  split at found
  · obtain ⟨_, _, rfl⟩ := Option.map_eq_some_iff.mp found
    exact .inr rfl
  · exact own value (Array.mem_of_getElem? found)

namespace Object

/-- An object lies at a place of a buffer of some size, with all that its format asks for. -/
structure Sits (version : Version) (segment : SegmentId) (size base : Nat) (object : Object) :
    Prop where
  /-- It knows where it is. -/
  pos : object.pos = ⟨segment, UInt16.ofNat base⟩
  /-- It has the format of its script. -/
  format : object.version = version
  /-- It has at least the fixed properties. -/
  enough : version.layout.minProperties ≤ object.properties.size
  /-- All of its properties lie in the buffer. -/
  inside : base + 2 * object.properties.size ≤ size
  /-- It has a selector for each property, unless its class keeps them. -/
  selectors : ∀ selectors, object.selectors = some selectors →
    selectors.size = object.properties.size
  /-- Its properties are numbers and addresses in its own segment. -/
  values : ∀ value ∈ object.properties, value.IsOwn segment

variable {source : Source}

/-- A record that passes for an object is marked as one. -/
theorem results_checkMagic (offset : Nat) :
    Results (fun _ => word? source.data offset = some objectMagic) source.Blames
      (checkMagic source offset) := by
  -- The word is there, or that is blamed; then it is the right one, or that is.
  unfold checkMagic
  refine (source.results_word offset _).bind fun magic read => ?_
  split
  · exact Source.blames_corrupt ..
  · rename_i marked
    exact read.trans (congrArg some (not_not.mp marked))

/-- A record that passes for an object has enough properties. -/
theorem results_checkCount (layout : Layout) (count : Nat) :
    Results (fun _ => layout.minProperties ≤ count) source.Blames
      (checkCount source layout count) := by
  -- Too few properties are blamed on the record.
  unfold checkCount
  split
  · exact Source.blames_corrupt ..
  · exact Nat.le_of_not_lt ‹_›

/-- Words that are read are numbers. -/
theorem isOwn_number {words : Array UInt16} (segment : SegmentId) :
    ∀ value ∈ words.map Address.number, value.IsOwn segment := by
  -- A number refers to no segment at all.
  intro value member
  obtain ⟨word, _, rfl⟩ := Array.mem_map.mp member
  exact .inl rfl

/-- A record of the first format has a marked header in front of its properties. -/
theorem results_parseSci0 (segment : SegmentId) (base : Nat) :
    Results (fun object => object.Sits .sci0 segment source.data.size base ∧ 8 ≤ base ∧
        word? source.data (base - 8) = some objectMagic) source.Blames
      (parseSci0 source segment base) := by
  unfold parseSci0
  simp only
  split
  · exact Source.blames_corrupt ..
  · rename_i header
    -- The mark, the two counts and the values come first.
    refine (results_checkMagic _).bind fun _ marked => ?_
    refine (source.results_word _ _).bind fun distance _ => ?_
    refine (source.results_word _ _).bind fun count _ => ?_
    refine (results_checkCount _ _).bind fun _ enough => ?_
    refine (source.results_table ..).bind fun values tabled => ?_
    obtain ⟨size, _, inside⟩ := tabled
    -- Only a class has selectors, but both have methods.
    have finish {selectors : Option (Array UInt16)}
        {methods : Array UInt16 → Array UInt16 → List Method}
        (sized : ∀ listed, selectors = some listed → listed.size = count.toNat) :
        Results (fun object => object.Sits .sci0 segment source.data.size base ∧ 8 ≤ base ∧
          word? source.data (base - 8) = some objectMagic) source.Blames (do
            let methodCount ← source.word (base + distance.toNat) "method count"
            let names ← source.table (base + distance.toNat + 2) methodCount.toNat source.data.size
              "method selectors"
            let offsets ← source.table (base + distance.toNat + 4 + 2 * methodCount.toNat)
              methodCount.toNat source.data.size "method offsets"
            pure ({
              pos := ⟨segment, UInt16.ofNat base⟩, codeSegment := segment, version := .sci0
              properties := values.map Address.number, selectors, methods := methods names offsets
              origin := none, lastSent := none } : Object)) := by
      refine (source.results_word _ _).bind fun methodCount _ => ?_
      refine (source.results_table ..).bind fun names _ => ?_
      refine (source.results_table ..).bind fun offsets _ => ?_
      refine ⟨⟨rfl, rfl, ?_, ?_, ?_, isOwn_number segment⟩, Nat.le_of_not_lt header, marked⟩
      · simpa [size] using enough
      · simpa [size] using inside
      · simpa [size] using sized
    split
    · refine Results.bind (Results.map ((source.results_table ..).mono fun listed read => ?_))
        fun selectors sized => finish sized
      -- A class has a selector for each of its properties.
      rintro _ ⟨rfl⟩
      exact read.1
    · exact finish (by simp)

/-- A record of the second format starts with its mark. -/
theorem results_parseSci11 (segment : SegmentId) (scriptSize base : Nat) :
    Results (Sits .sci11 segment source.data.size base) source.Blames
      (parseSci11 source segment scriptSize base) := by
  unfold parseSci11
  refine (results_checkMagic _).bind fun _ marked => ?_
  refine (source.results_word _ _).bind fun count _ => ?_
  refine (results_checkCount _ _).bind fun _ enough => ?_
  refine (source.results_table ..).bind fun values tabled => ?_
  obtain ⟨size, _, inside⟩ := tabled
  -- The two tables are read from the script part.
  refine (source.results_table ..).bind fun selectors listed => ?_
  refine (source.results_word _ _).bind fun methodCount _ => ?_
  refine (source.results_table ..).bind fun pairs _ => ?_
  refine ⟨rfl, rfl, ?_, ?_, ?_, isOwn_number segment⟩
  · simpa [size] using enough
  · simpa [size] using inside
  · rintro _ ⟨rfl⟩
    simp [size, listed.1]

/-- A record of either format that is read lies where it was read. -/
theorem results_parse (version : Version) (segment : SegmentId) (scriptSize base : Nat) :
    Results (Sits version segment source.data.size base) source.Blames
      (parse version source segment scriptSize base) := by
  -- Each format has its own way of reading a record.
  cases version with
  | sci0 => exact (results_parseSci0 segment base).mono fun _ sits => sits.1
  | sci11 => exact results_parseSci11 segment scriptSize base

/-- Making a property an address in the object's segment leaves the object where it is. -/
theorem Sits.relocate {version : Version} {segment : SegmentId} {size base : Nat} {object : Object}
    (sits : object.Sits version segment size base) (index : Nat) (delta : UInt16) :
    (object.relocate index segment delta).Sits version segment size base := by
  -- No property is added and none taken away.
  obtain ⟨pos, format, enough, inside, selectors, values⟩ := sits
  refine ⟨pos, format, ?_, ?_, ?_, ?_⟩
  · simpa [Object.relocate] using enough
  · simpa [Object.relocate] using inside
  · simpa [Object.relocate] using selectors
  · exact Address.isOwn_modify values index delta

end Object

end AdventureVm
