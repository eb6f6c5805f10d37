import AdventureVm.Proofs.Loader.Walks
import AdventureVm.Proofs.Machine.Decoding
import AdventureVm.Script.Listing

/-!
Whatever bytes a script is loaded from, what comes out is well formed.

An object of the first format may start so near the end of a full segment that its base has no
sixteen bits. Then the header that its low bits lead to is none, and the script is refused.
-/

namespace AdventureVm

/-- An object is the one whose record is at a base that a segment can address. -/
def Script.Keeps (script : Script) (version : Version) (base : Nat) (object : Object) : Prop :=
  base < 65536 ∧ object.Sits version script.segment script.data.size base

section Offsets

variable {script : Script} {version : Version} {bases : List Nat}

/-- The objects of a script have the offsets of their records. -/
theorem Script.Keeps.offset {base : Nat} {object : Object}
    (keeps : script.Keeps version base object) : object.pos.offset.toNat = base := by
  -- The base is below the size of a segment, so it is not cut off.
  rw [keeps.2.pos]
  exact toNat_word keeps.1

/-- The bases of the records are the offsets of the objects. -/
theorem Script.offsets_eq
    (kept : List.Forall₂ (script.Keeps version) bases script.objects.toList) :
    bases = script.objects.toList.map (·.pos.offset.toNat) := by
  -- Bases and objects are in the same order.
  rw [← List.forall₂_eq_eq_eq, List.forall₂_map_right_iff]
  exact kept.imp fun _ _ keeps => keeps.offset.symm

/-- An offset that is no base of a record is that of no object. -/
theorem Script.objectIndex?_eq_none
    (kept : List.Forall₂ (script.Keeps version) bases script.objects.toList) {offset : UInt16}
    (other : offset.toNat ∉ bases) : script.objectIndex? offset = none := by
  -- The offsets of the objects are the bases of their records.
  rw [objectIndex?, Array.findIdx?_eq_none_iff]
  intro object member
  rw [beq_eq_false_iff_ne]
  rintro rfl
  rw [offsets_eq kept] at other
  exact other (List.mem_map_of_mem (Array.mem_toList_iff.mpr member))

/-- An index and an offset belong together exactly when the object at the index has the offset. -/
theorem Script.objectIndex?_eq_some_iff
    (kept : List.Forall₂ (script.Keeps version) bases script.objects.toList)
    (sorted : bases.Pairwise (· < ·)) (offset : UInt16) (index : Nat) :
    script.objectIndex? offset = some index ↔
      ∃ object, script.objects[index]? = some object ∧ object.pos.offset = offset := by
  rw [offsets_eq kept, List.pairwise_map] at sorted
  rw [objectIndex?, Array.findIdx?_eq_some_iff_getElem]
  constructor
  · rintro ⟨inside, same, _⟩
    exact ⟨script.objects[index], Array.getElem?_eq_getElem inside, eq_of_beq same⟩
  · rintro ⟨object, found, rfl⟩
    obtain ⟨inside, rfl⟩ := Array.getElem?_eq_some_iff.mp found
    refine ⟨inside, beq_self_eq_true _, fun earlier before equal => ?_⟩
    -- An earlier object has a smaller offset.
    have smaller := List.pairwise_iff_getElem.mp sorted earlier index
      (by simpa using Nat.lt_trans before inside) (by simpa using inside) before
    rw [Array.getElem_toList, Array.getElem_toList, eq_of_beq equal] at smaller
    exact Nat.lt_irrefl _ smaller

end Offsets

namespace Script

variable {version : Version}

/-- Reading one more record keeps it, unless the script is refused. -/
theorem results_instantiateObject {script : Script} {done : List Nat} {base : Nat}
    (kept : List.Forall₂ (script.Keeps version) done script.objects.toList)
    (fresh : (UInt16.ofNat base).toNat ∉ done)
    (wraps : 65536 ≤ base → Results (fun _ => False) (Source.Blames ⟨script.number, script.data⟩)
      (Object.parse version ⟨script.number, script.data⟩ script.segment script.scriptSize
        (UInt16.ofNat base).toNat)) :
    Results (fun result => ∃ objects, result.2 = { script with objects } ∧
        List.Forall₂ (script.Keeps version) (done ++ [base]) objects.toList)
      (Source.Blames ⟨script.number, script.data⟩)
      (script.instantiateObject version (UInt16.ofNat base)) := by
  unfold instantiateObject
  rw [objectIndex?_eq_none kept fresh]
  -- A start past the last offset is cut to sixteen bits, and reading there fails.
  by_cases small : base < 65536
  · rw [toNat_word small]
    refine (Object.results_parse ..).bind fun object sits => ?_
    refine ⟨_, rfl, ?_⟩
    rw [Array.toList_push]
    exact List.rel_append kept (.cons ⟨small, sits⟩ .nil)
  · exact (wraps (by omega)).bind fun _ impossible => impossible.elim

/-- Reading all records keeps them in their order, unless the script is refused. -/
theorem results_withObjects {script : Script} {done bases : List Nat}
    (kept : List.Forall₂ (script.Keeps version) done script.objects.toList)
    (sorted : (done ++ bases).Pairwise (· < ·))
    (wraps : ∀ base ∈ bases, 65536 ≤ base →
      (UInt16.ofNat base).toNat ∉ done ++ bases ∧
      Results (fun _ => False) (Source.Blames ⟨script.number, script.data⟩)
        (Object.parse version ⟨script.number, script.data⟩ script.segment script.scriptSize
          (UInt16.ofNat base).toNat)) :
    Results (fun extended => ∃ objects, extended = { script with objects } ∧
        List.Forall₂ (script.Keeps version) (done ++ bases) objects.toList)
      (Source.Blames ⟨script.number, script.data⟩)
      (bases.foldlM (fun script base => do
        return (← script.instantiateObject version (UInt16.ofNat base)).2) script) := by
  -- The script and the records that were read grow together.
  induction bases generalizing script done with
  | nil => exact ⟨script.objects, rfl, by simpa using kept⟩
  | cons base bases ih =>
    obtain ⟨here, later⟩ := List.forall_mem_cons.mp wraps
    rw [List.foldlM_cons]
    -- A record that was read already would not be read again.
    have fresh : (UInt16.ofNat base).toNat ∉ done := by
      intro among
      by_cases small : base < 65536
      · rw [toNat_word small] at among
        have before := (List.pairwise_append.mp sorted).2.2 base among base List.mem_cons_self
        exact Nat.lt_irrefl _ before
      · exact (here (by omega)).1 (List.mem_append_left _ among)
    have step : Results (fun extended => ∃ objects, extended = { script with objects } ∧
        List.Forall₂ (script.Keeps version) (done ++ [base]) objects.toList)
        (Source.Blames ⟨script.number, script.data⟩)
        (do return (← script.instantiateObject version (UInt16.ofNat base)).2) :=
      (results_instantiateObject kept fresh fun beyond => (here beyond).2).bind
        fun _ read => read
    refine step.bind fun extended read => ?_
    obtain ⟨objects, rfl, keptToo⟩ := read
    rw [List.append_cons] at sorted later ⊢
    exact ih keptToo sorted later

/-- A script with its local variables, while addresses are set. -/
structure Composed (version : Version) (bases : List Nat) (script : Script)
    (locals : Array Address) : Prop where
  /-- The objects are those of the records. -/
  objects : List.Forall₂ (script.Keeps version) bases script.objects.toList
  /-- Local variables are numbers or addresses in the script. -/
  locals : ∀ value ∈ locals, value.IsOwn script.segment

/-- Changing one of the objects in a way that keeps them keeps them all. -/
theorem forall₂_modify {α β : Type} {related : α → β → Prop} {left : List α} {right : List β}
    {change : β → β} (both : List.Forall₂ related left right)
    (keeps : ∀ first second, related first second → related first (change second)) (index : Nat) :
    List.Forall₂ related left (right.modify index change) := by
  -- The pair at the index changes, and the others stay.
  induction both generalizing index with
  | nil => simp
  | cons pair others ih =>
    cases index with
    | zero => exact .cons (keeps _ _ pair) others
    | succ index => exact .cons pair (ih index)

/-- Setting an address keeps the objects at their records and all values in the script. -/
theorem Composed.relocate {bases : List Nat} {script : Script} {locals : Array Address}
    (composed : script.Composed version bases locals) (range : Option (Nat × Nat)) (delta : UInt16)
    (offset : Nat) (journal : Journal) :
    let after := ((Script.relocate range delta (script, locals) offset).run journal).1
    after.1.Composed version bases after.2 := by
  -- The word belongs to the local variables, to an object or to nothing.
  unfold Script.relocate
  simp only
  split
  · exact ⟨composed.objects, Address.isOwn_modify composed.locals _ delta⟩
  · split
    · refine ⟨?_, composed.locals⟩
      change List.Forall₂ _ _ (Array.modify _ _ _).toList
      rw [Array.toList_modify]
      exact forall₂_modify composed.objects
        (fun base object keeps => ⟨keeps.1, keeps.2.relocate _ delta⟩) _
    · exact composed

/-- Setting all addresses keeps the objects at their records and all values in the script. -/
theorem Composed.relocations {bases : List Nat} {script : Script} {locals : Array Address}
    (composed : script.Composed version bases locals) (range : Option (Nat × Nat)) (delta : UInt16)
    (offsets : List Nat) (journal : Journal) :
    let after := ((offsets.foldlM (Script.relocate range delta) (script, locals)).run journal).1
    after.1.Composed version bases after.2 := by
  -- One address is set after the other.
  have each (loaded : Script × Array Address) (offset : Nat) (journal : Journal)
      (composed : loaded.1.Composed version bases loaded.2) :
      ((Script.relocate range delta loaded offset).run journal).1.1.Composed version bases
        ((Script.relocate range delta loaded offset).run journal).1.2 :=
    composed.relocate range delta offset journal
  exact relocations_preserves each offsets composed journal

end Script

/-- What follows a buffer does not touch its words. -/
theorem word?_append {front : Bytes} {offset : Nat} {word : UInt16}
    (read : word? front offset = some word) (back : Bytes) :
    word? (front ++ back) offset = some word := by
  -- Both bytes of the word lie in the front.
  have inside := bound_of_word? read
  rw [word?, Array.getElem?_append_left (by omega), Array.getElem?_append_left (by omega)]
  exact read

/-- A fault says that a script is corrupt or that there is none. -/
def Fault.IsUnloadable (number : UInt16) (fault : Fault) : Prop :=
  (∃ field detail, fault = .scriptCorrupt number field detail) ∨ fault = .scriptNotFound number

/-- The buffer has the size that was reckoned, and starts with the script part. -/
theorem Layout.results_bufferSize (version : Version) (number : UInt16) (bytes : Bytes)
    (heap : Option Bytes) :
    Results (fun size => (Script.buffer version bytes heap size).size = size ∧ bytes.size ≤ size ∧
        (version = .sci0 → ∃ word, word? (Script.buffer version bytes heap size) 0 = some word ∧
          size = bytes.size + 2 * word.toNat))
      (Fault.IsUnloadable number) (version.layout.bufferSize number bytes heap) := by
  cases version with
  | sci0 =>
    simp only [Version.layout, bufferSize]
    split
    · rename_i declared found
      obtain ⟨word, read, rfl⟩ := Option.map_eq_some_iff.mp found
      -- The room for local variables comes behind the word that declares them.
      refine ⟨by simp [Script.buffer], by omega, fun _ => ⟨word, ?_, rfl⟩⟩
      exact word?_append read _
    · exact .inl ⟨_, _, rfl⟩
  | sci11 =>
    cases heap with
    | none => exact .inr rfl
    | some heap =>
      refine ⟨?_, Nat.le_add_right_of_le (Nat.le_add_right ..), by simp⟩
      simp [Script.buffer, Nat.add_assoc]

/-- The properties in which a format keeps what every object has. -/
def Layout.headerSlots (layout : Layout) : List Nat :=
  [layout.speciesSlot, layout.superclassSlot, layout.infoSlot, layout.nameSlot]

namespace Script

/-- A script and its local variables are well formed, given what they were loaded from. -/
structure WellFormed (version : Version) (number : UInt16) (segment : SegmentId) (bytes : Bytes)
    (heap : Option Bytes) (script : Script) (locals : Array Address) : Prop where
  /-- The script knows what it is and where it is. -/
  identity : script.number = number ∧ script.segment = segment
  /-- The buffer has the size that was reckoned beforehand. -/
  size : version.layout.bufferSize number bytes heap = .ok script.data.size
  /-- A segment can address all of it. -/
  fits : script.data.size ≤ segmentLimit
  /-- It starts with the script part. -/
  scriptPart : script.scriptSize = bytes.size ∧ script.scriptSize ≤ script.data.size
  /-- The heap part follows, if there is one. -/
  heapStart : script.heapStart = heapOffset version bytes heap
  /-- There is one object for each record, in order, at the base that the record has. -/
  objects : ∃ bases, HasObjects version script.data script.scriptSize script.heapStart bases ∧
    List.Forall₂ (fun base object => object.pos.offset.toNat = base ∧
      object.Sits version segment script.data.size base) bases script.objects.toList
  /-- The properties that every object has are there. -/
  header : ∀ object ∈ script.objects, ∀ slot ∈ object.layout.headerSlots,
    slot < object.properties.size
  /-- Objects are found by their offsets, and each by its own. -/
  index : ∀ offset index, script.objectIndex? offset = some index ↔
    ∃ object, script.objects[index]? = some object ∧ object.pos.offset = offset
  /-- Code lies in the script part. -/
  codeRanges : ∀ range ∈ script.codeRanges, range.1 ≤ range.2 ∧ range.2 ≤ script.scriptSize
  /-- No instruction that is read from the code reaches past it. -/
  listing : ∀ range ∈ script.codeRanges, ∀ pc instruction,
    decode (script.data.extract 0 range.2) pc = .ok instruction →
      pc + instruction.length ≤ range.2
  /-- Local variables are numbers or addresses in the script. -/
  locals : ∀ value ∈ locals, value.IsOwn segment

/--
A base without sixteen bits leads to no record.

Only the first format can have one, and its low bits lead into the header of the script. There is no
mark in front of them: the only place for one is the number of local variables, and that is zero.
-/
theorem results_parse_beyond {version : Version} {source : Source}
    {scriptSize heapStart base : Nat} {bases : List Nat} {segment : SegmentId}
    (has : HasObjects version source.data scriptSize heapStart bases)
    (fits : source.data.size ≤ segmentLimit)
    (declared : version = .sci0 → ∃ word, word? source.data 0 = some word ∧
      source.data.size = scriptSize + 2 * word.toNat)
    (member : base ∈ bases) (beyond : 65536 ≤ base) :
    (UInt16.ofNat base).toNat ∉ bases ∧
      Results (fun _ => False) source.Blames
        (Object.parse version source segment scriptSize (UInt16.ofNat base).toNat) := by
  rw [segmentLimit] at fits
  cases version with
  | sci0 =>
    obtain ⟨blocks, has, rfl⟩ := has
    obtain ⟨word, read, size⟩ := declared rfl
    obtain ⟨each, _⟩ := has.bases
    have here := each base member
    have wraps : (UInt16.ofNat base).toNat + 65536 = base := by
      rw [UInt16.toNat_ofNat']
      omega
    generalize (UInt16.ofNat base).toNat = low at wraps ⊢
    constructor
    · -- The start that is cut lies before all that were found.
      intro among
      have other := each _ among
      omega
    · apply (Object.results_parseSci0 segment low).mono
      rintro object ⟨_, header, marked⟩
      -- The mark would be the first word, which declares the local variables.
      rw [show low - 8 = 0 by omega, read] at marked
      rw [Option.some.inj marked] at size
      have positive : 0 < objectMagic.toNat := by decide
      omega
  | sci11 =>
    -- In the second format all records end inside the buffer.
    obtain ⟨count, _, has⟩ := has
    have here := has.bases.1 base member
    omega

/-- What was read and relocated is well formed. -/
theorem Composed.wellFormed {version : Version} {bases : List Nat} {script : Script}
    {locals : Array Address} {bytes : Bytes} {heap : Option Bytes}
    (composed : script.Composed version bases locals)
    (size : version.layout.bufferSize script.number bytes heap = .ok script.data.size)
    (fits : script.data.size ≤ segmentLimit)
    (scriptPart : script.scriptSize = bytes.size ∧ script.scriptSize ≤ script.data.size)
    (heapStart : script.heapStart = heapOffset version bytes heap)
    (has : HasObjects version script.data script.scriptSize script.heapStart bases)
    (codeRanges : ∀ range ∈ script.codeRanges, range.1 ≤ range.2 ∧ range.2 ≤ script.scriptSize) :
    script.WellFormed version script.number script.segment bytes heap locals where
  identity := ⟨rfl, rfl⟩
  size := size
  fits := fits
  scriptPart := scriptPart
  heapStart := heapStart
  objects := ⟨bases, has, composed.objects.imp fun _ _ keeps => ⟨keeps.offset, keeps.2⟩⟩
  header := by
    intro object member slot among
    -- Every object has a record, so it has the properties that its format asks for.
    obtain ⟨place, inside, rfl⟩ := List.getElem_of_mem (Array.mem_toList_iff.mpr member)
    have keeps := composed.objects.get (composed.objects.length_eq ▸ inside) inside
    have enough := keeps.2.enough
    have format : (script.objects.toList[place]).layout = version.layout := by
      rw [Object.layout]
      exact congrArg Version.layout keeps.2.format
    rw [format] at among
    refine Nat.lt_of_lt_of_le ?_ enough
    cases version <;> revert slot <;> decide
  index := objectIndex?_eq_some_iff composed.objects has.sorted
  codeRanges := codeRanges
  listing := by
    intro range member pc instruction read
    have bound := bound_of_decode read
    have inside := (codeRanges range member).2
    rw [Array.size_extract] at bound
    omega
  locals := composed.locals

/-- Reading the objects and setting the addresses gives a well-formed script. -/
theorem leads_compose {version : Version} {parts : Outline} {bare : Script} {bytes : Bytes}
    {heap : Option Bytes} (empty : bare.objects = #[]) (coded : bare.codeRanges = parts.codeRanges)
    (size : version.layout.bufferSize bare.number bytes heap = .ok bare.data.size)
    (fits : bare.data.size ≤ segmentLimit)
    (scriptPart : bare.scriptSize = bytes.size ∧ bare.scriptSize ≤ bare.data.size)
    (heapStart : bare.heapStart = heapOffset version bytes heap)
    (describes : parts.Describes version bare.data bare.scriptSize bare.heapStart)
    (declared : version = .sci0 → ∃ word, word? bare.data 0 = some word ∧
      bare.data.size = bare.scriptSize + 2 * word.toNat) (journal : Journal) :
    Leads (do
        let script ← Logged.quiet (bare.withObjects version parts.objectBases)
        ExceptT.lift (parts.relocations.toList.foldlM
          (relocate parts.localsRange parts.relocationDelta) (script, parts.locals))) journal
      (Either (fun loaded _ =>
          loaded.1.WellFormed version bare.number bare.segment bytes heap loaded.2)
        fun fault _ => fault.IsUnloadable bare.number) := by
  have none_ : List.Forall₂ (bare.Keeps version) [] bare.objects.toList := by simp [empty]
  have read := results_withObjects none_ describes.bases.sorted fun base member beyond =>
    results_parse_beyond describes.bases fits declared member beyond
  refine (read.weaken fun fault => .inl).leads_bind fun extended given => ?_
  obtain ⟨objects, rfl, kept⟩ := given
  rw [leads_lift, either_ok]
  have composed : Composed version parts.objectBases.toList { bare with objects } parts.locals :=
    ⟨kept, fun value member => .inl (describes.locals value member)⟩
  have after := composed.relocations parts.localsRange parts.relocationDelta
    parts.relocations.toList journal
  -- Setting addresses changes nothing of the script but its objects.
  obtain ⟨moved, same⟩ := relocations_objects parts.localsRange parts.relocationDelta
    parts.relocations.toList ({ bare with objects }, parts.locals) journal
  simp only at after
  rw [same] at after ⊢
  exact after.wellFormed size fits scriptPart heapStart describes.bases
    (coded ▸ describes.codeRanges)

/-- Loading gives a well-formed script, or says that the script is corrupt or that there is none. -/
theorem load_wellFormed (version : Version) (number : UInt16) (segment : SegmentId)
    (bytes : Bytes) (heap : Option Bytes) (journal : Journal) :
    Leads (load version number segment bytes heap) journal
      (Either (fun loaded _ => loaded.1.WellFormed version number segment bytes heap loaded.2)
        fun fault _ => fault.IsUnloadable number) := by
  have sized := Layout.results_bufferSize version number bytes heap
  unfold load
  rw [leads_bind, leads_quiet]
  cases reckoned : version.layout.bufferSize number bytes heap with
  | error fault =>
    rw [reckoned] at sized
    exact sized
  | ok size =>
    rw [reckoned] at sized
    obtain ⟨whole, longer, declared⟩ := sized
    rw [either_ok]
    -- A buffer that is too large is refused before anything is read.
    split
    · exact .inl ⟨_, _, rfl⟩
    · rename_i fits
      rw [leads_bind]
      apply (Outline.leads_outline ..).either
      · rintro ⟨parts, data⟩ between ⟨sameSize, sameData, describes, _⟩
        simp only [whole] at sameSize sameData describes
        subst sameSize
        -- In the first format the buffer starts with the number of local variables.
        have counted : version = .sci0 → ∃ word, word? data 0 = some word ∧
            data.size = bytes.size + 2 * word.toNat := by
          intro first
          rw [sameData first, whole]
          exact declared first
        exact leads_compose rfl rfl reckoned (Nat.le_of_not_lt fits) ⟨rfl, longer⟩ rfl describes
          counted between
      · exact fun fault _ blamed => .inl blamed

end Script

end AdventureVm
