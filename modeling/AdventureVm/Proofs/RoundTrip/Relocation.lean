import AdventureVm.Proofs.RoundTrip.Drafts
import AdventureVm.Script.Load

/-! Setting the addresses of a script: the words that were written as addresses become such. -/

namespace AdventureVm

/-- Changing the member after a front changes that member alone. -/
theorem modify_append {α : Type} (front : List α) (item : α) (back : List α) (change : α → α) :
    (front ++ item :: back).toArray.modify front.length change =
      (front ++ change item :: back).toArray := by
  -- Induction on the front, which is as long as the index says.
  apply Array.ext'
  simp only [Array.toList_modify]
  induction front with
  | nil => rfl
  | cons first front ih =>
    simp only [List.cons_append, List.length_cons, List.modify_succ_cons, ih]

namespace Cell

/-- The addresses in two rows of words are those of the first and then those of the second. -/
theorem pointers_append (start : Nat) (front back : List Cell) :
    pointers start (front ++ back) =
      pointers start front ++ pointers (start + 2 * front.length) back := by
  induction front generalizing start with
  | nil => rfl
  | cons cell front ih =>
    simp only [List.cons_append, pointers, ih, List.length_cons]
    rw [show start + 2 + 2 * front.length = start + 2 * (front.length + 1) by omega]
    -- The word may be an address, which is then listed first.
    split
    · rfl
    · rfl

/-- The addresses move along with the row. -/
theorem map_pointers (distance start : Nat) (cells : List Cell) :
    (pointers start cells).map (distance + ·) = pointers (distance + start) cells := by
  induction cells generalizing start with
  | nil => rfl
  | cons cell cells ih =>
    simp only [pointers]
    rw [show distance + start + 2 = distance + (start + 2) by omega, ← ih]
    -- The word may be an address, which is then listed first.
    split
    · rfl
    · rfl

/-- The addresses lie in the row. -/
theorem mem_pointers {start offset : Nat} {cells : List Cell}
    (member : offset ∈ pointers start cells) :
    start ≤ offset ∧ offset < start + 2 * cells.length := by
  -- The row goes on one word further, so its start stays quantified over.
  induction cells generalizing start with
  | nil => cases member
  | cons cell cells ih =>
    rw [List.length_cons]
    simp only [pointers] at member
    split at member
    · rcases List.mem_cons.mp member with rfl | later
      · omega
      · have bounds := ih later
        omega
    · have bounds := ih member
      omega

/-- What a word that was written as an address is changed into becomes its address. -/
theorem address_of_pointer {cell : Cell} (pointer : cell.isPointer = true) (segment : SegmentId)
    (delta : Nat) :
    cell.address segment delta =
      ⟨segment, (Address.number cell.word).offset + UInt16.ofNat delta⟩ := by
  rw [address, if_pos pointer]
  rfl

/-- A word that was not written as an address stays a number. -/
theorem address_of_number {cell : Cell} (plain : ¬ cell.isPointer = true) (segment : SegmentId)
    (delta : Nat) : cell.address segment delta = .number cell.word := by
  rw [address, if_neg plain]

/-- A row of words, of which those of a front already hold their addresses. -/
def partlySet (segment : SegmentId) (delta : Nat) (done rest : List Cell) : Array Address :=
  (done.map (address segment delta) ++ rest.map fun cell => Address.number cell.word).toArray

/-- Setting the first address that is not set yet. -/
theorem partlySet_of_pointer {cell : Cell} (pointer : cell.isPointer = true) (segment : SegmentId)
    (delta : Nat) (done rest : List Cell) :
    (partlySet segment delta done (cell :: rest)).modify done.length
        (fun value => ⟨segment, value.offset + UInt16.ofNat delta⟩) =
      partlySet segment delta (done ++ [cell]) rest := by
  -- The address to be set comes right after those that are done.
  have length : done.length = (done.map (address segment delta)).length := by
    rw [List.length_map]
  rw [partlySet, partlySet, List.map_cons, length, modify_append, ← address_of_pointer pointer]
  simp

/-- A word that is no address is as it should be from the start. -/
theorem partlySet_of_number {cell : Cell} (plain : ¬ cell.isPointer = true) (segment : SegmentId)
    (delta : Nat) (done rest : List Cell) :
    partlySet segment delta done (cell :: rest) =
      partlySet segment delta (done ++ [cell]) rest := by
  -- Only addresses are set, so it may count as done.
  rw [partlySet, partlySet, List.map_cons, ← address_of_number plain segment delta]
  simp

/--
Setting the addresses in a row of words, wherever the row is kept.

It is enough that one step sets the word that its offset leads to.
-/
theorem foldlM_pointers {σ : Type} {segment : SegmentId} {delta start : Nat} {cells : List Cell}
    {step : σ → Nat → StateM Journal σ} (around : Array Address → σ)
    (one : ∀ values index, values.size = cells.length → index < cells.length →
      step (around values) (start + 2 * index) =
        pure (around (values.modify index fun value =>
          ⟨segment, value.offset + UInt16.ofNat delta⟩))) :
    (pointers start cells).foldlM step
        (around (cells.map fun cell => Address.number cell.word).toArray) =
      pure (around (cells.map (address segment delta)).toArray) := by
  -- The words of a front are done, and those of the rest still hold plain numbers.
  have partly : ∀ done rest, done ++ rest = cells →
      (pointers (start + 2 * done.length) rest).foldlM step
          (around (partlySet segment delta done rest)) =
        pure (around (partlySet segment delta cells [])) := by
    intro done rest whole
    induction rest generalizing done with
    | nil =>
      rw [List.append_nil] at whole
      rw [whole]
      rfl
    | cons cell rest ih =>
      -- One more word is done, whether it needed a change or not.
      have next := ih (done ++ [cell]) (by rw [List.append_assoc, List.singleton_append, whole])
      rw [List.length_append, List.length_singleton, Nat.mul_add, ← Nat.add_assoc] at next
      have length := congrArg List.length whole
      rw [List.length_append, List.length_cons] at length
      rw [pointers]
      by_cases pointer : cell.isPointer = true
      · rw [if_pos pointer, List.foldlM_cons, one _ _ ?_ (by omega), pure_bind,
          partlySet_of_pointer pointer]
        · exact next
        · simp [partlySet, length]
      · rw [if_neg pointer, partlySet_of_number pointer]
        exact next
  simpa [partlySet] using partly [] cells rfl

end Cell

/-- What follows a success goes on with its value. -/
theorem Logged.run_bind {α β : Type} {first : Logged α} {next : α → Logged β}
    {journal after : Journal} {value : α} (ran : first.run journal = (.ok value, after)) :
    (first >>= next).run journal = (next value).run after := by
  -- The first piece is known to succeed, so the composition goes on with its value.
  change ((first.run >>= ExceptT.bindCont next) : StateM Journal _) journal = _
  change (ExceptT.bindCont next (first.run journal).1) (first.run journal).2 = _
  rw [ran]
  rfl

/-- What follows a success that records nothing goes on with its value. -/
theorem Logged.run_quiet_bind {α β : Type} {result : Except Fault α} {next : α → Logged β}
    {journal : Journal} {value : α} (same : result = .ok value) :
    (Logged.quiet result >>= next).run journal = (next value).run journal := by
  -- Nothing is recorded, so the journal goes on as it was.
  subst same
  rfl

namespace Script

variable {range : Option (Nat × Nat)} {delta : Nat} {script : Script}

/-- The first object that holds an offset is found behind those that do not. -/
theorem findIdx?_span {front back : List Object} {object : Object} {offset : Nat}
    (holds : within object.span offset = true)
    (apart : ∀ other ∈ front, within other.span offset = false) :
    (front ++ object :: back).toArray.findIdx? (fun object => within object.span offset) =
      some front.length := by
  -- In front no object holds the offset; the next one does.
  have none_ : front.findIdx? (fun object => within object.span offset) = none :=
    List.findIdx?_eq_none_iff.mpr apart
  rw [List.findIdx?_toArray, List.findIdx?_append, none_, List.findIdx?_cons, if_pos holds]
  simp

/-- Setting the addresses in the properties of the object that a draft has become. -/
theorem foldlM_relocate_draft {definition : ScriptDefinition} {locals : Array Address}
    {front back : List Object} {draft : Draft} (small : delta + draft.place < 65536)
    (apart : ∀ offset, delta + draft.place ≤ offset →
      offset < delta + draft.place + 2 * draft.cells.length →
      range.filter (within · offset) = none ∧ ∀ other ∈ front, within other.span offset = false) :
    (Cell.pointers (delta + draft.place) draft.cells).foldlM (relocate range (UInt16.ofNat delta))
        ({ script with objects :=
          (front ++ draft.parsed definition script.segment delta :: back).toArray }, locals) =
      pure ({ script with objects :=
        (front ++ draft.relocated definition script.segment delta :: back).toArray }, locals) := by
  have begins : (draft.parsed definition script.segment delta).pos.offset.toNat =
      delta + draft.place := toNat_word small
  -- The row that is set is that of the properties of the object.
  let around (values : Array Address) : Script × Array Address :=
    ({ script with objects := (front ++
      { draft.parsed definition script.segment delta with properties := values } ::
        back).toArray }, locals)
  apply Cell.foldlM_pointers around
  intro values index sized inside
  obtain ⟨outside, others⟩ := apart (delta + draft.place + 2 * index) (by omega) (by omega)
  -- The word belongs to no variable and to no object before this one.
  have holds : within (Object.span { draft.parsed definition script.segment delta with
      properties := values }) (delta + draft.place + 2 * index) = true := by
    simp [within, Object.span, begins]
    omega
  have slot : (delta + draft.place + 2 * index - (delta + draft.place)) / 2 = index := by omega
  simp only [around, relocate, outside, findIdx?_span holds others, modify_append,
    Object.relocate]
  simp only [Object.span, begins, slot]

/-- Setting the addresses in the properties of all objects, one object after the other. -/
theorem foldlM_relocate_drafts {definition : ScriptDefinition} {locals : Array Address}
    (front : List Object) (drafts : List Draft)
    (small : ∀ draft ∈ drafts, delta + draft.place < 65536)
    (ordered : drafts.Pairwise fun first second =>
      first.place + 2 * first.cells.length ≤ second.place)
    (apart : ∀ draft ∈ drafts, ∀ offset, delta + draft.place ≤ offset →
      offset < delta + draft.place + 2 * draft.cells.length →
      range.filter (within · offset) = none ∧ ∀ other ∈ front, within other.span offset = false) :
    (drafts.flatMap fun draft => Cell.pointers (delta + draft.place) draft.cells).foldlM
        (relocate range (UInt16.ofNat delta))
        ({ script with objects :=
          (front ++ drafts.map (Draft.parsed definition script.segment delta)).toArray }, locals) =
      pure ({ script with objects :=
        (front ++ drafts.map (Draft.relocated definition script.segment delta)).toArray },
          locals) := by
  induction drafts generalizing front with
  | nil => rfl
  | cons draft drafts ih =>
    have smallHere := small draft List.mem_cons_self
    obtain ⟨behind, orderedThen⟩ := List.pairwise_cons.mp ordered
    -- The pointers of one object are relocated, and it joins the objects in front.
    rw [List.flatMap_cons, List.foldlM_append, List.map_cons, List.map_cons,
      foldlM_relocate_draft smallHere (apart draft List.mem_cons_self), pure_bind,
      List.append_cons front _ (drafts.map (Draft.parsed definition script.segment delta)),
      List.append_cons front _ (drafts.map (Draft.relocated definition script.segment delta))]
    apply ih (front ++ [draft.relocated definition script.segment delta])
    · exact fun later member => small later (List.mem_cons_of_mem _ member)
    · exact orderedThen
    · intro later member offset low high
      obtain ⟨outside, others⟩ := apart later (List.mem_cons_of_mem _ member) offset low high
      refine ⟨outside, ?_⟩
      intro other among
      rcases List.mem_append.mp among with old | new
      · exact others other old
      · -- The object that was just done ends before the later one starts.
        have after := behind later member
        rw [List.mem_singleton.mp new]
        simp only [within, Object.span, Draft.relocated, Draft.parsed, UInt16.toNat_ofNat',
          List.size_toArray, List.length_map, Bool.and_eq_false_iff, decide_eq_false_iff_not]
        omega

/-- The offsets of the addresses in all objects. -/
def draftPointers (delta : Nat) (drafts : List Draft) : List Nat :=
  drafts.flatMap fun draft => Cell.pointers (delta + draft.place) draft.cells

/-- The offsets of the addresses in objects that follow each other are those of all their words. -/
theorem draftPointers_eq {drafts : List Draft} {start : Nat}
    (placed : drafts.map (·.place) = running start (drafts.map (2 * ·.cells.length))) :
    draftPointers delta drafts =
      Cell.pointers (delta + start) (drafts.map (·.cells)).flatten := by
  -- Induction on the drafts: the first starts where the words do, the others follow it.
  induction drafts generalizing start with
  | nil => rfl
  | cons draft drafts ih =>
    rw [List.map_cons, List.map_cons, running, List.cons.injEq] at placed
    rw [List.map_cons, List.flatten_cons, Cell.pointers_append, Nat.add_assoc, ← ih placed.2,
      ← placed.1]
    rfl

/-- Setting the addresses in the objects and leaving the local variables alone. -/
theorem foldlM_relocate_objects (definition : ScriptDefinition) (script : Script)
    (locals : Array Address) {drafts : List Draft}
    (small : ∀ draft ∈ drafts, delta + draft.place < 65536)
    (ordered : drafts.Pairwise fun first second =>
      first.place + 2 * first.cells.length ≤ second.place)
    (outside : ∀ draft ∈ drafts, ∀ offset, delta + draft.place ≤ offset →
      offset < delta + draft.place + 2 * draft.cells.length →
      range.filter (within · offset) = none) :
    (draftPointers delta drafts).foldlM (relocate range (UInt16.ofNat delta))
        ({ script with objects :=
          -- The general step is for drafts after others; here no draft is done yet.
          (drafts.map (Draft.parsed definition script.segment delta)).toArray }, locals) =
      pure ({ script with objects :=
        (drafts.map (Draft.relocated definition script.segment delta)).toArray }, locals) := by
  apply foldlM_relocate_drafts [] drafts small ordered
  intro draft member offset low high
  exact ⟨outside draft member offset low high, by simp⟩

/-- Setting the addresses in the local variables and leaving the objects alone. -/
theorem foldlM_relocate_values (script : Script) {cells : List Cell} {start : Nat}
    (covers : ∀ offset, start ≤ offset → offset < start + 2 * cells.length →
      range.filter (within · offset) = some (start, start + 2 * cells.length)) :
    (Cell.pointers start cells).foldlM (relocate range (UInt16.ofNat delta))
        (script, (cells.map fun cell => Address.number cell.word).toArray) =
      pure (script, (cells.map (Cell.address script.segment delta)).toArray) := by
  -- An offset inside of the words is that of a slot, two bytes for each.
  apply Cell.foldlM_pointers fun values => (script, values)
  intro values index _ inside
  have here := covers (start + 2 * index) (by omega) (by omega)
  have slot : (start + 2 * index - start) / 2 = index := by omega
  simp only [relocate, here, slot]

/-- The objects that drafts have become are read one after the other. -/
theorem foldlM_instantiate_drafts (definition : ScriptDefinition) (script : Script)
    (done drafts : List Draft)
    (read : ∀ draft ∈ drafts, Object.parse definition.version ⟨script.number, script.data⟩
      script.segment script.scriptSize (delta + draft.place) =
        .ok (draft.parsed definition script.segment delta))
    (small : ∀ draft ∈ done ++ drafts, delta + draft.place < 65536)
    (ordered : (done ++ drafts).Pairwise fun first second => first.place < second.place) :
    (drafts.map (delta + ·.place)).foldlM (fun script base => do
        return (← script.instantiateObject definition.version (UInt16.ofNat base)).2)
        { script with objects :=
          (done.map (Draft.parsed definition script.segment delta)).toArray } =
      .ok { script with objects :=
        ((done ++ drafts).map (Draft.parsed definition script.segment delta)).toArray } := by
  induction drafts generalizing done with
  | nil =>
    rw [List.append_nil]
    rfl
  | cons draft drafts ih =>
    have smallHere := small draft (by simp)
    have toNat := toNat_word smallHere
    -- The objects that were read before start at other places.
    have unread : (done.map (Draft.parsed definition script.segment delta)).findIdx?
        (·.pos.offset == UInt16.ofNat (delta + draft.place)) = none := by
      rw [List.findIdx?_eq_none_iff]
      intro object among
      obtain ⟨earlier, member, rfl⟩ := List.mem_map.mp among
      have before := (List.pairwise_append.mp ordered).2.2 earlier member draft List.mem_cons_self
      have smallThere := small earlier (List.mem_append_left _ member)
      rw [beq_eq_false_iff_ne, ne_eq, ← UInt16.toNat_inj, toNat]
      simp only [Draft.parsed, UInt16.toNat_ofNat']
      omega
    -- So the object is read afresh and put behind the others.
    have step : ({ script with objects :=
        (done.map (Draft.parsed definition script.segment delta)).toArray } :
          Script).instantiateObject definition.version (UInt16.ofNat (delta + draft.place)) =
        .ok (done.length, { script with objects :=
          ((done ++ [draft]).map (Draft.parsed definition script.segment delta)).toArray }) := by
      simp only [instantiateObject, objectIndex?, List.findIdx?_toArray, unread, toNat,
        read draft List.mem_cons_self]
      simp [bind, Except.bind, pure, Except.pure]
    have next := ih (done ++ [draft])
      (fun later member => read later (List.mem_cons_of_mem _ member)) (by simpa using small)
      (by simpa using ordered)
    rw [List.append_cons, List.map_cons, List.foldlM_cons, step]
    exact next

/-- Loading a script, once the parts that its bytes are made of are known. -/
theorem run_load {definition : ScriptDefinition} {segment : SegmentId} {bytes : Bytes}
    {heap : Option Bytes} {size : Nat} {parts : Outline} {data : Bytes} {journal : Journal}
    {drafts : List Draft} {cells : List Cell}
    (sized : definition.version.layout.bufferSize definition.number bytes heap = .ok size)
    (fits : size ≤ segmentLimit)
    (outlined : (outline definition.version
      ⟨definition.number, buffer definition.version bytes heap size⟩ bytes.size
      (heapOffset definition.version bytes heap)).run journal = (.ok (parts, data), journal))
    (bases : parts.objectBases = (drafts.map (delta + ·.place)).toArray)
    (read : ∀ draft ∈ drafts, Object.parse definition.version ⟨definition.number, data⟩ segment
      bytes.size (delta + draft.place) = .ok (draft.parsed definition segment delta))
    (small : ∀ draft ∈ drafts, delta + draft.place < 65536)
    (ordered : drafts.Pairwise fun first second => first.place < second.place)
    (relocated : ∀ script : Script, script.segment = segment →
      parts.relocations.toList.foldlM (relocate parts.localsRange parts.relocationDelta)
        ({ script with objects := (drafts.map (Draft.parsed definition segment delta)).toArray },
          parts.locals) =
      pure ({ script with objects :=
        (drafts.map (Draft.relocated definition segment delta)).toArray },
          (cells.map (Cell.address segment delta)).toArray)) :
    ∃ script, (load definition.version definition.number segment bytes heap).run journal =
        (.ok (script, (cells.map (Cell.address segment delta)).toArray), journal) ∧
      script.number = definition.number ∧ script.segment = segment ∧ script.data = data ∧
      script.exports = parts.exports ∧ script.synonyms = parts.synonyms ∧
      script.codeRanges = parts.codeRanges ∧
      script.objects = (drafts.map (Draft.relocated definition segment delta)).toArray := by
  -- The objects are read into a script that has everything but objects.
  let bare : Script :=
    { number := definition.number, segment, data, scriptSize := bytes.size
      heapStart := heapOffset definition.version bytes heap, exports := parts.exports
      synonyms := parts.synonyms, codeRanges := parts.codeRanges }
  have objects : bare.withObjects definition.version parts.objectBases = .ok { bare with objects :=
      (drafts.map (Draft.parsed definition segment delta)).toArray } := by
    rw [withObjects, bases]
    exact foldlM_instantiate_drafts definition bare [] drafts read small ordered
  refine ⟨{ bare with objects := (drafts.map (Draft.relocated definition segment delta)).toArray },
    ?_, rfl, rfl, rfl, rfl, rfl, rfl, rfl⟩
  -- The stages succeed one after the other, and the journal gets no record.
  unfold load
  rw [Logged.run_quiet_bind sized, if_neg (by omega)]
  simp only
  rw [Logged.run_bind outlined, Logged.run_quiet_bind objects, relocated bare rfl]
  rfl

end Script

end AdventureVm
