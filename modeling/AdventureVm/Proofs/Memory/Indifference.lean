import AdventureVm.Proofs.Memory.Twins

/-!
An empty place at the end of the table makes no difference.

Whatever is done to memory comes to the same with it as without it.
-/

namespace AdventureVm

/-- Work that comes to the same in twins and leaves twins behind. -/
def StoreM.Indifferent {α : Type} (work : StoreM α) : Prop :=
  ∀ ⦃front back : Journal⦄ ⦃first second : Store⦄, Store.Twins front back first second →
    RunsAlike (Store.Twins front back) work.run first second

namespace Store

open StoreM

section Residency

/-- Taking a segment out of memory is indifferent work. -/
theorem free_indifferent (id : SegmentId) : (free id).Indifferent :=
  fun _ _ first second twins => deallocate_twins first second id twins

/-- Dropping a lock is indifferent work. -/
theorem uninstantiateScript_indifferent (number : UInt16) :
    (uninstantiateScript number).Indifferent :=
  fun _ _ first second twins => ⟨rfl, release_twins first [number] second twins⟩

/-- Giving a script its variables is indifferent work. -/
theorem withLocals_indifferent (script : Script) (locals : Array Address) :
    (withLocals script locals).Indifferent := by
  -- Without variables nothing is put in.
  intro front back first second twins
  unfold withLocals
  split
  · exact ⟨rfl, twins⟩
  · apply (twins.insert _).andThen
    intro id _ _ _ twins
    exact ⟨rfl, twins⟩

/-- Reading a script from its resources is indifferent work. -/
theorem fillScript_indifferent (id : SegmentId) (number : UInt16) (bytes : Bytes)
    (heap : Option Bytes) : (fillScript id number bytes heap).Indifferent := by
  -- The version is read, the script is loaded, its variables are put in.
  intro front back first second twins
  apply (twins.read fun _ => rfl).andThen
  intro version _ _ _ twins
  apply (twins.ofLogged (Script.load_runsAlike version number id bytes heap twins.journals)).andThen
  rintro ⟨script, locals⟩ _ _ _ twins
  exact withLocals_indifferent script locals twins

/-- A new segment is in a place of the table. -/
theorem inside_of_insert {segment : Segment} {store after : Store} {id : SegmentId}
    (framed : store.heap.Framed) (ran : (insert segment).run store = (.ok id, after)) :
    id.toNat < after.heap.segments.size := by
  -- The failure to find a place says nothing about the place.
  have reached : Leads (insert segment) store fun outcome after =>
      outcome = .ok id → id.toNat < after.heap.segments.size := by
    rw [leads_insert]
    cases next : store.heap.nextId? with
    | none => exact fun impossible => nomatch impossible
    | some place =>
      rintro same
      obtain rfl : place = id := Except.ok.inj same
      exact Heap.inside_insert (Heap.nextId?_spec framed.opened next).1 segment
  rw [Leads, ran] at reached
  exact reached rfl

/-- The table does not shrink while a script is read, and a failure leaves memory as it is. -/
theorem fillScript_reaches (id : SegmentId) (number : UInt16) (bytes : Bytes)
    (heap : Option Bytes) (store : Store) :
    Leads (fillScript id number bytes heap) store
      (Either (fun _ after => store.heap.segments.size ≤ after.heap.segments.size)
        fun _ after => after.heap = store.heap) := by
  simp only [fillScript, leads_bind, leads_read, either_ok, leads_ofLogged]
  generalize (Script.load _ number id bytes heap).run store.journal = loaded
  obtain ⟨result, journal⟩ := loaded
  cases result with
  | error fault => rfl
  | ok made =>
    obtain ⟨script, locals⟩ := made
    simp only [either_ok, withLocals]
    split
    · exact Nat.le_refl _
    · -- Only the variables may need a place.
      rw [leads_bind, leads_insert]
      cases store.heap.nextId? with
      | none => rfl
      | some place => exact Heap.size_le_insert _ _ _

/-- Loading a script is indifferent work. -/
theorem loadScript_indifferent (resources : Resources) (number : UInt16) :
    (loadScript resources number).Indifferent := by
  intro front back first second twins
  apply (twins.read fun _ => rfl).andThen
  intro resident _ _ _ twins
  -- A resident script is answered at once, and what is missing is noticed before a place is taken.
  cases resident with
  | some id => exact ⟨rfl, twins⟩
  | none =>
    simp only
    cases resources.script? number with
    | none => exact ⟨rfl, twins⟩
    | some bytes =>
      apply (twins.read fun _ => rfl).andThen
      intro version _ _ _ twins
      apply (twins.require fun _ => rfl).andThen
      intro heap _ _ _ twins
      have framed := twins.framed
      apply (twins.insert _).andThen
      intro id reserved _ taken twins
      have inside := inside_of_insert framed taken
      apply (fillScript_indifferent id number bytes heap twins).outcome.andThen
      intro result after _ filled twins
      have ended : (fillScript id number bytes heap).run reserved = (result, after) := by
        obtain ⟨same, left⟩ := Prod.mk.inj filled
        exact Prod.ext (Except.ok.inj same) left
      have reached := fillScript_reaches id number bytes heap reserved
      rw [Leads, ended] at reached
      -- The place that was taken is still one of the table when it is given up or filled.
      cases result with
      | error fault =>
        have place : id.toNat < after.heap.segments.size := by
          rw [reached]
          exact inside
        exact ⟨rfl, twins.mapHeap (twins.framed.put place none)⟩
      | ok script =>
        have place : id.toNat < after.heap.segments.size := Nat.lt_of_lt_of_le inside reached
        -- The classes, the script and the resident are set one after the other.
        have known := twins.framed.classes fun classes =>
          (script.objects.filter (·.isClass)).foldl
            (fun classes object => classes.register object.species script.number object.pos) classes
        have placed := known.andThen (known.framed.put (known.size ▸ place) (some (.script script)))
        have resident := placed.andThen (placed.framed.setResident number (placed.size ▸ place))
        exact ⟨rfl, (twins.noted _ _).mapHeap resident⟩

/-- Locking the scripts of superclasses is indifferent work if locking each is. -/
theorem lockOwners_indifferent {lock : UInt16 → StoreM SegmentId}
    (each : ∀ owner, (lock owner).Indifferent) (number : UInt16) (species locked : List UInt16) :
    (lockOwners lock number species locked).Indifferent := by
  -- The list of locked scripts grows from species to species, so it stays quantified over.
  induction species generalizing locked with
  | nil =>
    intro front back first second twins
    exact ⟨rfl, twins⟩
  | cons kind rest ih =>
    intro front back first second twins
    unfold lockOwners
    apply (twins.read fun _ => rfl).andThen
    intro known _ _ _ twins
    cases known with
    | none =>
      apply (twins.note _ _).andThen
      intro _ _ _ _ twins
      exact ih locked twins
    | some owner =>
      simp only
      split
      · exact ih locked twins
      · apply (each owner twins).outcome.andThen
        intro result _ _ _ twins
        -- Both memories give the same outcome, so both lists grow alike or end alike.
        cases result with
        | ok id => exact ih (locked ++ [owner]) twins
        | error fault => exact ⟨rfl, twins⟩

/-- Taking back locks is indifferent work. -/
theorem rollBack_indifferent (resident : Bool) (id : SegmentId) (locked : List UInt16) :
    (rollBack resident id locked).Indifferent := by
  intro front back first second twins
  -- The locks on superclasses go first, one after the other.
  have released : (locked.forM uninstantiateScript).Indifferent := by
    induction locked with
    | nil => exact fun _ _ _ _ twins => ⟨rfl, twins⟩
    | cons number rest ih =>
      intro front back first second twins
      apply (uninstantiateScript_indifferent number twins).andThen
      intro _ _ _ _ twins
      exact ih twins
  apply (released twins).andThen
  intro _ _ _ _ twins
  split
  · apply (twins.require fun _ => Heap.script_spaced).andThen
    intro _ _ _ _ twins
    exact twins.change (twins.framed.modify id _)
  · exact free_indifferent id twins

/-- Locking a script, however deep superclasses are followed, is indifferent work. -/
theorem instantiateWithin_indifferent (resources : Resources) (bound : Nat) (number : UInt16) :
    (instantiateWithin resources bound number).Indifferent := by
  -- Superclasses lead to other scripts with a smaller bound.
  induction bound generalizing number with
  | zero => exact fun _ _ _ _ twins => ⟨rfl, twins⟩
  | succ bound ih =>
    intro front back first second twins
    apply (twins.read fun _ => rfl).andThen
    intro resident _ _ _ twins
    apply (loadScript_indifferent resources number twins).andThen
    intro id _ _ _ twins
    apply (twins.require fun _ => Heap.script_spaced).andThen
    intro script _ _ _ twins
    apply (twins.change (twins.framed.modify id _)).andThen
    intro _ _ _ _ twins
    split
    · exact ⟨rfl, twins⟩
    · -- A refusal is rolled back alike in both.
      apply (lockOwners_indifferent ih number script.superclasses [] twins).andThen
      intro failure _ _ _ twins
      cases failure with
      | none => exact ⟨rfl, twins⟩
      | some refused =>
        apply (rollBack_indifferent resident id refused.2 twins).andThen
        intro _ _ _ _ twins
        exact ⟨rfl, twins⟩

/-- Locking a script is indifferent work. -/
theorem instantiateScript_indifferent (resources : Resources) (number : UInt16) :
    (instantiateScript resources number).Indifferent := by
  rw [instantiateScript]
  exact instantiateWithin_indifferent resources _ number

/-- Reading one more object of a script is indifferent work. -/
theorem instantiateObject_indifferent (id : SegmentId) (offset : UInt16) :
    (instantiateObject id offset).Indifferent := by
  intro front back first second twins
  apply (twins.require fun _ => Heap.script_spaced).andThen
  intro script after _ asked twins
  rw [run_require] at asked
  obtain ⟨found, rfl⟩ := Prod.mk.inj asked
  apply (twins.read fun _ => rfl).andThen
  intro version after _ same twins
  obtain rfl : first = after := congrArg Prod.snd same
  apply (twins.require fun _ => rfl).andThen
  rintro ⟨index, extended⟩ after _ read twins
  rw [run_require] at read
  obtain ⟨_, rfl⟩ := Prod.mk.inj read
  -- The script is in a place of the table, which it keeps.
  have inside := Heap.inside_of_get? (Heap.script_eq_ok.mp found)
  apply (twins.change (twins.framed.put inside _)).andThen
  intro _ _ _ _ twins
  -- An object that is a class is registered in both tables.
  cases extended.objects[index]? with
  | none => exact ⟨rfl, twins⟩
  | some object =>
    simp only
    split
    · apply (twins.change (twins.framed.classes fun classes =>
        classes.register object.species script.number object.pos)).andThen
      intro _ _ _ _ twins
      exact ⟨rfl, twins⟩
    · exact ⟨rfl, twins⟩

end Residency

section Records

/-- Finding the pool for new records is indifferent work. -/
theorem currentPool_indifferent (kind : SegmentKind) : (currentPool kind).Indifferent := by
  intro front back first second twins
  apply (twins.read fun _ => rfl).andThen
  intro current _ _ _ twins
  -- Both memories have the pool, or neither has.
  split
  · exact ⟨rfl, twins⟩
  · apply (twins.insert _).andThen
    intro id _ _ _ twins
    apply (twins.change (twins.framed.pools fun pools => pools.set kind id)).andThen
    intro _ _ _ _ twins
    exact ⟨rfl, twins⟩

/-- Making a record is indifferent work. -/
theorem create_indifferent {α : Type} (records : RecordKind α) (make : Address → α) :
    (create records make).Indifferent := by
  intro front back first second twins
  -- Both runs find the same pool and the same slot in it.
  apply (currentPool_indifferent records.kind twins).andThen
  intro id _ _ _ twins
  apply (twins.read fun heap => by simp).andThen
  intro slot _ _ _ twins
  match slot with
  | none => exact ⟨rfl, twins⟩
  | some none => exact ⟨rfl, twins⟩
  | some (some index) =>
    apply (twins.change (twins.framed.modify id _)).andThen
    intro _ _ _ _ twins
    exact ⟨rfl, twins⟩

/-- Making a clone is indifferent work. -/
theorem createClone_indifferent (origin : Address) : (createClone origin).Indifferent := by
  -- Twins show the same origin, so the copies are the same.
  intro front back first second twins
  apply (twins.require fun _ => Heap.object_spaced).andThen
  intro object _ _ _ twins
  exact create_indifferent .clones object.cloneAt twins

/-- Making a block in a segment of its own is indifferent work. -/
theorem createDynmem_indifferent (size : Nat) (description : String) :
    (createDynmem size description).Indifferent := by
  -- A size that is refused is refused for both.
  intro front back first second twins
  unfold createDynmem
  split
  · exact ⟨rfl, twins⟩
  · apply (twins.insert _).andThen
    intro id _ _ _ twins
    exact ⟨rfl, twins⟩

/-- Failing to find something at an address is indifferent work. -/
theorem throwInvalid_indifferent {α : Type} (address : Address) :
    (do throw (← StoreM.read (·.invalid address 0)) : StoreM α).Indifferent := by
  -- What the fault says of the address is the same for twins.
  intro front back first second twins
  apply (twins.read fun _ => Heap.invalid_spaced).andThen
  intro fault _ _ _ twins
  exact ⟨rfl, twins⟩

/-- Freeing a record is indifferent work. -/
theorem freeRecord_indifferent (kind : SegmentKind) (address : Address) :
    (freeRecord kind address).Indifferent := by
  -- Twins have a record at the address, or neither has.
  intro front back first second twins
  apply (twins.read fun heap => by simp).andThen
  intro present _ _ _ twins
  split
  · exact twins.change (twins.framed.modify address.segment _)
  · exact throwInvalid_indifferent address twins

/-- Freeing a block in a segment of its own is indifferent work. -/
theorem freeDynmem_indifferent (address : Address) : (freeDynmem address).Indifferent := by
  -- Twins have the same kind of segment there.
  intro front back first second twins
  apply (twins.read fun _ => Heap.kind?_spaced).andThen
  intro kind _ _ _ twins
  split
  · exact free_indifferent address.segment twins
  · exact throwInvalid_indifferent address twins

/-- Freeing what is at an address is indifferent work. -/
theorem freeAt_indifferent (address : Address) : (freeAt address).Indifferent := by
  intro front back first second twins
  apply (twins.read fun _ => Heap.kind?_spaced).andThen
  intro kind _ _ _ twins
  -- Both memories have the same kind of segment there.
  split
  · exact free_indifferent address.segment twins
  · split
    · exact freeRecord_indifferent _ address twins
    · exact throwInvalid_indifferent address twins
  · exact throwInvalid_indifferent address twins

end Records

section Values

/-- Replacing what is in a place, if it can be replaced, is indifferent work. -/
theorem replace_indifferent (address : Address) (replaced? : Segment → Option Segment)
    (requested : Nat) :
    (attempt fun heap =>
      match (heap.get? address.segment).bind replaced? with
      | some segment => .ok (heap.put address.segment (some segment))
      | none => .error (heap.invalid address requested)).Indifferent := by
  intro front back first second twins
  have invalid := twins.same (·.invalid address requested) fun _ => Heap.invalid_spaced
  cases replaced : (first.heap.get? address.segment).bind replaced? with
  | none =>
    have replacedToo : (second.heap.get? address.segment).bind replaced? = none := by
      rw [twins.get?, replaced]
    exact twins.attempt_error (by rw [replaced]) (by rw [replacedToo, invalid])
  | some segment =>
    -- What can be replaced is in a place of the table.
    obtain ⟨before, found, _⟩ := Option.bind_eq_some_iff.mp replaced
    have replacedToo : (second.heap.get? address.segment).bind replaced? = some segment := by
      rw [twins.get?, replaced]
    have passes := twins.framed.put (Heap.inside_of_get? found) (some segment)
    exact twins.attempt_ok passes (by rw [replaced]) (by rw [replacedToo])

/-- What is in a place decides whether a word or a value is stored there. -/
theorem writeValue_eq (heap : Heap) (address value : Address) :
    heap.writeValue address value =
      match (heap.get? address.segment).bind fun segment =>
        match segment.kind with
        | .script | .dynmem => segment.writeBytes? address.offset.toNat (wordBytes value.offset)
        | _ => segment.writeSlot? address.offset.toNat value with
      | some segment => .ok (heap.put address.segment (some segment))
      | none => .error (heap.invalid address 2) := by
  -- A word and a value are both two bytes wide, so a failure asks for the same.
  have size : (wordBytes value.offset).size = 2 := rfl
  simp only [Heap.writeValue, Heap.storesWords, Heap.kind?, Heap.writeBytes, size]
  cases heap.get? address.segment with
  | none => rfl
  | some segment => cases segment <;> rfl

/-- Storing a value is indifferent work. -/
theorem writeValue_indifferent (address value : Address) :
    (writeValue address value).Indifferent := by
  -- The warning depends on the segment written to, which twins have in common.
  intro front back first second twins
  apply (twins.read fun heap => by simp [Heap.writeRecords, Heap.storesWords]).andThen
  intro records _ _ _ twins
  apply (twins.record records).andThen
  intro _ _ _ _ twins
  simp only [writeValue_eq]
  exact replace_indifferent address _ 2 twins

/-- Replacing the value of a property is indifferent work. -/
theorem writeProperty_indifferent (address : Address) (index : Nat) (value : Address) :
    (attempt (·.writeProperty address index value)).Indifferent := by
  intro front back first second twins
  -- The object that is found decides whether there is such a property.
  have same := twins.same (·.object address) fun _ => Heap.object_spaced
  cases found : first.heap.object address with
  | error fault =>
    have refused : ∀ {heap : Heap}, heap.object address = .error fault →
        heap.writeProperty address index value = .error fault := by
      intro heap found
      rw [Heap.writeProperty, found]
      rfl
    exact twins.attempt_error (refused found) (refused (same.trans found))
  | ok object =>
    by_cases inside : index < object.properties.size
    · have made : ∀ {heap : Heap}, heap.object address = .ok object →
          heap.writeProperty address index value =
            .ok (heap.modifyObject address (·.setProperty index value)) := by
        intro heap found
        rw [Heap.writeProperty, found]
        exact if_pos inside
      have passes : Heap.PassesBy (·.modifyObject address (·.setProperty index value))
          first.heap := twins.framed.modify address.segment _
      exact twins.attempt_ok passes (made found) (made (same.trans found))
    · -- The number of properties belongs to the object, so both are refused alike.
      have refused : ∀ {heap : Heap}, heap.object address = .ok object →
          heap.writeProperty address index value =
            .error (.propertyOutOfRange address index object.properties.size) := by
        intro heap found
        rw [Heap.writeProperty, found]
        exact if_neg inside
      exact twins.attempt_error (refused found) (refused (same.trans found))

/-- Looking for a text is indifferent work. -/
theorem readString_indifferent (address : Address) : (readString address).Indifferent := by
  -- The records and the text are both read from what twins have in common.
  intro front back first second twins
  apply (twins.read fun _ => Heap.stringRecords_spaced).andThen
  intro records _ _ _ twins
  apply (twins.record records).andThen
  intro _ _ _ _ twins
  exact twins.require fun _ => Heap.readString_spaced

/-- Looking up a selector is indifferent work. -/
theorem resolve_indifferent (receiver : Address) (selector : UInt16) :
    (resolve receiver selector).Indifferent := by
  -- The search reads what twins have in common; what it noted is recorded for both.
  intro front back first second twins
  apply (twins.require fun _ => Heap.search_spaced _ _ _ _).andThen
  rintro ⟨found, records⟩ _ _ _ twins
  apply (twins.record records).andThen
  intro _ _ _ _ twins
  exact ⟨rfl, twins⟩

end Values

section Garbage

variable {front back : Journal} {first second : Store}

/-- Freeing one piece of garbage comes to the same in both. -/
theorem sweepOne_runsAlike (collection : Collection) (address : Address)
    (twins : Twins front back first second) :
    RunsAlike (Twins front back) (sweepOne collection address) first second := by
  -- The kind is read before anything is freed, and it is the same in both.
  have kinds := twins.same (·.kind? address.segment) fun _ => Heap.kind?_spaced
  apply RunsAlike.of_get
  · simp only [kinds]
  · apply (freeAt_indifferent address twins).bind
    intro result _ _ _ twins
    cases result with
    | ok value => exact ⟨rfl, twins⟩
    | error fault => exact ⟨rfl, twins.noted _ _⟩

/-- A collection comes to the same in both. -/
theorem collect_runsAlike (context : Context) (twins : Twins front back first second) :
    RunsAlike (Twins front back) (collect context) first second := by
  -- What is garbage and what is counted at the start is the same in both.
  have roots := twins.same (·.roots context) fun _ => Heap.roots_spaced
  have marking := twins.same (·.unreachable (first.heap.roots context)) fun _ => by
    simp [Heap.unreachable, Heap.mark_spaced]
  have garbage := twins.same (·.deallocatable) fun _ => Heap.deallocatable_spaced
  have entities := twins.same (·.entities) fun _ => Heap.entities_spaced
  apply RunsAlike.of_get
  · simp only [roots, marking, garbage, entities]
  · have noted : RunsAlike (Twins front back) (modify fun store : Store =>
        { store with journal := store.journal ++
          (first.heap.unreachable (first.heap.roots context)).records }) first second :=
      ⟨rfl, twins.framed, twins.heaps, twins.journals.append _⟩
    apply noted.bind
    intro _ _ _ _ twins
    apply (RunsAlike.foldlM (fun collection address => sweepOne_runsAlike collection address) _ _
      twins).bind
    intro collection _ _ _ twins
    exact ⟨rfl, twins.noted _ _⟩

end Garbage

end Store

end AdventureVm
