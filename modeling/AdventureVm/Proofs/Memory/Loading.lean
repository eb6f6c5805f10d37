import AdventureVm.Proofs.Memory.Segments

/-! Loading a script keeps memory sound, whether it succeeds or fails. -/

namespace AdventureVm

/-- A script as loading leaves it: it knows its place, and nobody uses it yet. -/
structure Script.IsFresh (script : Script) (number : UInt16) (segment : SegmentId) : Prop where
  /-- The number is the one asked for. -/
  number : script.number = number
  /-- The segment is the one given to it. -/
  segment : script.segment = segment
  /-- Its variables are not in memory yet. -/
  localsSegment : script.localsSegment = 0
  /-- It has no users. -/
  lockers : script.lockers = 0
  /-- It does not wait for the collector. -/
  unmarked : script.markedDeleted = false
  /-- It has locked no other script. -/
  free : script.holdsSuperclasses = false

namespace Script

variable {script : Script} {number : UInt16} {segment : SegmentId}

/-- Reading one record changes nothing but the objects. -/
theorem instantiateObject_objects {version : Version} {offset : UInt16} {index : Nat}
    {extended : Script} (read : script.instantiateObject version offset = .ok (index, extended)) :
    ∃ objects, extended = { script with objects } := by
  -- The record was read before, or it is added at the end.
  unfold instantiateObject at read
  split at read
  · simp only [Except.ok.injEq, Prod.mk.injEq] at read
    exact ⟨script.objects, read.2.symm⟩
  · obtain ⟨object, _, added⟩ := bind_eq_ok.mp read
    simp only [Pure.pure, Except.pure, Except.ok.injEq, Prod.mk.injEq] at added
    exact ⟨_, added.2.symm⟩

/-- What reading each record preserves, reading all of them preserves. -/
theorem withObjects_preserves {version : Version} {bases : Array Nat} {extended : Script}
    {holds : Script → Prop}
    (each : ∀ script offset index extended, holds script →
      script.instantiateObject version offset = .ok (index, extended) → holds extended)
    (begins : holds script) (read : script.withObjects version bases = .ok extended) :
    holds extended := by
  -- The script changes from record to record, so it stays quantified over.
  unfold withObjects at read
  generalize bases.toList = bases at read
  induction bases generalizing script with
  | nil =>
    simp only [List.foldlM_nil, Pure.pure, Except.pure, Except.ok.injEq] at read
    exact read ▸ begins
  | cons base rest ih =>
    rw [List.foldlM_cons] at read
    obtain ⟨next, first, others⟩ := bind_eq_ok.mp read
    obtain ⟨⟨index, extendedOnce⟩, parsed, same⟩ := bind_eq_ok.mp first
    simp only [Pure.pure, Except.pure, Except.ok.injEq] at same
    subst same
    exact ih (each script _ index extendedOnce begins parsed) others

/-- Reading all records changes nothing but the objects. -/
theorem withObjects_objects {version : Version} {bases : Array Nat} {extended : Script}
    (read : script.withObjects version bases = .ok extended) :
    ∃ objects, extended = { script with objects } := by
  -- One record replaces the objects, and so do all of them.
  have each (between : Script) (offset : UInt16) (index : Nat) (extended : Script)
      (same : ∃ objects, between = { script with objects })
      (parsed : between.instantiateObject version offset = .ok (index, extended)) :
      ∃ objects, extended = { script with objects } := by
    obtain ⟨objects, rfl⟩ := same
    obtain ⟨later, same⟩ := instantiateObject_objects parsed
    exact ⟨later, same⟩
  exact withObjects_preserves each ⟨script.objects, rfl⟩ read

/-- Setting an address changes nothing of a script but its objects. -/
theorem relocate_objects (range : Option (Nat × Nat)) (delta : UInt16)
    (loaded : Script × Array Address) (offset : Nat) (journal : Journal) :
    ∃ objects, ((relocate range delta loaded offset).run journal).1.1 =
      { loaded.1 with objects } := by
  -- The word belongs to the local variables, to an object or to nothing.
  obtain ⟨script, locals⟩ := loaded
  unfold relocate
  simp only
  split
  · exact ⟨script.objects, rfl⟩
  · split
    · exact ⟨_, rfl⟩
    · exact ⟨script.objects, rfl⟩

/-- What setting each address preserves, setting all of them preserves. -/
theorem relocations_preserves {range : Option (Nat × Nat)} {delta : UInt16}
    {holds : Script × Array Address → Prop}
    (each : ∀ loaded offset journal, holds loaded →
      holds ((relocate range delta loaded offset).run journal).1)
    (offsets : List Nat) {loaded : Script × Array Address} (begins : holds loaded)
    (journal : Journal) :
    holds ((offsets.foldlM (relocate range delta) loaded).run journal).1 := by
  -- Script and journal change from address to address, so they stay quantified over.
  induction offsets generalizing loaded journal with
  | nil => exact begins
  | cons offset rest ih =>
    rw [List.foldlM_cons]
    exact ih (each loaded offset journal begins) _

/-- Setting all addresses changes nothing of a script but its objects. -/
theorem relocations_objects (range : Option (Nat × Nat)) (delta : UInt16) (offsets : List Nat)
    (loaded : Script × Array Address) (journal : Journal) :
    ∃ objects, ((offsets.foldlM (relocate range delta) loaded).run journal).1.1 =
      { loaded.1 with objects } := by
  -- One address at a time; each setting replaces no more than the objects.
  have each (between : Script × Array Address) (offset : Nat) (journal : Journal)
      (same : ∃ objects, between.1 = { loaded.1 with objects }) : ∃ objects,
        ((relocate range delta between offset).run journal).1.1 = { loaded.1 with objects } := by
    obtain ⟨objects, same⟩ := same
    obtain ⟨later, moved⟩ := relocate_objects range delta between offset journal
    exact ⟨later, by rw [moved, same]⟩
  exact relocations_preserves each offsets ⟨loaded.1.objects, rfl⟩ journal

end Script

/-- A computation that records nothing ends with its result. -/
@[simp] theorem leads_quiet {α : Type} (result : Except Fault α) (journal : Journal)
    (post : Except Fault α → Journal → Prop) :
    Leads (Logged.quiet result) journal post ↔ post result journal := Iff.rfl

/-- A script as it is made from an outline, before its objects are read. -/
def Script.ofOutline (number : UInt16) (segment : SegmentId) (data : Bytes)
    (scriptSize heapStart : Nat) (parts : Outline) : Script :=
  { number, segment, data, scriptSize, heapStart, exports := parts.exports
    synonyms := parts.synonyms, codeRanges := parts.codeRanges }

/-- The stages by which loading comes to a script and the values of its variables. -/
inductive Script.Stages (version : Version) (number : UInt16) (segment : SegmentId) (bytes : Bytes)
    (heap : Option Bytes) (journal : Journal) : Script × Array Address → Prop where
  /-- What the outline describes fits, its objects were read, and then addresses were set. -/
  | loaded {size : Nat} {parts : Outline} {data : Bytes} {between : Journal} {bare : Script}
      (sized : version.layout.bufferSize number bytes heap = .ok size) (fits : size ≤ segmentLimit)
      (outlined : (Script.outline version ⟨number, buffer version bytes heap size⟩ bytes.size
        (heapOffset version bytes heap)).run journal = (.ok (parts, data), between))
      (read : (ofOutline number segment data bytes.size (heapOffset version bytes heap)
        parts).withObjects version parts.objectBases = .ok bare) :
      Stages version number segment bytes heap journal
        ((parts.relocations.toList.foldlM (relocate parts.localsRange parts.relocationDelta)
          (bare, parts.locals)).run between).1

/-- A script that was loaded came to be by these stages. -/
theorem Script.leads_load (version : Version) (number : UInt16) (segment : SegmentId)
    (bytes : Bytes) (heap : Option Bytes) (journal : Journal) :
    Leads (Script.load version number segment bytes heap) journal
      (Either (fun loaded _ => Stages version number segment bytes heap journal loaded)
        fun _ _ => True) := by
  unfold Script.load
  rw [leads_bind, leads_quiet]
  -- Each stage may fail, and the next one works on what the one before gave.
  cases sized : version.layout.bufferSize number bytes heap with
  | error fault => trivial
  | ok size =>
    rw [either_ok]
    split
    · trivial
    · rename_i fits
      rw [leads_bind]
      apply Leads.intro
      intro outcome between outlined
      cases outcome with
      | error fault => trivial
      | ok found =>
        obtain ⟨parts, data⟩ := found
        rw [either_ok, leads_bind, leads_quiet]
        show Either _ _ ((ofOutline number segment data bytes.size (heapOffset version bytes heap)
          parts).withObjects version parts.objectBases) between
        cases read : (ofOutline number segment data bytes.size (heapOffset version bytes heap)
            parts).withObjects version parts.objectBases with
        | error fault => trivial
        | ok bare =>
          rw [either_ok, leads_lift, either_ok]
          exact .loaded sized (Nat.le_of_not_lt fits) outlined read

/-- A script that was loaded is fresh. -/
theorem Script.Stages.isFresh {version : Version} {number : UInt16} {segment : SegmentId}
    {bytes : Bytes} {heap : Option Bytes} {journal : Journal} {loaded : Script × Array Address}
    (stages : Stages version number segment bytes heap journal loaded) :
    loaded.1.IsFresh number segment := by
  -- Reading objects and setting addresses replace nothing but the objects.
  obtain ⟨sized, fits, outlined, read⟩ := stages
  obtain ⟨objects, rfl⟩ := withObjects_objects read
  obtain ⟨later, same⟩ := relocations_objects _ _ _ _ _
  rw [same]
  exact ⟨rfl, rfl, rfl, rfl, rfl, rfl⟩

/-- The script that reserves a place claims nothing. -/
theorem Segment.isLoose_reserved (number : UInt16) : (Segment.script (.empty number)).IsLoose := by
  -- It is a script, but it has no variables.
  constructor
  · exact trivial
  · intro script same
    cases same
    rfl

/-- The resources of a script give these contents and variables when it is loaded into a segment. -/
def Resources.Offers (resources : Resources) (version : Version) (number : UInt16)
    (id : SegmentId) (script : Script) (locals : Array Address) : Prop :=
  ∃ bytes heap journal after, resources.script? number = some bytes ∧
    Store.heapResource version resources number = .ok heap ∧
    (Script.load version number id bytes heap).run journal = (.ok (script, locals), after)

section Offers

variable {resources : Resources} {version : Version} {number : UInt16} {id : SegmentId}
  {script : Script} {locals : Array Address}

/-- What the resources offer came to be by the stages of loading. -/
theorem Resources.Offers.stages (offers : resources.Offers version number id script locals) :
    ∃ bytes heap journal, Script.Stages version number id bytes heap journal (script, locals) := by
  -- The offer is a run of loading that succeeded, and such runs go through the stages.
  obtain ⟨bytes, heap, journal, after, _, _, loaded⟩ := offers
  have stages := Script.leads_load version number id bytes heap journal
  rw [Leads, loaded] at stages
  exact ⟨bytes, heap, journal, stages⟩

/-- What the resources offer is a fresh script. -/
theorem Resources.Offers.fresh (offers : resources.Offers version number id script locals) :
    script.IsFresh number id := by
  -- The offer went through the stages of loading.
  obtain ⟨_, _, _, stages⟩ := offers.stages
  exact stages.isFresh

end Offers

namespace Heap

/-- What memory is like after a script was loaded into it, whatever it was like before. -/
structure Loaded (before : Heap) (resources : Resources) (number : UInt16) (id : SegmentId)
    (after : Heap) : Prop where
  /-- The script was not resident. -/
  absent : before.scriptSegment? number = none
  /-- Its place was empty. -/
  vacant : before.get? id = none
  /-- Its place is not place zero. -/
  real : id ≠ 0
  /-- The script is what the resources offer, apart from the place of its variables. -/
  script : ∃ script locals localsSegment, resources.Offers before.version number id script locals ∧
    after.get? id = some (.script { script with localsSegment }) ∧
    after.classes = (before.registerClasses script).classes
  /-- Its variables have the values that the resources offer. -/
  ownVariables : ∀ script, after.get? id = some (.script script) → script.localsSegment ≠ 0 →
    ∃ base locals, resources.Offers before.version number id base locals ∧
      after.get? script.localsSegment = some (.locals ⟨number, locals⟩)
  /-- All that was in memory is still there. -/
  kept : ∀ place segment, before.get? place = some segment → after.get? place = some segment
  /-- Only the script and its variables have come, into empty places. -/
  arrivals : ∀ script, after.get? id = some (.script script) → ∀ place,
    if Store.leavesWith id script place then before.get? place = none
    else after.get? place = before.get? place
  /-- Only this script has become resident. -/
  residents : after.residents = (before.setResident number id).residents
  /-- The current pools are the same. -/
  pools : after.pools = before.pools
  /-- The format does not change. -/
  version : after.version = before.version

/-- What memory is like after a script was brought into a sound one. -/
structure Brought (before : Heap) (resources : Resources) (number : UInt16) (id : SegmentId)
    (after : Heap) : Prop extends before.Loaded resources number id after where
  /-- The tables still agree with the segments. -/
  sound : after.Sound

/-- Two memories that hold the same, although one table may have more empty places. -/
structure Alike (before after : Heap) : Prop where
  places : ∀ id, after.get? id = before.get? id
  residents : after.residents = before.residents
  classes : after.classes = before.classes
  pools : after.pools = before.pools
  version : after.version = before.version

variable {heap : Heap} {id : SegmentId} {number : UInt16}

/-- Putting a segment into a place does not change the known classes. -/
@[simp] theorem classes_insert {segment : Segment} :
    (heap.insert id segment).classes = heap.classes := by
  unfold insert
  split <;> rfl

/-- Putting a segment into a place does not change the current pools. -/
@[simp] theorem pools_insert {segment : Segment} :
    (heap.insert id segment).pools = heap.pools := by
  unfold insert
  split <;> rfl

/-- Putting a segment into a place does not change the format. -/
@[simp] theorem version_insert {segment : Segment} :
    (heap.insert id segment).version = heap.version := by
  unfold insert
  split <;> rfl

/-- The residents stay distinct when one more is remembered. -/
theorem distinct_setResident (distinct : (heap.residents.map (·.1)).Nodup) (number : UInt16)
    (id : SegmentId) : ((heap.setResident number id).residents.map (·.1)).Nodup := by
  -- An earlier entry of the same number is dropped.
  simp only [setResident, List.map_cons, List.nodup_cons]
  constructor
  · simp [List.mem_filter]
  · exact distinct.sublist (List.filter_sublist.map _)

/-- The residents are one more, when one is remembered that was not resident. -/
theorem mem_setResident (distinct : (heap.residents.map (·.1)).Nodup)
    (absent : heap.scriptSegment? number = none) (entry : UInt16 × SegmentId) :
    entry ∈ (heap.setResident number id).residents ↔
      entry = (number, id) ∨ entry ∈ heap.residents := by
  -- There is no earlier entry of the number that would be dropped.
  have away : ∀ place, (number, place) ∉ heap.residents := by
    intro place member
    rw [← scriptSegment?_eq_some distinct, absent] at member
    cases member
  simp only [setResident, List.mem_cons, List.mem_filter, bne_iff_ne]
  constructor
  · intro either
    rcases either with same | ⟨member, _⟩
    · exact .inl same
    · exact .inr member
  · intro either
    rcases either with same | member
    · exact .inl same
    · refine .inr ⟨member, ?_⟩
      intro same
      apply away entry.2
      rw [← same]
      exact member

/-- Memory stays sound when a loaded script takes its reserved place and becomes resident. -/
theorem Sound.settle (sound : heap.Sound) {reserved script : Script}
    (found : heap.get? id = some (.script reserved))
    (absent : heap.scriptSegment? number = none)
    (unnamed : ∀ other, (other, id) ∉ heap.residents)
    (named : script.number = number) (placed : script.segment = id)
    (own : script.localsSegment ≠ 0 → ∃ table,
      heap.get? script.localsSegment = some (.locals table) ∧ table.script = number) :
    ((heap.put id (some (.script script))).setResident number id).Sound := by
  have places : ∀ place, ((heap.put id (some (.script script))).setResident number id).get? place =
      if place = id then some (.script script) else heap.get? place :=
    fun place => get?_put found _
  have distinct := distinct_setResident sound.distinct number id
  -- The script is now resident, and so is everyone who was before.
  have members : ∀ entry, entry ∈ ((heap.put id (some (.script script))).setResident number
      id).residents ↔ entry = (number, id) ∨ entry ∈ heap.residents :=
    mem_setResident sound.distinct absent
  -- The reserved place is named by no table, so only the new entry speaks of it.
  constructor
  case opened => simpa [setResident, Heap.put] using sound.opened
  case zero_empty =>
    rw [places, if_neg (sound.ne_zero found).symm]
    exact sound.zero_empty
  case bounded => simpa [setResident, Heap.put] using sound.bounded
  case distinct => exact distinct
  case resident =>
    intro other place member
    rcases (members _).mp member with same | before
    · rw [Prod.mk.injEq] at same
      rw [places, if_pos same.2]
      exact ⟨script, rfl, named.trans same.1.symm, placed.trans same.2.symm⟩
    · have elsewhere : place ≠ id := fun same => unnamed other (same ▸ before)
      rw [places, if_neg elsewhere]
      exact sound.resident other place before
  case ownLocals =>
    intro place owner present withVariables
    rw [places] at present
    split at present
    · -- The new script is resident from now on, and its variables are there already.
      rename_i here
      simp only [Option.some.injEq, Segment.script.injEq] at present
      subst present
      obtain ⟨table, tableAt, sameScript⟩ := own withVariables
      have apart : script.localsSegment ≠ id := by
        intro same
        rw [same, found] at tableAt
        simp at tableAt
      refine ⟨(scriptSegment?_eq_some distinct).mpr ((members _).mpr (Or.inl ?_)), table, ?_, ?_⟩
      · rw [named, here]
      · rw [places, if_neg apart]
        exact tableAt
      · rw [sameScript, named]
    · -- The reserved place is no table that another script could claim.
      obtain ⟨ownerAt, table, tableAt, sameScript⟩ :=
        sound.ownLocals place owner present withVariables
      have apart : owner.localsSegment ≠ id :=
        sound.unclaimed found (by simp [Segment.kind]) present
      rw [scriptSegment?_eq_some sound.distinct] at ownerAt
      refine ⟨(scriptSegment?_eq_some distinct).mpr ((members _).mpr (Or.inr ownerAt)), table, ?_,
        sameScript⟩
      rw [places, if_neg apart]
      exact tableAt
  case pools =>
    intro place contents present
    rw [places] at present
    split at present
    · simp only [Option.some.injEq] at present
      subst present
      exact trivial
    · exact sound.pools place contents present

end Heap

namespace Store

/-- The variables of a script get the next place, unless there are none. -/
theorem leads_withLocals (script : Script) (locals : Array Address) (store : Store)
    (post : Except Fault Script → Store → Prop) :
    Leads (withLocals script locals) store post ↔
      if locals.isEmpty then post (.ok script) store
      else Leads (Store.insert (.locals ⟨script.number, locals⟩)) store
        (Either (fun localsSegment after => post (.ok { script with localsSegment }) after)
          fun fault after => post (.error fault) after) := by
  -- The branch is the same on both sides.
  unfold withLocals
  split
  · simp
  · simp only [leads_bind, leads_pure]

/-- What filling the reserved place of a script does to memory. -/
structure Filled (before : Heap) (resources : Resources) (number : UInt16) (id : SegmentId)
    (script : Script) (after : Heap) : Prop where
  sound : before.Sound → after.Sound
  offered : ∃ base locals, resources.Offers before.version number id base locals ∧
    script = { base with localsSegment := script.localsSegment } ∧
    (script.localsSegment ≠ 0 → after.get? script.localsSegment = some (.locals ⟨number, locals⟩))
  kept : ∀ place segment, before.get? place = some segment → after.get? place = some segment
  arrivals : ∀ place, if script.localsSegment ≠ 0 ∧ place = script.localsSegment then
    before.get? place = none else after.get? place = before.get? place
  residents : after.residents = before.residents
  classes : after.classes = before.classes
  pools : after.pools = before.pools
  version : after.version = before.version

/-- A reserved place is filled with what the resources offer, or memory stays as it was. -/
theorem leads_fillScript {resources : Resources} {number : UInt16} {id : SegmentId} {bytes : Bytes}
    {heap : Option Bytes} (store : Store) (opened : 0 < store.heap.segments.size)
    (stored : resources.script? number = some bytes)
    (heapStored : heapResource store.heap.version resources number = .ok heap) :
    Leads (fillScript id number bytes heap) store
      (Either (fun script after => Filled store.heap resources number id script after.heap)
        fun _ after => after.heap = store.heap) := by
  -- Loading works on the journal alone, and comes before memory is changed.
  unfold fillScript
  simp only [leads_bind, StoreM.leads_read, StoreM.leads_ofLogged, either_ok]
  generalize loaded : (Script.load store.heap.version number id bytes heap).run store.journal =
    result
  obtain ⟨outcome, journal⟩ := result
  cases outcome with
  | error fault => rfl
  | ok parts =>
    obtain ⟨base, locals⟩ := parts
    have offers : resources.Offers store.heap.version number id base locals :=
      ⟨bytes, heap, store.journal, journal, stored, heapStored, loaded⟩
    have fresh := offers.fresh
    rw [either_ok, leads_withLocals]
    split
    · -- Without variables nothing else is put into memory.
      refine ⟨fun sound => sound, ⟨base, locals, offers, rfl, ?_⟩, fun _ _ found => found, ?_, rfl,
        rfl, rfl, rfl⟩
      · exact fun some_ => absurd fresh.localsSegment some_
      · intro place
        rw [if_neg]
        exact fun both => both.1 fresh.localsSegment
    · -- The variables get the next place, unless there is none.
      rw [leads_insert]
      simp only
      cases next : store.heap.nextId? with
      | none => rfl
      | some place =>
        obtain ⟨atEnd, small, empty, positive⟩ := Heap.nextId?_spec opened next
        have loose : (Segment.locals ⟨base.number, locals⟩).IsLoose :=
          ⟨trivial, by simp⟩
        refine ⟨fun sound => sound.insert next loose, ⟨base, locals, offers, rfl, ?_⟩, ?_, ?_, ?_,
          ?_, ?_, ?_⟩
        · intro _
          show (store.heap.insert place _).get? place = _
          rw [Heap.get?_insert atEnd, if_pos rfl, fresh.number]
        · intro other segment found
          exact Heap.get?_insert_of_some next found _
        · -- Only the variables have come, into a place that was empty.
          intro other
          by_cases here : other = place
          · rw [if_pos ⟨positive, here⟩, here]
            exact empty
          · rw [if_neg fun both => here both.2]
            show (store.heap.insert place _).get? other = _
            rw [Heap.get?_insert atEnd, if_neg here]
        · exact Heap.residents_insert
        · exact Heap.classes_insert
        · exact Heap.pools_insert
        · exact Heap.version_insert

section Filling

variable {heap filled : Heap} {resources : Resources} {number : UInt16} {id : SegmentId}
  {script : Script}

/-- The place of a script is still reserved for it when its variables are in memory. -/
theorem Filled.reserved (next : heap.nextId? = some id)
    (done : Filled (heap.insert id (.script (.empty number))) resources number id script filled) :
    filled.get? id = some (.script (.empty number)) := by
  -- What was in its place before is kept, and the reserved script was.
  apply done.kept
  rw [Heap.get?_insert (Heap.nextId?_vacant next).1, if_pos rfl]

/-- A script that fills its reserved place and becomes resident was loaded. -/
theorem Filled.loaded (opened : 0 < heap.segments.size) (next : heap.nextId? = some id)
    (absent : heap.scriptSegment? number = none)
    (done : Filled (heap.insert id (.script (.empty number))) resources number id script filled) :
    heap.Loaded resources number id
      (((filled.registerClasses script).put id (some (.script script))).setResident number id) := by
  obtain ⟨atEnd, small, empty, positive⟩ := Heap.nextId?_spec opened next
  obtain ⟨base, locals, offers, same, own⟩ := done.offered
  have reservedAt := done.reserved next
  have registeredAt : (filled.registerClasses script).get? id = some (.script (.empty number)) :=
    reservedAt
  have places : ∀ other, (((filled.registerClasses script).put id
      (some (.script script))).setResident number id).get? other =
        if other = id then some (.script script) else filled.get? other :=
    fun other => Heap.get?_put registeredAt _
  refine ⟨absent, empty, positive, ?_, ?_, ?_, ?_, ?_, ?_, ?_⟩
  · -- What is in the place now differs from what was offered by its variables only.
    refine ⟨base, locals, script.localsSegment, by simpa using offers, ?_, ?_⟩
    · rw [places, if_pos rfl, ← same]
    · have objects : script.objects = base.objects := by rw [same]
      have numbers : script.number = base.number := by rw [same]
      simp [Heap.setResident, Heap.put, Heap.registerClasses, done.classes, objects, numbers]
  · -- The variables are somewhere else than the script.
    intro arrived found withVariables
    rw [places, if_pos rfl, Option.some.injEq, Segment.script.injEq] at found
    subst found
    refine ⟨base, locals, by simpa using offers, ?_⟩
    rw [places, if_neg]
    · exact own withVariables
    · intro here
      have tableAt := own withVariables
      rw [here, reservedAt] at tableAt
      simp at tableAt
  · -- Nothing that was there was in the reserved place.
    intro place segment found
    have elsewhere : place ≠ id := by
      intro here
      rw [here, empty] at found
      simp at found
    rw [places, if_neg elsewhere]
    apply done.kept
    rw [Heap.get?_insert atEnd, if_neg elsewhere]
    exact found
  · -- Besides the script, only its variables have come.
    intro arrived found place
    rw [places, if_pos rfl, Option.some.injEq, Segment.script.injEq] at found
    subst found
    have arrivals := done.arrivals place
    rw [Heap.get?_insert atEnd] at arrivals
    by_cases here : place = id
    · rw [if_pos (.inl here), here]
      exact empty
    · rw [places, if_neg here]
      rw [if_neg here] at arrivals
      simpa only [leavesWith, here, false_or] using arrivals
  · simp [Heap.setResident, Heap.put, Heap.registerClasses, done.residents]
  · simp [Heap.setResident, Heap.put, Heap.registerClasses, done.pools]
  · simp [Heap.setResident, Heap.put, Heap.registerClasses, done.version]

/-- A sound memory is sound after a script filled its reserved place and became resident. -/
theorem Filled.keepsSound (sound : heap.Sound) (next : heap.nextId? = some id)
    (absent : heap.scriptSegment? number = none)
    (done : Filled (heap.insert id (.script (.empty number))) resources number id script filled) :
    (((filled.registerClasses script).put id
      (some (.script script))).setResident number id).Sound := by
  obtain ⟨atEnd, small, empty⟩ := Heap.nextId?_vacant next
  obtain ⟨base, locals, offers, same, own⟩ := done.offered
  have fresh := offers.fresh
  -- The place was empty before it was reserved, so no resident is said to be there.
  have unnamed : ∀ other, (other, id) ∉ heap.residents := fun _ => sound.not_reserved empty
  have residents : filled.residents = heap.residents := by
    rw [done.residents, Heap.residents_insert]
  have registered : (filled.registerClasses script).Sound :=
    (done.sound (sound.insert next (Segment.isLoose_reserved number))).of_same rfl rfl
  have reservedAt := done.reserved next
  exact registered.settle reservedAt
    (by simpa [Heap.registerClasses, Heap.scriptSegment?, residents] using absent)
    (by simpa [Heap.registerClasses, residents] using unnamed)
    (by rw [same]; exact fresh.number) (by rw [same]; exact fresh.segment)
    fun withVariables => ⟨_, own withVariables, rfl⟩

/-- A sound memory is sound after a reserved place is given up. -/
theorem sound_vacated (sound : heap.Sound) (next : heap.nextId? = some id) :
    ((heap.insert id (.script (.empty number))).put id none).Sound := by
  obtain ⟨atEnd, small, empty⟩ := Heap.nextId?_vacant next
  have reserved := sound.insert next (Segment.isLoose_reserved number)
  have reservedAt : (heap.insert id (.script (.empty number))).get? id =
      some (.script (.empty number)) := by
    rw [Heap.get?_insert atEnd, if_pos rfl]
  -- The script in the place is not resident, so forgetting it forgets nothing.
  refine (sound_forgetScript reserved reservedAt).of_same rfl ?_
  have away : heap.scriptSegment? number ≠ some id := by
    rw [Ne, Heap.scriptSegment?_eq_some sound.distinct]
    exact sound.not_reserved empty
  show (heap.insert id _).residents = ((heap.insert id _).forgetScript number id).residents
  rw [forgetScript_congr Heap.residents_insert, Heap.residents_insert, Heap.forgetScript,
    if_neg away]

/-- Giving up a reserved place leaves memory holding what it held. -/
theorem alike_of_vacated (number : UInt16) (next : heap.nextId? = some id) :
    heap.Alike ((heap.insert id (.script (.empty number))).put id none) ∧
      heap.segments.size ≤
        ((heap.insert id (.script (.empty number))).put id none).segments.size := by
  obtain ⟨atEnd, small, empty⟩ := Heap.nextId?_vacant next
  have reservedAt : (heap.insert id (.script (.empty number))).get? id =
      some (.script (.empty number)) := by
    rw [Heap.get?_insert atEnd, if_pos rfl]
  refine ⟨⟨?_, by simp [Heap.put], by simp [Heap.put], ?_, by simp [Heap.put]⟩, ?_⟩
  · intro place
    -- What was put into the place is taken out again.
    rw [Heap.get?_put reservedAt, Heap.get?_insert atEnd]
    split
    · rename_i here
      rw [here, empty]
    · rfl
  · simp [Heap.put, Heap.insert]
    split <;> rfl
  · simp only [Heap.put, Heap.insert]
    split <;> simp

end Filling

/-- A script is where it was, or was loaded into memory, or memory holds what it held. -/
theorem leads_loadScript_opened (resources : Resources) (number : UInt16) (store : Store)
    (opened : 0 < store.heap.segments.size) :
    Leads (loadScript resources number) store
      (Either (fun id after => store.heap.scriptSegment? number = some id ∧ after = store ∨
          store.heap.Loaded resources number id after.heap ∧
            (store.heap.Sound → after.heap.Sound))
        fun _ after => store.heap.Alike after.heap ∧
          store.heap.segments.size ≤ after.heap.segments.size ∧
            (store.heap.Sound → after.heap.Sound)) := by
  -- What can be missing is looked for first: the resource, its heap part, a place in memory.
  have same : store.heap.Alike store.heap ∧
      store.heap.segments.size ≤ store.heap.segments.size ∧
        (store.heap.Sound → store.heap.Sound) :=
    ⟨⟨fun _ => rfl, rfl, rfl, rfl, rfl⟩, Nat.le_refl _, fun sound => sound⟩
  unfold loadScript
  simp only [leads_bind, StoreM.leads_read, either_ok]
  cases resident : store.heap.scriptSegment? number with
  | some id => exact Or.inl ⟨rfl, rfl⟩
  | none =>
    cases stored : resources.script? number with
    | none => exact same
    | some bytes =>
      simp only [leads_bind, StoreM.leads_read, StoreM.leads_require, either_ok]
      cases heapStored : heapResource store.heap.version resources number with
      | error fault => exact same
      | ok heap =>
        rw [either_ok, leads_insert]
        cases next : store.heap.nextId? with
        | none => exact same
        | some id =>
          have grown : 0 < (store.heap.insert id (.script (.empty number))).segments.size :=
            Nat.lt_of_lt_of_le opened (Heap.size_le_insert _ _ _)
          simp only [either_ok, StoreM.leads_outcome]
          apply (leads_fillScript _ grown stored (by simpa using heapStored)).either
          · -- The script takes the place that was reserved for it.
            intro script between filled
            simp only [leads_bind, StoreM.leads_note, StoreM.leads_change, leads_pure, either_ok]
            exact Or.inr ⟨filled.loaded opened next resident,
              fun sound => filled.keepsSound sound next resident⟩
          · -- The place is given back.
            intro fault between same
            simp only [leads_bind, StoreM.leads_change, leads_throw, either_ok, either_error]
            simp only [Store.heap_mapHeap, Store.heap_note] at same ⊢
            rw [same]
            obtain ⟨alike, larger⟩ := alike_of_vacated number next
            exact ⟨alike, larger, fun sound => sound_vacated sound next⟩

/-- A script is where it was, or was brought into memory, or memory holds what it held. -/
theorem leads_loadScript (resources : Resources) (number : UInt16) (store : Store)
    (sound : store.heap.Sound) :
    Leads (loadScript resources number) store
      (Either (fun id after => store.heap.scriptSegment? number = some id ∧ after = store ∨
          store.heap.Brought resources number id after.heap)
        fun _ after => after.heap.Sound ∧ store.heap.Alike after.heap) := by
  -- Sound memory is opened, and the general statement keeps it sound.
  apply (leads_loadScript_opened resources number store sound.opened).either
  · intro id after arrived
    exact arrived.imp_right fun loaded => ⟨loaded.1, loaded.2 sound⟩
  · intro fault after failed
    exact ⟨failed.2.2 sound, failed.1⟩

end Store

end AdventureVm
