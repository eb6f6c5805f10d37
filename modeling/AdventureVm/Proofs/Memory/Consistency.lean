import AdventureVm.Proofs.Memory.Enduring
import AdventureVm.Proofs.Memory.Residents
import AdventureVm.Proofs.Memory.Tidy
import AdventureVm.Proofs.Locks.Accounting

/-!
After any history the tables of memory agree, and segments are given out and taken back alone.
-/

namespace AdventureVm

namespace ClassTable

/-- Changing what is known of a species except its address changes no address. -/
theorem address?_modify {table : ClassTable} {species : UInt16} {change : ClassEntry → ClassEntry}
    (keeps : ∀ entry, (change entry).address = entry.address) (other : UInt16) :
    (table.modify species change).address? other = table.address? other := by
  by_cases same : other = species
  · -- The table may have grown by an entry that says nothing.
    subst same
    simp only [address?, get?, modify, Array.getElem?_modify, if_true, Array.getElem?_append,
      Array.getElem?_replicate]
    split
    · cases table.entries[other.toNat]? with
      | none => rfl
      | some entry => simp [keeps]
    · rename_i outside
      rw [Array.getElem?_eq_none (Nat.le_of_not_lt outside)]
      split
      · simp [keeps]
      · rfl
  · exact entry_modify_of_ne _ rfl change same

/-- A table that was made from pairs of species and script knows no addresses. -/
theorem address?_ofScripts (pairs : List (UInt16 × UInt16)) (species : UInt16) :
    (ofScripts pairs).address? species = none := by
  -- Each pair changes the script of an entry and nothing else.
  unfold ofScripts
  have general : ∀ table : ClassTable, table.address? species = none →
      (pairs.foldl (fun table pair =>
        table.modify pair.1 fun entry => { entry with script := some pair.2 }) table).address?
          species = none := by
    induction pairs with
    | nil => exact fun _ unknown => unknown
    | cons pair rest ih =>
      intro table unknown
      apply ih
      obtain ⟨kind, script⟩ := pair
      have same := @address?_modify table kind (fun entry => { entry with script := some script })
        (fun _ => rfl) species
      exact same.trans unknown
  exact general {} rfl

end ClassTable

/-- Memory stays tidy while it develops and when segments leave. -/
theorem Heap.Tidy.endures : Heap.Endures Heap.Tidy :=
  ⟨Tidy.sound, Tidy.of_develops, Tidy.of_departed, Tidy.vacate⟩

namespace Store

open Heap

/-- Putting in a segment keeps memory tidy, when a script is put where it and its objects belong. -/
theorem insert_tidy {segment : Segment} {store : Store} (tidy : store.heap.Tidy)
    (loose : segment.IsLoose) (home : ∀ id script, store.heap.nextId? = some id →
      segment = .script script → script.IsAtHome id) :
    Leads (insert segment) store fun _ after => after.heap.Tidy := by
  -- A full memory stays as it is; otherwise the next place is filled.
  rw [leads_insert]
  cases next : store.heap.nextId? with
  | none => exact tidy
  | some id => exact tidy.insert next loose fun script same => home id script next same

end Store

namespace Action

/--
What an action on the memory of a game can be.

A script that is put in directly has no contents, or it was made for the place that it gets. The
variables of a script are not taken out directly. Changing a segment in place moves no objects, and
changing the table of classes makes up no addresses.
-/
def Regular (action : Action) (heap : Heap) : Prop :=
  match action with
  | insert segment => segment.IsLoose ∧ ∀ id script, heap.nextId? = some id →
    segment = .script script → script.IsAtHome id
  | deallocate id => heap.kind? id ≠ some .locals
  | alter id change => ∀ segment, heap.get? id = some segment → segment.Steady (change segment)
  | alterClasses change => ∀ species address, (change heap.classes).address? species =
    some address → ∃ other, heap.classes.address? other = some address
  | _ => True

/-- A regular action keeps memory tidy. -/
theorem run_tidy {action : Action} {store : Store} (tidy : store.heap.Tidy)
    (regular : action.Regular store.heap) : (action.run store).heap.Tidy := by
  -- Four kinds of actions are regular only under a condition, and these are the cases left.
  apply Heap.Tidy.endures.run tidy
  · rintro id rfl
    exact regular
  · rintro segment rfl
    exact Store.insert_tidy tidy regular.1 regular.2
  · rintro id change rfl
    exact tidy.modify regular
  · rintro change rfl
    -- A class that is known afterwards was known before.
    apply tidy.withClasses
    intro species address known
    obtain ⟨other, knownBefore⟩ := regular species address known
    exact tidy.classes other address knownBefore

end Action

namespace Store

/-- A memory that started out empty and was changed by regular actions only. -/
inductive Evolves : Store → Prop where
  | start (version : Version) (pairs : List (UInt16 × UInt16)) (journal : Journal) :
      Evolves (blank version (.ofScripts pairs) journal)
  | step {store : Store} {action : Action} (evolves : Evolves store)
      (regular : action.Regular store.heap) : Evolves (action.run store)

/-- Nothing is untidy in an empty memory. -/
theorem blank_tidy (version : Version) (pairs : List (UInt16 × UInt16)) (journal : Journal) :
    (blank version (.ofScripts pairs) journal).heap.Tidy := by
  have sound := blank_sound version (.ofScripts pairs) journal
  have empty := get?_blank version (.ofScripts pairs) journal
  refine ⟨sound, ?_, ?_, ?_⟩
  · intro id script found
    rw [empty] at found
    simp at found
  · -- Class scripts are known from the start, but no class has an address yet.
    intro species address known
    have unknown := ClassTable.address?_ofScripts pairs species
    simp only [blank] at known
    rw [unknown] at known
    simp at known
  · intro kind
    left
    cases kind <;> rfl

/-- Every memory that evolves is tidy. -/
theorem Evolves.tidy {store : Store} (evolves : store.Evolves) : store.heap.Tidy := by
  -- Tidiness holds at the start, and every regular action keeps it.
  induction evolves with
  | start version pairs journal => exact blank_tidy version pairs journal
  | step _ regular tidy => exact Action.run_tidy tidy regular

end Store

namespace Heap

/-- What the tables of memory say of each other. -/
structure Consistent (heap : Heap) : Prop where
  /-- Place zero is empty. -/
  zero : heap.get? 0 = none
  /-- A script that is said to be in memory is there, knows its number and knows its place. -/
  residents : ∀ number id, (number, id) ∈ heap.residents →
    ∃ script, heap.get? id = some (.script script) ∧ script.number = number ∧ script.segment = id
  /-- The variables of such a script are in memory and carry its number, if it has any. -/
  variables_ : ∀ number script, heap.scriptByNumber? number = some script →
    script.localsSegment = 0 ∨ ∃ table, heap.get? script.localsSegment = some (.locals table) ∧
      table.script = number
  /-- No two scripts share their variables. -/
  unshared : ∀ number other script second, heap.scriptByNumber? number = some script →
    heap.scriptByNumber? other = some second → script.localsSegment ≠ 0 →
    second.localsSegment = script.localsSegment → other = number
  /-- The address of a class is that of an object of a script in memory. -/
  classes : ∀ species address, heap.classes.address? species = some address →
    ∃ script object, heap.get? address.segment = some (.script script) ∧
      script.objectAt? address.offset = some object ∧ object.pos = address
  /-- A current pool is a pool of its kind in memory. -/
  pools : ∀ kind, heap.pools.get kind = 0 ∨ heap.kind? (heap.pools.get kind) = some kind

/-- In a script at home, an object is found at each position. -/
theorem objectAt?_of_position {script : Script} {address : Address}
    (inside : ∀ other ∈ script.positions, other.segment = address.segment)
    (member : address ∈ script.positions) :
    ∃ object, script.objectAt? address.offset = some object ∧ object.pos = address := by
  obtain ⟨object, listed, rfl⟩ := Script.mem_positions.mp member
  -- The search by offset finds the first object there, which is in the same segment.
  cases found : script.objectIndex? object.pos.offset with
  | none =>
    have unfound := Array.findIdx?_eq_none_iff.mp found object listed
    simp at unfound
  | some index =>
    obtain ⟨bound, matches_, _⟩ := Array.findIdx?_eq_some_iff_getElem.mp found
    have there : script.objects[index]? = some script.objects[index] :=
      Array.getElem?_eq_getElem bound
    refine ⟨script.objects[index], by rw [Script.objectAt?, found, Option.bind_some, there], ?_⟩
    have position : script.objects[index].pos ∈ script.positions :=
      Script.mem_positions.mpr ⟨_, Array.getElem_mem bound, rfl⟩
    have segment := inside _ position
    have offset : script.objects[index].pos.offset = object.pos.offset := by
      simpa using matches_
    cases equal : script.objects[index].pos with
    | mk first second =>
      rw [equal] at segment offset
      simp only at segment offset
      rw [segment, offset]

/-- A tidy memory is consistent. -/
theorem Tidy.consistent {heap : Heap} (tidy : heap.Tidy) : heap.Consistent := by
  constructor
  case zero => exact tidy.sound.zero_empty
  case residents => exact tidy.sound.resident
  case variables_ =>
    intro number script seen
    obtain ⟨id, placed, found⟩ := placed_of_scriptByNumber? seen
    obtain ⟨resident, foundToo, named, _⟩ := tidy.sound.script_of_resident placed
    rw [found, Option.some.injEq, Segment.script.injEq] at foundToo
    -- A script has no variables, or a table in memory that carries its number.
    by_cases without : script.localsSegment = 0
    · exact .inl without
    · obtain ⟨_, table, tableAt, carries⟩ := tidy.sound.ownLocals id script found without
      exact .inr ⟨table, tableAt, by rw [carries, foundToo, named]⟩
  case unshared =>
    intro number other script second seen seenToo withVariables shared
    obtain ⟨id, placed, found⟩ := placed_of_scriptByNumber? seen
    obtain ⟨place, placedToo, foundToo⟩ := placed_of_scriptByNumber? seenToo
    -- Two scripts share their variables only if they are in one place.
    have here := tidy.sound.localsSegment_inj found foundToo withVariables shared
    by_contra different
    exact tidy.sound.place_ne placed placedToo different here
  case classes =>
    intro species address known
    obtain ⟨script, found, member⟩ := tidy.classes species address known
    have inside := (tidy.homes _ _ found).inside
    obtain ⟨object, there, same⟩ := objectAt?_of_position inside member
    exact ⟨script, object, found, there, same⟩
  case pools => exact tidy.pools

/-- Some places were given out, and nothing else changed in any place. -/
structure Allotted (before : Heap) (new : SegmentId → Prop) (after : Heap) : Prop where
  /-- Place zero is not given out. -/
  nonzero : ∀ id, new id → id ≠ 0
  /-- The places were empty. -/
  vacant : ∀ id, new id → before.get? id = none
  /-- No script was said to be there. -/
  unreserved : ∀ id, new id → ∀ number, (number, id) ∉ before.residents
  /-- There is something in them now. -/
  occupied : ∀ id, new id → (after.get? id).isSome = true
  /-- All other places hold what they held. -/
  others : ∀ other, ¬ new other → after.get? other = before.get? other

/-- A place that is given out next was free, and nothing else changes. -/
theorem Sound.allotted {heap : Heap} (sound : heap.Sound) {id : SegmentId}
    (next : heap.nextId? = some id) (segment : Segment) :
    heap.Allotted (· = id) (heap.insert id segment) := by
  obtain ⟨atEnd, _, empty, positive⟩ := nextId?_spec sound.opened next
  -- The place is either empty or right after the last one.
  constructor
  · rintro _ rfl
    exact positive
  · rintro _ rfl
    exact empty
  · rintro _ rfl
    exact fun _ => sound.not_reserved empty
  · rintro _ rfl
    rw [get?_insert atEnd, if_pos rfl]
    rfl
  · intro other elsewhere
    rw [get?_insert atEnd, if_neg elsewhere]

/-- A script that is loaded, and its variables, get places that were free. -/
theorem Brought.allotted {before after : Heap} {resources : Resources} {number : UInt16}
    {id : SegmentId} {script : Script} (sound : before.Sound)
    (brought : before.Brought resources number id after)
    (found : after.get? id = some (.script script)) :
    before.Allotted (Store.leavesWith id script) after := by
  have arrivals := brought.arrivals script found
  have vacant : ∀ place, Store.leavesWith id script place → before.get? place = none := by
    intro place new
    have arrived := arrivals place
    rwa [if_pos new] at arrived
  -- The script and its variables are in memory now, so neither place is zero.
  have occupied : ∀ place, Store.leavesWith id script place →
      ∃ segment, after.get? place = some segment := by
    rintro place (rfl | ⟨withVariables, rfl⟩)
    · exact ⟨_, found⟩
    · obtain ⟨_, table, tableAt, _⟩ := brought.sound.ownLocals id script found withVariables
      exact ⟨_, tableAt⟩
  constructor
  · intro place new
    obtain ⟨segment, there⟩ := occupied place new
    exact brought.sound.ne_zero there
  · exact vacant
  · exact fun place new number => sound.not_reserved (vacant place new)
  · intro place new
    obtain ⟨segment, there⟩ := occupied place new
    rw [there]
    rfl
  · -- Everything that did not come is where it was.
    intro other elsewhere
    have arrived := arrivals other
    rwa [if_neg elsewhere] at arrived

end Heap

namespace Store

open Heap

/-- Whatever is given out from memory is given out afresh, and if nothing is, nothing changes. -/
structure AllotsAfresh (store : Store) : Prop where
  /-- A segment of any kind gets one place. -/
  segment : ∀ segment, Leads (Store.insert segment) store
    (Either (fun id after => store.heap.Allotted (· = id) after.heap)
      fun _ after => after.heap = store.heap)
  /-- A block of dynamic memory gets one place. -/
  block : ∀ size description, Leads (createDynmem size description) store
    (Either (fun address after => store.heap.Allotted (· = address.segment) after.heap)
      fun _ after => after.heap = store.heap)
  /-- A pool that has to be made gets one place. -/
  pool : ∀ kind, store.heap.pools.get kind = 0 → Leads (currentPool kind) store
    (Either (fun id after => store.heap.Allotted (· = id) after.heap)
      fun _ after => after.heap = store.heap)
  /-- A script that has to be loaded gets one place, and another one for its variables. -/
  script : ∀ resources number, store.heap.scriptSegment? number = none →
    Leads (loadScript resources number) store
      (Either (fun id after => ∃ script, after.heap.get? id = some (.script script) ∧
          store.heap.Allotted (leavesWith id script) after.heap)
        fun _ after => ∀ place, after.heap.get? place = store.heap.get? place)

/-- From a sound memory, segments are given out afresh. -/
theorem allotsAfresh {store : Store} (sound : store.heap.Sound) : store.AllotsAfresh := by
  -- Putting a segment in is what all four kinds of allotting come down to.
  have segment : ∀ segment, Leads (Store.insert segment) store
      (Either (fun id after => store.heap.Allotted (· = id) after.heap)
        fun _ after => after.heap = store.heap) := by
    intro segment
    rw [leads_insert]
    cases next : store.heap.nextId? with
    | none => rfl
    | some id => exact sound.allotted next segment
  constructor
  case segment => exact segment
  case block =>
    intro size description
    unfold createDynmem
    split
    · rfl
    · rw [leads_bind]
      exact (segment _).either (fun _ _ allotted => allotted) fun _ _ same => same
  case pool =>
    intro kind none_
    simp only [currentPool, leads_bind, StoreM.leads_read, either_ok, none_, ne_eq,
      not_true_eq_false, if_false]
    apply (segment (.empty kind)).either
    · -- Which pool is the current one is no matter of places.
      intro id after allotted
      exact ⟨allotted.nonzero, allotted.vacant, allotted.unreserved, allotted.occupied,
        allotted.others⟩
    · exact fun _ _ same => same
  case script =>
    intro resources number absent
    apply (leads_loadScript resources number store sound).either
    · intro id after arrived
      rcases arrived with ⟨placed, _⟩ | brought
      · rw [absent] at placed
        simp at placed
      · obtain ⟨_, _, _, _, found, _⟩ := brought.script
        exact ⟨_, found, brought.allotted sound found⟩
    · exact fun _ after failed => failed.2.places

/-- Whatever is taken out of memory leaves alone, but a script takes its variables with it. -/
def FreesAlone (store : Store) : Prop :=
  ∀ id, Leads (free id) store
    (Either (fun _ after => after.heap.get? id = none ∧ ∀ other, other ≠ id →
        (∀ script, store.heap.get? id = some (.script script) → other ≠ script.localsSegment) →
          after.heap.get? other = store.heap.get? other)
      fun _ after => after.heap = store.heap)

/-- From a sound memory, segments are taken out alone. -/
theorem freesAlone {store : Store} (sound : store.heap.Sound) : store.FreesAlone := by
  intro id
  cases found : store.heap.get? id with
  | none =>
    simp only [Leads, free, ExceptT.run, deallocate_none found]
    rfl
  | some segment =>
    by_cases script : ∃ contents, segment = .script contents
    · -- A script takes its own place and that of its variables.
      obtain ⟨contents, rfl⟩ := script
      obtain ⟨after, ended, departed⟩ := deallocate_script sound found
      simp only [Leads, free, ExceptT.run, ended]
      refine ⟨by rw [departed.places, if_pos (.inl rfl)], ?_⟩
      intro other elsewhere apart
      rw [departed.places, if_neg]
      intro leaves
      exact apart contents rfl (leaves.resolve_left elsewhere).2
    · -- Anything else takes its own place alone.
      have other : segment.kind ≠ .script := by
        intro isScript
        cases segment with
        | script contents => exact script ⟨contents, rfl⟩
        | _ => simp [Segment.kind] at isScript
      obtain ⟨after, ended, left⟩ := deallocate_other found other
      have places : ∀ place, after.heap.get? place =
          if place = id then none else store.heap.get? place := by
        intro place
        rw [left]
        exact get?_put found none
      simp only [Leads, free, ExceptT.run, ended]
      refine ⟨by rw [places, if_pos rfl], ?_⟩
      intro other elsewhere _
      rw [places, if_neg elsewhere]

/--
The tables of memory agree after any history, whatever in it succeeded or failed.

From such a memory, segments are given out into places that are not zero, not occupied and not
reserved, and nothing changes in any other place, neither then nor when a segment is taken out; only
a script takes its variables with it.
-/
theorem tables_stay_consistent {store : Store} (evolves : store.Evolves) :
    store.heap.Consistent ∧ store.AllotsAfresh ∧ store.FreesAlone := by
  -- All three follow from the invariant of such memories.
  have tidy := evolves.tidy
  exact ⟨tidy.consistent, allotsAfresh tidy.sound, freesAlone tidy.sound⟩

/-- A memory into which an instance was loaded, then its class, and in which a list was made. -/
def loadedAndListed : Store :=
  Action.createList.run ((Action.instantiate Resources.classAndInstance 1).run
    ((Action.loadScript Resources.classAndInstance 2).run
      (blank .sci0 (.ofScripts Resources.classAndInstance.classScripts) #[])))

/-- With two scripts in memory, a class known and a pool made, the tables agree. -/
theorem tables_stay_consistent_loaded :
    loadedAndListed.Evolves ∧ loadedAndListed.heap.liveCount = 3 ∧
      loadedAndListed.heap.classes.address? 0 = some ⟨2, 16⟩ ∧
      loadedAndListed.heap.pools.get .lists = 3 ∧
      loadedAndListed.heap.Consistent ∧ loadedAndListed.AllotsAfresh ∧
      loadedAndListed.FreesAlone := by
  -- Three steps after the start; each is one that needs no condition.
  have evolves : loadedAndListed.Evolves :=
    .step (.step (.step (.start .sci0 _ #[]) trivial) trivial) trivial
  exact ⟨evolves, by decide +kernel, by decide +kernel, by decide +kernel,
    tables_stay_consistent evolves⟩

end Store

end AdventureVm
