import AdventureVm.Proofs.Memory.Consistency
import AdventureVm.Proofs.RoundTrip.Acceptance

/-! A memory into which one script was loaded that was built from a definition. -/

namespace AdventureVm

/-- The address of the object that a draft becomes. -/
def Draft.address (segment : SegmentId) (delta : Nat) (draft : Draft) : Address :=
  ⟨segment, UInt16.ofNat (delta + draft.place)⟩

/-- The objects of a script are those of a definition, each at a place of its own. -/
structure Script.Houses (script : Script) (definition : ScriptDefinition) (segment : SegmentId)
    (delta : Nat) (drafts : List Draft) : Prop where
  listed : drafts.map (·.object) = definition.objects
  objects : script.objects.toList = drafts.map (Draft.relocated definition segment delta)
  fits : ∀ draft ∈ drafts, ∃ places, draft.Fits definition places definition.codeBase
  small : ∀ draft ∈ drafts, delta + draft.place < 65536
  ordered : drafts.Pairwise fun first second => first.place < second.place

namespace ScriptDefinition

variable {definition : ScriptDefinition} {bytes : Bytes} {part : Option Bytes}
  {segment : SegmentId} {journal after : Journal} {script : Script} {locals : Array Address}

/-- A script that was built and loaded houses the objects of its definition. -/
theorem houses_of_load (made : definition.build = .ok (bytes, part))
    (loaded : (Script.load definition.version definition.number segment bytes part).run journal =
      (.ok (script, locals), after)) :
    ∃ delta drafts, script.Houses definition segment delta drafts := by
  cases built_of_build made with
  | @sci0 code exports values drafts version built small =>
    -- What was loaded fits, because it would have been refused otherwise.
    have room : bytes.size + 2 * values.length ≤ 65536 := by
      by_contra crowded
      rw [built.load_refused version small (by omega) segment journal] at loaded
      cases loaded
    obtain ⟨script, more, ran, _, _, _, _, _, _, _, objects⟩ :=
      built.run_load version small room segment journal
    rw [loaded] at ran
    cases ran
    refine ⟨0, drafts, built.objects, by rw [objects], ?_, ?_, ?_⟩
    · intro draft member
      rw [codeBase_sci0 version]
      exact ⟨_, (built.fits draft member).2⟩
    · intro draft member
      have bound := built.place_bound version member
      omega
    · apply (built.ordered version).1.imp_of_mem
      intro first second member _ apart
      have bound := built.place_bound version member
      omega
  -- The second format needs no room for variables: they are in the heap part.
  | @sci11 _ code exports values drafts version built small =>
    obtain ⟨script, ran, _, _, _, _, _, _, objects⟩ :=
      built.run_load version small segment journal
    rw [loaded] at ran
    cases ran
    refine ⟨definition.heapBase, drafts, built.objects, by rw [objects], ?_, ?_, ?_⟩
    · intro draft member
      rw [codeBase_sci11 version]
      exact ⟨_, (built.fits draft member).2⟩
    · intro draft member
      have bound := built.place_bound version member
      have base := built.heapBase_le
      omega
    · apply (pairwise_of_running (built.spots_eq version)).imp_of_mem
      intro first second member _ apart
      have bound := built.place_bound version member
      omega

end ScriptDefinition

namespace Draft.Fits

variable {definition : ScriptDefinition} {places : Places} {codeBase : Nat} {draft : Draft}

/-- A word without an address is a property that holds its number. -/
theorem wordAt_relocated {slot : Nat} {word : UInt16} (segment : SegmentId) (delta : Nat)
    (written : draft.cells[slot]? = some ⟨word, false⟩) :
    (draft.relocated definition segment delta).wordAt slot = word := by
  simp [relocated, Object.wordAt, Object.property?, written, Cell.address, Address.number]

/-- The object is of the species that its definition says. -/
theorem species_relocated (fits : draft.Fits definition places codeBase) (segment : SegmentId)
    (delta : Nat) : (draft.relocated definition segment delta).species = draft.object.species :=
  wordAt_relocated segment delta fits.species

/-- The object has the superclass that its definition says. -/
theorem superclass_relocated (fits : draft.Fits definition places codeBase) (segment : SegmentId)
    (delta : Nat) :
    (draft.relocated definition segment delta).superclass = draft.object.superclass :=
  wordAt_relocated segment delta fits.superclass

/-- The object is a class if its definition says so. -/
theorem isClass_relocated (fits : draft.Fits definition places codeBase) (segment : SegmentId)
    (delta : Nat) : (draft.relocated definition segment delta).isClass = draft.object.isClass := by
  -- The info word is no address, so setting addresses leaves it as defined.
  have info : (draft.relocated definition segment delta).info = UInt16.ofNat draft.object.info :=
    wordAt_relocated segment delta fits.info
  rw [Object.isClass, info, Bool.eq_iff_iff, bne_iff_ne]
  exact draft.object.info_and_classFlag

end Draft.Fits

/--
Registering classes of different species makes each the class of its species.

What was registered before stays for other species.
-/
theorem ClassTable.address?_foldl_register {objects : List Object} (table : ClassTable)
    (distinct : (objects.map (·.species)).Nodup) (script species : UInt16) (address : Address) :
    (objects.foldl (fun table object => table.register object.species script object.pos)
        table).address? species = some address ↔
      (∃ object ∈ objects, object.species = species ∧ object.pos = address) ∨
        (∀ object ∈ objects, object.species ≠ species) ∧
          table.address? species = some address := by
  -- The table changes from class to class, so it stays quantified over.
  induction objects generalizing table with
  | nil => simp
  | cons object rest ih =>
    rw [List.map_cons, List.nodup_cons] at distinct
    rw [List.foldl_cons, ih _ distinct.2, address?_register]
    by_cases here : species = object.species
    · -- No later class is of the same species.
      subst here
      have later : ∀ other ∈ rest, other.species ≠ object.species := by
        intro other member same
        exact distinct.1 (List.mem_map.mpr ⟨other, member, same⟩)
      simp only [if_true, Option.some.injEq, List.mem_cons, exists_eq_or_imp, true_and,
        forall_eq_or_imp, ne_eq, not_true_eq_false, false_and, or_false]
      constructor
      · rintro (⟨other, member, same, _⟩ | ⟨_, same⟩)
        · exact absurd same (later other member)
        · exact .inl same
      · rintro (same | ⟨other, member, same, _⟩)
        · exact .inr ⟨later, same⟩
        · exact absurd same (later other member)
    · have apart : ¬ object.species = species := fun same => here same.symm
      simp [here, apart]

/-- The only script in memory is one that was built from a definition. -/
structure Heap.Houses (heap : Heap) (definition : ScriptDefinition) (id : SegmentId) (delta : Nat)
    (drafts : List Draft) : Prop where
  script : ∃ script, heap.get? id = some (.script script) ∧
    script.Houses definition id delta drafts
  /-- The known classes are those of the definition. -/
  classes : ∀ species address, heap.classes.address? species = some address ↔
    ∃ draft ∈ drafts, draft.object.isClass = true ∧ draft.object.species = species ∧
      draft.address id delta = address

namespace ScriptDefinition

variable {definition : ScriptDefinition}

/-- Nothing but a script built from the definition was loaded into an empty memory. -/
def IsLoaded (definition : ScriptDefinition) (id : SegmentId) (heap : Heap) : Prop :=
  ∃ bytes part resources pairs journal after, definition.build = .ok (bytes, part) ∧
    resources.script? definition.number = some bytes ∧
    Store.heapResource definition.version resources definition.number = .ok part ∧
    (Store.loadScript resources definition.number).run
      (Store.blank definition.version (.ofScripts pairs) journal) = (.ok id, after) ∧
    after.heap = heap

/-- The species of the classes that are defined. -/
def classSpecies (definition : ScriptDefinition) : List UInt16 :=
  (definition.objects.filter (·.isClass)).map (·.species)

/-- The classes of a script that houses a definition are of the species that it defines. -/
theorem species_of_houses {script : Script} {segment : SegmentId} {delta : Nat}
    {drafts : List Draft} (houses : script.Houses definition segment delta drafts) :
    (script.objects.toList.filter (·.isClass)).map (·.species) = definition.classSpecies := by
  rw [houses.objects, classSpecies, ← houses.listed, List.filter_map, List.filter_map,
    List.map_map, List.map_map]
  -- Relocation changes neither what is a class nor its species.
  have kinds : drafts.filter ((·.isClass) ∘ Draft.relocated definition segment delta) =
      drafts.filter ((·.isClass) ∘ (·.object)) := by
    apply List.filter_congr
    intro draft member
    obtain ⟨_, fits⟩ := houses.fits draft member
    exact fits.isClass_relocated segment delta
  rw [kinds]
  apply List.map_congr_left
  intro draft member
  obtain ⟨_, fits⟩ := houses.fits draft (List.mem_of_mem_filter member)
  exact fits.species_relocated segment delta

/-- The classes of a script are known by species once it is loaded into an empty memory. -/
theorem address?_of_houses {script : Script} {segment : SegmentId} {delta : Nat}
    {drafts : List Draft} (houses : script.Houses definition segment delta drafts)
    (distinct : definition.classSpecies.Nodup) {heap : Heap}
    (unknown : ∀ species, heap.classes.address? species = none) (species : UInt16)
    (address : Address) :
    (heap.registerClasses script).classes.address? species = some address ↔
      ∃ draft ∈ drafts, draft.object.isClass = true ∧ draft.object.species = species ∧
        draft.address segment delta = address := by
  rw [← species_of_houses houses] at distinct
  simp only [Heap.registerClasses, ← Array.foldl_toList, Array.toList_filter]
  rw [ClassTable.address?_foldl_register heap.classes distinct script.number species address,
    unknown, houses.objects]
  simp only [reduceCtorEq, and_false, or_false, List.mem_filter, List.mem_map]
  constructor
  · -- An object that was loaded is a class of a species exactly if its draft is.
    rintro ⟨_, ⟨⟨draft, member, rfl⟩, isClass⟩, same, place⟩
    obtain ⟨_, fits⟩ := houses.fits draft member
    rw [fits.isClass_relocated] at isClass
    rw [fits.species_relocated] at same
    exact ⟨draft, member, isClass, same, place⟩
  · rintro ⟨draft, member, isClass, same, place⟩
    obtain ⟨_, fits⟩ := houses.fits draft member
    rw [← fits.isClass_relocated segment delta] at isClass
    rw [← fits.species_relocated segment delta] at same
    exact ⟨_, ⟨⟨draft, member, rfl⟩, isClass⟩, same, place⟩

/-- A memory into which nothing else was loaded houses the objects of the definition. -/
theorem IsLoaded.houses {id : SegmentId} {heap : Heap} (loaded : definition.IsLoaded id heap)
    (distinct : definition.classSpecies.Nodup) :
    ∃ delta drafts, heap.Houses definition id delta drafts := by
  obtain ⟨bytes, part, resources, pairs, journal, after, made, stored, partStored, ran, rfl⟩ :=
    loaded
  have brought := Store.leads_loadScript resources definition.number
    (Store.blank definition.version (.ofScripts pairs) journal)
    (Store.blank_sound definition.version (.ofScripts pairs) journal)
  rw [Leads, ran] at brought
  -- In an empty memory the script cannot be resident already.
  rcases brought with ⟨resident, _⟩ | brought
  · cases resident
  · obtain ⟨script, locals, localsSegment, offers, found, classes⟩ := brought.script
    obtain ⟨bytesToo, partToo, start, ended, storedToo, partStoredToo, result⟩ := offers
    cases storedToo.symm.trans stored
    cases partStoredToo.symm.trans partStored
    obtain ⟨delta, drafts, houses⟩ := houses_of_load made result
    refine ⟨delta, drafts, ⟨_, found, houses.listed, houses.objects, houses.fits, houses.small,
      houses.ordered⟩, ?_⟩
    rw [classes]
    exact address?_of_houses houses distinct fun species =>
      ClassTable.address?_ofScripts pairs species

end ScriptDefinition

end AdventureVm
