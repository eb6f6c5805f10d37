import AdventureVm.Memory.Lookup
import AdventureVm.Proofs.RoundTrip.Housing

/-!
What a selector means to an object is told by the definitions alone.

Both formats come to the same, although one leaves selectors to classes and the other does not.
-/

namespace AdventureVm

/-- What a selector means to an object, in terms of definitions. -/
inductive Dispatch where
  /-- One of the declared properties of the object that was asked. -/
  | property (index : Nat)
  /-- A method, and the position of the object or class that has it. -/
  | method (owner : Nat) (label : Label)
  | notFound
deriving Repr, DecidableEq

namespace ScriptDefinition

/-- The same definition, to be built in the given format. -/
def inFormat (definition : ScriptDefinition) (version : Version) : ScriptDefinition :=
  { definition with version }

/-- The position of the class of a species. -/
def classAt? (objects : List ObjectDefinition) (species : UInt16) : Option Nat :=
  objects.findIdx? fun object => object.isClass && object.species == species

/-- Asks an object and then its superclasses, up to so many of them. -/
def dispatch (objects : List ObjectDefinition) (selector : UInt16) : Nat → Nat → Dispatch
  | 0, _ => .notFound
  | limit + 1, current =>
    match objects[current]? with
    | none => .notFound
    | some object =>
      match object.methods.find? (·.1 == selector) with
      | some (_, label) => .method current label
      | none =>
        match (object.properties.map (·.1)).findIdx? (· == selector) with
        | some index => .property index
        | none =>
          if object.superclass = noSuperclass then .notFound
          else
            match classAt? objects object.superclass with
            | none => .notFound
            | some parent =>
              -- A class that is its own superclass ends the chain.
              if parent = current then .notFound else dispatch objects selector limit parent

/-- Every instance declares the properties of its class, in the same order. -/
def InstancesConform (objects : List ObjectDefinition) : Prop :=
  ∀ object ∈ objects, object.isClass = false → ∃ parent ∈ objects, parent.isClass = true ∧
    parent.species = object.species ∧ parent.properties.map (·.1) = object.properties.map (·.1)

/-- The selector of one of the fixed properties. -/
def IsHeaderSelector (selector : UInt16) : Prop :=
  headerSelectors ≤ selector.toNat ∧ selector.toNat ≤ headerSelectors + 8

/-- What is found in memory is what the definitions say. -/
inductive Answers (definition : ScriptDefinition) (id : SegmentId) (delta : Nat)
    (drafts : List Draft) (receiver : Address) : Dispatch → SelectorLookup → Prop where
  | property (index : Nat) :
      Answers definition id delta drafts receiver (.property index)
        (.variable receiver (definition.version.layout.minProperties + index))
  | method {owner position : Nat} {label : Label} {draft : Draft}
      (bound : definition.assembly.position? label = some position)
      (found : drafts[owner]? = some draft) :
      Answers definition id delta drafts receiver (.method owner label)
        (.method ⟨id, UInt16.ofNat (definition.codeBase + position)⟩ (draft.address id delta))
  | notFound : Answers definition id delta drafts receiver .notFound .notFound

end ScriptDefinition

namespace Script.Houses

variable {script : Script} {definition : ScriptDefinition} {segment : SegmentId} {delta : Nat}
  {drafts : List Draft}

/-- Objects at different positions are at different addresses. -/
theorem address_inj (houses : script.Houses definition segment delta drafts) {first second : Nat}
    {draft other : Draft} (found : drafts[first]? = some draft)
    (foundToo : drafts[second]? = some other)
    (same : draft.address segment delta = other.address segment delta) : first = second := by
  obtain ⟨inside, rfl⟩ := List.getElem?_eq_some_iff.mp found
  obtain ⟨insideToo, rfl⟩ := List.getElem?_eq_some_iff.mp foundToo
  -- Places ascend, and none of them is beyond the words.
  have small := houses.small _ (List.getElem_mem inside)
  have smallToo := houses.small _ (List.getElem_mem insideToo)
  simp only [Draft.address, Address.mk.injEq, true_and, ← UInt16.toNat_inj, UInt16.toNat_ofNat']
    at same
  have ordered := List.pairwise_iff_getElem.mp houses.ordered
  rcases Nat.lt_trichotomy first second with before | equal | behind
  · have apart := ordered first second inside insideToo before
    omega
  · exact equal
  · have apart := ordered second first insideToo inside behind
    omega

/-- The object at a position is found at its address. -/
theorem objectAt?_address (houses : script.Houses definition segment delta drafts) {index : Nat}
    {draft : Draft} (found : drafts[index]? = some draft) :
    script.objectAt? (draft.address segment delta).offset =
      some (draft.relocated definition segment delta) := by
  have objects : script.objects = (drafts.map (Draft.relocated definition segment delta)).toArray :=
    Array.toList_inj.mp houses.objects
  have first : (drafts.map (Draft.relocated definition segment delta)).findIdx?
      (·.pos.offset == (draft.address segment delta).offset) = some index := by
    obtain ⟨inside, atIndex⟩ := List.getElem?_eq_some_iff.mp found
    rw [List.findIdx?_eq_some_iff_getElem]
    refine ⟨by simpa using inside, ?_, ?_⟩
    · simp only [List.getElem_map, atIndex]
      exact beq_self_eq_true _
    · -- An earlier object is at another address.
      intro earlier before
      simp only [List.getElem_map, beq_iff_eq]
      intro same
      have there : drafts[earlier]? = some drafts[earlier] := List.getElem?_eq_getElem (by omega)
      have equal := houses.address_inj there found (congrArg (Address.mk segment) same)
      omega
  rw [objectAt?, objectIndex?, objects, List.findIdx?_toArray, first, Option.bind_some,
    List.getElem?_toArray, List.getElem?_map, found]
  rfl

end Script.Houses

namespace Heap.Houses

open ScriptDefinition

variable {heap : Heap} {definition : ScriptDefinition} {id : SegmentId} {delta : Nat}
  {drafts : List Draft} {index : Nat} {draft : Draft}

/-- The object at a position is found at its address. -/
theorem object?_address (houses : heap.Houses definition id delta drafts)
    (found : drafts[index]? = some draft) :
    heap.object? (draft.address id delta) = some (draft.relocated definition id delta) := by
  -- The segment holds the script, and the script has the object there.
  obtain ⟨script, scriptAt, own⟩ := houses.script
  have there : heap.get? (draft.address id delta).segment = some (.script script) := scriptAt
  rw [object?, there]
  exact own.objectAt?_address found

/-- The object at a position is the one that is defined there. -/
theorem defined (houses : heap.Houses definition id delta drafts)
    (found : drafts[index]? = some draft) : definition.objects[index]? = some draft.object := by
  -- Drafts and definitions are listed in the same order.
  obtain ⟨script, _, own⟩ := houses.script
  rw [← own.listed, List.getElem?_map, found]
  rfl

/-- The draft at a position says what is defined there. -/
theorem fits (houses : heap.Houses definition id delta drafts)
    (found : drafts[index]? = some draft) :
    ∃ places, draft.Fits definition places definition.codeBase := by
  -- The script in the segment was made from these drafts.
  obtain ⟨script, _, own⟩ := houses.script
  exact own.fits draft (List.mem_of_getElem? found)

/-- An object that is defined has a draft at its position. -/
theorem drafted (houses : heap.Houses definition id delta drafts) {object : ObjectDefinition}
    (defined : definition.objects[index]? = some object) :
    ∃ draft, drafts[index]? = some draft ∧ draft.object = object := by
  -- Drafts and definitions are listed in the same order.
  obtain ⟨script, _, own⟩ := houses.script
  rw [← own.listed, List.getElem?_map, Option.map_eq_some_iff] at defined
  exact defined

/-- The class of a species is known by the address of the object that defines it. -/
theorem address?_eq (houses : heap.Houses definition id delta drafts) (species : UInt16) :
    heap.classes.address? species =
      ((classAt? definition.objects species).bind (drafts[·]?)).map (Draft.address id delta) := by
  cases class_ : classAt? definition.objects species with
  | none =>
    -- A known address would be that of a class of the species.
    rw [Option.bind_none, Option.map_none]
    by_contra known
    obtain ⟨address, known⟩ := Option.ne_none_iff_exists'.mp known
    obtain ⟨draft, member, isClass, same, _⟩ := (houses.classes species address).mp known
    obtain ⟨script, _, own⟩ := houses.script
    have listed : draft.object ∈ definition.objects := by
      rw [← own.listed]
      exact List.mem_map_of_mem member
    have other := List.findIdx?_eq_none_iff.mp class_ draft.object listed
    simp [isClass, same] at other
  | some index =>
    obtain ⟨inside, isClass, _⟩ := List.findIdx?_eq_some_iff_getElem.mp class_
    rw [Bool.and_eq_true, beq_iff_eq] at isClass
    obtain ⟨draft, found, object⟩ := houses.drafted (List.getElem?_eq_getElem inside)
    rw [← object] at isClass
    rw [Option.bind_some, found, Option.map_some]
    exact (houses.classes species _).mpr
      ⟨draft, List.mem_of_getElem? found, isClass.1, isClass.2, rfl⟩

/-- The selectors of an object's properties are those of its definition. -/
theorem propertySelectors?_eq (houses : heap.Houses definition id delta drafts)
    (conform : InstancesConform definition.objects) (found : drafts[index]? = some draft) :
    heap.propertySelectors? (draft.relocated definition id delta) =
      some (definition.selectorWords draft.object).toArray := by
  obtain ⟨places, fits⟩ := houses.fits found
  by_cases own : draft.object.isClass = true ∨ definition.version = .sci11
  · have selectors : (draft.relocated definition id delta).selectors =
        some (definition.selectorWords draft.object).toArray := if_pos own
    rw [propertySelectors?, selectors]
  · -- An instance of the first format has the selectors of its class.
    have selectors : (draft.relocated definition id delta).selectors = none := if_neg own
    rw [not_or, Bool.not_eq_true] at own
    have listed : draft.object ∈ definition.objects := List.mem_of_getElem? (houses.defined found)
    obtain ⟨parent, member, isClass, species, properties⟩ := conform draft.object listed own.1
    obtain ⟨position, defined⟩ := List.getElem?_of_mem member
    obtain ⟨other, foundToo, rfl⟩ := houses.drafted defined
    have known : heap.classes.address? draft.object.species = some (other.address id delta) :=
      (houses.classes _ _).mpr ⟨other, List.mem_of_getElem? foundToo, isClass, species, rfl⟩
    -- The class declares the properties that the instance does, as is asked of instances.
    have inherited : (other.relocated definition id delta).selectors =
        some (definition.selectorWords draft.object).toArray := by
      rw [selectorWords, ← properties]
      exact if_pos (.inl isClass)
    rw [propertySelectors?, selectors]
    simp only
    rw [fits.species_relocated, known, Option.bind_some, houses.object?_address foundToo,
      Option.bind_some, inherited]

end Heap.Houses

namespace ScriptDefinition

variable {definition : ScriptDefinition}

/-- A selector that is none of the fixed ones is found among those that are declared. -/
theorem findIdx?_selectorWords (object : ObjectDefinition) {selector : UInt16}
    (plain : ¬ IsHeaderSelector selector) :
    (definition.selectorWords object).toArray.findIdx? (· == selector) =
      ((object.properties.map (·.1)).findIdx? (· == selector)).map
        (definition.version.layout.minProperties + ·) := by
  have least : definition.version.layout.minProperties ≤ 9 := by
    cases definition.version <;> decide
  -- The fixed selectors come first in the row.
  have header : ((List.range definition.version.layout.minProperties).map
      fun index => UInt16.ofNat (headerSelectors + index)).findIdx? (· == selector) = none := by
    rw [List.findIdx?_eq_none_iff]
    intro word member
    obtain ⟨index, inside, rfl⟩ := List.mem_map.mp member
    rw [List.mem_range] at inside
    rw [beq_eq_false_iff_ne]
    rintro rfl
    apply plain
    rw [IsHeaderSelector, UInt16.toNat_ofNat', headerSelectors]
    omega
  rw [List.findIdx?_toArray, selectorWords, List.findIdx?_append, header, Option.none_or,
    List.length_map, List.length_range]
  congr 1
  funext index
  exact Nat.add_comm _ _

/-- The method of an object that answers a selector is the one that is defined for it. -/
theorem method?_relocated {draft : Draft} {places : Places}
    (fits : draft.Fits definition places definition.codeBase) (id : SegmentId) (delta : Nat)
    (selector : UInt16) :
    match draft.object.methods.find? (·.1 == selector) with
    | none => (draft.relocated definition id delta).method? selector = none
    | some (_, label) => ∃ position, definition.assembly.position? label = some position ∧
        (draft.relocated definition id delta).method? selector =
          some ⟨id, UInt16.ofNat (definition.codeBase + position)⟩ := by
  have methods : (draft.relocated definition id delta).methods =
      List.zipWith (fun method offset => ⟨method.1, UInt16.ofNat offset⟩) draft.object.methods
        draft.offsets := rfl
  have code : (draft.relocated definition id delta).codeSegment = id := rfl
  rw [Object.method?, methods, code]
  have pairs := fits.methods
  generalize draft.object.methods = defined at pairs
  generalize draft.offsets = offsets at pairs
  -- Methods and their places go together, so the first match is the same.
  induction pairs with
  | nil => rfl
  | @cons method offset rest others placed _ ih =>
    rw [List.zipWith_cons_cons, List.find?_cons, List.find?_cons]
    by_cases here : method.1 = selector
    · obtain ⟨position, bound, rfl⟩ := methodOffset_eq_ok placed
      simp only [here, beq_self_eq_true]
      exact ⟨position, bound, rfl⟩
    · simp only [beq_eq_false_iff_ne.mpr here]
      exact ih

/-- A search in memory comes to what the definitions say, object by object. -/
theorem search_answers {heap : Heap} {id : SegmentId} {delta : Nat} {drafts : List Draft}
    (houses : heap.Houses definition id delta drafts)
    (conform : InstancesConform definition.objects) {selector : UInt16}
    (plain : ¬ IsHeaderSelector selector) (receiver : Address) (limit : Nat) {index : Nat}
    {draft : Draft} (found : drafts[index]? = some draft) :
    ∃ result records,
      heap.search receiver selector limit (draft.address id delta) = .ok (result, records) ∧
      definition.Answers id delta drafts receiver
        (dispatch definition.objects selector limit index) result := by
  -- The search goes from object to object, and the definitions are followed alongside.
  induction limit generalizing index draft with
  | zero => exact ⟨_, _, rfl, .notFound⟩
  | succ limit ih =>
    obtain ⟨places, fits⟩ := houses.fits found
    have object : heap.object (draft.address id delta) =
        .ok (draft.relocated definition id delta) := by
      rw [Heap.object, houses.object?_address found]
    -- The object has a method of that selector if its definition declares one.
    have own := method?_relocated fits id delta selector
    rw [Heap.search, object, ok_bind, dispatch, houses.defined found]
    simp only
    split at own
    · rename_i none_
      simp only [own, none_, houses.propertySelectors?_eq conform found, Option.bind_some,
        findIdx?_selectorWords draft.object plain]
      cases property : (draft.object.properties.map (·.1)).findIdx? (· == selector) with
      | some slot => exact ⟨_, _, rfl, .property slot⟩
      | none =>
        simp only [Option.map_none, Object.hasSuperclass, fits.superclass_relocated,
          houses.address?_eq draft.object.superclass]
        -- Otherwise the search goes on at the superclass, if there is one and it is known.
        by_cases last : draft.object.superclass = noSuperclass
        · simp only [last, bne_self_eq_false, Bool.not_false, if_true]
          exact ⟨_, _, rfl, .notFound⟩
        · simp only [bne_iff_ne.mpr last, Bool.not_true, Bool.false_eq_true, if_false, last]
          cases class_ : classAt? definition.objects draft.object.superclass with
          | none => exact ⟨_, _, rfl, .notFound⟩
          | some parent =>
            obtain ⟨inside, _⟩ := List.findIdx?_eq_some_iff_getElem.mp class_
            obtain ⟨other, foundToo, _⟩ := houses.drafted (List.getElem?_eq_getElem inside)
            simp only [Option.bind_some, foundToo, Option.map_some]
            obtain ⟨script, _, housed⟩ := houses.script
            by_cases same : parent = index
            · -- The class is its own superclass.
              subst same
              rw [found, Option.some.injEq] at foundToo
              subst foundToo
              simp only [if_true]
              exact ⟨_, _, rfl, .notFound⟩
            · have apart : other.address id delta ≠ draft.address id delta :=
                fun equal => same (housed.address_inj foundToo found equal)
              simp only [if_neg apart, if_neg same]
              exact ih foundToo
    · rename_i selector_ label some_
      obtain ⟨position, bound, method⟩ := own
      simp only [method, some_]
      exact ⟨_, _, rfl, .method bound found⟩

/-- The address of the object at a position of a script's list. -/
def objectAddress? (heap : Heap) (id : SegmentId) (index : Nat) : Option Address :=
  match heap.get? id with
  | some (.script script) => script.objects[index]?.map (·.pos)
  | _ => none

/--
Two lookups of one selector correspond, each in a memory with the script in another format.

Neither finds anything, or both find the method of the same object at the same place from the base
of the code, or both find a property of the receiver, which the second format has five further on.
-/
inductive LookupsAlike (first second : ScriptDefinition) (old new : Heap) (oldId newId : SegmentId)
    (oldReceiver newReceiver : Address) : SelectorLookup → SelectorLookup → Prop where
  | notFound : LookupsAlike first second old new oldId newId oldReceiver newReceiver
      .notFound .notFound
  | method {owner position : Nat} {oldOwner newOwner : Address}
      (oldAt : objectAddress? old oldId owner = some oldOwner)
      (newAt : objectAddress? new newId owner = some newOwner) :
      LookupsAlike first second old new oldId newId oldReceiver newReceiver
        (.method ⟨oldId, UInt16.ofNat (first.codeBase + position)⟩ oldOwner)
        (.method ⟨newId, UInt16.ofNat (second.codeBase + position)⟩ newOwner)
  | property (index : Nat) :
      LookupsAlike first second old new oldId newId oldReceiver newReceiver
        (.variable oldReceiver index) (.variable newReceiver (index + 5))

/-- The object at a position of the list is where its draft says. -/
theorem objectAddress?_eq {heap : Heap} {id : SegmentId} {delta : Nat} {drafts : List Draft}
    (houses : heap.Houses definition id delta drafts) {index : Nat} {draft : Draft}
    (found : drafts[index]? = some draft) :
    objectAddress? heap id index = some (draft.address id delta) := by
  -- The objects of the script are the drafts as they were set, in the same order.
  obtain ⟨script, scriptAt, own⟩ := houses.script
  rw [objectAddress?, scriptAt]
  simp only
  rw [← Array.getElem?_toList, own.objects, List.getElem?_map, found]
  rfl

/-- The search starts at the receiver and has a fixed limit. -/
theorem lookup_answers {heap : Heap} {id : SegmentId} {delta : Nat} {drafts : List Draft}
    (houses : heap.Houses definition id delta drafts)
    (conform : InstancesConform definition.objects) {selector : UInt16}
    (plain : ¬ IsHeaderSelector selector) {index : Nat} {draft : Draft}
    (found : drafts[index]? = some draft) :
    ∃ result, heap.lookup (draft.address id delta) selector = .ok result ∧
      definition.Answers id delta drafts (draft.address id delta)
        (dispatch definition.objects selector Heap.chainLimit index) result := by
  -- A lookup is a search without what it noted.
  obtain ⟨result, records, searched, answers⟩ :=
    search_answers houses conform plain (draft.address id delta) Heap.chainLimit found
  refine ⟨result, ?_, answers⟩
  rw [Heap.lookup, Heap.resolve, searched]
  rfl

/--
Objects understand selectors alike in both formats.

The classes are of different species, every instance declares the properties of its class, and the
selector is none of the fixed ones. The script was built in either format and loaded into an empty
memory.
-/
theorem layouts_dispatch_alike (definition : ScriptDefinition)
    (distinct : definition.classSpecies.Nodup) (conform : InstancesConform definition.objects)
    {old new : Heap} {oldId newId : SegmentId}
    (oldLoaded : (definition.inFormat .sci0).IsLoaded oldId old)
    (newLoaded : (definition.inFormat .sci11).IsLoaded newId new) {index : Nat}
    (inside : index < definition.objects.length) {selector : UInt16}
    (plain : ¬ IsHeaderSelector selector) :
    ∃ oldReceiver newReceiver oldResult newResult,
      objectAddress? old oldId index = some oldReceiver ∧
      objectAddress? new newId index = some newReceiver ∧
      old.lookup oldReceiver selector = .ok oldResult ∧
      new.lookup newReceiver selector = .ok newResult ∧
      LookupsAlike (definition.inFormat .sci0) (definition.inFormat .sci11)
        old new oldId newId oldReceiver newReceiver oldResult newResult := by
  obtain ⟨oldDelta, oldDrafts, oldHouses⟩ := oldLoaded.houses distinct
  obtain ⟨newDelta, newDrafts, newHouses⟩ := newLoaded.houses distinct
  obtain ⟨oldDraft, oldFound, _⟩ := oldHouses.drafted (List.getElem?_eq_getElem inside)
  obtain ⟨newDraft, newFound, _⟩ := newHouses.drafted (List.getElem?_eq_getElem inside)
  obtain ⟨oldResult, oldLookup, oldAnswers⟩ := lookup_answers oldHouses conform plain oldFound
  obtain ⟨newResult, newLookup, newAnswers⟩ := lookup_answers newHouses conform plain newFound
  refine ⟨_, _, oldResult, newResult, objectAddress?_eq oldHouses oldFound,
    objectAddress?_eq newHouses newFound, oldLookup, newLookup, ?_⟩
  -- Both follow the same definitions, so they answer one and the same dispatch.
  have objects : ∀ version, (definition.inFormat version).objects = definition.objects :=
    fun _ => rfl
  rw [objects] at oldAnswers newAnswers
  generalize dispatch definition.objects selector Heap.chainLimit index = meaning
    at oldAnswers newAnswers
  cases oldAnswers with
  | notFound =>
    cases newAnswers
    exact .notFound
  | property slot =>
    cases newAnswers
    -- The second format keeps five more words in front of the declared properties.
    have headers : (definition.inFormat .sci0).version.layout.minProperties + 5 =
        (definition.inFormat .sci11).version.layout.minProperties := rfl
    have further : (definition.inFormat .sci11).version.layout.minProperties + slot =
        (definition.inFormat .sci0).version.layout.minProperties + slot + 5 := by
      omega
    rw [further]
    exact .property _
  | method bound owner =>
    cases newAnswers with
    | method boundToo ownerToo =>
      cases bound.symm.trans boundToo
      exact .method (objectAddress?_eq oldHouses owner) (objectAddress?_eq newHouses ownerToo)

/-- A class, a class with that superclass, and an instance of the latter. -/
def threeLevels : ScriptDefinition where
  version := .sci0
  number := 7
  assembly := { code := #[0x48, 0x48], labels := #[some 0, some 1] }
  objects := [
    { ObjectDefinition.ofClass "Thing" 1 with
      properties := [(40, .number 5)], methods := [(41, 1)] },
    { ObjectDefinition.ofClass "Lamp" 2 with
      superclass := 1, properties := [(40, .number 6), (42, .number 0)], methods := [(43, 0)] },
    { ObjectDefinition.ofInstance "lamp" 2 with
      properties := [(40, .number 7), (42, .number 1)] }]

/-- Resources that hold what was built from a definition. -/
def builtResources (definition : ScriptDefinition) : Resources where
  script? _ := definition.build.toOption.map (·.1)
  heap? _ := definition.build.toOption.bind (·.2)

/-- The memory into which a script built from a definition was loaded. -/
def loadedStore (definition : ScriptDefinition) : Store :=
  ((Store.loadScript definition.builtResources definition.number).run
    (Store.blank definition.version (.ofScripts []) #[])).2

/-- What can be built and loaded into the first segment is loaded there. -/
theorem isLoaded_loadedStore {bytes : Bytes} {part : Option Bytes}
    (made : definition.build.toOption = some (bytes, part))
    (needed : part.isSome = (definition.version == .sci11))
    (given : ((Store.loadScript definition.builtResources definition.number).run
      (Store.blank definition.version (.ofScripts []) #[])).1.toOption = some 1) :
    definition.IsLoaded 1 definition.loadedStore.heap := by
  -- Building did not fail, because it gave something.
  have built : definition.build = .ok (bytes, part) := by
    cases outcome : definition.build with
    | error fault =>
      rw [outcome] at made
      cases made
    | ok result =>
      rw [outcome] at made
      exact congrArg Except.ok (Option.some.inj made)
  refine ⟨bytes, part, definition.builtResources, [], #[], _, built, ?_, ?_,
    StoreM.run_eq_of_toOption given, rfl⟩
  · rw [builtResources, made]
    rfl
  · unfold Store.heapResource
    -- Only the second format has a heap part.
    cases version : definition.version with
    | sci0 =>
      rw [version] at needed
      cases part with
      | none => rfl
      | some heap => cases needed
    | sci11 =>
      rw [version] at needed
      cases part with
      | none => cases needed
      | some heap =>
        have stored : definition.builtResources.heap? definition.number = some heap := by
          rw [builtResources, made]
          rfl
        simp only [stored]

/-- A script with two classes and an instance is loaded in the first format. -/
theorem threeLevels_sci0 : (threeLevels.inFormat .sci0).IsLoaded 1
    (threeLevels.inFormat .sci0).loadedStore.heap := by
  -- Only that the script can be built, and how large it is, has to be computed.
  have made : (threeLevels.inFormat .sci0).build.toOption.map (·.2) = some none := by
    decide +kernel
  obtain ⟨⟨bytes, part⟩, built, rfl⟩ := Option.map_eq_some_iff.mp made
  exact isLoaded_loadedStore built rfl (by decide +kernel)

/-- A script with two classes and an instance is loaded in the second format. -/
theorem threeLevels_sci11 : (threeLevels.inFormat .sci11).IsLoaded 1
    (threeLevels.inFormat .sci11).loadedStore.heap := by
  -- Only that the script can be built, and how large it is, has to be computed.
  have made : (threeLevels.inFormat .sci11).build.toOption.map (·.2.isSome) = some true := by
    decide +kernel
  obtain ⟨⟨bytes, part⟩, built, present⟩ := Option.map_eq_some_iff.mp made
  exact isLoaded_loadedStore built present (by decide +kernel)

/-- A method of the class at the top is found for the instance in both formats. -/
theorem layouts_dispatch_alike_threeLevels :
    dispatch threeLevels.objects 41 Heap.chainLimit 2 = .method 0 1 ∧
    ∃ oldReceiver newReceiver oldResult newResult,
      (threeLevels.inFormat .sci0).loadedStore.heap.lookup oldReceiver 41 =
        .ok oldResult ∧
      (threeLevels.inFormat .sci11).loadedStore.heap.lookup newReceiver 41 =
        .ok newResult ∧
      LookupsAlike (threeLevels.inFormat .sci0) (threeLevels.inFormat .sci11)
        (threeLevels.inFormat .sci0).loadedStore.heap
        (threeLevels.inFormat .sci11).loadedStore.heap 1 1
        oldReceiver newReceiver oldResult newResult := by
  -- The conditions are computed; the two lookups are told by the general theorem.
  have conform : InstancesConform threeLevels.objects := by
    unfold InstancesConform
    decide +kernel
  have plain : ¬ IsHeaderSelector 41 := by
    unfold IsHeaderSelector
    decide
  obtain ⟨oldReceiver, newReceiver, oldResult, newResult, _, _, oldLookup, newLookup, alike⟩ :=
    layouts_dispatch_alike threeLevels (by decide) conform threeLevels_sci0 threeLevels_sci11
      (show 2 < threeLevels.objects.length by decide) plain
  exact ⟨by decide +kernel, oldReceiver, newReceiver, oldResult, newResult, oldLookup, newLookup,
    alike⟩

end ScriptDefinition

end AdventureVm
