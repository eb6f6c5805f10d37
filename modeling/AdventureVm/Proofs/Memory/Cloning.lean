import AdventureVm.Proofs.Memory.Chains
import AdventureVm.Proofs.Memory.Vacancies

/-!
A clone answers every message as its origin does.

The chain of a cloned class leads through the class itself, so the two chains need not be the same,
but the answers are.
-/

namespace AdventureVm

namespace Object

variable (object : Object) (pos : Address)

/-- A clone has the methods of its origin. -/
@[simp] theorem methods_cloneAt : (object.cloneAt pos).methods = object.methods := by
  -- The branch decides on the superclass only.
  unfold cloneAt
  dsimp only
  split <;> rfl

/-- A clone has the code of its origin. -/
@[simp] theorem codeSegment_cloneAt : (object.cloneAt pos).codeSegment = object.codeSegment := by
  -- The branch decides on the superclass only.
  unfold cloneAt
  dsimp only
  split <;> rfl

/-- A clone has the selectors of its origin. -/
@[simp] theorem selectors_cloneAt : (object.cloneAt pos).selectors = object.selectors := by
  -- The branch decides on the superclass only.
  unfold cloneAt
  dsimp only
  split <;> rfl

/-- A clone keeps its properties where its origin does. -/
@[simp] theorem layout_cloneAt : (object.cloneAt pos).layout = object.layout := by
  -- The branch decides on the superclass only.
  unfold cloneAt
  dsimp only
  split <;> rfl

/-- A clone has as many properties as its origin. -/
@[simp] theorem size_cloneAt :
    (object.cloneAt pos).properties.size = object.properties.size := by
  -- Properties are replaced in their slots, of which there are as many.
  unfold cloneAt
  dsimp only
  split <;> simp [setProperty]

/-- A property that is set has the value, if there is one of that index. -/
theorem property?_setProperty (index other : Nat) (value : Address) :
    (object.setProperty index value).property? other =
      if index = other then (object.property? other).map fun _ => value
      else object.property? other := by
  simp only [property?, setProperty, Array.getElem?_setIfInBounds]
  split
  · rename_i same
    subst same
    -- An index past the end names no property, before or after.
    split
    · rename_i inside
      simp [inside]
    · rename_i outside
      simp [Array.getElem?_eq_none (Nat.le_of_not_lt outside)]
  · rfl

/-- A clone has the properties of its origin, but for its flags and the superclass of a class. -/
theorem property?_cloneAt {index : Nat} (flags : index ≠ object.layout.infoSlot)
    (parent : object.isClass = true → index ≠ object.layout.superclassSlot) :
    (object.cloneAt pos).property? index = object.property? index := by
  -- The flags are set for every clone, the superclass only for that of a class.
  have flagged (info : Address) :
      (object.setProperty object.layout.infoSlot info).property? index =
        object.property? index := by
    rw [property?_setProperty, if_neg flags.symm]
  unfold cloneAt
  dsimp only
  split
  · rename_i isClass
    show (Object.setProperty _ object.layout.superclassSlot _).property? index = _
    rw [property?_setProperty, if_neg (parent isClass).symm, flagged]
  · exact flagged _

/-- A clone is of the species of its origin. -/
@[simp] theorem species_cloneAt : (object.cloneAt pos).species = object.species := by
  -- The three words are in three places, whatever the format.
  have apart : object.layout.speciesSlot ≠ object.layout.infoSlot ∧
      object.layout.speciesSlot ≠ object.layout.superclassSlot := by
    unfold layout
    cases object.version <;> decide
  rw [species, species, layout_cloneAt, wordAt, wordAt,
    property?_cloneAt object pos apart.1 fun _ => apart.2]

/-- A clone of an instance has the same superclass. -/
theorem superclass_cloneAt_instance (instance_ : object.isClass = false) :
    (object.cloneAt pos).superclass = object.superclass := by
  -- The slot that cloning writes is that of the info word, another one.
  have apart : object.layout.superclassSlot ≠ object.layout.infoSlot := by
    unfold layout
    cases object.version <;> decide
  rw [superclass, superclass, layout_cloneAt, wordAt, wordAt,
    property?_cloneAt object pos apart (by simp [instance_])]

/-- A clone of a class has that class as its superclass. -/
theorem superclass_cloneAt_class (isClass : object.isClass = true) :
    (object.cloneAt pos).superclass = object.species := by
  -- A class has flags, and the word for its superclass comes before them.
  have order : object.layout.superclassSlot < object.layout.infoSlot := by
    unfold layout
    cases object.version <;> decide
  have inside : object.layout.infoSlot < object.properties.size := by
    by_contra outside
    rw [Object.isClass, info, wordAt, property?,
      Array.getElem?_eq_none (Nat.le_of_not_lt outside)] at isClass
    cases isClass
  rw [superclass, layout_cloneAt, wordAt, cloneAt]
  simp only [isClass, if_true]
  show ((Object.setProperty _ object.layout.superclassSlot _).property?
    object.layout.superclassSlot).elim 0 (·.offset) = _
  rw [property?_setProperty, if_pos rfl, property?_setProperty, if_neg order.ne', property?,
    Array.getElem?_eq_getElem (order.trans inside)]
  rfl

end Object

namespace Heap

/-- What every memory is by the way it comes about: there is a place zero, and pools of clones came
about by their own operations. -/
structure IsBuilt (heap : Heap) : Prop where
  /-- There is a place zero. -/
  opened : 0 < heap.segments.size
  /-- Pools of clones came about by their own operations. -/
  pools : ∀ id pool, heap.get? id = some (.clones pool) → pool.Made

/-- A clone of the object at one address was made at another one, and nothing else changed. -/
structure Cloned (before : Heap) (origin copy : Address) (object : Object) (after : Heap) :
    Prop where
  /-- There is the object. -/
  there : before.object? origin = some object
  /-- There was nothing where the clone is. -/
  fresh : before.object? copy = none
  /-- There is the clone. -/
  made : after.object? copy = some (object.cloneAt copy)
  /-- All other objects are what they were. -/
  others : ∀ address, address ≠ copy → after.object? address = before.object? address
  /-- The classes are what they were. -/
  classes : after.classes = before.classes

/-- A clone that is put into the next slot of a pool is there, and all other objects are where they
were. -/
theorem object?_occupy {heap : Heap} {id : SegmentId} {pool : Pool Object} {index : Nat}
    (found : heap.get? id = some (.clones pool)) (vacated : pool.IsVacated)
    (next : pool.next? = some index) (clone : Object) (address : Address) :
    (heap.modify id (RecordKind.clones.modify fun pool => pool.occupy clone)).object? address =
      if address = ⟨id, UInt16.ofNat index⟩ then some clone else heap.object? address := by
  have offset : (UInt16.ofNat index).toNat = index := toNat_ofNat_of_lt (vacated.next next).2
  rw [object?, get?_modify]
  by_cases inside : address.segment = id
  · -- In the pool, the offset tells the slot.
    rw [if_pos inside, found]
    show (pool.occupy clone).get? address.offset.toNat = _
    rw [vacated.get?_occupy next]
    by_cases here : address.offset.toNat = index
    · have same : address = ⟨id, UInt16.ofNat index⟩ := by
        cases address
        simp only [Address.mk.injEq]
        exact ⟨inside, UInt16.toNat_inj.mp (here.trans offset.symm)⟩
      rw [if_pos here, if_pos same]
    · have other : address ≠ ⟨id, UInt16.ofNat index⟩ := by
        rintro rfl
        exact here offset
      rw [if_neg here, if_neg other, object?, inside, found]
  · have other : address ≠ ⟨id, UInt16.ofNat index⟩ := by
      rintro rfl
      exact inside rfl
    rw [if_neg inside, if_neg other]
    rfl

end Heap

namespace Store

open Heap

/-- The pool for new clones is one that came about by its own operations, and that there may be one
more pool changes no object. -/
theorem currentPool_leads {store : Store} (built : store.heap.IsBuilt) :
    Leads (currentPool .clones) store (Either
      (fun id after => (∀ pool, after.heap.get? id = some (.clones pool) → pool.Made) ∧
        (∀ address, after.heap.object? address = store.heap.object? address) ∧
        after.heap.classes = store.heap.classes)
      fun _ _ => True) := by
  simp only [currentPool, leads_bind, StoreM.leads_read, either_ok]
  split
  · -- A current pool is one of those that memory was built with.
    exact ⟨fun pool found => built.pools _ pool found, fun _ => rfl, rfl⟩
  · rw [allocate, leads_bind, leads_insert]
    cases next : store.heap.nextId? with
    | none => trivial
    | some id =>
      obtain ⟨atEnd, _, empty, _⟩ := nextId?_spec built.opened next
      have places (other : SegmentId) : (store.heap.insert id (.clones {})).get? other =
          if other = id then some (.clones {}) else store.heap.get? other := get?_insert atEnd
      refine ⟨fun pool found => ?_, fun address => ?_, ?_⟩
      · obtain rfl : ({} : Pool Object) = pool := by
          have here := (places id).symm.trans found
          simpa using here
        exact .empty
      · -- A pool without clones holds no object, and its place held none before.
        show (store.heap.insert id (.clones {})).object? address = _
        rw [object?, places, object?]
        by_cases here : address.segment = id
        · rw [if_pos here, here, empty]
          rfl
        · rw [if_neg here]
      · exact classes_insert

/-- Making a clone makes one of the object, and changes nothing else. -/
theorem createClone_leads {store : Store} (built : store.heap.IsBuilt) (origin : Address) :
    Leads (createClone origin) store (Either
      (fun copy after => ∃ object, store.heap.Cloned origin copy object after.heap)
      fun _ _ => True) := by
  simp only [createClone, leads_bind, StoreM.leads_require, Heap.object]
  cases there : store.heap.object? origin with
  | none => trivial
  | some object =>
    simp only [either_ok, create, leads_bind]
    refine (currentPool_leads built).either ?_ fun _ _ _ => trivial
    rintro id between ⟨pools, objects, classes⟩
    simp only [StoreM.leads_read, either_ok]
    split
    · trivial
    · trivial
    · rename_i index slot
      simp only [leads_bind, StoreM.leads_change, either_ok, leads_pure]
      -- The slot is the next one of a pool of clones.
      obtain ⟨pool, inside, next⟩ := Option.map_eq_some_iff.mp slot
      obtain ⟨segment, found, isPool⟩ := Option.bind_eq_some_iff.mp inside
      obtain rfl := RecordKind.clones_lawful.segment_of_pool? isPool
      have vacated := (pools pool found).isVacated
      obtain ⟨empty, small⟩ := vacated.next next
      have objectsNow (address : Address) := object?_occupy found vacated next
        (object.cloneAt ⟨id, UInt16.ofNat index⟩) address
      refine ⟨object, there, ?_, ?_, ?_, classes⟩
      · rw [← objects, object?, found]
        show pool.get? (UInt16.ofNat index).toNat = none
        rw [toNat_ofNat_of_lt small]
        exact empty
      · exact (objectsNow _).trans (if_pos rfl)
      · -- Every other address finds the object that it found before.
        intro address apart
        rw [← objects]
        exact (objectsNow address).trans (if_neg apart)

end Store

/-- The same answer, where one object takes the place of another. -/
def SelectorLookup.readdress (origin copy : Address) : SelectorLookup → SelectorLookup
  | .variable object index => .variable (if object = origin then copy else object) index
  | .method address owner => .method address (if owner = origin then copy else owner)
  | .notFound => .notFound

/-- Two objects that have what answers depend on in common. -/
structure Object.Alike (former later : Object) : Prop where
  /-- They have the same methods. -/
  methods : later.methods = former.methods
  /-- Their methods have the same code. -/
  codeSegment : later.codeSegment = former.codeSegment
  /-- They have the same selectors. -/
  selectors : later.selectors = former.selectors
  /-- They are of the same species. -/
  species : later.species = former.species

/-- An object is like itself. -/
theorem Object.Alike.refl (object : Object) : object.Alike object :=
  ⟨rfl, rfl, rfl, rfl⟩

/-- A clone is like its origin. -/
theorem Object.alike_cloneAt (object : Object) (pos : Address) :
    object.Alike (object.cloneAt pos) :=
  ⟨by simp, by simp, by simp, by simp⟩

namespace Heap

variable {before after : Heap} {origin copy : Address} {object : Object} {selector : UInt16}

/-- An object that answers is not silent. -/
theorem Answers.not_silent {heap : Heap} {receiver current : Address} {found : SelectorLookup}
    (answers : heap.Answers receiver selector current found) : ¬ heap.Silent selector current := by
  rintro ⟨object, there, without, unlisted⟩
  -- A silent object has neither a method for the selector nor a list that names it.
  cases answers with
  | @method other earlier later found thereToo table named first =>
    obtain rfl := Option.some.inj (there.symm.trans thereToo)
    exact without found (by simp [table]) named
  | @property other selectors index thereToo _ lists listed first =>
    obtain rfl := Option.some.inj (there.symm.trans thereToo)
    exact unlisted selectors lists (Array.mem_of_getElem? listed)

/-- The chain decides in one way only. -/
theorem Decides.unique {heap : Heap} {receiver : Address} {limit : Nat}
    {first second : Except Fault SelectorLookup}
    (decides : heap.Decides receiver selector limit first)
    (decidesToo : heap.Decides receiver selector limit second) : first = second :=
  decides.found.symm.trans decidesToo.found

namespace Cloned

variable (cloned : before.Cloned origin copy object after)
include cloned

/-- Something that was an object is not the clone. -/
theorem ne_copy {address : Address} {other : Object} (there : before.object? address = some other) :
    address ≠ copy := by
  -- The address of the clone held no object before.
  rintro rfl
  rw [cloned.fresh] at there
  cases there

/-- What was an object is the same one still. -/
theorem same {address : Address} {other : Object} (there : before.object? address = some other) :
    after.object? address = some other := by
  rw [cloned.others address (cloned.ne_copy there), there]

/-- A list that gave selectors does so still. -/
theorem lists {former later : Object} (alike : former.Alike later) {selectors : Array UInt16}
    (lists : before.Lists former selectors) : after.Lists later selectors := by
  -- By where the selectors came from: the object itself, or its class.
  cases lists with
  | own has => exact .own (alike.selectors.trans has)
  | borrowed without known there has =>
    refine .borrowed (alike.selectors.trans without) ?_ (cloned.same there) has
    rw [alike.species, cloned.classes, known]

/-- A list that gives selectors did so before, or it is the one that the origin has. -/
theorem listed {former later : Object} (alike : former.Alike later) {selectors : Array UInt16}
    (lists : after.Lists later selectors) :
    before.Lists former selectors ∨ object.selectors = some selectors := by
  cases lists with
  | own has => exact .inl (.own (alike.selectors.symm.trans has))
  | @borrowed address parent without known there has =>
    rw [alike.species, cloned.classes] at known
    by_cases here : address = copy
    · -- The table of classes may name the place that the clone got.
      subst here
      obtain rfl := Option.some.inj (cloned.made.symm.trans there)
      exact .inr ((object.selectors_cloneAt address).symm.trans has)
    · rw [cloned.others address here] at there
      exact .inl (.borrowed (alike.selectors.symm.trans without) known there has)

/-- Where the origin is silent, whatever else was silent is so still, and so is the clone. -/
theorem silent (quiet : before.Silent selector origin) {address place : Address}
    {former later : Object} (alike : former.Alike later)
    (there : before.object? address = some former) (now : after.object? place = some later)
    (silent : before.Silent selector address) : after.Silent selector place := by
  obtain ⟨first, thereToo, _, unlisted⟩ := quiet
  obtain rfl := Option.some.inj (cloned.there.symm.trans thereToo)
  obtain ⟨other, thereToo, without, unlistedToo⟩ := silent
  obtain rfl := Option.some.inj (there.symm.trans thereToo)
  refine ⟨later, now, by rwa [alike.methods], fun selectors lists => ?_⟩
  -- The list is one from before or that of the origin, and neither names the selector.
  rcases cloned.listed alike lists with lists | own
  · exact unlistedToo selectors lists
  · exact unlisted selectors (.own own)

/-- Whatever answered the origin answers the clone, at its old place or as the clone. -/
theorem answers {address place : Address} {former later : Object} {found : SelectorLookup}
    (alike : former.Alike later) (there : before.object? address = some former)
    (now : after.object? place = some later)
    (moved : (if address = origin then copy else address) = place)
    (answers : before.Answers origin selector address found) :
    after.Answers copy selector place (found.readdress origin copy) := by
  -- A method moves with the object that has it, a property with the receiver.
  cases answers with
  | @method other earlier behind entry thereToo table named first =>
    obtain rfl := Option.some.inj (there.symm.trans thereToo)
    rw [SelectorLookup.readdress, moved, ← alike.codeSegment]
    exact .method now (alike.methods.trans table) named first
  | @property other selectors index thereToo without lists listed first =>
    obtain rfl := Option.some.inj (there.symm.trans thereToo)
    rw [SelectorLookup.readdress, if_pos rfl]
    exact .property now (by rwa [alike.methods]) (cloned.lists alike lists) listed first

/-- What was an object has the same superclass still. -/
theorem parent?_same {address : Address} {other : Object}
    (there : before.object? address = some other) :
    after.parent? address = before.parent? address := by
  rw [parent?, parent?, cloned.same there, there, cloned.classes]

/-- After the clone comes what comes after its origin, or the origin itself. -/
theorem parent?_copy
    (known : object.isClass = true → before.classes.address? object.species = some origin ∧
      object.species ≠ noSuperclass) (apart : before.parent? origin ≠ some copy) :
    after.parent? copy = before.parent? origin ∨ after.parent? copy = some origin := by
  have other : origin ≠ copy := cloned.ne_copy cloned.there
  rw [parent?, cloned.made, cloned.classes, Option.bind_some, Object.hasSuperclass]
  cases isClass : object.isClass with
  | true =>
    -- A class has become the superclass of its clone.
    obtain ⟨named, ordinary⟩ := known isClass
    rw [object.superclass_cloneAt_class copy isClass, named]
    simp [ordinary, other]
  | false =>
    rw [object.superclass_cloneAt_instance copy isClass]
    rw [parent?, cloned.there, Option.bind_some, Object.hasSuperclass] at apart ⊢
    split
    · rename_i hasSuperclass
      rw [if_pos hasSuperclass] at apart
      -- The origin may be its own superclass, and the clone is not.
      cases named : before.classes.address? object.superclass with
      | none => exact .inl rfl
      | some parent =>
        rw [named] at apart
        by_cases own : parent = origin
        · subst own
          exact .inr (by simp [other])
        · have elsewhere : parent ≠ copy := by
            rintro rfl
            simp [own] at apart
          exact .inl (by simp [Option.filter, own, elsewhere])
    · exact .inl rfl

/-- While the chain of the origin leads over objects, that of the clone does so too, along the same
ones or with the origin after the clone. -/
theorem chain_copy
    (known : object.isClass = true → before.classes.address? object.species = some origin ∧
      object.species ≠ noSuperclass) (apart : before.parent? origin ≠ some copy) :
    ∃ back ≤ 1, ∀ n, before.Passes origin selector n → ∀ m, 1 ≤ m → m ≤ n + back →
      after.chain copy m = before.chain origin (m - back) := by
  -- From the second object of the clone's chain on, one step is the same as before.
  have onwards (back : Nat) (small : back ≤ 1)
      (second : after.chain copy 1 = before.chain origin (1 - back)) :
      ∀ n, before.Passes origin selector n → ∀ m, 1 ≤ m → m ≤ n + back →
        after.chain copy m = before.chain origin (m - back) := by
    intro n passes m positive
    induction m, positive using Nat.le_induction with
    | base => exact fun _ => second
    | succ m positive ih =>
      intro near
      obtain ⟨current, here, other, there, _⟩ := passes (m - back) (by omega)
      rw [chain, ih (by omega), here, show m + 1 - back = m - back + 1 by omega, chain, here]
      exact cloned.parent?_same there
  rcases cloned.parent?_copy known apart with same | next
  · exact ⟨0, by omega, onwards 0 (by omega) same⟩
  · exact ⟨1, by omega, onwards 1 (by omega) next⟩

/-- What the chain of the origin decides, that of the clone does with one more object at most. -/
theorem decides
    (known : object.isClass = true → before.classes.address? object.species = some origin ∧
      object.species ≠ noSuperclass) {limit : Nat} (several : 1 < limit)
    {result : Except Fault SelectorLookup} (decides : before.Decides origin selector limit result)
    (apart : result ≠ .error (.notAnObject copy)) :
    after.Decides copy selector (limit + 1) (result.map (·.readdress origin copy)) := by
  have alike := object.alike_cloneAt copy
  rcases answers_or_silent origin selector cloned.there with ⟨found, answers⟩ | quiet
  · -- The origin answers itself, and so does the clone.
    obtain rfl := decides.unique (.answered (n := 0) (by omega) (passes_zero _ _ _) rfl answers)
    exact .answered (n := 0) (by omega) (passes_zero _ _ _) rfl
      (cloned.answers alike cloned.there cloned.made (if_pos rfl) answers)
  · have named : before.parent? origin ≠ some copy := by
      intro named
      have passes := (passes_zero before origin selector).succ rfl quiet
      exact apart (decides.unique (.broken several passes named cloned.fresh))
    -- From the clone the chain goes on as from the origin, further along by a fixed number of
    -- steps.
    obtain ⟨back, small, chains⟩ := cloned.chain_copy known named
    have passed {n : Nat} (passes : before.Passes origin selector n) :
        after.Passes copy selector (n + back) := by
      intro m near
      by_cases first : m = 0
      · subst first
        exact ⟨copy, rfl, cloned.silent quiet alike cloned.there cloned.made quiet⟩
      · obtain ⟨current, here, silent⟩ := passes (m - back) (by omega)
        obtain ⟨other, there, _⟩ := id silent
        refine ⟨current, ?_, cloned.silent quiet (.refl other) there (cloned.same there) silent⟩
        rw [chains n passes m (by omega) (by omega), here]
    cases decides with
    | @answered n current found near passes here answers =>
      -- The origin is silent, so it is another object that answers.
      have other : current ≠ origin := by
        rintro rfl
        exact answers.not_silent quiet
      have positive : n ≠ 0 := by
        rintro rfl
        exact other (Option.some.inj here).symm
      obtain ⟨answering, there⟩ : ∃ answering, before.object? current = some answering := by
        cases answers with
        | method there => exact ⟨_, there⟩
        | property there => exact ⟨_, there⟩
      refine .answered (n := n + back) (by omega) (passed passes) ?_
        (cloned.answers (.refl answering) there (cloned.same there) (if_neg other) answers)
      rw [chains n passes _ (by omega) (by omega), Nat.add_sub_cancel, here]
    | @ended n near passes last =>
      refine .ended (n := n + back) (by omega) ?_ ?_
      · rw [Nat.add_right_comm]
        exact passed passes
      · rw [chains (n + 1) passes (n + back + 1) (by omega) (by omega), Nat.add_right_comm,
          Nat.add_sub_cancel, last]
    -- The chain breaks off at the same address, which is not the clone.
    | @broken n current near passes here absent =>
      have elsewhere : current ≠ copy := by
        rintro rfl
        exact apart rfl
      have positive : n ≠ 0 := by
        rintro rfl
        obtain rfl := Option.some.inj here
        rw [cloned.there] at absent
        cases absent
      refine .broken (n := n + back) (by omega) (passed passes) ?_ ?_
      · rw [chains n passes _ (by omega) (by omega), Nat.add_sub_cancel, here]
      · rw [cloned.others current elsewhere, absent]

end Cloned

/-- What a part of the chain decides, a longer part of it does. -/
theorem Decides.mono {heap : Heap} {receiver : Address} {limit longer : Nat}
    {result : Except Fault SelectorLookup} (decides : heap.Decides receiver selector limit result)
    (more : limit ≤ longer) : heap.Decides receiver selector longer result := by
  -- The deciding object is as far from the receiver as it was.
  cases decides with
  | answered near passes here answers => exact .answered (near.trans_le more) passes here answers
  | ended near passes last => exact .ended (near.trans_le more) passes last
  | broken near passes here absent => exact .broken (near.trans_le more) passes here absent

/-- What is decided is what is looked up. -/
theorem Decides.lookup {heap : Heap} {receiver : Address} {limit : Nat}
    {result : Except Fault SelectorLookup} (decides : heap.Decides receiver selector limit result)
    (near : limit ≤ chainLimit) : heap.lookup receiver selector = result :=
  (lookup_eq_iff _ _ _ _).mpr (.inl (decides.mono near))

end Heap

open Heap

/--
Cloning preserves what selectors mean.

The clone gives the answers of its origin, with itself in the place of the origin, to every selector
that is decided by all but the last of the objects that are asked. But a class must not be of the
species that stands for none, and the lookup must not have failed for the address of the clone.
-/
theorem clone_answers_alike {store after : Store} {origin copy : Address} {object : Object}
    (built : store.heap.IsBuilt) (there : store.heap.object? origin = some object)
    (known : object.isClass = true →
      store.heap.classes.address? object.species = some origin ∧ object.species ≠ noSuperclass)
    (made : (Store.createClone origin).run store = (.ok copy, after)) :
    (∀ selector,
      store.heap.Decides origin selector 255 (store.heap.lookup origin selector) →
      store.heap.lookup origin selector ≠ .error (.notAnObject copy) →
      after.heap.lookup copy selector =
        (store.heap.lookup origin selector).map (·.readdress origin copy)) ∧
    (∃ clone, after.heap.object? copy = some clone ∧
      clone.properties.size = object.properties.size ∧
      ∀ index, index ≠ object.layout.infoSlot →
        (object.isClass = true → index ≠ object.layout.superclassSlot) →
        clone.property? index = object.property? index) ∧
    store.heap.object? copy = none ∧ after.heap.classes = store.heap.classes ∧
    ∀ address, address ≠ copy → after.heap.object? address = store.heap.object? address := by
  have leads := Store.createClone_leads built origin
  rw [Leads, made] at leads
  obtain ⟨first, cloned⟩ := leads
  obtain rfl := Option.some.inj (there.symm.trans cloned.there)
  refine ⟨?_, ?_, cloned.fresh, cloned.classes, cloned.others⟩
  · -- The clone of a class asks its class as well, which is one object more.
    intro selector decides apart
    exact (cloned.decides known (by decide) decides apart).lookup (by decide)
  · exact ⟨_, cloned.made, object.size_cloneAt copy, fun index => object.property?_cloneAt copy⟩

/-- A class that has a method. -/
def upperClass : Object where
  pos := ⟨1, 8⟩
  codeSegment := 1
  version := .sci0
  properties := #[.number 0, .number noSuperclass, .number classFlag, .null]
  selectors := some #[20, 21, 22, 23]
  methods := [⟨30, 2⟩]
  origin := none
  lastSent := none

/-- A class of the given species below that one. -/
def lowerClass (species : UInt16) : Object where
  pos := ⟨1, 32⟩
  codeSegment := 1
  version := .sci0
  properties := #[.number species, .number 0, .number classFlag, .null]
  selectors := some #[20, 21, 22, 23]
  methods := [⟨31, 4⟩]
  origin := none
  lastSent := none

/-- A memory with the two classes. -/
def subclassedStore (species : UInt16) : Store where
  heap := {
    version := .sci0
    segments := #[none, some (.script {
      number := 5, segment := 1, data := #[], objects := #[upperClass, lowerClass species] })]
    residents := [(5, 1)]
    classes := (({} : ClassTable).register 0 5 ⟨1, 8⟩).register species 5 ⟨1, 32⟩ }

/-- The classes are found where they are. -/
theorem object?_subclassedStore (species : UInt16) :
    (subclassedStore species).heap.object? ⟨1, 8⟩ = some upperClass ∧
      (subclassedStore species).heap.object? ⟨1, 32⟩ = some (lowerClass species) := by
  -- The script lists both, the one after the other.
  simp [subclassedStore, Heap.object?, Heap.get?, Script.objectAt?, Script.objectIndex?,
    List.findIdx?_cons, upperClass, lowerClass]

/-- The lower class is silent where the upper one answers. -/
theorem subclassedStore_decides {species : UInt16} (other : species ≠ 0) :
    (subclassedStore species).heap.Decides ⟨1, 32⟩ 30 255 (.ok (.method ⟨1, 2⟩ ⟨1, 8⟩)) := by
  obtain ⟨upper, lower⟩ := object?_subclassedStore species
  have silent : (subclassedStore species).heap.Silent 30 ⟨1, 32⟩ := by
    refine ⟨_, lower, by simp [lowerClass], ?_⟩
    rintro selectors (own | ⟨without, _, _, _⟩)
    · cases own
      simp
    · cases without
  -- The class above is of the species that the lower one names.
  have above : (subclassedStore species).heap.classes.address? 0 = some ⟨1, 8⟩ := by
    simp [subclassedStore, ClassTable.address?_register, Ne.symm other]
  have next : (subclassedStore species).heap.chain ⟨1, 32⟩ 1 = some ⟨1, 8⟩ := by
    have super : (lowerClass species).superclass = 0 := rfl
    rw [chain, chain, Option.bind_some, parent?, lower, Option.bind_some, Object.hasSuperclass,
      super, above]
    rfl
  have table : upperClass.methods = [] ++ ⟨30, 2⟩ :: [] := rfl
  exact .answered (by decide) ((passes_zero _ _ _).succ rfl silent) next
    (.method upper table rfl (by simp))

/-- There is no pool of clones in such a memory. -/
theorem subclassedStore_isBuilt (species : UInt16) : (subclassedStore species).heap.IsBuilt := by
  -- There are two segments, and neither is a pool of clones.
  refine ⟨by simp [subclassedStore], ?_⟩
  intro id pool found
  rw [Heap.get?] at found
  rcases place : id.toNat with _ | _ | place <;> simp [subclassedStore, place] at found

/-- The clone of a class below another one finds the method of that one, through its own class. -/
theorem clone_answers_alike_subclass :
    let store := subclassedStore 1
    ∃ after, (Store.createClone ⟨1, 32⟩).run store = (.ok ⟨2, 0⟩, after) ∧
      store.heap.Decides ⟨1, 32⟩ 30 255 (store.heap.lookup ⟨1, 32⟩ 30) ∧
      after.heap.lookup ⟨2, 0⟩ 30 = .ok (.method ⟨1, 2⟩ ⟨1, 8⟩) ∧
      after.heap.object? ⟨1, 32⟩ = some (lowerClass 1) := by
  have decides := @subclassedStore_decides 1 (by decide)
  have looked := decides.lookup (by decide)
  have made : ((Store.createClone ⟨1, 32⟩).run (subclassedStore 1)).1 = .ok ⟨2, 0⟩ := by
    decide +kernel
  -- The lower class is of a species of its own, so its clone passes on to it.
  have alike := clone_answers_alike (subclassedStore_isBuilt 1) (object?_subclassedStore 1).2
    (fun _ => ⟨by decide +kernel, by decide⟩) (Prod.ext made rfl)
  have answers := alike.1 30 (looked ▸ decides) (by simp [looked])
  rw [looked] at answers
  refine ⟨_, Prod.ext made rfl, looked ▸ decides, answers, ?_⟩
  rw [alike.2.2.2.2 _ (by decide)]
  exact (object?_subclassedStore 1).2

/-- The clone of a class of the species that stands for none has no superclass. -/
theorem lookup_reserved_clone {after : Store}
    (made : (Store.createClone ⟨1, 32⟩).run (subclassedStore noSuperclass) = (.ok ⟨2, 0⟩, after)) :
    after.heap.lookup ⟨2, 0⟩ 30 = .ok .notFound := by
  have leads := Store.createClone_leads (subclassedStore_isBuilt noSuperclass) ⟨1, 32⟩
  rw [Leads, made] at leads
  obtain ⟨object, cloned⟩ := leads
  obtain rfl := Option.some.inj ((object?_subclassedStore _).2.symm.trans cloned.there)
  have silent : after.heap.Silent 30 ⟨2, 0⟩ := by
    refine ⟨_, cloned.made, by simp [lowerClass], ?_⟩
    rintro selectors (own | ⟨without, _, _, _⟩)
    · rw [Object.selectors_cloneAt] at own
      cases own
      simp
    · rw [Object.selectors_cloneAt] at without
      cases without
  -- The species of the class has become the superclass of the clone, where it stands for none.
  have last : after.heap.chain ⟨2, 0⟩ 1 = none := by
    rw [chain, chain, Option.bind_some, parent?, cloned.made, Option.bind_some,
      Object.hasSuperclass, Object.superclass_cloneAt_class _ _ rfl]
    rfl
  have ended : after.heap.Decides ⟨2, 0⟩ 30 1 (.ok .notFound) :=
    .ended (by decide) ((passes_zero _ _ _).succ rfl silent) last
  exact ended.lookup (by decide)

/-- A memory with one instance, whose superclass is said to be where there is nothing. -/
def orphanedStore : Store where
  heap := {
    version := .sci0
    segments := #[none, some (.script {
      number := 5, segment := 1, data := #[]
      objects := #[{
        pos := ⟨1, 8⟩, codeSegment := 1, version := .sci0
        properties := #[.number 0, .number 7, .number 0, .null], selectors := none, methods := []
        origin := none, lastSent := none }] })]
    residents := [(5, 1)]
    classes := ({} : ClassTable).register 7 5 ⟨2, 0⟩ }

/--
A clone may answer otherwise than its origin.

The method of the upper class is lost on the clone of a class whose species stands for none. Where
the superclass of the origin is missing, the clone may come to lie in its place.
-/
theorem clone_answers_otherwise :
    (let store := subclassedStore noSuperclass
      ∃ after, (Store.createClone ⟨1, 32⟩).run store = (.ok ⟨2, 0⟩, after) ∧
        store.heap.object? ⟨1, 32⟩ = some (lowerClass noSuperclass) ∧
        store.heap.classes.address? (lowerClass noSuperclass).species = some ⟨1, 32⟩ ∧
        store.heap.Decides ⟨1, 32⟩ 30 255 (.ok (.method ⟨1, 2⟩ ⟨1, 8⟩)) ∧
        after.heap.lookup ⟨2, 0⟩ 30 ≠ .ok (.method ⟨1, 2⟩ ⟨1, 8⟩)) ∧
    ∃ after, (Store.createClone ⟨1, 8⟩).run orphanedStore = (.ok ⟨2, 0⟩, after) ∧
      orphanedStore.heap.lookup ⟨1, 8⟩ 30 = .error (.notAnObject ⟨2, 0⟩) ∧
      after.heap.lookup ⟨2, 0⟩ 30 ≠ .error (.notAnObject ⟨2, 0⟩) := by
  have made : ((Store.createClone ⟨1, 32⟩).run (subclassedStore noSuperclass)).1 = .ok ⟨2, 0⟩ := by
    decide +kernel
  -- The class is known, although its species is the one that stands for none.
  have known : (subclassedStore noSuperclass).heap.classes.address? noSuperclass =
      some ⟨1, 32⟩ := by
    simp [subclassedStore, ClassTable.address?_register]
  have lost := lookup_reserved_clone (Prod.ext made rfl)
  refine ⟨⟨_, Prod.ext made rfl, (object?_subclassedStore _).2, known,
    subclassedStore_decides (by decide), ?_⟩, _, Prod.ext ?_ rfl, ?_, ?_⟩
  · simp [lost]
  all_goals decide +kernel

end AdventureVm
