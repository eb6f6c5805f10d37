import AdventureVm.Memory.Lookup
import AdventureVm.Proofs.Memory.Consistency

/-!
What a selector means to an object is told by the first object of its superclass chain that answers.

The chain may have no end, or end with something that is no object; the search then gives up.
-/

namespace AdventureVm

/-- An object without a method for a selector has no entry for it in its table. -/
theorem Object.method?_eq_none {object : Object} {selector : UInt16} :
    object.method? selector = none ↔ ∀ method ∈ object.methods, method.selector ≠ selector := by
  simp [method?]

namespace Heap

section Chain

/-- The class of an object's superclass, if it is in memory and not the object itself. -/
def parent? (heap : Heap) (address : Address) : Option Address :=
  (heap.object? address).bind fun object =>
    if object.hasSuperclass then
      (heap.classes.address? object.superclass).filter (· ≠ address)
    else none

/-- The superclass chain of an object, which comes first itself. -/
def chain (heap : Heap) (receiver : Address) : Nat → Option Address
  | 0 => some receiver
  | n + 1 => (heap.chain receiver n).bind heap.parent?

/-- The list that gives an object's properties their selectors: its own, else that of its class. -/
inductive Lists (heap : Heap) (object : Object) (selectors : Array UInt16) : Prop where
  | own (has : object.selectors = some selectors)
  | borrowed {address : Address} {parent : Object} (without : object.selectors = none)
      (known : heap.classes.address? object.species = some address)
      (there : heap.object? address = some parent) (has : parent.selectors = some selectors)

/-- An object of the receiver's chain answers, with the first entry for the selector in its table of
methods, or without any there with the first position in its list of selectors. -/
inductive Answers (heap : Heap) (receiver : Address) (selector : UInt16) (current : Address) :
    SelectorLookup → Prop where
  | method {object : Object} {earlier later : List Method} {found : Method}
      (there : heap.object? current = some object)
      (table : object.methods = earlier ++ found :: later) (named : found.selector = selector)
      (first : ∀ method ∈ earlier, method.selector ≠ selector) :
      Answers heap receiver selector current (.method ⟨object.codeSegment, found.offset⟩ current)
  | property {object : Object} {selectors : Array UInt16} {index : Nat}
      (there : heap.object? current = some object)
      (without : ∀ method ∈ object.methods, method.selector ≠ selector)
      (lists : heap.Lists object selectors) (listed : selectors[index]? = some selector)
      (first : ∀ earlier < index, selectors[earlier]? ≠ some selector) :
      Answers heap receiver selector current (.variable receiver index)

/-- There is an object, and it has neither a method nor a property for the selector. -/
def Silent (heap : Heap) (selector : UInt16) (current : Address) : Prop :=
  ∃ object, heap.object? current = some object ∧
    (∀ method ∈ object.methods, method.selector ≠ selector) ∧
    ∀ selectors, heap.Lists object selectors → selector ∉ selectors

/-- So many objects of the chain have no answer. -/
def Passes (heap : Heap) (receiver : Address) (selector : UInt16) (count : Nat) : Prop :=
  ∀ n < count, ∃ current, heap.chain receiver n = some current ∧ heap.Silent selector current

/-- None of the objects is too few to find an answer. -/
theorem passes_zero (heap : Heap) (receiver : Address) (selector : UInt16) :
    heap.Passes receiver selector 0 :=
  fun n impossible => absurd impossible n.not_lt_zero

/-- How the chain decides what a selector means, looking at no more than so many objects. -/
inductive Decides (heap : Heap) (receiver : Address) (selector : UInt16) (limit : Nat) :
    Except Fault SelectorLookup → Prop where
  | answered {n : Nat} {current : Address} {found : SelectorLookup} (near : n < limit)
      (passes : heap.Passes receiver selector n) (here : heap.chain receiver n = some current)
      (answers : heap.Answers receiver selector current found) :
      Decides heap receiver selector limit (.ok found)
  | ended {n : Nat} (near : n < limit) (passes : heap.Passes receiver selector (n + 1))
      (last : heap.chain receiver (n + 1) = none) :
      Decides heap receiver selector limit (.ok .notFound)
  | broken {n : Nat} {current : Address} (near : n < limit)
      (passes : heap.Passes receiver selector n) (here : heap.chain receiver n = some current)
      (absent : heap.object? current = none) :
      Decides heap receiver selector limit (.error (.notAnObject current))

end Chain

section Steps

variable {heap : Heap} {receiver current : Address} {selector : UInt16}

/-- The selectors that are searched are those of the list. -/
theorem propertySelectors?_eq_some {object : Object} {selectors : Array UInt16} :
    heap.propertySelectors? object = some selectors ↔ heap.Lists object selectors := by
  unfold propertySelectors?
  constructor
  · intro found
    split at found
    · rename_i own
      -- The object lists selectors itself, or borrows those of its class.
      cases found
      exact .own own
    · rename_i without
      obtain ⟨parent, there, has⟩ := Option.bind_eq_some_iff.mp found
      obtain ⟨address, known, there⟩ := Option.bind_eq_some_iff.mp there
      exact .borrowed without known there has
  · rintro (own | ⟨without, known, there, has⟩)
    · rw [own]
    · simp only [without, known, there, has, Option.bind_some]

/-- An object either answers or is silent. -/
theorem answers_or_silent (receiver : Address) (selector : UInt16) {object : Object}
    (there : heap.object? current = some object) :
    (∃ found, heap.Answers receiver selector current found) ∨ heap.Silent selector current := by
  cases entry : object.methods.find? (·.selector == selector) with
  | some found =>
    obtain ⟨named, earlier, later, table, first⟩ := List.find?_eq_some_iff_append.mp entry
    exact .inl ⟨_, .method there table (by simpa using named) (by simpa using first)⟩
  | none =>
    have without : ∀ method ∈ object.methods, method.selector ≠ selector := by simpa using entry
    by_cases listed : ∃ selectors, heap.Lists object selectors ∧ selector ∈ selectors
    · obtain ⟨selectors, lists, member⟩ := listed
      obtain ⟨index, inside, listed⟩ := Array.mem_iff_getElem.mp member
      -- The first of its positions is the one that counts.
      have occurs : ∃ index, selectors[index]? = some selector :=
        ⟨index, listed ▸ Array.getElem?_eq_getElem inside⟩
      classical
      exact .inl ⟨_, .property there without lists (Nat.find_spec occurs) fun _ earlier =>
        Nat.find_min occurs earlier⟩
    · exact .inr ⟨object, there, without, fun selectors lists member =>
        listed ⟨selectors, lists, member⟩⟩

/-- What is found when so many objects are asked from one of the chain on. -/
def found (heap : Heap) (receiver : Address) (selector : UInt16) (limit : Nat) (current : Address) :
    Except Fault SelectorLookup :=
  (heap.search receiver selector limit current).map (·.1)

/-- An object is asked for a method, then for a property, then for its superclass. -/
theorem found_succ {object : Object} (there : heap.object? current = some object) (limit : Nat) :
    heap.found receiver selector (limit + 1) current =
      match object.method? selector with
      | some address => .ok (.method address current)
      | none =>
        match (heap.propertySelectors? object).bind (·.findIdx? (· == selector)) with
        | some index => .ok (.variable receiver index)
        | none =>
          match heap.parent? current with
          | some parent => heap.found receiver selector limit parent
          | none => .ok .notFound := by
  simp only [found, search, Heap.object, parent?, there, Bind.bind, Except.bind, Option.bind_some]
  cases object.method? selector with
  | some address => rfl
  | none =>
    cases (heap.propertySelectors? object).bind (·.findIdx? (· == selector)) with
    | some index => rfl
    | none =>
      -- The chain ends where there is no superclass, a missing one or the object itself.
      cases object.hasSuperclass with
      | false => rfl
      | true =>
        cases heap.classes.address? object.superclass with
        | none => rfl
        | some parent =>
          by_cases same : parent = current
          · simp only [same, Bool.not_true, Bool.false_eq_true, if_false, if_true, Option.filter,
              ne_eq, not_true_eq_false, decide_false]
            rfl
          · simp [same, Option.filter]

/-- The answer of an object is found there. -/
theorem Answers.found {answer : SelectorLookup}
    (answers : heap.Answers receiver selector current answer) (limit : Nat) :
    heap.found receiver selector (limit + 1) current = .ok answer := by
  cases answers with
  | @method object earlier later found there table named first =>
    have entry : object.methods.find? (·.selector == selector) = some found :=
      List.find?_eq_some_iff_append.mpr ⟨by simpa using named, earlier, later, table, by simpa⟩
    rw [found_succ there, Object.method?, entry]
    rfl
  | @property object selectors index there without lists listed first =>
    -- The first place where the selector is listed is the one that the search finds.
    have position : selectors.findIdx? (· == selector) = some index := by
      obtain ⟨inside, here⟩ := Array.getElem?_eq_some_iff.mp listed
      refine Array.findIdx?_eq_some_iff_getElem.mpr ⟨inside, by simpa using here, ?_⟩
      intro earlier before
      have other := first earlier before
      rw [Array.getElem?_eq_getElem (before.trans inside)] at other
      simpa using other
    rw [found_succ there, Object.method?_eq_none.mpr without, propertySelectors?_eq_some.mpr lists,
      Option.bind_some, position]

/-- A silent object passes the question on to its superclass, or there is no answer. -/
theorem Silent.found (silent : heap.Silent selector current) (limit : Nat) :
    heap.found receiver selector (limit + 1) current =
      match heap.parent? current with
      | some parent => heap.found receiver selector limit parent
      | none => .ok .notFound := by
  obtain ⟨object, there, without, unlisted⟩ := silent
  -- A selector that is in no list is at no place of one.
  have position : (heap.propertySelectors? object).bind (·.findIdx? (· == selector)) = none := by
    rw [Option.bind_eq_none_iff]
    intro selectors lists
    have absent := unlisted selectors (propertySelectors?_eq_some.mp lists)
    simp only [Array.findIdx?_eq_none_iff, beq_eq_false_iff_ne]
    rintro other member rfl
    exact absent member
  rw [found_succ there, Object.method?_eq_none.mpr without, position]

/-- Where there is no object, that is what is found. -/
theorem found_absent (absent : heap.object? current = none) (limit : Nat) :
    heap.found receiver selector (limit + 1) current = .error (.notAnObject current) := by
  -- The search fails before it looks for the selector.
  simp only [Heap.found, search, Heap.object, absent]
  rfl

end Steps

section Walk

variable {heap : Heap} {receiver : Address} {selector : UInt16}

/-- Fewer objects of the chain have no answer either. -/
theorem Passes.of_le {count fewer : Nat} (passes : heap.Passes receiver selector count)
    (few : fewer ≤ count) : heap.Passes receiver selector fewer :=
  fun n near => passes n (near.trans_le few)

/-- One more object of the chain has no answer when it is silent. -/
theorem Passes.succ {n : Nat} {current : Address} (passes : heap.Passes receiver selector n)
    (here : heap.chain receiver n = some current) (silent : heap.Silent selector current) :
    heap.Passes receiver selector (n + 1) := by
  -- The object after those that were passed is the new one, and it is silent.
  intro m near
  rcases Nat.lt_succ_iff_lt_or_eq.mp near with earlier | rfl
  · exact passes m earlier
  · exact ⟨current, here, silent⟩

/-- Beyond the objects without an answer, the search goes on with the next one of the chain. -/
theorem Passes.found {n : Nat} {current : Address} (passes : heap.Passes receiver selector n)
    (here : heap.chain receiver n = some current) (limit : Nat) :
    heap.found receiver selector (n + limit) receiver =
      heap.found receiver selector limit current := by
  -- One object fewer is passed over, and what is left of the bound grows by one.
  induction n generalizing current limit with
  | zero =>
    cases here
    rw [Nat.zero_add]
  | succ n ih =>
    obtain ⟨previous, there, silent⟩ := passes n (Nat.lt_succ_self n)
    have next : heap.parent? previous = some current := by
      rw [chain, there] at here
      exact here
    rw [Nat.add_right_comm, Nat.add_assoc, ih (passes.of_le n.le_succ) there, silent.found, next]

/-- What the chain decides is found. -/
theorem Decides.found {limit : Nat} {result : Except Fault SelectorLookup}
    (decides : heap.Decides receiver selector limit result) :
    heap.found receiver selector limit receiver = result := by
  cases decides with
  | @answered n current found near passes here answers =>
    -- What is left of the limit after the passed objects does not matter.
    obtain ⟨rest, rfl⟩ := Nat.exists_eq_add_of_lt near
    rw [Nat.add_assoc, passes.found here, answers.found]
  | @ended n near passes last =>
    obtain ⟨rest, rfl⟩ := Nat.exists_eq_add_of_lt near
    obtain ⟨current, here, silent⟩ := passes n (Nat.lt_succ_self n)
    have alone : heap.parent? current = none := by
      rw [chain, here] at last
      exact last
    rw [Nat.add_assoc, (passes.of_le n.le_succ).found here, silent.found, alone]
  | @broken n current near passes here absent =>
    obtain ⟨rest, rfl⟩ := Nat.exists_eq_add_of_lt near
    rw [Nat.add_assoc, passes.found here, found_absent absent]

/-- When as many objects as are asked have no answer, there is none. -/
theorem Passes.found_notFound {limit : Nat} (passes : heap.Passes receiver selector limit) :
    heap.found receiver selector limit receiver = .ok .notFound := by
  -- The search goes past all silent objects and then has none left to ask.
  cases limit with
  | zero => rfl
  | succ n =>
    obtain ⟨current, here, silent⟩ := passes n (Nat.lt_succ_self n)
    rw [(passes.of_le n.le_succ).found here, silent.found]
    cases heap.parent? current <;> rfl

/-- The chain decides, unless as many objects as are asked have no answer. -/
theorem decides_or_passes (heap : Heap) (receiver : Address) (selector : UInt16) (limit : Nat) :
    (∃ result, heap.Decides receiver selector limit result) ∨
      heap.Passes receiver selector limit := by
  -- After each object the chain has decided, or it goes on without an answer so far.
  have general : ∀ n ≤ limit, (∃ result, heap.Decides receiver selector limit result) ∨
      heap.Passes receiver selector n := by
    intro n
    induction n with
    | zero => exact fun _ => .inr (passes_zero heap receiver selector)
    | succ n ih =>
      intro near
      refine (ih (by omega)).elim .inl fun passes => ?_
      cases here : heap.chain receiver n with
      | none =>
        -- There was an object before this one, and it was the last.
        cases n with
        | zero => cases here
        | succ n => exact .inl ⟨_, .ended (by omega) passes here⟩
      | some current =>
        cases there : heap.object? current with
        | none => exact .inl ⟨_, .broken near passes here there⟩
        | some object =>
          rcases answers_or_silent receiver selector there with ⟨found, answers⟩ | silent
          · exact .inl ⟨_, .answered near passes here answers⟩
          · exact .inr (passes.succ here silent)
  exact general limit (Nat.le_refl limit)

/-- What is looked up is what the chain decides, and nothing is found when it does not. -/
theorem lookup_eq_iff (heap : Heap) (receiver : Address) (selector : UInt16)
    (result : Except Fault SelectorLookup) :
    heap.lookup receiver selector = result ↔
      heap.Decides receiver selector chainLimit result ∨
        result = .ok .notFound ∧ heap.Passes receiver selector chainLimit := by
  have same : heap.lookup receiver selector =
      heap.found receiver selector chainLimit receiver := rfl
  rw [same]
  constructor
  · rintro rfl
    -- Either somebody decides within the bound, or all who are asked are silent.
    rcases decides_or_passes heap receiver selector chainLimit with ⟨result, decides⟩ | passes
    · exact .inl (decides.found.symm ▸ decides)
    · exact .inr ⟨passes.found_notFound, passes⟩
  · rintro (decides | ⟨rfl, passes⟩)
    · exact decides.found
    · exact passes.found_notFound

end Walk

end Heap

end AdventureVm
