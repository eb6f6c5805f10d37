import AdventureVm.Memory.Lookup
import AdventureVm.Proofs.Memory.Outcomes
import AdventureVm.Proofs.Memory.Places

/-!
What is done to memory for the sake of a message spares the operand stacks.

Bringing a class into memory fills empty places only, and an object that remembers its last message
means the same by every selector.
-/

namespace AdventureVm

namespace StoreM

variable {α β : Type} {property : Heap → Prop}

/-- Work that succeeds leaves memory with a property that it had before. -/
def Upholds (work : StoreM α) (property : Heap → Prop) : Prop :=
  ∀ store, property store.heap →
    Leads work store (Either (fun _ after => property after.heap) fun _ _ => True)

/-- Failing is no success. -/
theorem upholds_throw (fault : Fault) : Upholds (throw fault : StoreM α) property :=
  fun _ _ => trivial

/-- Giving a value leaves memory alone. -/
theorem upholds_pure (value : α) : Upholds (pure value) property :=
  fun _ before => before

/-- Reading leaves memory alone. -/
theorem upholds_read (query : Heap → α) : Upholds (read query) property :=
  fun _ before => before

/-- Reading what may not be there leaves memory alone. -/
theorem upholds_require (query : Heap → Except Fault α) : Upholds (require query) property := by
  -- Nothing is promised of a failure.
  intro store before
  rw [leads_require]
  cases query store.heap with
  | ok value => exact before
  | error fault => trivial

/-- Work that only keeps a journal leaves memory alone. -/
theorem upholds_ofLogged (work : Logged α) : Upholds (ofLogged work) property := by
  -- Nothing is promised of a failure.
  intro store before
  rw [leads_ofLogged]
  cases (work.run store.journal).1 with
  | ok value => exact before
  | error fault => trivial

/-- A change keeps what it keeps of every memory. -/
theorem upholds_change {step : Heap → Heap}
    (keeps : ∀ heap, property heap → property (step heap)) : Upholds (change step) property :=
  fun store => keeps store.heap

/-- Two pieces of work that keep a property do so together. -/
theorem Upholds.bind {first : StoreM α} {next : α → StoreM β} (upholds : first.Upholds property)
    (upholdsNext : ∀ value, (next value).Upholds property) :
    (first >>= next).Upholds property := by
  -- What the first piece kept is there for the second.
  intro store before
  rw [leads_bind]
  refine (upholds store before).either ?_ fun _ _ _ => trivial
  exact fun value between => upholdsNext value between

end StoreM

namespace Heap

variable {heap : Heap} {place id : SegmentId} {slots : Array Address}

/-- A stack is found in the segment that holds it. -/
theorem stack_eq_ok : heap.stack id = .ok slots ↔ heap.get? id = some (.stack slots) := by
  unfold stack
  -- Any other segment, or none, is refused.
  split
  · rename_i found
    rw [found]
    simp
  · rename_i other
    simp only [reduceCtorEq, false_iff]
    exact other slots

/-- The stack in a place has the given slots. -/
def HasStack (place : SegmentId) (slots : Array Address) (heap : Heap) : Prop :=
  heap.get? place = some (.stack slots)

/-- A change that spares stacks leaves each of them as it was. -/
theorem HasStack.modify (has : heap.HasStack place slots) {change : Segment → Segment}
    (spares : change (.stack slots) = .stack slots) :
    (heap.modify id change).HasStack place slots := by
  -- The stack may be the changed segment, and then it is spared.
  rw [HasStack, get?_modify]
  split
  · rename_i here
    rw [← here, has, Option.map_some, spares]
  · exact has

/-- A place holds one stack at most. -/
theorem HasStack.unique {others : Array Address} (has : heap.HasStack place slots)
    (hasToo : heap.HasStack place others) : others = slots := by
  -- Both are what is in the place.
  rw [HasStack, has, Option.some.injEq, Segment.stack.injEq] at hasToo
  exact hasToo.symm

/-- A slot of a stack is changed to a new value. -/
theorem HasStack.setSlot (has : heap.HasStack place slots) {index : Nat} {value : Address}
    (found : slots[index]? = some value) (change : Address → Address) :
    (heap.setStackSlot place index (change value)).HasStack place (slots.modify index change) := by
  -- Storing what the change makes of the old value is changing it.
  have same : slots.setIfInBounds index (change value) = slots.modify index change := by
    apply Array.ext_getElem?
    intro other
    rw [Array.getElem?_setIfInBounds, Array.getElem?_modify]
    split
    · rename_i here
      rw [← here, found, if_pos (Array.getElem?_eq_some_iff.mp found).1, Option.map_some]
    · rfl
  rw [HasStack, setStackSlot, get?_modify, if_pos rfl, has, Option.map_some, ← same]

/-- The place of a stack is not the next one. -/
theorem HasStack.ne_next (has : heap.HasStack place slots) (next : heap.nextId? = some id) :
    place ≠ id ∧ id.toNat ≤ heap.segments.size := by
  -- A memory with a stack has places, so the next one is an empty one of them or behind them.
  have opened : 0 < heap.segments.size := Nat.zero_lt_of_lt (inside_of_get? has)
  obtain ⟨atEnd, _, empty, _⟩ := nextId?_spec opened next
  refine ⟨?_, atEnd⟩
  rintro rfl
  rw [HasStack, empty] at has
  simp at has

end Heap

namespace Store

variable {place : SegmentId} {slots : Array Address}

/-- A new segment gets a place that holds no stack, and all stacks stay as they were. -/
theorem leads_insert_spares (segment : Segment) (store : Store)
    (has : store.heap.HasStack place slots) :
    Leads (insert segment) store (Either
      (fun id after => after.heap.HasStack place slots ∧ place ≠ id) fun _ _ => True) := by
  rw [insert, leads_bind, StoreM.leads_read, either_ok]
  cases next : store.heap.nextId? with
  | none => trivial
  | some id =>
    obtain ⟨apart, atEnd⟩ := has.ne_next next
    simp only [leads_bind, StoreM.leads_note, StoreM.leads_change, leads_pure, either_ok]
    refine ⟨?_, apart⟩
    -- The place that is given out holds nothing yet, so it is not that of the stack.
    show (store.heap.insert id segment).get? place = _
    rw [Heap.get?_insert atEnd, if_neg apart]
    exact has

/-- Filling the place of a script leaves every stack as it was. -/
theorem fillScript_upholds (id : SegmentId) (number : UInt16) (bytes : Bytes)
    (heap : Option Bytes) :
    (fillScript id number bytes heap).Upholds (Heap.HasStack place slots) := by
  refine (StoreM.upholds_read _).bind fun version => ?_
  refine (StoreM.upholds_ofLogged _).bind fun loaded => ?_
  -- Local variables are put into a segment of their own.
  have inserts (segment : Segment) : (insert segment).Upholds (Heap.HasStack place slots) :=
    fun store has => (leads_insert_spares segment store has).either
      (fun _ _ both => both.1) fun _ _ _ => trivial
  obtain ⟨script, locals⟩ := loaded
  unfold withLocals
  dsimp only
  split
  · exact StoreM.upholds_pure _
  · exact (inserts _).bind fun _ => StoreM.upholds_pure _

/-- Loading a script leaves every stack as it was. -/
theorem loadScript_upholds (resources : Resources) (number : UInt16) :
    (loadScript resources number).Upholds (Heap.HasStack place slots) := by
  unfold loadScript
  refine (StoreM.upholds_read _).bind fun resident => ?_
  cases resident with
  -- A script that is resident is not loaded again.
  | some id => exact StoreM.upholds_pure id
  | none =>
    dsimp only
    split
    · refine (StoreM.upholds_read _).bind fun version => ?_
      refine (StoreM.upholds_require _).bind fun heap => ?_
      -- The place that is filled in the end was empty, so it is not that of a stack.
      intro store has
      rw [leads_bind]
      refine (leads_insert_spares _ store has).either ?_ fun _ _ _ => trivial
      rintro id between ⟨still, apart⟩
      rw [either_ok, leads_bind, StoreM.leads_outcome]
      refine (fillScript_upholds id number _ heap between still).either ?_ fun _ _ _ => trivial
      intro script filled kept
      simp only [either_ok, leads_bind, StoreM.leads_note, StoreM.leads_change, leads_pure]
      show (Heap.put _ id _).get? place = _
      rw [Heap.get?_put_of_ne _ apart]
      exact kept
    · exact StoreM.upholds_throw _

/-- Locking the scripts of superclasses leaves every stack as it was, if locking each of them does
and all can be locked. -/
theorem leads_lockOwners_spares {lock : UInt16 → StoreM SegmentId}
    (each : ∀ owner, (lock owner).Upholds (Heap.HasStack place slots)) (number : UInt16)
    (species locked : List UInt16) (store : Store) (has : store.heap.HasStack place slots) :
    Leads (lockOwners lock number species locked) store (Either
      (fun failure after => failure = none → after.heap.HasStack place slots) fun _ _ => True) := by
  -- A failure is answered as one, and nothing is said about it.
  refine (leads_lockOwners (fun _ _ between => between.heap.HasStack place slots)
    (fun _ _ _ => True) has ?_ ?_ ?_).certain ?_
  · exact fun _ _ _ _ _ kept _ => kept
  · exact fun _ _ _ _ _ kept _ _ => kept
  · exact fun _ _ _ between owner kept _ _ _ => each owner between kept
  · rintro failure after kept rfl
    obtain ⟨_, kept⟩ := kept
    exact kept

/-- Locking a script leaves every stack as it was. -/
theorem instantiateWithin_upholds (resources : Resources) (bound : Nat) (number : UInt16) :
    (instantiateWithin resources bound number).Upholds (Heap.HasStack place slots) := by
  induction bound generalizing number with
  | zero => exact StoreM.upholds_throw _
  | succ bound ih =>
    refine (StoreM.upholds_read _).bind fun resident => ?_
    refine (loadScript_upholds resources number).bind fun id => ?_
    refine (StoreM.upholds_require _).bind fun script => ?_
    refine (StoreM.upholds_change fun heap has => has.modify rfl).bind fun _ => ?_
    split
    · exact StoreM.upholds_pure id
    · -- Going through the superclasses spares the stack unless it fails.
      intro store has
      rw [leads_bind]
      refine (leads_lockOwners_spares ih number _ [] store has).either ?_ fun _ _ _ => trivial
      intro failure between kept
      cases failure with
      | none => exact kept rfl
      | some failed =>
        -- What is rolled back ends in a failure.
        rw [either_ok, leads_bind]
        apply Leads.intro
        intro outcome after _
        cases outcome with
        | ok _ => trivial
        | error _ => trivial

/-- Making sure that a script is in memory leaves every stack as it was. -/
theorem leads_ensureScript_spares (resources : Resources) (number : UInt16) (store : Store) :
    Leads (ensureScript resources number) store (Either
      (fun _ after => ∀ place slots, store.heap.HasStack place slots →
        after.heap.HasStack place slots) fun _ _ => True) := by
  have upholds (place : SegmentId) (slots : Array Address) :
      (ensureScript resources number).Upholds (Heap.HasStack place slots) := by
    refine (StoreM.upholds_read _).bind fun resident => ?_
    cases resident with
    | some id => exact StoreM.upholds_pure id
    | none => exact instantiateWithin_upholds resources _ number
  -- What holds of each stack holds of all at once, because the work has one end.
  apply Leads.intro
  intro outcome after ended
  cases outcome with
  | error fault => trivial
  | ok id =>
    intro place slots has
    have kept := upholds place slots store has
    rw [Leads, ended] at kept
    exact kept

end Store

/-- The object with its last message forgotten. -/
def Object.unsent (object : Object) : Object :=
  { object with lastSent := none }

section Remembering

variable {change : Object → Object}

/-- Objects that differ in their last messages at most are found in the same places of a script. -/
theorem Script.unsent_objectAt? (same : ∀ object, (change object).unsent = object.unsent)
    (script : Script) (target offset : UInt16) :
    ((script.modifyObject target change).objectAt? offset).map Object.unsent =
      (script.objectAt? offset).map Object.unsent := by
  -- The position by which an object is found is not its last message.
  have finds (script : Script) : (script.objectAt? offset).map Object.unsent =
      ((script.objects.map Object.unsent).findIdx? (·.pos.offset == offset)).bind
        ((script.objects.map Object.unsent)[·]?) := by
    have positions : ((fun object : Object => object.pos.offset == offset) ∘ Object.unsent) =
        fun object => object.pos.offset == offset := rfl
    simp only [objectAt?, objectIndex?, Array.findIdx?_map, positions, Array.getElem?_map,
      Option.map_bind]
    rfl
  have objects : (script.modifyObject target change).objects.map Object.unsent =
      script.objects.map Object.unsent := by
    unfold modifyObject
    split
    · apply Array.ext_getElem?
      intro place
      simp only [Array.getElem?_map, Array.getElem?_modify]
      split
      · cases script.objects[place]? <;> simp [same]
      · rfl
    · rfl
  rw [finds, finds, objects]

/-- Clones that differ in their last messages at most are found in the same slots. -/
theorem Pool.unsent_get? (same : ∀ object, (change object).unsent = object.unsent)
    (pool : Pool Object) (target index : Nat) :
    ((pool.modify target change).get? index).map Object.unsent =
      (pool.get? index).map Object.unsent := by
  -- Only the changed slot matters, and the change shows in the last message at most.
  simp only [modify, get?, Array.getElem?_modify]
  split
  · rcases pool.slots[index]? with _ | _ | clone <;> simp [same]
  · rfl

end Remembering

namespace Heap

variable {before after : Heap}

/-- Two memories have the same classes, and the same objects up to the last messages of these. -/
structure SameObjects (before after : Heap) : Prop where
  /-- The classes are the same. -/
  classes : after.classes = before.classes
  /-- The objects differ in their last messages at most. -/
  objects : ∀ address,
    (after.object? address).map Object.unsent = (before.object? address).map Object.unsent

/-- Where objects are the same up to their last messages, so are their lists of selectors. -/
theorem SameObjects.selectors (same : before.SameObjects after) (address : Address) :
    (after.object? address).bind (·.selectors) = (before.object? address).bind (·.selectors) := by
  -- Forgetting the last message does not touch the list.
  have forget (object : Option Object) :
      (object.map Object.unsent).bind (·.selectors) = object.bind (·.selectors) := by
    cases object <;> rfl
  rw [← forget, same.objects, forget]

/-- The selectors of an object's properties are the same, whoever keeps the list. -/
theorem SameObjects.propertySelectors (same : before.SameObjects after) {former later : Object}
    (equal : later.unsent = former.unsent) :
    after.propertySelectors? later = before.propertySelectors? former := by
  have own : later.selectors = former.selectors :=
    (congrArg Object.selectors equal :)
  have species : later.species = former.species := (congrArg Object.species equal :)
  unfold propertySelectors?
  rw [own, species, same.classes]
  cases former.selectors with
  | some selectors => rfl
  | none =>
    -- An object without a list of its own has that of its class.
    dsimp only
    cases before.classes.address? former.species with
    | none => rfl
    | some parent => exact same.selectors parent

/-- A selector does not come to mean something else by the messages that were sent. -/
theorem SameObjects.search (same : before.SameObjects after) (receiver : Address)
    (selector : UInt16) (limit : Nat) (current : Address) :
    (after.search receiver selector limit current).map (·.1) =
      (before.search receiver selector limit current).map (·.1) := by
  -- The search climbs from class to class, so the object it is at stays quantified over.
  induction limit generalizing current with
  | zero => rfl
  | succ limit ih =>
    have objects := same.objects current
    cases found : before.object? current with
    | none =>
      rw [found, Option.map_none, Option.map_eq_none_iff] at objects
      simp only [Heap.search, object, found, objects]
      rfl
    | some former =>
      rw [found, Option.map_some, Option.map_eq_some_iff] at objects
      obtain ⟨later, foundLater, equal⟩ := objects
      -- Nobody looks at the last message, so forgetting it changes no answer.
      have methods : later.method? selector = former.method? selector :=
        (congrArg (Object.method? · selector) equal :)
      have hasSuperclass : later.hasSuperclass = former.hasSuperclass :=
        (congrArg Object.hasSuperclass equal :)
      have superclass : later.superclass = former.superclass :=
        (congrArg Object.superclass equal :)
      have properties := same.propertySelectors equal
      simp only [Heap.search, object, found, foundLater, methods, properties, hasSuperclass,
        superclass, same.classes, Bind.bind, Except.bind]
      cases former.method? selector with
      | some address => rfl
      | none =>
        cases (before.propertySelectors? former).bind (·.findIdx? (· == selector)) with
        | some index => rfl
        | none =>
          dsimp only
          split
          · rfl
          · cases before.classes.address? former.superclass with
            | none => rfl
            | some parent =>
              dsimp only
              split
              · rfl
              · exact ih parent

/-- A selector means the same to every object. -/
theorem SameObjects.lookup (same : before.SameObjects after) (receiver : Address)
    (selector : UInt16) : after.lookup receiver selector = before.lookup receiver selector :=
  same.search receiver selector chainLimit receiver

/-- Sending messages again and again is sending messages. -/
instance : IsPreorder Heap SameObjects where
  refl _ := ⟨rfl, fun _ => rfl⟩
  trans _ _ _ first second :=
    ⟨second.classes.trans first.classes,
      fun address => (second.objects address).trans (first.objects address)⟩

/-- Changing the last message of an object leaves all objects the same up to that. -/
theorem sameObjects_modifyObject (heap : Heap) (target : Address) {change : Object → Object}
    (same : ∀ object, (change object).unsent = object.unsent) :
    heap.SameObjects (heap.modifyObject target change) := by
  refine ⟨rfl, fun address => ?_⟩
  unfold modifyObject object?
  rw [get?_modify]
  by_cases here : address.segment = target.segment
  · rw [if_pos here, here]
    -- Scripts and pools of clones are what has objects.
    cases heap.get? target.segment with
    | none => rfl
    | some segment =>
      cases segment with
      | script contents => exact Script.unsent_objectAt? same contents target.offset address.offset
      | clones pool =>
        exact Pool.unsent_get? same pool target.offset.toNat address.offset.toNat
      | _ => rfl
  · rw [if_neg here]

end Heap

end AdventureVm
