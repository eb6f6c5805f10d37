import AdventureVm.Proofs.Memory.Spared

/-!
The slots of a stack.

What is not kept on a stack is the same whatever the slots of the stack hold.
-/

namespace AdventureVm

namespace Heap

variable {heap : Heap} {place : SegmentId} {slots : Array Address}

/-- The memory with other slots in one of its stacks. -/
def withStack (heap : Heap) (place : SegmentId) (slots : Array Address) : Heap :=
  heap.put place (some (.stack slots))

/-- The slots that a stack was given are those that it has. -/
theorem HasStack.withStack (has : heap.HasStack place slots) (others : Array Address) :
    (heap.withStack place others).HasStack place others :=
  get?_put_self _ (inside_of_get? has)

/-- Of two rounds of slots for a stack, the second counts. -/
@[simp] theorem withStack_withStack (heap : Heap) (place : SegmentId)
    (slots others : Array Address) :
    (heap.withStack place slots).withStack place others = heap.withStack place others := by
  simp only [withStack, put, Array.setIfInBounds_setIfInBounds]

/-- A stack that is given the slots that it has stays as it is. -/
theorem HasStack.withStack_self (has : heap.HasStack place slots) :
    heap.withStack place slots = heap := by
  -- The place is written with what is in it.
  have inside := inside_of_get? has
  rw [HasStack, get?, Array.getElem?_eq_getElem inside, Option.join_some] at has
  rw [Heap.withStack, put, ← has, Array.setIfInBounds, dif_pos inside, Array.set_getElem_self]

/-- Storing into a slot of a stack gives it other slots. -/
theorem HasStack.setStackSlot_eq (has : heap.HasStack place slots) (index : Nat)
    (value : Address) : heap.setStackSlot place index value =
      heap.withStack place (slots.setIfInBounds index value) :=
  modify_eq_put has _

/-- A slot that was stored into has the new value, and the others have what they had. -/
theorem HasStack.setStackSlot (has : heap.HasStack place slots) (index : Nat) (value : Address) :
    (heap.setStackSlot place index value).HasStack place (slots.setIfInBounds index value) := by
  rw [has.setStackSlot_eq]
  exact has.withStack _

/-- A change that stacks do not notice is the same with other slots in a stack. -/
theorem modify_withStack (heap : Heap) (place id : SegmentId) {change : Segment → Segment}
    (spares : ∀ slots, change (.stack slots) = .stack slots) (others : Array Address) :
    (heap.withStack place others).modify id change =
      (heap.modify id change).withStack place others := by
  have segments : (heap.segments.setIfInBounds place.toNat (some (.stack others))).modify id.toNat
      (Option.map change) = (heap.segments.modify id.toNat (Option.map change)).setIfInBounds
        place.toNat (some (.stack others)) := by
    -- Only in the place of the stack both changes meet, and there one of them does nothing.
    apply Array.ext_getElem?
    intro index
    simp only [Array.getElem?_modify, Array.getElem?_setIfInBounds, Array.size_modify]
    by_cases here : place.toNat = index
    · simp only [here, if_true]
      split
      · split <;> simp [spares]
      · rfl
    · simp only [here, if_false]
  simp only [withStack, put, modify, segments]

/-- Objects are not on stacks. -/
theorem HasStack.object?_withStack (has : heap.HasStack place slots) (others : Array Address)
    (address : Address) : (heap.withStack place others).object? address = heap.object? address := by
  -- In the place of the stack there is no object before or after; elsewhere nothing changes.
  unfold object?
  rw [Heap.withStack, get?_put has]
  by_cases here : address.segment = place
  · rw [if_pos here, here, has]
  · rw [if_neg here]

/-- A property is not on a stack. -/
theorem HasStack.readProperty_withStack (has : heap.HasStack place slots) (others : Array Address)
    (address : Address) (index : Nat) :
    (heap.withStack place others).readProperty address index = heap.readProperty address index := by
  simp only [readProperty, object, has.object?_withStack]

/-- Replacing a property is the same with other slots in a stack. -/
theorem HasStack.writeProperty_withStack (has : heap.HasStack place slots) (others : Array Address)
    (address : Address) (index : Nat) (value : Address) :
    (heap.withStack place others).writeProperty address index value =
      (heap.writeProperty address index value).map (·.withStack place others) := by
  simp only [writeProperty, object, has.object?_withStack]
  -- Objects are not on stacks, so the same object is found.
  cases heap.object? address with
  | none => rfl
  | some found =>
    simp only [Bind.bind, Except.bind]
    split
    · refine congrArg Except.ok ?_
      exact modify_withStack heap place address.segment (fun _ => rfl) others
    · rfl

/-- Selectors mean the same with other slots in a stack. -/
theorem HasStack.lookup_withStack (has : heap.HasStack place slots) (others : Array Address)
    (object : Address) (selector : UInt16) :
    (heap.withStack place others).lookup object selector = heap.lookup object selector := by
  -- A lookup asks for objects and classes only.
  have same : heap.SameObjects (heap.withStack place others) :=
    ⟨rfl, fun address => by rw [has.object?_withStack]⟩
  exact same.lookup object selector

/-- A search that finds a property finds one of the receiver, and has nothing to record. -/
theorem search_variable {receiver object : Address} {selector : UInt16} {index : Nat}
    {records : List Record} (limit : Nat) (current : Address)
    (found : heap.search receiver selector limit current =
      .ok (.variable object index, records)) : object = receiver ∧ records = [] := by
  induction limit generalizing current with
  | zero => simp [search] at found
  | succ limit ih =>
    rw [search] at found
    obtain ⟨here, _, found⟩ := bind_eq_ok.mp found
    split at found
    · simp [pure, Except.pure] at found
    · split at found
      · simp only [pure, Except.pure, Except.ok.injEq, Prod.mk.injEq,
          SelectorLookup.variable.injEq] at found
        exact ⟨found.1.1.symm, found.2.symm⟩
      · -- The question was passed on, or the search broke off.
        split at found
        · simp [pure, Except.pure] at found
        · split at found
          · split at found
            · simp [pure, Except.pure] at found
            · exact ih _ found
          · simp [pure, Except.pure] at found

/-- Looking a property up finds one of the receiver, and has nothing to record. -/
theorem resolve_of_variable {receiver object : Address} {selector : UInt16} {index : Nat}
    (found : heap.lookup receiver selector = .ok (.variable object index)) :
    heap.resolve receiver selector = .ok (.variable receiver index, []) := by
  unfold lookup at found
  -- Looking up forgets the records, so they are read off the search.
  cases resolved : heap.resolve receiver selector with
  | error fault =>
    rw [resolved] at found
    cases found
  | ok answer =>
    obtain ⟨meaning, records⟩ := answer
    rw [resolved] at found
    cases found
    obtain ⟨rfl, rfl⟩ := search_variable _ _ resolved
    rfl

end Heap

/-- The slots after values were stored into neighbouring ones. -/
def storeAll (slots : Array Address) (start : Nat) : List Address → Array Address
  | [] => slots
  | value :: rest => storeAll (slots.setIfInBounds start value) (start + 1) rest

section Storing

variable {slots : Array Address} {start : Nat} {values : List Address}

/-- Slots before those that are stored into stay as they were. -/
theorem getElem?_storeAll_of_lt {index : Nat} (before : index < start) :
    (storeAll slots start values)[index]? = slots[index]? := by
  -- Induction on the values: each goes into a slot further on.
  induction values generalizing slots start with
  | nil => rfl
  | cons value rest ih =>
    rw [storeAll, ih (by omega), Array.getElem?_setIfInBounds_ne (by omega)]

/-- The values are found where they were stored, in order. -/
theorem getElem?_storeAll {index : Nat} (room : start + values.length ≤ slots.size)
    (inside : index < values.length) :
    (storeAll slots start values)[start + index]? = values[index]? := by
  -- Each value is stored one slot further, so slots and start stay quantified over.
  induction values generalizing slots start index with
  | nil => exact absurd inside (Nat.not_lt_zero _)
  | cons value rest ih =>
    rw [List.length_cons] at room inside
    rw [storeAll]
    cases index with
    | zero =>
      -- The other values are stored behind the first.
      show (storeAll (slots.setIfInBounds start value) (start + 1) rest)[start]? = some value
      rw [getElem?_storeAll_of_lt (Nat.lt_add_one start),
        Array.getElem?_setIfInBounds_self_of_lt (by omega)]
    | succ index =>
      rw [← Nat.add_assoc, Nat.add_right_comm, List.getElem?_cons_succ]
      exact ih (by rw [Array.size_setIfInBounds]; omega) (by omega)

end Storing

end AdventureVm
