import AdventureVm.Proofs.Collector.Histories
import AdventureVm.Proofs.Lists.Links

/-!
Whether an address is valid, and whether anything is found there.

The two are asked of a segment in different ways. They agree about bytes, about records and about
the beginnings of slots, but not about the second byte of a slot: it is valid, and nothing is found
there.
-/

namespace AdventureVm

namespace Segment

variable {segment : Segment} {offset : UInt16}

/-- The offset is that of the second byte of a slot, whether there is such a slot or not. -/
def IsWithinSlot (segment : Segment) (offset : UInt16) : Prop :=
  (segment.kind = .locals ∨ segment.kind = .stack) ∧ offset.toNat % 2 = 1

/-- Something is left from an index on exactly when the index is one of the array. -/
theorem isSome_remainder? {α : Type} (items : Array α) (start : Nat) :
    (remainder? items start).isSome = decide (start < items.size) := by
  -- What is left is given only if the index is inside.
  unfold remainder?
  split <;> simp [*]

/-- A table of values shows something at the beginnings of its slots. -/
theorem isSome_slots {slots : Array Address} {place : Nat} :
    (if place % 2 = 0 then (remainder? slots (place / 2)).map View.values else none).isSome = true ↔
      place / 2 < slots.size ∧ place % 2 = 0 := by
  -- At an even place the slot has to be there, at an odd one nothing is shown.
  split
  · rename_i even
    rw [Option.isSome_map, isSome_remainder?, decide_eq_true_iff, and_iff_left even]
  · rename_i odd
    simp [odd]

/-- A segment shows something at the valid offsets that are not within a slot. -/
theorem isSome_view? : (segment.view? offset.toNat).isSome = true ↔
    segment.isValidOffset offset = true ∧ ¬ segment.IsWithinSlot offset := by
  -- Only tables and stacks tell the two bytes of a slot apart.
  cases segment with
  | locals slots | stack slots =>
    simpa [view?, isValidOffset, IsWithinSlot, kind] using isSome_slots
  | script contents | dynmem contents =>
    rw [and_iff_left (by simp [IsWithinSlot, kind]), view?, Option.isSome_map, isSome_remainder?]
    exact Iff.rfl
  | clones pool | lists pool | nodes pool | hunks pool =>
    simp [view?, isValidOffset, IsWithinSlot, kind, Pool.isLive]
  | systemStrings texts => simp [view?, isValidOffset, IsWithinSlot, kind]

/-- The second byte of a slot has the first one before it. -/
theorem IsWithinSlot.toNat_pred (within : segment.IsWithinSlot offset) :
    (offset - 1).toNat = offset.toNat - 1 := by
  -- An odd offset is not zero, so the subtraction does not wrap.
  have odd := within.2
  rw [UInt16.toNat_sub_of_le _ _ (UInt16.le_iff_toNat_le.mpr (by simp; omega))]
  rfl

/-- The second byte of a slot is valid where something is shown at the first one. -/
theorem IsWithinSlot.isValidOffset_iff (within : segment.IsWithinSlot offset) :
    segment.isValidOffset offset = true ↔ (segment.view? (offset - 1).toNat).isSome = true := by
  have first : ¬ segment.IsWithinSlot (offset - 1) := by
    rintro ⟨-, odd⟩
    rw [within.toNat_pred] at odd
    have := within.2
    omega
  rw [isSome_view?, and_iff_left first]
  -- Both bytes belong to the same slot.
  have same : (offset - 1).toNat / 2 = offset.toNat / 2 := by
    rw [within.toNat_pred]
    have := within.2
    omega
  obtain ⟨isTable, -⟩ := within
  cases segment <;> simp_all [kind, isValidOffset]

end Segment

namespace Heap

variable {heap : Heap} {address : Address}

/-- The address is that of the second byte of a slot for values. -/
def IsWithinSlot (heap : Heap) (address : Address) : Prop :=
  ∃ segment, heap.get? address.segment = some segment ∧ segment.IsWithinSlot address.offset

/-- Something is found where the segment shows something. -/
theorem dereference_succeeds : (∃ view, heap.dereference address = .ok view) ↔
    ∃ segment, heap.get? address.segment = some segment ∧
      (segment.view? address.offset.toNat).isSome = true := by
  -- A view is found in a segment; the two quantifiers only change places.
  simp only [dereference_eq_ok, Option.isSome_iff_exists]
  exact exists_comm.trans (exists_congr fun segment => exists_and_left)

/-- Nothing is found at an address, and this is said of it. -/
theorem dereference_eq_error {reason : Fault} (failed : heap.dereference address = .error reason) :
    reason = heap.invalid address 0 := by
  -- The only way to fail is that the segment shows nothing there.
  unfold dereference at failed
  split at failed
  · cases failed
  · cases failed
    rfl

/-- An address is valid where there is a segment in which its offset is. -/
theorem isValidAddress_iff : heap.isValidAddress address = true ↔
    ∃ segment, heap.get? address.segment = some segment ∧
      segment.isValidOffset address.offset = true := by
  simp [isValidAddress, Option.any_eq_true]

/--
Something is found at an address exactly when it is valid and not within a slot.

An address within a slot is valid when something is found at the beginning of the slot, but at the
address itself there is nothing.
-/
theorem dereference_iff_valid (heap : Heap) (address : Address) :
    ((∃ view, heap.dereference address = .ok view) ↔
      heap.isValidAddress address = true ∧ ¬ heap.IsWithinSlot address) ∧
    (heap.IsWithinSlot address →
      (heap.isValidAddress address = true ↔
        ∃ view, heap.dereference ⟨address.segment, address.offset - 1⟩ = .ok view) ∧
      heap.dereference address = .error (heap.invalid address 0)) := by
  cases found : heap.get? address.segment with
  | none =>
    -- Where there is no segment, there is nothing.
    simp [dereference_succeeds, isValidAddress_iff, IsWithinSlot, found]
  | some segment =>
    have here : (∃ view, heap.dereference address = .ok view) ↔
        heap.isValidAddress address = true ∧ ¬ heap.IsWithinSlot address := by
      simp [dereference_succeeds, isValidAddress_iff, IsWithinSlot, found, Segment.isSome_view?]
    refine ⟨here, fun within => ⟨?_, ?_⟩⟩
    · obtain ⟨_, same, inside⟩ := within
      obtain rfl : segment = _ := Option.some.inj (found.symm.trans same)
      simp [dereference_succeeds, isValidAddress_iff, found, inside.isValidOffset_iff]
    · cases shown : heap.dereference address with
      | ok view => exact absurd within (here.mp ⟨view, shown⟩).2
      | error reason => exact congrArg _ (dereference_eq_error shown)

/-- Of the two bytes of a slot of a stack only the first one leads anywhere. -/
theorem dereference_iff_valid_stack :
    let heap := ((Store.allocateStack 16).run (Store.blank .sci0 {} #[])).2.heap
    (∃ view, heap.dereference ⟨1, 4⟩ = .ok view) ∧ heap.isValidAddress ⟨1, 5⟩ = true ∧
      heap.dereference ⟨1, 5⟩ = .error (heap.invalid ⟨1, 5⟩ 0) := by
  intro heap
  -- Offset four starts a slot, and offset five lies within it.
  have first : ¬ heap.IsWithinSlot ⟨1, 4⟩ := by
    rintro ⟨_, -, -, odd⟩
    exact absurd odd (by decide)
  have second : heap.IsWithinSlot ⟨1, 5⟩ := ⟨.stack _, rfl, .inr rfl, by decide⟩
  have found : ∃ view, heap.dereference ⟨1, 4⟩ = .ok view :=
    (dereference_iff_valid heap ⟨1, 4⟩).1.mpr ⟨by decide, first⟩
  obtain ⟨valid, lost⟩ := (dereference_iff_valid heap ⟨1, 5⟩).2 second
  exact ⟨found, valid.mpr found, lost⟩

/-- Within a slot of a stack there is a valid address at which nothing is found. -/
theorem valid_within_slot :
    let heap := ((Store.allocateStack 16).run (Store.blank .sci0 {} #[])).2.heap
    heap.isValidAddress ⟨1, 5⟩ = true ∧ ¬ ∃ view, heap.dereference ⟨1, 5⟩ = .ok view := by
  -- The fifth byte is in the third slot, and not at its beginning.
  intro heap
  have lost : heap.dereference ⟨1, 5⟩ = .error (.invalidAddress ⟨1, 5⟩ (some .stack) 0) := rfl
  exact ⟨by decide, fun ⟨_, shown⟩ => by rw [lost] at shown; cases shown⟩

end Heap

end AdventureVm
