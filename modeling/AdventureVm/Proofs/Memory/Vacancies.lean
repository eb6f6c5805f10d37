import AdventureVm.Proofs.Collector.Entities
import AdventureVm.Proofs.Memory.InPlace

/-! The slots of a pool that wait to be taken again are empty. -/

namespace AdventureVm

namespace Pool

variable {α : Type} {pool : Pool α}

/-- A pool that came about by its own operations. -/
inductive Made : Pool α → Prop where
  | empty : Made {}
  | occupied {pool : Pool α} {index : Nat} (made : Made pool) (next : pool.next? = some index)
      (value : α) : Made (pool.occupy value)
  | released {pool : Pool α} {index : Nat} (made : Made pool) (live : pool.isLive index = true) :
      Made (pool.release index)
  | changed {pool : Pool α} (made : Made pool) (index : Nat) (change : α → α) :
      Made (pool.modify index change)

/-- The slots that wait to be taken again are there, are empty and wait only once. -/
structure IsVacated (pool : Pool α) : Prop where
  /-- There are no more slots than an offset can name. -/
  bounded : pool.slots.size ≤ maxSlots
  /-- A waiting slot is one of them. -/
  inside : ∀ index ∈ pool.vacant, index < pool.slots.size
  /-- A waiting slot holds nothing. -/
  vacant : ∀ index ∈ pool.vacant, pool.get? index = none
  /-- No slot waits twice. -/
  distinct : pool.vacant.Nodup

/-- Outside of the row there is no record. -/
theorem get?_eq_none {index : Nat} (outside : pool.slots.size ≤ index) :
    pool.get? index = none := by
  rw [get?, Array.getElem?_eq_none outside]
  rfl

/-- A live slot is one of the row. -/
theorem inside_of_isLive {index : Nat} (live : pool.isLive index = true) :
    index < pool.slots.size := by
  -- Past the end of the row there is no record.
  by_contra outside
  rw [isLive, get?_eq_none (Nat.le_of_not_lt outside)] at live
  cases live

/-- The next slot is empty, and an offset can name it. -/
theorem IsVacated.next {index : Nat} (vacated : pool.IsVacated) (next : pool.next? = some index) :
    pool.get? index = none ∧ index < maxSlots := by
  unfold next? at next
  -- A slot that was given up is used again before a new one is added.
  split at next
  · rename_i first rest waiting
    cases next
    have member : index ∈ pool.vacant := by simp [waiting]
    have inside := vacated.inside index member
    exact ⟨vacated.vacant index member, Nat.lt_of_lt_of_le inside vacated.bounded⟩
  · split at next
    · rename_i room
      cases next
      exact ⟨get?_eq_none (Nat.le_refl _), room⟩
    · cases next

/-- A record is found in the slot that it was put into, and the others where they were. -/
theorem IsVacated.get?_occupy {index : Nat} (vacated : pool.IsVacated)
    (next : pool.next? = some index) (value : α) (other : Nat) :
    (pool.occupy value).get? other = if other = index then some value else pool.get? other := by
  unfold next? at next
  -- The record goes into the slot given up last, or else behind all slots.
  cases waiting : pool.vacant with
  | cons first rest =>
    simp only [waiting, Option.some.injEq] at next
    subst next
    have inside := vacated.inside first (by simp [waiting])
    simp only [occupy, waiting, get?, Array.getElem?_setIfInBounds]
    by_cases same : other = first
    · subst same
      simp [inside]
    · simp [same, Ne.symm same]
  | nil =>
    simp only [waiting] at next
    split at next
    · cases next
      simp only [occupy, waiting, get?, Array.getElem?_push]
      split <;> rfl
    · cases next

/-- Whatever is done with a pool, the slots that wait are empty. -/
theorem Made.isVacated (made : pool.Made) : pool.IsVacated := by
  induction made with
  | empty => exact ⟨by simp [maxSlots], by simp, by simp, .nil⟩
  | @occupied pool index _ next value ih =>
    have found := ih.get?_occupy next value
    have bounded := size_occupy next ih.bounded value
    cases waiting : pool.vacant with
    -- Nothing waits, so the pool grows by a slot.
    | nil =>
      have none : (pool.occupy value).vacant = [] := by simp [occupy, waiting]
      exact ⟨bounded, by simp [none], by simp [none], by simp [none]⟩
    | cons first rest =>
      -- The slot that is taken does not wait any longer, and it did so only once.
      obtain rfl : first = index := by simpa [next?, waiting] using next
      have left : (pool.occupy value).vacant = rest := by simp [occupy, waiting]
      have size : (pool.occupy value).slots.size = pool.slots.size := by simp [occupy, waiting]
      have distinct := ih.distinct
      rw [waiting, List.nodup_cons] at distinct
      refine ⟨bounded, ?_, ?_, ?_⟩
      · intro other member
        rw [size]
        exact ih.inside other (by simp_all)
      · intro other member
        rw [left] at member
        have apart : other ≠ first := fun same => distinct.1 (same ▸ member)
        rw [found, if_neg apart]
        exact ih.vacant other (by simp [waiting, member])
      · rw [left]
        exact distinct.2
  | @released pool index _ live ih =>
    refine ⟨by simpa using ih.bounded, ?_, ?_, ?_⟩
    · intro other member
      rw [size_release]
      rcases List.mem_cons.mp member with rfl | member
      · exact inside_of_isLive live
      · exact ih.inside other member
    · intro other member
      rw [get?_release]
      split
      · rfl
      · rename_i apart
        exact ih.vacant other ((List.mem_cons.mp member).resolve_left apart)
    · -- A slot that holds a record does not wait.
      refine List.nodup_cons.mpr ⟨fun waits => ?_, ih.distinct⟩
      rw [isLive, ih.vacant index waits] at live
      cases live
  | @changed pool index change _ ih =>
    refine ⟨by simpa using ih.bounded, by simpa [modify] using ih.inside, ?_, ih.distinct⟩
    intro other member
    -- Changing a record leaves empty slots empty.
    have empty := ih.vacant other member
    simp only [get?, modify, Array.getElem?_modify] at empty ⊢
    split
    · rcases slot : pool.slots[other]? with _ | _ | record <;> simp_all
    · exact empty

end Pool

end AdventureVm
