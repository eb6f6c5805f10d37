import AdventureVm.Proofs.Memory.Vacancies
import Mathlib.Data.List.Induction

/-!
A pool knows in three ways which of its slots are taken: by what is in them, by which of them wait
to be taken, and by their number.

The three agree whatever has been done with the pool. This is why a new record never gets the slot
of one that is still there.
-/

namespace AdventureVm

namespace Pool

variable {α : Type} {pool : Pool α} {index : Nat}

/-- Something that is done with a pool. -/
inductive Change (α : Type) where
  | alloc (value : α)
  | free (index : Nat)
  | update (index : Nat) (change : α → α)

/-- The pool afterwards; what is refused changes nothing. -/
def apply (pool : Pool α) : Change α → Pool α
  | .alloc value => ((pool.alloc value).map (·.2)).getD pool
  | .free index => ((pool.free index).map (·.2)).getD pool
  | .update index change => pool.modify index change

/-- The pool after one thing was done after the other, from a pool without slots on. -/
def applyAll (changes : List (Change α)) : Pool α :=
  changes.foldl apply {}

/-- A record is stored in the slot that is next, if there is one. -/
theorem alloc_eq_some {value : α} {after : Pool α} : pool.alloc value = some (index, after) ↔
    pool.next? = some index ∧ after = pool.occupy value := by
  -- Whether there is a next slot decides; what is stored does not.
  rw [alloc, Option.map_eq_some_iff]
  constructor
  · rintro ⟨_, next, ⟨⟩⟩
    exact ⟨next, rfl⟩
  · rintro ⟨next, rfl⟩
    exact ⟨index, next, rfl⟩

/-- A record is given up where there is one. -/
theorem free_eq_some {value : α} {after : Pool α} : pool.free index = some (value, after) ↔
    pool.get? index = some value ∧ after = pool.release index := by
  -- Whether there is a record decides; releasing its slot cannot fail.
  rw [free, Option.map_eq_some_iff]
  constructor
  · rintro ⟨_, found, ⟨⟩⟩
    exact ⟨found, rfl⟩
  · rintro ⟨found, rfl⟩
    exact ⟨value, found, rfl⟩

/-- Whatever is done with a pool is one of its own operations, or nothing. -/
theorem Made.apply (made : pool.Made) (change : Change α) : (pool.apply change).Made := by
  -- What a pool refuses leaves it as it was.
  cases change with
  | alloc value =>
    cases stored : pool.alloc value with
    | none => simpa only [Pool.apply, stored, Option.map_none, Option.getD_none] using made
    | some result =>
      obtain ⟨next, after⟩ := alloc_eq_some.mp stored
      simpa only [Pool.apply, stored, Option.map_some, Option.getD_some, after] using
        made.occupied next value
  | free index =>
    cases given : pool.free index with
    | none => simpa only [Pool.apply, given, Option.map_none, Option.getD_none] using made
    | some result =>
      obtain ⟨found, after⟩ := free_eq_some.mp given
      have live : pool.isLive index = true := by rw [isLive, found, Option.isSome_some]
      simpa only [Pool.apply, given, Option.map_some, Option.getD_some, after] using
        made.released live
  | update index change => exact made.changed index change

/-- Whatever is done with a pool, it came about by its own operations. -/
theorem made_applyAll (changes : List (Change α)) : (applyAll changes).Made := by
  -- Induction from the end, since the changes are applied from the left.
  induction changes using List.reverseRecOn with
  | nil => exact .empty
  | append_singleton changes change ih =>
    rw [applyAll, List.foldl_append]
    exact ih.apply change

/-- The number of records in a pool. -/
def taken (pool : Pool α) : Nat :=
  pool.slots.countP Option.isSome

/-- What is in the slots of a pool, which of them wait, and the number of records agree. -/
structure Agrees (pool : Pool α) : Prop where
  /-- No slot waits twice. -/
  distinct : pool.vacant.Nodup
  /-- The slots that wait are the empty ones. -/
  vacant : ∀ index, index ∈ pool.vacant ↔ pool.slots[index]? = some none
  /-- The number of records is kept. -/
  used : pool.used = pool.taken
  /-- There are no more slots than an offset can name. -/
  bounded : pool.slots.size ≤ maxSlots

/-- An empty slot is one of the row in which there is no record. -/
theorem slot_eq_none : pool.slots[index]? = some none ↔
    index < pool.slots.size ∧ pool.get? index = none := by
  -- A slot is past the end, or empty, or holds a record.
  rw [get?]
  rcases slot : pool.slots[index]? with _ | _ | record
  · simpa using Array.getElem?_eq_none_iff.mp slot
  · simpa using (Array.getElem?_eq_some_iff.mp slot).1
  · simp

section Counting

/-- A record is listed by its slot. -/
theorem mem_liveIndices : index ∈ pool.liveIndices ↔ pool.isLive index = true := by
  -- A live slot is one of the row, so the row need not be asked for.
  rw [liveIndices, List.mem_filter, List.mem_range]
  exact and_iff_right_of_imp inside_of_isLive

/-- The slots with a record are listed from the first to the last. -/
theorem liveIndices_increasing (pool : Pool α) : pool.liveIndices.Pairwise (· < ·) :=
  List.pairwise_lt_range.filter _

/-- As many slots are listed as there are records. -/
theorem length_liveIndices (pool : Pool α) : pool.liveIndices.length = pool.taken := by
  -- Going through the numbers of the slots is going through the slots.
  have same : (List.range pool.slots.size).map pool.isLive =
      pool.slots.toList.map Option.isSome := by
    refine List.ext_getElem (by simp) fun index inside _ => ?_
    rw [List.length_map, List.length_range] at inside
    simp [isLive, get?, inside]
  calc pool.liveIndices.length
      = ((List.range pool.slots.size).map pool.isLive).countP id := by
        rw [liveIndices, ← List.countP_eq_length_filter, List.countP_map, Function.id_comp]
    _ = pool.taken := by
        rw [same, List.countP_map, Function.id_comp, Array.countP_toList, taken]

/-- One more record is one more. -/
theorem taken_occupy (vacated : pool.IsVacated) (value : α) :
    (pool.occupy value).taken = pool.taken + 1 := by
  unfold taken occupy
  cases waiting : pool.vacant with
  | nil => simp
  | cons first rest =>
    -- The slot that is taken was empty, so the count gains it and loses nothing.
    have member : first ∈ pool.vacant := by simp [waiting]
    have inside := vacated.inside first member
    obtain ⟨_, empty⟩ := Array.getElem?_eq_some_iff.mp
      (slot_eq_none.mpr ⟨inside, vacated.vacant first member⟩)
    simp [Array.setIfInBounds_def, inside, Array.countP_set, empty]

/-- One record less is one less. -/
theorem taken_release (live : pool.isLive index = true) :
    (pool.release index).taken = pool.taken - 1 := by
  -- The slot counted before, and it is the only one that changes.
  have inside := inside_of_isLive live
  have full : pool.slots[index].isSome = true := by simpa [isLive, get?, inside] using live
  simp [taken, release, Array.setIfInBounds_def, inside, Array.countP_set, full]

/-- Records that are changed are still records. -/
theorem taken_modify (pool : Pool α) (index : Nat) (change : α → α) :
    (pool.modify index change).taken = pool.taken := by
  -- Live slots are counted, and the same ones are live.
  rw [← length_liveIndices, ← length_liveIndices, liveIndices, liveIndices, size_modify]
  congr 2
  funext other
  rw [isLive, isLive, get?_modify]
  split
  · rw [Option.isSome_map]
  · rfl

end Counting

section Agreement

/-- The slots that a record leaves the others in are as they were. -/
theorem slot_occupy {other : Nat} (next : pool.next? = some index) (apart : other ≠ index)
    (value : α) : (pool.occupy value).slots[other]? = pool.slots[other]? := by
  unfold next? at next
  unfold occupy
  -- The record goes into the slot given up last, or else behind all slots.
  cases waiting : pool.vacant with
  | cons first rest =>
    obtain rfl : first = index := by simpa [waiting] using next
    exact Array.getElem?_setIfInBounds_ne apart.symm
  | nil =>
    simp only [waiting] at next
    split at next
    · cases next
      exact (Array.getElem?_push).trans (if_neg apart)
    · cases next

/-- Every empty slot waits to be taken again. -/
theorem Made.waits (made : pool.Made) {index : Nat} (empty : pool.slots[index]? = some none) :
    index ∈ pool.vacant := by
  induction made generalizing index with
  | empty => cases empty
  | @occupied pool next made first value ih =>
    by_cases same : index = next
    · -- This slot is taken by the record.
      have found := made.isVacated.get?_occupy first value index
      rw [if_pos same, (slot_eq_none.mp empty).2] at found
      cases found
    · rw [slot_occupy first same] at empty
      have waited := ih empty
      unfold next? at first
      cases waiting : pool.vacant with
      | nil => simp [waiting] at waited
      | cons head rest =>
        -- Otherwise it waited before, and it is not the first that waits.
        obtain rfl : head = next := by simpa [waiting] using first
        rw [waiting, List.mem_cons] at waited
        simpa [occupy, waiting] using waited.resolve_left same
  | @released pool freed made live ih =>
    by_cases same : index = freed
    · rw [same]
      exact List.mem_cons_self
    · refine List.mem_cons_of_mem _ (ih ?_)
      rw [release, Array.getElem?_setIfInBounds_ne (Ne.symm same)] at empty
      exact empty
  | @changed pool other change made ih =>
    refine ih (slot_eq_none.mpr ?_)
    obtain ⟨inside, none⟩ := slot_eq_none.mp empty
    rw [get?_modify] at none
    rw [size_modify] at inside
    refine ⟨inside, ?_⟩
    split at none
    · exact Option.map_eq_none_iff.mp none
    · exact none

/-- The number that is kept is the number of records. -/
theorem Made.used_eq (made : pool.Made) : pool.used = pool.taken := by
  -- Each operation changes both numbers in the same way.
  induction made with
  | empty => rfl
  | @occupied pool index made next value ih =>
    rw [taken_occupy made.isVacated, ← ih]
    unfold occupy
    split <;> rfl
  | @released pool index made live ih =>
    rw [taken_release live, ← ih]
    rfl
  | @changed pool made index change ih =>
    rw [taken_modify, ← ih]
    rfl

/-- In a pool that came about by its own operations everything agrees. -/
theorem Made.agrees (made : pool.Made) : pool.Agrees where
  -- The free list is the inner invariant, read from outside.
  distinct := made.isVacated.distinct
  vacant index := ⟨fun waits => slot_eq_none.mpr
    ⟨made.isVacated.inside index waits, made.isVacated.vacant index waits⟩, made.waits⟩
  used := made.used_eq
  bounded := made.isVacated.bounded

/-- There is no next slot exactly when there is a record in every slot that an offset can name. -/
theorem Agrees.next?_eq_none (agrees : pool.Agrees) :
    pool.next? = none ↔ ∀ index < maxSlots, pool.isLive index = true := by
  unfold next?
  cases waiting : pool.vacant with
  | cons first rest =>
    -- A slot that waits is empty.
    simp only [reduceCtorEq, false_iff, not_forall]
    obtain ⟨inside, empty⟩ := slot_eq_none.mp ((agrees.vacant first).mp (by simp [waiting]))
    refine ⟨first, Nat.lt_of_lt_of_le inside agrees.bounded, ?_⟩
    simp [isLive, empty]
  | nil =>
    simp only [ite_eq_right_iff, reduceCtorEq, imp_false, Nat.not_lt]
    constructor
    · intro long index inside
      by_contra dead
      have empty : pool.get? index = none := by simpa [isLive] using dead
      have waits := (agrees.vacant index).mpr
        (slot_eq_none.mpr ⟨Nat.lt_of_lt_of_le inside long, empty⟩)
      simp [waiting] at waits
    · intro full
      by_contra short
      exact absurd (inside_of_isLive (full _ (Nat.lt_of_not_le short))) (Nat.lt_irrefl _)

/--
Whatever has been done with a pool, what is in its slots, what waits and what is counted agree.

So a record gets a slot that no record is in, and gets none only when an offset can name no other;
what is given up was there, and nothing else is lost with it; and the slots that are listed are
those with a record.
-/
theorem accounts_agree (changes : List (Change α)) :
    let pool := applyAll changes
    pool.Agrees ∧
    (∀ value index after, pool.alloc value = some (index, after) →
      index < maxSlots ∧ pool.isLive index = false ∧ after.get? index = some value ∧
        ∀ other, other ≠ index → after.slots[other]? = pool.slots[other]?) ∧
    (∀ value, pool.alloc value = none ↔ ∀ index < maxSlots, pool.isLive index = true) ∧
    (∀ index, (pool.free index).isSome = pool.isLive index) ∧
    (∀ index value after, pool.free index = some (value, after) →
      pool.get? index = some value ∧ after.isLive index = false ∧
        ∀ other, other ≠ index → after.slots[other]? = pool.slots[other]?) ∧
    (∀ index, index ∈ pool.liveIndices ↔ pool.isLive index = true) ∧
    pool.liveIndices.Pairwise (· < ·) ∧ pool.liveIndices.length = pool.used := by
  intro pool
  -- All accounts are read off how the pool was made.
  have made : pool.Made := made_applyAll changes
  have agrees := made.agrees
  refine ⟨agrees, ?_, ?_, ?_, ?_, fun index => mem_liveIndices, pool.liveIndices_increasing, ?_⟩
  · intro value index after stored
    obtain ⟨next, rfl⟩ := alloc_eq_some.mp stored
    obtain ⟨empty, inside⟩ := made.isVacated.next next
    refine ⟨inside, by rw [isLive, empty, Option.isSome_none], ?_, ?_⟩
    · rw [made.isVacated.get?_occupy next, if_pos rfl]
    · exact fun other apart => slot_occupy next apart value
  · intro value
    rw [alloc, Option.map_eq_none_iff]
    exact agrees.next?_eq_none
  · intro index
    rw [free, Option.isSome_map, isLive]
  · intro index value after given
    obtain ⟨found, rfl⟩ := free_eq_some.mp given
    refine ⟨found, by rw [isLive, get?_release, if_pos rfl, Option.isSome_none], ?_⟩
    exact fun other apart => Array.getElem?_setIfInBounds_ne apart.symm
  · rw [length_liveIndices, agrees.used]

/-- A record that was given up twice leaves one slot, and the next record gets it. -/
theorem accounts_agree_reused :
    let pool := applyAll [.alloc 1, .alloc 2, .free 0, .free 0, .update 1 (· + 5)]
    pool.Agrees ∧ pool.vacant = [0] ∧ pool.liveIndices = [1] ∧
      ∃ after, pool.alloc 3 = some (0, after) ∧ after.get? 0 = some 3 ∧
        after.slots[1]? = some (some 7) := by
  -- The accounts are those of the general theorem; the values are computed.
  intro pool
  obtain ⟨agrees, stored, -⟩ :=
    accounts_agree [.alloc 1, .alloc 2, .free 0, .free 0, .update 1 (· + 5)]
  obtain ⟨-, -, found, others⟩ := stored 3 0 _ rfl
  exact ⟨agrees, rfl, by decide, _, rfl, found, (others 1 (by decide)).trans rfl⟩

end Agreement

end Pool

end AdventureVm
