import AdventureVm.Memory.Residency

/-! Which script defines which species, through every change to the table of classes. -/

namespace AdventureVm

namespace ClassTable

variable {table : ClassTable} {species other : UInt16}

/-- Forgetting where classes are does not change which scripts define them. -/
@[simp] theorem script?_forget (table : ClassTable) (segment : SegmentId) (species : UInt16) :
    (table.forget segment).script? species = table.script? species := by
  -- Only the addresses of entries are dropped.
  simp only [script?, get?, forget, Array.getElem?_map]
  cases table.entries[species.toNat]? with
  | none => rfl
  | some entry =>
    simp only [Option.map_some, Option.bind_some]
    split <;> rfl

/-- Changing the entry of one species changes no other, although the table may grow. -/
theorem entry_modify_of_ne {α : Type} (field : ClassEntry → Option α) (blank : field {} = none)
    (change : ClassEntry → ClassEntry) (different : other ≠ species) :
    ((table.modify species change).get? other).bind field = (table.get? other).bind field := by
  -- The entries by which the table grows say nothing.
  have apart : species.toNat ≠ other.toNat := fun same => different (UInt16.toNat_inj.mp same.symm)
  simp only [get?, modify, Array.getElem?_modify, if_neg apart, Array.getElem?_append,
    Array.getElem?_replicate]
  split
  · rfl
  · rename_i outside
    rw [Array.getElem?_eq_none (Nat.le_of_not_lt outside)]
    split
    · exact blank
    · rfl

/-- The entry of a species is changed even when the table was too short for it. -/
theorem entry_modify_self {α : Type} (field : ClassEntry → Option α) {value : Option α}
    {change : ClassEntry → ClassEntry} (sets : ∀ entry, field (change entry) = value) :
    ((table.modify species change).get? species).bind field = value := by
  -- The table is long enough once it has grown.
  have inside : species.toNat < (table.entries ++
      Array.replicate (species.toNat + 1 - table.entries.size) ({} : ClassEntry)).size := by
    simp
    omega
  simp only [get?, modify, Array.getElem?_modify, if_true, Array.getElem?_eq_getElem inside,
    Option.map_some, Option.bind_some, sets]

/-- Registering a class makes its script the one that defines the species. -/
theorem script?_register (script : UInt16) (address : Address) :
    (table.register species script address).script? other =
      if other = species then some script else table.script? other := by
  -- The entry of the species is changed, and the table may grow for it.
  unfold register script?
  split
  · rename_i same
    subst same
    exact entry_modify_self _ fun _ => rfl
  · rename_i different
    exact entry_modify_of_ne _ rfl _ different

/-- Registering a class makes its address the one of the species. -/
theorem address?_register (script : UInt16) (address : Address) :
    (table.register species script address).address? other =
      if other = species then some address else table.address? other := by
  -- The entry of the species is changed, and the table may grow for it.
  unfold register address?
  split
  · rename_i same
    subst same
    exact entry_modify_self _ fun _ => rfl
  · rename_i different
    exact entry_modify_of_ne _ rfl _ different

/-- Forgetting the classes of a segment keeps the addresses in other segments. -/
theorem address?_forget {segment : SegmentId} {address : Address} :
    (table.forget segment).address? species = some address ↔
      table.address? species = some address ∧ address.segment ≠ segment := by
  simp only [address?, get?, forget, Array.getElem?_map]
  cases table.entries[species.toNat]? with
  | none => simp
  | some entry =>
    simp only [Option.map_some, Option.bind_some]
    -- An entry with no address has none to forget.
    cases found : entry.address with
    | none => simp [found]
    | some place =>
      simp only [Option.any_some, beq_iff_eq]
      split
      · rename_i here
        simp only [reduceCtorEq, Option.some.injEq, false_iff, not_and]
        intro same elsewhere
        exact elsewhere (same ▸ here)
      · rename_i elsewhere
        simp only [found, Option.some.injEq, iff_self_and]
        intro same
        rw [← same]
        exact elsewhere

end ClassTable

namespace Heap

/-- Bringing in a script whose classes are known to be its own changes no ownership. -/
theorem script?_registerClasses {heap : Heap} {script : Script}
    (own : ∀ object ∈ script.objects, object.isClass = true →
      heap.classes.script? object.species = some script.number) (species : UInt16) :
    (heap.registerClasses script).classes.script? species = heap.classes.script? species := by
  -- Each class is registered for the script that is known to define it.
  have listed : ∀ object ∈ (script.objects.filter (·.isClass)).toList,
      heap.classes.script? object.species = some script.number := by
    intro object member
    simp only [Array.mem_toList_iff, Array.mem_filter] at member
    exact own object member.1 member.2
  simp only [registerClasses, ← Array.foldl_toList]
  generalize (script.objects.filter (·.isClass)).toList = objects at listed
  generalize heap.classes = table at listed ⊢
  induction objects generalizing table with
  | nil => rfl
  | cons object rest ih =>
    -- What is registered is known already, so the table answers as before.
    have same : ∀ other, (table.register object.species script.number object.pos).script? other =
        table.script? other := by
      intro other
      rw [ClassTable.script?_register]
      split
      · rename_i here
        rw [here, listed object List.mem_cons_self]
      · rfl
    rw [List.foldl_cons, ih, same]
    intro later member
    rw [same]
    exact listed later (List.mem_cons_of_mem _ member)

/-- The classes that are known after a script came are those known before and its own. -/
theorem address?_registerClasses {heap : Heap} {script : Script} {species : UInt16}
    {address : Address}
    (known : (heap.registerClasses script).classes.address? species = some address) :
    heap.classes.address? species = some address ∨
      ∃ object ∈ script.objects, object.isClass = true ∧ object.pos = address := by
  have listed : ∀ object ∈ (script.objects.filter (·.isClass)).toList,
      object ∈ script.objects ∧ object.isClass = true := by
    intro object member
    simpa only [Array.mem_toList_iff, Array.mem_filter] using member
  simp only [registerClasses, ← Array.foldl_toList] at known
  generalize (script.objects.filter (·.isClass)).toList = objects at known listed
  generalize heap.classes = table at known
  -- Each class that is registered changes one entry.
  induction objects generalizing table with
  | nil => exact .inl known
  | cons object rest ih =>
    have others := fun later member => listed later (List.mem_cons_of_mem object member)
    rcases ih others _ known with earlier | own
    · rw [ClassTable.address?_register] at earlier
      split at earlier
      · have own := listed object List.mem_cons_self
        exact .inr ⟨object, own.1, own.2, Option.some.inj earlier⟩
      · exact .inl earlier
    · exact .inr own

end Heap

end AdventureVm
