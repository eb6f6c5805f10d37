import AdventureVm.Proofs.Locks.Books
import AdventureVm.Proofs.Memory.Classes
import AdventureVm.Proofs.Memory.Residents

/-! Dropping locks keeps the books balanced. -/

namespace AdventureVm

namespace Script

/-- Leaving out repetitions loses no value. -/
theorem mem_withoutRepeats {value : UInt16} (values : List UInt16) :
    value ∈ withoutRepeats values ↔ value ∈ values := by
  -- A value that is left out is followed by an equal one.
  fun_induction withoutRepeats values with
  | case1 => rfl
  | case2 => rfl
  | case3 first rest ih => simp [ih]
  | case4 first second rest different ih => simp [ih]

/-- The species of the superclasses are those of the objects that have one. -/
theorem mem_superclasses {script : Script} {species : UInt16} :
    species ∈ script.superclasses ↔ ∃ object ∈ script.objects, object.hasSuperclass = true ∧
      object.superclass = species := by
  simp [superclasses, mem_withoutRepeats, and_assoc]

end Script

/-- The locks in memory are accounted for, and memory is otherwise as the resources say. -/
structure Heap.Balanced (heap : Heap) (resources : Resources) (version : Version)
    (owed : UInt16 → Nat) (edges : UInt16 → UInt16 → Prop) (busy : UInt16 → Prop) : Prop where
  /-- The tables agree with the segments. -/
  sound : heap.Sound
  /-- The format is that of the resources. -/
  format : heap.version = version
  /-- The known classes are in the scripts that the resources name. -/
  species : ∀ species, heap.classes.script? species = resources.owner? species
  /-- Every lock is accounted for. -/
  books : Books resources version heap.scriptByNumber? owed edges busy

namespace Store

variable {resources : Resources} {version : Version} {owed : UInt16 → Nat}
  {edges : UInt16 → UInt16 → Prop} {busy : UInt16 → Prop}

/-- The scripts whose locks a script gives back are those that it needs. -/
theorem mem_owners {heap : Heap} {script : Script}
    (species : ∀ species, heap.classes.script? species = resources.owner? species)
    (other : UInt16) :
    other ∈ owners heap script.number script ↔ script.Needs resources other := by
  -- The list goes by species, the need by objects that have such a superclass.
  simp only [owners, List.mem_eraseDups, List.mem_filter, List.mem_filterMap,
    Script.mem_superclasses, species, bne_iff_ne, Script.Needs]
  constructor
  · intro given
    obtain ⟨⟨_, ⟨object, defined, has, rfl⟩, owner⟩, different⟩ := given
    exact ⟨different, object, defined, has, owner⟩
  · intro given
    obtain ⟨different, object, defined, has, owner⟩ := given
    exact ⟨⟨_, ⟨object, defined, has, rfl⟩, owner⟩, different⟩

/-- A list whose repetitions were erased has none. -/
theorem nodup_eraseDups (values : List UInt16) : values.eraseDups.Nodup := by
  -- What follows the first value was cleared of it before its own repetitions are erased.
  induction length : values.length using Nat.strong_induction_on generalizing values with
  | _ size ih =>
    cases values with
    | nil => simp
    | cons first rest =>
      rw [List.eraseDups_cons, List.nodup_cons]
      constructor
      · simp [List.mem_eraseDups]
      · have shorter := List.length_filter_le (fun value => !value == first) rest
        simp only [List.length_cons] at length
        exact ih _ (by omega) _ rfl

/-- Something is owed on a script when a lock on it is to be dropped. -/
theorem charge_pos (owed : UInt16 → Nat) (number : UInt16) (rest : List UInt16) :
    0 < charge owed (number :: rest) number := by
  -- The lock itself is owed.
  rw [charge_cons, if_pos rfl]
  omega

/-- A script on which a lock is to be dropped is locked. -/
theorem lockers_pos {heap : Heap} {number : UInt16} {rest : List UInt16} {script : Script}
    (balanced : heap.Balanced resources version (charge owed (number :: rest)) edges busy)
    (seen : heap.scriptByNumber? number = some script) : 0 < script.lockers := by
  -- The books count at least the lock that is owed.
  rw [balanced.books.lockers number script seen]
  exact Nat.lt_of_lt_of_le (charge_pos owed number rest) (Nat.le_add_right _ _)

/-- Nothing but the account of one resident script changes when it is replaced in place. -/
theorem balanced_put {heap : Heap} {id : SegmentId} {number : UInt16} {script : Script}
    {owed' : UInt16 → Nat} {edges' : UInt16 → UInt16 → Prop} {busy' : UInt16 → Prop}
    (balanced : heap.Balanced resources version owed edges busy)
    (placed : heap.scriptSegment? number = some id)
    (found : heap.get? id = some (.script script)) {lockers : Nat} {deleted holds : Bool}
    (books : Books resources version (Function.update heap.scriptByNumber? number
      (some (script.withLocks lockers deleted holds))) owed' edges' busy') :
    (heap.put id (some (.script (script.withLocks lockers deleted holds)))).Balanced resources
      version owed' edges' busy' := by
  -- Replacing a resident script is an update of what is seen under its number.
  refine ⟨(Heap.Extends.put_withLocks balanced.sound found lockers deleted holds).sound,
    balanced.format, balanced.species, ?_⟩
  rw [Heap.scriptByNumber?_put balanced.sound placed found]
  exact books

/-- What dropping the last lock makes of a script. -/
theorem unlocked_last {script : Script} (last : script.lockers = 1) :
    unlocked script = script.withLocks 0 true false := by
  simp [unlocked, last, Script.unlock, Script.mark, Script.withLocks]

/-- What dropping one of several locks makes of a script. -/
theorem unlocked_more {script : Script} (more : 1 < script.lockers) :
    unlocked script = script.withLocks (script.lockers - 1) script.markedDeleted
      script.holdsSuperclasses := by
  -- With more than one lock the branch that ends the holding is not taken.
  have several : ¬ script.lockers ≤ 1 := by omega
  rw [unlocked, if_neg several]
  rfl

/--
Dropping locks keeps the books balanced.

The locks to be dropped are owed at first and are not afterwards. Locks that scripts have taken may
be dropped on the way, but not those of busy scripts, and none is taken.
-/
theorem release_balanced (store : Store) (numbers : List UInt16)
    (pending : ∀ holder, busy holder → 0 < owed holder)
    (balanced : store.heap.Balanced resources version (charge owed numbers) edges busy) :
    ∃ edges', (store.release numbers).heap.Balanced resources version owed edges' busy ∧
      (∀ holder other, edges' holder other → edges holder other) ∧
      ∀ holder other, busy holder → edges holder other → edges' holder other := by
  -- Which locks scripts have taken changes from step to step, so it stays quantified over.
  revert edges
  fun_induction release store numbers with
  | case1 store =>
    -- With no lock left to be dropped, nothing more is owed.
    intro edges balanced
    have same : charge owed [] = owed := by
      funext number
      simp [charge]
    rw [same] at balanced
    exact ⟨edges, balanced, fun _ _ edge => edge, fun _ _ _ edge => edge⟩
  | case2 store number rest absent ih =>
    -- A script that is owed a lock is in memory.
    intro edges balanced
    obtain ⟨script, found⟩ := balanced.books.present (charge_pos owed number rest)
    rw [Heap.scriptByNumber?_of_absent absent] at found
    simp at found
  | case3 store number rest id placed script found unlocked ih =>
    -- A script that is owed a lock is locked.
    intro edges balanced
    have positive := lockers_pos balanced (Heap.scriptByNumber?_of_placed placed found)
    omega
  | case4 =>
    rename_i store number rest id placed script found locked changed last noted holds ih
    intro edges balanced
    have seen := Heap.scriptByNumber?_of_placed placed found
    have positive := lockers_pos balanced seen
    have one : script.lockers = 1 := by omega
    -- The locks that the script has taken are dropped next.
    have named := (balanced.books.offered number script seen).1
    have next := balanced_put balanced placed found (balanced.books.dropLast seen one pending
      (nodup_eraseDups _) (named ▸ mem_owners balanced.species))
    rw [← unlocked_last one] at next
    obtain ⟨edges', after, fewer, kept⟩ := ih next
    refine ⟨edges', after, fun holder other edge => (fewer holder other edge).1, ?_⟩
    intro holder other working edge
    refine kept holder other working ⟨edge, ?_⟩
    -- A busy script is locked once more than the one lock that there is.
    intro equal
    subst equal
    have balance := balanced.books.lockers holder script seen
    have owing := pending holder working
    rw [charge_cons, if_pos rfl, charge] at balance
    omega
  | case5 =>
    -- A locked script holds its superclasses.
    rename_i store number rest id placed script found locked changed last noted free ih
    intro edges balanced
    have seen := Heap.scriptByNumber?_of_placed placed found
    exact absurd ((balanced.books.holds number script seen).mpr (lockers_pos balanced seen)) free
  | case6 =>
    -- A script with more locks than one stays as it is but for the lock.
    rename_i store number rest id placed script found locked changed more ih
    intro edges balanced
    have seen := Heap.scriptByNumber?_of_placed placed found
    have several : 1 < script.lockers := by omega
    have next := balanced_put balanced placed found (balanced.books.drop seen several pending)
    rw [← unlocked_more several] at next
    exact ih next
  | case7 store number rest id placed elsewhere ih =>
    -- Where the residents place a script, there is one.
    intro edges balanced
    obtain ⟨script, found, _⟩ := balanced.sound.script_of_resident placed
    exact absurd found (elsewhere script)

end Store

end AdventureVm
