import AdventureVm.Proofs.Collector.Histories
import AdventureVm.Proofs.Locks.Instantiate
import Mathlib

/-!
Every lock on a script is one that was asked for or one that a superclass accounts for.

The examples are run by `cbv`, which goes by the equations of the functions that it runs. Mathlib
has those of the library already, and made here again they would keep it from being imported later.
-/

namespace AdventureVm

/-- The scripts in memory that hold their superclasses and have one of them in another script. -/
def Heap.heldFor (heap : Heap) (resources : Resources) (number : UInt16) : Set UInt16 :=
  { holder | ∃ script, heap.scriptByNumber? holder = some script ∧
    script.holdsSuperclasses = true ∧ script.Needs resources number }

namespace Store

variable {resources : Resources} {version : Version}

/--
The memories that loading, locking, unlocking and collecting lead to.

Beside each of them stands how many of the locks that were asked for, and given, are outstanding.
-/
inductive Traffic (resources : Resources) (version : Version) :
    Store → (UInt16 → Nat) → Prop where
  | start (journal : Journal) :
      Traffic resources version (blank version (.ofScripts resources.classScripts) journal)
        fun _ => 0
  | load {store : Store} {asked : UInt16 → Nat} (traffic : Traffic resources version store asked)
      (number : UInt16) :
      Traffic resources version ((loadScript resources number).run store).2 asked
  /-- A lock was asked for and given. -/
  | lock {store after : Store} {asked : UInt16 → Nat} {number : UInt16} {id : SegmentId}
      (traffic : Traffic resources version store asked)
      (given : (instantiateScript resources number).run store = (.ok id, after)) :
      Traffic resources version after (Function.update asked number (asked number + 1))
  /-- A lock was asked for and refused. -/
  | refuse {store after : Store} {asked : UInt16 → Nat} {number : UInt16} {fault : Fault}
      (traffic : Traffic resources version store asked)
      (refused : (instantiateScript resources number).run store = (.error fault, after)) :
      Traffic resources version after asked
  /-- A lock that was asked for is dropped. -/
  | unlock {store : Store} {asked : UInt16 → Nat} {number : UInt16}
      (traffic : Traffic resources version store asked) (outstanding : 0 < asked number) :
      Traffic resources version ((uninstantiateScript number).run store).2
        (Function.update asked number (asked number - 1))
  | collect {store : Store} {asked : UInt16 → Nat}
      (traffic : Traffic resources version store asked) (context : Context) :
      Traffic resources version ((Store.collect context).run store).2 asked

/-- Asking for one lock more is charging it. -/
theorem update_eq_charge (asked : UInt16 → Nat) (number : UInt16) :
    Function.update asked number (asked number + 1) = charge asked [number] := by
  -- Both sides differ from what was asked for at one number only.
  funext other
  rw [charge_cons]
  by_cases same : other = number
  · subst same
    simp [charge]
  · simp [charge, same]

/-- A lock that is outstanding was charged on top of the others. -/
theorem charge_update {asked : UInt16 → Nat} {number : UInt16} (outstanding : 0 < asked number) :
    charge (Function.update asked number (asked number - 1)) [number] = asked := by
  -- There is a lock to be taken off, so it can be put back.
  funext other
  rw [charge_cons]
  by_cases same : other = number
  · subst same
    simp [charge]
    omega
  · simp [charge, same]

/-- An empty memory has nothing on its books. -/
theorem blank_balanced (journal : Journal) :
    (blank version (.ofScripts resources.classScripts) journal).heap.Balanced resources version
      (fun _ => 0) (fun _ _ => False) fun _ => False := by
  have nobody : ∀ number, (blank version (.ofScripts resources.classScripts)
      journal).heap.scriptByNumber? number = none :=
    fun number => Heap.scriptByNumber?_of_absent rfl
  refine ⟨blank_sound version _ journal, rfl, fun _ => rfl, ?_⟩
  -- Each entry of the books is about a script in memory, or about a lock that somebody has.
  constructor <;> simp [nobody]

/-- A collection takes away only scripts that nobody has locked. -/
theorem collect_balanced {store : Store} {owed : UInt16 → Nat} {edges : UInt16 → UInt16 → Prop}
    {busy : UInt16 → Prop} (balanced : store.heap.Balanced resources version owed edges busy)
    (context : Context) :
    ((Store.collect context).run store).2.heap.Balanced resources version owed edges busy := by
  obtain ⟨started, after, _, run, swept⟩ := run_collect store balanced.sound context
  rw [run]
  refine ⟨swept.sound, swept.version.trans balanced.format, ?_, ?_⟩
  · intro species
    rw [swept.species]
    exact balanced.species species
  · -- A script that was taken away was neither reached nor locked.
    apply balanced.books.leave
    intro number
    rcases swept.scriptByNumber? balanced.sound number with same | ⟨gone, freed⟩
    · exact .inl same
    · refine .inr ⟨gone, ?_⟩
      intro script seen
      obtain ⟨id, found, member⟩ := freed script seen
      have unwanted := (Heap.script_mem_garbage balanced.sound found).mp member
      rw [not_or, not_or] at unwanted
      omega

/-- Every memory that traffic leads to has balanced books, with nobody at work. -/
theorem Traffic.balanced (orderly : resources.Orderly version) {store : Store}
    {asked : UInt16 → Nat} (traffic : Traffic resources version store asked) :
    ∃ edges, store.heap.Balanced resources version asked edges fun _ => False := by
  induction traffic with
  | start journal => exact ⟨_, blank_balanced journal⟩
  | @load store asked _ number ih =>
    obtain ⟨edges, balanced⟩ := ih
    have loaded := leads_loadScript resources number store balanced.sound
    -- Loading gives nobody a lock, whether it succeeds or fails.
    have kept : Leads (loadScript resources number) store fun _ after =>
        after.heap.Balanced resources version asked edges fun _ => False := by
      apply loaded.either
      · intro id after either
        rcases either with ⟨_, rfl⟩ | brought
        · exact balanced
        · exact balanced.of_brought orderly brought
      · intro fault after failed
        exact balanced.of_alike failed.1 failed.2
    exact ⟨edges, kept⟩
  | @lock store after asked number id _ given ih =>
    obtain ⟨edges, balanced⟩ := ih
    -- The lock that was given is owed to whoever asked.
    have locks := instantiateWithin_balanced orderly (segmentLimit + 1) number store asked edges _
      balanced
    rw [Leads, show (instantiateWithin resources (segmentLimit + 1) number).run store =
      (.ok id, after) from given] at locks
    obtain ⟨edges', _, balancedThen⟩ := locks
    rw [update_eq_charge]
    exact ⟨edges', balancedThen⟩
  | @refuse store after asked number fault _ refused ih =>
    obtain ⟨edges, balanced⟩ := ih
    -- Nothing more is owed after a refusal.
    have locks := instantiateWithin_balanced orderly (segmentLimit + 1) number store asked edges _
      balanced
    rw [Leads, show (instantiateWithin resources (segmentLimit + 1) number).run store =
      (.error fault, after) from refused] at locks
    obtain ⟨edges', _, balancedThen⟩ := locks
    exact ⟨edges', balancedThen⟩
  | @unlock store asked number _ outstanding ih =>
    obtain ⟨edges, balanced⟩ := ih
    -- The outstanding lock is charged on top of the rest, and is the one to drop.
    rw [← charge_update outstanding] at balanced
    obtain ⟨edges', balancedThen, _, _⟩ := release_balanced store [number] (fun _ => False.elim)
      balanced
    exact ⟨edges', balancedThen⟩
  | collect _ context ih =>
    obtain ⟨edges, balanced⟩ := ih
    exact ⟨edges, collect_balanced balanced context⟩

/--
The locks on a script in memory are those that were asked for and are outstanding, and one for each
script in memory that holds its superclasses and has one of them there.

A script holds its superclasses exactly while it is locked, and is not marked while it is.
-/
theorem lockers_eq (orderly : resources.Orderly version) {store : Store} {asked : UInt16 → Nat}
    (traffic : Traffic resources version store asked) {number : UInt16} {script : Script}
    (resident : store.heap.scriptByNumber? number = some script) :
    script.lockers = asked number + (store.heap.heldFor resources number).ncard ∧
      (script.holdsSuperclasses = true ↔ 0 < script.lockers) ∧
      (script.markedDeleted = true → script.lockers = 0) := by
  obtain ⟨edges, balanced⟩ := traffic.balanced orderly
  have books := balanced.books
  -- With nobody at work, whoever holds its superclasses has locked all scripts that it needs.
  have holders_eq : holders edges number = store.heap.heldFor resources number := by
    ext holder
    constructor
    · exact books.taken holder number
    · intro given
      obtain ⟨contents, seen, holds, needs⟩ := given
      exact books.complete holder contents number seen holds (fun working => working) needs
  rw [← holders_eq]
  exact ⟨books.lockers number script resident, books.holds number script resident,
    books.marked number script resident⟩

/--
Besides the locks that were asked for, a script has no more than there are script numbers.

The count therefore keeps to thirty-two bits for as long as fewer than `2 ^ 32 - 2 ^ 16` locks that
were asked for are outstanding.
-/
theorem lockers_le (orderly : resources.Orderly version) {store : Store} {asked : UInt16 → Nat}
    (traffic : Traffic resources version store asked) {number : UInt16} {script : Script}
    (resident : store.heap.scriptByNumber? number = some script) :
    script.lockers ≤ asked number + segmentLimit := by
  obtain ⟨edges, balanced⟩ := traffic.balanced orderly
  -- No script has locked this one twice, and there is one script for a number.
  have few : (holders edges number).ncard ≤ segmentLimit := by
    rw [Set.ncard_eq_toFinset_card _ (Set.toFinite _), ← Finset.length_toList]
    exact length_le_of_nodup (Finset.nodup_toList _)
  have count := balanced.books.lockers number script resident
  omega

end Store

namespace Resources

/-- A script with one class, and a script with one instance of it. -/
def classAndInstance : Resources where
  script?
    | 1 => some #[0, 0, 0, 0, 6, 0, 32, 0, 52, 18, 0, 0, 16, 0, 4, 0, 0, 0, 255, 255, 0, 128, 40, 0,
      0, 16, 1, 16, 2, 16, 3, 16, 0, 0, 0, 0, 5, 0, 6, 0, 67, 0, 2, 0, 4, 0, 8, 0, 8, 0, 1, 0, 22,
      0, 0, 0]
    | 2 => some #[0, 0, 0, 0, 1, 0, 24, 0, 52, 18, 0, 0, 8, 0, 4, 0, 0, 0, 0, 0, 0, 0, 32, 0, 0, 0,
      0, 0, 5, 0, 6, 0, 73, 0, 2, 0, 4, 0, 8, 0, 8, 0, 1, 0, 22, 0, 0, 0]
    | _ => none
  classScripts := [(0, 1)]

/-- What a lock looks at in an object. -/
def lineage (object : Object) : UInt16 × UInt16 × Bool :=
  (object.species, object.superclass, object.isClass)

/-- Each of the two scripts has one object: the class in the first, its instance in the second. -/
theorem offers_classAndInstance {number : UInt16} {id : SegmentId} {script : Script}
    {locals : Array Address} (offers : classAndInstance.Offers .sci0 number id script locals) :
    number = 1 ∧ script.objects.toList.map lineage = [(0, noSuperclass, true)] ∨
      number = 2 ∧ script.objects.toList.map lineage = [(0, 0, false)] := by
  obtain ⟨bytes, heap, journal, after, stored, heapStored, loaded⟩ := offers
  cases heapStored
  have objects : ((Script.load .sci0 number id bytes none).run journal).1.toOption.map
      (fun result => result.1.objects.toList.map lineage) =
        some (script.objects.toList.map lineage) := by
    rw [loaded]
    rfl
  -- The bytes are at hand, so loading them is computed whatever the segment.
  by_cases first : number = 1
  · subst first
    cases stored
    refine .inl ⟨rfl, Option.some.inj (objects.symm.trans ?_)⟩
    cbv
  · by_cases second : number = 2
    · subst second
      cases stored
      refine .inr ⟨rfl, Option.some.inj (objects.symm.trans ?_)⟩
      cbv
    · simp [classAndInstance] at stored

/-- The second of the two scripts needs the first, and there is nothing else to need. -/
theorem depends_classAndInstance {number other : UInt16}
    (depends : classAndInstance.Depends .sci0 number other) : number = 2 ∧ other = 1 := by
  obtain ⟨id, script, locals, offers, _, object, member, has, owner⟩ := depends
  have listed : lineage object ∈ script.objects.toList.map lineage :=
    List.mem_map_of_mem (Array.mem_toList_iff.mpr member)
  rcases offers_classAndInstance offers with ⟨rfl, objects⟩ | ⟨rfl, objects⟩
  · -- The class has no superclass.
    rw [objects, List.mem_singleton] at listed
    simp only [lineage, Prod.mk.injEq] at listed
    rw [Object.hasSuperclass, listed.2.1] at has
    exact absurd has (by decide)
  · -- The superclass of the instance is the class, which is in the first script.
    rw [objects, List.mem_singleton] at listed
    simp only [lineage, Prod.mk.injEq] at listed
    rw [listed.2.1] at owner
    exact ⟨rfl, Option.some.inj (owner.symm.trans (by decide))⟩

/-- The two scripts are in order. -/
theorem classAndInstance_orderly : classAndInstance.Orderly .sci0 := by
  constructor
  · intro number id script locals offers object member isClass
    have listed : lineage object ∈ script.objects.toList.map lineage :=
      List.mem_map_of_mem (Array.mem_toList_iff.mpr member)
    rcases offers_classAndInstance offers with ⟨rfl, objects⟩ | ⟨rfl, objects⟩
    · rw [objects, List.mem_singleton] at listed
      simp only [lineage, Prod.mk.injEq] at listed
      rw [listed.1]
      decide
    · -- The instance is not a class.
      rw [objects, List.mem_singleton] at listed
      simp only [lineage, Prod.mk.injEq] at listed
      simp [listed.2.2] at isClass
  · intro number cycle
    -- A way around starts at the second script and ends at the first.
    have starts : ∃ next, classAndInstance.Depends .sci0 number next :=
      Relation.TransGen.head'_iff.mp cycle |>.imp fun _ step => step.1
    have ends : ∃ last, classAndInstance.Depends .sci0 last number :=
      Relation.TransGen.tail'_iff.mp cycle |>.imp fun _ step => step.2
    obtain ⟨_, step⟩ := starts
    obtain ⟨_, back⟩ := ends
    have second := (depends_classAndInstance step).1
    have first := (depends_classAndInstance back).2
    rw [second] at first
    exact absurd first (by decide)

end Resources

namespace Store

/-- The memory in which the instance was locked. -/
def instanceLocked : Store :=
  ((instantiateScript Resources.classAndInstance 2).run
    (blank .sci0 (.ofScripts Resources.classAndInstance.classScripts) #[])).2

/-- The lock was given, so there is one for whoever asked. -/
theorem instanceLocked_traffic :
    Traffic Resources.classAndInstance .sci0 instanceLocked
      (Function.update (fun _ => 0) 2 1) := by
  have given : ((instantiateScript Resources.classAndInstance 2).run
      (blank .sci0 (.ofScripts Resources.classAndInstance.classScripts) #[])).1.toOption.isSome =
        true := by
    decide +kernel
  -- The store is what locking left, so a failed lock has to be excluded.
  cases outcome : (instantiateScript Resources.classAndInstance 2).run
      (blank .sci0 (.ofScripts Resources.classAndInstance.classScripts) #[]) with
  | mk result after =>
    rw [instanceLocked, outcome]
    rw [outcome] at given
    cases result with
    | ok id => exact .lock (.start #[]) outcome
    | error fault => exact absurd given Bool.false_ne_true

/-- The class was locked once, for the sake of the instance and for nobody else. -/
theorem lockers_eq_superclass :
    Resources.classAndInstance.Orderly .sci0 ∧
      ∃ store asked script, Traffic Resources.classAndInstance .sci0 store asked ∧
        store.heap.scriptByNumber? 1 = some script ∧ script.lockers = 1 ∧ asked 1 = 0 ∧
        script.lockers = asked 1 + (store.heap.heldFor Resources.classAndInstance 1).ncard ∧
        (script.holdsSuperclasses = true ↔ 0 < script.lockers) ∧
        (script.markedDeleted = true → script.lockers = 0) := by
  -- The memory is at hand, so what it says of the class is computed.
  have lockers : (instanceLocked.heap.scriptByNumber? 1).map (·.lockers) = some 1 := by
    decide +kernel
  obtain ⟨script, resident, once⟩ := Option.map_eq_some_iff.mp lockers
  refine ⟨Resources.classAndInstance_orderly, instanceLocked, _, script, instanceLocked_traffic,
    resident, once, rfl, ?_⟩
  exact lockers_eq Resources.classAndInstance_orderly instanceLocked_traffic resident

end Store

end AdventureVm
