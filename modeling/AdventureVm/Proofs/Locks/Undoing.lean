import AdventureVm.Proofs.Collector.Survivors
import AdventureVm.Proofs.Locks.Accounting
import AdventureVm.Proofs.Locks.Turns

/-! Dropping the only lock that was asked for leaves every script to the collector. -/

namespace AdventureVm

namespace Heap

variable {heap : Heap} {context : Context} {stack : SegmentId}

/-- A script in memory is resident, unless it is astray. -/
theorem seen_of_not_stray {id : SegmentId} {script : Script}
    (found : heap.get? id = some (.script script)) (homed : ¬ heap.IsStray id script) :
    ∃ number, heap.scriptByNumber? number = some script := by
  -- A script that no number sees would be astray.
  by_contra unseen
  refine homed ⟨found, ?_⟩
  intro number placed
  exact unseen ⟨number, scriptByNumber?_of_placed placed found⟩

/-- With no registers, no frames and no lock on any script, only the global variables are a root. -/
theorem Root.globals_of_idle {value : Address}
    (idle : ∀ id script, heap.get? id = some (.script script) → script.lockers = 0)
    (root : heap.Root { stackSegment := stack } value) :
    value = .null ∨ ∃ id, heap.globalsSegment? = some id ∧ value = ⟨id, 0⟩ := by
  -- The other roots are registers, frames and locked scripts.
  cases root with
  | acc => exact .inl rfl
  | prev => exact .inl rfl
  | operand _ below _ => exact absurd below (Nat.not_lt_zero _)
  | receiver active => cases active
  | sender active => cases active
  | code active => cases active
  | locals active => cases active
  | globals found => exact .inr ⟨_, found, rfl⟩
  | locked found used =>
    have unused := idle _ _ found
    omega

/-- Without global variables, an idle memory has nothing that can be reached. -/
theorem unreached_of_idle {entity : Address} (sound : heap.Sound)
    (idle : ∀ id script, heap.get? id = some (.script script) → script.lockers = 0)
    (noGlobals : heap.globalsSegment? = none) :
    ¬ heap.Reach { stackSegment := stack } entity := by
  intro reach
  induction reach with
  | root root leads =>
    rcases root.globals_of_idle idle with rfl | ⟨id, found, _⟩
    · -- Segment zero is empty, so a number leads nowhere.
      cases leads with
      | locals found _ => simp [Address.null, sound.zero_empty] at found
      | record found _ _ => simp [Address.null, sound.zero_empty] at found
      | whole found _ _ => simp [Address.null, sound.zero_empty] at found
    · rw [noGlobals] at found
      cases found
  | held _ _ _ unreached => exact unreached

/-- The script that has the global variables can be reached, whatever runs. -/
theorem reach_globals {id : SegmentId} (sound : heap.Sound)
    (globals : heap.globalsSegment? = some id) :
    ∃ place script, heap.get? place = some (.script script) ∧ heap.Reach context ⟨place, 0⟩ := by
  obtain ⟨script, seen, own⟩ := Option.bind_eq_some_iff.mp globals
  obtain ⟨place, placed, found⟩ := placed_of_scriptByNumber? seen
  split at own
  · cases own
  · rename_i withVariables
    rw [Option.some.injEq] at own
    -- The variables of a script lead to the script itself.
    obtain ⟨home, table, tableAt, named⟩ := sound.ownLocals place script found withVariables
    rw [own] at tableAt
    exact ⟨place, script, found, .root (.globals globals) (.locals tableAt (named ▸ home))⟩

end Heap

namespace Store

variable {resources : Resources} {version : Version}

/-- A memory without scripts has nothing on its books. -/
theorem scriptless_balanced {heap : Heap} (sound : heap.Sound) (format : heap.version = version)
    (species : ∀ species, heap.classes.script? species = resources.owner? species)
    (nobody : ∀ number, heap.scriptByNumber? number = none) :
    heap.Balanced resources version (fun _ => 0) (fun _ _ => False) fun _ => False := by
  refine ⟨sound, format, species, ?_⟩
  -- Each entry of the books is about a script in memory, or about a lock that somebody has.
  constructor <;> simp [nobody]

/--
Locking a script from a memory without scripts and dropping the lock again leaves no lock.

All scripts that came are marked and hold nobody.
-/
theorem unlock_settles (orderly : resources.Orderly version) {store between : Store}
    (sound : store.heap.Sound) (format : store.heap.version = version)
    (species : ∀ species, store.heap.classes.script? species = resources.owner? species)
    (nobody : ∀ id script, store.heap.get? id ≠ some (.script script)) {number : UInt16}
    {given : SegmentId}
    (locked : (instantiateScript resources number).run store = (.ok given, between)) :
    (between.release [number]).heap.Sound ∧
      ∀ id script, (between.release [number]).heap.get? id = some (.script script) →
        script.lockers = 0 ∧ script.markedDeleted = true ∧ script.holdsSuperclasses = false := by
  have unseen : ∀ number, store.heap.scriptByNumber? number = none := by
    intro number
    apply Heap.scriptByNumber?_of_nowhere
    intro place placed
    obtain ⟨script, found, _⟩ := sound.script_of_resident placed
    exact nobody place script found
  have balanced := scriptless_balanced sound format species unseen
  -- The lock that was given is owed to whoever asked, and to nobody after it was dropped.
  have locks := instantiateWithin_balanced orderly (segmentLimit + 1) number store _ _ _ balanced
  rw [Leads, show (instantiateWithin resources (segmentLimit + 1) number).run store =
    (.ok given, between) from locked] at locks
  obtain ⟨edges, _, lockedBalanced⟩ := locks
  obtain ⟨edges', released, _, _⟩ :=
    release_balanced between [number] (fun _ => False.elim) lockedBalanced
  have unheld := released.books.unheld orderly fun _ _ _ => rfl
  -- Whatever is in memory has taken turns, so it is locked or marked.
  have came := instantiateWithin_turned orderly (segmentLimit + 1) number store balanced.faithful
  rw [Leads, show (instantiateWithin resources (segmentLimit + 1) number).run store =
    (.ok given, between) from locked] at came
  have went : between.heap.Turned resources version (LedTo resources version number)
      (between.release [number]).heap := by
    apply release_turned (fun _ _ led step => .tail led step) between [number] ?_ came.faithful
    intro other member
    rw [List.mem_singleton.mp member]
  have turned := came.trans went
  refine ⟨released.sound, ?_⟩
  intro id script found
  -- Every script that is there is the one that its number names.
  have homed : ¬ (between.release [number]).heap.IsStray id script :=
    fun stray => nobody id script (turned.strays id script stray).1
  obtain ⟨other, seen⟩ := Heap.seen_of_not_stray found homed
  have free : script.lockers = 0 := by
    rw [released.books.lockers other script seen, ncard_holders_eq_zero.mpr fun holder =>
      unheld holder other]
  -- Nothing was in memory before, so each script came by a turn.
  have blank : IsClaimed (store.heap.scriptByNumber? other) := by simp [IsClaimed, unseen]
  have claimed := turned.turns.claimed blank script seen
  have idle : ¬ script.holdsSuperclasses = true := by
    rw [released.books.holds other script seen]
    omega
  exact ⟨free, claimed.resolve_left (by omega), by simpa using idle⟩

/--
Locking a script and dropping the lock again leaves every script to the collector.

Memory has no script at first. Afterwards every script in memory is unlocked and marked, and a
collection with no registers and no frames frees those that the global variables do not lead to:
all of them, if there are no global variables.
-/
theorem unlock_undoes_lock (orderly : resources.Orderly version) {store between : Store}
    (arises : store.Arises) (format : store.heap.version = version)
    (species : ∀ species, store.heap.classes.script? species = resources.owner? species)
    (nobody : ∀ id script, store.heap.get? id ≠ some (.script script)) {number : UInt16}
    {given : SegmentId}
    (locked : (instantiateScript resources number).run store = (.ok given, between))
    (stack : SegmentId) :
    let released := ((uninstantiateScript number).run between).2
    let collected := ((collect { stackSegment := stack }).run released).2
    (∀ id script, released.heap.get? id = some (.script script) →
      script.lockers = 0 ∧ script.markedDeleted = true ∧ script.holdsSuperclasses = false ∧
      (released.heap.Reach { stackSegment := stack } ⟨id, 0⟩ →
        collected.heap.get? id = some (.script script)) ∧
      (¬ released.heap.Reach { stackSegment := stack } ⟨id, 0⟩ →
        collected.heap.get? id = none)) ∧
    (∀ value, released.heap.Root { stackSegment := stack } value →
      value = .null ∨ ∃ id, released.heap.globalsSegment? = some id ∧ value = ⟨id, 0⟩) ∧
    (released.heap.globalsSegment? = none →
      ∀ id script, collected.heap.get? id ≠ some (.script script)) := by
  intro released collected
  have settled := unlock_settles orderly arises.sound format species nobody locked
  obtain ⟨sound, spent⟩ := settled
  have result : released.heap.Collected { stackSegment := stack } _ collected.heap :=
    Store.collected released sound { stackSegment := stack }
  have idle : ∀ id script, released.heap.get? id = some (.script script) → script.lockers = 0 :=
    fun id script found => (spent id script found).1
  -- A marked script with no lock stays only if something reaches it.
  have freed : ∀ id script, released.heap.get? id = some (.script script) →
      ¬ released.heap.Reach { stackSegment := stack } ⟨id, 0⟩ →
      collected.heap.get? id = none := by
    intro id script found unreached
    obtain ⟨free, marked, _⟩ := spent id script found
    exact (result.script_freed id script found (by simp [unreached, free, marked])).1
  refine ⟨?_, fun value root => root.globals_of_idle idle, ?_⟩
  · intro id script found
    obtain ⟨free, marked, holds⟩ := spent id script found
    exact ⟨free, marked, holds, fun reach => result.script_kept id script found (.inl reach),
      freed id script found⟩
  · intro noGlobals id script found
    -- A script that is there afterwards was there before, and nothing kept it.
    have kind : collected.heap.kind? id = some .script := by simp [Heap.kind?, found, Segment.kind]
    obtain ⟨earlier, before⟩ := result.script_before kind
    rw [freed id earlier before (Heap.unreached_of_idle sound idle noGlobals)] at found
    cases found

/-- A class and its instance are both gone after the instance was locked and let go. -/
theorem unlock_undoes_lock_instance :
    Resources.classAndInstance.Orderly .sci0 ∧
      ((uninstantiateScript 2).run instanceLocked).2.heap.residents.length = 2 ∧
      ∀ id script, ((collect { stackSegment := 0 }).run
        ((uninstantiateScript 2).run instanceLocked).2).2.heap.get? id ≠
          some (.script script) := by
  have given : ((instantiateScript Resources.classAndInstance 2).run
      (blank .sci0 (.ofScripts Resources.classAndInstance.classScripts) #[])).1.toOption =
        some 1 := by
    decide +kernel
  have locked : (instantiateScript Resources.classAndInstance 2).run
      (blank .sci0 (.ofScripts Resources.classAndInstance.classScripts) #[]) =
        (.ok 1, instanceLocked) :=
    StoreM.run_eq_of_toOption given
  -- The locks are gone, and there are no global variables to hold on to a script.
  have released : (((uninstantiateScript 2).run instanceLocked).2.heap.residents.length,
      ((uninstantiateScript 2).run instanceLocked).2.heap.globalsSegment?) = (2, none) := by
    cbv
  rw [Prod.mk.injEq] at released
  exact ⟨Resources.classAndInstance_orderly, released.1,
    (unlock_undoes_lock Resources.classAndInstance_orderly (.blank .sci0 _ #[]) rfl
      (fun _ => rfl) (by simp [get?_blank]) locked 0).2.2 released.2⟩

end Store

/-- Resources with one script, which declares one global variable and nothing else. -/
def Resources.oneGlobal : Resources :=
  { script? := fun number => if number = 0 then some #[1, 0] else none }

/-- A script that declares variables only has no objects. -/
theorem Resources.offers_oneGlobal {number : UInt16} {id : SegmentId} {script : Script}
    {locals : Array Address} (offers : oneGlobal.Offers .sci0 number id script locals) :
    script.objects = #[] := by
  obtain ⟨bytes, heap, journal, after, stored, heapStored, loaded⟩ := offers
  cases heapStored
  by_cases zero : number = 0
  · subst zero
    cases stored
    -- The number of objects does not depend on the segment, so the load can be run.
    have objects : ((Script.load .sci0 0 id #[1, 0] none).run journal).1.toOption.map
        (fun result => result.1.objects.size) = some script.objects.size := by
      rw [loaded]
      rfl
    exact Array.size_eq_zero_iff.mp (Option.some.inj (objects.symm.trans (by cbv)))
  · simp [oneGlobal, zero] at stored

/-- A script without objects needs nobody and defines no class. -/
theorem Resources.oneGlobal_orderly : oneGlobal.Orderly .sci0 := by
  -- Every condition is about an object of an offered script, and there is none.
  constructor
  · intro number id script locals offers object member
    simp [offers_oneGlobal offers] at member
  · intro number cycle
    obtain ⟨other, step, _⟩ := Relation.TransGen.head'_iff.mp cycle
    obtain ⟨id, script, locals, offers, _, object, member, _⟩ := step
    simp [offers_oneGlobal offers] at member

namespace Store

/-- The memory in which the script that declares the global variable was locked. -/
def globalLocked : Store :=
  ((instantiateScript .oneGlobal 0).run (blank .sci0 {} #[])).2

/-- The script that declares the global variables outlives its last lock and a collection. -/
theorem globals_outlive_unlock :
    ¬ ∀ (resources : Resources) (version : Version) (store between : Store) (number : UInt16)
      (given stack : SegmentId), resources.Orderly version → store.Arises →
      store.heap.version = version →
      (∀ species, store.heap.classes.script? species = resources.owner? species) →
      (∀ id script, store.heap.get? id ≠ some (.script script)) →
      (instantiateScript resources number).run store = (.ok given, between) →
      ∀ id script, ((collect { stackSegment := stack }).run
        ((uninstantiateScript number).run between).2).2.heap.get? id ≠ some (.script script) := by
  intro claim
  have locked : (instantiateScript .oneGlobal 0).run (blank .sci0 {} #[]) =
      (.ok 1, globalLocked) := by
    refine Prod.ext ?_ rfl
    cbv
  have arises : (blank .sci0 {} #[]).Arises := .blank .sci0 {} #[]
  have gone := claim .oneGlobal .sci0 _ globalLocked 0 1 0 Resources.oneGlobal_orderly arises rfl
    (fun _ => rfl) (by simp [get?_blank]) locked
  have settled := unlock_settles Resources.oneGlobal_orderly arises.sound rfl (fun _ => rfl)
    (by simp [get?_blank]) locked
  -- The script has the global variables, and so it can be reached.
  have globals : (globalLocked.release [0]).heap.globalsSegment? = some 2 := by
    cbv
  obtain ⟨place, script, found, reach⟩ := Heap.reach_globals settled.1 globals
  exact gone place script ((collected _ settled.1 { stackSegment := 0 }).script_kept place script
    found (.inl reach))

end Store

end AdventureVm
