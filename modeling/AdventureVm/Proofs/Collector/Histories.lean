import AdventureVm.Proofs.Collector.Exactness

/-! The memories that work on memory can lead to, and what a collection does to them. -/

namespace AdventureVm

/-- One thing that can be done to memory from outside. -/
inductive Action where
  /-- Puts a segment into memory. -/
  | insert (segment : Segment)
  /-- Takes a segment out of memory. -/
  | deallocate (id : SegmentId)
  | loadScript (resources : Resources) (number : UInt16)
  /-- Locks a script. -/
  | instantiate (resources : Resources) (number : UInt16)
  /-- Drops a lock on a script. -/
  | uninstantiate (number : UInt16)
  /-- Reads one more object record of a script. -/
  | readObject (id : SegmentId) (offset : UInt16)
  | createClone (origin : Address)
  | createList
  | createNode (value key : Address)
  | createHunk (size : Nat) (description : String)
  | createDynmem (size : Nat) (description : String)
  | freeRecord (kind : SegmentKind) (address : Address)
  | freeDynmem (address : Address)
  | freeAt (address : Address)
  | writeValue (address value : Address)
  | writeBytes (address : Address) (data : Bytes)
  | writeString (address : Address) (text : Bytes)
  | writeProperty (address : Address) (index : Nat) (value : Address)
  /-- Changes the contents of a segment in place. -/
  | alter (id : SegmentId) (change : Segment → Segment)
  /-- Changes the table of classes. -/
  | alterClasses (change : ClassTable → ClassTable)
  /-- Collects garbage. -/
  | collect (context : Context)

namespace Action

/-- The memory and the journal after an action, whether it succeeded or failed. -/
def run (action : Action) (store : Store) : Store :=
  match action with
  | insert segment => ((Store.insert segment).run store).2
  | deallocate id => ((Store.free id).run store).2
  | loadScript resources number => ((Store.loadScript resources number).run store).2
  | instantiate resources number => ((Store.instantiateScript resources number).run store).2
  | uninstantiate number => ((Store.uninstantiateScript number).run store).2
  | readObject id offset => ((Store.instantiateObject id offset).run store).2
  | createClone origin => ((Store.createClone origin).run store).2
  | createList => (Store.createList.run store).2
  | createNode value key => ((Store.createNode value key).run store).2
  | createHunk size description => ((Store.createHunk size description).run store).2
  | createDynmem size description => ((Store.createDynmem size description).run store).2
  | freeRecord kind address => ((Store.freeRecord kind address).run store).2
  | freeDynmem address => ((Store.freeDynmem address).run store).2
  | freeAt address => ((Store.freeAt address).run store).2
  | writeValue address value => ((Store.writeValue address value).run store).2
  | writeBytes address data => ((StoreM.attempt (·.writeBytes address data)).run store).2
  | writeString address text => ((StoreM.attempt (·.writeString address text)).run store).2
  | writeProperty address index value =>
    ((StoreM.attempt (·.writeProperty address index value)).run store).2
  | alter id change => store.mapHeap (·.modify id change)
  | alterClasses change =>
    store.mapHeap fun heap => { heap with classes := change heap.classes }
  | collect context => ((Store.collect context).run store).2

/--
What an action from outside can be.

A script that is put into memory claims no variables. It gets them when it is loaded, and a copy of
it would claim those that are the original's already. The variables of a script are never taken out
directly. Changing a segment in place leaves its kind, the number, the segment and the variables of
a script, and the script that variables belong to. No pool has more slots than an offset can name.
-/
def Fits (action : Action) (heap : Heap) : Prop :=
  match action with
  | insert segment => segment.IsLoose
  | deallocate id => heap.kind? id ≠ some .locals
  | alter id change => ∀ segment, heap.get? id = some segment → segment.Akin (change segment)
  | _ => True

/-- An action from outside keeps memory sound. -/
theorem run_sound {action : Action} {store : Store} (sound : store.heap.Sound)
    (fits : action.Fits store.heap) : (action.run store).heap.Sound := by
  -- Each action has its own reason, which the lemma about its work gives.
  cases action with
  | insert segment => exact Store.insert_keeps fits store sound
  | deallocate id => exact Store.free_keeps sound fits
  | loadScript resources number => exact Store.loadScript_keeps resources number store sound
  | instantiate resources number => exact Store.instantiateScript_keeps resources number store sound
  | uninstantiate number => exact (Store.release_extends store [number] sound).sound
  | readObject id offset => exact Store.instantiateObject_keeps id offset store sound
  | createClone origin => exact Store.createClone_keeps origin store sound
  | createList => exact Store.create_keeps RecordKind.lists_lawful _ store sound
  | createNode value key => exact Store.create_keeps RecordKind.nodes_lawful _ store sound
  | createHunk size description => exact Store.create_keeps RecordKind.hunks_lawful _ store sound
  | createDynmem size description => exact Store.createDynmem_keeps size description store sound
  | freeRecord kind address => exact Store.freeRecord_keeps kind address store sound
  | freeDynmem address => exact Store.freeDynmem_keeps address store sound
  | freeAt address => exact Store.freeAt_keeps address store sound
  | writeValue address value => exact Store.writeValue_keeps address value store sound
  | writeBytes address data =>
    exact StoreM.attempt_keeps (fun sound done => sound.writeBytes done) store sound
  | writeString address text =>
    exact StoreM.attempt_keeps (fun sound done => sound.writeBytes done) store sound
  | writeProperty address index value =>
    exact StoreM.attempt_keeps (fun sound done => sound.writeProperty done) store sound
  | alter id change => exact sound.modify fits
  | alterClasses change => exact sound.of_same rfl rfl
  | collect context =>
    -- A collection is a sweep, which leads from one sound memory to another.
    obtain ⟨started, after, _, run, swept⟩ := Store.run_collect store sound context
    show ((Store.collect context).run store).2.heap.Sound
    rw [run]
    exact swept.sound

end Action

/-- Resources with one script, which declares one variable and nothing else. -/
def Resources.oneVariable : Resources :=
  { script? := fun number => if number = 1 then some #[1, 0] else none }

/-- The segment, where a script is marked for the collector. -/
def Segment.marked : Segment → Segment
  | .script contents => .script (contents.mark true)
  | segment => segment

namespace Store

/-- A memory in which nothing has been put yet. -/
def blank (version : Version) (classes : ClassTable) (journal : Journal) : Store :=
  { heap := { version, classes }, journal }

/-- A memory that actions from outside have led to. -/
inductive Arises : Store → Prop where
  | blank (version : Version) (classes : ClassTable) (journal : Journal) :
      Arises (blank version classes journal)
  | step {store : Store} {action : Action} (arises : Arises store)
      (fits : action.Fits store.heap) : Arises (action.run store)

/-- There is nothing in an empty memory. -/
theorem get?_blank (version : Version) (classes : ClassTable) (journal : Journal)
    (id : SegmentId) : (blank version classes journal).heap.get? id = none := by
  -- Place zero is empty, and there is no other place.
  simp only [blank, Heap.get?]
  cases id.toNat with
  | zero => rfl
  | succ place => simp

/-- Nothing is wrong with an empty memory. -/
theorem blank_sound (version : Version) (classes : ClassTable) (journal : Journal) :
    (blank version classes journal).heap.Sound := by
  -- There is nothing anywhere that a table could be wrong about.
  have empty := get?_blank version classes journal
  refine ⟨by simp [blank], empty 0, by simp [blank, segmentLimit], by simp [blank], ?_, ?_, ?_⟩
  · intro number id member
    simp [blank] at member
  · intro id script found
    simp [empty] at found
  · intro id segment found
    simp [empty] at found

/-- Every memory that arises is sound. -/
theorem Arises.sound {store : Store} (arises : store.Arises) : store.heap.Sound := by
  -- Soundness holds at the start, and every action keeps it.
  induction arises with
  | blank version classes journal => exact blank_sound version classes journal
  | step _ fits sound => exact Action.run_sound sound fits

/--
A collection frees exactly what may be freed and cannot be reached, and counts it by kind.

Records stay exactly when they can be reached. Scripts stay also when they are locked or not marked,
and take their variables with them when they go. Whatever stays is as it was.
-/
theorem collect_exact {store : Store} (arises : store.Arises) (context : Context) :
    store.heap.Collected context ((collect context).run store).1
      ((collect context).run store).2.heap :=
  -- Memories that arise are sound, and that is all the collector relies on.
  collected store arises.sound context

/-- A memory in which two lists were made, one after the other. -/
def twoLists : Store :=
  Action.createList.run (Action.createList.run (blank .sci0 {} #[]))

/-- Two lists, of which the accumulator refers to the second, are collected as the rule says. -/
theorem collect_exact_twoLists :
    twoLists.Arises ∧ twoLists.heap.recordAt? ⟨1, 0⟩ = some (.list {}) ∧
      twoLists.heap.Collected { stackSegment := 0, acc := ⟨1, 1⟩ }
        ((collect { stackSegment := 0, acc := ⟨1, 1⟩ }).run twoLists).1
        ((collect { stackSegment := 0, acc := ⟨1, 1⟩ }).run twoLists).2.heap := by
  -- Two lists are made one after the other in an empty memory.
  have arises : twoLists.Arises := .step (.step (.blank .sci0 {} #[]) trivial) trivial
  exact ⟨arises, by decide +kernel, collect_exact arises _⟩

/--
A memory that actions from outside have led to, none of which took variables out directly.

The actions may put any segment into memory, and change any in place to any other.
-/
inductive Occurs : Store → Prop where
  | blank (version : Version) (classes : ClassTable) (journal : Journal) :
      Occurs (blank version classes journal)
  | step {store : Store} {action : Action} (occurs : Occurs store)
      (spares : ∀ id, action = .deallocate id → store.heap.kind? id ≠ some .locals) :
      Occurs (action.run store)

/-- A memory with a script that nobody uses any more, and a copy that was put in beside it. -/
def copiedScript : Store :=
  let unused := (Action.alter 1 Segment.marked).run
    ((Action.loadScript .oneVariable 1).run (blank .sci0 {} #[]))
  (Action.insert ((unused.heap.get? 1).getD (.script (.empty 1)))).run unused

/--
A collection that frees a script and a copy of it counts only one of them.

The one that is freed first takes the variables along that the other one claims as well.
-/
theorem copied_script_miscounted :
    ¬ ∀ (store : Store) (context : Context), store.Occurs →
      store.heap.Collected context ((collect context).run store).1
        ((collect context).run store).2.heap := by
  intro claim
  have occurs : copiedScript.Occurs := by
    unfold copiedScript
    refine .step (.step (.step (.blank .sci0 {} #[]) ?_) ?_) ?_
    all_goals simp
  have counted := (claim copiedScript { stackSegment := 0 } occurs).scripts
  -- Nothing can be reached, and both scripts may be freed.
  have rootless : copiedScript.heap.roots { stackSegment := 0 } = [] := by decide +kernel
  have garbage : copiedScript.heap.garbage { stackSegment := 0 } = [⟨1, 0⟩, ⟨3, 0⟩] := by
    rw [Heap.garbage_of_rootless rootless]
    decide +kernel
  have one : ((collect { stackSegment := 0 }).run copiedScript).1.scripts = 1 := by
    rw [run_collect_eq, garbage]
    decide +kernel
  have lost : ({1, 3} : Set SegmentId) ⊆ copiedScript.heap.lostScripts
      ((collect { stackSegment := 0 }).run copiedScript).2.heap := by
    rw [run_collect_eq, garbage]
    rintro id (rfl | rfl)
    · exact ⟨by decide +kernel, by decide +kernel⟩
    · exact ⟨by decide +kernel, by decide +kernel⟩
  rw [one] at counted
  have two := Set.ncard_le_ncard lost (Set.finite_of_ncard_ne_zero (by omega))
  rw [Set.ncard_pair (by decide)] at two
  omega

end Store

end AdventureVm
