import AdventureVm.Proofs.Collector.Histories
import AdventureVm.Proofs.Memory.Operations

/-!
What memory keeps, whatever is done to it.

A property that is kept by every step of work, and when a script or another segment leaves, is kept
by every action that does not reach into a segment or the table of classes.
-/

namespace AdventureVm

/-- A property of sound memories that is kept by steps of work and by segments that leave. -/
structure Heap.Endures (property : Heap → Prop) : Prop where
  /-- Such a memory is sound. -/
  sound : ∀ {heap}, property heap → heap.Sound
  /-- The property is kept while memory develops. -/
  develops : ∀ {before after}, property before → before.Develops after → property after
  /-- The property is kept when a script leaves. -/
  departed : ∀ {before after id script}, property before →
    before.get? id = some (.script script) → Store.Departed before id script after → property after
  /-- The property is kept when a segment leaves that is neither a script nor variables. -/
  vacated : ∀ {before id segment}, property before → before.get? id = some segment →
    ¬ segment.IsLasting → property { before.put id none with
      pools := Store.poolsWithout before.pools segment.kind id }

namespace Action

/-- What is done to memory that does not lead it from step to step of work. -/
inductive IsDrastic : Action → Prop where
  | insert (segment : Segment) : IsDrastic (.insert segment)
  | deallocate (id : SegmentId) : IsDrastic (.deallocate id)
  | freeAt (address : Address) : IsDrastic (.freeAt address)
  | alter (id : SegmentId) (change : Segment → Segment) : IsDrastic (.alter id change)
  | alterClasses (change : ClassTable → ClassTable) : IsDrastic (.alterClasses change)
  | collect (context : Context) : IsDrastic (.collect context)

/-- The other actions lead memory from step to step. -/
theorem develops_or_drastic (action : Action) {store : Store}
    (opened : 0 < store.heap.segments.size) :
    store.heap.Develops (action.run store).heap ∨ action.IsDrastic := by
  have advance : ∀ {α : Type} {work : StoreM α}, work.Advances →
      store.heap.Develops (work.run store).2.heap ∨ action.IsDrastic :=
    fun advances => .inl (advances store opened)
  -- What the machine does by itself advances; the others do what they are told.
  cases action with
  | insert segment => exact .inr (.insert segment)
  | deallocate id => exact .inr (.deallocate id)
  | loadScript resources number => exact advance (Store.loadScript_advances resources number)
  | instantiate resources number =>
    exact advance (Store.instantiateScript_advances resources number)
  | uninstantiate number => exact advance (Store.uninstantiateScript_advances number)
  | readObject id offset => exact advance (Store.instantiateObject_advances id offset)
  | createClone origin => exact advance (Store.createClone_advances origin)
  | createList => exact advance (Store.create_advances RecordKind.lists_lawful _)
  | createNode value key => exact advance (Store.create_advances RecordKind.nodes_lawful _)
  | createHunk size description =>
    exact advance (Store.create_advances RecordKind.hunks_lawful _)
  | createDynmem size description => exact advance (Store.createDynmem_advances size description)
  | freeRecord kind address => exact advance (Store.freeRecord_advances kind address)
  | freeDynmem address => exact advance (Store.freeDynmem_advances address)
  | freeAt address => exact .inr (.freeAt address)
  | writeValue address value => exact advance (Store.writeValue_advances address value)
  | writeBytes address data =>
    exact advance (StoreM.advances_attempt fun _ _ done => Heap.Develops.refl.writeBytes done)
  | writeString address text =>
    exact advance (StoreM.advances_attempt fun _ _ done => Heap.Develops.refl.writeBytes done)
  | writeProperty address index value =>
    exact advance (StoreM.advances_attempt fun _ _ done => Heap.Develops.refl.writeProperty done)
  | alter id change => exact .inr (.alter id change)
  | alterClasses change => exact .inr (.alterClasses change)
  | collect context => exact .inr (.collect context)

end Action

namespace Store

open Heap

/--
Freeing what is at an address comes to what taking out a script comes to, and to whatever memory
comes to while it develops.
-/
theorem freeAt_comesTo {goal : Heap → Prop} {address : Address} {store : Store}
    (opened : 0 < store.heap.segments.size)
    (script : store.heap.kind? address.segment = some .script →
      Leads (free address.segment) store fun _ after => goal after.heap)
    (develops : ∀ {after : Heap}, store.heap.Develops after → goal after) :
    Leads (freeAt address) store fun _ after => goal after.heap := by
  -- A record is given up in its pool; where there is nothing to free, nothing happens.
  refine leads_freeAt script ?_ fun _ => develops .refl
  intro kind
  exact (freeRecord_advances kind address store opened).mono fun _ _ developed =>
    develops developed

/-- Sweeping one thing does to memory what freeing it does. -/
theorem heap_sweepOne (store : Store) (collection : Collection) (address : Address) :
    ((sweepOne collection address).run store).2.heap = ((freeAt address).run store).2.heap := by
  rcases ended : (freeAt address).run store with ⟨outcome, after⟩
  have ran : StateT.run (ExceptT.run (freeAt address)) store = (outcome, after) := ended
  simp only [sweepOne, StateT.run_bind, StateT.run_get, pure_bind, ran]
  -- A failure adds a record, and a success is counted.
  cases outcome <;> rfl

/-- A collection keeps whatever freeing each thing keeps. -/
theorem collect_keeps {property : Heap → Prop}
    (each : ∀ address, (freeAt address).Keeps property) (context : Context) {store : Store}
    (before : property store.heap) : property ((collect context).run store).2.heap := by
  -- Sweeping frees one thing after the other; memory and count change with each.
  have swept : ∀ (garbage : List Address) (collection : Collection) (store : Store),
      property store.heap →
        property ((garbage.foldlM sweepOne collection).run store).2.heap := by
    intro garbage
    induction garbage with
    | nil => exact fun _ _ before => before
    | cons address rest ih =>
      intro collection store before
      rw [List.foldlM_cons, StateT.run_bind]
      apply ih
      rw [heap_sweepOne]
      exact each address store before
  -- Marking changes no memory.
  exact swept _ _ _ before

end Store

namespace Heap.Endures

open Heap

variable {property : Heap → Prop}

/-- What endures is kept by taking out a segment, unless it is a table of variables. -/
theorem free (endures : Endures property) {id : SegmentId} {store : Store}
    (before : property store.heap) (foreign : store.heap.kind? id ≠ some .locals) :
    Leads (Store.free id) store fun _ after => property after.heap := by
  cases found : store.heap.get? id with
  | none =>
    simp only [Leads, Store.free, ExceptT.run, Store.deallocate_none found]
    exact before
  | some segment =>
    by_cases script : ∃ contents, segment = .script contents
    · -- A script leaves together with its variables.
      obtain ⟨contents, rfl⟩ := script
      obtain ⟨after, ended, departed⟩ := Store.deallocate_script (endures.sound before) found
      simp only [Leads, Store.free, ExceptT.run, ended]
      exact endures.departed before found departed
    · -- A segment that is neither a script nor variables leaves alone.
      have passing : ¬ segment.IsLasting := by
        rintro (isScript | isLocals)
        · cases segment with
          | script contents => exact script ⟨contents, rfl⟩
          | _ => simp [Segment.kind] at isScript
        · exact foreign (by rw [kind?, found, Option.map_some, isLocals])
      obtain ⟨after, ended, left⟩ :=
        Store.deallocate_other found fun isScript => passing (.inl isScript)
      simp only [Leads, Store.free, ExceptT.run, ended]
      rw [left]
      exact endures.vacated before found passing

/-- What endures is kept by freeing a record or a script. -/
theorem freeAt (endures : Endures property) (address : Address) :
    (Store.freeAt address).Keeps property := by
  intro store before
  -- A script is no table of variables, so it may leave.
  exact Store.freeAt_comesTo (endures.sound before).opened
    (fun kind => endures.free before (by simp [kind])) (endures.develops before)

/--
What endures is kept by an action if it is kept where the action puts in a segment, changes one in
place or changes the table of classes.
-/
theorem run (endures : Endures property) {action : Action} {store : Store}
    (before : property store.heap)
    (foreign : ∀ id, action = .deallocate id → store.heap.kind? id ≠ some .locals)
    (inserted : ∀ segment, action = .insert segment → property (action.run store).heap)
    (altered : ∀ id change, action = .alter id change → property (action.run store).heap)
    (classes : ∀ change, action = .alterClasses change → property (action.run store).heap) :
    property (action.run store).heap := by
  -- Most actions develop memory; those that do not are gone through one by one.
  rcases action.develops_or_drastic (endures.sound before).opened with develops | drastic
  · exact endures.develops before develops
  · cases drastic with
    | insert segment => exact inserted segment rfl
    | deallocate id => exact endures.free before (foreign id rfl)
    | freeAt address => exact endures.freeAt address store before
    | alter id change => exact altered id change rfl
    | alterClasses change => exact classes change rfl
    | collect context => exact Store.collect_keeps endures.freeAt context before

end Heap.Endures

end AdventureVm
