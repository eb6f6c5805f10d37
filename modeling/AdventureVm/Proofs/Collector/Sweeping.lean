import AdventureVm.Collector.Sweep
import AdventureVm.Proofs.Collector.Entities
import AdventureVm.Proofs.Memory.Classes

/-! Sweeping frees each of the listed things once, and nothing else. -/

namespace AdventureVm

namespace Heap

/-- A place that one of the freed scripts takes with it: its own or that of its variables. -/
def Leaves (before : Heap) (freed : List Address) (place : SegmentId) : Prop :=
  ∃ id script, Address.mk id 0 ∈ freed ∧ before.get? id = some (.script script) ∧
    Store.leavesWith id script place

/-- What memory is like when some of the things that may be freed have been. -/
structure Swept (before : Heap) (freed : List Address) (after : Heap) : Prop where
  /-- The tables still agree with the segments. -/
  sound : after.Sound
  /-- Freed records are gone, and the others are as they were. -/
  entries : ∀ address,
    after.recordAt? address = if address ∈ freed then none else before.recordAt? address
  /-- Pools stay, even when they are empty. -/
  pools : ∀ id segment, before.get? id = some segment → segment.kind.isPool = true →
    after.kind? id = some segment.kind
  /-- What a freed script takes with it is gone. -/
  gone : ∀ id, before.Leaves freed id → after.get? id = none
  /-- Any other place that is no pool is as it was. -/
  others : ∀ id, ¬ before.Leaves freed id →
    (∀ segment, before.get? id = some segment → segment.kind.isPool = false) →
    after.get? id = before.get? id
  /-- Freed scripts are no longer resident. -/
  residents : ∀ entry, entry ∈ after.residents ↔
    entry ∈ before.residents ∧ Address.mk entry.2 0 ∉ freed
  /-- It stays known which script defines which species. -/
  species : ∀ species, after.classes.script? species = before.classes.script? species
  /-- The format does not change. -/
  version : after.version = before.version

variable {before after : Heap} {freed : List Address} {address : Address}

/-- As long as nothing is freed, memory is as it was. -/
theorem Swept.start (sound : before.Sound) : before.Swept [] before := by
  -- No script is among what is freed, so no place leaves.
  have stay : ∀ place, ¬ before.Leaves [] place := by
    intro place given
    obtain ⟨_, _, member, _⟩ := given
    simp at member
  refine ⟨sound, by simp, ?_, fun place leaves => absurd leaves (stay place), fun _ _ _ => rfl,
    by simp, fun _ => rfl, rfl⟩
  intro id segment found _
  simp [kind?, found]

/-- In which order things were freed does not matter. -/
theorem Swept.of_same (swept : before.Swept freed after) {listed : List Address}
    (same : ∀ address, address ∈ freed ↔ address ∈ listed) : before.Swept listed after := by
  -- All that the list of freed things is asked for is what is on it.
  have leaves : ∀ {place}, before.Leaves listed place ↔ before.Leaves freed place := by
    simp only [Leaves, same, implies_true]
  refine ⟨swept.sound, ?_, swept.pools, fun id left => swept.gone id (leaves.mp left),
    fun id stays => swept.others id fun left => stays (leaves.mpr left), ?_, swept.species,
    swept.version⟩
  · intro address
    simp only [swept.entries, same]
  · intro entry
    simp only [swept.residents, same]

/-- The places that a script takes with it hold a script or variables. -/
theorem Leaves.kind (sound : before.Sound) {place : SegmentId}
    (leaves : before.Leaves freed place) :
    ∃ segment, before.get? place = some segment ∧ segment.kind.isPool = false := by
  -- What leaves is the script itself or the variables that it owns.
  rcases leaves with ⟨id, script, _, found, rfl | ⟨withVariables, rfl⟩⟩
  · exact ⟨_, found, rfl⟩
  · obtain ⟨_, table, tableAt, _⟩ := sound.ownLocals id script found withVariables
    exact ⟨_, tableAt, rfl⟩

/-- Freeing one thing more makes the places leave that it takes with it, if it is a script. -/
theorem leaves_cons {place : SegmentId} :
    before.Leaves (address :: freed) place ↔ before.Leaves freed place ∨
      address.offset = 0 ∧ ∃ script, before.get? address.segment = some (.script script) ∧
        Store.leavesWith address.segment script place := by
  constructor
  · intro given
    obtain ⟨id, script, member, found, leaves⟩ := given
    -- What leaves does so with the thing just freed, or with one freed before.
    rcases List.mem_cons.mp member with rfl | earlier
    · exact .inr ⟨rfl, script, found, leaves⟩
    · exact .inl ⟨id, script, earlier, found, leaves⟩
  · intro either
    rcases either with ⟨id, script, member, found, leaves⟩ | ⟨first, script, found, leaves⟩
    · exact ⟨id, script, List.mem_cons_of_mem _ member, found, leaves⟩
    · obtain ⟨id, offset⟩ := address
      simp only at first found leaves
      subst first
      exact ⟨id, script, List.mem_cons_self, found, leaves⟩

/-- Freeing a record makes no more places leave, because it is in a pool. -/
theorem leaves_cons_record {place : SegmentId} {segment : Segment}
    (found : before.get? address.segment = some segment) (pool : segment.kind.isPool = true) :
    before.Leaves (address :: freed) place ↔ before.Leaves freed place := by
  -- Only where a script is freed does a place leave.
  rw [leaves_cons, or_iff_left]
  rintro ⟨_, script, scriptAt, _⟩
  rw [found, Option.some.injEq] at scriptAt
  simp [scriptAt, Segment.kind, SegmentKind.isPool] at pool

/-- Freeing a script makes its own place leave, and that of its variables. -/
theorem leaves_cons_script {place id : SegmentId} {script : Script}
    (found : before.get? id = some (.script script)) :
    before.Leaves (⟨id, 0⟩ :: freed) place ↔
      before.Leaves freed place ∨ Store.leavesWith id script place := by
  -- The script is found before the sweep, so it is the one that leaves.
  rw [leaves_cons]
  apply or_congr_right
  constructor
  · rintro ⟨_, other, otherAt, leaves⟩
    rw [found, Option.some.injEq, Segment.script.injEq] at otherAt
    rw [otherAt]
    exact leaves
  · intro leaves
    exact ⟨rfl, script, found, leaves⟩

/-- No record is in a place that leaves. -/
theorem Leaves.recordAt?_eq_none (sound : before.Sound)
    (leaves : before.Leaves freed address.segment) : before.recordAt? address = none := by
  -- Records are in pools, and no pool leaves.
  obtain ⟨segment, segmentAt, kind⟩ := leaves.kind sound
  rw [← Option.not_isSome_iff_eq_none, isSome_recordAt?]
  rintro ⟨other, otherAt, pool, _⟩
  rw [segmentAt, Option.some.injEq] at otherAt
  rw [← otherAt, kind] at pool
  simp at pool

/-- Freeing a slot makes the record at its address go, and no other. -/
theorem recordAt?_modify_release (heap : Heap) (address other : Address) :
    (heap.modify address.segment (·.release address.offset.toNat)).recordAt? other =
      if other = address then none else heap.recordAt? other :=
  heap.recordAt?_modify address other (fun _ => none) rfl fun segment index =>
    segment.recordAt?_release address.offset.toNat index

/-- Freeing a record makes that record go. -/
theorem Swept.record (sound : before.Sound) (swept : before.Swept freed after) {segment : Segment}
    (found : before.get? address.segment = some segment) (pool : segment.kind.isPool = true) :
    before.Swept (address :: freed)
      (after.modify address.segment (·.release address.offset.toNat)) := by
  -- What is no pool is in another segment.
  have elsewhere : ∀ {place}, (∀ segment, before.get? place = some segment →
      segment.kind.isPool = false) → place ≠ address.segment := by
    intro place noPool equal
    subst equal
    simp [noPool segment found] at pool
  constructor
  case sound => exact swept.sound.modify fun segment _ => segment.akin_release _
  case entries =>
    intro other
    rw [recordAt?_modify_release, swept.entries]
    simp only [List.mem_cons]
    by_cases here : other = address <;> simp [here]
  case pools =>
    intro id contents contentsAt contentsPool
    have kind := swept.pools id contents contentsAt contentsPool
    simp only [kind?, get?_modify] at kind ⊢
    split
    · -- The pool that the record is taken from is still a pool of its kind.
      rename_i here
      subst here
      rw [Option.map_map, ← kind]
      congr 1
      funext segment
      exact (segment.akin_release _).kind_eq
    · exact kind
  case gone =>
    intro id leaves
    have left := (leaves_cons_record found pool).mp leaves
    obtain ⟨contents, contentsAt, noPool⟩ := left.kind sound
    -- A place that leaves is no pool, so the record was not taken from there.
    have apart : id ≠ address.segment := by
      apply elsewhere
      intro other otherAt
      rw [contentsAt, Option.some.injEq] at otherAt
      rw [← otherAt]
      exact noPool
    rw [get?_modify, if_neg apart]
    exact swept.gone id left
  case others =>
    intro id remains noPool
    rw [get?_modify, if_neg (elsewhere noPool)]
    exact swept.others id (fun leaves => remains ((leaves_cons_record found pool).mpr leaves))
      noPool
  case residents =>
    intro entry
    refine (swept.residents entry).trans (and_congr_right fun member => ?_)
    -- A resident script is not in a pool, so it is not what was freed.
    obtain ⟨script, scriptAt, _⟩ := sound.resident entry.1 entry.2 member
    have different : Address.mk entry.2 0 ≠ address := by
      intro equal
      subst equal
      rw [found, Option.some.injEq] at scriptAt
      simp [scriptAt, Segment.kind, SegmentKind.isPool] at pool
    simp [different]
  case species => exact swept.species
  case version => exact swept.version

/-- Freeing a script makes it and its variables go. -/
theorem Swept.script {between : Heap} (sound : before.Sound) (swept : before.Swept freed between)
    {id : SegmentId} {script : Script} (found : before.get? id = some (.script script))
    (departed : Store.Departed between id script after) :
    before.Swept (⟨id, 0⟩ :: freed) after := by
  -- The script takes its own place with it, and that of its variables.
  have goes {place : SegmentId} (leaves : Store.leavesWith id script place) :
      before.Leaves (⟨id, 0⟩ :: freed) place :=
    (leaves_cons_script found).mpr (.inr leaves)
  constructor
  case sound => exact departed.sound
  case entries =>
    intro address
    have left : after.recordAt? address =
        if Store.leavesWith id script address.segment then none else between.recordAt? address := by
      simp only [recordAt?, departed.places]
      split <;> rfl
    rw [left, swept.entries]
    split
    · -- No record is in a place that leaves, so all records stay as they were.
      rename_i leaves
      simp [(goes leaves).recordAt?_eq_none sound]
    · rename_i stays
      have different : address ≠ ⟨id, 0⟩ := by
        intro equal
        subst equal
        exact stays (.inl rfl)
      simp [different]
  case pools =>
    intro place segment segmentAt pool
    have kind := swept.pools place segment segmentAt pool
    -- A pool does not leave with a script.
    have stays : ¬ Store.leavesWith id script place := by
      intro leaves
      obtain ⟨other, otherAt, otherKind⟩ := (goes leaves).kind sound
      rw [segmentAt, Option.some.injEq] at otherAt
      simp [otherAt, otherKind] at pool
    simpa [kind?, departed.places, stays] using kind
  case gone =>
    intro place leaves
    rw [departed.places]
    split
    · rfl
    · rename_i stays
      exact swept.gone place (((leaves_cons_script found).mp leaves).resolve_right stays)
  case others =>
    intro place remains kinds
    rw [leaves_cons_script found, not_or] at remains
    rw [departed.places, if_neg remains.2]
    exact swept.others place remains.1 kinds
  case residents =>
    intro entry
    rw [departed.residents, swept.residents, List.mem_cons, not_or, and_assoc]
    refine and_congr_right fun _ => ?_
    rw [and_comm]
    simp
  case species =>
    -- A class that is forgotten leaves the number of its script behind.
    intro species
    rw [departed.classes, ClassTable.script?_forget]
    exact swept.species species
  case version => exact departed.version.trans swept.version

/-- A script that was not freed, and no variables, is where it was. -/
theorem Swept.script_kept (sound : before.Sound) (swept : before.Swept freed after)
    {id : SegmentId} {script : Script} (found : before.get? id = some (.script script))
    (fresh : Address.mk id 0 ∉ freed) : after.get? id = some (.script script) := by
  -- The sweep leaves alone what is no pool and does not go with a freed script.
  rw [swept.others id ?_ ?_, found]
  · intro given
    obtain ⟨place, other, member, otherAt, rfl | ⟨withVariables, rfl⟩⟩ := given
    · exact fresh member
    · -- Its place is not that of another script's variables.
      obtain ⟨_, table, tableAt, _⟩ := sound.ownLocals place other otherAt withVariables
      rw [found] at tableAt
      simp at tableAt
  · intro segment segmentAt
    rw [found, Option.some.injEq] at segmentAt
    rw [← segmentAt]
    rfl

end Heap

namespace Store

open Heap

variable {before : Heap} {freed : List Address} {address : Address} {store : Store}

/-- Something that may be freed and has not been is freed without a failure. -/
theorem freeAt_candidate (sound : before.Sound) (swept : before.Swept freed store.heap)
    (candidate : address ∈ before.deallocatable) (fresh : address ∉ freed) :
    store.heap.kind? address.segment = before.kind? address.segment ∧
      Leads (freeAt address) store (Either
        (fun _ after => before.Swept (address :: freed) after.heap)
        fun _ _ => False) := by
  rcases (mem_deallocatable sound).mp candidate with record | ⟨first, script, found, spent⟩
  · -- The record is still there, because only others have been freed.
    obtain ⟨segment, found, pool, _⟩ := isSome_recordAt?.mp record
    have kind := swept.pools _ _ found pool
    refine ⟨by rw [kind, Heap.kind?, found]; rfl, ?_⟩
    have there : (store.heap.recordAt? address).isSome = true := by
      rw [swept.entries, if_neg fresh]
      exact record
    obtain ⟨now, foundNow, _, valid⟩ := isSome_recordAt?.mp there
    simp only [freeAt, leads_bind, StoreM.leads_read, either_ok, kind]
    have noScript : segment.kind ≠ .script := by
      intro same
      simp [same, SegmentKind.isPool] at pool
    -- Freeing goes by the kind of the segment, and here it is a pool.
    split
    · rename_i same
      exact absurd (Option.some.inj same) noScript
    · rename_i other _ same
      rw [Option.some.injEq] at same
      subst same
      simp only [pool, if_true, freeRecord, leads_bind, StoreM.leads_read, either_ok, kind,
        beq_self_eq_true, Bool.true_and, isValidAddress, foundNow, Option.any_some, valid,
        StoreM.leads_change]
      exact swept.record sound found pool
    · rename_i none_
      simp at none_
  · -- The script is still there, and so are its variables.
    obtain ⟨id, offset⟩ := address
    simp only at first found
    subst first
    have foundNow := swept.script_kept sound found fresh
    refine ⟨by simp [Heap.kind?, found, foundNow], ?_⟩
    obtain ⟨after, ended, departed⟩ := deallocate_script swept.sound foundNow
    have kind : store.heap.kind? id = some .script := by simp [Heap.kind?, foundNow, Segment.kind]
    simp only [freeAt, leads_bind, StoreM.leads_read, either_ok, kind]
    simp only [Leads, free, ExceptT.run, ended]
    exact swept.script sound found departed

/-- Sweeping counts what was freed by its kind. -/
theorem run_sweepOne {collection : Collection} {after : Store}
    (freed : (freeAt address).run store = (.ok (), after)) :
    (sweepOne collection address).run store =
      (collection.count ((store.heap.kind? address.segment).getD .script), after) := by
  -- The kind is read before anything is freed.
  have ended : StateT.run (ExceptT.run (freeAt address)) store = (.ok (), after) := freed
  simp only [sweepOne, StateT.run_bind, StateT.run_get, pure_bind, ended]
  rfl

/-- Sweeping a list of things that may be freed frees and counts each of them. -/
theorem run_sweep (sound : before.Sound) (garbage : List Address) (distinct : garbage.Nodup)
    (candidates : ∀ address ∈ garbage, address ∈ before.deallocatable)
    (fresh : ∀ address ∈ garbage, address ∉ freed) (swept : before.Swept freed store.heap)
    (collection : Collection) :
    ∃ after, (garbage.foldlM sweepOne collection).run store =
        (garbage.foldl (fun collection address =>
          collection.count ((before.kind? address.segment).getD .script)) collection, after) ∧
      before.Swept (garbage.reverse ++ freed) after.heap := by
  -- What is freed grows from step to step, so it stays quantified over.
  induction garbage generalizing freed store collection with
  | nil => exact ⟨store, rfl, swept⟩
  | cons address rest ih =>
    rw [List.nodup_cons] at distinct
    rcases freeAt_candidate sound swept (candidates address List.mem_cons_self)
      (fresh address List.mem_cons_self) with ⟨kind, leads⟩
    rcases ended : (freeAt address).run store with ⟨outcome, between⟩
    rw [Leads, ended] at leads
    -- What may be freed is freed without a failure.
    cases outcome with
    | error fault => exact leads.elim
    | ok value =>
      -- What was not freed before, and is not freed now, is still to be freed.
      have later : ∀ other ∈ rest, other ∉ address :: freed := by
        intro other member
        rw [List.mem_cons, not_or]
        refine ⟨?_, fresh other (List.mem_cons_of_mem _ member)⟩
        intro equal
        subst equal
        exact distinct.1 member
      rcases ih distinct.2 (fun other member => candidates other (List.mem_cons_of_mem _ member))
        later leads (collection.count ((before.kind? address.segment).getD .script)) with
        ⟨after, run, final⟩
      refine ⟨after, ?_, ?_⟩
      · rw [List.foldlM_cons, StateT.run_bind, run_sweepOne ended, kind]
        exact run
      · rw [List.reverse_cons, List.append_assoc]
        exact final

end Store

end AdventureVm
