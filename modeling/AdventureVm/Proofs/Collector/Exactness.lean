import AdventureVm.Proofs.Collector.Marking
import AdventureVm.Proofs.Collector.Sweeping
import Mathlib.Data.Set.Card

/-! A collection frees exactly what may be freed and cannot be reached. -/

namespace AdventureVm

/-- What a collection frees: records and unwanted scripts that cannot be reached. -/
def Heap.garbage (heap : Heap) (context : Context) : List Address :=
  heap.deallocatable.filter ((heap.unreachable (heap.roots context)).unreached.contains ·)

/-- The kind under which a collection counts what it frees at an address. -/
def Heap.kindAt (heap : Heap) (address : Address) : SegmentKind :=
  (heap.kind? address.segment).getD .script

namespace Heap

variable {heap : Heap} {context : Context} {address : Address}

/-- Whatever may be freed is in memory. -/
theorem mem_entities_of_deallocatable (sound : heap.Sound)
    (candidate : address ∈ heap.deallocatable) : address ∈ heap.entities := by
  -- A record is valid in its pool, and a script stands for its whole segment.
  rw [mem_entities sound]
  rcases (mem_deallocatable sound).mp candidate with record | ⟨first, script, found, _⟩
  · obtain ⟨segment, found, pool, valid⟩ := isSome_recordAt?.mp record
    exact ⟨segment, found, by simpa [pool] using valid⟩
  · exact ⟨_, found, first⟩

/-- What is freed is what may be freed and cannot be reached. -/
theorem mem_garbage (sound : heap.Sound) :
    address ∈ heap.garbage context ↔
      address ∈ heap.deallocatable ∧ ¬ heap.Reach context address := by
  simp only [garbage, List.mem_filter, Std.HashSet.contains_iff_mem, mem_unreachable sound]
  constructor
  · intro given
    obtain ⟨candidate, _, unreached⟩ := given
    exact ⟨candidate, unreached⟩
  · intro given
    obtain ⟨candidate, unreached⟩ := given
    -- What may be freed is in memory, so the collector has kept track of it.
    exact ⟨candidate, mem_entities_of_deallocatable sound candidate, unreached⟩

/-- Without roots, everything in memory that may be freed is garbage. -/
theorem garbage_of_rootless (rootless : heap.roots context = []) :
    heap.garbage context = heap.deallocatable.filter (heap.entities.contains ·) := by
  -- With nothing to follow, marking ends where it starts.
  have marking : heap.unreachable [] = { unreached := Std.HashSet.ofList heap.entities } := by
    rw [unreachable, mark]
    rfl
  rw [garbage, rootless, marking]
  simp only [Std.HashSet.contains_ofList]

/-- A script is freed when it cannot be reached, nobody uses it and it is marked. -/
theorem script_mem_garbage (sound : heap.Sound) {id : SegmentId} {script : Script}
    (found : heap.get? id = some (.script script)) :
    Address.mk id 0 ∈ heap.garbage context ↔
      ¬ (heap.Reach context ⟨id, 0⟩ ∨ 0 < script.lockers ∨ script.markedDeleted = false) := by
  -- There is a script in the segment, so it is no record that would be freed there.
  have noRecord : (heap.recordAt? ⟨id, 0⟩).isSome = false := by
    simp [recordAt?, found, Segment.recordAt?]
  have spent : heap.IsSpent id ↔ script.markedDeleted = true ∧ script.lockers = 0 := by
    simp [IsSpent, found]
  rw [mem_garbage sound, mem_deallocatable sound, noRecord]
  simp only [Bool.false_eq_true, false_or, true_and, spent]
  by_cases marked : script.markedDeleted = true
  · by_cases used : script.lockers = 0 <;> simp [marked, used]
  · simp [marked]

end Heap

namespace Collection

/-- The number of things of a kind that were freed. -/
def tally (collection : Collection) : SegmentKind → Nat
  | .clones => collection.clones
  | .lists => collection.lists
  | .nodes => collection.nodes
  | .hunks => collection.hunks
  | .script => collection.scripts
  | _ => 0

/-- Counting one thing more adds one to the number of its kind. -/
theorem tally_count (collection : Collection) {kind : SegmentKind}
    (freeable : kind = .script ∨ kind.isPool = true) (other : SegmentKind) :
    (collection.count kind).tally other =
      collection.tally other + if kind = other then 1 else 0 := by
  cases kind <;> cases other <;> simp_all [count, tally, SegmentKind.isPool]

/-- Counting a list of things adds the number of those of each kind. -/
theorem tally_foldl {kindOf : Address → SegmentKind} (listed : List Address)
    (freeable : ∀ address ∈ listed, kindOf address = .script ∨ (kindOf address).isPool = true)
    (collection : Collection) (kind : SegmentKind) :
    (listed.foldl (fun collection address => collection.count (kindOf address)) collection).tally
        kind =
      collection.tally kind + (listed.filter (kindOf · = kind)).length := by
  -- The counts so far grow from thing to thing, so they stay quantified over.
  induction listed generalizing collection with
  | nil => rfl
  | cons address rest ih =>
    rw [List.foldl_cons, ih (fun other member => freeable other (List.mem_cons_of_mem _ member)),
      tally_count collection (freeable address List.mem_cons_self), List.filter_cons]
    split <;> simp_all; omega

end Collection

namespace Heap

/-- The addresses of the records of a kind that were in one memory and are not in the other. -/
def lostRecords (before after : Heap) (kind : SegmentKind) : Set Address :=
  { address | (before.recordAt? address).map Entry.kind = some kind ∧
    after.recordAt? address = none }

/-- The places of the scripts that were in one memory and are not in the other. -/
def lostScripts (before after : Heap) : Set SegmentId :=
  { id | before.kind? id = some .script ∧ after.kind? id = none }

/-- What memory is like after a collection, and what the collection reports. -/
structure Collected (before : Heap) (context : Context) (collection : Collection) (after : Heap) :
    Prop where
  /-- A record that can be reached is still there, as it was. -/
  record_kept : ∀ address, before.Reach context address →
    after.recordAt? address = before.recordAt? address
  /-- A record that cannot be reached is gone. -/
  record_freed : ∀ address, ¬ before.Reach context address → after.recordAt? address = none
  /-- A script that can be reached, is locked or is not marked is still there, as it was. -/
  script_kept : ∀ id script, before.get? id = some (.script script) →
    before.Reach context ⟨id, 0⟩ ∨ 0 < script.lockers ∨ script.markedDeleted = false →
    after.get? id = some (.script script)
  /-- Any other script is gone, and so are its variables. -/
  script_freed : ∀ id script, before.get? id = some (.script script) →
    ¬ (before.Reach context ⟨id, 0⟩ ∨ 0 < script.lockers ∨ script.markedDeleted = false) →
    after.get? id = none ∧
      (script.localsSegment ≠ 0 → after.get? script.localsSegment = none)
  /-- Every pool is still there. -/
  pool_kept : ∀ id segment, before.get? id = some segment → segment.kind.isPool = true →
    after.kind? id = some segment.kind
  /-- Any other segment is as it was, unless it has left with its script. -/
  segment_kept : ∀ id segment, before.get? id = some segment → segment.kind.isPool = false →
    after.get? id = some segment ∨ after.get? id = none ∧
      ∃ place script, before.get? place = some (.script script) ∧ after.get? place = none ∧
        Store.leavesWith place script id
  /-- No place is taken that was empty. -/
  vacant : ∀ id, before.get? id = none → after.get? id = none
  clones : collection.clones = (before.lostRecords after .clones).ncard
  lists : collection.lists = (before.lostRecords after .lists).ncard
  nodes : collection.nodes = (before.lostRecords after .nodes).ncard
  hunks : collection.hunks = (before.lostRecords after .hunks).ncard
  scripts : collection.scripts = (before.lostScripts after).ncard

variable {heap before after : Heap} {context : Context} {address : Address}

/-- An operand stack stays as it was. -/
theorem Collected.stack_kept {collection : Collection} {id : SegmentId} {slots : Array Address}
    (collected : before.Collected context collection after) (sound : before.Sound)
    (found : before.get? id = some (.stack slots)) : after.get? id = some (.stack slots) := by
  rcases collected.segment_kept id _ found rfl with kept | ⟨_, place, script, there, _, leaves⟩
  · exact kept
  · -- Only scripts and their variables leave, and a stack is neither.
    rcases leaves with rfl | ⟨withVariables, rfl⟩
    · rw [there] at found
      simp at found
    · obtain ⟨_, table, tableAt, _⟩ := sound.ownLocals place script there withVariables
      rw [tableAt] at found
      simp at found

/-- A set that a list without repetitions lists has as many members as the list has entries. -/
theorem ncard_of_listed {α : Type} [DecidableEq α] {members : Set α} {listed : List α}
    (distinct : listed.Nodup) (same : ∀ value, value ∈ members ↔ value ∈ listed) :
    members.ncard = listed.length := by
  -- The members are those of the list taken as a finite set.
  have finite : members = (listed.toFinset : Set α) := by
    ext value
    simp [same]
  rw [finite, Set.ncard_coe_finset, List.toFinset_card_of_nodup distinct]

/-- A record is of the kind under which it is counted. -/
theorem kind_recordAt? (record : (heap.recordAt? address).isSome = true) :
    (heap.recordAt? address).map Entry.kind = some (heap.kindAt address) := by
  -- Both the record and the count go by the kind of the pool.
  unfold recordAt? at record ⊢
  cases found : heap.get? address.segment with
  | none => simp [found] at record
  | some segment =>
    simp only [found, Option.bind_some] at record ⊢
    obtain ⟨entry, there⟩ := Option.isSome_iff_exists.mp record
    simp [there, kindAt, kind?, found, Segment.kind_of_recordAt? there]

/-- What may be freed is counted as a script or as a record. -/
theorem kindAt_deallocatable (sound : heap.Sound) (candidate : address ∈ heap.deallocatable) :
    heap.kindAt address = .script ∨ (heap.kindAt address).isPool = true := by
  -- A record has the kind of its pool, and whatever else may be freed is a script.
  rcases (mem_deallocatable sound).mp candidate with record | ⟨_, script, found, _⟩
  · obtain ⟨segment, found, pool, _⟩ := isSome_recordAt?.mp record
    exact .inr (by simpa [kindAt, kind?, found] using pool)
  · exact .inl (by simp [kindAt, kind?, found, Segment.kind])

/-- A script that may be freed is listed under the first address of its segment. -/
theorem script_of_deallocatable (sound : heap.Sound) (candidate : address ∈ heap.deallocatable)
    (kind : heap.kindAt address = .script) :
    address.offset = 0 ∧ ∃ script, heap.get? address.segment = some (.script script) := by
  -- A record would be in a pool, which no script is.
  rcases (mem_deallocatable sound).mp candidate with record | ⟨first, script, found, _⟩
  · obtain ⟨segment, found, pool, _⟩ := isSome_recordAt?.mp record
    have kinds : segment.kind = .script := by simpa [kindAt, kind?, found] using kind
    simp [kinds, SegmentKind.isPool] at pool
  · exact ⟨first, script, found⟩

section Counting

variable {freed : List Address} (sound : before.Sound) (swept : before.Swept freed after)
  (candidates : ∀ address ∈ freed, address ∈ before.deallocatable)

include sound swept candidates

/-- The records of a kind that are gone are those of that kind that were freed. -/
theorem mem_lostRecords {kind : SegmentKind} (pool : kind.isPool = true) :
    address ∈ before.lostRecords after kind ↔ address ∈ freed.filter (before.kindAt · = kind) := by
  simp only [lostRecords, Set.mem_ofPred_eq, swept.entries, List.mem_filter, decide_eq_true_eq]
  constructor
  · intro given
    obtain ⟨record, gone⟩ := given
    have present : (before.recordAt? address).isSome = true := by
      rw [← Option.isSome_map, record]
      rfl
    rw [kind_recordAt? present, Option.some.injEq] at record
    refine ⟨?_, record⟩
    -- A record that was not freed is still there.
    by_contra kept
    rw [if_neg kept] at gone
    simp [gone] at present
  · intro given
    obtain ⟨member, kind⟩ := given
    subst kind
    rcases (mem_deallocatable sound).mp (candidates address member) with
      record | ⟨_, script, found, _⟩
    · exact ⟨kind_recordAt? record, if_pos member⟩
    · simp [kindAt, kind?, found, Segment.kind, SegmentKind.isPool] at pool

/-- The scripts that are gone are those that were freed. -/
theorem mem_lostScripts {id : SegmentId} :
    id ∈ before.lostScripts after ↔
      id ∈ (freed.filter (before.kindAt · = .script)).map (·.segment) := by
  simp only [lostScripts, Set.mem_ofPred_eq, List.mem_map, List.mem_filter, decide_eq_true_eq]
  constructor
  · intro given
    obtain ⟨kind, gone⟩ := given
    have script : ∃ script, before.get? id = some (.script script) := by
      unfold kind? at kind
      obtain ⟨segment, found, same⟩ := Option.map_eq_some_iff.mp kind
      cases segment with
      | script contents => exact ⟨contents, found⟩
      | _ => simp [Segment.kind] at same
    obtain ⟨contents, found⟩ := script
    refine ⟨⟨id, 0⟩, ⟨?_, by simp [kindAt, kind]⟩, rfl⟩
    -- A script that was not freed is still there.
    by_contra kept
    simp [kind?, swept.script_kept sound found kept] at gone
  · intro given
    obtain ⟨address, ⟨member, kind⟩, rfl⟩ := given
    obtain ⟨first, script, found⟩ :=
      script_of_deallocatable sound (candidates address member) kind
    refine ⟨by simp [kind?, found, Segment.kind], ?_⟩
    -- A script that was freed has left its place.
    rw [kind?, swept.gone address.segment ⟨address.segment, script, ?_, found, .inl rfl⟩]
    · rfl
    · rw [← first]
      exact member

omit swept in
/-- The scripts that were freed are at as many places as there are addresses of them. -/
theorem nodup_freedScripts (distinct : freed.Nodup) :
    ((freed.filter (before.kindAt · = .script)).map (·.segment)).Nodup := by
  apply List.Nodup.map_on ?_ (distinct.filter _)
  intro left leftIn right rightIn same
  simp only [List.mem_filter, decide_eq_true_eq] at leftIn rightIn
  -- A script is freed at the first address of its segment only, so the segment tells it.
  have leftFirst := (script_of_deallocatable sound (candidates left leftIn.1) leftIn.2).1
  have rightFirst := (script_of_deallocatable sound (candidates right rightIn.1) rightIn.2).1
  obtain ⟨segment, offset⟩ := left
  obtain ⟨otherSegment, otherOffset⟩ := right
  simp only at same leftFirst rightFirst
  rw [same, leftFirst, rightFirst]

end Counting

end Heap

namespace Store

open Heap

/-- A collection is a sweep of its garbage, one thing after the other. -/
theorem run_collect_eq (store : Store) (context : Context) :
    (collect context).run store =
      let marking := store.heap.unreachable (store.heap.roots context)
      let started : Collection :=
        -- Marking only reads memory and leaves records.
        { roots := (store.heap.roots context).length
          marked := store.heap.entities.length - marking.unreached.size }
      let noted : Store := { store with journal := store.journal ++ marking.records }
      let result := ((store.heap.garbage context).foldlM sweepOne started).run noted
      (result.1, result.2.note .debug result.1.summary) :=
  rfl

/-- A collection sweeps what may be freed and cannot be reached. -/
theorem run_collect (store : Store) (sound : store.heap.Sound) (context : Context) :
    ∃ started after, (∀ kind, Collection.tally started kind = 0) ∧
      (collect context).run store =
        ((store.heap.garbage context).foldl (fun collection address =>
          collection.count (store.heap.kindAt address)) started, after) ∧
      store.heap.Swept (store.heap.garbage context) after.heap := by
  -- Marking changes no memory: it counts the roots and what was reached, and leaves records.
  let started : Collection :=
    { roots := (store.heap.roots context).length
      marked := store.heap.entities.length -
        (store.heap.unreachable (store.heap.roots context)).unreached.size }
  let noted : Store :=
    { store with
      journal := store.journal ++ (store.heap.unreachable (store.heap.roots context)).records }
  have swept : store.heap.Swept [] noted.heap := .start sound
  obtain ⟨after, run, final⟩ := run_sweep sound (store.heap.garbage context)
    ((nodup_deallocatable sound).filter _) (fun address member => (List.mem_filter.mp member).1)
    (by simp) swept started
  have listed : store.heap.Swept (store.heap.garbage context) after.heap :=
    final.of_same (by simp)
  have work : (collect context).run store =
      let result := ((store.heap.garbage context).foldlM sweepOne started).run noted
      (result.1, result.2.note .debug result.1.summary) := run_collect_eq store context
  rw [work, run]
  refine ⟨started, _, ?_, rfl, listed⟩
  intro kind
  cases kind <;> rfl

/-- A collection of a sound memory frees exactly what may be freed and cannot be reached. -/
theorem collected (store : Store) (sound : store.heap.Sound) (context : Context) :
    store.heap.Collected context ((collect context).run store).1
      ((collect context).run store).2.heap := by
  obtain ⟨started, after, zero, run, swept⟩ := run_collect store sound context
  rw [run]
  -- The sweep is given every address once, and only addresses of what may be freed.
  have candidates : ∀ address ∈ store.heap.garbage context, address ∈ store.heap.deallocatable :=
    fun address member => ((mem_garbage sound).mp member).1
  have distinct : (store.heap.garbage context).Nodup := (nodup_deallocatable sound).filter _
  have tallies := Collection.tally_foldl (store.heap.garbage context)
    (fun address member => kindAt_deallocatable sound (candidates address member)) started
  simp only [zero, Nat.zero_add] at tallies
  -- The four counts of records are one count, taken for each kind of pool.
  have records : ∀ kind, kind.isPool = true →
      ((store.heap.garbage context).foldl (fun collection address =>
        collection.count (store.heap.kindAt address)) started).tally kind =
        (store.heap.lostRecords after.heap kind).ncard := by
    intro kind pool
    rw [tallies, ncard_of_listed (distinct.filter _)
      fun _ => mem_lostRecords sound swept candidates pool]
  constructor
  case record_kept =>
    intro address reach
    rw [swept.entries, if_neg fun member => ((mem_garbage sound).mp member).2 reach]
  case record_freed =>
    intro address unreached
    rw [swept.entries]
    split
    · rfl
    · -- Every record may be freed, so one that was left alone can be reached.
      rename_i kept
      by_contra present
      refine kept ((mem_garbage sound).mpr ⟨(mem_deallocatable sound).mpr (.inl ?_), unreached⟩)
      exact Option.isSome_iff_ne_none.mpr present
  case script_kept =>
    intro id script found wanted
    exact swept.script_kept sound found fun member =>
      (script_mem_garbage sound found).mp member wanted
  case script_freed =>
    intro id script found unwanted
    have member := (script_mem_garbage sound found).mpr unwanted
    -- Both the script and its variables are among what leaves with the script.
    exact ⟨swept.gone id ⟨id, script, member, found, .inl rfl⟩, fun withVariables =>
      swept.gone _ ⟨id, script, member, found, .inr ⟨withVariables, rfl⟩⟩⟩
  case pool_kept => exact swept.pools
  case segment_kept =>
    intro id segment found noPool
    -- Either the segment is a freed script or its variables, or the sweep passed it by.
    by_cases leaves : store.heap.Leaves (store.heap.garbage context) id
    · refine .inr ⟨swept.gone id leaves, ?_⟩
      obtain ⟨place, script, member, scriptAt, with_⟩ := leaves
      exact ⟨place, script, scriptAt, swept.gone place ⟨place, script, member, scriptAt, .inl rfl⟩,
        with_⟩
    · left
      rw [swept.others id leaves, found]
      intro other otherAt
      rw [found, Option.some.injEq] at otherAt
      rw [← otherAt]
      exact noPool
  case vacant =>
    intro id empty
    by_cases leaves : store.heap.Leaves (store.heap.garbage context) id
    · exact swept.gone id leaves
    · rw [swept.others id leaves (by simp [empty]), empty]
  case clones => exact records .clones rfl
  case lists => exact records .lists rfl
  case nodes => exact records .nodes rfl
  case hunks => exact records .hunks rfl
  case scripts =>
    -- Each script is listed once, so counting addresses counts places.
    rw [ncard_of_listed (nodup_freedScripts sound candidates distinct)
      fun _ => mem_lostScripts sound swept candidates, List.length_map]
    exact tallies .script

end Store

end AdventureVm
