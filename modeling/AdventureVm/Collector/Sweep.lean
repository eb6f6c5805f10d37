import AdventureVm.Collector.Mark

/-! Collecting garbage: everything that may be freed and cannot be reached is freed. -/

namespace AdventureVm

/-- What a collection did. -/
structure Collection where
  /-- The number of roots. -/
  roots : Nat := 0
  /-- The number of things reached. -/
  marked : Nat := 0
  /-- The number of clones freed. -/
  clones : Nat := 0
  /-- The number of lists freed. -/
  lists : Nat := 0
  /-- The number of nodes freed. -/
  nodes : Nat := 0
  /-- The number of hunks freed. -/
  hunks : Nat := 0
  /-- The number of scripts freed. -/
  scripts : Nat := 0
deriving Repr, DecidableEq, Inhabited

namespace Collection

/-- The number of things freed. -/
def freed (collection : Collection) : Nat :=
  collection.clones + collection.lists + collection.nodes + collection.hunks + collection.scripts

/-- Counts one thing more that was freed. -/
def count (collection : Collection) : SegmentKind → Collection
  | .clones => { collection with clones := collection.clones + 1 }
  | .lists => { collection with lists := collection.lists + 1 }
  | .nodes => { collection with nodes := collection.nodes + 1 }
  | .hunks => { collection with hunks := collection.hunks + 1 }
  | _ => { collection with scripts := collection.scripts + 1 }

/-- The record of a collection. -/
def summary (collection : Collection) : String :=
  s!"gc: {collection.roots} roots, {collection.marked} reachable, " ++
    s!"freed {collection.clones} clones, {collection.lists} lists, {collection.nodes} nodes, " ++
    s!"{collection.hunks} hunks, {collection.scripts} scripts"

end Collection

namespace Store

/-- Frees one thing and counts it; a failure is recorded and not counted. -/
def sweepOne (collection : Collection) (address : Address) : StateM Store Collection := do
  -- The kind is read first, because the segment may be gone afterwards.
  let kind := ((← get).heap.kind? address.segment).getD .script
  match ← (freeAt address).run with
  | .ok () => return collection.count kind
  | .error fault =>
    modify fun store => store.note .warn s!"could not free {address}: {fault.message}"
    return collection

/-- Runs one collection for the given registers and frames. -/
def collect (context : Context) : StateM Store Collection := do
  let heap := (← get).heap
  let roots := heap.roots context
  let marking := heap.unreachable roots
  modify fun store => { store with journal := store.journal ++ marking.records }
  -- What may be freed is listed before anything is freed.
  let garbage := heap.deallocatable.filter (marking.unreached.contains ·)
  let started : Collection :=
    { roots := roots.length, marked := heap.entities.length - marking.unreached.size }
  let collection ← garbage.foldlM sweepOne started
  modify fun store => store.note .debug collection.summary
  return collection

end Store

end AdventureVm
