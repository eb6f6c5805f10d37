import AdventureVm.Proofs.Lists.Families
import AdventureVm.Proofs.Memory.Tidy

/-!
Where nodes are made one by one, the nodes of a memory are all in one pool.

A pool has no more slots than an offset can name, so no row of different nodes is longer than that,
and no list is too long to be gone through.
-/

namespace AdventureVm

/-- Scripts and tables of variables have no nodes. -/
theorem Segment.IsLasting.isNodeless {segment : Segment} (lasting : segment.IsLasting) :
    segment.IsNodeless := by
  -- A pool of nodes is of neither kind.
  rintro pool rfl
  rcases lasting with isScript | isLocals
  · cases isScript
  · cases isLocals

namespace Heap

/-- The tables agree with the segments, and nodes are nowhere but in the current pool of nodes. -/
structure Gathered (heap : Heap) : Prop where
  /-- The tables agree with the segments. -/
  sound : heap.Sound
  /-- There are no nodes in any other segment. -/
  together : ∀ id segment, heap.get? id = some segment →
    heap.pools.get .nodes = id ∨ segment.IsNodeless

namespace Gathered

variable {heap after : Heap} {id : SegmentId} {segment : Segment}

/-- Nodes stay together when whatever comes has no nodes, and the current pools are the same. -/
theorem of_places (gathered : heap.Gathered) (sound : after.Sound)
    (pools : after.pools = heap.pools) (places : ∀ id segment, after.get? id = some segment →
      heap.get? id = some segment ∨ segment.IsNodeless) : after.Gathered := by
  -- Either a segment was there before, or it has no nodes to speak of.
  refine ⟨sound, ?_⟩
  intro id segment found
  rw [pools]
  rcases places id segment found with before | nodeless
  · exact gathered.together id segment before
  · exact .inr nodeless

/-- Nodes stay together when a segment without nodes is put into the next place. -/
theorem insert (gathered : heap.Gathered) (next : heap.nextId? = some id)
    (loose : segment.IsLoose) (nodeless : segment.IsNodeless) :
    (heap.insert id segment).Gathered := by
  -- The only new place is the one that was put in; it has no nodes.
  obtain ⟨atEnd, _⟩ := nextId?_spec gathered.sound.opened next
  refine gathered.of_places (gathered.sound.insert next loose) pools_insert ?_
  intro place contents found
  rw [get?_insert atEnd] at found
  split at found
  · exact .inr (Option.some.inj found ▸ nodeless)
  · exact .inl found

/-- Nodes stay together when a script leaves memory. -/
theorem of_departed {script : Script} (gathered : heap.Gathered)
    (departed : Store.Departed heap id script after) : after.Gathered := by
  -- What leaves makes places empty and fills none.
  refine gathered.of_places departed.sound departed.pools ?_
  intro place contents found
  rw [departed.places] at found
  split at found
  · simp at found
  · exact .inl found

/-- Nodes stay together when a script comes into memory. -/
theorem of_brought {resources : Resources} {number : UInt16} (gathered : heap.Gathered)
    (brought : heap.Brought resources number id after) : after.Gathered := by
  obtain ⟨script, _, localsSegment, _, scriptAt, _⟩ := brought.script
  refine gathered.of_places brought.sound brought.pools ?_
  intro place contents found
  -- What comes is the script and its variables, and neither has nodes.
  have arrivals := brought.arrivals _ scriptAt place
  split at arrivals
  · rename_i leaves
    have lasting : contents.IsLasting := Tidy.kind_of_leaves brought.sound scriptAt leaves found
    exact .inr lasting.isNodeless
  · exact .inl (arrivals ▸ found)

/-- Nodes stay together when a segment leaves that is neither a script nor variables. -/
theorem vacate (gathered : heap.Gathered) (found : heap.get? id = some segment)
    (passing : ¬ segment.IsLasting) :
    ({ heap.put id none with
      pools := Store.poolsWithout heap.pools segment.kind id } : Heap).Gathered := by
  have sound := gathered.sound
  rw [Segment.IsLasting, not_or] at passing
  refine ⟨(sound.vacate_other found passing.1 passing.2).of_same rfl rfl, ?_⟩
  intro place contents there
  change (heap.put id none).get? place = some contents at there
  rw [get?_put found] at there
  split at there
  · simp at there
  · rename_i elsewhere
    refine (gathered.together place contents there).imp_left ?_
    intro current
    -- The current pool of nodes is not the segment that leaves, so it is not forgotten.
    show (Store.poolsWithout heap.pools segment.kind id).get .nodes = place
    rw [Store.poolsWithout]
    split
    · rename_i forgotten
      rw [CurrentPools.get_set, if_neg]
      · exact current
      · rintro ⟨same, _⟩
        exact elsewhere (by rw [← current, same, forgotten.2])
    · exact current

/-- Nodes stay together when a segment is changed and gets no nodes, unless it is their pool. -/
theorem put {new : Segment} (gathered : heap.Gathered) (found : heap.get? id = some segment)
    (akin : segment.Akin new)
    (nodes : heap.pools.get .nodes = id ∨ segment.BringsNoNodes new) :
    (heap.put id (some new)).Gathered := by
  refine ⟨gathered.sound.put found akin, ?_⟩
  intro place contents there
  rw [get?_put found] at there
  split at there
  · rename_i here
    subst here
    rw [Option.some.injEq] at there
    subst there
    show heap.pools.get .nodes = place ∨ new.IsNodeless
    -- The segment is the pool that nodes go into, or no node came into it.
    rcases nodes with current | brings
    · exact .inl current
    · refine (gathered.together place segment found).imp_right ?_
      -- A pool of nodes can only have taken the place of another one.
      rintro nodeless pool rfl index
      have kind := akin.kind_eq
      cases segment with
      | nodes old =>
        by_contra present
        have earlier := brings old pool rfl rfl index (Option.isSome_iff_ne_none.mpr present)
        rw [nodeless old rfl index] at earlier
        simp at earlier
      | _ => simp [Segment.kind] at kind
  · exact gathered.together place contents there

/-- Nodes stay together when a segment becomes the current pool of a kind that had none. -/
theorem pooled (gathered : heap.Gathered) {kind : SegmentKind} (first : heap.pools.get kind = 0) :
    ({ heap with pools := heap.pools.set kind id } : Heap).Gathered := by
  refine ⟨gathered.sound.of_same rfl rfl, ?_⟩
  intro place contents found
  change heap.get? place = some contents at found
  show (heap.pools.set kind id).get .nodes = place ∨ contents.IsNodeless
  rcases gathered.together place contents found with current | nodeless
  · rw [CurrentPools.get_set, if_neg]
    · exact .inl current
    · -- Without a current pool of nodes there are none, because place zero is empty.
      rintro ⟨rfl, _⟩
      rw [← current, first, gathered.sound.zero_empty] at found
      simp at found
  · exact .inr nodeless

/-- Nodes stay together while memory develops. -/
theorem of_develops (gathered : heap.Gathered) (develops : heap.Develops after) :
    after.Gathered := by
  induction develops with
  | refl => exact gathered
  | alike _ alike _ sound ih =>
    refine ih.of_places (sound ih.sound) alike.pools ?_
    intro id segment found
    exact .inl (alike.places id ▸ found)
  | loaded _ loaded sound ih => exact ih.of_brought ⟨loaded, sound ih.sound⟩
  | departed _ found _ left ih => exact ih.of_departed (left.departed ih.sound found)
  | inserted _ next loose _ nodeless _ ih => exact ih.insert next loose nodeless
  | vacated _ found passing _ ih => exact ih.vacate found passing
  | replaced _ found persists nodes ih => exact ih.put found persists.akin nodes
  | read _ found read ih =>
    -- A script stays a script, and has no nodes.
    refine ih.put found (Develops.akin_read read) (.inr ?_)
    rintro old new same
    simp at same
  | registered _ _ _ _ _ ih => exact ih.of_places (ih.sound.of_same rfl rfl) rfl fun _ _ => .inl
  | pooled _ _ first ih => exact ih.pooled first

/-- Nodes stay together while memory develops and when segments leave. -/
theorem endures : Endures Gathered :=
  ⟨Gathered.sound, of_develops, fun gathered _ departed => gathered.of_departed departed, vacate⟩

/-- A row of different nodes is no longer than a pool has slots. -/
theorem length_le (gathered : heap.Gathered) {nodes : List Address} (distinct : nodes.Nodup)
    (live : ∀ address ∈ nodes, ∃ node, heap.recordAt? address = some (.node node)) :
    nodes.length ≤ Pool.maxSlots := by
  -- All of them are in one segment, so they differ in their offsets.
  have segment : ∀ address ∈ nodes, address.segment = heap.pools.get .nodes := by
    intro address member
    obtain ⟨node, there⟩ := live address member
    obtain ⟨contents, found, record⟩ := Option.bind_eq_some_iff.mp there
    refine ((gathered.together _ contents found).resolve_right ?_).symm
    intro nodeless
    cases contents with
    | nodes pool =>
      rw [Segment.recordAt?, nodeless pool rfl] at record
      simp at record
    | _ => simp [Segment.recordAt?] at record
  have offsets : (nodes.map (·.offset)).Nodup := by
    refine distinct.map_on ?_
    intro left leftIn right rightIn same
    have sameSegment := (segment left leftIn).trans (segment right rightIn).symm
    cases left
    cases right
    rw [Address.mk.injEq]
    exact ⟨sameSegment, same⟩
  simpa [segmentLimit, Pool.maxSlots] using length_le_of_nodup offsets

/-- Where nodes are together, no list is too long to be gone through. -/
theorem isShort (gathered : heap.Gathered) {state : Sequences} (shows : heap.Shows state) :
    state.IsShort := by
  -- The nodes of a list are different places of one pool, so there are no more than it holds.
  intro list nodes given
  have represents := shows.represents given
  exact gathered.length_le represents.distinct represents.linked.live

end Gathered

end Heap

namespace Action

/--
What an action on memory can be when nodes are made one by one.

A segment that is put in has no nodes, and a segment that is changed in place gets none unless it is
the pool that new nodes go into.
-/
def MakesNodesInPlace (action : Action) (heap : Heap) : Prop :=
  match action with
  | insert segment => segment.IsNodeless
  | alter id change => heap.pools.get .nodes = id ∨ ∀ segment, heap.get? id = some segment →
    segment.BringsNoNodes (change segment)
  | _ => True

/-- Such an action leaves nodes together. -/
theorem run_gathered {action : Action} {store : Store} (gathered : store.heap.Gathered)
    (fits : action.Fits store.heap) (inPlace : action.MakesNodesInPlace store.heap) :
    (action.run store).heap.Gathered := by
  -- These are the kinds of actions of which something is asked.
  apply Heap.Gathered.endures.run gathered
  · rintro id rfl
    exact fits
  · rintro segment rfl
    show Leads (Store.insert segment) store fun _ after => after.heap.Gathered
    rw [Store.leads_insert]
    cases next : store.heap.nextId? with
    | none => exact gathered
    | some id => exact gathered.insert next fits inPlace
  · rintro id change rfl
    show (store.heap.modify id change).Gathered
    cases found : store.heap.get? id with
    | none =>
      rw [Heap.modify_of_none found]
      exact gathered
    | some segment =>
      rw [Heap.modify_eq_put found]
      exact gathered.put found (fits segment found) (inPlace.imp_right (· segment found))
  · rintro change rfl
    exact gathered.of_places (gathered.sound.of_same rfl rfl) rfl fun _ _ => .inl

end Action

namespace Store

/--
A memory that started out empty and that actions and kernel functions have led to, where every node
was made in its place.
-/
inductive Emerges : Store → Prop where
  | blank (version : Version) (classes : ClassTable) (journal : Journal) :
      Emerges (blank version classes journal)
  /-- Something was done to memory from outside. -/
  | step {store : Store} {action : Action} (emerges : Emerges store)
      (fits : action.Fits store.heap) (inPlace : action.MakesNodesInPlace store.heap) :
      Emerges (action.run store)
  /-- A kernel function was called. -/
  | called {store : Store} (emerges : Emerges store) (call : KernelCall) :
      Emerges (call.run.run store).2

/-- A memory that emerges is one of those that anything has led to. -/
theorem Emerges.happens {store : Store} (emerges : store.Emerges) : store.Happens := by
  -- Both are the same histories; only the condition on segments put in is dropped.
  induction emerges with
  | blank version classes journal => exact .blank version classes journal
  | step _ _ _ happens => exact happens.step _
  | called _ call happens => exact happens.called call

/-- The nodes of every memory that emerges are in one pool. -/
theorem Emerges.gathered {store : Store} (emerges : store.Emerges) : store.heap.Gathered := by
  -- An empty memory has no segments, and each step leaves the nodes together.
  induction emerges with
  | blank version classes journal =>
    refine ⟨blank_sound version classes journal, ?_⟩
    intro id segment found
    rw [get?_blank] at found
    simp at found
  | step _ fits inPlace gathered => exact Action.run_gathered gathered fits inPlace
  | called _ call gathered => exact gathered.of_develops (call.run_advances _ gathered.sound.opened)

end Store

end AdventureVm
