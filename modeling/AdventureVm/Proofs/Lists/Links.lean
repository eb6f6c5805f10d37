import AdventureVm.Kernel.Lists
import AdventureVm.Proofs.Collector.Sweeping

/-!
What lists and nodes say: the ends of a list, the links of a node, and all else about a record.

Work on a node or a list changes one of these at one address, and nothing else in memory.
-/

namespace AdventureVm

namespace StoreM

variable {α β : Type} {work : StoreM α} {store : Store} {post : α → Store → Prop}

/-- The work succeeds, and its answer and what it leads to satisfy a condition. -/
def Succeeds (work : StoreM α) (store : Store) (post : α → Store → Prop) : Prop :=
  Leads work store (Either post fun _ _ => False)

/-- Work that succeeds ends with an answer that satisfies the condition. -/
theorem Succeeds.run (succeeds : work.Succeeds store post) :
    ∃ value after, work.run store = (.ok value, after) ∧ post value after := by
  -- The definition speaks of the outcome of the run: only success satisfies it.
  unfold Succeeds Leads at succeeds
  cases ended : work.run store with
  | mk outcome after =>
    rw [ended] at succeeds
    cases outcome with
    | ok value => exact ⟨value, after, rfl, succeeds⟩
    | error fault => exact succeeds.elim

/-- Work that ends with an answer comes to that answer. -/
theorem succeeds_of_run {value : α} {after : Store} (ended : work.run store = (.ok value, after)) :
    work.Succeeds store fun given final => given = value ∧ final = after := by
  -- The given run is the one that the definition speaks of.
  unfold Succeeds Leads
  rw [ended]
  exact ⟨rfl, rfl⟩

/-- A condition that follows from a reached one is reached as well. -/
theorem Succeeds.mono (succeeds : work.Succeeds store post) {weaker : α → Store → Prop}
    (implied : ∀ value after, post value after → weaker value after) :
    work.Succeeds store weaker :=
  Leads.certain succeeds implied

/-- Work succeeds when its first part does and the rest does with what that comes to. -/
theorem Succeeds.bind (succeeds : work.Succeeds store post) {next : α → StoreM β}
    {last : β → Store → Prop}
    (continues : ∀ value after, post value after → (next value).Succeeds after last) :
    (work >>= next).Succeeds store last :=
  (leads_bind _ _ _ _).mpr (Leads.certain succeeds continues)

/-- Asking what can be answered succeeds and changes nothing. -/
theorem succeeds_require {query : Heap → Except Fault α} {value : α}
    (answer : query store.heap = .ok value) :
    (require query).Succeeds store fun found after => found = value ∧ after = store := by
  -- The answer is the one that is given.
  rw [Succeeds, leads_require, answer]
  exact ⟨rfl, rfl⟩

/-- Asking with records of the search succeeds and changes nothing when there are none. -/
theorem succeeds_noted {query : Heap → Except Fault (α × List Record)} {value : α}
    (answer : query store.heap = .ok (value, [])) :
    (noted query).Succeeds store fun found after => found = value ∧ after = store := by
  refine (succeeds_require answer).bind ?_
  rintro _ after ⟨rfl, rfl⟩
  -- No record is added to the journal.
  have same : after.record [] = after := by simp [Store.record]
  exact ⟨rfl, same⟩

end StoreM

namespace Entry

/-- The ends of a list. -/
def ends? : Entry → Option ListEnds
  | list ends => some ends
  | _ => none

/-- The links of a node: the node before it and the one after it. -/
def links? : Entry → Option (Address × Address)
  | node contents => some (contents.pred, contents.succ)
  | _ => none

/-- A record without what makes it part of a sequence: the ends of a list, the links of a node. -/
def unlinked : Entry → Entry
  | list _ => list {}
  | node contents => node { contents with pred := .null, succ := .null }
  | other => other

/-- Changes a node, and leaves any other record alone. -/
def changeNode (change : Node → Node) : Entry → Entry
  | node contents => node (change contents)
  | other => other

/-- Changes a list, and leaves any other record alone. -/
def changeList (change : ListEnds → ListEnds) : Entry → Entry
  | list ends => list (change ends)
  | other => other

end Entry

namespace Heap

/-- The ends of the list at an address. -/
def ends? (heap : Heap) (address : Address) : Option ListEnds :=
  (heap.recordAt? address).bind Entry.ends?

/-- The links of the node at an address. -/
def links? (heap : Heap) (address : Address) : Option (Address × Address) :=
  (heap.recordAt? address).bind Entry.links?

/-- The record at an address without what makes it part of a sequence. -/
def contents? (heap : Heap) (address : Address) : Option Entry :=
  (heap.recordAt? address).map Entry.unlinked

variable {heap before between after : Heap} {address other list : Address} {ends : ListEnds}
  {node : Node} {pred succ : Address}

/-- A list has ends. -/
theorem ends?_eq_some : heap.ends? address = some ends ↔
    heap.recordAt? address = some (.list ends) := by
  -- By the record at the address: only a list has ends.
  unfold ends?
  cases heap.recordAt? address with
  | none => simp
  | some entry => cases entry <;> simp [Entry.ends?]

/-- A node has links. -/
theorem links?_eq_some : heap.links? address = some (pred, succ) ↔
    ∃ node, heap.recordAt? address = some (.node node) ∧ node.pred = pred ∧ node.succ = succ := by
  -- By the record at the address: only a node has links.
  unfold links?
  cases heap.recordAt? address with
  | none => simp
  | some entry => cases entry <;> simp [Entry.links?]

/-- What an address leads to is what its segment shows there. -/
theorem dereference_eq_ok {view : View} : heap.dereference address = .ok view ↔
    ∃ segment, heap.get? address.segment = some segment ∧
      segment.view? address.offset.toNat = some view := by
  -- Both ask for the segment first and then for what it shows.
  rw [← Option.bind_eq_some_iff, dereference]
  split
  · rename_i found
    rw [found, Except.ok.injEq, Option.some.injEq]
  · rename_i missing
    simp [missing]

/-- What is found as a list is the record there. -/
theorem list_eq_ok : heap.list address = .ok ends ↔
    heap.recordAt? address = some (.list ends) := by
  have led : heap.list address = .ok ends ↔ heap.dereference address = .ok (.list ends) := by
    unfold Heap.list
    split <;> simp_all
  rw [led, dereference_eq_ok, recordAt?, Option.bind_eq_some_iff]
  refine exists_congr fun segment => and_congr_right fun _ => ?_
  -- Only a pool of lists shows lists.
  cases segment <;> simp [Segment.view?, Segment.recordAt?]

/-- What is found as a node is the record there. -/
theorem node_eq_ok : heap.node address = .ok node ↔
    heap.recordAt? address = some (.node node) := by
  have led : heap.node address = .ok node ↔ heap.dereference address = .ok (.node node) := by
    unfold Heap.node
    split <;> simp_all
  rw [led, dereference_eq_ok, recordAt?, Option.bind_eq_some_iff]
  refine exists_congr fun segment => and_congr_right fun _ => ?_
  -- Only a pool of nodes shows nodes.
  cases segment <;> simp [Segment.view?, Segment.recordAt?]

/-- Changing a node changes the record at its address, if that is a node, and no other. -/
theorem recordAt?_modifyNode (heap : Heap) (address other : Address) (change : Node → Node) :
    (heap.modifyNode address change).recordAt? other =
      if other = address then (heap.recordAt? other).map (Entry.changeNode change)
      else heap.recordAt? other := by
  refine heap.recordAt?_modify address other (·.map (Entry.changeNode change)) rfl ?_
  intro segment index
  -- Only a pool of nodes has entries that are nodes.
  cases segment with
  | nodes pool =>
    simp only [RecordKind.modify, RecordKind.nodes, Segment.recordAt?, Pool.get?_modify]
    split <;> cases pool.get? index <;> rfl
  | clones pool | lists pool | hunks pool =>
    simp only [RecordKind.modify, RecordKind.nodes, Segment.recordAt?]
    split <;> cases pool.get? index <;> rfl
  | _ => simp [RecordKind.modify, RecordKind.nodes, Segment.recordAt?]

/-- Changing a list changes the record at its address, if that is a list, and no other. -/
theorem recordAt?_modifyList (heap : Heap) (address other : Address)
    (change : ListEnds → ListEnds) :
    (heap.modifyList address change).recordAt? other =
      if other = address then (heap.recordAt? other).map (Entry.changeList change)
      else heap.recordAt? other := by
  refine heap.recordAt?_modify address other (·.map (Entry.changeList change)) rfl ?_
  intro segment index
  -- Only a pool of lists has entries that are lists.
  cases segment with
  | lists pool =>
    simp only [RecordKind.modify, RecordKind.lists, Segment.recordAt?, Pool.get?_modify]
    split <;> cases pool.get? index <;> rfl
  | clones pool | nodes pool | hunks pool =>
    simp only [RecordKind.modify, RecordKind.lists, Segment.recordAt?]
    split <;> cases pool.get? index <;> rfl
  | _ => simp [RecordKind.modify, RecordKind.lists, Segment.recordAt?]

/-- Whatever is no pool is left as it is. -/
def SparesOthers (before after : Heap) : Prop :=
  ∀ id segment, before.get? id = some segment → segment.kind.isPool = false →
    after.get? id = some segment

/-- Nothing is left as it is by leaving everything as it is. -/
theorem SparesOthers.refl (heap : Heap) : heap.SparesOthers heap :=
  fun _ _ found _ => found

/-- What is left as it is twice is left as it is. -/
theorem SparesOthers.trans (first : before.SparesOthers between)
    (second : between.SparesOthers after) : before.SparesOthers after :=
  fun id segment found other => second id segment (first id segment found other) other

/-- A change that concerns pools leaves all else as it is. -/
theorem sparesOthers_modify (heap : Heap) (id : SegmentId) {change : Segment → Segment}
    (spares : ∀ segment : Segment, segment.kind.isPool = false → change segment = segment) :
    heap.SparesOthers (heap.modify id change) := by
  -- The changed place is spared because its segment is not a pool; other places are not touched.
  intro place segment found other
  rw [get?_modify]
  split
  · rename_i here
    rw [← here, found, Option.map_some, spares segment other]
  · exact found

/-- Changing a node leaves all but pools as it is. -/
theorem sparesOthers_modifyNode (heap : Heap) (address : Address) (change : Node → Node) :
    heap.SparesOthers (heap.modifyNode address change) := by
  -- The change looks for a pool of nodes and finds none.
  refine sparesOthers_modify heap _ fun segment other => ?_
  cases segment <;> first | rfl | cases other

/--
Two memories that differ in nothing but the ends of some lists and the links of some nodes.
-/
structure Relinked (before : Heap) (lists nodes : List Address) (after : Heap) : Prop where
  /-- Other lists have the ends that they had. -/
  ends : ∀ address ∉ lists, after.ends? address = before.ends? address
  /-- Other nodes have the links that they had. -/
  links : ∀ address ∉ nodes, after.links? address = before.links? address
  /-- All else about records is as it was. -/
  contents : ∀ address, after.contents? address = before.contents? address
  /-- Whatever is no pool is as it was. -/
  others : before.SparesOthers after

namespace Relinked

variable {lists nodes moreLists moreNodes : List Address}

/-- Two changes of links, one after the other, change the links that either of them changes. -/
theorem trans (first : before.Relinked lists nodes between)
    (second : between.Relinked lists nodes after) : before.Relinked lists nodes after :=
  -- Field by field: what neither change names is kept by both.
  ⟨fun address outside => (second.ends address outside).trans (first.ends address outside),
    fun address outside => (second.links address outside).trans (first.links address outside),
    fun address => (second.contents address).trans (first.contents address),
    first.others.trans second.others⟩

/-- More links than those that were changed may be named. -/
theorem mono (relinked : before.Relinked lists nodes after) (listsToo : lists ⊆ moreLists)
    (nodesToo : nodes ⊆ moreNodes) : before.Relinked moreLists moreNodes after :=
  -- What lies outside of more lies outside of less.
  ⟨fun address outside => relinked.ends address fun inside => outside (listsToo inside),
    fun address outside => relinked.links address fun inside => outside (nodesToo inside),
    relinked.contents, relinked.others⟩

end Relinked

/-- Changing a node changes the ends of no list. -/
theorem ends?_modifyNode (heap : Heap) (address other : Address) (change : Node → Node) :
    (heap.modifyNode address change).ends? other = heap.ends? other := by
  -- At the address itself a node stays a node, which has no ends either way.
  rw [ends?, ends?, recordAt?_modifyNode]
  split
  · cases heap.recordAt? other with
    | none => rfl
    | some entry => cases entry <;> rfl
  · rfl

/-- Changing the links of a node changes no more than these. -/
theorem relinked_modifyNode (there : heap.recordAt? address = some (.node node))
    {change : Node → Node} (key : (change node).key = node.key)
    (value : (change node).value = node.value) :
    heap.Relinked [] [address] (heap.modifyNode address change) := by
  refine ⟨?_, ?_, ?_, sparesOthers_modifyNode heap address change⟩
  · exact fun other _ => heap.ends?_modifyNode address other change
  · intro other outside
    rw [List.mem_singleton] at outside
    rw [links?, links?, recordAt?_modifyNode, if_neg outside]
  · intro other
    -- Links are not part of what a node contains.
    rw [contents?, contents?, recordAt?_modifyNode]
    split
    · rename_i here
      rw [here, there]
      simp [Entry.changeNode, Entry.unlinked, key, value]
    · rfl

/-- A node that is changed has the links that it was given. -/
theorem links?_modifyNode (there : heap.recordAt? address = some (.node node))
    (change : Node → Node) : (heap.modifyNode address change).links? address =
      some ((change node).pred, (change node).succ) := by
  -- The record at the address is the changed node.
  rw [links?, recordAt?_modifyNode, if_pos rfl, there]
  rfl

/-- Changing the ends of a list changes no more than these. -/
theorem relinked_modifyList (there : heap.recordAt? address = some (.list ends))
    (change : ListEnds → ListEnds) :
    heap.Relinked [address] [] (heap.modifyList address change) := by
  refine ⟨?_, ?_, ?_, ?_⟩
  · intro other outside
    rw [List.mem_singleton] at outside
    rw [ends?, ends?, recordAt?_modifyList, if_neg outside]
  · intro other _
    -- The record is a list, so it has no links of a node.
    rw [links?, links?, recordAt?_modifyList]
    split
    · rename_i here
      rw [here, there]
      rfl
    · rfl
  · intro other
    rw [contents?, contents?, recordAt?_modifyList]
    split
    · rename_i here
      rw [here, there]
      rfl
    · rfl
  · refine sparesOthers_modify heap _ fun segment other => ?_
    cases segment <;> first | rfl | cases other

/-- A list that is changed has the ends that it was given. -/
theorem ends?_modifyList (there : heap.recordAt? address = some (.list ends))
    (change : ListEnds → ListEnds) :
    (heap.modifyList address change).ends? address = some (change ends) := by
  -- The record at the address is the changed list.
  rw [ends?, recordAt?_modifyList, if_pos rfl, there]
  rfl

end Heap

namespace Store

open Heap StoreM

variable {store : Store} {address : Address}

/-- A node that is there is changed. -/
theorem updateNode_succeeds {node : Node}
    (there : store.heap.recordAt? address = some (.node node)) (change : Node → Node) :
    (updateNode address change).Succeeds store fun _ after =>
      after.heap = store.heap.modifyNode address change := by
  -- Asking for the node succeeds and leaves the store; the change follows.
  refine (succeeds_require (node_eq_ok.mpr there)).bind ?_
  rintro _ _ ⟨_, rfl⟩
  exact rfl

/-- A list that is there is changed. -/
theorem updateList_succeeds {ends : ListEnds}
    (there : store.heap.recordAt? address = some (.list ends)) (change : ListEnds → ListEnds) :
    (updateList address change).Succeeds store fun _ after =>
      after.heap = store.heap.modifyList address change := by
  -- Asking for the list succeeds and leaves the store; the change follows.
  refine (succeeds_require (list_eq_ok.mpr there)).bind ?_
  rintro _ _ ⟨_, rfl⟩
  exact rfl

/-- The links of a node that is there are changed, and no others. -/
theorem relinkNode_succeeds {node : Node}
    (there : store.heap.recordAt? address = some (.node node)) {change : Node → Node}
    (key : (change node).key = node.key) (value : (change node).value = node.value) :
    (updateNode address change).Succeeds store fun _ after =>
      store.heap.Relinked [] [address] after.heap ∧
        after.heap.links? address = some ((change node).pred, (change node).succ) := by
  -- The change keeps key and value, so it is one of links only.
  refine (updateNode_succeeds there change).mono ?_
  intro _ after changed
  rw [changed]
  exact ⟨relinked_modifyNode there key value, links?_modifyNode there change⟩

/-- The ends of a list that is there are changed, and no others. -/
theorem relinkList_succeeds {ends : ListEnds} (there : store.heap.ends? address = some ends)
    (change : ListEnds → ListEnds) :
    (updateList address change).Succeeds store fun _ after =>
      store.heap.Relinked [address] [] after.heap ∧
        after.heap.ends? address = some (change ends) := by
  -- A list has nothing but its ends, so any change is one of links.
  have record := ends?_eq_some.mp there
  refine (updateList_succeeds record change).mono ?_
  intro _ after changed
  rw [changed]
  exact ⟨relinked_modifyList record change, ends?_modifyList record change⟩

/-- A record that is there is freed. -/
theorem freeRecord_succeeds {entry : Entry}
    (there : store.heap.recordAt? address = some entry) :
    (freeRecord entry.kind address).Succeeds store fun _ after =>
      after.heap = store.heap.modify address.segment (·.release address.offset.toNat) := by
  obtain ⟨segment, found, record⟩ := Option.bind_eq_some_iff.mp there
  have kind := Segment.kind_of_recordAt? record
  -- A record is there exactly when its slot in a pool is valid.
  have valid : (segment.kind.isPool && segment.isValidOffset address.offset) = true := by
    rw [← Segment.isSome_recordAt?, record]
    rfl
  have present : (entry.kind.isPool && store.heap.kind? address.segment == some entry.kind &&
      store.heap.isValidAddress address) = true := by
    rw [Bool.and_eq_true, kind] at valid
    simp [kind?, found, kind, valid.1, isValidAddress, valid.2]
  simp only [Succeeds, freeRecord, leads_bind, leads_read, either_ok, present, if_true,
    leads_change, heap_mapHeap]

end Store

end AdventureVm
