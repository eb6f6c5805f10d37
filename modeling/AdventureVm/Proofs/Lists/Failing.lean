import AdventureVm.Proofs.Lists.Refinement
import AdventureVm.Proofs.Lists.Trails

/-!
What the kernel functions on lists leave behind when they fail.

Nothing that was done is undone. So a failure leaves memory as it was only where nothing had been
done, and otherwise it leaves what had been done: a node has its key, is linked on one side, has
left on one side, or the nodes of a list are gone.
-/

namespace AdventureVm

/-- Where in a list a node is to be put. -/
inductive Place where
  | front
  | back
  | after (reference : Address)

/-- A node that is to be put into a list. -/
structure Adding where
  /-- The list. -/
  list : Address
  /-- The node. -/
  node : Address
  /-- The key that the node is to get, if there is one. -/
  key : Option Address
  /-- The place in the list. -/
  place : Place

namespace Heap

variable {heap before between after : Heap} {list node reference address : Address}

/--
What is on both sides of a place in a list, if the place is there.

The place is after a node of the list, or, with null for the node, at the front of the list.
-/
def neighbours? (heap : Heap) (list pred : Address) : Option (Address × Address) :=
  if pred.isNull then (heap.ends? list).map fun ends => (pred, ends.first)
  else (heap.links? pred).map fun links => (pred, links.2)

/-- What is next to a place in a list is there: a node, or the list itself at its ends. -/
def hasNeighbour (heap : Heap) (list neighbour : Address) : Bool :=
  if neighbour.isNull then (heap.ends? list).isSome else (heap.links? neighbour).isSome

/-- What is before a place in a list says what comes next. -/
def tellSucc (heap : Heap) (list pred succ : Address) : Heap :=
  if pred.isNull then heap.modifyList list fun ends => { ends with first := succ }
  else heap.modifyNode pred fun entry => { entry with succ }

/-- A node has its links, and the node before it says so, but not yet what comes after it. -/
def halfLink (heap : Heap) (node pred succ : Address) : Heap :=
  let joined := heap.modifyNode node fun entry => { entry with pred, succ }
  if pred.isNull then joined else joined.modifyNode pred fun entry => { entry with succ := node }

end Heap

namespace Adding

/-- What a call of a kernel function asks to be put into which list. -/
def of? (builtin : Builtin) (arguments : List Address) : Option Adding :=
  match builtin with
  | .addToFront => do return ⟨← arguments[0]?, ← arguments[1]?, arguments[2]?, .front⟩
  | .addToEnd => do return ⟨← arguments[0]?, ← arguments[1]?, arguments[2]?, .back⟩
  | .addAfter => do
    let list ← arguments[0]?
    let reference ← arguments[1]?
    return ⟨list, ← arguments[2]?, arguments[3]?, .after reference⟩
  | _ => none

/-- The node after which the new one comes, or null when it comes first. -/
def pred? (adding : Adding) (heap : Heap) : Option Address :=
  match adding.place with
  | .front => some .null
  | .back => (heap.ends? adding.list).map (·.last)
  | .after reference => some reference

/-- What is on both sides of the place, if the place is there. -/
def neighbours? (adding : Adding) (heap : Heap) : Option (Address × Address) :=
  (adding.pred? heap).bind (heap.neighbours? adding.list)

/-- The node has its key, if there is one for it. -/
def rekey (adding : Adding) (heap : Heap) : Heap :=
  match adding.key with
  | some key => heap.modifyNode adding.node fun entry => { entry with key }
  | none => heap

end Adding

/-- What a kernel function on lists has begun when it fails. -/
inductive Heap.Unfinished (heap : Heap) : Builtin → List Address → Heap → Prop where
  /-- A node has its key, but where it is to be put there is nothing. -/
  | rekeyed {builtin : Builtin} {arguments : List Address} {adding : Adding} {key : Address}
      (asked : Adding.of? builtin arguments = some adding) (given : adding.key = some key)
      (live : (heap.links? adding.node).isSome = true) (lost : adding.neighbours? heap = none) :
      Unfinished heap builtin arguments (adding.rekey heap)
  /-- A node has its key and its links, but what is to come after it is not there. -/
  | halfLinked {builtin : Builtin} {arguments : List Address} {adding : Adding}
      {pred succ : Address} (asked : Adding.of? builtin arguments = some adding)
      (live : (heap.links? adding.node).isSome = true)
      (known : adding.neighbours? heap = some (pred, succ))
      (lost : heap.hasNeighbour adding.list succ = false) :
      Unfinished heap builtin arguments ((adding.rekey heap).halfLink adding.node pred succ)
  /-- A node, the last one that is looked at in a list without end, is linked on one side only. -/
  | halfUnlinked {arguments : List Address} {list key node pred succ : Address}
      {nodes : Array Address} {records : List Record} (givenList : arguments[0]? = some list)
      (givenKey : arguments[1]? = some key) (found : heap.listNodes list = .ok (nodes, records))
      (endless : nodes.size = Pool.maxSlots) (first : nodes.find? (heap.hasKey key) = some node)
      (last : nodes.back? = some node) (links : heap.links? node = some (pred, succ))
      (known : heap.hasNeighbour list pred = true) (lost : heap.hasNeighbour list succ = false) :
      Unfinished heap .deleteKey arguments (heap.tellSucc list pred succ)
  /-- All nodes of a list in which one comes twice are gone, but the list is not. -/
  | emptied {arguments : List Address} {list : Address} {nodes : Array Address}
      {records : List Record} {after : Heap} (givenList : arguments[0]? = some list)
      (found : heap.listNodes list = .ok (nodes, records)) (again : ¬ nodes.toList.Nodup)
      (freed : heap.Freed nodes.toList after) : Unfinished heap .disposeList arguments after

namespace Heap

variable {heap before between after : Heap} {list node address : Address} {fault : Fault}

/-- Lists and nodes are where they were, whatever they say. -/
structure SamePlaces (before after : Heap) : Prop where
  /-- Lists are where there were lists. -/
  lists : ∀ address, (after.ends? address).isSome = (before.ends? address).isSome
  /-- Nodes are where there were nodes. -/
  nodes : ∀ address, (after.links? address).isSome = (before.links? address).isSome

/-- What keeps its place twice keeps its place. -/
theorem SamePlaces.trans (first : before.SamePlaces between) (second : between.SamePlaces after) :
    before.SamePlaces after :=
  ⟨fun address => (second.lists address).trans (first.lists address),
    fun address => (second.nodes address).trans (first.nodes address)⟩

/-- What is next to a place in a list is there as long as lists and nodes keep their places. -/
theorem SamePlaces.hasNeighbour (same : before.SamePlaces after) (list neighbour : Address) :
    after.hasNeighbour list neighbour = before.hasNeighbour list neighbour := by
  -- The question is put to the lists and to the nodes.
  unfold Heap.hasNeighbour
  rw [same.lists, same.nodes]

/-- Nothing moves when one record is changed, as long as a list stays a list and a node a node. -/
theorem samePlaces_of_recordAt? {change : Entry → Entry}
    (changed : ∀ other, after.recordAt? other =
      if other = address then (before.recordAt? other).map change else before.recordAt? other)
    (ends : ∀ entry, (change entry).ends?.isSome = entry.ends?.isSome)
    (links : ∀ entry, (change entry).links?.isSome = entry.links?.isSome) :
    before.SamePlaces after := by
  -- The one record that changes keeps having ends, or links, if it had any.
  refine ⟨fun other => ?_, fun other => ?_⟩
  · rw [ends?, ends?, changed]
    split <;> cases before.recordAt? other <;> simp [ends]
  · rw [links?, links?, changed]
    split <;> cases before.recordAt? other <;> simp [links]

/-- Changing a node moves nothing. -/
theorem samePlaces_modifyNode (heap : Heap) (address : Address) (change : Node → Node) :
    heap.SamePlaces (heap.modifyNode address change) :=
  samePlaces_of_recordAt? (heap.recordAt?_modifyNode address · change)
    (fun entry => by cases entry <;> rfl) fun entry => by cases entry <;> rfl

/-- Changing a list moves nothing. -/
theorem samePlaces_modifyList (heap : Heap) (address : Address)
    (change : ListEnds → ListEnds) : heap.SamePlaces (heap.modifyList address change) :=
  samePlaces_of_recordAt? (heap.recordAt?_modifyList address · change)
    (fun entry => by cases entry <;> rfl) fun entry => by cases entry <;> rfl

/-- A node that is found has its links. -/
theorem links?_of_node {entry : Node} (found : heap.node address = .ok entry) :
    heap.links? address = some (entry.pred, entry.succ) :=
  links?_eq_some.mpr ⟨entry, node_eq_ok.mp found, rfl, rfl⟩

/-- Where no node is found there are no links. -/
theorem links?_of_missing (missing : heap.node address = .error fault) :
    heap.links? address = none := by
  -- Links could only be those of a node, which would have been found.
  by_contra there
  obtain ⟨⟨pred, succ⟩, links⟩ := Option.ne_none_iff_exists'.mp there
  obtain ⟨entry, record, -⟩ := links?_eq_some.mp links
  rw [node_eq_ok.mpr record] at missing
  cases missing

/-- Where no list is found there are no ends. -/
theorem ends?_of_missing (missing : heap.list address = .error fault) :
    heap.ends? address = none := by
  -- Ends could only be those of a list, which would have been found.
  by_contra there
  obtain ⟨ends, found⟩ := Option.ne_none_iff_exists'.mp there
  rw [list_eq_ok.mpr (ends?_eq_some.mp found)] at missing
  cases missing

/-- At the front of a list its first node comes next. -/
theorem neighbours?_null (heap : Heap) (list : Address) :
    heap.neighbours? list .null = (heap.ends? list).map fun ends => (.null, ends.first) := rfl

/-- After a node its next node comes next. -/
theorem neighbours?_of_real {pred : Address} (real : pred.isNull = false)
    (list : Address) :
    heap.neighbours? list pred = (heap.links? pred).map fun links => (pred, links.2) := by
  -- The test for null decides between the list and the node.
  rw [neighbours?, real]
  rfl

/-- Next to the front of a list is the list. -/
theorem hasNeighbour_null (heap : Heap) (list : Address) :
    heap.hasNeighbour list .null = (heap.ends? list).isSome := rfl

/-- Next to a node is the node. -/
theorem hasNeighbour_of_real {neighbour : Address} (real : neighbour.isNull = false)
    (list : Address) : heap.hasNeighbour list neighbour = (heap.links? neighbour).isSome := by
  -- The test for null decides between the list and the node.
  rw [hasNeighbour, real]
  rfl

/-- At the front of a list there is only the node to be linked. -/
theorem halfLink_null (heap : Heap) (node succ : Address) : heap.halfLink node .null succ =
    heap.modifyNode node fun entry => { entry with pred := .null, succ } := rfl

/-- Elsewhere the node before is linked as well. -/
theorem halfLink_of_real {pred : Address} (real : pred.isNull = false)
    (list node succ : Address) : heap.halfLink node pred succ =
      (heap.modifyNode node fun entry => { entry with pred, succ }).tellSucc list pred node := by
  -- The test for null decides between the list and the node.
  rw [halfLink, tellSucc, real]
  rfl

/-- After a node that was found there is another one, unless it is the last of as many as can be. -/
theorem endless_of_lost {pred succ : Address} {nodes : Array Address}
    {records : List Record} (found : heap.listNodes list = .ok (nodes, records))
    (member : node ∈ nodes) (links : heap.links? node = some (pred, succ))
    (lost : heap.hasNeighbour list succ = false) :
    nodes.size = Pool.maxSlots ∧ nodes.back? = some node := by
  obtain ⟨ends, stop, there, trail, ended⟩ := trail_of_listNodes found
  obtain ⟨front, back, parts⟩ := List.append_of_mem (Array.mem_toList_iff.mpr member)
  rw [parts] at trail
  obtain ⟨-, _, _, linksToo, rest⟩ := trail.parted
  obtain ⟨rfl, rfl⟩ : pred = _ ∧ succ = _ := by simpa using links.symm.trans linksToo
  cases rest with
  | ended =>
    -- The list is there, so it is not the end of the list that is missing.
    refine ⟨ended.resolve_left fun null => ?_, ?_⟩
    · rw [Address.isNull_iff.mp null, hasNeighbour_null, there] at lost
      cases lost
    · rw [← Array.getLast?_toList, parts, List.getLast?_concat]
  | next linksNext _ =>
    unfold hasNeighbour at lost
    split at lost
    · rw [there] at lost
      cases lost
    · rw [linksNext] at lost
      cases lost

/-- What putting a node between its neighbours in a list leaves behind when it fails. -/
inductive Misplaces (before : Heap) (list node : Address) : Option (Address × Address) → Heap → Prop
  where
  /-- The place is not there. -/
  | placeless : Misplaces before list node none before
  /-- The node is not there. -/
  | nodeless {neighbours : Option (Address × Address)}
      (missing : (before.links? node).isSome = false) :
      Misplaces before list node neighbours before
  /-- The node is in its place, but what is to come after it is not there. -/
  | halfway {pred succ : Address} (live : (before.links? node).isSome = true)
      (lost : before.hasNeighbour list succ = false) :
      Misplaces before list node (some (pred, succ)) (before.halfLink node pred succ)

end Heap

namespace Adding

variable {adding : Adding} {heap : Heap}

/-- Without a key nothing is done. -/
theorem rekey_of_none (none : adding.key = none) (heap : Heap) : adding.rekey heap = heap := by
  rw [rekey, none]

/-- A key changes no ends of lists. -/
theorem ends?_rekey (adding : Adding) (heap : Heap) (address : Address) :
    (adding.rekey heap).ends? address = heap.ends? address := by
  -- Without a key nothing is changed, and with one only a node is.
  unfold rekey
  split
  · exact heap.ends?_modifyNode _ _ _
  · rfl

/-- A key changes no links of nodes. -/
theorem links?_rekey (adding : Adding) (heap : Heap) (address : Address) :
    (adding.rekey heap).links? address = heap.links? address := by
  unfold rekey
  -- A call without a key changes nothing, and a key is no link.
  split
  · rw [Heap.links?, Heap.links?, Heap.recordAt?_modifyNode]
    split
    · cases heap.recordAt? address with
      | none => rfl
      | some entry => cases entry <;> rfl
    · rfl
  · rfl

/-- A key changes nothing about where a node is to be put. -/
theorem neighbours?_rekey (adding : Adding) (heap : Heap) :
    adding.neighbours? (adding.rekey heap) = adding.neighbours? heap := by
  -- Where a node is to be put is read off ends and links.
  have same : (adding.rekey heap).neighbours? adding.list = heap.neighbours? adding.list := by
    funext pred
    simp only [Heap.neighbours?, ends?_rekey, links?_rekey]
  simp only [neighbours?, pred?, ends?_rekey, same]

/-- A key moves nothing. -/
theorem samePlaces_rekey (adding : Adding) (heap : Heap) :
    heap.SamePlaces (adding.rekey heap) :=
  ⟨fun address => by rw [ends?_rekey], fun address => by rw [links?_rekey]⟩

end Adding

namespace Store

open Heap StoreM

variable {store : Store} {list node pred succ : Address}

/-- A node is found, or the failure leaves everything as it was. -/
theorem requireNode_leads (store : Store) (address : Address) :
    Leads (require (·.node address)) store (Either
      (fun entry after => store.heap.links? address = some (entry.pred, entry.succ) ∧
        after = store)
      fun _ after => store.heap.links? address = none ∧ after = store) := by
  -- Whether the node is found decides both.
  rw [leads_require]
  cases found : store.heap.node address with
  | ok entry => exact ⟨links?_of_node found, rfl⟩
  | error fault => exact ⟨links?_of_missing found, rfl⟩

/-- A list is found, or the failure leaves everything as it was. -/
theorem requireList_leads (store : Store) (address : Address) :
    Leads (require (·.list address)) store (Either
      (fun ends after => store.heap.ends? address = some ends ∧ after = store)
      fun _ after => store.heap.ends? address = none ∧ after = store) := by
  -- Whether the list is found decides both.
  rw [leads_require]
  cases found : store.heap.list address with
  | ok ends => exact ⟨ends?_eq_some.mpr (list_eq_ok.mp found), rfl⟩
  | error fault => exact ⟨ends?_of_missing found, rfl⟩

/-- A node is changed, or it is not there and nothing is. -/
theorem updateNode_leads (store : Store) (address : Address) (change : Node → Node) :
    Leads (updateNode address change) store (Either
      (fun _ after => (store.heap.links? address).isSome = true ∧
        after.heap = store.heap.modifyNode address change ∧ store.heap.SamePlaces after.heap)
      fun _ after => (store.heap.links? address).isSome = false ∧ after = store) := by
  -- The node is looked for before it is changed.
  refine (requireNode_leads store address).bind ?_ ?_
  · rintro entry _ ⟨links, rfl⟩
    exact ⟨by rw [links, Option.isSome_some], rfl, samePlaces_modifyNode _ _ _⟩
  · rintro fault _ ⟨missing, rfl⟩
    exact ⟨by rw [missing, Option.isSome_none], rfl⟩

/-- A list is changed, or it is not there and nothing is. -/
theorem updateList_leads (store : Store) (address : Address) (change : ListEnds → ListEnds) :
    Leads (updateList address change) store (Either
      (fun _ after => (store.heap.ends? address).isSome = true ∧
        after.heap = store.heap.modifyList address change ∧ store.heap.SamePlaces after.heap)
      fun _ after => (store.heap.ends? address).isSome = false ∧ after = store) := by
  -- The list is looked for before it is changed.
  refine (requireList_leads store address).bind ?_ ?_
  · rintro ends _ ⟨found, rfl⟩
    exact ⟨by rw [found, Option.isSome_some], rfl, samePlaces_modifyList _ _ _⟩
  · rintro fault _ ⟨missing, rfl⟩
    exact ⟨by rw [missing, Option.isSome_none], rfl⟩

/-- What is before a place in a list is told what comes next, or it is not there. -/
theorem linkSucc_leads (store : Store) (list pred succ : Address) :
    Leads (linkSucc list pred succ) store (Either
      (fun _ after => store.heap.hasNeighbour list pred = true ∧
        after.heap = store.heap.tellSucc list pred succ ∧ store.heap.SamePlaces after.heap)
      fun _ after => store.heap.hasNeighbour list pred = false ∧ after = store) := by
  -- What comes before a place is the list itself or a node.
  unfold linkSucc hasNeighbour tellSucc
  split
  · exact updateList_leads store list _
  · exact updateNode_leads store pred _

/-- What is after a place in a list is told what comes before, or it is not there. -/
theorem linkPred_leads (store : Store) (list succ pred : Address) :
    Leads (linkPred list succ pred) store (Either
      (fun _ after => store.heap.hasNeighbour list succ = true ∧
        store.heap.SamePlaces after.heap)
      fun _ after => store.heap.hasNeighbour list succ = false ∧ after = store) := by
  -- What comes after a place is the list itself or a node.
  unfold linkPred hasNeighbour
  split
  · exact (updateList_leads store list _).either (fun _ _ ⟨there, _, moved⟩ => ⟨there, moved⟩)
      fun _ _ failed => failed
  · exact (updateNode_leads store succ _).either (fun _ _ ⟨there, _, moved⟩ => ⟨there, moved⟩)
      fun _ _ failed => failed

/-- Putting a node to the front of a list fails before the list is changed. -/
theorem linkFront_leads (store : Store) (list node : Address) :
    Leads (linkFront list node) store (Either (fun _ _ => True) fun _ after =>
      Misplaces store.heap list node (store.heap.neighbours? list .null) after.heap) := by
  rw [linkFront_eq]
  refine (requireList_leads store list).bind ?_ ?_
  · rintro ends store ⟨there, rfl⟩
    refine (updateNode_leads store node _).bind ?_ ?_
    · rintro _ joined ⟨live, changed, moved⟩
      refine (linkPred_leads joined list ends.first node).bind ?_ ?_
      · -- The list is still there, so it can be told what comes first.
        rintro _ linked ⟨-, movedToo⟩
        refine (linkSucc_leads linked list .null node).either (fun _ _ _ => ⟨⟩) ?_
        rintro fault after ⟨lost, -⟩
        rw [(moved.trans movedToo).hasNeighbour, hasNeighbour_null, there] at lost
        cases lost
      · rintro fault after ⟨lost, same⟩
        rw [moved.hasNeighbour] at lost
        rw [either_error, same, changed, ← halfLink_null, neighbours?_null, there]
        exact .halfway live lost
    · rintro fault _ ⟨missing, rfl⟩
      exact .nodeless missing
  · rintro fault store ⟨missing, rfl⟩
    rw [either_error, neighbours?_null, missing]
    exact .placeless

/-- Putting a node after another one fails before it is known to what comes after it. -/
theorem linkAfter_leads (store : Store) (list node : Address) {reference : Address}
    (real : reference.isNull = false) :
    Leads (linkAfter list reference node) store (Either (fun _ _ => True) fun _ after =>
      Misplaces store.heap list node (store.heap.neighbours? list reference) after.heap) := by
  rw [linkAfter_eq real]
  refine (requireNode_leads store reference).bind ?_ ?_
  · rintro entry store ⟨links, rfl⟩
    refine (updateNode_leads store node _).bind ?_ ?_
    · rintro _ joined ⟨live, changed, moved⟩
      refine (linkSucc_leads joined list reference node).bind ?_ ?_
      · rintro _ told ⟨-, changedToo, movedToo⟩
        refine (linkPred_leads told list entry.succ node).either (fun _ _ _ => ⟨⟩) ?_
        -- The node after is missing, by then the node and the one before have their links.
        rintro fault after ⟨lost, same⟩
        rw [(moved.trans movedToo).hasNeighbour] at lost
        rw [either_error, same, changedToo, changed, ← halfLink_of_real real,
          neighbours?_of_real real, links]
        exact .halfway live lost
      · -- The node before is still there, so it can be told what comes next.
        rintro fault after ⟨lost, -⟩
        rw [moved.hasNeighbour, hasNeighbour_of_real real, links] at lost
        cases lost
    · rintro fault _ ⟨missing, rfl⟩
      exact .nodeless missing
  · rintro fault store ⟨missing, rfl⟩
    rw [either_error, neighbours?_of_real real, missing]
    exact .placeless

/-- A node is put after another one, or to the front of a list when the other one is null. -/
theorem place_leads (store : Store) (list pred node : Address) :
    Leads (do
        if pred.isNull then linkFront list node else linkAfter list pred node
        return node) store
      (Either (fun _ _ => True) fun _ after =>
        Misplaces store.heap list node (store.heap.neighbours? list pred) after.heap) := by
  -- Whether the other one is null decides where the node goes.
  cases null : pred.isNull with
  | true =>
    obtain rfl := Address.isNull_iff.mp null
    exact (linkFront_leads store list node).bind (fun _ _ _ => ⟨⟩) fun _ _ failed => failed
  | false =>
    exact (linkAfter_leads store list node null).bind (fun _ _ _ => ⟨⟩) fun _ _ failed => failed

/-- The nodes of a list are found, or the failure leaves everything as it was. -/
theorem listNodes_leads (store : Store) (list : Address) :
    Leads (noted (·.listNodes list)) store (Either
      (fun nodes after => (∃ records, store.heap.listNodes list = .ok (nodes, records)) ∧
        after.heap = store.heap)
      fun _ after => after = store) := by
  -- Reading leaves records in the journal, and memory as it is.
  rw [noted, leads_bind, leads_require]
  cases found : store.heap.listNodes list with
  | ok result => exact ⟨⟨result.2, rfl⟩, rfl⟩
  | error fault => exact rfl

/-- The first node with a key is looked for, or the failure leaves everything as it was. -/
theorem findNode?_leads (store : Store) (list key : Address) :
    Leads (findNode? list key) store (Either
      (fun found after => (∃ nodes records, store.heap.listNodes list = .ok (nodes, records) ∧
        nodes.find? (store.heap.hasKey key) = found) ∧ after.heap = store.heap)
      fun _ after => after = store) := by
  refine (listNodes_leads store list).bind ?_ fun _ _ same => same
  rintro nodes between ⟨⟨records, found⟩, same⟩
  -- Nothing was changed, so the nodes have the keys that they had.
  rw [leads_read, same]
  exact ⟨⟨nodes, records, found, rfl⟩, same⟩

/-- Taking out a node fails at once, or when what comes before it has been told. -/
theorem unlink_leads (store : Store) (list node : Address) :
    Leads (unlink list node) store (Either
      (fun _ after => (store.heap.links? node).isSome = true ∧ store.heap.SamePlaces after.heap)
      fun _ after => after = store ∨ ∃ pred succ, store.heap.links? node = some (pred, succ) ∧
        store.heap.hasNeighbour list pred = true ∧ store.heap.hasNeighbour list succ = false ∧
        after.heap = store.heap.tellSucc list pred succ) := by
  rw [unlink_eq]
  refine (requireNode_leads store node).bind ?_ fun _ _ failed => .inl failed.2
  rintro entry store ⟨links, rfl⟩
  refine (linkSucc_leads store list entry.pred entry.succ).bind ?_ fun _ _ failed => .inl failed.2
  rintro _ told ⟨known, changed, moved⟩
  -- What comes before the node has been told by now, so a failure here leaves it half taken out.
  refine (linkPred_leads told list entry.succ entry.pred).either ?_ ?_
  · rintro _ after ⟨-, movedToo⟩
    exact ⟨by rw [links, Option.isSome_some], moved.trans movedToo⟩
  · rintro fault after ⟨lost, rfl⟩
    rw [moved.hasNeighbour] at lost
    exact .inr ⟨_, _, links, known, lost, changed⟩

/-- Freeing a record that is there does not fail. -/
theorem freeRecord_leads {kind : SegmentKind} {address : Address} {entry : Entry}
    (there : store.heap.recordAt? address = some entry) (own : entry.kind = kind) :
    Leads (freeRecord kind address) store (Either (fun _ _ => True) fun _ _ => False) := by
  -- It succeeds, and nothing is asked of the memory afterwards.
  subst own
  exact (freeRecord_succeeds there).mono fun _ _ _ => ⟨⟩

end Store

namespace KernelCall

open Heap Store StoreM

variable {call : KernelCall} {store : Store}

/-- A failure leaves memory as it was, or something in it unfinished. -/
def FailsIn (call : KernelCall) (before : Heap) : Except Fault Address → Store → Prop :=
  Either (fun _ _ => True) fun _ after =>
    after.heap = before ∨ before.Unfinished call.builtin call.arguments after.heap

/-- Where an argument is missing nothing is done. -/
theorem argument_bind {α : Type} {index : Nat} {next : Address → StoreM α}
    {post : Except Fault α → Store → Prop} (missing : ∀ fault, post (.error fault) store)
    (given : ∀ value, call.arguments[index]? = some value → Leads (next value) store post) :
    Leads (call.argument index >>= next) store post := by
  -- Whether the argument is there decides how the call goes on.
  unfold argument
  cases found : call.arguments[index]? with
  | none => exact missing _
  | some value => exact given value found

/-- A node gets its key, or it is not there and nothing changes. -/
theorem setKey_leads (call : KernelCall) (adding : Adding) {index : Nat}
    (key : call.arguments[index]? = adding.key) (store : Store) :
    Leads (call.setKey adding.node index) store (Either
      (fun _ after => after.heap = adding.rekey store.heap ∧
        (adding.key.isSome = true → (store.heap.links? adding.node).isSome = true))
      fun _ after => after = store) := by
  unfold setKey Adding.rekey
  rw [key]
  -- Only a call with a key asks for the node.
  cases adding.key with
  | none => exact ⟨rfl, fun impossible => by cases impossible⟩
  | some key =>
    refine (updateNode_leads store adding.node _).either ?_ ?_
    · rintro _ after ⟨live, changed, -⟩
      exact ⟨changed, fun _ => live⟩
    · rintro fault after ⟨-, same⟩
      exact same

/--
A node gets its key and is put into its place, and where this fails something is unfinished.

It is enough to know what putting it into its place leaves behind.
-/
theorem add_leads {adding : Adding} {node : Address} {index : Nat} {work : StoreM Address}
    (asked : Adding.of? call.builtin call.arguments = some adding) (own : adding.node = node)
    (key : call.arguments[index]? = adding.key)
    (puts : ∀ between : Store, Leads work between (Either (fun _ _ => True) fun _ after =>
      Misplaces between.heap adding.list adding.node (adding.neighbours? between.heap)
        after.heap)) :
    Leads (do call.setKey node index; work) store (call.FailsIn store.heap) := by
  subst own
  refine (setKey_leads call adding key store).bind ?_ fun _ _ same => .inl (congrArg _ same)
  rintro _ between ⟨rekeyed, live⟩
  have moved := adding.samePlaces_rekey store.heap
  refine (puts between).either (fun _ _ _ => ⟨⟩) ?_
  intro fault after misplaced
  rw [rekeyed, adding.neighbours?_rekey] at misplaced
  generalize known : adding.neighbours? store.heap = neighbours at misplaced
  show after.heap = store.heap ∨ store.heap.Unfinished call.builtin call.arguments after.heap
  generalize after.heap = final at misplaced ⊢
  -- What the placing left is told together with the key that was set before it.
  cases misplaced with
  | placeless =>
    cases given : adding.key with
    | none => exact .inl (adding.rekey_of_none given _)
    | some key => exact .inr (.rekeyed asked given (live (by rw [given, Option.isSome_some])) known)
  | nodeless missing =>
    cases given : adding.key with
    | none => exact .inl (adding.rekey_of_none given _)
    | some key =>
      -- A node that has got a key is there.
      rw [moved.nodes, live (by rw [given, Option.isSome_some])] at missing
      cases missing
  | halfway there lost =>
    rw [moved.nodes] at there
    rw [moved.hasNeighbour] at lost
    exact .inr (.halfLinked asked there known lost)

/-- What putting a node to the front of a list leaves behind when it fails. -/
theorem addToFront_leads (given : call.builtin = .addToFront) (store : Store) :
    Leads call.addToFront store (call.FailsIn store.heap) := by
  refine argument_bind (fun _ => .inl rfl) fun list listGiven => ?_
  refine argument_bind (fun _ => .inl rfl) fun node nodeGiven => ?_
  -- With both arguments given, it is known what is to be put where.
  have asked : Adding.of? call.builtin call.arguments =
      some ⟨list, node, call.arguments[2]?, .front⟩ := by
    simp [Adding.of?, given, listGiven, nodeGiven]
  refine add_leads asked rfl rfl fun between => ?_
  exact (linkFront_leads between list node).bind (fun _ _ _ => ⟨⟩) fun _ _ failed => failed

/-- What putting a node to the end of a list leaves behind when it fails. -/
theorem addToEnd_leads (given : call.builtin = .addToEnd) (store : Store) :
    Leads call.addToEnd store (call.FailsIn store.heap) := by
  refine argument_bind (fun _ => .inl rfl) fun list listGiven => ?_
  refine argument_bind (fun _ => .inl rfl) fun node nodeGiven => ?_
  have asked : Adding.of? call.builtin call.arguments =
      some ⟨list, node, call.arguments[2]?, .back⟩ := by
    simp [Adding.of?, given, listGiven, nodeGiven]
  refine add_leads asked rfl rfl fun between => ?_
  -- The node goes after the last one, so the list is looked at first.
  refine (requireList_leads between list).bind ?_ ?_
  · rintro ends between ⟨there, rfl⟩
    have known : Adding.neighbours? ⟨list, node, call.arguments[2]?, .back⟩ between.heap =
        between.heap.neighbours? list ends.last := by
      simp [Adding.neighbours?, Adding.pred?, there]
    rw [known]
    exact place_leads between list ends.last node
  · rintro fault between ⟨missing, rfl⟩
    have lost : Adding.neighbours? ⟨list, node, call.arguments[2]?, .back⟩ between.heap = none := by
      simp [Adding.neighbours?, Adding.pred?, missing]
    rw [either_error, lost]
    exact .placeless

/-- What putting a node after another one leaves behind when it fails. -/
theorem addAfter_leads (given : call.builtin = .addAfter) (store : Store) :
    Leads call.addAfter store (call.FailsIn store.heap) := by
  refine argument_bind (fun _ => .inl rfl) fun list listGiven => ?_
  refine argument_bind (fun _ => .inl rfl) fun reference referenceGiven => ?_
  refine argument_bind (fun _ => .inl rfl) fun node nodeGiven => ?_
  -- With all arguments given, it is known what is to be put where.
  have asked : Adding.of? call.builtin call.arguments =
      some ⟨list, node, call.arguments[3]?, .after reference⟩ := by
    simp [Adding.of?, given, listGiven, referenceGiven, nodeGiven]
  exact add_leads asked rfl rfl fun between => place_leads between list reference node

/-- What deleting a node leaves behind when it fails. -/
theorem deleteKey_leads (given : call.builtin = .deleteKey) (store : Store) :
    Leads call.deleteKey store (call.FailsIn store.heap) := by
  refine argument_bind (fun _ => .inl rfl) fun list listGiven => ?_
  refine argument_bind (fun _ => .inl rfl) fun key keyGiven => ?_
  split
  · exact ⟨⟩
  refine (findNode?_leads store list key).bind ?_ ?_
  · rintro result between ⟨⟨nodes, records, found, first⟩, same⟩
    cases result with
    | none => exact ⟨⟩
    | some node =>
      refine (unlink_leads between list node).bind ?_ ?_
      · -- The node is still there, so it can be freed.
        rintro _ unlinked ⟨live, moved⟩
        rw [← moved.nodes] at live
        obtain ⟨⟨pred, succ⟩, links⟩ := Option.isSome_iff_exists.mp live
        obtain ⟨entry, there, -⟩ := links?_eq_some.mp links
        exact (freeRecord_leads there rfl).bind (fun _ _ _ => ⟨⟩) fun _ _ never => never.elim
      · -- A node that was found has links, so what comes after it is missing.
        rintro fault after (rfl | ⟨pred, succ, links, known, lost, changed⟩)
        · exact .inl same
        · rw [same] at links known lost changed
          have member := Array.mem_of_find?_eq_some first
          obtain ⟨endless, last⟩ := endless_of_lost found member links lost
          right
          rw [changed, given]
          exact .halfUnlinked listGiven keyGiven found endless first last links known lost
  · rintro fault _ rfl
    exact .inl rfl

/-- What disposing of a list leaves behind when it fails. -/
theorem disposeList_leads (given : call.builtin = .disposeList) (store : Store) :
    Leads call.disposeList store (call.FailsIn store.heap) := by
  refine argument_bind (fun _ => .inl rfl) fun list listGiven => ?_
  dsimp only
  split
  · refine (listNodes_leads store list).bind ?_ ?_
    · rintro nodes between ⟨⟨records, found⟩, same⟩
      obtain ⟨ends, stop, ended, trail, -⟩ := trail_of_listNodes found
      have there := ends?_eq_some.mp ended
      rw [← same] at trail there
      rw [show nodes = nodes.toList.toArray from rfl, List.forM_toArray' _ _ rfl]
      refine (freeTrail_leads trail).bind ?_ ?_
      · -- The list is no node, so it is still there and can be freed.
        rintro _ emptied freed
        have kept : list ∉ nodes.toList := by
          intro member
          obtain ⟨entry, isNode⟩ := trail.live list member
          rw [there] at isNode
          cases isNode
        have stillThere := (freed.recordAt?_eq kept).trans there
        exact (freeRecord_leads stillThere rfl).bind (fun _ _ _ => ⟨⟩) fun _ _ never => never.elim
      · -- A node that was freed came up again, so the links go round in a circle.
        rintro fault after ⟨again, freed⟩
        right
        rw [same] at freed
        rw [given]
        exact .emptied listGiven found again freed
    · rintro fault _ rfl
      exact .inl rfl
  · exact ⟨⟩

/--
A kernel function on lists that fails leaves memory as it was, or with what it had begun.

This is so whatever the links in memory are, whether they lead nowhere, into other lists or round in
a circle.
-/
theorem failing_call_leaves {call : KernelCall} {store after : Store} {fault : Fault}
    (onLists : call.builtin ∈ [.addAfter, .addToFront, .addToEnd, .deleteKey, .disposeList])
    (failed : call.run.run store = (.error fault, after)) :
    after.heap = store.heap ∨ store.heap.Unfinished call.builtin call.arguments after.heap := by
  have leads : Leads call.run store (call.FailsIn store.heap) := by
    simp only [List.mem_cons, List.not_mem_nil, or_false] at onLists
    unfold KernelCall.run
    -- Each of the five functions tells by itself how it fails.
    rcases onLists with given | given | given | given | given <;> rw [given]
    · exact addAfter_leads given store
    · exact addToFront_leads given store
    · exact addToEnd_leads given store
    · exact deleteKey_leads given store
    · exact disposeList_leads given store
  rw [Leads, failed] at leads
  exact leads

/-- A node is linked after the last node of a list although the call names another list. -/
theorem failing_call_leaves_halfLinked :
    let call := KernelCall.plain .addAfter [⟨9, 9⟩, ⟨2, 1⟩, ⟨2, 2⟩]
    ∃ fault after, call.run.run listsInRow = (.error fault, after) ∧
      after.heap.links? ⟨2, 1⟩ = some (⟨2, 0⟩, ⟨2, 2⟩) ∧
      listsInRow.heap.Unfinished .addAfter [⟨9, 9⟩, ⟨2, 1⟩, ⟨2, 2⟩] after.heap := by
  intro call
  have refused : (call.run.run listsInRow).1.toOption = none := by decide +kernel
  have linked : (call.run.run listsInRow).2.heap.links? ⟨2, 1⟩ = some (⟨2, 0⟩, ⟨2, 2⟩) := by
    decide +kernel
  have before : listsInRow.heap.links? ⟨2, 1⟩ = some (⟨2, 0⟩, .null) := by decide +kernel
  obtain ⟨fault, failed⟩ := failed_of_toOption refused
  refine ⟨fault, _, failed, linked, ?_⟩
  -- Memory cannot be as before, since a link was set.
  rcases failing_call_leaves (show call.builtin ∈ _ by decide) failed with same | unfinished
  · rw [same, before] at linked
    exact absurd linked (by decide)
  · exact unfinished

/-- A node that could not be put into a list that is not there has its new key all the same. -/
theorem failing_call_rekeys :
    let call := KernelCall.plain .addToFront [⟨9, 9⟩, ⟨2, 2⟩, .number 7]
    ∃ fault after, call.run.run listsInRow = (.error fault, after) ∧
      after.heap.recordAt? ⟨2, 2⟩ ≠ listsInRow.heap.recordAt? ⟨2, 2⟩ := by
  -- The outcome is computed as an `Option`, since faults carry texts that need not be compared.
  intro call
  obtain ⟨fault, failed⟩ := failed_of_toOption
    (by decide +kernel : (call.run.run listsInRow).1.toOption = none)
  exact ⟨fault, _, failed, by decide +kernel⟩

end KernelCall

end AdventureVm
