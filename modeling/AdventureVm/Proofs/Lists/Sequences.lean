import AdventureVm.Proofs.Lists.Links

/-!
Lists that represent sequences of nodes.

A sequence that is parted can be closed again, with or without a node between its parts.
-/

namespace AdventureVm

/-- Only null is null. -/
theorem Address.isNull_iff {address : Address} : address.isNull = true ↔ address = .null := by
  -- Both parts of the address are zero.
  cases address
  simp [isNull, null]

/-- What is in a row without null is not null. -/
theorem Address.isNull_of_mem {address : Address} {row : List Address} (real : .null ∉ row)
    (member : address ∈ row) : address.isNull = false := by
  -- An address that is null would be the one that the row does not have.
  rw [Bool.eq_false_iff, Ne, isNull_iff]
  rintro rfl
  exact real member

namespace Heap

/-- The nodes follow each other in order, after one address and before another one. -/
def Linked (heap : Heap) : Address → List Address → Address → Prop
  | _, [], _ => True
  | pred, node :: rest, succ =>
    heap.links? node = some (pred, rest.headD succ) ∧ heap.Linked node rest succ

/--
A list represents a sequence of nodes.

Its ends and the links of the nodes connect exactly these nodes, which are in memory and all
different, in this order.
-/
structure Represents (heap : Heap) (list : Address) (nodes : List Address) : Prop where
  /-- The ends of the list are the first node and the last one. -/
  ends : heap.ends? list = some ⟨nodes.headD .null, nodes.getLastD .null⟩
  /-- The nodes follow each other, and there is nothing before or after them. -/
  linked : heap.Linked .null nodes .null
  /-- No node comes twice. -/
  distinct : nodes.Nodup

/--
A list is in two parts.

What ends the front says that one address comes next, and what begins the rest says that another one
comes before. Where a part has no nodes, the list itself says so.
-/
structure Parted (heap : Heap) (list : Address) (front rest : List Address)
    (succ pred : Address) : Prop where
  /-- The list says what comes first and what comes last. -/
  ends : heap.ends? list = some ⟨front.headD succ, rest.getLastD pred⟩
  /-- The nodes of the front follow each other. -/
  front : heap.Linked .null front succ
  /-- The nodes of the rest follow each other. -/
  rest : heap.Linked pred rest .null

variable {heap before after : Heap} {list node pred succ : Address}
  {front rest nodes changed lists : List Address}

/-- What follows a row of two parts follows the second one, unless that is empty. -/
theorem headD_append (front rest : List Address) (fallback : Address) :
    (front ++ rest).headD fallback = front.headD (rest.headD fallback) := by
  cases front <;> rfl

/-- A row without null begins with null only if it is empty. -/
theorem isNull_headD (real : .null ∉ nodes) : (nodes.headD .null).isNull = nodes.isEmpty := by
  -- An empty row falls back to null; any other begins with one of its nodes.
  cases nodes with
  | nil => rfl
  | cons first nodes => exact Address.isNull_of_mem real List.mem_cons_self

/-- What ends a row of two parts ends the second one, unless that is empty. -/
theorem getLastD_append (front rest : List Address) (fallback : Address) :
    (front ++ rest).getLastD fallback = rest.getLastD (front.getLastD fallback) := by
  -- Induction on the first part, whose end becomes the fallback of the second.
  induction front generalizing fallback with
  | nil => rfl
  | cons first front ih => rw [List.cons_append, List.getLastD_cons, List.getLastD_cons, ih]

/-- A row is linked when its parts are, and each part says that the other one is next to it. -/
theorem linked_append : heap.Linked pred (front ++ rest) succ ↔
    heap.Linked pred front (rest.headD succ) ∧ heap.Linked (front.getLastD pred) rest succ := by
  -- Induction on the first part; the predecessor changes at every node.
  induction front generalizing pred with
  | nil => simp [Linked]
  | cons first front ih =>
    rw [List.cons_append, Linked, Linked, ih, headD_append, List.getLastD_cons, and_assoc]

/-- Nodes stay linked where their links stay. -/
theorem Linked.congr (linked : before.Linked pred nodes succ)
    (same : ∀ node ∈ nodes, after.links? node = before.links? node) :
    after.Linked pred nodes succ := by
  -- Induction on the row: each node has the links that it had.
  induction nodes generalizing pred with
  | nil => trivial
  | cons first nodes ih =>
    obtain ⟨links, rest⟩ := linked
    refine ⟨by rw [same first List.mem_cons_self, links], ih rest ?_⟩
    exact fun node member => same node (List.mem_cons_of_mem _ member)

/-- Linked nodes are nodes in memory. -/
theorem Linked.live (linked : heap.Linked pred nodes succ) :
    ∀ address ∈ nodes, ∃ node, heap.recordAt? address = some (.node node) := by
  -- Each node is asked for its links, which only a node has.
  induction nodes generalizing pred with
  | nil => simp
  | cons first nodes ih =>
    obtain ⟨links, rest⟩ := linked
    obtain ⟨node, there, _⟩ := links?_eq_some.mp links
    intro address member
    rcases List.mem_cons.mp member with rfl | later
    · exact ⟨node, there⟩
    · exact ih rest address later

/-- A list that represents a sequence of two parts is one in these two parts. -/
theorem represents_append : heap.Represents list (front ++ rest) ↔
    heap.Parted list front rest (rest.headD .null) (front.getLastD .null) ∧
      (front ++ rest).Nodup := by
  constructor
  · rintro ⟨ends, linked, distinct⟩
    -- The ends of the whole are told by its parts.
    rw [headD_append, getLastD_append] at ends
    obtain ⟨linkedFront, linkedRest⟩ := linked_append.mp linked
    exact ⟨⟨ends, linkedFront, linkedRest⟩, distinct⟩
  · rintro ⟨⟨ends, linkedFront, linkedRest⟩, distinct⟩
    refine ⟨?_, linked_append.mpr ⟨linkedFront, linkedRest⟩, distinct⟩
    rw [headD_append, getLastD_append]
    exact ends

/-- A list represents a sequence when both parts around a node name the node, and it names them. -/
theorem represents_around : heap.Represents list (front ++ node :: rest) ↔
    heap.Parted list front rest node node ∧
      heap.links? node = some (front.getLastD .null, rest.headD .null) ∧
      (front ++ node :: rest).Nodup := by
  constructor
  · intro represents
    obtain ⟨⟨ends, linkedFront, links, linkedRest⟩, distinct⟩ := represents_append.mp represents
    -- The second part begins with the node, so its last node is a node in any case.
    rw [List.getLastD_cons] at ends
    exact ⟨⟨ends, linkedFront, linkedRest⟩, links, distinct⟩
  · rintro ⟨⟨ends, linkedFront, linkedRest⟩, links, distinct⟩
    refine represents_append.mpr ⟨⟨?_, linkedFront, links, linkedRest⟩, distinct⟩
    rw [List.getLastD_cons]
    exact ends

/-- A list stays in two parts when neither it nor its nodes are linked otherwise. -/
theorem Parted.of_relinked (parted : before.Parted list front rest succ pred)
    (relinked : before.Relinked lists changed after) (listKept : list ∉ lists)
    (frontKept : front.Disjoint changed) (restKept : rest.Disjoint changed) :
    after.Parted list front rest succ pred :=
  -- The ends, the first part and the second part are kept one by one.
  ⟨(relinked.ends list listKept).trans parted.ends,
    parted.front.congr fun node member => relinked.links node (frontKept member),
    parted.rest.congr fun node member => relinked.links node (restKept member)⟩

/-- A list represents what it did when neither it nor its nodes are linked otherwise. -/
theorem Represents.of_relinked (represents : before.Represents list nodes)
    (relinked : before.Relinked lists changed after) (listKept : list ∉ lists)
    (nodesKept : nodes.Disjoint changed) : after.Represents list nodes :=
  -- The ends and the links are kept; that nodes are distinct does not depend on memory.
  ⟨(relinked.ends list listKept).trans represents.ends,
    represents.linked.congr fun node member => relinked.links node (nodesKept member),
    represents.distinct⟩

end Heap

end AdventureVm
