import AdventureVm.Proofs.Lists.Sequences

/-!
Going through the sequence of a list: reading all of it, looking for a key, and freeing its nodes.
-/

namespace AdventureVm

/-- The record is a node with a key. -/
def Entry.hasKey (key : Address) : Entry → Bool
  | node contents => contents.key == key
  | _ => false

namespace Heap

variable {heap before between after : Heap} {list pred : Address} {nodes freed : List Address}

/-- Whether a node has a key does not depend on its links. -/
theorem hasKey_eq (heap : Heap) (key address : Address) :
    heap.hasKey key address = (heap.contents? address).any (Entry.hasKey key) := by
  rw [hasKey, contents?]
  cases found : heap.node address with
  | ok node =>
    rw [node_eq_ok.mp found]
    rfl
  | error fault =>
    -- What is no node has no key.
    cases there : heap.recordAt? address with
    | none => rfl
    | some entry =>
      cases entry with
      | node node => rw [node_eq_ok.mpr there] at found; cases found
      | _ => rfl

/-- From the first of linked nodes on, exactly these are found, if no more are looked at. -/
theorem nodesFrom_linked (linked : heap.Linked pred nodes .null) (real : .null ∉ nodes)
    {limit : Nat} (small : nodes.length ≤ limit) (found : Array Address) :
    heap.nodesFrom list limit (nodes.headD .null) found = .ok (found ++ nodes.toArray, []) := by
  -- Along the way the limit shrinks and more has been found, so both stay quantified over.
  induction nodes generalizing pred limit found with
  | nil =>
    unfold nodesFrom
    simp [Address.isNull, Address.null]
  | cons first nodes ih =>
    obtain ⟨links, rest⟩ := linked
    obtain ⟨node, there, -, succ⟩ := links?_eq_some.mp links
    have nonnull := Address.isNull_of_mem real List.mem_cons_self
    rw [List.mem_cons, not_or] at real
    cases limit with
    | zero => simp at small
    | succ limit =>
      rw [List.headD_cons, nodesFrom, if_neg (by simp [nonnull]), node_eq_ok.mpr there]
      show heap.nodesFrom list limit node.succ (found.push first) = _
      rw [succ, ih rest real.2 (Nat.le_of_succ_le_succ small)]
      simp

/-- The nodes of a list are those of the sequence that it represents. -/
theorem Represents.listNodes (represents : heap.Represents list nodes) (real : .null ∉ nodes)
    (small : nodes.length ≤ Pool.maxSlots) : heap.listNodes list = .ok (nodes.toArray, []) := by
  -- The walk starts at the first node with nothing gathered yet.
  rw [Heap.listNodes, list_eq_ok.mpr (ends?_eq_some.mp represents.ends)]
  show heap.nodesFrom list Pool.maxSlots (nodes.headD .null) #[] = _
  rw [nodesFrom_linked represents.linked real small, Array.empty_append]

/-- Some records were freed, and nothing else in memory changed. -/
structure Freed (before : Heap) (freed : List Address) (after : Heap) : Prop where
  /-- These records are gone, and all others are as they were. -/
  records : ∀ address,
    after.recordAt? address = if address ∈ freed then none else before.recordAt? address
  /-- Whatever is no pool is as it was. -/
  others : before.SparesOthers after

namespace Freed

/-- Nothing was freed. -/
theorem refl (heap : Heap) : heap.Freed [] heap :=
  ⟨fun _ => by simp, .refl heap⟩

/-- What was freed first and what was freed then was freed. -/
theorem trans {more : List Address} (first : before.Freed freed between)
    (second : between.Freed more after) : before.Freed (freed ++ more) after := by
  -- By whether the address was freed early, late, or not at all.
  refine ⟨?_, first.others.trans second.others⟩
  intro address
  by_cases late : address ∈ more <;> by_cases early : address ∈ freed <;>
    simp [second.records, first.records, late, early]

/-- What was not freed is as it was. -/
theorem recordAt?_eq (given : before.Freed freed after) {address : Address}
    (kept : address ∉ freed) : after.recordAt? address = before.recordAt? address := by
  rw [given.records, if_neg kept]

/-- A list represents what it did when neither it nor one of its nodes was freed. -/
theorem represents (given : before.Freed freed after) (represents : before.Represents list nodes)
    (listKept : list ∉ freed) (nodesKept : nodes.Disjoint freed) :
    after.Represents list nodes := by
  -- Neither the list nor one of its nodes is among the freed, so their records are as before.
  refine ⟨?_, represents.linked.congr ?_, represents.distinct⟩
  · rw [ends?, given.recordAt?_eq listKept]
    exact represents.ends
  · intro node member
    rw [links?, links?, given.recordAt?_eq (nodesKept member)]

end Freed

end Heap

namespace Store

open Heap StoreM

variable {store : Store} {list : Address} {nodes : List Address}

/-- A record that is freed is gone, and nothing else. -/
theorem freeRecord_freed {address : Address} {entry : Entry}
    (there : store.heap.recordAt? address = some entry) :
    (freeRecord entry.kind address).Succeeds store fun _ after =>
      store.heap.Freed [address] after.heap := by
  refine (freeRecord_succeeds there).mono ?_
  intro _ after changed
  -- Releasing a slot empties it, whatever the rest of its pool holds.
  rw [changed]
  refine ⟨?_, sparesOthers_modify _ _ fun segment other => ?_⟩
  · intro other
    rw [recordAt?_modify_release]
    simp
  · cases segment <;> first | rfl | cases other

/-- Different nodes are freed one after the other. -/
theorem freeNodes_succeeds (distinct : nodes.Nodup)
    (live : ∀ address ∈ nodes, ∃ node, store.heap.recordAt? address = some (.node node)) :
    (nodes.forM (freeRecord .nodes)).Succeeds store fun _ after =>
      store.heap.Freed nodes after.heap := by
  induction nodes generalizing store with
  | nil => exact .refl store.heap
  | cons first nodes ih =>
    rw [List.nodup_cons] at distinct
    obtain ⟨node, there⟩ := live first List.mem_cons_self
    show (freeRecord .nodes first >>= fun _ => nodes.forM (freeRecord .nodes)).Succeeds _ _
    refine (freeRecord_freed there).bind ?_
    intro _ between freed
    refine (ih distinct.2 ?_).mono fun _ after rest => freed.trans rest
    -- The other nodes are still there.
    intro address member
    rw [freed.recordAt?_eq]
    · exact live address (List.mem_cons_of_mem _ member)
    · rintro same
      exact distinct.1 (List.mem_singleton.mp same ▸ member)

/-- The first node of a sequence that has a key is found. -/
theorem findNode?_succeeds (represents : store.heap.Represents list nodes) (real : .null ∉ nodes)
    (small : nodes.length ≤ Pool.maxSlots) (key : Address) :
    (findNode? list key).Succeeds store fun found after =>
      found = nodes.find? (store.heap.hasKey key) ∧ after = store := by
  -- Going through the list gives its nodes; the search is then one in a list of addresses.
  refine (succeeds_noted (represents.listNodes real small)).bind ?_
  rintro _ between ⟨rfl, rfl⟩
  exact ⟨List.find?_toArray _ _, rfl⟩

end Store

end AdventureVm
