import AdventureVm.Proofs.Lists.Traversal

/-!
Going through a list whose links may lead anywhere.

What is found follows the links to what comes next. Once a node is found again, nothing is found
that was not found before. So where freeing all that was found fails, all of it is gone.
-/

namespace AdventureVm

namespace Heap

variable {heap : Heap} {start stop node pred succ list : Address}
  {nodes front back : List Address}

/-- The links to what comes next lead from one address through these nodes to another address. -/
inductive Trail (heap : Heap) : Address → List Address → Address → Prop where
  | ended (stop : Address) : Trail heap stop [] stop
  | next {node pred succ stop : Address} {rest : List Address}
      (links : heap.links? node = some (pred, succ)) (trail : Trail heap succ rest stop) :
      Trail heap node (node :: rest) stop

/-- Only nodes are on a trail. -/
theorem Trail.live (trail : heap.Trail start nodes stop) :
    ∀ address ∈ nodes, ∃ entry, heap.recordAt? address = some (.node entry) := by
  -- Every step leaves a node by its links.
  induction trail with
  | ended stop => simp
  | next links _ ih =>
    obtain ⟨entry, there, -⟩ := links?_eq_some.mp links
    intro address member
    rcases List.mem_cons.mp member with rfl | later
    · exact ⟨entry, there⟩
    · exact ih address later

/-- A trail leads to each of its nodes, and goes on from there to what comes next. -/
theorem Trail.parted (trail : heap.Trail start (front ++ node :: back) stop) :
    heap.Trail start front node ∧
      ∃ pred succ, heap.links? node = some (pred, succ) ∧ heap.Trail succ back stop := by
  -- The steps before the node are taken one by one.
  induction front generalizing start with
  | nil =>
    cases trail with
    | next links rest => exact ⟨.ended node, _, _, links, rest⟩
  | cons first front ih =>
    cases trail with
    | next links rest =>
      obtain ⟨before, after⟩ := ih rest
      exact ⟨.next links before, after⟩

/-- What comes next after a node of a trail is on the trail, or is where it stops. -/
theorem Trail.succ_mem (trail : heap.Trail start nodes stop) (member : node ∈ nodes)
    (links : heap.links? node = some (pred, succ)) : succ ∈ nodes ∨ succ = stop := by
  induction trail with
  | ended stop => cases member
  | @next first _ _ stop rest found trail ih =>
    rcases List.mem_cons.mp member with rfl | later
    · -- A node has one successor, which is where the trail goes on.
      obtain ⟨-, rfl⟩ : _ = pred ∧ _ = succ := by simpa using found.symm.trans links
      cases trail with
      | ended => exact .inr rfl
      | next => exact .inl (by simp)
    · exact (ih later).imp_left (List.mem_cons_of_mem _)

/-- A trail does not leave nodes after which only these come. -/
theorem Trail.subset (trail : heap.Trail start nodes stop) {closed : List Address}
    (stays : ∀ node ∈ closed, ∀ pred succ, heap.links? node = some (pred, succ) → succ ∈ closed)
    (inside : start ∈ closed) : nodes ⊆ closed := by
  -- Induction on the trail: a step from a closed set of nodes ends inside of it.
  induction trail with
  | ended stop => exact List.nil_subset _
  | next links _ ih =>
    exact List.cons_subset.mpr ⟨inside, ih (stays _ inside _ _ links)⟩

/-- A trail that comes back to one of its nodes leads to no others. -/
theorem Trail.subset_of_mem (trail : heap.Trail start (front ++ node :: back) stop)
    (again : node ∈ front) : front ++ node :: back ⊆ front := by
  obtain ⟨before, pred, succ, links, after⟩ := trail.parted
  -- What comes after a node before the repetition is there as well, for the repeated node is.
  have stays : ∀ other ∈ front, ∀ pred succ, heap.links? other = some (pred, succ) →
      succ ∈ front := by
    intro other member pred succ links
    rcases before.succ_mem member links with inside | rfl
    · exact inside
    · exact again
  have rest := Trail.subset (.next links after) stays again
  exact List.append_subset.mpr ⟨List.Subset.refl _, rest⟩

/-- What is found from one address on follows a trail, up to its end or up to a bound. -/
theorem trail_of_nodesFrom {limit : Nat} {found all : Array Address} {records : List Record}
    (result : heap.nodesFrom list limit start found = .ok (all, records)) :
    ∃ nodes stop, all = found ++ nodes.toArray ∧ heap.Trail start nodes stop ∧
      (stop.isNull = true ∨ nodes.length = limit) := by
  induction limit generalizing start found with
  | zero =>
    -- At the bound nothing more is looked at, whether the list ends there or not.
    unfold nodesFrom at result
    split at result
    all_goals
      cases result
      exact ⟨[], start, by simp, .ended start, .inr rfl⟩
  | succ limit ih =>
    unfold nodesFrom at result
    split at result
    · rename_i null
      cases result
      exact ⟨[], start, by simp, .ended start, .inl null⟩
    · obtain ⟨entry, there, rest⟩ := bind_eq_ok.mp result
      obtain ⟨nodes, stop, rfl, trail, ended⟩ := ih rest
      have links := links?_eq_some.mpr ⟨entry, node_eq_ok.mp there, rfl, rfl⟩
      refine ⟨start :: nodes, stop, by simp, .next links trail, ended.imp_right ?_⟩
      exact fun full => by rw [List.length_cons, full]

/-- The nodes of a list are those of a trail, which begins with the first node. -/
theorem trail_of_listNodes {all : Array Address} {records : List Record}
    (result : heap.listNodes list = .ok (all, records)) :
    ∃ ends stop, heap.ends? list = some ends ∧ heap.Trail ends.first all.toList stop ∧
      (stop.isNull = true ∨ all.size = Pool.maxSlots) := by
  -- The walk starts at the first node with nothing gathered yet.
  obtain ⟨ends, there, rest⟩ := bind_eq_ok.mp result
  obtain ⟨nodes, stop, same, trail, ended⟩ := trail_of_nodesFrom rest
  rw [Array.empty_append] at same
  subst same
  exact ⟨ends, stop, ends?_eq_some.mpr (list_eq_ok.mp there), trail, ended⟩

/-- It does not matter in which order and how often what was freed is told. -/
theorem Freed.congr {before after : Heap} {freed told : List Address}
    (given : before.Freed freed after) (same : ∀ address, address ∈ freed ↔ address ∈ told) :
    before.Freed told after :=
  ⟨fun address => by rw [given.records]; simp only [same], given.others⟩

end Heap

namespace Store

open Heap StoreM

variable {store : Store} {before : Heap} {freed nodes : List Address} {start stop : Address}

/-- A record that is not there is not freed, and nothing changes. -/
theorem freeRecord_missing {kind : SegmentKind} {address : Address}
    (missing : store.heap.recordAt? address = none) :
    Leads (freeRecord kind address) store (Either (fun _ _ => False) fun _ after =>
      after = store) := by
  -- Freeing is refused where there is no pool of the kind, or no record in it.
  have absent : (kind.isPool && store.heap.kind? address.segment == some kind &&
      store.heap.isValidAddress address) = false := by
    cases found : store.heap.get? address.segment with
    | none => simp [isValidAddress, found]
    | some segment =>
      rw [recordAt?, found, Option.bind_some] at missing
      have empty := segment.isSome_recordAt? address.offset
      rw [missing, Option.isSome_none] at empty
      by_cases same : segment.kind = kind
      · subst same
        simpa [kind?, found, isValidAddress] using empty.symm
      · simp [kind?, found, same]
  simp only [freeRecord, leads_bind, leads_read, either_ok, absent, Bool.false_eq_true, if_false,
    leads_throw, either_error]

/-- Nodes are freed one after the other, up to one that is already gone. -/
theorem freeNodes_leads (given : before.Freed freed store.heap)
    (live : ∀ address ∈ nodes, ∃ entry, before.recordAt? address = some (.node entry)) :
    Leads (nodes.forM (freeRecord .nodes)) store (Either
      (fun _ after => before.Freed (freed ++ nodes) after.heap)
      fun _ after => ∃ front node back, nodes = front ++ node :: back ∧ node ∈ freed ++ front ∧
        before.Freed (freed ++ front) after.heap) := by
  -- What is freed grows from node to node, so it stays quantified over.
  induction nodes generalizing store freed with
  | nil => simpa using given
  | cons first nodes ih =>
    show Leads (freeRecord .nodes first >>= fun _ => nodes.forM (freeRecord .nodes)) store _
    by_cases gone : first ∈ freed
    · -- The node was freed before, so the way ends here.
      have missing : store.heap.recordAt? first = none := by rw [given.records, if_pos gone]
      refine (freeRecord_missing missing).bind (fun _ _ impossible => impossible.elim) ?_
      rintro _ after rfl
      exact ⟨[], first, nodes, rfl, by simpa using gone, by simpa using given⟩
    · obtain ⟨entry, there⟩ := live first List.mem_cons_self
      have freedNow := freeRecord_freed ((given.recordAt?_eq gone).trans there)
      refine Leads.bind freedNow ?_ fun _ _ impossible => impossible.elim
      intro _ between freedFirst
      have rest := ih (given.trans freedFirst) fun address member =>
        live address (List.mem_cons_of_mem _ member)
      refine rest.either (fun _ after all => ?_) fun fault after failed => ?_
      · rw [List.append_assoc] at all
        exact all
      · obtain ⟨front, node, back, rfl, again, part⟩ := failed
        rw [List.append_assoc] at again part
        exact ⟨first :: front, node, back, rfl, again, part⟩

/-- The nodes of a trail are freed, even when one of them comes twice, but then this fails. -/
theorem freeTrail_leads (trail : store.heap.Trail start nodes stop) :
    Leads (nodes.forM (freeRecord .nodes)) store (Either
      (fun _ after => store.heap.Freed nodes after.heap)
      fun _ after => ¬ nodes.Nodup ∧ store.heap.Freed nodes after.heap) := by
  -- Freeing fails only at a node that was freed before, so one that comes twice.
  refine (freeNodes_leads (.refl _) trail.live).either (fun _ _ all => all) ?_
  rintro _ after ⟨front, node, back, rfl, again, part⟩
  rw [List.nil_append] at again part
  refine ⟨?_, part.congr fun address => ?_⟩
  · intro distinct
    exact (List.nodup_append.mp distinct).2.2 node again node List.mem_cons_self rfl
  · exact ⟨fun early => List.mem_append_left _ early, fun found => trail.subset_of_mem again found⟩

end Store

end AdventureVm
