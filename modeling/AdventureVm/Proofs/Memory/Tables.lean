import AdventureVm.Proofs.Loader.Variables
import AdventureVm.Proofs.Memory.Enduring
import AdventureVm.Proofs.Memory.Steady

/-!
Every table of local variables in memory is within reach of offsets.

Loading brings no larger one, and nothing that is done to memory makes a table grow. This needs
nothing of how the tables of memory agree with each other, so any segment may be taken out at any
time, even where that fails halfway.
-/

namespace AdventureVm

namespace Segment

/-- What is no table of variables is within reach. -/
theorem isReachable_of_kind {segment : Segment} (other : segment.kind ≠ .locals) :
    segment.IsReachable := by
  -- The condition is one on tables of variables.
  intro table same
  rw [same] at other
  exact absurd rfl other

/-- What takes the place of a table of variables in the course of work is no larger. -/
theorem IsReachable.persists {old new : Segment} (reachable : old.IsReachable)
    (persists : old.Persists new) : new.IsReachable := by
  intro table same
  have kind : old.kind = .locals := by
    rw [← persists.akin.kind_eq, same]
    rfl
  -- A table comes from a table, and has as many values as that one.
  cases old with
  | locals earlier =>
    rw [persists.values earlier table rfl same]
    exact reachable earlier rfl
  | _ => cases kind

end Segment

namespace Heap

/-- Every table of variables in memory is within reach of offsets. -/
structure WithinReach (heap : Heap) : Prop where
  /-- Place zero is there. -/
  opened : 0 < heap.segments.size
  tables : ∀ id segment, heap.get? id = some segment → segment.IsReachable

namespace WithinReach

variable {heap before after : Heap} {id : SegmentId}

/-- Tables stay within reach when what comes is within reach. -/
theorem of_places (reach : before.WithinReach) (opened : 0 < after.segments.size)
    (places : ∀ place segment, after.get? place = some segment →
      before.get? place = some segment ∨ segment.IsReachable) : after.WithinReach where
  opened := opened
  -- A table was there before, or it came and is within reach.
  tables place segment found := by
    rcases places place segment found with earlier | reachable
    · exact reach.tables place segment earlier
    · exact reachable

/-- Tables do not depend on what memory knows of scripts, classes and pools. -/
theorem of_segments (reach : before.WithinReach) (same : after.segments = before.segments) :
    after.WithinReach := by
  -- All segments were there before.
  apply reach.of_places (same ▸ reach.opened)
  intro place segment present
  rw [get?, same] at present
  exact .inl present

/-- Tables stay within reach when a place is emptied. -/
theorem vacate (reach : heap.WithinReach) {segment : Segment}
    (found : heap.get? id = some segment) : (heap.put id none).WithinReach := by
  -- Nothing comes when a place is emptied.
  apply reach.of_places (by simpa [put] using reach.opened)
  intro place other present
  rw [get?_put found] at present
  split at present
  · cases present
  · exact .inl present

/-- Tables stay within reach when a segment is replaced by one that is within reach. -/
theorem replace (reach : heap.WithinReach) {old new : Segment} (found : heap.get? id = some old)
    (reachable : new.IsReachable) : (heap.put id (some new)).WithinReach := by
  -- Only the new segment comes.
  apply reach.of_places (by simpa [put] using reach.opened)
  intro place other present
  rw [get?_put found] at present
  split at present
  · exact .inr (Option.some.inj present ▸ reachable)
  · exact .inl present

/-- Tables stay within reach when a segment comes that is within reach. -/
theorem insert (reach : heap.WithinReach) (next : heap.nextId? = some id) {segment : Segment}
    (reachable : segment.IsReachable) : (heap.insert id segment).WithinReach := by
  obtain ⟨atEnd, _, _⟩ := nextId?_vacant next
  apply reach.of_places
  · exact Nat.lt_of_lt_of_le reach.opened (size_le_insert _ _ _)
  · intro place other present
    rw [get?_insert atEnd] at present
    -- A segment of the new memory is the one that came, or an old one.
    split at present
    · exact .inr (Option.some.inj present ▸ reachable)
    · exact .inl present

/-- Tables stay within reach when a script is loaded. -/
theorem load (reach : before.WithinReach) {resources : Resources} {number : UInt16}
    (loaded : before.Loaded resources number id after) : after.WithinReach := by
  obtain ⟨script, locals, localsSegment, _, found, _⟩ := loaded.script
  apply reach.of_places (Nat.zero_lt_of_lt (inside_of_get? found))
  intro place segment present
  have arrived := loaded.arrivals _ found place
  split at arrived
  · -- What came is the script, or its variables as the resources offer them.
    rename_i came
    apply Or.inr
    rcases came with rfl | ⟨withVariables, rfl⟩
    · rw [found, Option.some.injEq] at present
      subst present
      exact Segment.isReachable_of_kind (by simp [Segment.kind])
    · obtain ⟨_, values, offers, tableAt⟩ := loaded.ownVariables _ found withVariables
      rw [tableAt, Option.some.injEq] at present
      subst present
      intro table same
      obtain rfl := Segment.locals.inj same
      exact offers.withinReach
  · exact .inl (arrived ▸ present)

/-- Tables stay within reach while memory develops. -/
theorem develops (reach : before.WithinReach) (develops : before.Develops after) :
    after.WithinReach := by
  -- A table comes to memory with a script or by itself, and is never made longer.
  induction develops with
  | refl => exact reach
  | alike _ alike grown _ ih =>
    apply ih.of_places (Nat.lt_of_lt_of_le ih.opened grown)
    intro place segment present
    exact .inl (alike.places place ▸ present)
  | loaded _ loaded _ ih => exact ih.load loaded
  -- What is left was there before.
  | departed _ found _ left ih =>
    apply ih.of_places (by simpa [left.size] using ih.opened)
    intro place segment present
    rw [left.places] at present
    split at present
    · cases present
    · exact .inl present
  | inserted _ next _ _ _ reachable ih => exact ih.insert next reachable
  | vacated _ found _ _ ih => exact (ih.vacate found).of_segments rfl
  | replaced _ found persists _ ih =>
    exact ih.replace found ((ih.tables _ _ found).persists persists)
  | read _ found _ ih =>
    exact ih.replace found (Segment.isReachable_of_kind (by simp [Segment.kind]))
  | registered _ _ _ _ _ ih => exact ih.of_segments rfl
  | pooled _ _ _ ih => exact ih.of_segments rfl

end WithinReach

end Heap

namespace Store

open Heap StoreM

/-- Tables stay within reach when a segment is taken out, also when that fails halfway. -/
theorem free_withinReach (id : SegmentId) : (free id).Keeps WithinReach :=
  free_keeps_of_emptying (fun reach found => reach.vacate found) WithinReach.of_segments id

/-- Tables stay within reach when a record or a script is freed. -/
theorem freeAt_withinReach (address : Address) : (freeAt address).Keeps WithinReach :=
  fun store reach => freeAt_comesTo reach.opened
    (fun _ => free_withinReach address.segment store reach) reach.develops

end Store

namespace Action

/-- No table of variables that is put into memory or changed by hand is too large for offsets. -/
def IsMeasured (action : Action) : Prop :=
  match action with
  | insert segment => segment.IsReachable
  | alter _ change => ∀ segment : Segment, segment.IsReachable → (change segment).IsReachable
  | _ => True

/-- Whatever is done to memory, tables stay within reach. -/
theorem run_withinReach {action : Action} {store : Store} (measured : action.IsMeasured)
    (reach : store.heap.WithinReach) : (action.run store).heap.WithinReach := by
  -- What the machine does itself lets memory develop; the other actions are gone through.
  rcases action.develops_or_drastic reach.opened with develops | drastic
  · exact reach.develops develops
  · cases drastic with
    | insert segment =>
      show Leads (Store.insert segment) store fun _ after => after.heap.WithinReach
      rw [Store.leads_insert]
      cases next : store.heap.nextId? with
      | none => exact reach
      | some id => exact reach.insert next measured
    | deallocate id => exact Store.free_withinReach id store reach
    | freeAt address => exact Store.freeAt_withinReach address store reach
    -- A change is asked to leave a table within reach.
    | alter id change =>
      show (store.heap.modify id change).WithinReach
      cases found : store.heap.get? id with
      | none =>
        rw [Heap.modify_of_none found]
        exact reach
      | some segment =>
        rw [Heap.modify_eq_put found]
        exact reach.replace found (measured segment (reach.tables id segment found))
    | alterClasses change => exact reach.of_segments rfl
    | collect context => exact Store.collect_keeps Store.freeAt_withinReach context reach

end Action

end AdventureVm
