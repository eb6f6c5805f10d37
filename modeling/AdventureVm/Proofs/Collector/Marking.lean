import AdventureVm.Proofs.Collector.Entities
import AdventureVm.Proofs.Collector.Reach

/-! Marking leaves unreached exactly what cannot be reached. -/

namespace AdventureVm

/-- When no address can be taken, none waits. -/
theorem Worklist.toList_of_pop?_none {work : Worklist} (taken : work.pop? = none) :
    work.toList = [] := by
  -- The front is used up, and so is the back.
  obtain ⟨front, back⟩ := work
  cases front with
  | cons first rest => simp [pop?] at taken
  | nil =>
    simp only [pop?] at taken
    split at taken
    · simp at taken
    · rename_i reversed
      simp [toList, reversed]

namespace Heap

variable {heap : Heap} {context : Context} {work : Worklist} {marking : Marking}

/-- Marking never adds to what is unreached. -/
theorem mark_subset {entity : Address} (left : entity ∈ (heap.mark work marking).unreached) :
    entity ∈ marking.unreached := by
  -- A step either leaves the set alone or takes one thing out of it.
  fun_induction mark heap work marking with
  | case1 => exact left
  | case2 work marking address rest taken nowhere ih => exact ih left
  | case3 work marking address rest taken target found new ih =>
    exact Std.HashSet.mem_of_mem_erase (ih left)
  | case4 work marking address rest taken target found old ih => exact ih left

/-- Only things that waiting addresses lead to, through any number of things, are reached. -/
theorem mark_reached (sound : heap.Sound) {reached : Address → Prop}
    (closed : ∀ {holder value entity}, reached holder → heap.Holds holder value →
      heap.LeadsTo value entity → reached entity)
    (waiting : ∀ address ∈ work.toList, ∀ entity, heap.LeadsTo address entity → reached entity)
    {entity : Address} (before : entity ∈ marking.unreached)
    (after : entity ∉ (heap.mark work marking).unreached) : reached entity := by
  -- Whatever is put on the list is held by a thing that was reached.
  fun_induction mark heap work marking with
  | case1 => exact absurd before after
  | case2 work marking address rest taken nowhere ih =>
    -- An address that leads nowhere is dropped.
    rw [Worklist.toList_of_pop? taken] at waiting
    exact ih (fun other member => waiting other (List.mem_cons_of_mem _ member)) before after
  | case3 work marking address rest taken target found new ih =>
    rw [Worklist.toList_of_pop? taken] at waiting
    have leads := (target?_eq_some sound).mp found
    have here : reached target := waiting address List.mem_cons_self target leads
    by_cases same : entity = target
    · rw [same]
      exact here
    · apply ih ?_ ?_ after
      · -- What waits now waited before, or is held by what was just reached.
        intro other member next onward
        rw [Worklist.toList_append, List.mem_append] at member
        rcases member with earlier | added
        · exact waiting other (List.mem_cons_of_mem _ earlier) next onward
        · have holds := (mem_contents sound leads).mp (List.mem_filter.mp added).1
          exact closed here holds onward
      · exact Std.HashSet.mem_erase.mpr ⟨by simpa using Ne.symm same, before⟩
  | case4 work marking address rest taken target found old ih =>
    rw [Worklist.toList_of_pop? taken] at waiting
    exact ih (fun other member => waiting other (List.mem_cons_of_mem _ member)) before after

/-- Everything that a waiting address leads to is reached. -/
theorem mark_waiting (sound : heap.Sound) {address entity : Address}
    (waits : address ∈ work.toList) (leads : heap.LeadsTo address entity) :
    entity ∉ (heap.mark work marking).unreached := by
  -- The address either is the one that is taken, or it still waits afterwards.
  have followed := (target?_eq_some sound).mpr leads
  fun_induction mark heap work marking with
  | case1 work marking taken =>
    rw [Worklist.toList_of_pop?_none taken] at waits
    simp at waits
  | case2 work marking other rest taken nowhere ih =>
    rw [Worklist.toList_of_pop? taken, List.mem_cons] at waits
    rcases waits with rfl | later
    · rw [followed] at nowhere
      simp at nowhere
    · exact ih later
  | case3 work marking other rest taken target found new ih =>
    rw [Worklist.toList_of_pop? taken, List.mem_cons] at waits
    rcases waits with rfl | later
    · -- The thing is taken out, and marking does not put it back.
      rw [followed, Option.some.injEq] at found
      subst found
      intro left
      exact absurd (mark_subset left) (by simp)
    · exact ih (by rw [Worklist.toList_append]; exact List.mem_append_left _ later)
  | case4 work marking other rest taken target found old ih =>
    rw [Worklist.toList_of_pop? taken, List.mem_cons] at waits
    rcases waits with rfl | later
    · rw [followed, Option.some.injEq] at found
      subst found
      exact fun left => old (mark_subset left)
    · exact ih later

/-- Everything that a newly reached thing holds a reference to is reached too. -/
theorem mark_closed (sound : heap.Sound) {holder value entity : Address}
    (before : holder ∈ marking.unreached)
    (after : holder ∉ (heap.mark work marking).unreached) (holds : heap.Holds holder value)
    (leads : heap.LeadsTo value entity) : entity ∉ (heap.mark work marking).unreached := by
  -- The holder is reached in one of the steps, and from then on what it holds waits.
  fun_induction mark heap work marking with
  | case1 => exact absurd before after
  | case2 work marking other rest taken nowhere ih => exact ih before after
  | case3 work marking other rest taken target found new ih =>
    by_cases same : holder = target
    · -- This is the step.
      subst same
      have here := (target?_eq_some sound).mp found
      have waits : value ∈ (rest.append (heap.references holder)).toList := by
        rw [Worklist.toList_append]
        exact List.mem_append_right _ (List.mem_filter.mpr
          ⟨(mem_contents sound here).mpr holds, leads.isPointer sound⟩)
      exact mark_waiting sound waits leads
    · exact ih (Std.HashSet.mem_erase.mpr ⟨by simpa using Ne.symm same, before⟩) after
  | case4 work marking other rest taken target found old ih => exact ih before after

/-- Whatever an address leads to is listed as in memory. -/
theorem LeadsTo.mem_entities (sound : heap.Sound) {address entity : Address}
    (leads : heap.LeadsTo address entity) : entity ∈ heap.entities := by
  -- It is a script, a record of a pool, or some other segment as a whole.
  rw [Heap.mem_entities sound]
  cases leads with
  | locals found placed =>
    obtain ⟨script, scriptAt, _⟩ := sound.script_of_resident placed
    exact ⟨_, scriptAt, rfl⟩
  | record found pool live => exact ⟨_, found, by simpa [pool] using live⟩
  | whole found noPool noLocals => exact ⟨_, found, by simp [noPool]⟩

/-- Whatever can be reached is in memory. -/
theorem Reach.mem_entities (sound : heap.Sound) {entity : Address}
    (reach : heap.Reach context entity) : entity ∈ heap.entities := by
  -- The last reference on the way leads to something in memory.
  cases reach with
  | root _ leads => exact leads.mem_entities sound
  | held _ _ leads => exact leads.mem_entities sound

/-- What marking from the roots leaves unreached is what is in memory and cannot be reached. -/
theorem mem_unreachable (sound : heap.Sound) {entity : Address} :
    entity ∈ (heap.unreachable (heap.roots context)).unreached ↔
      entity ∈ heap.entities ∧ ¬ heap.Reach context entity := by
  -- Marking starts with everything in memory unreached and with the roots waiting.
  have listed : ∀ {address}, address ∈ Std.HashSet.ofList heap.entities ↔
      address ∈ heap.entities := by
    intro address
    rw [Std.HashSet.mem_ofList, List.contains_iff_mem]
  have started : (Worklist.mk (heap.roots context) []).toList = heap.roots context := by
    simp [Worklist.toList]
  unfold unreachable
  constructor
  · intro left
    refine ⟨listed.mp (mark_subset left), ?_⟩
    -- By induction, everything that can be reached is.
    intro reach
    suffices gone : entity ∉ (heap.mark ⟨heap.roots context, []⟩
        { unreached := Std.HashSet.ofList heap.entities }).unreached from gone left
    clear left
    induction reach with
    | root root leads =>
      apply mark_waiting sound ?_ leads
      rw [started]
      exact (mem_roots sound).mpr ⟨leads.isPointer sound, root⟩
    | held reached holds leads ih =>
      exact mark_closed sound (listed.mpr (reached.mem_entities sound)) ih holds leads
  · intro given
    obtain ⟨present, unreached⟩ := given
    -- If it were gone, it would have been reached from the roots.
    by_contra gone
    refine unreached (mark_reached sound ?_ ?_ (listed.mpr present) gone)
    · intro holder value target reached holds leads
      exact .held reached holds leads
    · intro address waits target leads
      rw [started] at waits
      exact .root ((mem_roots sound).mp waits).2 leads

end Heap

end AdventureVm
