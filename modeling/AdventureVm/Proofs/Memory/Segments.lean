import AdventureVm.Proofs.Memory.Outcomes
import AdventureVm.Proofs.Memory.Sound

/-! Giving out segments and taking them back keeps memory sound. -/

namespace AdventureVm

/-- A segment that can be put anywhere, because it claims no other segment for itself. -/
structure Segment.IsLoose (segment : Segment) : Prop where
  /-- A pool does not outgrow its offsets. -/
  bounded : segment.IsBounded
  /-- A script has no variables yet. -/
  unclaiming : ∀ script, segment = .script script → script.localsSegment = 0

/-- A segment with nothing in it claims nothing. -/
theorem Segment.isLoose_empty (kind : SegmentKind) : (Segment.empty kind).IsLoose := by
  -- Pools start without slots, and the script without contents has no variables.
  constructor
  · cases kind <;> simp [Segment.empty, Segment.IsBounded]
  · intro script same
    cases kind <;> simp [Segment.empty] at same
    subst same
    rfl

namespace Heap

variable {heap : Heap} {id other : SegmentId} {segment : Segment} {number : UInt16}

/-- Soundness is about segments and residents only. -/
theorem Sound.of_same (sound : heap.Sound) {after : Heap}
    (segments : after.segments = heap.segments)
    (residents : after.residents = heap.residents) : after.Sound := by
  -- Each segment takes its own place.
  apply sound.of_akin residents
  · rw [segments]
  · intro id
    have same : after.get? id = heap.get? id := by simp [get?, segments]
    rw [same]
    exact Segment.rel_refl _

/-- Putting a segment into a place changes no table but that of the segments. -/
@[simp] theorem residents_insert : (heap.insert id segment).residents = heap.residents := by
  unfold insert
  split <;> rfl

/-- Memory stays sound when a segment that claims nothing is put into the next place. -/
theorem Sound.insert (sound : heap.Sound) (next : heap.nextId? = some id)
    (loose : segment.IsLoose) : (heap.insert id segment).Sound := by
  -- The place was empty, so no entry of a table speaks of it.
  obtain ⟨atEnd, small, empty, positive⟩ := nextId?_spec sound.opened next
  have sizes := size_insert segment small atEnd sound.bounded
  -- A place that held something is not the one that was empty.
  have occupied : ∀ {place found}, heap.get? place = some found → place ≠ id := by
    intro place found present same
    rw [same, empty] at present
    simp at present
  constructor
  case opened => exact Nat.lt_of_lt_of_le sound.opened sizes.1
  case zero_empty =>
    rw [get?_insert atEnd, if_neg positive.symm]
    exact sound.zero_empty
  case bounded => exact sizes.2
  case distinct =>
    rw [residents_insert]
    exact sound.distinct
  case resident =>
    intro number place member
    rw [residents_insert] at member
    obtain ⟨script, found, named⟩ := sound.resident number place member
    rw [get?_insert atEnd, if_neg (occupied found)]
    exact ⟨script, found, named⟩
  case ownLocals =>
    -- The new segment claims no variables, and the claims of the others stand.
    intro place script found withVariables
    rw [get?_insert atEnd] at found
    split at found
    · exact absurd (loose.unclaiming script (by simpa using found)) withVariables
    · obtain ⟨placed, table, tableAt, named⟩ := sound.ownLocals place script found withVariables
      rw [get?_insert atEnd, if_neg (occupied tableAt)]
      exact ⟨by simpa [scriptSegment?] using placed, table, tableAt, named⟩
  case pools =>
    intro place found present
    rw [get?_insert atEnd] at present
    split at present
    · simp only [Option.some.injEq] at present
      subst present
      exact loose.bounded
    · exact sound.pools place found present

/-- Memory stays sound when a place is emptied that no table speaks of. -/
theorem Sound.vacate (sound : heap.Sound) (found : heap.get? id = some segment)
    (unclaimed : ∀ place script, heap.get? place = some (.script script) → place ≠ id →
      script.localsSegment ≠ id)
    (residents : List (UInt16 × SegmentId))
    (kept : ∀ number place, (number, place) ∈ residents →
      (number, place) ∈ heap.residents ∧ place ≠ id)
    (all : ∀ number place, (number, place) ∈ heap.residents → place ≠ id →
      (number, place) ∈ residents)
    (distinct : (residents.map (·.1)).Nodup) :
    ({ heap.put id none with residents } : Heap).Sound := by
  -- Every other place holds what it held, and only entries about this one are gone.
  have places : ∀ place, ({ heap.put id none with residents } : Heap).get? place =
      if place = id then none else heap.get? place := fun place => get?_put found none
  constructor
  case opened => simpa [Heap.put] using sound.opened
  case zero_empty =>
    rw [places]
    split
    · rfl
    · exact sound.zero_empty
  case bounded => simpa [Heap.put] using sound.bounded
  case distinct => exact distinct
  -- Whoever is still resident is in another place.
  case resident =>
    intro number place member
    obtain ⟨before, elsewhere⟩ := kept number place member
    rw [places, if_neg elsewhere]
    exact sound.resident number place before
  case ownLocals =>
    intro place script present withVariables
    rw [places] at present
    split at present
    · simp at present
    · -- The script is elsewhere, so it is still resident, and its variables are elsewhere too.
      rename_i elsewhere
      obtain ⟨placed, table, tableAt, named⟩ := sound.ownLocals place script present withVariables
      rw [scriptSegment?_eq_some sound.distinct] at placed
      refine ⟨(scriptSegment?_eq_some distinct).mpr (all _ _ placed elsewhere), table, ?_, named⟩
      rw [places, if_neg (unclaimed place script present elsewhere)]
      exact tableAt
  case pools =>
    intro place contents present
    rw [places] at present
    split at present
    · simp at present
    · exact sound.pools place contents present

/-- Memory stays sound when a segment leaves that is neither a script nor variables of one. -/
theorem Sound.vacate_other (sound : heap.Sound) (found : heap.get? id = some segment)
    (noScript : segment.kind ≠ .script) (noLocals : segment.kind ≠ .locals) :
    (heap.put id none).Sound := by
  -- Residents are scripts, and scripts claim tables of variables only.
  apply sound.vacate found ?_ heap.residents ?_ (fun _ _ member _ => member) sound.distinct
  · exact fun place claimant present _ => sound.unclaimed found noLocals present
  · intro number place member
    refine ⟨member, ?_⟩
    intro equal
    subst equal
    obtain ⟨script, scriptAt, _⟩ := sound.resident number place member
    rw [found, Option.some.injEq] at scriptAt
    exact noScript (by rw [scriptAt]; rfl)

end Heap

namespace Store

variable {store : Store} {id other : SegmentId} {segment : Segment}

/-- A new segment gets the next place, unless the table is full. -/
theorem leads_insert (segment : Segment) (store : Store)
    (post : Except Fault SegmentId → Store → Prop) :
    Leads (Store.insert segment) store post ↔
      match store.heap.nextId? with
      | none =>
        post (.error (.outOfMemory 1 s!"segment table full allocating {segment.kind.name}")) store
      | some id =>
        post (.ok id) ((store.note .debug s!"allocated {segment.kind.name} segment {id}").mapHeap
          (·.insert id segment)) := by
  -- The next place is looked up before anything is changed.
  simp only [Store.insert, leads_bind, StoreM.leads_read, either_ok]
  cases store.heap.nextId? with
  | none => rfl
  | some id =>
    simp only [leads_bind, StoreM.leads_note, StoreM.leads_change, leads_pure, either_ok]

/-- Giving out a segment that claims nothing keeps memory sound. -/
theorem insert_keeps (loose : segment.IsLoose) : (Store.insert segment).Keeps Heap.Sound := by
  -- A full memory stays as it is; otherwise the next place is filled.
  intro store sound
  rw [leads_insert]
  cases next : store.heap.nextId? with
  | none => exact sound
  | some id => exact sound.insert next loose

/-- Forgetting the current pool changes nothing else. -/
theorem forgetPool_eq (heap : Heap) (kind : SegmentKind) (id : SegmentId) :
    heap.forgetPool kind id = { heap with
      pools := if heap.pools.get kind = id then heap.pools.set kind 0 else heap.pools } := by
  unfold Heap.forgetPool
  split <;> rfl

/-- The current pools when a segment has left: it is no longer the current pool of its kind. -/
def poolsWithout (pools : CurrentPools) (kind : SegmentKind) (id : SegmentId) : CurrentPools :=
  if kind.isPool = true ∧ pools.get kind = id then pools.set kind 0 else pools

/-- Nothing is taken out of an empty place. -/
theorem deallocate_none (empty : store.heap.get? id = none) :
    store.deallocate id = (.error (.invalidAddress ⟨id, 0⟩ none 0), store) := by
  -- There is no segment to be taken out.
  unfold deallocate
  split
  · rfl
  · rename_i segment present
    rw [empty] at present
    simp at present

/--
What holds of the places in memory and is kept when one is emptied is kept when a segment is taken
out, also where that fails halfway.
-/
theorem free_keeps_of_emptying {property : Heap → Prop}
    (empty : ∀ {heap : Heap} {id : SegmentId} {segment : Segment}, property heap →
      heap.get? id = some segment → property (heap.put id none))
    (places : ∀ {before after : Heap}, property before → after.segments = before.segments →
      property after) (id : SegmentId) : (free id).Keeps property := by
  intro store holds
  show property (store.deallocate id).2.heap
  -- Places are only emptied, whatever is forgotten.
  fun_induction deallocate store id with
  | case1 store id absent => exact holds
  | case2 store id script found without => exact places (empty holds found) rfl
  -- The variables are taken out after the script has left its place.
  | case3 store id script found withVariables after present emptied ended ih =>
    rw [ended] at ih
    exact places (ih (empty holds found)) rfl
  | case4 store id script found withVariables fault after present emptied ended ih =>
    rw [ended] at ih
    exact ih (empty holds found)
  | case5 store id segment found noScript pool =>
    refine places (empty holds found) ?_
    simp only [heap_mapHeap, forgetPool_eq]
    rfl
  | case6 store id segment found noScript noPool => exact empty holds found

/-- A segment that is no script is taken out of memory alone. -/
theorem deallocate_other (found : store.heap.get? id = some segment)
    (other : segment.kind ≠ .script) :
    ∃ after, store.deallocate id = (.ok (), after) ∧
      after.heap = { store.heap.put id none with
        pools := poolsWithout store.heap.pools segment.kind id } := by
  -- At most the current pool of the kind is forgotten besides.
  unfold deallocate
  split
  · rename_i absent
    rw [found] at absent
    simp at absent
  · rename_i occupant present
    rw [found, Option.some.injEq] at present
    subst present
    split
    · simp [Segment.kind] at other
    · split
      · rename_i pool
        refine ⟨_, rfl, ?_⟩
        simp only [heap_mapHeap, forgetPool_eq, poolsWithout, pool, true_and]
        rfl
      · rename_i pool
        refine ⟨_, rfl, ?_⟩
        simp only [poolsWithout, pool]
        rfl

/-- Forgetting a script that is resident here leaves the other residents. -/
theorem mem_forgetScript {heap : Heap} (distinct : (heap.residents.map (·.1)).Nodup)
    {number : UInt16} (unique : ∀ other, (other, id) ∈ heap.residents → other = number)
    (entry : UInt16 × SegmentId) :
    entry ∈ (heap.forgetScript number id).residents ↔ entry ∈ heap.residents ∧ entry.2 ≠ id := by
  -- An entry about this place can only be the one that is found under the number.
  obtain ⟨other, place⟩ := entry
  unfold Heap.forgetScript
  simp only
  split
  · rename_i here
    rw [Heap.scriptSegment?_eq_some distinct] at here
    simp only [List.mem_filter, bne_iff_ne, and_congr_right_iff]
    intro member
    constructor
    · intro different same
      subst same
      exact different (unique other member)
    · intro elsewhere same
      subst same
      exact elsewhere (congrArg Prod.snd (List.inj_on_of_nodup_map distinct member here rfl))
  · rename_i away
    rw [Heap.scriptSegment?_eq_some distinct] at away
    simp only [iff_self_and]
    intro member same
    subst same
    exact away (unique other member ▸ member)

/-- Forgetting a script keeps the residents distinct. -/
theorem distinct_forgetScript {heap : Heap} (distinct : (heap.residents.map (·.1)).Nodup)
    (number : UInt16) (id : SegmentId) :
    ((heap.forgetScript number id).residents.map (·.1)).Nodup := by
  -- What is left is a part of what was there.
  unfold Heap.forgetScript
  simp only
  split
  · exact distinct.sublist (List.filter_sublist.map _)
  · exact distinct

/-- The residents after a script is forgotten depend on the residents before alone. -/
theorem forgetScript_congr {heap after : Heap} (same : after.residents = heap.residents)
    (number : UInt16) (id : SegmentId) :
    (after.forgetScript number id).residents = (heap.forgetScript number id).residents := by
  -- Nothing but the residents is looked at.
  unfold Heap.forgetScript Heap.scriptSegment?
  rw [same]

/-- The places that a script takes with it when it leaves memory. -/
def leavesWith (id : SegmentId) (script : Script) (place : SegmentId) : Prop :=
  place = id ∨ script.localsSegment ≠ 0 ∧ place = script.localsSegment

instance (id : SegmentId) (script : Script) (place : SegmentId) :
    Decidable (leavesWith id script place) :=
  inferInstanceAs (Decidable (_ ∨ _))

/-- What memory is like after a script has left it, whatever it was like before. -/
structure Left (before : Heap) (id : SegmentId) (script : Script) (after : Heap) : Prop where
  /-- The variables were in memory, if the script had any. -/
  table : script.localsSegment ≠ 0 →
    ∃ table, before.get? script.localsSegment = some (.locals table)
  /-- Only the script and its variables are gone. -/
  places : ∀ place,
    after.get? place = if leavesWith id script place then none else before.get? place
  /-- The script is forgotten. -/
  remaining : after.residents = (before.forgetScript script.number id).residents
  /-- Its classes are no longer in memory. -/
  classes : after.classes = before.classes.forget id
  /-- The current pools are the same. -/
  pools : after.pools = before.pools
  /-- The format does not change. -/
  version : after.version = before.version
  /-- The table does not shrink. -/
  size : after.segments.size = before.segments.size

/-- What a sound memory is like after a script has left it. -/
structure Departed (before : Heap) (id : SegmentId) (script : Script) (after : Heap) : Prop
    extends Left before id script after where
  /-- The tables still agree with the segments. -/
  sound : after.Sound
  /-- Only this script is no longer resident. -/
  residents : ∀ entry, entry ∈ after.residents ↔ entry ∈ before.residents ∧ entry.2 ≠ id

section Leaving

variable {heap : Heap} {script : Script}

/-- Forgetting a script that is in memory leaves the other residents. -/
theorem mem_residents_forget (sound : heap.Sound) (found : heap.get? id = some (.script script))
    (entry : UInt16 × SegmentId) :
    entry ∈ (heap.forgetScript script.number id).residents ↔
      entry ∈ heap.residents ∧ entry.2 ≠ id :=
  mem_forgetScript sound.distinct (fun _ member => sound.number_eq found member) entry

/-- A sound memory stays sound when a script leaves its place before its variables do. -/
theorem sound_forgetScript (sound : heap.Sound) (found : heap.get? id = some (.script script)) :
    ({ heap.put id none with
      residents := (heap.forgetScript script.number id).residents } : Heap).Sound := by
  have members := mem_residents_forget sound found
  -- The place holds a script, so it is no table of variables that a script could claim.
  apply sound.vacate found
  · exact fun place claimant present _ => sound.unclaimed found (by simp [Segment.kind]) present
  · intro number place member
    exact (members (number, place)).mp member
  · intro number place member elsewhere
    exact (members (number, place)).mpr ⟨member, elsewhere⟩
  · exact distinct_forgetScript sound.distinct _ _

variable {table : LocalsTable}

/-- The variables of a script are still in memory when the script has left its place. -/
theorem get?_variables (found : heap.get? id = some (.script script))
    (tableAt : heap.get? script.localsSegment = some (.locals table)) :
    (heap.put id none).get? script.localsSegment = some (.locals table) := by
  -- A script and its variables are in different places, being of different kinds.
  have apart : script.localsSegment ≠ id := by
    intro same
    rw [same, found] at tableAt
    simp at tableAt
  rw [Heap.get?_put found, if_neg apart]
  exact tableAt

/-- A sound memory stays sound when the variables of a script leave after the script. -/
theorem sound_forgetVariables (sound : heap.Sound)
    (found : heap.get? id = some (.script script)) (withVariables : script.localsSegment ≠ 0)
    (tableAt : heap.get? script.localsSegment = some (.locals table)) :
    ({ (heap.put id none).put script.localsSegment none with
      residents := (heap.forgetScript script.number id).residents } : Heap).Sound := by
  have alone := sound_forgetScript sound found
  apply alone.vacate (get?_variables found tableAt) ?_ _ ?_ (fun _ _ member _ => member)
    alone.distinct
  · -- No other script claims the variables of this one.
    intro place claimant claimantAt _ claims
    change (heap.put id none).get? place = _ at claimantAt
    rw [Heap.get?_put found] at claimantAt
    split at claimantAt
    · simp at claimantAt
    · rename_i elsewhere
      exact elsewhere (sound.localsSegment_inj found claimantAt withVariables claims)
  · -- No script is resident where the variables are.
    intro number place member
    refine ⟨member, ?_⟩
    intro equal
    subst equal
    obtain ⟨resident, residentAt, _⟩ :=
      sound.resident number _ ((mem_residents_forget sound found _).mp member).1
    rw [tableAt] at residentAt
    simp at residentAt

/-- Only the script and its variables are gone when both have left. -/
theorem get?_leaves (found : heap.get? id = some (.script script))
    (withVariables : script.localsSegment ≠ 0)
    (tableAt : heap.get? script.localsSegment = some (.locals table)) (place : SegmentId) :
    ((heap.put id none).put script.localsSegment none).get? place =
      if leavesWith id script place then none else heap.get? place := by
  -- The place is that of the script, that of its variables, or another one.
  rw [Heap.get?_put (get?_variables found tableAt), Heap.get?_put found]
  by_cases same : place = id
  · simp [leavesWith, same]
  · by_cases own : place = script.localsSegment
    · simp [leavesWith, own, withVariables]
    · simp [leavesWith, same, own]

/-- Only the script is gone when it had no variables. -/
theorem get?_leaves_alone (found : heap.get? id = some (.script script))
    (without : script.localsSegment = 0) (place : SegmentId) :
    (heap.put id none).get? place =
      if leavesWith id script place then none else heap.get? place := by
  -- There is no table of variables that could leave as well.
  rw [Heap.get?_put found]
  simp [leavesWith, without]

end Leaving

/-- A script is taken out of memory together with its variables, if they are there. -/
theorem deallocate_left {script : Script} (found : store.heap.get? id = some (.script script))
    (own : script.localsSegment ≠ 0 →
      ∃ table, store.heap.get? script.localsSegment = some (.locals table)) :
    ∃ after, store.deallocate id = (.ok (), after) ∧ Left store.heap id script after.heap := by
  unfold deallocate
  split
  · rename_i absent
    rw [found] at absent
    simp at absent
  · rename_i occupant present
    rw [found, Option.some.injEq] at present
    subst present
    simp only
    split
    · -- Without variables, the script is all that leaves.
      rename_i without
      exact ⟨_, rfl, own, get?_leaves_alone found without, rfl, rfl, rfl, rfl,
        by simp [mapHeap, Heap.forgetScript, Heap.put]⟩
    · -- The variables are still in memory, and leave next.
      rename_i withVariables
      obtain ⟨table, tableAt⟩ := own withVariables
      let emptied : Store :=
        { heap := store.heap.put id none
          journal := store.journal.push (.plain .debug
            s!"freeing {(Segment.script script).kind.name} segment {id}") }
      have left : emptied.heap.get? script.localsSegment = some (.locals table) :=
        get?_variables found tableAt
      obtain ⟨after, ended, same⟩ := deallocate_other left (by simp [Segment.kind])
      have segments :
          after.heap.segments = (emptied.heap.put script.localsSegment none).segments := by
        rw [same]
      have residents : after.heap.residents = store.heap.residents := by
        rw [same]
        rfl
      rw [ended]
      refine ⟨_, rfl, own, ?_, forgetScript_congr residents script.number id, ?_, ?_, ?_, ?_⟩
      · intro place
        rw [← get?_leaves found withVariables tableAt]
        simp only [Store.mapHeap, Heap.get?, Heap.forgetScript, segments]
        rfl
      · simp only [Store.mapHeap, Heap.forgetScript, same]
        rfl
      · -- Variables are no pool.
        simp only [Store.mapHeap, Heap.forgetScript, same, poolsWithout, Segment.kind,
          SegmentKind.isPool, Bool.false_eq_true, false_and, if_false]
        rfl
      · simp only [Store.mapHeap, Heap.forgetScript, same]
        rfl
      · simp [mapHeap, Heap.forgetScript, segments, emptied, Heap.put]

/-- A script that leaves a sound memory leaves a sound memory. -/
theorem Left.departed {heap after : Heap} {script : Script} (left : Left heap id script after)
    (sound : heap.Sound) (found : heap.get? id = some (.script script)) :
    Departed heap id script after := by
  have members := mem_residents_forget sound found
  refine ⟨left, ?_, ?_⟩
  · -- A script without variables leaves alone, any other with its table.
    by_cases without : script.localsSegment = 0
    · apply (sound_forgetScript sound found).of_akin left.remaining
      · rw [left.size]
        simp [Heap.put]
      · intro place
        rw [left.places, ← get?_leaves_alone found without]
        exact Segment.rel_refl _
    · obtain ⟨_, table, tableAt, _⟩ := sound.ownLocals id script found without
      apply (sound_forgetVariables sound found without tableAt).of_akin left.remaining
      · rw [left.size]
        simp [Heap.put]
      · intro place
        rw [left.places, ← get?_leaves found without tableAt]
        exact Segment.rel_refl _
  · intro entry
    rw [left.remaining]
    exact members entry

/-- A script is taken out of a sound memory together with its variables. -/
theorem deallocate_script {script : Script} (sound : store.heap.Sound)
    (found : store.heap.get? id = some (.script script)) :
    ∃ after, store.deallocate id = (.ok (), after) ∧
      Departed store.heap id script after.heap := by
  -- In sound memory the variables that a script names are there, so nothing fails.
  obtain ⟨after, ended, left⟩ := deallocate_left found fun withVariables =>
    let ⟨_, table, tableAt, _⟩ := sound.ownLocals id script found withVariables
    ⟨table, tableAt⟩
  exact ⟨after, ended, left.departed sound found⟩

/-- Giving up the place of a script leaves what taking it out leaves. -/
theorem leads_free_script {script : Script} (sound : store.heap.Sound)
    (found : store.heap.get? id = some (.script script)) :
    Leads (free id) store (Either (fun _ after => Departed store.heap id script after.heap)
      fun _ _ => False) := by
  -- Taking out a script does not fail in sound memory.
  obtain ⟨after, ended, departed⟩ := deallocate_script sound found
  simp only [Leads, free, ExceptT.run, ended]
  exact departed

end Store

end AdventureVm
