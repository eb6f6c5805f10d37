import AdventureVm.Proofs.Memory.Places

/-! The tables of memory agree with the segments they speak of. -/

namespace AdventureVm

namespace Segment

/-- What the tables of memory know a segment by: a script's number, segment and variables. -/
def bearing : Segment → SegmentKind × UInt16 × SegmentId × SegmentId
  | script contents => (.script, contents.number, contents.segment, contents.localsSegment)
  | locals table => (.locals, table.script, 0, 0)
  | other => (other.kind, 0, 0, 0)

/-- A pool has no more slots than an offset can name. -/
def IsBounded : Segment → Prop
  | clones pool => pool.slots.size ≤ Pool.maxSlots
  | lists pool => pool.slots.size ≤ Pool.maxSlots
  | nodes pool => pool.slots.size ≤ Pool.maxSlots
  | hunks pool => pool.slots.size ≤ Pool.maxSlots
  | _ => True

/-- A segment can take the place of another one without any table of memory noticing. -/
structure Akin (before after : Segment) : Prop where
  /-- The tables know both by the same. -/
  bearing : after.bearing = before.bearing
  /-- A pool does not outgrow its offsets. -/
  bounded : before.IsBounded → after.IsBounded

/-- Segments known by the same are of one kind. -/
theorem kind_of_bearing (segment : Segment) : segment.bearing.1 = segment.kind := by
  cases segment <;> rfl

namespace Akin

variable {before after : Segment}

/-- Every segment can stay where it is. -/
theorem refl (segment : Segment) : Akin segment segment :=
  ⟨rfl, id⟩

/-- Segments that can take each other's place are of one kind. -/
theorem kind_eq (akin : Akin before after) : after.kind = before.kind := by
  -- The kind is part of what the tables know.
  rw [← kind_of_bearing, ← kind_of_bearing, akin.bearing]

/-- Only a script takes the place of a script, and it has the same number, place and variables. -/
theorem of_script {script : Script} (akin : Akin (.script script) after) :
    ∃ other, after = .script other ∧ other.number = script.number ∧
      other.segment = script.segment ∧ other.localsSegment = script.localsSegment := by
  -- All other kinds are known by something else.
  have same := akin.bearing
  cases after with
  | script other =>
    simp only [Segment.bearing, Prod.mk.injEq, true_and] at same
    exact ⟨other, rfl, same.1, same.2.1, same.2.2⟩
  | _ => simp [Segment.bearing, kind] at same

/-- What takes the place of something else than a script is no script. -/
theorem to_script {script : Script} (akin : Akin before (.script script)) :
    ∃ other, before = .script other ∧ script.number = other.number ∧
      script.segment = other.segment ∧ script.localsSegment = other.localsSegment := by
  -- All other kinds are known by something else.
  have same := akin.bearing
  cases before with
  | script other =>
    simp only [Segment.bearing, Prod.mk.injEq, true_and] at same
    exact ⟨other, rfl, same.1, same.2.1, same.2.2⟩
  | _ => simp [Segment.bearing, kind] at same

/-- Only a table of variables of the same script takes the place of a table of variables. -/
theorem of_locals {table : LocalsTable} (akin : Akin (.locals table) after) :
    ∃ other, after = .locals other ∧ other.script = table.script := by
  -- All other kinds are known by something else.
  have same := akin.bearing
  cases after with
  | locals other => exact ⟨other, rfl, by simpa [Segment.bearing] using same⟩
  | _ => simp [Segment.bearing, kind] at same

end Akin

section Related

variable {before after : Option Segment}

/-- What takes the place of a segment is a segment that can. -/
theorem akin_after (related : Option.Rel Akin before after) {segment : Segment}
    (found : before = some segment) : ∃ other, after = some other ∧ Akin segment other := by
  -- The relation holds between segments only, or between nothing and nothing.
  subst found
  cases related with
  | some akin => exact ⟨_, rfl, akin⟩

/-- What a segment takes the place of is a segment for which it can. -/
theorem akin_before (related : Option.Rel Akin before after) {segment : Segment}
    (found : after = some segment) : ∃ other, before = some other ∧ Akin other segment := by
  -- The relation holds between segments only, or between nothing and nothing.
  subst found
  cases related with
  | some akin => exact ⟨_, rfl, akin⟩

/-- Whatever is in a place can stay there. -/
theorem rel_refl (place : Option Segment) : Option.Rel Akin place place := by
  -- Either nothing is there, or a segment that can stay.
  cases place with
  | none => exact Option.Rel.none
  | some segment => exact Option.Rel.some (.refl segment)

/-- An empty place stays empty, and no other place becomes so. -/
theorem rel_none_iff (related : Option.Rel Akin before after) : before = none ↔ after = none := by
  cases related <;> simp

end Related

end Segment

namespace Heap

/--
The tables of memory agree with the segments.

A script has variables of its own only while it is resident, and the table of those variables
carries the number of the script, so no two scripts share one.
-/
structure Sound (heap : Heap) : Prop where
  /-- There is a place zero. -/
  opened : 0 < heap.segments.size
  /-- Place zero stays empty, because segment zero means a number. -/
  zero_empty : heap.get? 0 = none
  /-- Every place has a number. -/
  bounded : heap.segments.size ≤ segmentLimit
  /-- No script is resident twice. -/
  distinct : (heap.residents.map (·.1)).Nodup
  /-- A resident script is where it is said to be. -/
  resident : ∀ number id, (number, id) ∈ heap.residents →
    ∃ script, heap.get? id = some (.script script) ∧ script.number = number ∧ script.segment = id
  /-- A script with variables is resident, and its variables are in memory. -/
  ownLocals : ∀ id script, heap.get? id = some (.script script) → script.localsSegment ≠ 0 →
    heap.scriptSegment? script.number = some id ∧
      ∃ table, heap.get? script.localsSegment = some (.locals table) ∧
        table.script = script.number
  /-- No pool outgrows its offsets. -/
  pools : ∀ id segment, heap.get? id = some segment → segment.IsBounded

/-- The segment of a script is the one that the residents name. -/
theorem scriptSegment?_eq_some {heap : Heap} (distinct : (heap.residents.map (·.1)).Nodup)
    {number : UInt16} {id : SegmentId} :
    heap.scriptSegment? number = some id ↔ (number, id) ∈ heap.residents := by
  -- Only one entry has the number, so the first one found is the one.
  unfold scriptSegment?
  generalize heap.residents = residents at distinct
  induction residents with
  | nil => simp
  | cons entry rest ih =>
    obtain ⟨first, place⟩ := entry
    simp only [List.map_cons, List.nodup_cons, List.mem_map] at distinct
    by_cases same : number = first
    · subst same
      -- The number does not occur a second time.
      have elsewhere : (number, id) ∉ rest := fun member => distinct.1 ⟨_, member, rfl⟩
      simp [elsewhere, eq_comm]
    · have other : (number == first) = false := by simpa using same
      simp [List.lookup_cons, other, same, ih distinct.2]

namespace Sound

variable {heap : Heap} {id : SegmentId} {number : UInt16}

/-- A resident script is in memory under its number. -/
theorem script_of_resident (sound : heap.Sound) (found : heap.scriptSegment? number = some id) :
    ∃ script, heap.get? id = some (.script script) ∧ script.number = number ∧
      script.segment = id :=
  -- What is found is an entry of the residents.
  sound.resident number id ((scriptSegment?_eq_some sound.distinct).mp found)

/-- A script in memory is resident under no number but its own. -/
theorem number_eq (sound : heap.Sound) {script : Script}
    (found : heap.get? id = some (.script script)) (member : (number, id) ∈ heap.residents) :
    number = script.number := by
  -- The script that is resident under the number is the one that is there.
  obtain ⟨resident, foundToo, named, _⟩ := sound.resident number id member
  rw [found, Option.some.injEq, Segment.script.injEq] at foundToo
  rw [foundToo, named]

/-- A place that holds a segment is not place zero. -/
theorem ne_zero (sound : heap.Sound) {segment : Segment} (found : heap.get? id = some segment) :
    id ≠ 0 := by
  -- Place zero is empty.
  intro zero
  rw [zero, sound.zero_empty] at found
  simp at found

/-- No resident script is said to be in an empty place. -/
theorem not_reserved (sound : heap.Sound) (empty : heap.get? id = none) :
    (number, id) ∉ heap.residents := by
  -- A resident script is where it is said to be.
  intro member
  obtain ⟨script, found, _⟩ := sound.resident number id member
  rw [empty] at found
  simp at found

/-- A place that holds no table of variables is claimed by no script. -/
theorem unclaimed (sound : heap.Sound) {segment : Segment} (found : heap.get? id = some segment)
    (noLocals : segment.kind ≠ .locals) {place : SegmentId} {script : Script}
    (present : heap.get? place = some (.script script)) : script.localsSegment ≠ id := by
  intro claims
  -- Without variables a script claims place zero, which is empty.
  by_cases without : script.localsSegment = 0
  · exact sound.ne_zero found (claims ▸ without)
  · obtain ⟨_, table, tableAt, _⟩ := sound.ownLocals place script present without
    rw [claims, found, Option.some.injEq] at tableAt
    rw [tableAt] at noLocals
    exact noLocals rfl

/-- Scripts that share a table of variables are one. -/
theorem localsSegment_inj (sound : heap.Sound) {other : SegmentId} {script second : Script}
    (found : heap.get? id = some (.script script))
    (foundToo : heap.get? other = some (.script second))
    (some_ : script.localsSegment ≠ 0) (shared : second.localsSegment = script.localsSegment) :
    other = id := by
  -- The table carries the number of both, and a number has one segment.
  obtain ⟨place, table, tableAt, named⟩ := sound.ownLocals id script found some_
  obtain ⟨placeToo, tableToo, tableAtToo, namedToo⟩ :=
    sound.ownLocals other second foundToo (by rw [shared]; exact some_)
  rw [shared, tableAt] at tableAtToo
  simp only [Option.some.injEq, Segment.locals.injEq] at tableAtToo
  subst tableAtToo
  rw [← namedToo, named, place, Option.some.injEq] at placeToo
  exact placeToo.symm

/-- Memory stays sound when each segment is replaced by one that can take its place. -/
theorem of_akin (sound : heap.Sound) {after : Heap} (residents : after.residents = heap.residents)
    (size : after.segments.size = heap.segments.size)
    (akin : ∀ id, Option.Rel Segment.Akin (heap.get? id) (after.get? id)) : after.Sound := by
  -- Every fact speaks of segments by what the tables know of them.
  have place : after.scriptSegment? = heap.scriptSegment? := by
    funext number
    simp [scriptSegment?, residents]
  constructor
  case opened =>
    rw [size]
    exact sound.opened
  case zero_empty => exact (Segment.rel_none_iff (akin 0)).mp sound.zero_empty
  case bounded =>
    rw [size]
    exact sound.bounded
  case distinct =>
    rw [residents]
    exact sound.distinct
  case resident =>
    -- What took the place of a resident script is a script of the same number.
    intro number id member
    rw [residents] at member
    obtain ⟨script, found, named, placed⟩ := sound.resident number id member
    obtain ⟨segment, replaced, related⟩ := Segment.akin_after (akin id) found
    obtain ⟨other, rfl, sameNumber, samePlace, _⟩ := related.of_script
    exact ⟨other, replaced, sameNumber.trans named, samePlace.trans placed⟩
  case ownLocals =>
    -- A script with variables took the place of one that had the same.
    intro id script found withVariables
    obtain ⟨segment, replaced, related⟩ := Segment.akin_before (akin id) found
    obtain ⟨other, rfl, sameNumber, _, sameVariables⟩ := related.to_script
    rw [sameVariables] at withVariables
    obtain ⟨placed, table, tableAt, named⟩ := sound.ownLocals id other replaced withVariables
    obtain ⟨segment, kept, tables⟩ := Segment.akin_after (akin other.localsSegment) tableAt
    obtain ⟨copy, rfl, sameScript⟩ := tables.of_locals
    rw [place, sameNumber, sameVariables]
    exact ⟨placed, copy, kept, sameScript.trans named⟩
  case pools =>
    intro id segment found
    obtain ⟨other, replaced, related⟩ := Segment.akin_before (akin id) found
    exact related.bounded (sound.pools id other replaced)

/-- Memory stays sound when one segment is replaced by one that can take its place. -/
theorem put (sound : heap.Sound) {before after : Segment} (found : heap.get? id = some before)
    (akin : before.Akin after) : (heap.put id (some after)).Sound := by
  -- All other places hold what they held.
  apply sound.of_akin
  · rfl
  · simp [Heap.put]
  · intro other
    rw [get?_put found]
    split
    · rename_i same
      rw [same, found]
      exact Option.Rel.some akin
    · exact Segment.rel_refl _

/-- Memory stays sound when a segment is changed into one that can take its place. -/
theorem modify (sound : heap.Sound) {change : Segment → Segment}
    (akin : ∀ segment, heap.get? id = some segment → segment.Akin (change segment)) :
    (heap.modify id change).Sound := by
  -- All other places hold what they held.
  apply sound.of_akin
  · rfl
  · simp [Heap.modify]
  · intro other
    rw [get?_modify]
    split
    · rename_i same
      rw [same]
      cases found : heap.get? id with
      | none => exact Option.Rel.none
      | some segment => exact Option.Rel.some (akin segment found)
    · exact Segment.rel_refl _

end Sound

end Heap

end AdventureVm
