import AdventureVm.Proofs.Collector.Entities
import AdventureVm.Proofs.Memory.Positions

/-!
The steps by which work on memory changes it.

Scripts come and stay. A script that leaves again on the way is one that came in vain.
-/

namespace AdventureVm

/-- A script knows its place unless it has no contents, and its objects are in its place. -/
structure Script.IsAtHome (script : Script) (id : SegmentId) : Prop where
  /-- The script knows its place, or there is nothing in it that could be read. -/
  place : script.segment = id ∨ script.data.size = 0
  /-- The objects are in the place of the script. -/
  inside : ∀ address ∈ script.positions, address.segment = id

/-- A script without contents is at home anywhere. -/
theorem Script.isAtHome_empty (number : UInt16) (id : SegmentId) :
    (Script.empty number).IsAtHome id :=
  ⟨.inr rfl, by simp [Script.positions, Script.empty]⟩

/-- A segment takes the place of another one, and a script keeps its objects where they are. -/
structure Segment.Steady (before after : Segment) : Prop where
  /-- The tables know both by the same. -/
  akin : before.Akin after
  /-- Objects stay where they are, and a script without contents stays so. -/
  script : ∀ old new, before = .script old → after = .script new →
    new.positions = old.positions ∧ new.data.size = old.data.size

/-- A segment takes the place of another one in the course of work, so that stacks and tables of
variables keep their sizes as well. -/
structure Segment.Persists (before after : Segment) : Prop extends before.Steady after where
  /-- A stack has as many slots as before. -/
  slots : ∀ old new, before = .stack old → after = .stack new → new.size = old.size
  /-- A table has as many variables as before. -/
  values : ∀ old new, before = .locals old → after = .locals new →
    new.values.size = old.values.size

/-- The current pool of a kind is the one that was set, for the kinds of pool. -/
theorem CurrentPools.get_set (pools : CurrentPools) (kind other : SegmentKind) (id : SegmentId) :
    (pools.set kind id).get other =
      if other = kind ∧ kind.isPool = true then id else pools.get other := by
  -- There are nine kinds, four of which are kinds of pool.
  cases kind <;> cases other <;> rfl

namespace Segment

variable {before between after : Segment}

/-- There are no nodes in the segment. -/
def IsNodeless (segment : Segment) : Prop :=
  ∀ pool, segment = .nodes pool → ∀ index, pool.get? index = none

/-- Where a pool of nodes is changed, there are nodes only where there were nodes before. -/
def BringsNoNodes (before after : Segment) : Prop :=
  ∀ old new, before = .nodes old → after = .nodes new →
    ∀ index, (new.get? index).isSome → (old.get? index).isSome

/-- A segment with nothing in it has no nodes. -/
theorem isNodeless_empty (kind : SegmentKind) : (Segment.empty kind).IsNodeless := by
  -- Only the empty pool of nodes has to be looked at, and it has no slots.
  intro pool same index
  cases kind with
  | nodes =>
    obtain rfl := Segment.nodes.inj same
    simp [Pool.get?]
  | _ => simp [empty] at same

/-- A change that leaves pools of nodes alone brings no nodes. -/
theorem bringsNoNodes_of_spares {change : Segment → Segment}
    (spares : ∀ pool, change (.nodes pool) = .nodes pool) (segment : Segment) :
    segment.BringsNoNodes (change segment) := by
  -- A pool of nodes before is the same pool after.
  rintro old new rfl same index present
  rw [spares] at same
  obtain rfl := Segment.nodes.inj same
  exact present

/-- Freeing a slot brings no nodes. -/
theorem bringsNoNodes_release (segment : Segment) (place : Nat) :
    segment.BringsNoNodes (segment.release place) := by
  -- A slot that is taken after was taken before, unless it is the one that was freed.
  rintro old new rfl same index present
  obtain rfl := Segment.nodes.inj same
  rw [Pool.get?_release] at present
  split at present
  · simp at present
  · exact present

/-- Changing a node brings no nodes. -/
theorem bringsNoNodes_modify (segment : Segment) (place : Nat) (change : Node → Node) :
    segment.BringsNoNodes
      (RecordKind.nodes.modify (fun pool => pool.modify place change) segment) := by
  -- The changed slot is taken exactly if it was before.
  rintro old new rfl same index present
  obtain rfl := Segment.nodes.inj same
  rw [Pool.get?_modify] at present
  split at present
  · rwa [Option.isSome_map] at present
  · exact present

/-- Scripts and tables of variables are not taken out of memory as other segments are. -/
def IsLasting (segment : Segment) : Prop :=
  segment.kind = .script ∨ segment.kind = .locals

/-- What takes the place of what took the place of a segment can take its place. -/
theorem Akin.trans (first : before.Akin between) (second : between.Akin after) :
    before.Akin after :=
  ⟨second.bearing.trans first.bearing, fun bounded => second.bounded (first.bounded bounded)⟩

/-- What takes the place of a lasting segment is lasting. -/
theorem Akin.lasting (akin : before.Akin after) (lasting : before.IsLasting) :
    after.IsLasting := by
  -- Lasting is a matter of the kind, and the kind is the same.
  rw [IsLasting, akin.kind_eq]
  exact lasting

/-- Every segment can stay as it is. -/
theorem Steady.refl (segment : Segment) : segment.Steady segment := by
  -- A script in its own place is the same script.
  refine ⟨.refl segment, ?_⟩
  intro old new same sameToo
  rw [same, Segment.script.injEq] at sameToo
  rw [sameToo]
  exact ⟨rfl, rfl⟩

/-- Whatever is in a place can stay there. -/
theorem steady_refl (place : Option Segment) : Option.Rel Steady place place := by
  -- Either nothing is there, or a segment that can stay.
  cases place with
  | none => exact .none
  | some segment => exact .some (.refl segment)

/-- What takes the place of something else than a script moves no objects. -/
theorem Akin.steady (akin : before.Akin after) (other : before.kind ≠ .script) :
    before.Steady after := by
  -- The condition about objects is one on scripts, and there is none.
  refine ⟨akin, ?_⟩
  intro old new same
  rw [same] at other
  exact absurd rfl other

/-- What takes the place of neither a stack nor a table of variables has no size to keep. -/
theorem Steady.persists (steady : before.Steady after) (noStack : before.kind ≠ .stack)
    (noLocals : before.kind ≠ .locals) : before.Persists after := by
  -- The conditions about sizes are on stacks and tables, and there is none.
  refine ⟨steady, ?_, ?_⟩
  · intro old new same
    rw [same] at noStack
    exact absurd rfl noStack
  · intro old new same
    rw [same] at noLocals
    exact absurd rfl noLocals

/-- What takes the place of neither a script nor a stack nor a table of variables persists. -/
theorem Akin.persists (akin : before.Akin after) (noScript : before.kind ≠ .script)
    (noStack : before.kind ≠ .stack) (noLocals : before.kind ≠ .locals) : before.Persists after :=
  (akin.steady noScript).persists noStack noLocals

/-- Only a stack takes the place of a stack. -/
theorem Akin.of_stack {slots : Array Address} (akin : Akin (.stack slots) after) :
    ∃ others, after = .stack others := by
  -- Kinds agree, and only one constructor has this kind.
  have same := akin.kind_eq
  cases after with
  | stack others => exact ⟨others, rfl⟩
  | _ => simp [kind] at same

/-- Every segment can stay as it is in the course of work. -/
theorem Persists.refl (segment : Segment) : segment.Persists segment := by
  -- Sizes agree because the segments do.
  refine ⟨.refl segment, ?_, ?_⟩
  · intro old new same sameToo
    rw [same, Segment.stack.injEq] at sameToo
    rw [sameToo]
  · intro old new same sameToo
    rw [same, Segment.locals.injEq] at sameToo
    rw [sameToo]

/-- A stack keeps its size when a value is stored into one of its slots. -/
theorem persists_stack (slots : Array Address) (index : Nat) (value : Address) :
    (Segment.stack slots).Persists (.stack (slots.setIfInBounds index value)) := by
  -- Storing into a slot keeps the number of slots.
  refine ⟨Akin.steady ⟨rfl, fun bounded => bounded⟩ (by simp [kind]), ?_, by simp⟩
  intro old new same sameToo
  rw [Segment.stack.injEq] at same sameToo
  rw [← same, ← sameToo, Array.size_setIfInBounds]

/-- A table keeps its size when a value is stored into one of its variables. -/
theorem persists_locals (table : LocalsTable) (index : Nat) (value : Address) :
    (Segment.locals table).Persists
      (.locals { table with values := table.values.setIfInBounds index value }) := by
  -- Storing into a variable keeps the number of variables.
  refine ⟨Akin.steady ⟨rfl, fun bounded => bounded⟩ (by simp [kind]), by simp, ?_⟩
  intro old new same sameToo
  rw [Segment.locals.injEq] at same sameToo
  rw [← same, ← sameToo, Array.size_setIfInBounds]

/-- A script takes its own place when its number, its places and its objects stay. -/
theorem steady_script {old new : Script} (number : new.number = old.number)
    (segment : new.segment = old.segment) (variables_ : new.localsSegment = old.localsSegment)
    (positions : new.positions = old.positions) (size : new.data.size = old.data.size) :
    (Segment.script old).Steady (.script new) := by
  -- What ties a script to its place is its number, its segment and its variables.
  refine ⟨⟨?_, fun bounded => bounded⟩, ?_⟩
  · simp only [Segment.bearing, number, segment, variables_]
  · intro first second same sameToo
    rw [Segment.script.injEq] at same sameToo
    rw [← same, ← sameToo]
    exact ⟨positions, size⟩

/-- A script that differs in nothing but who needs it keeps its objects. -/
theorem steady_withLocks (script : Script) (lockers : Nat) (deleted holds : Bool) :
    (Segment.script script).Steady (.script (script.withLocks lockers deleted holds)) :=
  steady_script rfl rfl rfl rfl rfl

/-- Writing bytes moves no objects, and stacks have no bytes. -/
theorem persists_writeBytes? {segment written : Segment} {offset : Nat} {data : Bytes}
    (done : segment.writeBytes? offset data = some written) : segment.Persists written := by
  cases segment with
  | script contents =>
    -- The buffer is as long as before.
    simp only [writeBytes?, Option.map_eq_some_iff] at done
    obtain ⟨spliced, fits, rfl⟩ := done
    refine Steady.persists (steady_script rfl rfl rfl rfl ?_) (by simp [kind]) (by simp [kind])
    simp only [splice?, Option.ite_none_right_eq_some, Option.some.injEq] at fits
    rw [← fits.2, size_overwrite]
  | stack slots => simp [writeBytes?] at done
  | locals table => simp [writeBytes?] at done
  | _ => exact (akin_writeBytes? done).persists (by simp [kind]) (by simp [kind]) (by simp [kind])

/-- Storing a value moves no objects, and keeps the size of stacks. -/
theorem persists_writeSlot? {segment written : Segment} {offset : Nat} {value : Address}
    (done : segment.writeSlot? offset value = some written) : segment.Persists written := by
  -- Only tables and stacks have slots for values.
  cases segment with
  | script contents => simp [writeSlot?] at done
  | stack slots =>
    simp only [writeSlot?, Option.ite_none_right_eq_some, Option.some.injEq] at done
    rw [← done.2]
    exact persists_stack slots _ value
  | locals table =>
    simp only [writeSlot?, Option.ite_none_right_eq_some, Option.some.injEq] at done
    rw [← done.2]
    exact persists_locals table _ value
  | _ => simp [writeSlot?] at done

/-- Freeing a slot of a pool moves no objects. -/
theorem persists_release (segment : Segment) (index : Nat) :
    segment.Persists (segment.release index) := by
  -- Only pools have slots to free; the other segments stay as they are.
  cases segment with
  | script contents => exact .refl _
  | stack slots => exact .refl _
  | locals table => exact .refl _
  | _ => exact (akin_release _ index).persists (by simp [kind]) (by simp [kind]) (by simp [kind])

/-- A table of variables is no larger than offsets reach, at two bytes for each variable. -/
def IsReachable (segment : Segment) : Prop :=
  ∀ table, segment = .locals table → 2 * table.values.size ≤ segmentLimit

end Segment

/-- Changing a pool in place moves no objects of scripts. -/
theorem RecordKind.Lawful.persists {α : Type} {records : RecordKind α} (lawful : records.Lawful)
    {change : Pool α → Pool α} {segment : Segment}
    (small : ∀ pool, records.pool? segment = some pool → pool.slots.size ≤ Pool.maxSlots →
      (change pool).slots.size ≤ Pool.maxSlots) :
    segment.Persists (records.modify change segment) := by
  cases inside : records.pool? segment with
  | none =>
    rw [RecordKind.modify, inside]
    exact .refl segment
  | some pool =>
    -- Pools are neither scripts nor stacks nor tables of variables.
    have other (kind : SegmentKind) (noPool : kind.isPool = false) : segment.kind ≠ kind := by
      rw [lawful.segment_of_pool? inside, ← Segment.kind_of_bearing, lawful.bearing]
      intro same
      have isPool := lawful.isPool
      simp only at same
      rw [same, noPool] at isPool
      simp at isPool
    exact (lawful.akin small).persists (other _ rfl) (other _ rfl) (other _ rfl)

namespace Script

/-- Changing an object in everything but its position moves no object. -/
theorem positions_modifyObject (script : Script) (offset : UInt16) {change : Object → Object}
    (still : ∀ object, (change object).pos = object.pos) :
    (script.modifyObject offset change).positions = script.positions := by
  -- Without an object at the offset nothing changes at all.
  unfold modifyObject
  split
  · exact positions_modify script _ still
  · rfl

end Script

namespace Heap

/-- Without a segment there is nothing to change. -/
theorem modify_of_none {heap : Heap} {id : SegmentId} (empty : heap.get? id = none)
    (change : Segment → Segment) : heap.modify id change = heap := by
  have same : heap.segments.modify id.toNat (Option.map change) = heap.segments := by
    apply Array.ext_getElem?
    intro place
    rw [Array.getElem?_modify]
    split
    · -- What is in the place, if it exists, is nothing.
      rename_i here
      subst here
      cases found : heap.segments[id.toNat]? with
      | none => rfl
      | some contents =>
        rw [get?, found, Option.join_some] at empty
        rw [empty]
        rfl
    · rfl
  rw [modify, same]

/--
The memories that work passes through, one step after the other.

A script that leaves is one whose place, and that of its variables, held neither a script nor
variables at the start.
-/
inductive Develops (start : Heap) : Heap → Prop where
  | refl : Develops start start
  /-- Loading failed and gave its place back. -/
  | alike {between after : Heap} (develops : Develops start between)
      (alike : between.Alike after) (grown : between.segments.size ≤ after.segments.size)
      (sound : between.Sound → after.Sound) : Develops start after
  /-- A script was loaded. -/
  | loaded {between after : Heap} {resources : Resources} {number : UInt16} {id : SegmentId}
      (develops : Develops start between) (loaded : between.Loaded resources number id after)
      (sound : between.Sound → after.Sound) : Develops start after
  /-- A script that came in vain left. -/
  | departed {between after : Heap} {id : SegmentId} {script : Script}
      (develops : Develops start between)
      (found : between.get? id = some (.script script))
      (vacant : ∀ place segment, Store.leavesWith id script place →
        start.get? place = some segment → ¬ segment.IsLasting)
      (left : Store.Left between id script after) : Develops start after
  /-- A segment without objects was put into the next place. -/
  | inserted {between : Heap} {id : SegmentId} {segment : Segment}
      (develops : Develops start between) (next : between.nextId? = some id)
      (loose : segment.IsLoose)
      (bare : ∀ script, segment = .script script → script.IsAtHome id)
      (nodeless : segment.IsNodeless) (reachable : segment.IsReachable) :
      Develops start (between.insert id segment)
  /-- A segment that is neither a script nor variables nor a stack was taken out. -/
  | vacated {between : Heap} {id : SegmentId} {segment : Segment}
      (develops : Develops start between) (found : between.get? id = some segment)
      (passing : ¬ segment.IsLasting) (noStack : segment.kind ≠ .stack) :
      Develops start { between.put id none with
        pools := Store.poolsWithout between.pools segment.kind id }
  /-- A segment was changed in place, and no node came unless into the current pool of nodes. -/
  | replaced {between : Heap} {id : SegmentId} {old new : Segment}
      (develops : Develops start between) (found : between.get? id = some old)
      (persists : old.Persists new)
      (nodes : between.pools.get .nodes = id ∨ old.BringsNoNodes new) :
      Develops start (between.put id (some new))
  /-- One more record of a script was read. -/
  | read {between : Heap} {id : SegmentId} {script extended : Script} {version : Version}
      {offset : UInt16} {index : Nat} (develops : Develops start between)
      (found : between.get? id = some (.script script))
      (read : script.instantiateObject version offset = .ok (index, extended)) :
      Develops start (between.put id (some (.script extended)))
  /-- An object of a script was registered as a class. -/
  | registered {between : Heap} {id : SegmentId} {script : Script} {object : Object}
      (develops : Develops start between) (found : between.get? id = some (.script script))
      (member : object ∈ script.objects) (species number : UInt16) :
      Develops start { between with
        classes := between.classes.register species number object.pos }
  /-- A pool became the current one of its kind, where there was none. -/
  | pooled {between : Heap} {id : SegmentId} {kind : SegmentKind}
      (develops : Develops start between) (found : between.kind? id = some kind)
      (first : between.pools.get kind = 0) :
      Develops start { between with pools := between.pools.set kind id }

namespace Develops

variable {start between after : Heap} {id place : SegmentId} {segment : Segment}

/-- What comes of a script by reading one more record can take its place. -/
theorem akin_read {script extended : Script} {version : Version} {offset : UInt16} {index : Nat}
    (read : script.instantiateObject version offset = .ok (index, extended)) :
    (Segment.script script).Akin (.script extended) := by
  -- Reading a record changes the objects of the script only.
  obtain ⟨objects, rfl⟩ := Script.instantiateObject_objects read
  exact ⟨rfl, fun bounded => bounded⟩

/-- Memory that develops stays sound. -/
theorem sound (develops : Develops start after) (sound : start.Sound) : after.Sound := by
  -- Each step is known to lead from one sound memory to another.
  induction develops with
  | refl => exact sound
  | alike _ _ _ keeps ih => exact keeps ih
  | loaded _ _ keeps ih => exact keeps ih
  | departed _ found _ left ih => exact (left.departed ih found).sound
  | inserted _ next loose _ _ _ ih => exact ih.insert next loose
  | vacated _ found passing _ ih =>
    rw [Segment.IsLasting, not_or] at passing
    exact (ih.vacate_other found passing.1 passing.2).of_same rfl rfl
  | replaced _ found persists _ ih => exact ih.put found persists.akin
  | read _ found read ih => exact ih.put found (akin_read read)
  | registered _ _ _ _ _ ih => exact ih.of_same rfl rfl
  | pooled _ _ _ ih => exact ih.of_same rfl rfl

/-- Memory that develops keeps its place zero. -/
theorem opened (develops : Develops start after) (opened : 0 < start.segments.size) :
    0 < after.segments.size := by
  -- The table never shrinks.
  induction develops with
  | refl => exact opened
  | alike _ _ grown _ ih => exact Nat.lt_of_lt_of_le ih grown
  | loaded _ loaded _ _ =>
    obtain ⟨_, _, _, _, found, _⟩ := loaded.script
    exact Nat.zero_lt_of_lt (inside_of_get? found)
  | departed _ _ _ left ih =>
    rw [left.size]
    exact ih
  | inserted _ _ _ _ _ _ ih => exact Nat.lt_of_lt_of_le ih (size_le_insert _ _ _)
  | vacated _ _ _ _ ih => simpa [put] using ih
  | replaced _ _ _ _ ih => simpa [put] using ih
  | read _ _ _ ih => simpa [put] using ih
  | registered _ _ _ _ _ ih => exact ih
  | pooled _ _ _ ih => exact ih

/-- A script or table of variables that was in memory at the start is still there. -/
theorem stays (develops : Develops start after) (found : start.get? place = some segment)
    (lasting : segment.IsLasting) :
    ∃ later, after.get? place = some later ∧ segment.Akin later := by
  -- Whatever comes gets an empty place, and what leaves was not there at the start.
  induction develops with
  | refl => exact ⟨segment, found, .refl segment⟩
  | alike _ alike _ _ ih =>
    obtain ⟨later, present, akin⟩ := ih
    exact ⟨later, by rw [alike.places, present], akin⟩
  | loaded _ loaded _ ih =>
    obtain ⟨later, present, akin⟩ := ih
    exact ⟨later, loaded.kept place later present, akin⟩
  | departed _ _ vacant left ih =>
    obtain ⟨later, present, akin⟩ := ih
    refine ⟨later, ?_, akin⟩
    rw [left.places, if_neg]
    · exact present
    · exact fun leaves => vacant place segment leaves found lasting
  | inserted _ next _ _ _ _ ih =>
    obtain ⟨later, present, akin⟩ := ih
    exact ⟨later, get?_insert_of_some next present _, akin⟩
  | vacated _ there passing _ ih =>
    obtain ⟨later, present, akin⟩ := ih
    refine ⟨later, get?_put_of_apart there present ?_ none, akin⟩
    -- What was taken out was neither a script nor variables.
    rintro rfl
    exact passing (akin.lasting lasting)
  -- If it is this one that changed, it became something akin to it.
  | replaced _ there persists _ ih =>
    obtain ⟨later, present, akin⟩ := ih
    rcases get?_put_of_some there present _ with kept | ⟨rfl, changed⟩
    · exact ⟨later, kept, akin⟩
    · exact ⟨_, changed, akin.trans persists.akin⟩
  | read _ there read ih =>
    obtain ⟨later, present, akin⟩ := ih
    rcases get?_put_of_some there present _ with kept | ⟨rfl, changed⟩
    · exact ⟨later, kept, akin⟩
    · exact ⟨_, changed, akin.trans (akin_read read)⟩
  | registered _ _ _ _ _ ih => exact ih
  | pooled _ _ _ ih => exact ih

/-- A script that was in memory at the start is still there, with the same variables. -/
theorem script_stays (develops : Develops start after) {script : Script}
    (found : start.get? place = some (.script script)) :
    ∃ later, after.get? place = some (.script later) ∧ later.number = script.number ∧
      later.localsSegment = script.localsSegment := by
  -- What takes the place of a script is a script with the same variables.
  obtain ⟨later, present, akin⟩ := develops.stays found (.inl rfl)
  obtain ⟨other, rfl, number, _, sameVariables⟩ := akin.of_script
  exact ⟨other, present, number, sameVariables⟩

/-- A stack that was in memory at the start is still there, with as many slots. -/
theorem stack_stays (develops : Develops start after) (sound : start.Sound)
    {slots : Array Address} (found : start.get? place = some (.stack slots)) :
    ∃ later, after.get? place = some (.stack later) ∧ later.size = slots.size := by
  -- Only scripts, their variables and blocks leave, and a stack is none of these.
  induction develops with
  | refl => exact ⟨slots, found, rfl⟩
  | alike _ alike _ _ ih =>
    obtain ⟨later, present, size⟩ := ih
    exact ⟨later, by rw [alike.places, present], size⟩
  | loaded _ loaded _ ih =>
    obtain ⟨later, present, size⟩ := ih
    exact ⟨later, loaded.kept place _ present, size⟩
  | departed develops there _ left ih =>
    obtain ⟨later, present, size⟩ := ih
    refine ⟨later, ?_, size⟩
    rw [left.places, if_neg]
    · exact present
    · -- The place would have to hold a script or variables, and it holds a stack.
      rintro (rfl | ⟨some_, rfl⟩)
      · rw [there] at present
        simp at present
      · obtain ⟨_, table, tableAt, _⟩ := (develops.sound sound).ownLocals _ _ there some_
        rw [tableAt] at present
        simp at present
  | inserted _ next _ _ _ _ ih =>
    obtain ⟨later, present, size⟩ := ih
    exact ⟨later, get?_insert_of_some next present _, size⟩
  | vacated _ there _ noStack ih =>
    obtain ⟨later, present, size⟩ := ih
    refine ⟨later, get?_put_of_apart there present ?_ none, size⟩
    rintro rfl
    exact noStack rfl
  | replaced _ there persists _ ih =>
    obtain ⟨later, present, size⟩ := ih
    rcases get?_put_of_some there present _ with kept | ⟨rfl, changed⟩
    · exact ⟨later, kept, size⟩
    · -- A stack is only ever replaced by a stack with as many slots.
      obtain ⟨new, rfl⟩ := persists.akin.of_stack
      exact ⟨new, changed, (persists.slots later new rfl rfl).trans size⟩
  | read _ there _ ih =>
    obtain ⟨later, present, size⟩ := ih
    exact ⟨later, get?_put_of_apart there present (by simp) _, size⟩
  | registered _ _ _ _ _ ih => exact ih
  | pooled _ _ _ ih => exact ih

/-- Memory that develops twice has developed. -/
theorem trans (first : Develops start between) (second : Develops between after) :
    Develops start after := by
  -- The steps of the second stretch follow those of the first.
  induction second with
  | refl => exact first
  | alike _ alike grown sound ih => exact .alike ih alike grown sound
  | loaded _ loaded sound ih => exact .loaded ih loaded sound
  | departed _ found vacant left ih =>
    refine .departed ih found ?_ left
    intro place segment leaves there lasting
    -- What was there at the start would still be there when the second stretch begins.
    obtain ⟨later, present, akin⟩ := first.stays there lasting
    exact vacant place later leaves present (akin.lasting lasting)
  | inserted _ next loose bare nodeless reachable ih =>
    exact .inserted ih next loose bare nodeless reachable
  | vacated _ found passing noStack ih => exact .vacated ih found passing noStack
  | replaced _ found persists nodes ih => exact .replaced ih found persists nodes
  | read _ found read ih => exact .read ih found read
  | registered _ found member species number ih => exact .registered ih found member species number
  | pooled _ found first ih => exact .pooled ih found first

/-- A segment that is changed in place, if there is one, is a step. -/
theorem modify (develops : Develops start between) {change : Segment → Segment}
    (persists : ∀ segment, between.get? id = some segment → segment.Persists (change segment))
    (nodes : between.pools.get .nodes = id ∨ ∀ segment, between.get? id = some segment →
      segment.BringsNoNodes (change segment)) :
    Develops start (between.modify id change) := by
  -- Without a segment there nothing changes; otherwise it is replaced.
  cases found : between.get? id with
  | none =>
    rw [modify_of_none found]
    exact develops
  | some segment =>
    rw [modify_eq_put found]
    exact .replaced develops found (persists segment found) (nodes.imp_right (· segment found))

/-- A change that leaves pools of nodes alone is a step. -/
theorem modifyOthers (develops : Develops start between) {change : Segment → Segment}
    (persists : ∀ segment, between.get? id = some segment → segment.Persists (change segment))
    (spares : ∀ pool, change (.nodes pool) = .nodes pool) :
    Develops start (between.modify id change) :=
  develops.modify persists (.inr fun segment _ => Segment.bringsNoNodes_of_spares spares segment)

/-- A script that is changed in place in who needs it is a step. -/
theorem modifyScript {script : Script} (develops : Develops start between)
    (found : between.get? id = some (.script script)) {change : Script → Script}
    (locks : ∃ lockers deleted holds, change script = script.withLocks lockers deleted holds) :
    Develops start (between.modifyScript id change) := by
  obtain ⟨lockers, deleted, holds, same⟩ := locks
  refine develops.modifyOthers ?_ fun _ => rfl
  -- The segment is the script, and only its account changes.
  intro segment there
  rw [found, Option.some.injEq] at there
  subst there
  simp only [same]
  exact (Segment.steady_withLocks script lockers deleted holds).persists (by simp [Segment.kind])
    (by simp [Segment.kind])

/-- Changing an object in everything but its position is a step. -/
theorem modifyObject (develops : Develops start between) (address : Address)
    {change : Object → Object} (still : ∀ object, (change object).pos = object.pos) :
    Develops start (between.modifyObject address change) := by
  refine develops.modifyOthers ?_ fun _ => rfl
  intro segment _
  -- Objects are in scripts and in the pool of clones.
  cases segment with
  | script contents =>
    have positions := contents.positions_modifyObject address.offset still
    refine Segment.Steady.persists (Segment.steady_script ?_ ?_ ?_ positions ?_)
      (by simp [Segment.kind]) (by simp [Segment.kind]) <;>
        (unfold Script.modifyObject; split <;> rfl)
  | clones pool =>
    exact Segment.Akin.persists ⟨rfl, by simp [Segment.IsBounded]⟩ (by simp [Segment.kind])
      (by simp [Segment.kind]) (by simp [Segment.kind])
  | _ => exact .refl _

/-- Changing a record in place is a step. -/
theorem modifyRecord {α : Type} {records : RecordKind α} (develops : Develops start between)
    (lawful : records.Lawful) (address : Address) (change : α → α)
    (nodes : ∀ segment : Segment, segment.BringsNoNodes
      (records.modify (fun pool => pool.modify address.offset.toNat change) segment)) :
    Develops start (between.modify address.segment
      (records.modify fun pool => pool.modify address.offset.toNat change)) := by
  refine develops.modify (fun _ _ => lawful.persists ?_) (.inr fun segment _ => nodes segment)
  exact fun _ _ bounded => by simpa using bounded

/-- Storing a value into a slot of the operand stack is a step. -/
theorem setStackSlot (develops : Develops start between) (index : Nat) (value : Address) :
    Develops start (between.setStackSlot id index value) := by
  -- Only a stack is changed, and it keeps its size.
  refine develops.modifyOthers ?_ fun _ => rfl
  intro segment _
  cases segment with
  | stack slots => exact Segment.persists_stack slots index value
  | _ => exact .refl _

/-- Storing a value into a variable is a step. -/
theorem setLocal (develops : Develops start between) (index : Nat) (value : Address) :
    Develops start (between.setLocal id index value) := by
  -- Only a table of variables is changed, and it keeps its size.
  refine develops.modifyOthers ?_ fun _ => rfl
  intro segment _
  cases segment with
  | locals table => exact Segment.persists_locals table index value
  | _ => exact .refl _

/-- Writing bytes is a step. -/
theorem writeBytes {address : Address} {data : Bytes} (develops : Develops start between)
    (done : between.writeBytes address data = .ok after) : Develops start after := by
  obtain ⟨segment, written, present, changed, rfl⟩ := writeBytes_iff_put.mp done
  refine .replaced develops present (Segment.persists_writeBytes? changed) (.inr ?_)
  -- Nodes are not made of bytes.
  rintro old new rfl
  simp [Segment.writeBytes?] at changed

/-- Storing a value is a step. -/
theorem writeValue {address value : Address} (develops : Develops start between)
    (done : between.writeValue address value = .ok after) : Develops start after := by
  cases words : between.storesWords address with
  | true => exact develops.writeBytes (writeValue_words words ▸ done)
  | false =>
    obtain ⟨segment, written, present, changed, rfl⟩ := (writeSlot_iff_put words).mp done
    refine .replaced develops present (Segment.persists_writeSlot? changed) (.inr ?_)
    -- Nodes are no slots for values either.
    rintro old new rfl
    simp [Segment.writeSlot?] at changed

/-- Replacing a property is a step. -/
theorem writeProperty {address value : Address} {index : Nat} (develops : Develops start between)
    (done : between.writeProperty address index value = .ok after) : Develops start after := by
  -- A write that succeeded changed an object in place.
  rw [modifyObject_of_writeProperty done]
  exact develops.modifyObject address fun _ => rfl

end Develops

end Heap

end AdventureVm
