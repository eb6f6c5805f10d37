import AdventureVm.Proofs.Collector.Entities
import AdventureVm.Proofs.Memory.Outcomes

/-!
The spots of memory that can be written.

Bytes are kept in regions: the buffer of a script, a block, or one entry of a pool or of the scratch
texts. Values are kept in the slots of tables and stacks. Everything else is the outline of memory.
-/

namespace AdventureVm

/-- One thing in memory that can be written without changing what memory consists of. -/
inductive Spot where
  /-- A byte of a region, which is named by its segment and the entry that it belongs to. -/
  | byte (segment : SegmentId) (entry index : Nat)
  /-- A slot for a value. -/
  | slot (segment : SegmentId) (index : Nat)

/-- The segment that a spot is in. -/
def Spot.segment : Spot → SegmentId
  | byte segment _ _ => segment
  | slot segment _ => segment

/-- What is at a spot. -/
inductive Spot.Content where
  | byte (byte : UInt8)
  | value (value : Address)

namespace Segment

/-- The bytes of a region; a segment that is a single region has it as entry zero. -/
def region? (segment : Segment) (entry : Nat) : Option Bytes :=
  match segment with
  | script contents => if entry = 0 then some contents.data else none
  | dynmem block => if entry = 0 then some block.data else none
  | hunks pool => (pool.get? entry).map (·.data)
  | systemStrings texts => texts[entry]?.map (·.data)
  | _ => none

/-- The segment with other bytes in a region. -/
def withRegion (segment : Segment) (entry : Nat) (data : Bytes) : Segment :=
  match segment with
  | script contents => .script { contents with data }
  | dynmem block => .dynmem { block with data }
  | hunks pool => .hunks (pool.modify entry fun block => { block with data })
  | systemStrings texts => .systemStrings (texts.modify entry fun text => { text with data })
  | other => other

/-- The slots for values. -/
def slots? : Segment → Option (Array Address)
  | locals table => some table.values
  | stack slots => some slots
  | _ => none

/-- The segment with other values in its slots. -/
def withSlots (segment : Segment) (values : Array Address) : Segment :=
  match segment with
  | locals table => .locals { table with values }
  | stack _ => .stack values
  | other => other

/-- The segment with nothing written in it: every byte is zero and every value null. -/
def outline : Segment → Segment
  | script contents => .script { contents with data := Array.replicate contents.data.size 0 }
  | locals table => .locals { table with values := Array.replicate table.values.size .null }
  | stack slots => .stack (Array.replicate slots.size .null)
  | hunks pool => .hunks { pool with slots := pool.slots.map (Option.map fun block =>
      { block with data := Array.replicate block.data.size 0 }) }
  | dynmem block => .dynmem { block with data := Array.replicate block.data.size 0 }
  | systemStrings texts => .systemStrings (texts.map fun text =>
      { text with data := Array.replicate text.data.size 0 })
  | other => other

/-- Changing one item goes unnoticed by whoever does not see a difference in it. -/
theorem map_modify_of_same {α β : Type} {items : Array α} {index : Nat} {change : α → α}
    {view : α → β} (same : ∀ item, items[index]? = some item → view (change item) = view item) :
    (items.modify index change).map view = items.map view := by
  apply Array.ext_getElem?
  intro other
  simp only [Array.getElem?_map, Array.getElem?_modify]
  -- Only the item that changes could look different.
  split
  · rename_i here
    subst here
    cases found : items[index]? with
    | none => rfl
    | some item => exact congrArg some (same item found)
  · rfl

variable {segment : Segment} {entry other : Nat} {old data : Bytes} {slots values : Array Address}

/-- Bytes of a region can be changed within the outline of the segment. -/
theorem outline_withRegion (found : segment.region? entry = some old)
    (size : data.size = old.size) : (segment.withRegion entry data).outline = segment.outline := by
  cases segment with
  | script contents =>
    simp only [region?, Option.ite_none_right_eq_some, Option.some.injEq] at found
    simp only [withRegion, outline, size, found.2]
  | dynmem block =>
    simp only [region?, Option.ite_none_right_eq_some, Option.some.injEq] at found
    simp only [withRegion, outline, size, found.2]
  | hunks pool =>
    simp only [withRegion, outline, Pool.modify]
    rw [map_modify_of_same]
    intro slot there
    -- The slot holds the block that the region was found in.
    cases slot with
    | none => rfl
    | some block =>
      simp only [region?, Pool.get?, there, Option.join_some, Option.map_some,
        Option.some.injEq] at found
      simp only [Option.map_some, size, found]
  -- A text keeps its size, and that is all that the outline tells of it.
  | systemStrings texts =>
    simp only [withRegion, outline]
    rw [map_modify_of_same]
    intro text there
    simp only [region?, there, Option.map_some, Option.some.injEq] at found
    simp only [size, found]
  | _ => simp [region?] at found

/-- Values can be changed within the outline of the segment. -/
theorem outline_withSlots (found : segment.slots? = some slots) (size : values.size = slots.size) :
    (segment.withSlots values).outline = segment.outline := by
  cases segment <;> cases found <;> simp only [withSlots, outline, size]

/-- A region has the bytes that it was given, and the others have what they had. -/
theorem region?_withRegion (found : segment.region? entry = some old) :
    (segment.withRegion entry data).region? other =
      if other = entry then some data else segment.region? other := by
  -- Scripts and blocks have one region, pools and texts one for each entry.
  cases segment with
  | script contents =>
    simp only [region?, Option.ite_none_right_eq_some] at found
    simp only [withRegion, region?, found.1]
    split <;> rfl
  | dynmem block =>
    simp only [region?, Option.ite_none_right_eq_some] at found
    simp only [withRegion, region?, found.1]
    split <;> rfl
  | hunks pool =>
    simp only [withRegion, region?, Pool.get?_modify]
    split
    · rename_i same
      obtain ⟨block, there, _⟩ := Option.map_eq_some_iff.mp found
      rw [same, there]
      rfl
    · rfl
  | systemStrings texts =>
    simp only [withRegion, region?, Array.getElem?_modify]
    obtain ⟨text, there, _⟩ := Option.map_eq_some_iff.mp found
    by_cases same : entry = other
    · rw [if_pos same, if_pos same.symm, ← same, there]
      rfl
    · rw [if_neg same, if_neg (Ne.symm same)]
  | _ => simp [region?] at found

/-- Other bytes in a region make no slots for values. -/
theorem slots?_withRegion (segment : Segment) (entry : Nat) (data : Bytes) :
    (segment.withRegion entry data).slots? = segment.slots? := by
  cases segment <;> rfl

/-- The slots have the values that they were given. -/
theorem slots?_withSlots (found : segment.slots? = some slots) :
    (segment.withSlots values).slots? = some values := by
  cases segment <;> simp_all [slots?, withSlots]

/-- Other values make no region of bytes. -/
theorem region?_withSlots (segment : Segment) (values : Array Address) (entry : Nat) :
    (segment.withSlots values).region? entry = segment.region? entry := by
  cases segment <;> rfl

end Segment

namespace Heap

/-- What is at a spot of memory. -/
def content? (heap : Heap) : Spot → Option Spot.Content
  | .byte id entry index =>
    (((heap.get? id).bind (·.region? entry)).bind (·[index]?)).map .byte
  | .slot id index => (((heap.get? id).bind (·.slots?)).bind (·[index]?)).map .value

/-- Memory with nothing written in it: the segments, the size of each region and each table, all
records, and what memory knows of scripts, classes and pools. -/
def outline (heap : Heap) : Heap :=
  { heap with segments := heap.segments.map (Option.map Segment.outline) }

/-- Memory is what it was before, except for the contents of some spots. -/
structure DiffersOnlyAt (before : Heap) (changed : Spot → Prop) (after : Heap) : Prop where
  /-- Nothing came and nothing went, and nothing has another size. -/
  outline : after.outline = before.outline
  /-- All other spots hold what they held. -/
  spots : ∀ spot, ¬ changed spot → after.content? spot = before.content? spot

variable {heap before after : Heap} {id : SegmentId} {segment : Segment} {spot : Spot}
  {entry index start : Nat} {old data : Bytes} {slots : Array Address} {value : Address}

/-- A segment can be replaced within the outline of memory by one of the same outline. -/
theorem outline_put {replaced : Segment} (found : heap.get? id = some segment)
    (same : replaced.outline = segment.outline) :
    (heap.put id (some replaced)).outline = heap.outline := by
  have inside := inside_of_get? found
  have there : heap.segments[id.toNat]? = some (some segment) := by
    rw [get?, Array.getElem?_eq_getElem inside, Option.join_some] at found
    rw [Array.getElem?_eq_getElem inside, found]
  -- Putting is changing in place, which is what the outline does not see.
  rw [← modify_eq_put found fun _ => replaced]
  simp only [outline, modify]
  rw [Segment.map_modify_of_same]
  intro place here
  rw [there, Option.some.injEq] at here
  subst here
  exact congrArg some same

/-- A spot of another segment is left alone when a segment is replaced. -/
theorem content?_put_of_ne {replaced : Segment} (found : heap.get? id = some segment)
    (elsewhere : spot.segment ≠ id) :
    (heap.put id (some replaced)).content? spot = heap.content? spot := by
  -- A spot of either kind is found in its segment, which is in another place.
  have same := (get?_put found (some replaced)).trans (if_neg elsewhere)
  cases spot with
  | byte other entry index => exact congrArg (fun place =>
      ((place.bind (·.region? entry)).bind (·[index]?)).map Spot.Content.byte) same
  | slot other index => exact congrArg (fun place =>
      ((place.bind (·.slots?)).bind (·[index]?)).map Spot.Content.value) same

/-- Replacing the bytes of a region changes those spots in which the bytes differ. -/
theorem differsOnlyAt_withRegion {changed : Spot → Prop} (found : heap.get? id = some segment)
    (region : segment.region? entry = some old) (size : data.size = old.size)
    (covered : ∀ index, data[index]? ≠ old[index]? → changed (.byte id entry index)) :
    heap.DiffersOnlyAt changed (heap.put id (some (segment.withRegion entry data))) := by
  refine ⟨outline_put found (Segment.outline_withRegion region size), ?_⟩
  intro spot other
  cases spot with
  -- Bytes are written, so slots keep their values.
  | slot place index =>
    by_cases here : place = id
    · subst here
      simp only [content?, get?_put found, if_true, found, Option.bind_some,
        Segment.slots?_withRegion]
    · exact content?_put_of_ne found here
  | byte place row index =>
    by_cases here : place = id
    · subst here
      simp only [content?, get?_put found, if_true, found, Option.bind_some,
        Segment.region?_withRegion region]
      split
      · -- The spot is in the region, so its byte is the same.
        rename_i same
        subst same
        have kept : data[index]? = old[index]? := by
          by_contra differs
          exact other (covered index differs)
        rw [region, Option.bind_some, Option.bind_some, kept]
      · rfl
    · exact content?_put_of_ne found here

/-- Storing a value into a slot changes no other spot. -/
theorem differsOnlyAt_withSlots (found : heap.get? id = some segment)
    (table : segment.slots? = some slots) (index : Nat) (value : Address) :
    heap.DiffersOnlyAt (· = .slot id index)
      (heap.put id (some (segment.withSlots (slots.setIfInBounds index value)))) := by
  refine ⟨outline_put found (Segment.outline_withSlots table Array.size_setIfInBounds), ?_⟩
  intro spot other
  -- Bytes are not in the table, and the other slots keep their values.
  cases spot with
  | byte place row position =>
    by_cases here : place = id
    · subst here
      simp only [content?, get?_put found, if_true, found, Option.bind_some,
        Segment.region?_withSlots]
    · exact content?_put_of_ne found here
  | slot place position =>
    by_cases here : place = id
    · subst here
      have apart : index ≠ position := by
        rintro rfl
        exact other rfl
      simp only [content?, get?_put found, if_true, found, Option.bind_some,
        Segment.slots?_withSlots table, table, Array.getElem?_setIfInBounds_ne apart]
    · exact content?_put_of_ne found here

end Heap

end AdventureVm
