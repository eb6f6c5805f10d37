import AdventureVm.Proofs.Assembly.Linking
import AdventureVm.Proofs.Lists.Links
import AdventureVm.Proofs.Memory.Spots
import AdventureVm.Proofs.RoundTrip.Layout

/-!
Reading and writing agree.

What can be written somewhere is what can be read there, it is read as it was written, and nothing
else changes. Reading looks at what an address leads to, writing goes by the kind of the segment:
both come to the same region, or to the same slot.
-/

namespace AdventureVm

section Buffers

variable {data whole : Bytes} {start count index : Nat}

/-- Bytes outside the range that is written stay as they are. -/
theorem getElem?_overwrite_outside (data : Bytes) (start : Nat) (value : List UInt8)
    (outside : index < start ∨ start + value.length ≤ index) :
    (overwrite data start value)[index]? = data[index]? := by
  -- Each step moves the start by one, so the start and the buffer stay quantified over.
  induction value generalizing data start with
  | nil => rfl
  | cons byte rest ih =>
    rw [List.length_cons] at outside
    rw [overwrite, ih _ _ (by omega), Array.getElem?_setIfInBounds_ne (by omega)]

/-- What is written into a buffer is in it. -/
theorem getElem?_overwrite_inside (data : Bytes) (start : Nat) (value : List UInt8)
    (fits : start + value.length ≤ data.size) (inside : index < value.length) :
    (overwrite data start value)[start + index]? = value[index]? := by
  -- Each byte is written one place further, so place and buffer stay quantified over.
  induction value generalizing data start index with
  | nil => simp at inside
  | cons byte rest ih =>
    rw [List.length_cons] at fits inside
    rw [overwrite]
    cases index with
    | zero =>
      -- The other bytes are written behind this one.
      rw [getElem?_overwrite_outside _ _ _ (by omega), Nat.add_zero,
        Array.getElem?_setIfInBounds_self_of_lt (by omega)]
      rfl
    | succ index =>
      have room : start + 1 + rest.length ≤ (data.setIfInBounds start byte).size := by
        rw [Array.size_setIfInBounds]
        omega
      have later := ih _ _ room (Nat.lt_of_succ_lt_succ inside)
      rw [List.getElem?_cons_succ, ← later]
      congr 1
      omega

/-- A buffer holds what was written into it. -/
theorem carries_overwrite (fits : start + data.size ≤ whole.size) :
    Carries (overwrite whole start data.toList) start data := by
  -- Inside of what was written the new bytes are read.
  refine ⟨by rwa [size_overwrite], ?_⟩
  intro index inside
  rw [getElem?_overwrite_inside _ _ _ (by simpa using fits) (by simpa using inside),
    Array.getElem?_toList]

/-- A range of what is left of a buffer from a start on is a range of the buffer. -/
theorem slice?_extract (positive : 0 < count) :
    slice? (whole.extract start whole.size) 0 count = slice? whole start count := by
  -- The range fits into the rest exactly if it fits into the whole.
  unfold slice?
  rw [Array.size_extract, Nat.min_self]
  by_cases fits : start + count ≤ whole.size
  · rw [if_pos fits, if_pos (by omega), Array.extract_extract]
    congr 2
    omega
  · rw [if_neg fits, if_neg (by omega)]

/-- The first word of what is left of a buffer from a start on is the word there. -/
theorem word?_extract : word? (whole.extract start whole.size) 0 = word? whole start := by
  -- Both bytes of the word are at the shifted places of the whole.
  have byte (step : Nat) : (whole.extract start whole.size)[step]? = whole[start + step]? := by
    rw [Array.getElem?_extract, Nat.min_self]
    split
    · rfl
    · rw [Array.getElem?_eq_none (by omega)]
  rw [word?, word?, byte, byte]
  rfl

end Buffers

/-- A record is changed in the same way by changes that agree on it. -/
theorem Pool.modify_congr {α : Type} {pool : Pool α} {index : Nat} {value : α}
    (found : pool.get? index = some value) {change other : α → α}
    (same : change value = other value) : pool.modify index change = pool.modify index other := by
  have slots : pool.slots.modify index (Option.map change) =
      pool.slots.modify index (Option.map other) := by
    -- The two differ at most in the slot of the record, where they agree.
    apply Array.ext_getElem?
    intro place
    rw [Array.getElem?_modify, Array.getElem?_modify]
    split
    · rename_i here
      subst here
      rw [get?, Option.join_eq_some_iff] at found
      rw [found, Option.map_some, Option.map_some, Option.map_some, Option.map_some, same]
    · rfl
  rw [modify, slots, modify]

namespace Segment

/-- Where an offset leads among the regions of a segment: to an entry, and to a byte of it. -/
def target (segment : Segment) (offset : Nat) : Nat × Nat :=
  match segment with
  | hunks _ | systemStrings _ => (offset, 0)
  | _ => (0, offset)

variable {segment written : Segment} {entry offset : Nat} {data rest whole : Bytes}
  {slots : Array Address} {value : Address}

/-- Other bytes in a region change nothing about where offsets lead. -/
theorem target_withRegion (segment : Segment) (entry : Nat) (data : Bytes) :
    (segment.withRegion entry data).target offset = segment.target offset := by
  cases segment <;> rfl

/-- Bytes are written into the region that the offset leads into, if all of them fit there. -/
theorem writeBytes?_eq (segment : Segment) (offset : Nat) (data : Bytes) :
    segment.writeBytes? offset data = (segment.region? (segment.target offset).1).bind fun whole =>
      (splice? whole (segment.target offset).2 data).map
        (segment.withRegion (segment.target offset).1) := by
  cases segment with
  | hunks pool =>
    simp only [writeBytes?, region?, target, Block.write?]
    cases found : pool.get? offset with
    | none => rfl
    | some block =>
      -- The block that is put back differs from the one that is there in its bytes alone.
      cases spliced : splice? block.data 0 data with
      | none => simp [spliced]
      | some bytes =>
        have same : pool.modify offset (fun _ => { block with data := bytes }) =
            pool.modify offset fun block => { block with data := bytes } :=
          Pool.modify_congr found rfl
        simp only [Option.bind_eq_bind, Option.bind_some, Option.map_some, spliced, withRegion,
          Option.pure_def, same]
  -- A text takes its new bytes without a block around them.
  | systemStrings texts =>
    simp only [writeBytes?, region?, target]
    cases texts[offset]? with
    | none => rfl
    | some text =>
      cases spliced : splice? text.data 0 data with
      | none => simp [spliced]
      | some bytes => simp [spliced, withRegion]
  | dynmem block =>
    simp only [writeBytes?, region?, target, Block.write?, if_true, Option.bind_some,
      Option.map_map]
    rfl
  | _ => rfl

/-- The bytes that an offset shows are those of a region from the byte on that it leads to. -/
theorem region?_of_view (shown : segment.view? offset = some (.bytes rest)) :
    ∃ whole, segment.region? (segment.target offset).1 = some whole ∧
      rest = whole.extract (segment.target offset).2 whole.size := by
  -- Four kinds of segments hold bytes; in scripts and blocks the offset counts bytes, in the pools
  -- records.
  cases segment <;> simp only [view?, Option.map_eq_some_iff, remainder?, reduceCtorEq, and_false,
    exists_false, View.bytes.injEq, Option.ite_none_right_eq_some, Option.some.injEq] at shown
  case script contents =>
    obtain ⟨_, ⟨_, rfl⟩, rfl⟩ := shown
    exact ⟨contents.data, rfl, rfl⟩
  case dynmem block =>
    obtain ⟨_, ⟨_, rfl⟩, rfl⟩ := shown
    exact ⟨block.data, rfl, rfl⟩
  case hunks pool =>
    obtain ⟨block, found, rfl⟩ := shown
    exact ⟨block.data, by simp only [region?, target, found, Option.map_some],
      Array.extract_size.symm⟩
  case systemStrings texts =>
    obtain ⟨text, found, rfl⟩ := shown
    exact ⟨text.data, by simp only [region?, target, found, Option.map_some],
      Array.extract_size.symm⟩

/-- An offset that leads to a byte of a region shows what is left of the region from there on. -/
theorem view?_of_region (region : segment.region? (segment.target offset).1 = some whole)
    (inside : (segment.target offset).2 < whole.size) : segment.view? offset =
      some (.bytes (whole.extract (segment.target offset).2 whole.size)) := by
  -- Four kinds of segments hold bytes, and only in two of them an offset can be past the end.
  cases segment <;> simp only [region?, target, if_true, Option.some.injEq, Option.map_eq_some_iff,
    reduceCtorEq] at region
  case script contents =>
    subst region
    simp only [view?, remainder?, target] at inside ⊢
    rw [if_pos inside, Option.map_some]
  case dynmem block =>
    subst region
    simp only [view?, remainder?, target] at inside ⊢
    rw [if_pos inside, Option.map_some]
  case hunks pool =>
    obtain ⟨block, found, rfl⟩ := region
    simp only [view?, target, found, Option.map_some, Array.extract_size]
  case systemStrings texts =>
    obtain ⟨text, found, rfl⟩ := region
    simp only [view?, target, found, Option.map_some, Array.extract_size]

/-- A value is stored into the slot that an even offset leads to, if there is such a slot. -/
theorem writeSlot?_eq_some : segment.writeSlot? offset value = some written ↔
    ∃ slots, segment.slots? = some slots ∧ offset % 2 = 0 ∧ offset / 2 < slots.size ∧
      segment.withSlots (slots.setIfInBounds (offset / 2) value) = written := by
  cases segment <;> simp [writeSlot?, slots?, withSlots, and_assoc]

/-- An even offset shows the slots from the one on that it leads to. -/
theorem view?_of_slots (table : segment.slots? = some slots) (even : offset % 2 = 0)
    (inside : offset / 2 < slots.size) :
    segment.view? offset = some (.values (slots.extract (offset / 2) slots.size)) := by
  -- Only stacks and tables of variables have slots.
  cases segment <;> cases table <;> simp only [view?, remainder?, if_pos even, if_pos inside,
    Option.map_some]

/-- A segment with slots for values is a table of variables or a stack. -/
theorem kind_of_slots (table : segment.slots? = some slots) :
    segment.kind = .locals ∨ segment.kind = .stack := by
  cases segment <;> simp_all [slots?, kind]

end Segment

namespace Heap

/-- An address leads into a region of bytes in a segment. -/
structure LeadsInto (heap : Heap) (address : Address) (segment : Segment) (whole : Bytes) :
    Prop where
  found : heap.get? address.segment = some segment
  region : segment.region? (segment.target address.offset.toNat).1 = some whole

/-- The bytes from an address on, so many of them. -/
def bytesFrom (heap : Heap) (address : Address) (count : Nat) (spot : Spot) : Prop :=
  ∃ segment step, heap.get? address.segment = some segment ∧ step < count ∧
    spot = .byte address.segment (segment.target address.offset.toNat).1
      ((segment.target address.offset.toNat).2 + step)

/-- What a value takes up at an address: two bytes where words are kept, otherwise a slot. -/
def valueAt (heap : Heap) (address : Address) (spot : Spot) : Prop :=
  if heap.storesWords address then heap.bytesFrom address 2 spot
  else spot = .slot address.segment (address.offset.toNat / 2)

variable {heap after : Heap} {address value : Address} {segment : Segment}
  {data whole found : Bytes} {count : Nat}

/-- Bytes are read from the region that the address leads into. -/
theorem readBytes_eq_ok (positive : 0 < count) : heap.readBytes address count = .ok found ↔
    ∃ segment whole, heap.LeadsInto address segment whole ∧
      slice? whole (segment.target address.offset.toNat).2 count = some found := by
  rw [readBytes, bind_eq_ok]
  constructor
  · rintro ⟨view, shown, read⟩
    obtain ⟨segment, there, view?⟩ := dereference_eq_ok.mp shown
    cases view with
    -- Bytes are read from a view that leads into a region.
    | bytes rest =>
      obtain ⟨whole, region, rfl⟩ := Segment.region?_of_view view?
      refine ⟨segment, whole, ⟨there, region⟩, ?_⟩
      rw [← slice?_extract positive]
      dsimp only at read
      split at read
      · rename_i bytes sliced
        cases read
        exact sliced
      · cases read
    | _ => cases read
  · rintro ⟨segment, whole, ⟨there, region⟩, sliced⟩
    -- Something is read, so the address is not at the end of the region.
    have inside : (segment.target address.offset.toNat).2 < whole.size := by
      rw [slice?, Option.ite_none_right_eq_some] at sliced
      omega
    refine ⟨_, dereference_eq_ok.mpr ⟨segment, there, Segment.view?_of_region region inside⟩, ?_⟩
    dsimp only
    rw [slice?_extract positive, sliced]
    rfl

/-- Bytes are written into the region that the address leads into, if all of them fit there. -/
theorem writeBytes_eq_ok : heap.writeBytes address data = .ok after ↔
    ∃ segment whole, heap.LeadsInto address segment whole ∧
      (segment.target address.offset.toNat).2 + data.size ≤ whole.size ∧
      after = heap.put address.segment (some (segment.withRegion
        (segment.target address.offset.toNat).1
          (overwrite whole (segment.target address.offset.toNat).2 data.toList))) := by
  -- Both sides ask for the segment, for its region, and for room in it.
  simp only [writeBytes_iff_put, Option.bind_eq_some_iff, Segment.writeBytes?_eq, splice?,
    Option.map_eq_some_iff, Option.ite_none_right_eq_some, Option.some.injEq]
  constructor
  · rintro ⟨segment, _, there, ⟨whole, region, _, ⟨fits, rfl⟩, rfl⟩, rfl⟩
    exact ⟨segment, whole, ⟨there, region⟩, fits, rfl⟩
  · rintro ⟨segment, whole, ⟨there, region⟩, fits, rfl⟩
    exact ⟨segment, _, there, ⟨whole, region, _, ⟨fits, rfl⟩, rfl⟩, rfl⟩

/-- An address leads into the same region after other bytes were put into the region. -/
theorem LeadsInto.put (leads : heap.LeadsInto address segment whole) (data : Bytes) :
    (heap.put address.segment (some (segment.withRegion
      (segment.target address.offset.toNat).1 data))).LeadsInto address
        (segment.withRegion (segment.target address.offset.toNat).1 data) data := by
  -- Where an address leads to does not depend on the bytes of the region.
  refine ⟨by rw [get?_put leads.found, if_pos rfl], ?_⟩
  rw [Segment.target_withRegion, Segment.region?_withRegion leads.region, if_pos rfl]

/-- After bytes were written, the address leads into a region that holds them where it leads to. -/
theorem carries_written (done : heap.writeBytes address data = .ok after) :
    ∃ segment whole, after.LeadsInto address segment whole ∧
      Carries whole (segment.target address.offset.toNat).2 data := by
  -- The region was overwritten where the address leads to.
  obtain ⟨segment, whole, leads, fits, rfl⟩ := writeBytes_eq_ok.mp done
  refine ⟨_, _, leads.put _, ?_⟩
  rw [Segment.target_withRegion]
  exact carries_overwrite fits

/-- Writing bytes changes no more than those bytes. -/
theorem differsOnlyAt_writeBytes (done : heap.writeBytes address data = .ok after) :
    heap.DiffersOnlyAt (heap.bytesFrom address data.size) after := by
  obtain ⟨segment, whole, leads, fits, rfl⟩ := writeBytes_eq_ok.mp done
  apply differsOnlyAt_withRegion leads.found leads.region (size_overwrite _ _ _)
  intro index differs
  -- A byte that differs is one of those that were written.
  have written : (segment.target address.offset.toNat).2 ≤ index ∧
      index < (segment.target address.offset.toNat).2 + data.size := by
    by_contra outside
    refine differs (getElem?_overwrite_outside _ _ _ ?_)
    rw [Array.length_toList]
    omega
  refine ⟨segment, index - (segment.target address.offset.toNat).2, leads.found, by omega, ?_⟩
  rw [Nat.add_sub_cancel' written.1]

/-- What was written is read where it was written. -/
theorem readBytes_written (some_ : 0 < data.size)
    (done : heap.writeBytes address data = .ok after) :
    after.readBytes address data.size = .ok data := by
  -- The region carries the bytes there, so a slice of this length gives them.
  obtain ⟨segment, whole, leads, carries⟩ := carries_written done
  refine (readBytes_eq_ok some_).mpr ⟨segment, whole, leads, ?_⟩
  rw [slice?, if_pos carries.bound, carries.extract]

/-- A text that was written is read where it was written. -/
theorem readString_written {text : Bytes} (clean : 0 ∉ text)
    (done : heap.writeString address text = .ok after) : after.readString address = .ok text := by
  obtain ⟨segment, whole, leads, carries⟩ := carries_written done
  have bound := carries.bound
  rw [Array.size_push] at bound
  have shown := Segment.view?_of_region leads.region (by omega)
  -- What is left of the region starts with the text and a zero.
  rw [carries.rest] at shown
  rw [readString, textRegion, dereference_eq_ok.mpr ⟨segment, leads.found, shown⟩]
  exact congrArg Except.ok (beforeZero_append clean)

/-- A value that was stored as a word is read as a number. -/
theorem readValue_writtenWord {word : UInt16}
    (done : heap.writeBytes address (wordBytes word) = .ok after) :
    after.readValue address = .ok (.number word) := by
  obtain ⟨segment, whole, leads, fits, rfl⟩ := writeBytes_eq_ok.mp done
  have led := leads.put (overwrite whole (segment.target address.offset.toNat).2
    (wordBytes word).toList)
  -- The word fits behind the target, so reading finds both of its bytes.
  have inside : (segment.target address.offset.toNat).2 + 2 ≤ whole.size := fits
  have shown := Segment.view?_of_region led.region
    (by rw [Segment.target_withRegion, size_overwrite]; omega)
  rw [readValue, dereference_eq_ok.mpr ⟨_, led.found, shown⟩]
  simp only [Segment.target_withRegion, Bind.bind, Except.bind]
  rw [word?_extract, word?_overwrite inside]
  rfl

/-- What is in a slot is read at the address of the slot. -/
theorem readValue_slot {slots : Array Address} (there : heap.get? address.segment = some segment)
    (table : segment.slots? = some slots) (even : address.offset.toNat % 2 = 0)
    (held : slots[address.offset.toNat / 2]? = some value) :
    heap.readValue address = .ok value := by
  -- The address shows what is left of the table from the slot on.
  obtain ⟨inside, _⟩ := Array.getElem?_eq_some_iff.mp held
  have shown := Segment.view?_of_slots table even inside
  have first : (slots.extract (address.offset.toNat / 2) slots.size)[0]? = some value := by
    rw [Array.getElem?_extract, Nat.min_self, if_pos (by omega), Nat.add_zero, held]
  rw [readValue, dereference_eq_ok.mpr ⟨_, there, shown⟩]
  simp only [Bind.bind, Except.bind, first]
  rfl

/-- A value is stored into a slot of a table of variables or of a stack. -/
theorem writeValue_slot (slotted : heap.storesWords address = false) :
    heap.writeValue address value = .ok after ↔
      ∃ segment slots, heap.get? address.segment = some segment ∧ segment.slots? = some slots ∧
        address.offset.toNat % 2 = 0 ∧ address.offset.toNat / 2 < slots.size ∧
        after = heap.put address.segment (some (segment.withSlots
          (slots.setIfInBounds (address.offset.toNat / 2) value))) := by
  -- Both sides ask for the segment, for its table, and for a slot at the offset.
  simp only [writeSlot_iff_put slotted, Segment.writeSlot?_eq_some]
  constructor
  · rintro ⟨segment, _, there, ⟨slots, table, even, inside, rfl⟩, rfl⟩
    exact ⟨segment, slots, there, table, even, inside, rfl⟩
  · rintro ⟨segment, slots, there, table, even, inside, rfl⟩
    exact ⟨segment, _, there, ⟨slots, table, even, inside, rfl⟩, rfl⟩

/-- A value that was stored into a slot is read there. -/
theorem readValue_writtenSlot (slotted : heap.storesWords address = false)
    (done : heap.writeValue address value = .ok after) :
    after.readValue address = .ok value := by
  obtain ⟨segment, slots, there, table, even, inside, rfl⟩ := (writeValue_slot slotted).mp done
  -- A table stays a table of the same kind when one of its slots is replaced.
  have stored : (segment.withSlots (slots.setIfInBounds (address.offset.toNat / 2) value)).slots? =
      some (slots.setIfInBounds (address.offset.toNat / 2) value) := Segment.slots?_withSlots table
  have led : (heap.put address.segment (some (segment.withSlots (slots.setIfInBounds
      (address.offset.toNat / 2) value)))).get? address.segment = some (segment.withSlots
        (slots.setIfInBounds (address.offset.toNat / 2) value)) := by
    rw [get?_put there, if_pos rfl]
  exact readValue_slot led stored even (Array.getElem?_setIfInBounds_self_of_lt inside)

/-- Storing a value changes no more than what the value takes up. -/
theorem differsOnlyAt_writeValue (done : heap.writeValue address value = .ok after) :
    heap.DiffersOnlyAt (heap.valueAt address) after := by
  unfold valueAt
  -- A word takes up two bytes, any other value its slot.
  cases words : heap.storesWords address with
  | true =>
    rw [writeValue_words words] at done
    exact differsOnlyAt_writeBytes done
  | false =>
    obtain ⟨segment, slots, there, table, _, _, rfl⟩ := (writeValue_slot words).mp done
    exact differsOnlyAt_withSlots there table _ value

/-- What is read where a value was stored, by the kind of the segment. -/
theorem readValue_written (done : heap.writeValue address value = .ok after) :
    (heap.kind? address.segment ∈ [some .locals, some .stack] ∧
        after.readValue address = .ok value) ∨
      heap.kind? address.segment ∈ [some .script, some .dynmem] ∧
        after.readValue address = .ok (.number value.offset) := by
  -- Words have no room for a segment, and slots keep the value whole.
  cases words : heap.storesWords address with
  | true =>
    refine .inr ⟨?_, ?_⟩
    · rw [storesWords] at words
      split at words
      · rename_i kind
        simp [kind]
      · rename_i kind
        simp [kind]
      · cases words
    · rw [writeValue_words words] at done
      exact readValue_writtenWord done
  | false =>
    refine .inl ⟨?_, readValue_writtenSlot words done⟩
    obtain ⟨segment, slots, there, table, _⟩ := (writeValue_slot words).mp done
    rcases Segment.kind_of_slots table with kind | kind <;> simp [kind?, there, kind]

end Heap

namespace StoreM

/-- Memory is changed where the change succeeds, and left alone where it fails. -/
theorem run_attempt (step : Heap → Except Fault Heap) (store : Store) :
    (attempt step).run store = match step store.heap with
      | .ok heap => (.ok (), store.mapHeap fun _ => heap)
      | .error fault => (.error fault, store) := by
  -- What is told of the outcome is that it is the outcome.
  have ends := (leads_attempt step store fun outcome after =>
    (attempt step).run store = (outcome, after)).mp rfl
  cases done : step store.heap with
  | ok heap =>
    rw [done] at ends
    exact ends
  | error fault =>
    rw [done] at ends
    exact ends

end StoreM

namespace Store

/--
Bytes can be written where as many can be read, they are then read there, and no other byte, no
value, no size of a region and no record or segment changes. Where they cannot, nothing changes.
-/
structure AgreesOnBytes (store : Store) (address : Address) (data : Bytes) : Prop where
  /-- Bytes can be written exactly where as many can be read. -/
  succeeds : (∃ after, (StoreM.attempt (·.writeBytes address data)).run store = (.ok (), after)) ↔
    ∃ found, store.heap.readBytes address data.size = .ok found
  /-- What was written is read, and all else is what it was. -/
  written : ∀ after, (StoreM.attempt (·.writeBytes address data)).run store = (.ok (), after) →
    after.heap.readBytes address data.size = .ok data ∧
      store.heap.DiffersOnlyAt (store.heap.bytesFrom address data.size) after.heap
  /-- Nothing changes where bytes cannot be written. -/
  refused : ∀ fault after,
    (StoreM.attempt (·.writeBytes address data)).run store = (.error fault, after) → after = store

/--
A value that can be stored is read where it was stored, as a number where there are bytes, and
nothing else changes. Where it cannot be stored, nothing changes.
-/
structure AgreesOnValue (store : Store) (address value : Address) : Prop where
  /-- What was stored is read, by the kind of the segment, and all else is what it was. -/
  written : ∀ after, (Store.writeValue address value).run store = (.ok (), after) →
    ((store.heap.kind? address.segment ∈ [some .locals, some .stack] ∧
        after.heap.readValue address = .ok value) ∨
      store.heap.kind? address.segment ∈ [some .script, some .dynmem] ∧
        after.heap.readValue address = .ok (.number value.offset)) ∧
    store.heap.DiffersOnlyAt (store.heap.valueAt address) after.heap
  /-- Memory does not change where the value cannot be stored. -/
  refused : ∀ fault after,
    (Store.writeValue address value).run store = (.error fault, after) → after.heap = store.heap

variable {store after : Store} {address value : Address}

/-- An attempt that succeeds leads to the memory that the step gives. -/
theorem of_attempted {step : Heap → Except Fault Heap}
    (ended : (StoreM.attempt step).run store = (.ok (), after)) :
    step store.heap = .ok after.heap := by
  -- A step that fails would have been a failed attempt.
  rw [StoreM.run_attempt] at ended
  split at ended
  · rename_i heap done
    cases ended
    exact done
  · cases ended

/-- An attempt that fails changes nothing. -/
theorem of_refused {step : Heap → Except Fault Heap} {fault : Fault}
    (ended : (StoreM.attempt step).run store = (.error fault, after)) : after = store := by
  -- Only a step that fails makes an attempt fail.
  rw [StoreM.run_attempt] at ended
  split at ended
  · cases ended
  · cases ended
    rfl

/-- Storing a value attempts to, after a warning where there is one to give. -/
theorem run_writeValue (store : Store) (address value : Address) :
    (writeValue address value).run store = (StoreM.attempt (·.writeValue address value)).run
      (store.record (store.heap.writeRecords address value)) := rfl

/-- Reading and writing bytes agree. -/
theorem agreesOnBytes (store : Store) (address : Address) {data : Bytes} (some_ : data ≠ #[]) :
    store.AgreesOnBytes address data := by
  have positive : 0 < data.size := Array.size_pos_iff.mpr some_
  refine ⟨⟨?_, ?_⟩, ?_, fun _ _ => of_refused⟩
  · -- Both ask whether the bytes fit into the same region.
    rintro ⟨after, ended⟩
    obtain ⟨segment, whole, leads, fits, _⟩ := Heap.writeBytes_eq_ok.mp (of_attempted ended)
    exact ⟨_, (Heap.readBytes_eq_ok positive).mpr ⟨segment, whole, leads, if_pos fits⟩⟩
  · rintro ⟨found, read⟩
    obtain ⟨segment, whole, leads, sliced⟩ := (Heap.readBytes_eq_ok positive).mp read
    rw [slice?, Option.ite_none_right_eq_some] at sliced
    have done := Heap.writeBytes_eq_ok.mpr ⟨segment, whole, leads, sliced.1, rfl⟩
    exact ⟨_, by rw [StoreM.run_attempt, done]⟩
  · intro after ended
    exact ⟨Heap.readBytes_written positive (of_attempted ended),
      Heap.differsOnlyAt_writeBytes (of_attempted ended)⟩

/-- Reading and storing a value agree. -/
theorem agreesOnValue (store : Store) (address value : Address) :
    store.AgreesOnValue address value := by
  -- Storing succeeds where the change to memory does, and else changes nothing.
  refine ⟨?_, ?_⟩
  · intro after ended
    rw [run_writeValue] at ended
    exact ⟨Heap.readValue_written (of_attempted ended),
      Heap.differsOnlyAt_writeValue (of_attempted ended)⟩
  · intro fault after ended
    rw [run_writeValue] at ended
    rw [of_refused ended]
    rfl

/--
Reading and writing agree and do not interfere.

Bytes, texts and values are read as they were written, a value as a number where there are bytes.
What is written can be read, and nothing but what is written changes.
-/
theorem reading_agrees_with_writing (store : Store) (address : Address) :
    (∀ data, data ≠ #[] → store.AgreesOnBytes address data) ∧
    (∀ (text : Bytes) (after : Store), 0 ∉ text →
      (StoreM.attempt (·.writeString address text)).run store = (.ok (), after) →
        after.heap.readString address = .ok text) ∧
    ∀ value, store.AgreesOnValue address value :=
  -- Bytes, texts and values, each by its own lemma.
  ⟨fun _ some_ => store.agreesOnBytes address some_,
    fun _ _ clean ended => Heap.readString_written clean (of_attempted ended),
    store.agreesOnValue address⟩

/-- A memory with a block of four bytes. -/
def fourBytes : Store :=
  { heap := { version := .sci0, segments := #[none, some (.dynmem (.zeros 4 "buffer"))] } }

/-- Two bytes, or a text of one byte, just fit at the end of the block. -/
theorem reading_agrees_with_writing_end :
    fourBytes.AgreesOnBytes ⟨1, 2⟩ #[7, 8] ∧
    (∃ after, (StoreM.attempt (·.writeBytes ⟨1, 2⟩ #[7, 8])).run fourBytes = (.ok (), after)) ∧
    (∃ after, (StoreM.attempt (·.writeString ⟨1, 2⟩ #[65])).run fourBytes = (.ok (), after) ∧
      after.heap.readString ⟨1, 2⟩ = .ok #[65]) ∧
    fourBytes.AgreesOnValue ⟨1, 2⟩ (.number 9) := by
  -- The writes are computed; what they come to is told by the general theorem.
  have agrees := reading_agrees_with_writing fourBytes ⟨1, 2⟩
  exact ⟨agrees.1 #[7, 8] (by decide), ⟨_, rfl⟩, ⟨_, rfl, agrees.2.1 #[65] _ (by simp) rfl⟩,
    agrees.2.2 (.number 9)⟩

end Store

end AdventureVm
