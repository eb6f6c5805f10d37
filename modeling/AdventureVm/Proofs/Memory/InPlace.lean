import AdventureVm.Proofs.Memory.Locking

/-! Making, changing and freeing records, and writing into segments, keeps memory sound. -/

namespace AdventureVm

namespace RecordKind

/-- The segments of a kind of record are exactly the pools of that kind. -/
structure Lawful {α : Type} (records : RecordKind α) : Prop where
  /-- The kind is one of the kinds of pool. -/
  isPool : records.kind.isPool = true
  /-- A pool is found in the segment that holds it. -/
  pool?_segment : ∀ pool, records.pool? (records.segment pool) = some pool
  /-- Only the segment that holds a pool has it. -/
  segment_of_pool? : ∀ {segment pool}, records.pool? segment = some pool →
    segment = records.segment pool
  /-- The tables know such a segment by its kind alone. -/
  bearing : ∀ pool, (records.segment pool).bearing = (records.kind, 0, 0, 0)
  /-- The segment is bounded when its pool is. -/
  bounded : ∀ pool, (records.segment pool).IsBounded ↔ pool.slots.size ≤ Pool.maxSlots
  /-- Freeing a slot of the segment frees it in the pool. -/
  release : ∀ pool index, (records.segment pool).release index =
    records.segment (pool.release index)

/-- Clones are kept in pools of clones. -/
theorem clones_lawful : clones.Lawful :=
  ⟨rfl, fun _ => rfl, by intro segment pool found; cases segment <;> cases found; rfl,
    fun _ => rfl, fun _ => Iff.rfl, fun _ _ => rfl⟩

/-- Lists are kept in pools of lists. -/
theorem lists_lawful : lists.Lawful :=
  ⟨rfl, fun _ => rfl, by intro segment pool found; cases segment <;> cases found; rfl,
    fun _ => rfl, fun _ => Iff.rfl, fun _ _ => rfl⟩

/-- Nodes are kept in pools of nodes. -/
theorem nodes_lawful : nodes.Lawful :=
  ⟨rfl, fun _ => rfl, by intro segment pool found; cases segment <;> cases found; rfl,
    fun _ => rfl, fun _ => Iff.rfl, fun _ _ => rfl⟩

/-- Hunks are kept in pools of hunks. -/
theorem hunks_lawful : hunks.Lawful :=
  ⟨rfl, fun _ => rfl, by intro segment pool found; cases segment <;> cases found; rfl,
    fun _ => rfl, fun _ => Iff.rfl, fun _ _ => rfl⟩

/-- A pool may be changed in place as long as it does not outgrow its offsets. -/
theorem Lawful.akin {α : Type} {records : RecordKind α} (lawful : records.Lawful)
    {change : Pool α → Pool α} {segment : Segment}
    (small : ∀ pool, records.pool? segment = some pool → pool.slots.size ≤ Pool.maxSlots →
      (change pool).slots.size ≤ Pool.maxSlots) :
    segment.Akin (records.modify change segment) := by
  -- A segment that holds no such pool is left as it is.
  unfold RecordKind.modify
  split
  · rename_i pool found
    have same := lawful.segment_of_pool? found
    subst same
    refine ⟨by rw [lawful.bearing, lawful.bearing], ?_⟩
    rw [lawful.bounded, lawful.bounded]
    exact small pool found
  · exact .refl segment

end RecordKind

namespace Pool

variable {α : Type}

/-- Changing a record does not change the number of slots. -/
@[simp] theorem size_modify (pool : Pool α) (index : Nat) (change : α → α) :
    (pool.modify index change).slots.size = pool.slots.size := by
  simp [modify]

/-- Freeing a record does not change the number of slots. -/
@[simp] theorem size_release (pool : Pool α) (index : Nat) :
    (pool.release index).slots.size = pool.slots.size := by
  simp [release]

/-- A pool in which there is a next slot does not outgrow its offsets by one more record. -/
theorem size_occupy {pool : Pool α} {index : Nat} (next : pool.next? = some index)
    (bounded : pool.slots.size ≤ maxSlots) (value : α) :
    (pool.occupy value).slots.size ≤ maxSlots := by
  -- The row grows only when no slot is vacant, and only below the limit.
  unfold next? at next
  unfold occupy
  cases vacant : pool.vacant with
  | cons first rest => simpa using bounded
  | nil =>
    simp only [vacant] at next
    split at next
    · simp
      omega
    · simp at next

end Pool

namespace Segment

/-- Freeing a slot of a pool leaves a pool of the same kind. -/
theorem akin_release (segment : Segment) (index : Nat) : segment.Akin (segment.release index) := by
  -- The number of slots stays the same.
  cases segment <;> exact ⟨rfl, by simp [release, IsBounded]⟩

/-- Writing bytes leaves a segment known by the same. -/
theorem akin_writeBytes? {segment written : Segment} {offset : Nat} {data : Bytes}
    (done : segment.writeBytes? offset data = some written) : segment.Akin written := by
  -- Bytes are no part of what the tables know.
  cases segment <;> simp only [writeBytes?, Option.map_eq_some_iff, Option.bind_eq_bind,
    Option.bind_eq_some_iff, reduceCtorEq, Option.pure_def, Option.some.injEq] at done
  case script contents =>
    obtain ⟨data, _, rfl⟩ := done
    exact ⟨rfl, fun bounded => bounded⟩
  case hunks pool =>
    obtain ⟨found, _, block, _, rfl⟩ := done
    exact ⟨rfl, by simp [IsBounded]⟩
  case dynmem block =>
    obtain ⟨other, _, rfl⟩ := done
    exact ⟨rfl, fun bounded => bounded⟩
  case systemStrings texts =>
    obtain ⟨found, _, data, _, rfl⟩ := done
    exact ⟨rfl, fun bounded => bounded⟩

/-- Storing a value leaves a segment known by the same. -/
theorem akin_writeSlot? {segment written : Segment} {offset : Nat} {value : Address}
    (done : segment.writeSlot? offset value = some written) : segment.Akin written := by
  -- Values are no part of what the tables know.
  cases segment <;> simp only [writeSlot?, Option.ite_none_right_eq_some, reduceCtorEq,
    Option.some.injEq] at done
  case locals table =>
    obtain ⟨_, rfl⟩ := done
    exact ⟨rfl, fun bounded => bounded⟩
  case stack slots =>
    obtain ⟨_, rfl⟩ := done
    exact ⟨rfl, fun bounded => bounded⟩

end Segment

namespace Heap

variable {heap after : Heap} {address value : Address}

/-- A script that is found is in its place. -/
theorem get?_of_toOption {id : SegmentId} {script : Script}
    (found : (heap.script id).toOption = some script) : heap.get? id = some (.script script) := by
  -- A failure would not have been found.
  cases there : heap.script id with
  | error fault => simp [there, Except.toOption] at found
  | ok other =>
    simp only [there, Except.toOption, Option.some.injEq] at found
    exact found ▸ script_eq_ok.mp there

/-- Writing bytes puts the segment that took them in the place of the one that was there. -/
theorem writeBytes_iff_put {data : Bytes} : heap.writeBytes address data = .ok after ↔
    ∃ segment written, heap.get? address.segment = some segment ∧
      segment.writeBytes? address.offset.toNat data = some written ∧
      heap.put address.segment (some written) = after := by
  -- By whether there is a segment and whether it takes the bytes.
  rw [Heap.writeBytes]
  cases found : heap.get? address.segment with
  | none => simp
  | some segment => cases changed : segment.writeBytes? address.offset.toNat data <;> simp [changed]

/-- Where no words are kept, storing a value puts the segment that took it in its place. -/
theorem writeSlot_iff_put (slotted : heap.storesWords address = false) :
    heap.writeValue address value = .ok after ↔
      ∃ segment written, heap.get? address.segment = some segment ∧
        segment.writeSlot? address.offset.toNat value = some written ∧
        heap.put address.segment (some written) = after := by
  -- By whether there is a segment and whether it takes the value.
  rw [Heap.writeValue, slotted, if_neg Bool.false_ne_true]
  cases found : heap.get? address.segment with
  | none => simp
  | some segment => cases changed : segment.writeSlot? address.offset.toNat value <;> simp [changed]

/-- Where words are kept, storing a value writes the two bytes of its offset. -/
theorem writeValue_words (words : heap.storesWords address = true) :
    heap.writeValue address value = heap.writeBytes address (wordBytes value.offset) := by
  rw [Heap.writeValue, words, if_pos rfl]

/-- A property is replaced only in an object that has such a property. -/
theorem modifyObject_of_writeProperty {index : Nat}
    (done : heap.writeProperty address index value = .ok after) :
    after = heap.modifyObject address (·.setProperty index value) := by
  -- Without such a property the write would have failed.
  obtain ⟨object, _, changed⟩ := bind_eq_ok.mp done
  split at changed
  · cases changed
    rfl
  · cases changed

/-- Writing bytes keeps memory sound. -/
theorem Sound.writeBytes (sound : heap.Sound) {data : Bytes}
    (done : heap.writeBytes address data = .ok after) : after.Sound := by
  -- The segment that was written to takes its own place again.
  obtain ⟨segment, written, present, changed, rfl⟩ := writeBytes_iff_put.mp done
  exact sound.put present (Segment.akin_writeBytes? changed)

/-- Storing a value keeps memory sound. -/
theorem Sound.writeValue (sound : heap.Sound)
    (done : heap.writeValue address value = .ok after) : after.Sound := by
  -- A value is stored as bytes or into a slot.
  cases words : heap.storesWords address with
  | true => exact sound.writeBytes (writeValue_words words ▸ done)
  | false =>
    obtain ⟨segment, written, present, changed, rfl⟩ := (writeSlot_iff_put words).mp done
    exact sound.put present (Segment.akin_writeSlot? changed)

/-- Changing an object keeps memory sound. -/
theorem Sound.modifyObject (sound : heap.Sound) (change : Object → Object) :
    (heap.modifyObject address change).Sound := by
  -- Objects are no part of what the tables know.
  apply sound.modify
  intro segment _
  cases segment with
  | script contents =>
    refine ⟨?_, fun bounded => bounded⟩
    simp only [Script.modifyObject]
    split <;> rfl
  | clones pool => exact ⟨rfl, by simp [Segment.IsBounded]⟩
  | _ => exact .refl _

/-- Replacing a property keeps memory sound. -/
theorem Sound.writeProperty (sound : heap.Sound) {index : Nat}
    (done : heap.writeProperty address index value = .ok after) : after.Sound := by
  -- A write that succeeded changed an object in place.
  rw [modifyObject_of_writeProperty done]
  exact sound.modifyObject _

end Heap

namespace Store

/-- Looking for the current pool, or making it, keeps memory sound. -/
theorem currentPool_keeps (kind : SegmentKind) : (currentPool kind).Keeps Heap.Sound := by
  intro store sound
  simp only [currentPool, leads_bind, StoreM.leads_read, either_ok]
  split
  · exact sound
  · -- A new pool starts empty.
    simp only [leads_bind, leads_pure]
    apply (insert_keeps (Segment.isLoose_empty kind)).either sound
    · intro id after kept
      exact kept.of_same rfl rfl
    · intro fault after kept
      exact kept

/-- Making a record keeps memory sound. -/
theorem create_keeps {α : Type} {records : RecordKind α} (lawful : records.Lawful)
    (make : Address → α) : (create records make).Keeps Heap.Sound := by
  intro store sound
  simp only [create, leads_bind]
  apply (currentPool_keeps records.kind).either sound
  · intro id after kept
    simp only [StoreM.leads_read, either_ok]
    split
    · exact kept
    · exact kept
    · -- The pool has a next slot, so one more record does not make it outgrow its offsets.
      rename_i index slot
      simp only [leads_bind, StoreM.leads_change, either_ok, leads_pure]
      apply kept.modify
      intro segment found
      apply lawful.akin
      intro pool inside bounded
      rw [found, Option.bind_some, inside, Option.map_some, Option.some.injEq] at slot
      exact Pool.size_occupy slot bounded _
  · intro fault after kept
    exact kept

/-- Making a clone keeps memory sound. -/
theorem createClone_keeps (origin : Address) : (createClone origin).Keeps Heap.Sound := by
  -- Without an origin nothing is made; otherwise the clone goes into its pool.
  intro store sound
  simp only [createClone, leads_bind, StoreM.leads_require]
  cases store.heap.object origin with
  | error fault => exact sound
  | ok object => exact create_keeps RecordKind.clones_lawful _ store sound

/-- Making a block of dynamic memory keeps memory sound. -/
theorem createDynmem_keeps (size : Nat) (description : String) :
    (createDynmem size description).Keeps Heap.Sound := by
  intro store sound
  unfold createDynmem
  split
  · exact sound
  · -- A block is no script and no pool.
    simp only [leads_bind]
    have loose : (Segment.dynmem (.zeros size description)).IsLoose := ⟨trivial, by simp⟩
    apply (insert_keeps loose).either sound
    · intro id after kept
      exact kept
    · intro fault after kept
      exact kept

/-- Freeing a record keeps memory sound. -/
theorem freeRecord_keeps (kind : SegmentKind) (address : Address) :
    (freeRecord kind address).Keeps Heap.Sound := by
  -- Freeing a slot does not change what the segment claims.
  intro store sound
  simp only [freeRecord, leads_bind, StoreM.leads_read, either_ok]
  split
  · exact sound.modify fun segment _ => segment.akin_release _
  · exact sound

/-- Taking out a segment that is no table of variables keeps memory sound. -/
theorem free_keeps {id : SegmentId} {store : Store} (sound : store.heap.Sound)
    (foreign : store.heap.kind? id ≠ some .locals) :
    Leads (free id) store fun _ after => after.heap.Sound := by
  -- A script takes its variables with it, and nobody claims a segment of another kind.
  show (store.deallocate id).2.heap.Sound
  cases found : store.heap.get? id with
  | none =>
    rw [deallocate_none found]
    exact sound
  | some segment =>
    by_cases script : ∃ contents, segment = .script contents
    · obtain ⟨contents, rfl⟩ := script
      obtain ⟨after, ended, departed⟩ := deallocate_script sound found
      rw [ended]
      exact departed.sound
    · have other : segment.kind ≠ .script := by
        intro same
        cases segment with
        | script contents => exact script ⟨contents, rfl⟩
        | _ => simp [Segment.kind] at same
      obtain ⟨after, ended, left⟩ := deallocate_other found other
      rw [ended, left]
      have foreignToo : segment.kind ≠ .locals := by simpa [Heap.kind?, found] using foreign
      exact (sound.vacate_other found other foreignToo).of_same rfl rfl

/-- Freeing a block of dynamic memory keeps memory sound. -/
theorem freeDynmem_keeps (address : Address) : (freeDynmem address).Keeps Heap.Sound := by
  -- A block is a segment of its own, which nothing else is tied to.
  intro store sound
  simp only [freeDynmem, leads_bind, StoreM.leads_read, either_ok]
  split
  · rename_i block
    exact free_keeps sound (by simp [block.1])
  · exact sound

/-- Freeing what is at an address takes out a script, frees a record, or changes nothing. -/
theorem leads_freeAt {address : Address} {store : Store} {goal : Except Fault Unit → Store → Prop}
    (script : store.heap.kind? address.segment = some .script →
      Leads (free address.segment) store goal)
    (record : ∀ kind, Leads (freeRecord kind address) store goal)
    (refused : ∀ fault, goal (.error fault) store) : Leads (freeAt address) store goal := by
  -- By the kind of the segment: a script, a pool, or something that is not freed in this way.
  simp only [freeAt, leads_bind, StoreM.leads_read, either_ok]
  split
  · rename_i kind
    exact script kind
  · split
    · exact record _
    · exact refused _
  · exact refused _

/-- Freeing a record or a script keeps memory sound. -/
theorem freeAt_keeps (address : Address) : (freeAt address).Keeps Heap.Sound := by
  -- Freeing a script is freeing its segment.
  intro store sound
  refine leads_freeAt ?_ (fun _ => freeRecord_keeps _ address store sound) fun _ => sound
  intro kind
  exact free_keeps sound (by simp [kind])

/-- Storing a value, with a record of it, keeps memory sound. -/
theorem writeValue_keeps (address value : Address) :
    (writeValue address value).Keeps Heap.Sound := by
  -- The record goes to the journal; only the attempt concerns memory.
  intro store sound
  simp only [writeValue, leads_bind, StoreM.leads_read, StoreM.leads_record, either_ok,
    StoreM.leads_attempt]
  split
  · rename_i heap done
    exact sound.writeValue done
  · exact sound

/-- Reading one more object record of a script keeps memory sound. -/
theorem instantiateObject_keeps (id : SegmentId) (offset : UInt16) :
    (instantiateObject id offset).Keeps Heap.Sound := by
  intro store sound
  simp only [instantiateObject, leads_bind, StoreM.leads_require, StoreM.leads_read]
  cases found : store.heap.script id with
  | error fault => exact sound
  | ok script =>
    simp only [either_ok]
    cases read : script.instantiateObject store.heap.version offset with
    | error fault => exact sound
    | ok result =>
      -- Only the objects of the script change, and perhaps the known classes.
      obtain ⟨index, extended⟩ := result
      have present := Heap.script_eq_ok.mp found
      obtain ⟨objects, rfl⟩ := Script.instantiateObject_objects read
      have kept : (store.heap.put id (some (.script { script with objects }))).Sound :=
        sound.put present ⟨rfl, fun bounded => bounded⟩
      simp only [either_ok, StoreM.leads_change]
      split
      · split
        · exact kept.of_same rfl rfl
        · exact kept
      · exact kept

/-- Loading a script keeps memory sound. -/
theorem loadScript_keeps (resources : Resources) (number : UInt16) :
    (loadScript resources number).Keeps Heap.Sound := by
  intro store sound
  apply (leads_loadScript resources number store sound).either
  · intro id after either
    -- The script is in memory already, or it has been brought there.
    rcases either with ⟨_, rfl⟩ | brought
    · exact sound
    · exact brought.sound
  · intro fault after failed
    exact failed.1

/-- Locking a script keeps memory sound. -/
theorem instantiateScript_keeps (resources : Resources) (number : UInt16) :
    (instantiateScript resources number).Keeps Heap.Sound := by
  -- Locking extends memory, and an extension is sound.
  intro store sound
  apply (instantiateWithin_extends resources (segmentLimit + 1) number store sound).mono
  intro _ after extended
  exact extended.sound

end Store

end AdventureVm
