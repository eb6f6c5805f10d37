import AdventureVm.Collector.Reachable
import AdventureVm.Proofs.Memory.InPlace

/-! The records of the pools, and what the collector lists. -/

namespace AdventureVm

/-- A record of a pool, of whatever kind. -/
inductive Entry where
  | clone (object : Object)
  | list (ends : ListEnds)
  | node (node : Node)
  | hunk (block : Block)
deriving Repr, DecidableEq, Inhabited

/-- The kind of the pools that such a record is in. -/
def Entry.kind : Entry → SegmentKind
  | clone _ => .clones
  | list _ => .lists
  | node _ => .nodes
  | hunk _ => .hunks

/-- The record in a slot of a segment; only pools have any. -/
def Segment.recordAt? (segment : Segment) (index : Nat) : Option Entry :=
  match segment with
  | clones pool => (pool.get? index).map .clone
  | lists pool => (pool.get? index).map .list
  | nodes pool => (pool.get? index).map .node
  | hunks pool => (pool.get? index).map .hunk
  | _ => none

/-- The record at an address. -/
def Heap.recordAt? (heap : Heap) (address : Address) : Option Entry :=
  (heap.get? address.segment).bind (·.recordAt? address.offset.toNat)

namespace Pool

variable {α : Type} {pool : Pool α} {id : SegmentId}

/-- A freed slot is empty, and the others hold what they held. -/
theorem get?_release (pool : Pool α) (index other : Nat) :
    (pool.release index).get? other = if other = index then none else pool.get? other := by
  -- The slot may not even exist, and then it held nothing before.
  simp only [get?, release, Array.getElem?_setIfInBounds]
  by_cases same : index = other
  · subst same
    simp
    split <;> rfl
  · simp [same, Ne.symm same]

/-- A record that is changed is changed, and the others are as they were. -/
theorem get?_modify (pool : Pool α) (index other : Nat) (change : α → α) :
    (pool.modify index change).get? other =
      if other = index then (pool.get? other).map change else pool.get? other := by
  simp only [get?, modify, Array.getElem?_modify]
  -- The array compares the other way round, so both orders of the equation occur.
  by_cases same : index = other
  · subst same
    rw [if_pos rfl, if_pos rfl]
    cases pool.slots[index]? with
    | none => rfl
    | some slot => rfl
  · rw [if_neg same, if_neg (Ne.symm same)]

/-- The addresses that are listed for a pool are those of its records. -/
theorem mem_addresses (bounded : pool.slots.size ≤ maxSlots) {address : Address} :
    address ∈ pool.liveIndices.map (fun index => Address.mk id (UInt16.ofNat index)) ↔
      address.segment = id ∧ pool.isLive address.offset.toNat = true := by
  -- Below the limit of a pool every index is the offset of one word.
  simp only [List.mem_map, liveIndices, List.mem_filter, List.mem_range]
  constructor
  · intro given
    obtain ⟨index, ⟨inside, live⟩, rfl⟩ := given
    have exact := toNat_ofNat_of_lt (Nat.lt_of_lt_of_le inside bounded)
    exact ⟨rfl, by rw [exact]; exact live⟩
  · intro given
    obtain ⟨rfl, live⟩ := given
    refine ⟨address.offset.toNat, ⟨?_, live⟩, by simp⟩
    -- Outside the row there is no record.
    by_contra outside
    simp [isLive, get?, Array.getElem?_eq_none (Nat.le_of_not_lt outside)] at live

/-- No record is listed twice. -/
theorem nodup_addresses (bounded : pool.slots.size ≤ maxSlots) :
    (pool.liveIndices.map (fun index => Address.mk id (UInt16.ofNat index))).Nodup := by
  -- Different slots below the limit have different offsets.
  apply List.Nodup.map_on
  · intro left leftIn right rightIn same
    simp only [liveIndices, List.mem_filter, List.mem_range] at leftIn rightIn
    have leftExact := toNat_ofNat_of_lt (Nat.lt_of_lt_of_le leftIn.1 bounded)
    have rightExact := toNat_ofNat_of_lt (Nat.lt_of_lt_of_le rightIn.1 bounded)
    rw [← leftExact, ← rightExact, (Address.mk.inj same).2]
  · exact List.nodup_range.filter _

end Pool

namespace Segment

variable {segment : Segment} {id : SegmentId} {address : Address}

/-- There is a record at an offset exactly when the segment is a pool and the offset is valid. -/
theorem isSome_recordAt? (offset : UInt16) :
    (segment.recordAt? offset.toNat).isSome =
      (segment.kind.isPool && segment.isValidOffset offset) := by
  -- In a pool an offset is valid when its slot is taken; nothing else has records.
  cases segment <;> simp [recordAt?, kind, SegmentKind.isPool, isValidOffset, Pool.isLive]

/-- A record is of the kind of its pool. -/
theorem kind_of_recordAt? {index : Nat} {entry : Entry}
    (found : segment.recordAt? index = some entry) :
    segment.kind = entry.kind := by
  -- Only pools have records, each of its own kind.
  cases segment <;> simp only [recordAt?, Option.map_eq_some_iff, reduceCtorEq] at found
  all_goals
    obtain ⟨contents, _, rfl⟩ := found
    rfl

/-- A freed slot is empty, and the others hold what they held. -/
theorem recordAt?_release (index other : Nat) :
    (segment.release index).recordAt? other =
      if other = index then none else segment.recordAt? other := by
  -- Only pools have slots; for each kind of record the slot is looked up.
  cases segment <;> simp only [release, recordAt?, Pool.get?_release, ite_self]
  all_goals split <;> rfl

/-- The whole of a segment is listed once, or each record of a pool. -/
theorem mem_entitiesIn (bounded : segment.IsBounded) :
    address ∈ Heap.entitiesIn id segment ↔ address.segment = id ∧
      if segment.kind.isPool then segment.isValidOffset address.offset = true
      else address.offset = 0 := by
  cases segment with
  | clones pool => exact Pool.mem_addresses bounded
  | lists pool => exact Pool.mem_addresses bounded
  | nodes pool => exact Pool.mem_addresses bounded
  | hunks pool => exact Pool.mem_addresses bounded
  -- What is no pool is one thing, named by its first byte.
  | _ =>
    obtain ⟨place, offset⟩ := address
    simp [Heap.entitiesIn, kind, SegmentKind.isPool]

/-- Nothing of a segment is listed twice. -/
theorem nodup_entitiesIn (bounded : segment.IsBounded) : (Heap.entitiesIn id segment).Nodup := by
  -- The slots of a pool have different offsets, and anything else is one thing.
  cases segment with
  | clones pool => exact Pool.nodup_addresses bounded
  | lists pool => exact Pool.nodup_addresses bounded
  | nodes pool => exact Pool.nodup_addresses bounded
  | hunks pool => exact Pool.nodup_addresses bounded
  | _ => exact List.nodup_singleton _

end Segment

namespace Heap

variable {heap : Heap} {address : Address}

/-- There is a record at an address exactly when its segment is a pool and the address is valid. -/
theorem isSome_recordAt? :
    (heap.recordAt? address).isSome = true ↔ ∃ segment, heap.get? address.segment = some segment ∧
      segment.kind.isPool = true ∧ segment.isValidOffset address.offset = true := by
  -- Without a segment there is neither a record nor a valid address.
  unfold recordAt?
  cases heap.get? address.segment with
  | none => simp
  | some segment => simp [Segment.isSome_recordAt?]

/-- A change to one slot of a segment changes what is at its address, and nothing else. -/
theorem recordAt?_modify (heap : Heap) (address other : Address) {change : Segment → Segment}
    (slot : Option Entry → Option Entry) (none_ : slot none = none)
    (changes : ∀ segment index, (change segment).recordAt? index =
      if index = address.offset.toNat then slot (segment.recordAt? index)
      else segment.recordAt? index) :
    (heap.modify address.segment change).recordAt? other =
      if other = address then slot (heap.recordAt? other) else heap.recordAt? other := by
  obtain ⟨id, offset⟩ := address
  obtain ⟨place, otherOffset⟩ := other
  simp only [recordAt?, get?_modify, Address.mk.injEq]
  -- Another segment is not touched at all; in this one the slot decides.
  by_cases here : place = id
  · subst here
    simp only [if_true, true_and]
    cases heap.get? place with
    | none => simp [none_]
    | some segment => simp [changes, UInt16.toNat_inj]
  · simp [here]

/-- A script that the collector may take away. -/
def IsSpent (heap : Heap) (id : SegmentId) : Prop :=
  ∃ script, heap.get? id = some (.script script) ∧ script.markedDeleted = true ∧
    script.lockers = 0

/-- A list over all segments has what it has for one of them. -/
theorem mem_flatMap_segmentIds (sound : heap.Sound) (listed : SegmentId → Segment → List Address)
    (own : ∀ {id segment}, heap.get? id = some segment → address ∈ listed id segment →
      address.segment = id) :
    address ∈ heap.segmentIds.flatMap (fun id => (heap.get? id).elim [] (listed id)) ↔
      ∃ segment, heap.get? address.segment = some segment ∧
        address ∈ listed address.segment segment := by
  simp only [List.mem_flatMap, mem_segmentIds sound.bounded]
  constructor
  · -- What is listed for a segment is in that segment, so there is only one to ask.
    intro given
    obtain ⟨id, _, member⟩ := given
    cases found : heap.get? id with
    | none => simp [found] at member
    | some segment =>
      rw [found, Option.elim_some] at member
      have same := own found member
      subst same
      exact ⟨segment, found, member⟩
  · intro given
    obtain ⟨segment, found, member⟩ := given
    refine ⟨address.segment, ⟨sound.ne_zero found, by simp [found]⟩, ?_⟩
    rw [found]
    exact member

/-- Everything in memory is listed: records of pools, and whole segments. -/
theorem mem_entities (sound : heap.Sound) :
    address ∈ heap.entities ↔ ∃ segment, heap.get? address.segment = some segment ∧
      if segment.kind.isPool then segment.isValidOffset address.offset = true
      else address.offset = 0 := by
  unfold entities
  -- Each segment lists its own things, so the number of the segment is known.
  rw [mem_flatMap_segmentIds sound]
  · constructor
    · intro given
      obtain ⟨segment, found, member⟩ := given
      exact ⟨segment, found, ((Segment.mem_entitiesIn (sound.pools _ _ found)).mp member).2⟩
    · intro given
      obtain ⟨segment, found, there⟩ := given
      exact ⟨segment, found, (Segment.mem_entitiesIn (sound.pools _ _ found)).mpr ⟨rfl, there⟩⟩
  · intro id segment found member
    exact ((Segment.mem_entitiesIn (sound.pools _ _ found)).mp member).1

/-- Everything in a pool may be freed. -/
theorem deallocatableIn_pool {id : SegmentId} {segment : Segment}
    (pool : segment.kind.isPool = true) : deallocatableIn id segment = entitiesIn id segment := by
  -- A script is the one kind of segment that may be freed and is no pool.
  cases segment with
  | script contents => simp [Segment.kind, SegmentKind.isPool] at pool
  | _ => simp only [deallocatableIn, pool, if_true]

/-- What may be freed in a segment are the records of a pool, or a script that nobody wants. -/
theorem mem_deallocatableIn {id : SegmentId} {segment : Segment} (bounded : segment.IsBounded) :
    address ∈ deallocatableIn id segment ↔ address.segment = id ∧
      (segment.kind.isPool = true ∧ segment.isValidOffset address.offset = true ∨
        address.offset = 0 ∧ ∃ script, segment = .script script ∧
          script.markedDeleted = true ∧ script.lockers = 0) := by
  cases segment with
  | script contents =>
    -- A script is listed as a whole, if it is marked and nobody uses it.
    obtain ⟨place, offset⟩ := address
    simp only [deallocatableIn, Segment.kind, SegmentKind.isPool, Segment.script.injEq]
    split
    · rename_i spent
      simp only [Bool.and_eq_true, beq_iff_eq] at spent
      simp [spent]
    · rename_i wanted
      simp only [Bool.and_eq_true, beq_iff_eq] at wanted
      simp only [List.not_mem_nil, Bool.false_eq_true, false_and, false_or, false_iff]
      intro given
      obtain ⟨_, _, script, rfl, marked, free⟩ := given
      exact wanted ⟨marked, free⟩
  | clones | lists | nodes | hunks =>
    rw [deallocatableIn_pool rfl, Segment.mem_entitiesIn bounded]
    simp [Segment.kind, SegmentKind.isPool]
  | _ => simp [deallocatableIn, Segment.kind, SegmentKind.isPool]

/-- What may be freed are the records of all pools and the scripts that nobody wants. -/
theorem mem_deallocatable (sound : heap.Sound) :
    address ∈ heap.deallocatable ↔ (heap.recordAt? address).isSome = true ∨
      address.offset = 0 ∧ heap.IsSpent address.segment := by
  -- Segment by segment, the two ways to be listed are the two sides of the claim.
  unfold deallocatable
  rw [mem_flatMap_segmentIds sound, isSome_recordAt?]
  · constructor
    · intro given
      obtain ⟨segment, found, member⟩ := given
      rcases ((mem_deallocatableIn (sound.pools _ _ found)).mp member).2 with
        ⟨pool, valid⟩ | ⟨first, script, rfl, spent⟩
      · exact .inl ⟨segment, found, pool, valid⟩
      · exact .inr ⟨first, script, found, spent⟩
    · intro either
      rcases either with ⟨segment, found, record⟩ | ⟨first, script, found, spent⟩
      · exact ⟨segment, found,
          (mem_deallocatableIn (sound.pools _ _ found)).mpr ⟨rfl, .inl record⟩⟩
      · exact ⟨_, found,
          (mem_deallocatableIn (sound.pools _ _ found)).mpr ⟨rfl, .inr ⟨first, script, rfl, spent⟩⟩⟩
  · intro id segment found member
    exact ((mem_deallocatableIn (sound.pools _ _ found)).mp member).1

/-- Nothing is listed twice as what may be freed. -/
theorem nodup_deallocatable (sound : heap.Sound) : heap.deallocatable.Nodup := by
  unfold deallocatable
  rw [List.nodup_flatMap]
  constructor
  · -- Within a segment, records have different offsets.
    intro id _
    cases found : heap.get? id with
    | none => exact List.nodup_nil
    | some segment =>
      have bounded := sound.pools id segment found
      simp only [Option.elim_some]
      cases segment with
      | script contents =>
        simp only [deallocatableIn]
        split <;> simp
      | clones | lists | nodes | hunks => exact Segment.nodup_entitiesIn bounded
      | _ => exact List.nodup_nil
  · -- What is listed for a segment is in that segment.
    apply (nodup_segmentIds sound.bounded).imp
    intro first second different address inFirst inSecond
    simp only at inFirst inSecond
    apply different
    cases foundFirst : heap.get? first with
    | none => simp [foundFirst] at inFirst
    | some left =>
      cases foundSecond : heap.get? second with
      | none => simp [foundSecond] at inSecond
      | some right =>
        rw [foundFirst, Option.elim_some, mem_deallocatableIn (sound.pools _ _ foundFirst)]
          at inFirst
        rw [foundSecond, Option.elim_some,
          mem_deallocatableIn (sound.pools _ _ foundSecond)] at inSecond
        rw [← inFirst.1, ← inSecond.1]

end Heap

end AdventureVm
