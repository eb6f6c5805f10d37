import AdventureVm.Proofs.Memory.Loading

/-! Objects know where they are: in the segment of the script they were read from. -/

namespace AdventureVm

namespace Object

variable {source : Source} {segment : SegmentId} {scriptSize base : Nat} {object : Object}

/-- A record can be marked only where there is a buffer. -/
theorem size_of_checkMagic {offset : Nat} (marked : checkMagic source offset = .ok ()) :
    source.data.size ≠ 0 := by
  -- The word that marks objects takes two bytes.
  intro empty
  obtain ⟨magic, read, _⟩ := bind_eq_ok.mp marked
  have none_ : word? source.data offset = none := by
    simp [word?, Array.eq_empty_of_size_eq_zero empty]
  simp [Source.word, none_] at read

/-- A record of the first format is where it was read, and not in an empty buffer. -/
theorem parseSci0_pos (read : parseSci0 source segment base = .ok object) :
    object.pos = ⟨segment, UInt16.ofNat base⟩ ∧ source.data.size ≠ 0 := by
  unfold parseSci0 at read
  simp only at read
  split at read
  · simp [throw, throwThe, MonadExceptOf.throw, bind, Except.bind] at read
  · -- The mark, the two counts and the values come first.
    obtain ⟨_, marked, read⟩ := bind_eq_ok.mp read
    obtain ⟨_, _, read⟩ := bind_eq_ok.mp read
    obtain ⟨_, _, read⟩ := bind_eq_ok.mp read
    obtain ⟨_, _, read⟩ := bind_eq_ok.mp read
    obtain ⟨_, _, read⟩ := bind_eq_ok.mp read
    refine ⟨?_, size_of_checkMagic marked⟩
    -- Only a class has selectors, but both have methods.
    split at read
    all_goals
      obtain ⟨_, _, read⟩ := bind_eq_ok.mp read
      obtain ⟨_, _, read⟩ := bind_eq_ok.mp read
      obtain ⟨_, _, read⟩ := bind_eq_ok.mp read
      obtain ⟨_, _, read⟩ := bind_eq_ok.mp read
      simp only [pure, Except.pure, Except.ok.injEq] at read
      rw [← read]

/-- A record of the second format is where it was read, and not in an empty buffer. -/
theorem parseSci11_pos (read : parseSci11 source segment scriptSize base = .ok object) :
    object.pos = ⟨segment, UInt16.ofNat base⟩ ∧ source.data.size ≠ 0 := by
  unfold parseSci11 at read
  simp only at read
  -- The mark, the values and the two tables are read one after the other.
  obtain ⟨_, marked, read⟩ := bind_eq_ok.mp read
  obtain ⟨_, _, read⟩ := bind_eq_ok.mp read
  obtain ⟨_, _, read⟩ := bind_eq_ok.mp read
  obtain ⟨_, _, read⟩ := bind_eq_ok.mp read
  obtain ⟨_, _, read⟩ := bind_eq_ok.mp read
  obtain ⟨_, _, read⟩ := bind_eq_ok.mp read
  obtain ⟨_, _, read⟩ := bind_eq_ok.mp read
  refine ⟨?_, size_of_checkMagic marked⟩
  simp only [pure, Except.pure, Except.ok.injEq] at read
  rw [← read]

/-- A record of either format is where it was read, and not in an empty buffer. -/
theorem parse_pos {version : Version}
    (read : parse version source segment scriptSize base = .ok object) :
    object.pos = ⟨segment, UInt16.ofNat base⟩ ∧ source.data.size ≠ 0 := by
  -- Each format has its own reader.
  cases version with
  | sci0 => exact parseSci0_pos read
  | sci11 => exact parseSci11_pos read

end Object

namespace Script

variable {script extended : Script} {version : Version}

/-- Where the objects of a script are. -/
def positions (script : Script) : List Address :=
  script.objects.toList.map (·.pos)

/-- A position is that of an object. -/
theorem mem_positions {address : Address} :
    address ∈ script.positions ↔ ∃ object ∈ script.objects, object.pos = address := by
  simp [positions]

/-- Changing one object in everything but its position leaves the positions. -/
theorem positions_modify (script : Script) (index : Nat) {change : Object → Object}
    (still : ∀ object, (change object).pos = object.pos) :
    ({ script with objects := script.objects.modify index change } : Script).positions =
      script.positions := by
  -- The list of positions is compared place by place.
  unfold positions
  apply List.ext_getElem?
  intro place
  simp only [List.getElem?_map, Array.getElem?_toList, Array.getElem?_modify]
  split
  · rename_i here
    cases script.objects[place]? with
    | none => rfl
    | some object => simp [still]
  · rfl

/-- Reading one record adds at most its own position, which lies in the script's segment. -/
theorem positions_instantiateObject {offset : UInt16} {index : Nat}
    (read : script.instantiateObject version offset = .ok (index, extended)) :
    ∃ added, extended.positions = script.positions ++ added ∧
      (∀ address ∈ added, address.segment = script.segment) ∧
      (added ≠ [] → script.data.size ≠ 0) := by
  unfold instantiateObject at read
  split at read
  · -- The record was read before.
    simp only [Except.ok.injEq, Prod.mk.injEq] at read
    exact ⟨[], by rw [← read.2, List.append_nil], by simp, by simp⟩
  · obtain ⟨object, parsed, same⟩ := bind_eq_ok.mp read
    simp only [Pure.pure, Except.pure, Except.ok.injEq, Prod.mk.injEq] at same
    have pos := Object.parse_pos parsed
    refine ⟨[object.pos], ?_, ?_, fun _ => pos.2⟩
    · rw [← same.2]
      simp [positions]
    · intro address member
      rw [List.mem_singleton.mp member, pos.1]

/-- All records that are read lie in the script's segment. -/
theorem positions_withObjects {bases : Array Nat}
    (read : script.withObjects version bases = .ok extended)
    (inside : ∀ address ∈ script.positions, address.segment = script.segment) :
    ∀ address ∈ extended.positions, address.segment = script.segment := by
  -- A record adds a position in the segment of its script, and that segment stays the same.
  have each (between : Script) (offset : UInt16) (index : Nat) (extended : Script)
      (holds : between.segment = script.segment ∧
        ∀ address ∈ between.positions, address.segment = script.segment)
      (parsed : between.instantiateObject version offset = .ok (index, extended)) :
      extended.segment = script.segment ∧
        ∀ address ∈ extended.positions, address.segment = script.segment := by
    obtain ⟨same, inside⟩ := holds
    obtain ⟨added, positions, own, _⟩ := positions_instantiateObject parsed
    obtain ⟨objects, rfl⟩ := instantiateObject_objects parsed
    refine ⟨same, fun address member => ?_⟩
    rw [positions, List.mem_append] at member
    rcases member with earlier | new
    · exact inside address earlier
    · exact (own address new).trans same
  exact (withObjects_preserves each ⟨rfl, inside⟩ read).2

/-- Setting an address moves no object. -/
theorem positions_relocate (range : Option (Nat × Nat)) (delta : UInt16)
    (loaded : Script × Array Address) (offset : Nat) (journal : Journal) :
    ((relocate range delta loaded offset).run journal).1.1.positions = loaded.1.positions := by
  -- The word belongs to the local variables, to an object or to nothing.
  obtain ⟨script, locals⟩ := loaded
  unfold relocate
  simp only
  split
  · rfl
  · split
    · exact positions_modify script _ fun _ => rfl
    · rfl

/-- The objects of a script that was loaded are in its segment. -/
theorem Stages.positions {number : UInt16} {segment : SegmentId} {bytes : Bytes}
    {heap : Option Bytes} {journal : Journal} {loaded : Script × Array Address}
    (stages : Stages version number segment bytes heap journal loaded) :
    ∀ address ∈ loaded.1.positions, address.segment = segment := by
  cases stages with
  | @loaded size parts data between bare sized fits outlined read =>
    -- Objects are read into the segment and stay where they are when addresses are set.
    have inside : ∀ address ∈ bare.positions, address.segment = segment :=
      positions_withObjects read (by simp [Script.positions, ofOutline])
    have each (loaded : Script × Array Address) (offset : Nat) (journal : Journal)
        (inside : ∀ address ∈ loaded.1.positions, address.segment = segment) :
        ∀ address ∈ ((relocate parts.localsRange parts.relocationDelta loaded offset).run
          journal).1.1.positions, address.segment = segment := by
      rwa [positions_relocate]
    exact relocations_preserves each _ inside _

end Script

/-- The objects of an offered script are in the segment it is offered for. -/
theorem Resources.Offers.positions {resources : Resources} {version : Version} {number : UInt16}
    {id : SegmentId} {script : Script} {locals : Array Address}
    (offers : resources.Offers version number id script locals) :
    ∀ address ∈ script.positions, address.segment = id := by
  -- The offer went through the stages of loading.
  obtain ⟨_, _, _, stages⟩ := offers.stages
  exact stages.positions

end AdventureVm
