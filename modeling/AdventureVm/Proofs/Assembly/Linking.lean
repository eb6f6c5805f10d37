import AdventureVm.Assembly.Link
import AdventureVm.Proofs.RoundTrip.Words
import Mathlib.Data.Int.ModEq

/-! Linking fills in the open operands of assembled code and changes nothing else. -/

namespace AdventureVm

/-- Everything that decides what is filled in. -/
structure Linkage where
  /-- The code with its labels and open operands. -/
  assembly : Assembly
  /-- Where the code will start in the buffer. -/
  base : Nat
  /-- Places of objects and texts are filled in as they are, not as distances. -/
  absolute : Bool
  /-- Where the objects and texts will be in the buffer. -/
  places : Places

/-- The code with all operands filled in. -/
def Linkage.code (linkage : Linkage) : Except BuildError Bytes :=
  linkage.assembly.link linkage.base linkage.absolute linkage.places

/-- The value of an open operand. -/
def Linkage.value (linkage : Linkage) (reference : Reference) : Except BuildError Int :=
  linkage.assembly.referenceValue linkage.base linkage.absolute linkage.places reference

/-- A byte at an offset does not belong to the open operand. -/
def Reference.Avoids (reference : Reference) (offset : Nat) : Prop :=
  offset < reference.offset ∨ reference.offset + 2 ≤ offset

section Words

variable {data : Bytes} {offset other : Nat} {word : UInt16}

/-- Writing a word changes its two bytes and no others. -/
theorem getElem?_overwrite_word (apart : other < offset ∨ offset + 2 ≤ other) :
    (overwrite data offset (wordBytes word).toList)[other]? = data[other]? := by
  -- The other place is neither that of the low byte nor that of the high one.
  simp only [wordBytes, overwrite]
  rw [Array.getElem?_setIfInBounds_ne (by omega), Array.getElem?_setIfInBounds_ne (by omega)]

/-- A word that is written can be read where it was written. -/
theorem word?_overwrite (inside : offset + 2 ≤ data.size) :
    word? (overwrite data offset (wordBytes word).toList) offset = some word := by
  -- The second byte that is written leaves the first one alone.
  simp only [wordBytes, overwrite, word?]
  rw [Array.getElem?_setIfInBounds_ne (by omega),
    Array.getElem?_setIfInBounds_self_of_lt (by omega),
    Array.getElem?_setIfInBounds_self_of_lt (by rw [Array.size_setIfInBounds]; omega)]
  simp

/-- A word depends on its two bytes alone. -/
theorem word?_congr {before : Bytes} (low : data[offset]? = before[offset]?)
    (high : data[offset + 1]? = before[offset + 1]?) : word? data offset = word? before offset := by
  rw [word?, word?, low, high]

end Words

namespace Linkage

variable {linkage : Linkage} {before after : Bytes} {references : List Reference}

/-- Code is filled in at some of its open operands. -/
structure Filled (linkage : Linkage) (references : List Reference) (before after : Bytes) :
    Prop where
  /-- The code keeps its size. -/
  size : after.size = before.size
  /-- A byte that belongs to none of the operands is kept. -/
  kept : ∀ offset, (∀ reference ∈ references, reference.Avoids offset) →
    after[offset]? = before[offset]?
  /-- Each of the operands holds its value, modulo 65536. -/
  filled : ∀ reference ∈ references, ∃ value, linkage.value reference = .ok value ∧
    word? after reference.offset = some (wordOfInt value)

/-- Filling in one operand writes its value. -/
theorem fill_eq_ok {reference : Reference}
    (done : linkage.assembly.fill linkage.base linkage.absolute linkage.places before reference =
      .ok after) :
    ∃ value, linkage.value reference = .ok value ∧
      after = overwrite before reference.offset (wordBytes (wordOfInt value)).toList := by
  obtain ⟨value, found, written⟩ := bind_eq_ok.mp done
  refine ⟨value, found, ?_⟩
  -- A value that fits no word would have been refused.
  split at written
  · cases written
  · cases written
    rfl

/-- Operands that do not overlap are filled in one after the other. -/
theorem filled_of_foldlM
    (apart : references.Pairwise fun first second => first.offset + 2 ≤ second.offset)
    (inside : ∀ reference ∈ references, reference.offset + 2 ≤ before.size)
    (done : references.foldlM
      (linkage.assembly.fill linkage.base linkage.absolute linkage.places) before = .ok after) :
    linkage.Filled references before after := by
  -- The code changes from operand to operand, so it stays quantified over.
  induction references generalizing before with
  | nil =>
    cases done
    exact ⟨rfl, fun _ _ => rfl, by simp⟩
  | cons reference references ih =>
    rw [List.foldlM_cons] at done
    obtain ⟨between, first, rest⟩ := bind_eq_ok.mp done
    obtain ⟨value, found, rfl⟩ := fill_eq_ok first
    -- The first operand is filled in before the others, all of which lie behind it.
    obtain ⟨behind, others⟩ := List.pairwise_cons.mp apart
    have later := ih others (by
      intro other member
      rw [size_overwrite]
      exact inside other (List.mem_cons_of_mem _ member)) rest
    refine ⟨later.size.trans (size_overwrite _ _ _), ?_, ?_⟩
    · intro offset avoided
      rw [later.kept offset fun other member => avoided other (List.mem_cons_of_mem _ member)]
      exact getElem?_overwrite_word (avoided reference List.mem_cons_self)
    · intro other member
      rcases List.mem_cons.mp member with rfl | among
      · -- The operands that follow lie behind this one, so it stays as it was written.
        refine ⟨value, found, ?_⟩
        rw [word?_congr (later.kept _ fun next listed => .inl ?_)
          (later.kept _ fun next listed => .inl ?_)]
        · exact word?_overwrite (inside other List.mem_cons_self)
        · have after := behind next listed
          omega
        · have after := behind next listed
          omega
      · exact later.filled other among

end Linkage

end AdventureVm
