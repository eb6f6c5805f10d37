import AdventureVm.Proofs.Collector.Sweeping
import AdventureVm.Proofs.Memory.Locking
import Mathlib.Logic.Function.Basic

/-! The scripts in memory by number, and what each kind of work does to them. -/

namespace AdventureVm

namespace Heap

variable {heap before after : Heap} {id : SegmentId} {number : UInt16} {script : Script}

/-- A script is found by its number where the residents place it. -/
theorem scriptByNumber?_of_placed (placed : heap.scriptSegment? number = some id)
    (found : heap.get? id = some (.script script)) : heap.scriptByNumber? number = some script := by
  simp [scriptByNumber?, placed, Heap.script, found, Except.toOption]

/-- A script that is found by its number is where the residents place it. -/
theorem placed_of_scriptByNumber? (found : heap.scriptByNumber? number = some script) :
    ∃ id, heap.scriptSegment? number = some id ∧ heap.get? id = some (.script script) := by
  obtain ⟨id, placed, there⟩ := Option.bind_eq_some_iff.mp found
  refine ⟨id, placed, ?_⟩
  -- The place that the residents name holds a script, or nothing would have been found.
  unfold Heap.script at there
  split at there
  · rename_i contents present
    simp only [Except.toOption, Option.some.injEq] at there
    rw [present, there]
  · simp [Except.toOption] at there

/-- A number of no resident finds no script. -/
theorem scriptByNumber?_of_absent (absent : heap.scriptSegment? number = none) :
    heap.scriptByNumber? number = none := by
  simp [scriptByNumber?, absent]

/-- A number that the residents place nowhere finds no script. -/
theorem scriptByNumber?_of_nowhere (nowhere : ∀ place, heap.scriptSegment? number ≠ some place) :
    heap.scriptByNumber? number = none :=
  scriptByNumber?_of_absent (Option.eq_none_iff_forall_ne_some.mpr nowhere)

/-- Residents of different numbers are in different places. -/
theorem Sound.place_ne (sound : heap.Sound) {other : UInt16} {place : SegmentId}
    (placed : heap.scriptSegment? number = some id)
    (placedToo : heap.scriptSegment? other = some place) (different : other ≠ number) :
    place ≠ id := by
  intro equal
  subst equal
  obtain ⟨script, found, named, _⟩ := sound.script_of_resident placed
  obtain ⟨second, foundToo, namedToo, _⟩ := sound.script_of_resident placedToo
  -- One place holds one script, which has one number.
  rw [found, Option.some.injEq, Segment.script.injEq] at foundToo
  exact different (by rw [← namedToo, ← foundToo, named])

/-- Replacing a resident script changes what is found by its number, and nothing else. -/
theorem scriptByNumber?_put (sound : heap.Sound) (placed : heap.scriptSegment? number = some id)
    (found : heap.get? id = some (.script script)) (changed : Script) :
    (heap.put id (some (.script changed))).scriptByNumber? =
      Function.update heap.scriptByNumber? number (some changed) := by
  -- The residents place every script where they did.
  have same : (heap.put id (some (.script changed))).scriptSegment? = heap.scriptSegment? := rfl
  funext other
  by_cases here : other = number
  · subst here
    rw [Function.update_self]
    apply scriptByNumber?_of_placed (same ▸ placed)
    rw [get?_put found, if_pos rfl]
  · rw [Function.update_of_ne here]
    cases placedToo : heap.scriptSegment? other with
    | none =>
      rw [scriptByNumber?_of_absent placedToo, scriptByNumber?_of_absent (same ▸ placedToo)]
    | some place =>
      obtain ⟨second, foundToo, _⟩ := sound.script_of_resident placedToo
      rw [scriptByNumber?_of_placed placedToo foundToo]
      apply scriptByNumber?_of_placed (same ▸ placedToo)
      rw [get?_put found, if_neg (sound.place_ne placed placedToo here)]
      exact foundToo

/-- Changing a resident script in place changes what is found by its number, and nothing else. -/
theorem scriptByNumber?_modifyScript (sound : heap.Sound)
    (placed : heap.scriptSegment? number = some id)
    (found : heap.get? id = some (.script script)) (change : Script → Script) :
    (heap.modifyScript id change).scriptByNumber? =
      Function.update heap.scriptByNumber? number (some (change script)) := by
  -- The change in place is the same as putting the changed script there.
  rw [modifyScript, modify_eq_put found]
  exact scriptByNumber?_put sound placed found (change script)

/-- Memory that holds the same finds the same. -/
theorem Alike.scriptByNumber? (alike : Alike before after) :
    after.scriptByNumber? = before.scriptByNumber? := by
  -- Residents and places are the same, and nothing else is asked for.
  funext number
  simp only [Heap.scriptByNumber?, scriptSegment?, alike.residents, Heap.script, alike.places]
  cases before.residents.lookup number with
  | none => rfl
  | some id =>
    simp only [Option.bind_some]
    split <;> rfl

/-- A script that was brought into memory is found by its number, and the others as before. -/
theorem Brought.scriptByNumber? {resources : Resources} (sound : before.Sound)
    (brought : before.Brought resources number id after) {arrived : Script}
    (found : after.get? id = some (.script arrived)) :
    after.scriptByNumber? = Function.update before.scriptByNumber? number (some arrived) := by
  -- The residents have one entry more.
  have placed : ∀ {other place}, after.scriptSegment? other = some place ↔
      other = number ∧ place = id ∨ other ≠ number ∧ before.scriptSegment? other = some place := by
    intro other place
    rw [scriptSegment?_eq_some brought.sound.distinct, brought.residents,
      scriptSegment?_eq_some sound.distinct]
    simp [setResident, and_comm]
  funext other
  by_cases here : other = number
  · subst here
    rw [Function.update_self]
    exact scriptByNumber?_of_placed (placed.mpr (.inl ⟨rfl, rfl⟩)) found
  · rw [Function.update_of_ne here]
    cases placedBefore : before.scriptSegment? other with
    | none =>
      rw [scriptByNumber?_of_absent placedBefore]
      apply scriptByNumber?_of_nowhere
      intro place placedAfter
      -- A place that is new would be that of the script itself.
      rcases placed.mp placedAfter with ⟨same, _⟩ | ⟨_, earlier⟩
      · exact here same
      · rw [placedBefore] at earlier
        cases earlier
    | some place =>
      obtain ⟨second, foundToo, _⟩ := sound.script_of_resident placedBefore
      rw [scriptByNumber?_of_placed placedBefore foundToo]
      exact scriptByNumber?_of_placed (placed.mpr (.inr ⟨here, placedBefore⟩))
        (brought.kept place _ foundToo)

/-- A script that has left memory is not found by its number, and the others are as before. -/
theorem scriptByNumber?_departed (sound : before.Sound)
    (placed : before.scriptSegment? number = some id)
    (found : before.get? id = some (.script script))
    (departed : Store.Departed before id script after) :
    after.scriptByNumber? = Function.update before.scriptByNumber? number none := by
  -- The residents have lost what they had for the place of the script.
  have places : ∀ {other place}, after.scriptSegment? other = some place ↔
      before.scriptSegment? other = some place ∧ place ≠ id := by
    intro other place
    rw [scriptSegment?_eq_some departed.sound.distinct, scriptSegment?_eq_some sound.distinct,
      departed.residents]
  have absent : ∀ {other}, (∀ place, before.scriptSegment? other = some place → place = id) →
      after.scriptByNumber? other = none := by
    intro other only
    apply scriptByNumber?_of_nowhere
    intro place placedAfter
    obtain ⟨earlier, elsewhere⟩ := places.mp placedAfter
    exact elsewhere (only place earlier)
  funext other
  by_cases here : other = number
  · -- Its own number named nothing but its place.
    subst here
    rw [Function.update_self]
    apply absent
    intro place placedToo
    rw [placed, Option.some.injEq] at placedToo
    exact placedToo.symm
  · rw [Function.update_of_ne here]
    cases placedBefore : before.scriptSegment? other with
    | none =>
      rw [scriptByNumber?_of_absent placedBefore]
      apply absent
      simp [placedBefore]
    | some place =>
      obtain ⟨second, foundToo, _⟩ := sound.script_of_resident placedBefore
      have elsewhere := sound.place_ne placed placedBefore here
      rw [scriptByNumber?_of_placed placedBefore foundToo]
      apply scriptByNumber?_of_placed (places.mpr ⟨placedBefore, elsewhere⟩)
      rw [departed.places, if_neg]
      · exact foundToo
      · -- The place is neither that of the script nor that of its variables.
        intro either
        rcases either with same | ⟨withVariables, same⟩
        · exact elsewhere same
        · obtain ⟨_, table, tableAt, _⟩ := sound.ownLocals id script found withVariables
          rw [← same, foundToo] at tableAt
          simp at tableAt

/-- Sweeping leaves a script as it was, or it was among what was freed. -/
theorem Swept.scriptByNumber? {freed : List Address} (sound : before.Sound)
    (swept : before.Swept freed after) (number : UInt16) :
    after.scriptByNumber? number = before.scriptByNumber? number ∨
      after.scriptByNumber? number = none ∧
        ∀ script, before.scriptByNumber? number = some script →
          ∃ id, before.get? id = some (.script script) ∧ Address.mk id 0 ∈ freed := by
  have places : ∀ {place}, after.scriptSegment? number = some place ↔
      before.scriptSegment? number = some place ∧ Address.mk place 0 ∉ freed := by
    intro place
    rw [scriptSegment?_eq_some swept.sound.distinct, scriptSegment?_eq_some sound.distinct,
      swept.residents]
  cases placed : before.scriptSegment? number with
  | none =>
    -- Sweeping places no script.
    left
    rw [scriptByNumber?_of_absent placed]
    apply scriptByNumber?_of_nowhere
    intro place placedAfter
    have earlier := (places.mp placedAfter).1
    rw [placed] at earlier
    cases earlier
  | some id =>
    obtain ⟨script, found, _⟩ := sound.script_of_resident placed
    rw [scriptByNumber?_of_placed placed found]
    -- A resident script was freed, or it is where it was.
    by_cases freedHere : Address.mk id 0 ∈ freed
    · right
      refine ⟨?_, ?_⟩
      · apply scriptByNumber?_of_nowhere
        intro place placedAfter
        obtain ⟨earlier, unfreed⟩ := places.mp placedAfter
        rw [placed, Option.some.injEq] at earlier
        exact unfreed (earlier ▸ freedHere)
      · intro other same
        rw [Option.some.injEq] at same
        exact ⟨id, same ▸ found, freedHere⟩
    · left
      exact scriptByNumber?_of_placed (places.mpr ⟨placed, freedHere⟩)
        (swept.script_kept sound found freedHere)

end Heap

end AdventureVm
