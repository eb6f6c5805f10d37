import AdventureVm.Proofs.Loader.WellFormed

/-!
The local variables of a script are within reach of offsets.

The first format has room for them set apart in the buffer, and in the second they are read from it.
Either way they are part of the size that loading compares with what a segment can address.
-/

namespace AdventureVm

namespace Script

/-- Setting an address adds no variables. -/
theorem relocate_locals (range : Option (Nat × Nat)) (delta : UInt16)
    (loaded : Script × Array Address) (offset : Nat) (journal : Journal) :
    ((relocate range delta loaded offset).run journal).1.2.size = loaded.2.size := by
  obtain ⟨script, locals⟩ := loaded
  unfold relocate
  simp only
  -- The word is in the variables, in an object, or in neither.
  split
  · exact Array.size_modify
  · split
    · rfl
    · rfl

/-- The variables of a script that was loaded are within reach of offsets. -/
theorem Stages.withinReach {version : Version} {number : UInt16} {segment : SegmentId}
    {bytes : Bytes} {heap : Option Bytes} {journal : Journal} {loaded : Script × Array Address}
    (stages : Stages version number segment bytes heap journal loaded) :
    2 * loaded.2.size ≤ segmentLimit := by
  cases stages with
  | @loaded size parts data between bare sized fits outlined read =>
    have reckoned := Layout.results_bufferSize version number bytes heap
    rw [sized] at reckoned
    obtain ⟨whole, _, declared⟩ := reckoned
    -- In the first format the room for the variables was reckoned from the word that counts them.
    have room : version = .sci0 → 2 * (declaredLocals? (buffer version bytes heap size)).getD 0 ≤
        (buffer version bytes heap size).size := by
      intro first
      obtain ⟨word, read, same⟩ := declared first
      rw [declaredLocals?, read, Option.map_some, Option.getD_some, whole]
      omega
    have described := Outline.leads_outline ⟨number, buffer version bytes heap size⟩ version
      bytes.size (heapOffset version bytes heap) journal
    rw [Leads, outlined, either_ok] at described
    have small := described.2.2.2 room
    simp only [whole] at small
    -- Moving an address changes no number of variables, and so do all of them.
    have each (loaded : Script × Array Address) (offset : Nat) (journal : Journal)
        (few : 2 * loaded.2.size ≤ segmentLimit) :
        2 * ((relocate parts.localsRange parts.relocationDelta loaded offset).run
          journal).1.2.size ≤ segmentLimit := by
      rwa [relocate_locals]
    exact relocations_preserves each _ (Nat.le_trans small fits) _

end Script

/-- The variables that the resources offer with a script are within reach of offsets. -/
theorem Resources.Offers.withinReach {resources : Resources} {version : Version} {number : UInt16}
    {id : SegmentId} {script : Script} {locals : Array Address}
    (offers : resources.Offers version number id script locals) :
    2 * locals.size ≤ segmentLimit := by
  -- The offer went through the stages of loading, which look at the size.
  obtain ⟨_, _, _, stages⟩ := offers.stages
  exact stages.withinReach

end AdventureVm
