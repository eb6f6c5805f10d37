import AdventureVm.Script.Load

/-!
Work that is started in either of two states and comes to the same.

Loading a script is such work: what was recorded before makes no difference to it.
-/

namespace AdventureVm

section Rules

variable {σ α β : Type} {relation : σ → σ → Prop} {first second : σ}

/-- Work that starts in either of two states gives one value and ends in states that are related. -/
def RunsAlike (relation : σ → σ → Prop) (work : StateM σ α) (first second : σ) : Prop :=
  (work.run second).1 = (work.run first).1 ∧ relation (work.run first).2 (work.run second).2

/-- Two runs that give one value and end in related states are alike. -/
theorem RunsAlike.of_runs {work : StateM σ α} {value : α} {after afterToo : σ}
    (ran : work.run first = (value, after)) (ranToo : work.run second = (value, afterToo))
    (related : relation after afterToo) : RunsAlike relation work first second := by
  rw [RunsAlike, ran, ranToo]
  exact ⟨rfl, related⟩

/-- What follows on work starts with its value, in the states that it ends in. -/
theorem RunsAlike.bind {work : StateM σ α} {next : α → StateM σ β}
    (here : RunsAlike relation work first second)
    (further : ∀ value {after afterToo}, work.run first = (value, after) →
      relation after afterToo → RunsAlike relation (next value) after afterToo) :
    RunsAlike relation (work >>= next) first second := by
  -- The value is the same, so both go on with one and the same piece of work.
  obtain ⟨same, related⟩ := here
  have rest := further (work.run first).1 rfl related
  show ((next (work.run second).1).run (work.run second).2).1 =
      ((next (work.run first).1).run (work.run first).2).1 ∧
    relation ((next (work.run first).1).run (work.run first).2).2
      ((next (work.run second).1).run (work.run second).2).2
  rw [same]
  exact rest

/-- Work that looks at its state comes to the same if it makes the same of both states. -/
theorem RunsAlike.of_get {next : σ → StateM σ α} (same : next second = next first)
    (here : RunsAlike relation (next first) first second) :
    RunsAlike relation (get >>= next) first second := by
  -- Reading the state changes nothing, and what follows is the same work for both.
  show ((next second).run second).1 = ((next first).run first).1 ∧
    relation ((next first).run first).2 ((next second).run second).2
  rw [same]
  exact here

/-- What follows on work that may fail is not begun when the work fails. -/
theorem RunsAlike.andThen {work : ExceptT Fault (StateM σ) α}
    {next : α → ExceptT Fault (StateM σ) β} (here : RunsAlike relation work.run first second)
    (further : ∀ value {after afterToo}, work.run first = (.ok value, after) →
      relation after afterToo → RunsAlike relation (next value).run after afterToo) :
    RunsAlike relation (work >>= next).run first second := by
  -- Either outcome is a value of the plain work, so the plain rule applies.
  rw [ExceptT.run_bind]
  apply here.bind
  intro result after afterToo ended related
  cases result with
  | ok value => exact further value ended related
  | error fault => exact ⟨rfl, related⟩

/-- Going through a list comes to the same when each step does. -/
theorem RunsAlike.foldlM {step : β → α → StateM σ β}
    (each : ∀ value item {first second}, relation first second →
      RunsAlike relation (step value item) first second) (items : List α) (start : β)
    (related : relation first second) :
    RunsAlike relation (items.foldlM step start) first second := by
  -- Value and states change from item to item, so they stay quantified over.
  induction items generalizing start first second with
  | nil => exact ⟨rfl, related⟩
  | cons item rest ih =>
    rw [List.foldlM_cons]
    apply (each start item related).bind
    intro value after afterToo _ further
    exact ih value further

end Rules

section Journals

variable {α β : Type} {front back first second : Journal}

/-- Two journals go on with the same records after different beginnings. -/
def Journal.Continue (front back first second : Journal) : Prop :=
  ∃ records : Journal, first = front ++ records ∧ second = back ++ records

/-- Journals still go on alike when both get the same records. -/
theorem Journal.Continue.append (related : Journal.Continue front back first second)
    (added : Journal) : Journal.Continue front back (first ++ added) (second ++ added) := by
  -- What both have gained so far is gained further.
  obtain ⟨records, rfl, rfl⟩ := related
  exact ⟨records ++ added, Array.append_assoc, Array.append_assoc⟩

/-- Journals still go on alike when both get the same record. -/
theorem Journal.Continue.push (related : Journal.Continue front back first second)
    (record : Record) : Journal.Continue front back (first.push record) (second.push record) := by
  -- One record is a journal of one.
  rw [Array.push_eq_append, Array.push_eq_append]
  exact related.append #[record]

/-- A result that records nothing is the same whatever was recorded before. -/
theorem RunsAlike.quiet (result : Except Fault α)
    (related : Journal.Continue front back first second) :
    RunsAlike (Journal.Continue front back) (Logged.quiet result).run first second :=
  ⟨rfl, related⟩

/-- A record is added whatever was recorded before. -/
theorem RunsAlike.logged (level : Level) (text : String)
    (related : Journal.Continue front back first second) :
    RunsAlike (Journal.Continue front back) (Logged.note level text).run first second :=
  ⟨rfl, related.push _⟩

namespace Outline

/-- A block adds the same whatever was recorded before. -/
theorem addBlock_runsAlike (source : Source) (declared : Nat) (outline : Outline)
    (kind : BlockKind) (start stop : Nat) (related : Journal.Continue front back first second) :
    RunsAlike (Journal.Continue front back) (addBlock source declared outline kind start stop).run
      first second := by
  cases kind with
  | object | classes | code | terminator | said | strings | preloadText => exact ⟨rfl, related⟩
  | synonyms =>
    apply (RunsAlike.quiet _ related).andThen
    intro found _ _ _ related
    exact ⟨rfl, related⟩
  -- A table is read as a count and then its words, neither of which is recorded.
  | exports | pointers =>
    apply (RunsAlike.quiet _ related).andThen
    intro count _ _ _ related
    apply (RunsAlike.quiet _ related).andThen
    intro found _ _ _ related
    exact ⟨rfl, related⟩
  | localVars =>
    -- Only this block may add a record of its own.
    unfold addBlock
    simp only
    split
    · apply (RunsAlike.logged _ _ related).andThen
      intro _ _ _ _ related
      apply (RunsAlike.quiet _ related).andThen
      intro values _ _ _ related
      exact ⟨rfl, related⟩
    · apply (RunsAlike.quiet _ related).andThen
      intro values _ _ _ related
      exact ⟨rfl, related⟩

/-- The blocks of the first format add the same whatever was recorded before. -/
theorem walkBlocks_runsAlike (source : Source) (declared limit pos : Nat) (outline : Outline)
    (related : Journal.Continue front back first second) :
    RunsAlike (Journal.Continue front back) (walkBlocks source declared limit pos outline).run
      first second := by
  -- The journals grow from block to block, so they stay quantified over.
  fun_induction walkBlocks source declared limit pos outline generalizing first second with
  | case1 pos outline inside ih =>
    apply (RunsAlike.quiet _ related).andThen
    intro code _ _ _ related
    split
    · exact ⟨rfl, related⟩
    · apply (RunsAlike.quiet _ related).andThen
      intro size _ _ _ related
      simp only
      split
      · exact ⟨rfl, related⟩
      · rename_i fits
        split
        · exact ⟨rfl, related⟩
        · -- The walk goes on behind a block that fits.
          rename_i kind known
          apply (addBlock_runsAlike source declared outline kind _ _ related).andThen
          intro extended _ _ _ related
          exact ih size fits extended related
  | case2 pos outline beyond => exact ⟨rfl, related⟩

end Outline

namespace Script

/-- A word becomes an address whatever was recorded before. -/
theorem relocate_runsAlike (range : Option (Nat × Nat)) (delta : UInt16)
    (loaded : Script × Array Address) (offset : Nat)
    (related : Journal.Continue front back first second) :
    RunsAlike (Journal.Continue front back) (relocate range delta loaded offset) first second := by
  -- Only a word that belongs to nothing is recorded.
  obtain ⟨script, locals⟩ := loaded
  unfold relocate
  simp only
  split
  · exact ⟨rfl, related⟩
  · split
    · exact ⟨rfl, related⟩
    · exact ⟨rfl, related.push _⟩

/-- The parts are found whatever was recorded before. -/
theorem outline_runsAlike (version : Version) (source : Source) (scriptSize heapStart : Nat)
    (related : Journal.Continue front back first second) :
    RunsAlike (Journal.Continue front back) (outline version source scriptSize heapStart).run
      first second := by
  -- Only the older layout walks through blocks and writes to the journal.
  cases version with
  | sci0 =>
    apply (Outline.walkBlocks_runsAlike _ _ _ _ _ related).andThen
    intro parts _ _ _ related
    exact ⟨rfl, related⟩
  | sci11 => exact .quiet _ related

/-- A script is loaded, or refused, whatever was recorded before. -/
theorem load_runsAlike (version : Version) (number : UInt16) (segment : SegmentId) (bytes : Bytes)
    (heap : Option Bytes) (related : Journal.Continue front back first second) :
    RunsAlike (Journal.Continue front back) (load version number segment bytes heap).run
      first second := by
  unfold load
  apply (RunsAlike.quiet _ related).andThen
  intro size _ _ _ related
  split
  · exact ⟨rfl, related⟩
  · -- The outline is found first, then the objects are read, and addresses are set last.
    apply (outline_runsAlike version _ _ _ related).andThen
    rintro ⟨parts, data⟩ _ _ _ related
    apply (RunsAlike.quiet _ related).andThen
    intro script _ _ _ related
    have relocated := RunsAlike.foldlM (fun loaded offset =>
      relocate_runsAlike parts.localsRange parts.relocationDelta loaded offset)
      parts.relocations.toList (script, parts.locals) related
    exact ⟨congrArg Except.ok relocated.1, relocated.2⟩

end Script

end Journals

end AdventureVm
