import AdventureVm.Proofs.RoundTrip.Words

/-! What reading a part of a script gives, and which failure it can end with. -/

namespace AdventureVm

section Rules

variable {α β : Type} {succeeded stronger : α → Prop} {failed : Fault → Prop}

/-- A result meets one condition if it is a success and another one if it is a failure. -/
def Results (succeeded : α → Prop) (failed : Fault → Prop) : Except Fault α → Prop
  | .ok value => succeeded value
  | .error fault => failed fault

/-- A success is judged by its value. -/
@[simp] theorem results_ok (value : α) : Results succeeded failed (.ok value) ↔ succeeded value :=
  Iff.rfl

/-- A value is a success. -/
@[simp] theorem results_pure (value : α) :
    Results succeeded failed (pure value) ↔ succeeded value := Iff.rfl

/-- A failure is judged by its fault. -/
@[simp] theorem results_error (fault : Fault) :
    Results succeeded failed (.error fault) ↔ failed fault := Iff.rfl

/-- What is thrown is a failure. -/
@[simp] theorem results_throw (fault : Fault) :
    Results succeeded failed (throw fault) ↔ failed fault := Iff.rfl

/-- The second of two steps is judged with what the first one gives. -/
theorem Results.bind {first : Except Fault α} {next : α → Except Fault β} {ended : β → Prop}
    (begun : Results succeeded failed first)
    (goesOn : ∀ value, succeeded value → Results ended failed (next value)) :
    Results ended failed (first >>= next) := by
  -- A failure of the first step is one of both.
  cases first with
  | error fault => exact begun
  | ok value => exact goesOn value begun

/-- A condition that follows can take the place of one that is met. -/
theorem Results.mono {result : Except Fault α} (met : Results stronger failed result)
    (implied : ∀ value, stronger value → succeeded value) : Results succeeded failed result := by
  -- Failures are judged as before.
  cases result with
  | error fault => exact met
  | ok value => exact implied value met

/-- A condition on failures that follows can take the place of one that is met. -/
theorem Results.weaken {allowed : Fault → Prop} {result : Except Fault α}
    (met : Results succeeded failed result) (implied : ∀ fault, failed fault → allowed fault) :
    Results succeeded allowed result := by
  -- Successes are judged as before.
  cases result with
  | error fault => exact implied fault met
  | ok value => exact met

/-- A result that is changed is judged by what it is changed to. -/
theorem Results.map {result : Except Fault β} {change : β → α}
    (met : Results (fun value => succeeded (change value)) failed result) :
    Results succeeded failed (change <$> result) := by
  -- A change does not touch failures.
  cases result with
  | error fault => exact met
  | ok value => exact met

/-- Work on each of a list gives a list of as many, each of which meets its condition. -/
theorem Results.mapM {work : α → Except Fault β} {items : List α} {done : α → β → Prop}
    (each : ∀ item ∈ items, Results (done item) failed (work item)) :
    Results (List.Forall₂ done items) failed (items.mapM work) := by
  -- The first one that fails makes the whole fail.
  induction items with
  | nil => exact .nil
  | cons item items ih =>
    rw [List.mapM_cons]
    obtain ⟨first, others⟩ := List.forall_mem_cons.mp each
    refine first.bind fun value good => (ih others).bind fun values rest => ?_
    exact .cons good rest

/-- What each step keeps is kept to the end. -/
theorem Results.foldlM {work : β → α → Except Fault β} {items : List α} {start : β}
    {kept : β → Prop} (begins : kept start)
    (each : ∀ state item, kept state → Results kept failed (work state item)) :
    Results kept failed (items.foldlM work start) := by
  -- Each step starts from what the one before it kept.
  induction items generalizing start with
  | nil => exact begins
  | cons item items ih =>
    rw [List.foldlM_cons]
    exact (each start item begins).bind fun next good => ih good

end Rules

namespace Source

variable (source : Source)

/-- A fault says which part of the script does not fit its format. -/
def Blames (fault : Fault) : Prop :=
  ∃ field detail, fault = source.corrupt field detail

variable {source}

/-- A failure to make sense of a part blames the script. -/
theorem blames_corrupt (field detail : String) : source.Blames (source.corrupt field detail) :=
  ⟨field, detail, rfl⟩

/-- Buffers of one script are blamed for the same. -/
theorem blames_congr {other : Source} (same : other.script = source.script) :
    other.Blames = source.Blames := by
  -- A buffer is blamed by the number of its script.
  funext fault
  simp only [Blames, corrupt, same]

variable (source)

/-- A word is read from the buffer. -/
theorem results_word (offset : Nat) (field : String) :
    Results (fun value => word? source.data offset = some value) source.Blames
      (source.word offset field) := by
  -- What is missing is blamed on the buffer.
  unfold word
  split
  · assumption
  · exact blames_corrupt ..

/-- A word that is read ends before the limit. -/
theorem results_wordBefore (limit offset : Nat) (field : String) :
    Results (fun value => word? source.data offset = some value ∧ offset + 2 ≤ limit) source.Blames
      (source.wordBefore limit offset field) := by
  -- The limit is looked at before the buffer is.
  unfold wordBefore
  split
  · exact blames_corrupt ..
  · split
    · rename_i read
      exact ⟨read, by omega⟩
    · exact blames_corrupt ..

/-- A table has as many words as were asked for, all of them before the limit and in the buffer. -/
theorem results_table (start count limit : Nat) (field : String) :
    Results (fun words => words.size = count ∧ start + 2 * count ≤ limit ∧
      start + 2 * count ≤ source.data.size) source.Blames
      (source.table start count limit field) := by
  unfold table
  simp only
  split
  · exact blames_corrupt ..
  · rename_i fits
    refine ⟨?_, by omega, by omega⟩
    -- Every word of the table lies in the buffer, so none is left out.
    have each : ∀ index ∈ List.range count, (word? source.data (start + 2 * index)).isSome := by
      intro index member
      have small := List.mem_range.mp member
      have low : start + 2 * index < source.data.size := by omega
      have high : start + 2 * index + 1 < source.data.size := by omega
      simp [word?, low, high]
    rw [← Array.length_toList, Array.toList_filterMap, Array.toList_range,
      List.length_filterMap_eq_countP, List.countP_eq_length.mpr each, List.length_range]

/-- A table that is read word by word has as many words as were asked for. -/
theorem results_tableBefore (limit start count : Nat) (field : String) :
    Results (fun words => words.size = count ∧ (0 < count → start + 2 * count ≤ limit))
      source.Blames (source.tableBefore limit start count field) := by
  unfold tableBefore
  refine (Results.mapM fun index _ => source.results_wordBefore limit (start + 2 * index)
    field).bind fun words read => ?_
  have length := read.length_eq
  rw [List.length_range] at length
  refine ⟨by simpa using length.symm, fun positive => ?_⟩
  -- The last word ends before the limit.
  have last := read.get (show count - 1 < (List.range count).length by simp; omega) (by omega)
  simp only [List.get_eq_getElem, List.getElem_range] at last
  omega

end Source

end AdventureVm
