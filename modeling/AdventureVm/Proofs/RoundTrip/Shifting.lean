import AdventureVm.Proofs.RoundTrip.Relocation

/-! The script part of the second format, whose exports of objects are moved to the heap part. -/

namespace AdventureVm

/-- A word whose address is moved. -/
def Cell.shifted (distance : Nat) (cell : Cell) : Cell :=
  { cell with word := if cell.isPointer then cell.word + UInt16.ofNat distance else cell.word }

/-- A byte in the middle of a buffer is replaced. -/
theorem setIfInBounds_append (front back : Bytes) (old new : UInt8) :
    (front ++ (#[old] ++ back)).setIfInBounds front.size new = front ++ (#[new] ++ back) := by
  apply Array.ext'
  simp

/-- A word in the middle of a buffer is replaced. -/
theorem setWord?_append (front back : Bytes) (old new : UInt16) :
    setWord? (front ++ (wordBytes old ++ back)) front.size new =
      some (front ++ (wordBytes new ++ back)) := by
  have inside : front.size + (wordBytes new).size ≤ (front ++ (wordBytes old ++ back)).size := by
    simp [wordBytes]
  have parts : ∀ word : UInt16, wordBytes word = #[lowByte word] ++ #[highByte word] :=
    fun _ => rfl
  rw [setWord?, splice?, if_pos inside, parts old, parts new]
  -- The low byte comes first, then the high byte with the low one in front of it.
  have low := setIfInBounds_append front (#[highByte old] ++ back) (lowByte old) (lowByte new)
  have high := setIfInBounds_append (front ++ #[lowByte new]) back (highByte old) (highByte new)
  simp only [Array.append_assoc, Array.size_append] at low high ⊢
  simp only [overwrite, Array.toList_append, List.cons_append, List.nil_append, low]
  exact congrArg some high

/-- Moving the address that an entry of the relocation table names. -/
def shiftWord (scriptSize heapStart table : Nat) (source : Source) (index : Nat) :
    Except Fault Source := do
  let target := (← source.wordBefore scriptSize (table + 2 + 2 * index) "relocation table").toNat
  let value ← source.wordBefore scriptSize target "relocated word"
  let data := (setWord? source.data target (value + UInt16.ofNat heapStart)).getD source.data
  return { source with data }

/-- Moving all addresses is moving one after the other. -/
theorem shiftWords_eq (source : Source) (scriptSize heapStart table count : Nat) :
    Outline.shiftWords source scriptSize heapStart table count =
      (List.range count).foldlM (shiftWord scriptSize heapStart table) source := rfl

/-- Moving an address replaces its word. -/
theorem shiftWord_eq {number : UInt16} {scriptSize heapStart table index : Nat} {front back : Bytes}
    {word : UInt16}
    (entry : word? (front ++ (wordBytes word ++ back)) (table + 2 + 2 * index) =
      some (UInt16.ofNat front.size))
    (inside : table + 2 + 2 * index + 2 ≤ scriptSize) (before : front.size + 2 ≤ scriptSize)
    (small : front.size < 65536) :
    shiftWord scriptSize heapStart table ⟨number, front ++ (wordBytes word ++ back)⟩ index =
      .ok ⟨number, front ++ (wordBytes (word + UInt16.ofNat heapStart) ++ back)⟩ := by
  -- The entry of the table leads to the word, which is read and written back moved.
  have value := (((Carries.self (wordBytes word)).before back).after front).word?
  refine bind_eq_ok.mpr ⟨_, Source.wordBefore_of entry _ inside, ?_⟩
  rw [toNat_word small]
  refine bind_eq_ok.mpr ⟨_, Source.wordBefore_of value _ before, ?_⟩
  simp only [setWord?_append, Option.getD_some]
  rfl

/--
Moving the addresses in a row of words.

A table behind the row lists their offsets; the part of it that belongs to the row is at hand.
-/
theorem foldlM_shiftWord {number : UInt16} {scriptSize heapStart table index : Nat} (start : Nat)
    (front back : Bytes) (cells : List Cell)
    (listed : Carries back start (plainBytes (Cell.pointers front.size cells)))
    (position : table + 2 + 2 * index = front.size + (2 * cells.length + start))
    (inside : table + 2 + 2 * (index + (Cell.pointers front.size cells).length) ≤ scriptSize)
    (small : front.size + 2 * cells.length < 65536) :
    (List.range' index (Cell.pointers front.size cells).length).foldlM
        (shiftWord scriptSize heapStart table) ⟨number, front ++ (Cell.bytes cells ++ back)⟩ =
      .ok ⟨number, front ++ (Cell.bytes (cells.map (Cell.shifted heapStart)) ++ back)⟩ := by
  induction cells generalizing front index start with
  | nil => rfl
  | cons cell cells ih =>
    rw [List.length_cons] at position small
    -- The row goes on behind this word, whatever becomes of it.
    have next := fun (word : UInt16) (index start : Nat) =>
      @ih index start (front ++ wordBytes word)
    have size : ∀ word : UInt16, (front ++ wordBytes word).size = front.size + 2 := by
      intro word
      simp [wordBytes]
    simp only [size, Array.append_assoc] at next
    rw [List.map_cons, Cell.bytes_cons, Cell.bytes_cons, Array.append_assoc, Array.append_assoc]
    simp only [Cell.pointers] at listed inside ⊢
    by_cases pointer : cell.isPointer = true
    · rw [if_pos pointer] at listed inside ⊢
      rw [List.length_cons] at inside ⊢
      rw [← List.singleton_append, plainBytes_append, Carries.append] at listed
      -- The table names this word.
      have behind := ((listed.1.after (Cell.bytes cells)).after (wordBytes cell.word)).after front
      have same : front.size + ((wordBytes cell.word).size + ((Cell.bytes cells).size + start)) =
          table + 2 + 2 * index := by
        rw [Cell.size_bytes, position]
        simp only [wordBytes, List.size_toArray, List.length_cons, List.length_nil]
        omega
      have entry := (behind.move same).values.1
      rw [List.range'_succ, List.foldlM_cons, shiftWord_eq entry (by omega) (by omega) (by omega),
        Cell.shifted, if_pos pointer]
      exact next _ (index + 1) (start + 2) listed.2 (by omega) (by omega) (by omega)
    · rw [if_neg pointer] at listed inside ⊢
      -- A word that is no pointer is not listed, so the table is not read for it.
      rw [Cell.shifted, if_neg pointer]
      exact next cell.word index start listed (by omega) inside (by omega)

end AdventureVm
