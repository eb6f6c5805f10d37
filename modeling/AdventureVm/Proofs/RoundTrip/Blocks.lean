import AdventureVm.Definition.Sci0
import AdventureVm.Proofs.RoundTrip.Words

/-! A walk over the blocks of the first format finds what was put into them. -/

namespace AdventureVm

open ScriptDefinition (blockBytes)

/-- What follows a success goes on with its value. -/
@[simp] theorem quiet_ok_bind {α β : Type} (value : α) (next : α → Logged β) :
    Logged.quiet (.ok value) >>= next = next value := rfl

namespace Outline


variable {source : Source} {declared limit pos start : Nat} {outline extended : Outline}

/-- A block takes four bytes more than its body. -/
@[simp] theorem size_blockBytes (kind : BlockKind) (body : Bytes) :
    (blockBytes kind body).size = 4 + body.size := by
  simp [blockBytes]

/-- A kind is known by its code. -/
theorem ofWord?_toWord (kind : BlockKind) : BlockKind.ofWord? kind.toWord = some kind := by
  cases kind <;> rfl

/-- Only a terminator has the code of a terminator. -/
theorem toWord_ne_terminator {kind : BlockKind} (other : kind ≠ .terminator) :
    kind.toWord ≠ BlockKind.terminator.toWord := by
  cases kind <;> first | exact absurd rfl other | decide

section Walk

variable {number : UInt16} {bytes more : Bytes}

/-- A walk goes on behind a block with what it found in the block. -/
theorem walkBlocks_block {kind : BlockKind} {body : Bytes} (small : bytes.size < 65536)
    (carries : Carries bytes pos (blockBytes kind body)) (other : kind ≠ .terminator)
    (found : addBlock ⟨number, bytes ++ more⟩ declared outline kind (pos + 4)
      (pos + 4 + body.size) = pure extended) :
    walkBlocks ⟨number, bytes ++ more⟩ declared bytes.size pos outline =
      walkBlocks ⟨number, bytes ++ more⟩ declared bytes.size
        (pos + (blockBytes kind body).size) extended := by
  have inside := carries.bound
  have header := carries.before more
  rw [size_blockBytes] at inside ⊢
  rw [blockBytes, Carries.append] at header
  -- The header holds the kind and the size of the block, and both are read back.
  obtain ⟨code, size, _⟩ := header.1.values
  rw [UInt16.ofNat_toNat] at code
  have toNat := toNat_word (show 4 + body.size < 65536 by omega)
  have fits : ¬ (4 + body.size < 4 ∨ pos + (4 + body.size) > bytes.size) := by omega
  rw [Nat.add_assoc] at found
  rw [walkBlocks, dif_pos (by omega), Source.wordBefore_of code _ (by omega),
    Source.wordBefore_of size _ (by omega)]
  simp only [quiet_ok_bind, if_neg (toWord_ne_terminator other), toNat, dif_neg fits,
    ofWord?_toWord, found, pure_bind]

/-- A block may be left out when it would add nothing. -/
theorem walkBlocks_optional {absent : Bool} {kind : BlockKind} {body : Bytes}
    (small : bytes.size < 65536)
    (carries : Carries bytes pos (if absent then #[] else blockBytes kind body))
    (other : kind ≠ .terminator) (nothing : absent = true → extended = outline)
    (found : Carries bytes (pos + 4) body →
      addBlock ⟨number, bytes ++ more⟩ declared outline kind (pos + 4) (pos + 4 + body.size) =
        pure extended) :
    walkBlocks ⟨number, bytes ++ more⟩ declared bytes.size pos outline =
      walkBlocks ⟨number, bytes ++ more⟩ declared bytes.size
        (pos + (if absent then #[] else blockBytes kind body).size) extended := by
  -- A block that is left out takes no bytes.
  cases absent with
  | true =>
    rw [nothing rfl]
    rfl
  | false =>
    have parts := carries
    rw [if_neg Bool.false_ne_true, blockBytes, Carries.append, size_plainBytes] at parts
    exact walkBlocks_block small carries other (found parts.2)

/-- A walk ends at a terminator. -/
theorem walkBlocks_terminator
    (carries : Carries bytes pos (plainBytes [BlockKind.terminator.toWord.toNat])) :
    walkBlocks ⟨number, bytes ++ more⟩ declared bytes.size pos outline = pure outline := by
  -- The code of the block is read where the walk stands, and it is the one that ends it.
  have inside := carries.bound
  rw [size_plainBytes, List.length_singleton, Nat.mul_one] at inside
  obtain ⟨code, _⟩ := (carries.before more).values
  rw [UInt16.ofNat_toNat] at code
  rw [walkBlocks, dif_pos inside, Source.wordBefore_of code _ inside]
  simp only [quiet_ok_bind, if_true]

end Walk

/-- A table with the number of its words in front of it is read. -/
theorem read_counted {words : List UInt16}
    (has : HasWords source.data start (UInt16.ofNat words.length :: words))
    (small : words.length < 65536) (inside : start + 2 + 2 * words.length ≤ limit)
    (field more : String) :
    source.wordBefore limit start field = .ok (UInt16.ofNat words.length) ∧
      source.tableBefore limit (start + 2) (UInt16.ofNat words.length).toNat more =
        .ok words.toArray := by
  -- The count is read first, and the words begin behind it.
  rw [toNat_word small]
  exact ⟨Source.wordBefore_of has.1 _ (by omega), Source.tableBefore_of has.2 _ inside⟩

/-- An export block adds its words to the exports. -/
theorem addBlock_exports {cells : List Cell}
    (carries : Carries source.data start (plainBytes [cells.length] ++ Cell.bytes cells))
    (small : cells.length < 65536) :
    addBlock source declared outline .exports start
        (start + (plainBytes [cells.length] ++ Cell.bytes cells).size) =
      pure { outline with exports := outline.exports ++ (cells.map (·.word)).toArray } := by
  rw [Carries.append] at carries
  have length : (cells.map (·.word)).length = cells.length := List.length_map _
  -- The count and the words after it form one row.
  have has : HasWords source.data start
      (UInt16.ofNat (cells.map (·.word)).length :: cells.map (·.word)) := by
    rw [length]
    exact ⟨carries.1.values.1, carries.2.words⟩
  obtain ⟨count, table⟩ := read_counted has (by omega) (Nat.le_refl _) "export count" "export table"
  rw [Array.size_append, size_plainBytes, Cell.size_bytes, List.length_singleton, ← length,
    Nat.mul_one, ← Nat.add_assoc]
  simp only [addBlock, count, table, quiet_ok_bind]

/-- A relocation block adds its values to the offsets of addresses. -/
theorem addBlock_pointers {values : List Nat}
    (carries : Carries source.data start (plainBytes (values.length :: values)))
    (small : values.length < 65536) (each : ∀ value ∈ values, value < 65536) :
    addBlock source declared outline .pointers start
        (start + (plainBytes (values.length :: values)).size) =
      pure { outline with relocations := outline.relocations ++ values.toArray } := by
  have length : (values.map UInt16.ofNat).length = values.length := List.length_map _
  have has : HasWords source.data start
      (UInt16.ofNat (values.map UInt16.ofNat).length :: values.map UInt16.ofNat) := by
    rw [length]
    exact carries.values
  obtain ⟨count, table⟩ :=
    read_counted has (by omega) (Nat.le_refl _) "relocation count" "relocation table"
  -- A value that fits a word comes back.
  have same : ∀ value ∈ values, (UInt16.toNat ∘ UInt16.ofNat) value = id value :=
    fun value member => toNat_word (each value member)
  have back : (values.map UInt16.ofNat).map UInt16.toNat = values := by
    rw [List.map_map, List.map_congr_left same, List.map_id]
  rw [size_plainBytes, List.length_cons, ← length, Nat.mul_add, Nat.mul_one, Nat.add_comm _ 2,
    ← Nat.add_assoc]
  simp only [addBlock, count, table, quiet_ok_bind, List.map_toArray, back]

/-- The words of synonyms. -/
def synonymWords (synonyms : List Synonym) : List UInt16 :=
  synonyms.flatMap fun synonym => [synonym.replaced, synonym.replacement]

/-- The two words of a synonym are where its index says. -/
theorem word?_synonymWords {data : Bytes} {synonyms : List Synonym}
    (has : HasWords data start (synonymWords synonyms)) (index : Nat)
    (small : index < synonyms.length) :
    word? data (start + 4 * index) = some synonyms[index].replaced ∧
      word? data (start + 4 * index + 2) = some synonyms[index].replacement := by
  induction synonyms generalizing start index with
  | nil => exact absurd small (Nat.not_lt_zero _)
  | cons synonym synonyms ih =>
    obtain ⟨first, second, rest⟩ := has
    -- Each synonym takes two words, so the later ones are four bytes further on.
    cases index with
    | zero => exact ⟨first, second⟩
    | succ index =>
      have later := ih rest index (by simpa using small)
      rw [show start + 4 * (index + 1) = start + 2 + 2 + 4 * index by omega]
      exact later

/-- A synonym block adds its pairs to the synonyms. -/
theorem addBlock_synonyms {synonyms : List Synonym}
    (has : HasWords source.data start (synonymWords synonyms)) :
    addBlock source declared outline .synonyms start (start + 4 * synonyms.length) =
      pure { outline with synonyms := outline.synonyms ++ synonyms.toArray } := by
  have count : (start + 4 * synonyms.length - start) / 4 = synonyms.length := by omega
  have pairs : synonymsIn source start (start + 4 * synonyms.length) = .ok synonyms.toArray := by
    rw [synonymsIn, count]
    refine bind_eq_ok.mpr ⟨synonyms, ?_, rfl⟩
    -- Each pair of words is read by itself.
    rw [mapM_eq_ok, List.forall₂_iff_get]
    refine ⟨by simp, ?_⟩
    intro index _ small
    obtain ⟨replaced, replacement⟩ := word?_synonymWords has index small
    simp only [List.get_eq_getElem, List.getElem_range]
    rw [Source.wordBefore_of replaced _ (by omega), Source.wordBefore_of replacement _ (by omega)]
    rfl
  simp only [addBlock, pairs, quiet_ok_bind]

/-- A block with the declared number of local variables gives all of them their values. -/
theorem addBlock_localVars {cells : List Cell}
    (carries : Carries source.data start (Cell.bytes cells))
    (all : outline.locals.size = cells.length) :
    addBlock source cells.length outline .localVars start (start + (Cell.bytes cells).size) =
      pure { outline with
        locals := (cells.map fun cell => Address.number cell.word).toArray
        localsRange := some (start, start + 2 * cells.length) } := by
  have count : (start + 2 * cells.length - start) / 2 = cells.length := by omega
  have length : (cells.map (·.word)).length = cells.length := List.length_map _
  have table := Source.tableBefore_of carries.words "locals" (Nat.le_refl _)
  rw [length] at table
  have stored : (cells.map (·.word)).toArray.size = cells.length := by simp
  -- No variable is left without a value.
  have rest : outline.locals.extract cells.length outline.locals.size = #[] :=
    Array.extract_empty_of_stop_le_start (Nat.le_of_eq all)
  simp only [addBlock, Cell.size_bytes, count, Nat.min_self, if_neg (Nat.lt_irrefl cells.length),
    table, quiet_ok_bind, gt_iff_lt]
  rw [stored, rest, Array.append_empty, List.map_toArray, List.map_map]
  rfl

end Outline

end AdventureVm
