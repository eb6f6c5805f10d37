import AdventureVm.Definition.Basic
import AdventureVm.Proofs.Memory.Outcomes
import AdventureVm.Script.Outline
import Mathlib.Data.List.Forall2

/-! Words and tables come back out of the buffer that they were put into. -/

namespace AdventureVm

/-- A number below 65536 is the number of its word. -/
theorem toNat_word {number : Nat} (small : number < 65536) :
    (UInt16.ofNat number).toNat = number :=
  UInt16.toNat_ofNat_of_lt' small

/-- What follows a success goes on with its value. -/
theorem ok_bind {ε α β : Type} (value : α) (next : α → Except ε β) :
    Except.ok value >>= next = next value := rfl

/-- A result that is changed was there before. -/
theorem map_eq_ok {ε α β : Type} {first : Except ε α} {change : α → β} {result : β} :
    first.map change = .ok result ↔ ∃ value, first = .ok value ∧ change value = result := by
  -- By the result before the change.
  cases first with
  | error fault => simp [Except.map]
  | ok value => simp [Except.map]

/-- Work on a list succeeds when the work on each of its members does. -/
theorem mapM_eq_ok {ε α β : Type} {work : α → Except ε β} {items : List α} {results : List β} :
    items.mapM work = .ok results ↔
      List.Forall₂ (fun item result => work item = .ok result) items results := by
  -- The results are taken apart with the items, so they stay quantified over.
  induction items generalizing results with
  | nil => simp [pure, Except.pure, eq_comm]
  | cons item items ih =>
    rw [List.mapM_cons, bind_eq_ok, List.forall₂_cons_left_iff]
    constructor
    · intro given
      obtain ⟨first, done, rest⟩ := given
      obtain ⟨others, later, result⟩ := bind_eq_ok.mp rest
      cases result
      exact ⟨first, others, done, ih.mp later, rfl⟩
    · intro given
      obtain ⟨first, others, done, later, rfl⟩ := given
      exact ⟨first, done, bind_eq_ok.mpr ⟨others, ih.mpr later, rfl⟩⟩

/-- Work on a list that succeeds, seen as a list of what each piece of the work was about. -/
theorem exists_of_mapM {ε α β γ : Type} {work : α → Except ε β} {items : List α}
    {results : List β} (left : γ → α) (right : γ → β) (good : γ → Prop)
    (done : items.mapM work = .ok results)
    (each : ∀ item result, work item = .ok result →
      ∃ piece, left piece = item ∧ right piece = result ∧ good piece) :
    ∃ pieces : List γ, pieces.map left = items ∧ pieces.map right = results ∧
      ∀ piece ∈ pieces, good piece := by
  have pairs := mapM_eq_ok.mp done
  clear done
  -- The pieces are collected along the pairs of items and results.
  induction pairs with
  | nil => exact ⟨[], rfl, rfl, by simp⟩
  | cons pair _ ih =>
    obtain ⟨piece, rfl, rfl, fine⟩ := each _ _ pair
    obtain ⟨pieces, rfl, rfl, others⟩ := ih
    exact ⟨piece :: pieces, rfl, rfl, List.forall_mem_cons.mpr ⟨fine, others⟩⟩

/-- A buffer holds some bytes from a start on. -/
structure Carries (data : Bytes) (start : Nat) (part : Bytes) : Prop where
  /-- The bytes end inside the buffer. -/
  bound : start + part.size ≤ data.size
  /-- They are there in their order. -/
  same : ∀ index, index < part.size → data[start + index]? = part[index]?

namespace Carries

variable {data front back part : Bytes} {start : Nat}

/-- A buffer holds itself. -/
theorem self (data : Bytes) : Carries data 0 data := by
  -- Every byte is at its own place.
  refine ⟨by omega, ?_⟩
  intro index _
  rw [Nat.zero_add]

/-- A place can be reckoned in different ways. -/
theorem move {other : Nat} (carries : Carries data start part) (same : start = other) :
    Carries data other part :=
  same ▸ carries

/-- Two parts in a row are two parts, the second of which starts where the first one ends. -/
theorem append :
    Carries data start (front ++ back) ↔
      Carries data start front ∧ Carries data (start + front.size) back := by
  constructor
  · -- Cut in two, each part keeps its bytes.
    intro given
    obtain ⟨bound, same⟩ := given
    rw [Array.size_append] at bound same
    refine ⟨⟨by omega, ?_⟩, ⟨by omega, ?_⟩⟩
    · intro index inside
      rw [same index (by omega), Array.getElem?_append_left inside]
    · intro index inside
      rw [Nat.add_assoc, same _ (by omega), Array.getElem?_append_right (by omega),
        Nat.add_sub_cancel_left]
  · intro given
    obtain ⟨first, second⟩ := given
    have bound := second.bound
    refine ⟨by rw [Array.size_append]; omega, ?_⟩
    intro index inside
    rw [Array.size_append] at inside
    -- An index belongs to the first part, or it counts on into the second one.
    by_cases early : index < front.size
    · rw [first.same index early, Array.getElem?_append_left early]
    · rw [Array.getElem?_append_right (by omega), ← second.same _ (by omega)]
      congr 1
      omega

/-- What follows a buffer does not touch what it holds. -/
theorem before (carries : Carries data start part) (more : Bytes) :
    Carries (data ++ more) start part := by
  -- Places inside of the first buffer are places in front of what follows.
  have bound := carries.bound
  refine ⟨by rw [Array.size_append]; omega, ?_⟩
  intro index inside
  rw [Array.getElem?_append_left (by omega), carries.same index inside]

/-- What comes in front of a buffer moves what it holds. -/
theorem after (carries : Carries data start part) (more : Bytes) :
    Carries (more ++ data) (more.size + start) part := by
  -- Every place moves by the size of what comes in front.
  have bound := carries.bound
  refine ⟨by rw [Array.size_append]; omega, ?_⟩
  intro index inside
  rw [Nat.add_assoc, Array.getElem?_append_right (by omega), Nat.add_sub_cancel_left,
    carries.same index inside]

/-- The bytes can be cut out of the buffer. -/
theorem extract (carries : Carries data start part) :
    data.extract start (start + part.size) = part := by
  -- Inside of the range the bytes agree, past it both have none.
  have bound := carries.bound
  apply Array.ext_getElem?
  intro index
  by_cases inside : index < part.size
  · rw [Array.getElem?_extract, if_pos (by omega), carries.same index inside]
  · rw [Array.getElem?_eq_none (by rw [Array.size_extract]; omega),
      Array.getElem?_eq_none (by omega)]

/-- What is left of the buffer from the start on are the bytes and what comes after them. -/
theorem rest (carries : Carries data start part) : data.extract start data.size =
    part ++ data.extract (start + part.size) data.size := by
  -- What is left is cut in two where the bytes end.
  have bound := carries.bound
  have pieces : data.extract start (start + part.size) ++
      data.extract (start + part.size) data.size = data.extract start data.size := by
    rw [Array.extract_append_extract, Nat.min_eq_left (by omega), Nat.max_eq_right bound]
  rw [← pieces, carries.extract]

end Carries

/-- Parts that are put together one by one are put together from the first on. -/
theorem foldl_append_eq (front : Bytes) (parts : List Bytes) :
    parts.foldl (· ++ ·) front = front ++ parts.foldl (· ++ ·) #[] := by
  -- Induction on the parts that are still to come.
  induction parts generalizing front with
  | nil => simp
  | cons part parts ih =>
    rw [List.foldl_cons, List.foldl_cons, ih (front ++ part), ih (#[] ++ part)]
    simp

/-- The size of parts that are put together is the sum of their sizes. -/
theorem size_foldl_append (parts : List Bytes) :
    (parts.foldl (· ++ ·) #[]).size = totalSize (parts.map (·.size)) := by
  -- Induction on the parts.
  induction parts with
  | nil => rfl
  | cons part parts ih =>
    rw [List.foldl_cons, foldl_append_eq, List.map_cons, totalSize, ← ih]
    simp

/-- Each of the parts that are put together is where the sizes of those before it lead to. -/
theorem Carries.parts {data : Bytes} {start : Nat} {parts : List Bytes}
    (carries : Carries data start (parts.foldl (· ++ ·) #[])) :
    List.Forall₂ (Carries data) (running start (parts.map (·.size))) parts := by
  -- Induction on the parts; each starts where the ones before it end.
  induction parts generalizing start with
  | nil => exact .nil
  | cons part parts ih =>
    rw [List.foldl_cons, foldl_append_eq, Array.empty_append, Carries.append] at carries
    exact .cons carries.1 (ih carries.2)

/-- A buffer holds some words from a start on. -/
def HasWords (data : Bytes) : Nat → List UInt16 → Prop
  | start, [] => start ≤ data.size
  | start, word :: words => word? data start = some word ∧ HasWords data (start + 2) words

/-- A word that can be read ends inside the buffer. -/
theorem bound_of_word? {data : Bytes} {offset : Nat} {word : UInt16}
    (read : word? data offset = some word) : offset + 2 ≤ data.size := by
  -- Its second byte is in the buffer.
  unfold word? at read
  split at read
  · rename_i found
    obtain ⟨inside, _⟩ := Array.getElem?_eq_some_iff.mp found
    omega
  · cases read

namespace HasWords

variable {data : Bytes} {start : Nat} {words : List UInt16}

/-- The words end inside the buffer. -/
theorem bound (has : HasWords data start words) : start + 2 * words.length ≤ data.size := by
  -- Induction on the words.
  induction words generalizing start with
  | nil => simpa [HasWords] using has
  | cons word words ih =>
    have later := ih has.2
    rw [List.length_cons]
    omega

/-- Each word of a row can be read. -/
theorem word?_eq (has : HasWords data start words) (index : Nat) (inside : index < words.length) :
    word? data (start + 2 * index) = some words[index] := by
  induction words generalizing start index with
  | nil => exact absurd inside (by simp)
  | cons word words ih =>
    -- The words after the first are a row that starts two bytes further on.
    cases index with
    | zero => exact has.1
    | succ index =>
      have later := ih has.2 index (by simpa using inside)
      rw [show start + 2 * (index + 1) = start + 2 + 2 * index by omega, later]
      rfl

/-- A word that a row has at an index can be read. -/
theorem word?_of_getElem? {index : Nat} {word : UInt16} (has : HasWords data start words)
    (listed : words[index]? = some word) : word? data (start + 2 * index) = some word := by
  -- Words are read by their index.
  obtain ⟨inside, rfl⟩ := List.getElem?_eq_some_iff.mp listed
  exact has.word?_eq index inside

end HasWords

namespace Cell

/-- A row of words takes two bytes for each. -/
@[simp] theorem size_bytes (cells : List Cell) : (bytes cells).size = 2 * cells.length := by
  -- Induction on the words.
  induction cells with
  | nil => rfl
  | cons cell cells ih =>
    simp only [bytes, List.size_toArray] at ih
    simp only [bytes, List.flatMap_cons, List.size_toArray, List.length_append, ih,
      List.length_cons, List.length_nil]
    omega

/-- Rows of words are put together by their bytes. -/
theorem bytes_append (front back : List Cell) :
    bytes (front ++ back) = bytes front ++ bytes back := by
  simp [bytes]

/-- Rows of words that follow each other are put together by their bytes. -/
theorem bytes_flatten (rows : List (List Cell)) :
    bytes rows.flatten = (rows.map bytes).foldl (· ++ ·) #[] := by
  -- Induction on the rows.
  induction rows with
  | nil => rfl
  | cons row rows ih =>
    rw [List.flatten_cons, bytes_append, ih, List.map_cons, List.foldl_cons,
      foldl_append_eq (#[] ++ bytes row), Array.empty_append]

/-- The bytes of a first word come first. -/
theorem bytes_cons (cell : Cell) (cells : List Cell) :
    bytes (cell :: cells) = wordBytes cell.word ++ bytes cells := by
  simp [bytes, wordBytes]

/-- Words without an address are as many as their values. -/
@[simp] theorem length_plain (values : List Nat) : (plain values).length = values.length := by
  simp [plain]

/-- The words of values. -/
theorem map_word_plain (values : List Nat) :
    (plain values).map (·.word) = values.map UInt16.ofNat := by
  simp [plain]

end Cell

/-- Values take two bytes each. -/
@[simp] theorem size_plainBytes (values : List Nat) :
    (plainBytes values).size = 2 * values.length := by
  simp [plainBytes]

/-- Values are put together by their bytes. -/
theorem plainBytes_append (front back : List Nat) :
    plainBytes (front ++ back) = plainBytes front ++ plainBytes back := by
  simp [plainBytes, Cell.plain, Cell.bytes_append]

namespace Carries

variable {data : Bytes} {start : Nat}

/-- The two bytes of a word are read as that word. -/
theorem word? {word : UInt16} (carries : Carries data start (wordBytes word)) :
    AdventureVm.word? data start = some word := by
  -- The low byte comes first, the high one after it.
  have low := carries.same 0 (by simp [wordBytes])
  have high := carries.same 1 (by simp [wordBytes])
  rw [Nat.add_zero] at low
  rw [AdventureVm.word?, low, high]
  simp [wordBytes]

/-- The bytes of a row of words are read as those words. -/
theorem words {cells : List Cell} (carries : Carries data start (Cell.bytes cells)) :
    HasWords data start (cells.map (·.word)) := by
  -- Induction on the words, each of which takes the two bytes in front.
  induction cells generalizing start with
  | nil => simpa [HasWords] using carries.bound
  | cons cell cells ih =>
    rw [Cell.bytes_cons, Carries.append] at carries
    exact ⟨carries.1.word?, ih carries.2⟩

/-- The bytes of a row of values are read as the words of the values. -/
theorem values {values : List Nat} (carries : Carries data start (plainBytes values)) :
    HasWords data start (values.map UInt16.ofNat) := by
  -- A row of values is a row of words that are no addresses.
  have words := carries.words
  rwa [Cell.map_word_plain] at words

end Carries

/-- A list is what its indices lead to. -/
theorem filterMap_getElem? {α : Type} (items : List α) :
    (List.range items.length).filterMap (items[·]?) = items := by
  -- Induction on the list; the indices of the rest are those of the list, shifted.
  induction items with
  | nil => rfl
  | cons item items ih =>
    rw [List.length_cons, List.range_succ_eq_map, List.filterMap_cons]
    simp [List.filterMap_map, ih]

namespace Source

variable {source : Source} {offset limit : Nat} {value : UInt16}

/-- A word that is there can be read. -/
theorem word_of (read : word? source.data offset = some value) (field : String) :
    source.word offset field = .ok value := by
  rw [Source.word, read]

/-- A word that is there can be read if it ends before the limit. -/
theorem wordBefore_of (read : word? source.data offset = some value) (field : String)
    (inside : offset + 2 ≤ limit) : source.wordBefore limit offset field = .ok value := by
  rw [Source.wordBefore, if_neg (by omega), read]

/-- A table that is there can be read if it ends before the limit. -/
theorem table_of {start : Nat} {words : List UInt16} (has : HasWords source.data start words)
    (field : String) (inside : start + 2 * words.length ≤ limit) :
    source.table start words.length limit field = .ok words.toArray := by
  have bound := has.bound
  have fits : ¬ start + 2 * words.length > min limit source.data.size := by omega
  simp only [Source.table, if_neg fits]
  -- Every index below the number of words gives the word of that index.
  have each : ((List.range words.length).filterMap fun index =>
      word? source.data (start + 2 * index)) = (List.range words.length).filterMap (words[·]?) := by
    apply List.filterMap_congr
    intro index member
    have small := List.mem_range.mp member
    rw [has.word?_eq index small, List.getElem?_eq_getElem small]
  congr 1
  apply Array.ext'
  simp [each, filterMap_getElem?]

/-- A table that is there can be read word by word if it ends before the limit. -/
theorem tableBefore_of {start : Nat} {words : List UInt16}
    (has : HasWords source.data start words) (field : String)
    (inside : start + 2 * words.length ≤ limit) :
    source.tableBefore limit start words.length field = .ok words.toArray := by
  -- The table is read word by word, and each word lies before the limit.
  have each : (List.range words.length).mapM (fun index =>
      source.wordBefore limit (start + 2 * index) field) = .ok words := by
    rw [mapM_eq_ok, List.forall₂_iff_get]
    refine ⟨by simp, ?_⟩
    intro index _ small
    simp only [List.get_eq_getElem, List.getElem_range]
    exact wordBefore_of (has.word?_eq index small) field (by omega)
  rw [Source.tableBefore, each]
  rfl

end Source

namespace Object

variable {source : Source}

/-- A record that opens with the word that marks objects passes for one. -/
theorem checkMagic_of {offset : Nat} (read : word? source.data offset = some objectMagic) :
    checkMagic source offset = .ok () := by
  rw [checkMagic, Source.word_of read]
  rfl

/-- A record with enough properties passes for an object. -/
theorem checkCount_of {layout : Layout} {count : Nat} (enough : layout.minProperties ≤ count) :
    checkCount source layout count = .ok () := by
  rw [checkCount, if_neg (by omega)]

end Object

end AdventureVm
