import AdventureVm.Kernel.Table
import AdventureVm.Proofs.Assembly.Emitting
import AdventureVm.Proofs.Lists.Calls
import AdventureVm.Proofs.RoundTrip.Words
import Mathlib.Data.List.TakeWhile

/-!
Comparing texts orders them as dictionaries do, byte by byte.

What is compared are lists of bytes without a zero among them. There a text that ends counts as one
that goes on with a zero, which is what puts it before every text that it begins.
-/

namespace AdventureVm

section Bytes

/-- The bytes that a limit leaves of a text, or all of them. -/
def firstBytes (limit : Option UInt16) (text : Bytes) : List UInt8 :=
  limit.elim text.toList fun limit => text.toList.take limit.toNat

/-- The difference of the first bytes that differ; a text that ends goes on with a zero. -/
def byteDifference : List UInt8 → List UInt8 → Int
  | [], [] => 0
  | [], byte :: _ => -byte.toNat
  | byte :: _, [] => byte.toNat
  | first :: left, second :: right =>
    if first = second then byteDifference left right else first.toNat - second.toNat

/-- The first of so many differences that is not zero, or zero. -/
def leading (difference : Nat → Int) (count : Nat) : Int :=
  (((List.range count).find? fun index => difference index ≠ 0).map difference).getD 0

variable {left right : List UInt8} {first second : UInt8}

/-- The first difference is the one at the start, or the first one after it. -/
theorem leading_succ (difference : Nat → Int) (count : Nat) :
    leading difference (count + 1) =
      if difference 0 = 0 then leading (fun index => difference (index + 1)) count
      else difference 0 := by
  unfold leading
  -- The places after the first one are those of a count that is less by one, moved up.
  rw [List.range_succ_eq_map, List.find?_cons]
  by_cases same : difference 0 = 0
  · simp only [same, ne_eq, not_true_eq_false, decide_false, if_true, List.find?_map,
      Option.map_map]
    rfl
  · simp [same]

/-- Bytes are equal when their numbers do not differ. -/
theorem toNat_sub_eq_zero : (first.toNat : Int) - second.toNat = 0 ↔ first = second := by
  -- A byte is determined by its number.
  rw [← UInt8.toNat_inj]
  omega

/-- A text without zeros starts with a byte that is not zero, and goes on without zeros. -/
theorem clean_cons (clean : 0 ∉ first :: left) : first.toNat ≠ 0 ∧ 0 ∉ left := by
  rw [List.mem_cons, not_or] at clean
  exact ⟨fun none => clean.1 (UInt8.toNat_inj.mp none).symm, clean.2⟩

/-- Texts without zeros that are compared up to some place have their first bytes compared. -/
theorem leading_eq (cleanLeft : 0 ∉ left) (cleanRight : 0 ∉ right) (count : Nat) :
    leading (fun index => ((left.getD index 0).toNat : Int) - (right.getD index 0).toNat) count =
      byteDifference (left.take count) (right.take count) := by
  -- What is compared after the first bytes are the rests of both texts.
  induction count generalizing left right with
  | zero => rfl
  | succ count ih =>
    rw [leading_succ]
    cases left with
    | nil =>
      cases right with
      | nil => simpa [byteDifference] using ih cleanLeft cleanRight
      | cons second right => simp [byteDifference, (clean_cons cleanRight).1]
    | cons first left =>
      cases right with
      | nil => simp [byteDifference, (clean_cons cleanLeft).1]
      | cons second right =>
        simp only [List.getD_cons_zero, List.getD_cons_succ, List.take_succ_cons, byteDifference,
          toNat_sub_eq_zero]
        split
        · exact ih (clean_cons cleanLeft).2 (clean_cons cleanRight).2
        · rfl

/-- Texts without zeros have no difference exactly when they are equal. -/
theorem byteDifference_eq_zero (cleanLeft : 0 ∉ left) (cleanRight : 0 ∉ right) :
    byteDifference left right = 0 ↔ left = right := by
  -- Where one text ends, the other has a byte, which is not zero.
  fun_induction byteDifference left right with
  | case1 => simp
  | case2 second right => simp [(clean_cons cleanRight).1]
  | case3 first left => simp [(clean_cons cleanLeft).1]
  | case4 left first right ih =>
    rw [ih (clean_cons cleanLeft).2 (clean_cons cleanRight).2, List.cons.injEq,
      and_iff_right rfl]
  | case5 first left second right differ => simp [toNat_sub_eq_zero, differ]

/-- The difference is negative exactly when the first text comes first in the dictionary. -/
theorem byteDifference_neg (clean : 0 ∉ right) : byteDifference left right < 0 ↔ left < right := by
  -- A text that ends counts as zero, which lies below every byte of a clean text.
  fun_induction byteDifference left right with
  | case1 => simp
  | case2 second right => simp [Nat.pos_of_ne_zero (clean_cons clean).1]
  | case3 first left => simp
  | case4 left first right ih => simp [ih (clean_cons clean).2]
  | case5 first left second right differ =>
    rw [List.cons_lt_cons_iff, UInt8.lt_iff_toNat_lt]
    simp only [differ, false_and, or_false]
    omega

/-- The difference the other way round is the opposite number. -/
theorem byteDifference_comm (left right : List UInt8) :
    byteDifference right left = -byteDifference left right := by
  -- Equal bytes are passed over on both sides, and the first that differ decide.
  fun_induction byteDifference left right with
  | case1 => rfl
  | case2 second right => simp [byteDifference]
  | case3 first left => rfl
  | case4 left first right ih => rw [byteDifference, if_pos rfl, ih]
  | case5 first left second right differ =>
    rw [byteDifference, if_neg (Ne.symm differ)]
    omega

/-- The difference is one of two bytes. -/
theorem byteDifference_small (left right : List UInt8) :
    -256 < byteDifference left right ∧ byteDifference left right < 256 := by
  -- A text that ends counts as zero there, and equal bytes leave it to those that follow.
  fun_induction byteDifference left right with
  | case1 => decide
  | case2 second right =>
    have := second.toNat_lt
    omega
  | case3 first left =>
    have := first.toNat_lt
    omega
  | case4 left first right ih => exact ih
  | case5 first left second right differ =>
    have := first.toNat_lt
    have := second.toNat_lt
    omega

end Bytes

/-- What comparing texts up to a limit answers is the difference of the bytes within it. -/
theorem textDifference_eq {left right : Bytes} (cleanLeft : 0 ∉ left) (cleanRight : 0 ∉ right)
    (limit : Option UInt16) : textDifference left right (limit.map (·.toNat)) =
      byteDifference (firstBytes limit left) (firstBytes limit right) := by
  generalize longer : max left.size right.size = count
  -- Beyond the longer of the two texts there is nothing that a limit could leave out.
  have within (text : Bytes) (inside : text.size ≤ count) : firstBytes limit text =
      text.toList.take ((limit.map (·.toNat)).elim count (min count)) := by
    have whole : text.toList.take count = text.toList :=
      List.take_of_length_le (by rwa [Array.length_toList])
    cases limit with
    | none => exact whole.symm
    | some limit =>
      change text.toList.take limit.toNat = text.toList.take (min count limit.toNat)
      rw [Nat.min_comm, ← List.take_take, whole]
  have byte (text : Bytes) (index : Nat) : text.toList.getD index 0 = text.getD index 0 := by
    rw [Array.getD_eq_getD_getElem?, List.getD_eq_getElem?_getD, Array.getElem?_toList]
  rw [within left (by omega), within right (by omega),
    ← leading_eq (by simpa using cleanLeft) (by simpa using cleanRight)]
  simp only [textDifference, leading, byte, longer]

/-- The bytes before the first zero have no zero among them. -/
theorem clean_beforeZero (data : Bytes) : 0 ∉ beforeZero data := by
  -- What is taken goes on for as long as bytes are not zero.
  intro member
  rw [beforeZero, ← Array.mem_toList_iff, Array.toList_takeWhile] at member
  simpa using List.mem_takeWhile_imp member

/-- A text that is read from memory has no zeros. -/
theorem Heap.clean_of_readString {heap : Heap} {address : Address} {text : Bytes}
    (read : heap.readString address = .ok text) : 0 ∉ text := by
  -- A text ends before the first zero of its region.
  obtain ⟨region, -, rfl⟩ := map_eq_ok.mp read
  exact clean_beforeZero region

/-- The first bytes of a text without zeros are no zeros. -/
theorem clean_firstBytes {text : Bytes} (clean : 0 ∉ text) (limit : Option UInt16) :
    0 ∉ firstBytes limit text := by
  -- The first bytes are some of those of the text.
  intro member
  refine clean (Array.mem_toList_iff.mp ?_)
  cases limit with
  | none => exact member
  | some limit => exact List.mem_of_mem_take member

namespace KernelCall

/-- The call that compares the texts at two addresses, up to a limit if there is one. -/
def comparing (call : KernelCall) (left right : Address) (limit : Option UInt16) : KernelCall :=
  { call with builtin := .strCmp, arguments := left :: right :: (limit.map .number).toList }

/-- The argument at a position is the number that is there, if there is one. -/
theorem number?_eq {call : KernelCall} {index : Nat} {word : Option UInt16}
    (given : call.arguments[index]? = word.map .number) : call.number? index = pure word := by
  -- An argument that is left out is no number at all; one that is given is read.
  cases word with
  | none =>
    rw [Option.map_none, List.getElem?_eq_none_iff] at given
    rw [number?, if_neg (Nat.not_lt.mpr given)]
  | some word =>
    obtain ⟨inside, -⟩ := List.getElem?_eq_some_iff.mp given
    rw [number?, if_pos inside, number, argument_eq given]
    rfl

end KernelCall

namespace Store

/-- Reading a text answers what memory has there, and only the journal may say more afterwards. -/
theorem leads_readString (address : Address) (store : Store)
    (post : Except Fault Bytes → Store → Prop) :
    Leads (readString address) store post ↔
      post (store.heap.readString address) (store.record (store.heap.stringRecords address)) := by
  simp only [readString, leads_bind, StoreM.leads_read, either_ok, StoreM.leads_record,
    StoreM.leads_require, heap_record]

/-- The number that comparing two texts answers, if it answers one. -/
def comparison? (store : Store) (call : KernelCall) (limit : Option UInt16)
    (left right : Address) : Option Int :=
  ((call.comparing left right limit).run.run store).1.toOption.bind Address.toInt?

variable {store : Store} {call : KernelCall} {limit : Option UInt16} {left right : Address}

/-- Comparing two texts answers their difference, where both can be read. -/
theorem run_comparing :
    ((call.comparing left right limit).run.run store).1 = do
      let first ← store.heap.readString left
      let second ← store.heap.readString right
      return .ofInt (textDifference first second (limit.map (·.toNat))) := by
  have first : (call.comparing left right limit).argument 0 = pure left := rfl
  have second : (call.comparing left right limit).argument 1 = pure right := rfl
  have third : (call.comparing left right limit).number? 2 = pure limit :=
    KernelCall.number?_eq (by cases limit <;> rfl)
  have compared : Leads (call.comparing left right limit).strCmp store fun outcome _ =>
      outcome = do
        let first ← store.heap.readString left
        let second ← store.heap.readString right
        return .ofInt (textDifference first second (limit.map (·.toNat))) := by
    simp only [KernelCall.strCmp, first, second, third, pure_bind, leads_bind, leads_readString]
    -- The second text is read only if the first one can be.
    cases store.heap.readString left with
    | error fault => rfl
    | ok text =>
      simp only [either_ok, heap_record]
      cases store.heap.readString right with
      | error fault => rfl
      | ok text => rfl
  exact compared

/-- Two texts are compared exactly where both can be read, and then by their bytes. -/
theorem comparison?_eq_some {number : Int} :
    store.comparison? call limit left right = some number ↔
      ∃ first second, store.heap.readString left = .ok first ∧
        store.heap.readString right = .ok second ∧
        byteDifference (firstBytes limit first) (firstBytes limit second) = number := by
  rw [comparison?, run_comparing]
  cases read : store.heap.readString left with
  | error fault => simp [Bind.bind, Except.bind, Except.toOption]
  | ok first =>
    cases readToo : store.heap.readString right with
    | error fault => simp [Bind.bind, Except.bind, Except.toOption]
    | ok second =>
      -- The difference is small enough for the word that is answered.
      have small := byteDifference_small (firstBytes limit first) (firstBytes limit second)
      have answered : (Address.ofInt (byteDifference (firstBytes limit first)
          (firstBytes limit second))).toInt? =
            some (byteDifference (firstBytes limit first) (firstBytes limit second)) :=
        congrArg some (signedWord_wordOfInt (by omega) (by omega))
      have same := textDifference_eq (Heap.clean_of_readString read)
        (Heap.clean_of_readString readToo) limit
      simp [Bind.bind, Except.bind, Except.toOption, pure, Except.pure, answered, same]

/-- How two texts of memory compare, given what a limit leaves of them. -/
structure Ranks (store : Store) (call : KernelCall) (limit : Option UInt16) (left right : Address)
    (first second : List UInt8) (number : Int) : Prop where
  /-- Comparing them answers the number. -/
  answer : store.comparison? call limit left right = some number
  /-- Comparing them the other way round answers the opposite number. -/
  opposite : store.comparison? call limit right left = some (-number)
  /-- The number is zero exactly when the bytes are equal. -/
  equal : number = 0 ↔ first = second
  /-- The number is negative exactly when the first bytes come first in the dictionary. -/
  before : number < 0 ↔ first < second
  /-- The number is positive exactly when the second bytes come first in the dictionary. -/
  behind : 0 < number ↔ second < first

/-- Comparing the text at one address with the text at another one answers no positive number. -/
def IsOrdered (store : Store) (call : KernelCall) (limit : Option UInt16) (left right : Address) :
    Prop :=
  ∃ number, store.comparison? call limit left right = some number ∧ number ≤ 0

/-- Texts are ordered when both can be read and what the limit leaves of them is in order. -/
theorem isOrdered_iff : store.IsOrdered call limit left right ↔
    ∃ first second, store.heap.readString left = .ok first ∧
      store.heap.readString right = .ok second ∧
      firstBytes limit first ≤ firstBytes limit second := by
  have order {first second : Bytes} (read : store.heap.readString left = .ok first) :
      byteDifference (firstBytes limit first) (firstBytes limit second) ≤ 0 ↔
        firstBytes limit first ≤ firstBytes limit second := by
    -- The first text does not come after the second one.
    have clean := clean_firstBytes (Heap.clean_of_readString read) limit
    rw [← List.not_lt, ← byteDifference_neg clean, byteDifference_comm]
    omega
  constructor
  · rintro ⟨_, compared, ordered⟩
    obtain ⟨first, second, read, readToo, rfl⟩ := comparison?_eq_some.mp compared
    exact ⟨first, second, read, readToo, (order read).mp ordered⟩
  · rintro ⟨first, second, read, readToo, ordered⟩
    exact ⟨_, comparison?_eq_some.mpr ⟨first, second, read, readToo, rfl⟩, (order read).mpr ordered⟩

/-- Texts that can be read compare by what the limit leaves of them. -/
theorem ranks {first second : Bytes} (read : store.heap.readString left = .ok first)
    (readToo : store.heap.readString right = .ok second) :
    store.Ranks call limit left right (firstBytes limit first) (firstBytes limit second)
      (byteDifference (firstBytes limit first) (firstBytes limit second)) where
  -- What is read ends before its first zero, so all texts that are compared are clean.
  answer := comparison?_eq_some.mpr ⟨first, second, read, readToo, rfl⟩
  opposite := comparison?_eq_some.mpr ⟨second, first, readToo, read, byteDifference_comm _ _⟩
  equal := byteDifference_eq_zero (clean_firstBytes (Heap.clean_of_readString read) limit)
    (clean_firstBytes (Heap.clean_of_readString readToo) limit)
  before := byteDifference_neg (clean_firstBytes (Heap.clean_of_readString readToo) limit)
  behind := by
    rw [← byteDifference_neg (clean_firstBytes (Heap.clean_of_readString read) limit),
      byteDifference_comm]
    omega

/--
Comparing texts is comparing them as dictionaries do, up to a limit if there is one.

So it tells which of two texts comes first, and puts all texts of memory into one order.
-/
theorem texts_are_ordered (store : Store) (call : KernelCall) (limit : Option UInt16) :
    (∀ (left right : Address) (first second : Bytes), store.heap.readString left = .ok first →
      store.heap.readString right = .ok second →
      ∃ number, store.Ranks call limit left right (firstBytes limit first)
        (firstBytes limit second) number) ∧
    (∀ one two three, store.IsOrdered call limit one two → store.IsOrdered call limit two three →
      store.IsOrdered call limit one three) ∧
    ∀ (left right : Address) (first second : Bytes), store.heap.readString left = .ok first →
      store.heap.readString right = .ok second →
      store.IsOrdered call limit left right ∨ store.IsOrdered call limit right left := by
  refine ⟨fun _ _ _ _ read readToo => ⟨_, ranks read readToo⟩, ?_, ?_⟩
  · intro one two three ordered orderedToo
    obtain ⟨first, between, read, shared, le⟩ := isOrdered_iff.mp ordered
    obtain ⟨again, last, sharedToo, readToo, leToo⟩ := isOrdered_iff.mp orderedToo
    -- The text in the middle is the same for both.
    obtain rfl := Except.ok.inj (shared.symm.trans sharedToo)
    exact isOrdered_iff.mpr ⟨first, last, read, readToo, List.le_trans le leToo⟩
  · intro left right first second read readToo
    rcases List.le_total (firstBytes limit first) (firstBytes limit second) with le | le
    · exact .inl (isOrdered_iff.mpr ⟨first, second, read, readToo, le⟩)
    · exact .inr (isOrdered_iff.mpr ⟨second, first, readToo, read, le⟩)

/-- A memory with two texts in a row, the second of which no zero ends. -/
def twoTexts : Store :=
  { heap := {
      version := .sci0
      segments := #[none, some (.dynmem ⟨"texts", #[97, 98, 0, 97, 98, 99]⟩)] } }

/-- A call of the function that compares texts. -/
def anyComparison : KernelCall :=
  { resources := {}, acc := .null, builtin := .strCmp, arguments := [] }

/-- A text comes before a longer one that it begins, and is equal to it within its own length. -/
theorem texts_are_ordered_prefix :
    (∃ number, twoTexts.Ranks anyComparison none ⟨1, 0⟩ ⟨1, 3⟩ [97, 98] [97, 98, 99] number ∧
      number < 0) ∧
    (∃ number, twoTexts.Ranks anyComparison (some 2) ⟨1, 0⟩ ⟨1, 3⟩ [97, 98] [97, 98] number ∧
      number = 0) ∧
    twoTexts.IsOrdered anyComparison none ⟨1, 0⟩ ⟨1, 4⟩ ∧
    (twoTexts.IsOrdered anyComparison none ⟨1, 3⟩ ⟨1, 4⟩ ∨
      twoTexts.IsOrdered anyComparison none ⟨1, 4⟩ ⟨1, 3⟩) := by
  -- The three texts are computed; how they are ordered is told by the general theorem.
  have ordered := texts_are_ordered twoTexts anyComparison
  have shorter : twoTexts.heap.readString ⟨1, 0⟩ = .ok #[97, 98] := by decide +kernel
  have longer : twoTexts.heap.readString ⟨1, 3⟩ = .ok #[97, 98, 99] := by decide +kernel
  have end_ : twoTexts.heap.readString ⟨1, 4⟩ = .ok #[98, 99] := by decide +kernel
  obtain ⟨number, ranked⟩ := (ordered none).1 _ _ _ _ shorter longer
  obtain ⟨limited, rankedToo⟩ := (ordered (some 2)).1 _ _ _ _ shorter longer
  refine ⟨⟨number, ranked, ranked.before.mpr (by decide)⟩,
    ⟨limited, rankedToo, rankedToo.equal.mpr rfl⟩, ?_, (ordered none).2.2 _ _ _ _ longer end_⟩
  exact (ordered none).2.1 _ _ _ (isOrdered_iff.mpr ⟨_, _, shorter, longer, by decide⟩)
    (isOrdered_iff.mpr ⟨_, _, longer, end_, by decide⟩)

end Store

end AdventureVm
