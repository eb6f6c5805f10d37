import AdventureVm.Proofs.Loader.Records
import AdventureVm.Proofs.Memory.Loading

/-!
What the walk over the bytes of a script finds.

The blocks of the first format and the records of the second are described by themselves, and the
walk is shown to find those, all of them and nothing else.
-/

namespace AdventureVm

/-- A block of the first format: what it holds, and where its body starts and ends. -/
structure ScriptBlock where
  /-- What the block holds. -/
  kind : BlockKind
  /-- Where its body starts. -/
  start : Nat
  /-- Where its body ends. -/
  stop : Nat
deriving Repr, DecidableEq

namespace ScriptBlock

/-- Where the properties start of the object that the block holds, if it holds one. -/
def base? (block : ScriptBlock) : Option Nat :=
  if block.kind = .object ∨ block.kind = .classes then
    some (block.start + Version.sci0.layout.objectHeaderSize)
  else none

/-- The part of the script that the block takes, if it holds code. -/
def code? (block : ScriptBlock) : Option (Nat × Nat) :=
  if block.kind = .code then some (block.start, block.stop) else none

end ScriptBlock

/-- A buffer holds blocks one after the other, from a position up to a limit or to a terminator. -/
inductive HasBlocks (data : Bytes) (limit : Nat) : Nat → List ScriptBlock → Prop where
  | past {pos : Nat} (beyond : limit < pos + 2) : HasBlocks data limit pos []
  | terminator {pos : Nat} (code : word? data pos = some BlockKind.terminator.toWord) :
      HasBlocks data limit pos []
  | block {pos : Nat} {code size : UInt16} {kind : BlockKind} {rest : List ScriptBlock}
      (opens : word? data pos = some code) (known : BlockKind.ofWord? code = some kind)
      (sized : word? data (pos + 2) = some size) (header : 4 ≤ size.toNat)
      (inside : pos + size.toNat ≤ limit)
      (others : HasBlocks data limit (pos + size.toNat) rest) :
      HasBlocks data limit pos (⟨kind, pos + 4, pos + size.toNat⟩ :: rest)

namespace HasBlocks

variable {data : Bytes} {limit pos : Nat} {blocks : List ScriptBlock}

/-- Blocks lie behind the position and before the limit, and each ends before the next one. -/
theorem bounds (has : HasBlocks data limit pos blocks) :
    (∀ block ∈ blocks, pos + 4 ≤ block.start ∧ block.start ≤ block.stop ∧ block.stop ≤ limit) ∧
      blocks.Pairwise (fun first second => first.start < second.start) := by
  induction has with
  | past => exact ⟨by simp, .nil⟩
  | terminator => exact ⟨by simp, .nil⟩
  | @block pos _ size _ rest _ _ _ header inside _ ih =>
    -- The blocks that follow start behind this one, which has four bytes at least.
    obtain ⟨each, sorted⟩ := ih
    refine ⟨List.forall_mem_cons.mpr ⟨⟨Nat.le_refl _, by simp only; omega, inside⟩, ?_⟩,
      List.pairwise_cons.mpr ⟨?_, sorted⟩⟩
    · intro block member
      obtain ⟨low, order, high⟩ := each block member
      exact ⟨by omega, order, high⟩
    · intro block member
      obtain ⟨low, _, _⟩ := each block member
      simp only
      omega

/-- The bases of objects grow, from sixteen on, and reach at most eight bytes past the limit. -/
theorem bases (has : HasBlocks data limit pos blocks) :
    (∀ base ∈ blocks.filterMap ScriptBlock.base?, pos + 12 ≤ base ∧ base ≤ limit + 8) ∧
      (blocks.filterMap ScriptBlock.base?).Pairwise (· < ·) := by
  obtain ⟨each, sorted⟩ := has.bounds
  -- An object begins with a header of eight bytes, and its base is behind that.
  have shape {block : ScriptBlock} {base : Nat} (found : block.base? = some base) :
      base = block.start + 8 := by
    unfold ScriptBlock.base? at found
    split at found
    · exact (Option.some.inj found).symm
    · cases found
  constructor
  · intro base member
    obtain ⟨block, among, found⟩ := List.mem_filterMap.mp member
    obtain ⟨low, order, high⟩ := each block among
    rw [shape found]
    omega
  · refine List.pairwise_filterMap.mpr (sorted.imp ?_)
    intro first second before base found other foundToo
    rw [shape found, shape foundToo]
    omega

end HasBlocks

/-- A buffer holds marked records one after the other, up to a zero word. -/
inductive HasRecords (data : Bytes) : Nat → List Nat → Prop where
  | done {pos : Nat} (zero : word? data pos = some 0) : HasRecords data pos []
  | record {pos : Nat} {count : UInt16} {rest : List Nat}
      (marked : word? data pos = some objectMagic) (counted : word? data (pos + 2) = some count)
      (positive : 0 < count.toNat) (others : HasRecords data (pos + 2 * count.toNat) rest) :
      HasRecords data pos (pos :: rest)

/-- The bases of records grow and lie in the buffer. -/
theorem HasRecords.bases {data : Bytes} {pos : Nat} {bases : List Nat}
    (has : HasRecords data pos bases) :
    (∀ base ∈ bases, pos ≤ base ∧ base + 2 ≤ data.size) ∧ bases.Pairwise (· < ·) := by
  -- A record is not empty, so the next one begins after it.
  induction has with
  | done => exact ⟨by simp, .nil⟩
  | @record pos count rest marked _ positive _ ih =>
    obtain ⟨each, sorted⟩ := ih
    refine ⟨List.forall_mem_cons.mpr ⟨⟨Nat.le_refl _, bound_of_word? marked⟩, ?_⟩,
      List.pairwise_cons.mpr ⟨?_, sorted⟩⟩
    · intro base member
      have later := each base member
      omega
    · intro base member
      have later := each base member
      omega

/-- The records of objects that a script of either format has in its buffer, by their bases. -/
def HasObjects (version : Version) (data : Bytes) (scriptSize heapStart : Nat) (bases : List Nat) :
    Prop :=
  match version with
  | .sci0 => ∃ blocks, HasBlocks data scriptSize Version.sci0.layout.headerSize blocks ∧
      bases = blocks.filterMap ScriptBlock.base?
  | .sci11 => ∃ count, word? data (heapStart + 2) = some count ∧
      HasRecords data (heapStart + 4 + 2 * count.toNat) bases

/-- The bases of the records of objects grow. -/
theorem HasObjects.sorted {version : Version} {data : Bytes} {scriptSize heapStart : Nat}
    {bases : List Nat} (has : HasObjects version data scriptSize heapStart bases) :
    bases.Pairwise (· < ·) := by
  -- In either format the records are gone through from front to back.
  cases version with
  | sci0 =>
    obtain ⟨blocks, has, rfl⟩ := has
    exact has.bases.2
  | sci11 =>
    obtain ⟨count, _, has⟩ := has
    exact has.bases.2

/-- A result that was read is passed on to work that keeps a journal. -/
theorem Results.leads_bind {α β : Type} {succeeded : α → Prop} {failed : Fault → Prop}
    {result : Except Fault α} {next : α → Logged β} {journal : Journal}
    {ended : β → Journal → Prop} (met : Results succeeded failed result)
    (goesOn : ∀ value, succeeded value →
      Leads (next value) journal (Either ended fun fault _ => failed fault)) :
    Leads (Logged.quiet result >>= next) journal (Either ended fun fault _ => failed fault) := by
  -- Reading leaves nothing in the journal.
  rw [AdventureVm.leads_bind]
  cases result with
  | error fault => exact met
  | ok value => exact goesOn value met

namespace Outline

/-- What an outline has gained, when blocks of the first format were added to another one. -/
structure Gains (before : Outline) (blocks : List ScriptBlock) (after : Outline) : Prop where
  /-- The objects of the blocks. -/
  bases : after.objectBases.toList =
    before.objectBases.toList ++ blocks.filterMap ScriptBlock.base?
  /-- The code of the blocks. -/
  codeRanges : after.codeRanges = before.codeRanges ++ blocks.filterMap ScriptBlock.code?
  /-- Local variables stay numbers. -/
  locals : (∀ value ∈ before.locals, value.segment = 0) → ∀ value ∈ after.locals, value.segment = 0

/-- What is gained one after the other is gained together. -/
theorem Gains.trans {before middle after : Outline} {first second : List ScriptBlock}
    (begun : before.Gains first middle) (ended : middle.Gains second after) :
    before.Gains (first ++ second) after := by
  -- What the first blocks bring stands in front of what the second ones do.
  refine ⟨?_, ?_, fun numbers => ended.locals (begun.locals numbers)⟩
  · rw [ended.bases, begun.bases, List.filterMap_append, List.append_assoc]
  · rw [ended.codeRanges, begun.codeRanges, List.filterMap_append, List.append_assoc]

/-- A block that holds neither an object nor code changes neither of them. -/
theorem Gains.other {before after : Outline} {kind : BlockKind} {start stop : Nat}
    (other : kind ≠ .object ∧ kind ≠ .classes ∧ kind ≠ .code)
    (bases : after.objectBases = before.objectBases)
    (codeRanges : after.codeRanges = before.codeRanges)
    (locals : (∀ value ∈ before.locals, value.segment = 0) →
      ∀ value ∈ after.locals, value.segment = 0) :
    before.Gains [⟨kind, start, stop⟩] after :=
  ⟨by simp [bases, ScriptBlock.base?, other], by simp [codeRanges, ScriptBlock.code?, other],
    locals⟩

/-- Reading the synonyms of a block can only fail by blaming the script. -/
theorem results_synonymsIn (source : Source) (start stop : Nat) :
    Results (fun _ => True) source.Blames (synonymsIn source start stop) := by
  unfold synonymsIn
  -- Both words of a pair are read with the same care.
  have pair (index : Nat) : Results (fun _ => True) source.Blames (do
      let replaced ← source.wordBefore stop (start + 4 * index) "synonyms"
      let replacement ← source.wordBefore stop (start + 4 * index + 2) "synonyms"
      return (⟨replaced, replacement⟩ : Synonym)) := by
    refine (source.results_wordBefore ..).bind fun _ _ => ?_
    exact (source.results_wordBefore ..).bind fun _ _ => trivial
  exact (Results.mapM fun index _ => pair index).bind fun _ _ => trivial

variable (source : Source)

/-- There are no more variables than are declared, as long as there were no more before. -/
def Counts (declared : Nat) (before after : Outline) : Prop :=
  before.locals.size ≤ declared → after.locals.size ≤ declared

/-- Adding a block of the first format gains what it holds, and adds no variables. -/
theorem leads_addBlock (declared : Nat) (outline : Outline) (kind : BlockKind) (start stop : Nat)
    (journal : Journal) :
    Leads (addBlock source declared outline kind start stop) journal
      (Either (fun after _ => outline.Gains [⟨kind, start, stop⟩] after ∧
          Counts declared outline after)
        fun fault _ => source.Blames fault) := by
  cases kind with
  | object | classes => exact ⟨⟨by simp [ScriptBlock.base?], by simp [ScriptBlock.code?], id⟩, id⟩
  | code => exact ⟨⟨by simp [ScriptBlock.base?], by simp [ScriptBlock.code?], id⟩, id⟩
  -- Synonyms are no part of what is counted, but reading them can fail.
  | synonyms =>
    exact (results_synonymsIn source start stop).leads_bind fun _ _ =>
      ⟨.other (by decide) rfl rfl id, id⟩
  -- A table may be cut off by the end of its block, which is the only failure.
  | exports | pointers =>
    refine (source.results_wordBefore ..).leads_bind fun count _ => ?_
    exact (source.results_tableBefore ..).leads_bind fun found _ =>
      ⟨.other (by decide) rfl rfl id, id⟩
  | localVars =>
    -- The values that were read take the place of as many, and what was there behind them stays.
    have finish (journal : Journal) : Leads (do
        let values ← Logged.quiet
          (source.tableBefore stop start (min ((stop - start) / 2) declared) "locals")
        return { outline with
          locals := values.map Address.number ++
            outline.locals.extract values.size outline.locals.size
          localsRange := some (start, start + 2 * ((stop - start) / 2)) }) journal
        (Either (fun after _ => outline.Gains [⟨.localVars, start, stop⟩] after ∧
            Counts declared outline after)
          fun fault _ => source.Blames fault) := by
      refine (source.results_tableBefore ..).leads_bind fun values read => ?_
      refine ⟨.other (by decide) rfl rfl fun numbers value member => ?_, fun few => ?_⟩
      · rcases Array.mem_append.mp member with read | kept
        · obtain ⟨word, _, rfl⟩ := Array.mem_map.mp read
          rfl
        · obtain ⟨place, found⟩ := Array.getElem?_of_mem kept
          rw [Array.getElem?_extract] at found
          split at found
          · exact numbers value (Array.mem_of_getElem? found)
          · cases found
      · have count := read.1
        rw [Array.size_append, Array.size_map, Array.size_extract]
        omega
    simp only [addBlock]
    split
    · rw [leads_bind]
      exact finish _
    · exact finish _
  | terminator | said | strings | preloadText => exact ⟨.other (by decide) rfl rfl id, id⟩

/-- The walk over the blocks of the first format finds the blocks that are there, and no more
variables than are declared. -/
theorem leads_walkBlocks (declared limit pos : Nat) (outline : Outline) (journal : Journal) :
    Leads (walkBlocks source declared limit pos outline) journal
      (Either (fun after _ => (∃ blocks, HasBlocks source.data limit pos blocks ∧
          outline.Gains blocks after) ∧ Counts declared outline after)
        fun fault _ => source.Blames fault) := by
  fun_induction walkBlocks source declared limit pos outline generalizing journal with
  | case1 pos outline inside ih =>
    have nothing : outline.Gains [] outline := ⟨by simp, by simp, id⟩
    refine (source.results_wordBefore ..).leads_bind fun code opens => ?_
    split
    · -- A code of zero ends the walk, and nothing more is gained.
      rename_i ends
      exact ⟨⟨[], .terminator (ends ▸ opens.1), nothing⟩, id⟩
    · refine (source.results_wordBefore ..).leads_bind fun size sized => ?_
      simp only
      split
      · exact Source.blames_corrupt ..
      · rename_i fits
        split
        · exact Source.blames_corrupt ..
        · -- A block that fits adds what it holds, and the walk goes on behind it.
          rename_i kind known
          rw [leads_bind]
          apply (leads_addBlock source declared outline kind (pos + 4) (pos + size.toNat)
            journal).either
          · rintro extended between ⟨gains, counts⟩
            rw [either_ok]
            apply (ih size fits extended between).either
            · rintro after _ ⟨⟨blocks, has, more⟩, further⟩
              exact ⟨⟨_, .block opens.1 known sized.1 (by omega) (by omega) has,
                gains.trans more⟩, fun few => further (counts few)⟩
            · exact fun _ _ blamed => blamed
          · exact fun _ _ blamed => blamed
  -- The walk also ends where no further block can begin.
  | case2 pos outline beyond =>
    exact ⟨⟨[], .past (by omega), by simp, by simp, id⟩, id⟩

/-- The walk over the records of the second format finds the records that are there. -/
theorem results_walkObjects (pos : Nat) (bases : Array Nat) :
    Results (fun after => ∃ found, HasRecords source.data pos found ∧
      after.toList = bases.toList ++ found) source.Blames (walkObjects source pos bases) := by
  fun_induction walkObjects source pos bases with
  | case1 pos bases limit inside ih =>
    refine (source.results_wordBefore ..).bind fun magic opens => ?_
    split
    · rename_i zero
      exact ⟨[], .done (zero ▸ opens.1), by simp⟩
    · split
      · exact Source.blames_corrupt ..
      · rename_i marked
        refine (source.results_wordBefore ..).bind fun count counted => ?_
        simp only
        split
        · exact Source.blames_corrupt ..
        · -- A record that takes some words is noted, and the walk goes on behind it.
          rename_i positive
          refine (ih count positive).mono ?_
          rintro after ⟨found, has, listed⟩
          refine ⟨pos :: found, .record ?_ counted.1 (by omega) has, ?_⟩
          · rw [← not_not.mp marked]
            exact opens.1
          · rw [listed, Array.toList_push, List.append_assoc]
            rfl
  -- Without a zero word the walk runs past the end.
  | case2 pos bases limit beyond => exact Source.blames_corrupt ..

/-- Moving words of the script part changes neither the script nor the size of its buffer. -/
theorem results_shiftWords (scriptSize heapStart table count : Nat) :
    Results (fun shifted => shifted.script = source.script ∧
      shifted.data.size = source.data.size) source.Blames
      (shiftWords source scriptSize heapStart table count) := by
  unfold shiftWords
  refine Results.foldlM ⟨rfl, rfl⟩ fun shifted index kept => ?_
  obtain ⟨script, size⟩ := kept
  rw [← Source.blames_congr script]
  refine (shifted.results_wordBefore ..).bind fun target _ => ?_
  refine (shifted.results_wordBefore ..).bind fun value _ => ?_
  refine ⟨script, ?_⟩
  -- A word that lies in the buffer is replaced, any other is left out.
  simp only [setWord?, splice?]
  split
  · rw [Option.getD_some, size_overwrite, size]
  · rw [Option.getD_none, size]

/-- An outline says what a buffer holds. -/
structure Describes (version : Version) (data : Bytes) (scriptSize heapStart : Nat)
    (parts : Outline) : Prop where
  /-- The bases are those of the object records. -/
  bases : HasObjects version data scriptSize heapStart parts.objectBases.toList
  /-- Code lies in the script part. -/
  codeRanges : ∀ range ∈ parts.codeRanges, range.1 ≤ range.2 ∧ range.2 ≤ scriptSize
  /-- Local variables start as numbers. -/
  locals : ∀ value ∈ parts.locals, value.segment = 0

/-- The outline of a script of the first format describes its buffer, with the variables that are
declared. -/
theorem leads_ofSci0 (scriptSize heapStart : Nat) (journal : Journal) :
    Leads (ofSci0 source scriptSize) journal
      (Either (fun parts _ => parts.Describes .sci0 source.data scriptSize heapStart ∧
          parts.locals.size ≤ (declaredLocals? source.data).getD 0)
        fun fault _ => source.Blames fault) := by
  unfold ofSci0
  apply (leads_walkBlocks source ..).either
  · rintro parts _ ⟨⟨blocks, has, gains⟩, counts⟩
    refine ⟨⟨⟨blocks, has, by simpa using gains.bases⟩, ?_, gains.locals ?_⟩,
      counts (Nat.le_of_eq Array.size_replicate)⟩
    · -- Code is the body of a block, and blocks end before the limit.
      intro range member
      rw [gains.codeRanges] at member
      obtain ⟨block, among, held⟩ := List.mem_filterMap.mp (by simpa using member)
      obtain ⟨_, order, inside⟩ := has.bounds.1 block among
      unfold ScriptBlock.code? at held
      split at held
      · cases held
        exact ⟨order, inside⟩
      · cases held
    · intro value member
      rw [Array.mem_replicate] at member
      rw [member.2]
      rfl
  · exact fun _ _ blamed => blamed

/-- The outline of a script of the second format describes its buffer after words were moved, and
its variables were read from there. -/
theorem results_ofSci11 (scriptSize heapStart : Nat) :
    Results (fun found => found.2.size = source.data.size ∧
        found.1.Describes .sci11 found.2 scriptSize heapStart ∧
        2 * found.1.locals.size ≤ source.data.size) source.Blames
      (ofSci11 source scriptSize heapStart) := by
  unfold ofSci11
  refine (source.results_wordBefore ..).bind fun table _ => ?_
  extract_lets tableAt codeStop localsStart goOn
  -- Whichever buffer the rest is read from, it is as long as the first.
  have rest (bound : codeStop ≤ scriptSize) {shifted : Source}
      (script : shifted.script = source.script) (size : shifted.data.size = source.data.size) :
      Results (fun found => found.2.size = source.data.size ∧
        found.1.Describes .sci11 found.2 scriptSize heapStart ∧
        2 * found.1.locals.size ≤ source.data.size) source.Blames (goOn shifted) := by
    rw [← Source.blames_congr script]
    refine (shifted.results_wordBefore ..).bind fun exportCount counted => ?_
    refine (shifted.results_tableBefore ..).bind fun exports exported => ?_
    refine (shifted.results_wordBefore ..).bind fun heapTable _ => ?_
    refine (shifted.results_wordBefore ..).bind fun localCount declared => ?_
    refine (shifted.results_tableBefore ..).bind fun locals read => ?_
    refine (results_walkObjects shifted ..).bind fun objectBases walked => ?_
    extract_lets end_
    -- With or without a table of pointers, the parts are the same.
    have ended (relocations : Array UInt16) : Results (fun found =>
        found.2.size = source.data.size ∧ found.1.Describes .sci11 found.2 scriptSize heapStart ∧
          2 * found.1.locals.size ≤ source.data.size)
        shifted.Blames (end_ relocations) := by
      -- Locals come from a table before the end of the buffer, so there is room for them.
      obtain ⟨found, has, listed⟩ := walked
      refine ⟨size, ⟨⟨localCount, declared.1, ?_⟩, ?_, ?_⟩, ?_⟩
      · rw [listed]
        exact has
      · rintro range member
        rw [List.mem_singleton.mp member]
        simp only
        omega
      · intro value member
        obtain ⟨word, _, rfl⟩ := Array.mem_map.mp member
        rfl
      · show 2 * (locals.map Address.number).size ≤ source.data.size
        obtain ⟨count, inside⟩ := read
        rw [Array.size_map]
        omega
    split
    · exact ended _
    · refine (shifted.results_wordBefore ..).bind fun count _ => ?_
      exact (shifted.results_tableBefore ..).bind fun relocations _ => ended relocations
  -- Only a script part with a relocation table is shifted before it is read.
  split
  · rename_i absent
    exact rest (by simp [codeStop, absent]) rfl rfl
  · rename_i present
    refine (source.results_wordBefore ..).bind fun count counted => ?_
    refine (results_shiftWords source ..).bind fun shifted kept => ?_
    exact rest (by simp only [codeStop, if_neg present]; omega) kept.1 kept.2

/--
The outline of a script of either format describes the buffer that it leaves.

Its variables take no more bytes than the buffer has, if there is room for those that are declared.
-/
theorem leads_outline (version : Version) (scriptSize heapStart : Nat) (journal : Journal) :
    Leads (Script.outline version source scriptSize heapStart) journal
      (Either (fun found _ => found.2.size = source.data.size ∧
          (version = .sci0 → found.2 = source.data) ∧
          found.1.Describes version found.2 scriptSize heapStart ∧
          ((version = .sci0 → 2 * (declaredLocals? source.data).getD 0 ≤ source.data.size) →
            2 * found.1.locals.size ≤ source.data.size))
        fun fault _ => source.Blames fault) := by
  -- The first format is outlined as it is, and the second after words of it were shifted.
  cases version with
  | sci0 =>
    simp only [Script.outline, leads_bind]
    apply (leads_ofSci0 source scriptSize heapStart journal).either
    · rintro parts _ ⟨describes, few⟩
      refine ⟨rfl, fun _ => rfl, describes, fun room => ?_⟩
      have enough := room trivial
      show 2 * parts.locals.size ≤ source.data.size
      omega
    · exact fun _ _ blamed => blamed
  | sci11 =>
    have found := results_ofSci11 source scriptSize heapStart
    simp only [Script.outline, leads_quiet]
    cases shape : ofSci11 source scriptSize heapStart with
    | error fault => rwa [shape] at found
    | ok parts =>
      rw [shape] at found
      exact ⟨found.1, by simp, found.2.1, fun _ => found.2.2⟩

end Outline

end AdventureVm
