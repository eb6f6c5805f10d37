import AdventureVm.Logged
import AdventureVm.Script.Basic

/-! What a walk over the bytes of a script finds, before objects are read and addresses are set. -/

namespace AdventureVm

/-- The parts of a script. -/
structure Outline where
  /-- The exported offsets. -/
  exports : Array UInt16 := #[]
  /-- The declared synonyms. -/
  synonyms : Array Synonym := #[]
  /-- The parts that hold code, each from its start up to its end. -/
  codeRanges : List (Nat × Nat) := []
  /-- Where the properties of each object start. -/
  objectBases : Array Nat := #[]
  /-- The initial values of the local variables. -/
  locals : Array Address := #[]
  /-- The part that holds those values, from its start up to its end. -/
  localsRange : Option (Nat × Nat) := none
  /-- The offsets of the words that are addresses. -/
  relocations : Array Nat := #[]
  /-- The distance that is added to those words. -/
  relocationDelta : UInt16 := 0
deriving Repr, Inhabited

namespace Source

/-- The failure to read a word that ends after a limit. -/
def beyond (source : Source) (limit offset : Nat) (field : String) : Fault :=
  source.corrupt field s!"offset 0x{hexText 4 offset} beyond 0x{hexText 4 limit}"

/-- The word at an offset that has to end before a limit. -/
def wordBefore (source : Source) (limit offset : Nat) (field : String) : Except Fault UInt16 :=
  if offset + 2 > limit then
    .error (source.beyond limit offset field)
  else
    match word? source.data offset with
    | some value => .ok value
    | none => .error (source.corrupt field s!"offset 0x{hexText 4 offset}")

/-- The words of a table that has to end before a limit, up to the first that does not. -/
def tableBefore (source : Source) (limit start count : Nat) (field : String) :
    Except Fault (Array UInt16) := do
  let found ← (List.range count).mapM fun index =>
    source.wordBefore limit (start + 2 * index) field
  return found.toArray

end Source

namespace Outline

/-- Pairs of words from a start up to an end; a remainder shorter than a pair is left out. -/
def synonymsIn (source : Source) (start stop : Nat) : Except Fault (Array Synonym) := do
  let found ← (List.range ((stop - start) / 4)).mapM fun index => do
    let replaced ← source.wordBefore stop (start + 4 * index) "synonyms"
    let replacement ← source.wordBefore stop (start + 4 * index + 2) "synonyms"
    return (⟨replaced, replacement⟩ : Synonym)
  return found.toArray

/-- Adds what a block of the first format holds between the start and the end of its body. -/
def addBlock (source : Source) (declared : Nat) (outline : Outline) (kind : BlockKind)
    (start stop : Nat) : Logged Outline :=
  match kind with
  | .object | .classes =>
    return { outline with
      objectBases := outline.objectBases.push (start + Version.sci0.layout.objectHeaderSize) }
  | .code => return { outline with codeRanges := outline.codeRanges ++ [(start, stop)] }
  | .synonyms => do
    let found ← Logged.quiet (synonymsIn source start stop)
    return { outline with synonyms := outline.synonyms ++ found }
  | .exports => do
    let count ← Logged.quiet (source.wordBefore stop start "export count")
    let found ← Logged.quiet (source.tableBefore stop (start + 2) count.toNat "export table")
    return { outline with exports := outline.exports ++ found }
  | .pointers => do
    let count ← Logged.quiet (source.wordBefore stop start "relocation count")
    let found ← Logged.quiet (source.tableBefore stop (start + 2) count.toNat "relocation table")
    return { outline with relocations := outline.relocations ++ found.map UInt16.toNat }
  | .localVars => do
    -- The header decides how many variables there are, the block gives their values.
    let available := (stop - start) / 2
    if available > declared then
      Logged.note .warn
        s!"script {source.script}: {available} local values for {declared} declared locals"
    let values ← Logged.quiet (source.tableBefore stop start (min available declared) "locals")
    return { outline with
      locals := values.map Address.number ++ outline.locals.extract values.size outline.locals.size
      localsRange := some (start, start + 2 * available) }
  | .terminator | .said | .strings | .preloadText => return outline

/-- Walks over the blocks of the first format from a position up to the end of the script. -/
def walkBlocks (source : Source) (declared limit pos : Nat) (outline : Outline) :
    Logged Outline := do
  if _inside : pos + 2 ≤ limit then
    let code ← Logged.quiet (source.wordBefore limit pos "block type")
    if code = BlockKind.terminator.toWord then
      return outline
    let size := (← Logged.quiet (source.wordBefore limit (pos + 2) "block size")).toNat
    -- A size counts the four bytes of the block header.
    if _misfit : size < 4 ∨ pos + size > limit then
      throw (source.corrupt "block size"
        s!"block type {code} at 0x{hexText 4 pos} has size {size}")
    else
      match BlockKind.ofWord? code with
      | none =>
        throw (source.corrupt "block type" s!"unknown block type {code} at 0x{hexText 4 pos}")
      | some kind =>
        let extended ← addBlock source declared outline kind (pos + 4) (pos + size)
        walkBlocks source declared limit (pos + size) extended
  else
    return outline
termination_by limit - pos
decreasing_by omega

/-- The parts of a script of the first format. -/
def ofSci0 (source : Source) (scriptSize : Nat) : Logged Outline :=
  let declared := (declaredLocals? source.data).getD 0
  walkBlocks source declared scriptSize Version.sci0.layout.headerSize
    { locals := Array.replicate declared .null }

/-- Adds the start of the heap part to the words that a script of the second format names for it. -/
def shiftWords (source : Source) (scriptSize heapStart table count : Nat) : Except Fault Source :=
  (List.range count).foldlM (fun shifted index => do
    let target := (← shifted.wordBefore scriptSize (table + 2 + 2 * index) "relocation table").toNat
    let value ← shifted.wordBefore scriptSize target "relocated word"
    -- A word that is listed twice is shifted twice.
    let data := (setWord? shifted.data target (value + UInt16.ofNat heapStart)).getD shifted.data
    return { shifted with data }) source

/-- Walks over the object records of the second format up to the word zero that ends them. -/
def walkObjects (source : Source) (pos : Nat) (bases : Array Nat) : Except Fault (Array Nat) :=
  let limit := source.data.size
  if _inside : pos + 2 ≤ limit then do
    let magic ← source.wordBefore limit pos "object magic"
    if magic = 0 then
      return bases
    if magic ≠ objectMagic then
      throw (source.corrupt "object magic" s!"0x{hexText 4 magic.toNat} at 0x{hexText 4 pos}")
    let count := (← source.wordBefore limit (pos + 2) "property count").toNat
    -- A record without properties would be read again and again.
    if _vacuous : count = 0 then
      throw (source.corrupt "property count" s!"empty object at 0x{hexText 4 pos}")
    else
      walkObjects source (pos + 2 * count) (bases.push pos)
  else
    .error (source.beyond limit pos "object magic")
termination_by source.data.size - pos
decreasing_by omega

/--
The parts of a script of the second format, and its buffer after the script part's own relocation.

The script part opens with the offset of its relocation table and, at byte six, the export table;
code follows the exports. The heap part opens with the offset of its relocation table, then come the
local variables and the object records.
-/
def ofSci11 (source : Source) (scriptSize heapStart : Nat) : Except Fault (Outline × Bytes) := do
  let table := (← source.wordBefore scriptSize 0 "relocation offset").toNat
  let source ←
    if table = 0 then pure source
    else do
      let count := (← source.wordBefore scriptSize table "relocation count").toNat
      shiftWords source scriptSize heapStart table count
  let exportCount := (← source.wordBefore scriptSize 6 "export count").toNat
  let exports ← source.tableBefore scriptSize 8 exportCount "export table"
  let codeStart := 8 + 2 * exportCount
  -- Without a relocation table the code takes the rest of the script part.
  let codeStop := if table = 0 then scriptSize else table
  let limit := source.data.size
  let heapTable := (← source.wordBefore limit heapStart "heap relocation offset").toNat
  let localCount := (← source.wordBefore limit (heapStart + 2) "local count").toNat
  let localsStart := heapStart + 4
  let locals ← source.tableBefore limit localsStart localCount "locals"
  let localsStop := localsStart + 2 * localCount
  let objectBases ← walkObjects source localsStop #[]
  let relocations ←
    if heapTable = 0 then pure #[]
    else do
      let start := heapStart + heapTable
      let count := (← source.wordBefore limit start "heap relocation count").toNat
      source.tableBefore limit (start + 2) count "heap relocation table"
  return ({
    exports
    codeRanges := [(codeStart, max codeStop codeStart)]
    objectBases
    locals := locals.map Address.number
    localsRange := some (localsStart, localsStop)
    relocations := relocations.map fun offset => heapStart + offset.toNat
    relocationDelta := UInt16.ofNat heapStart }, source.data)

end Outline

end AdventureVm
