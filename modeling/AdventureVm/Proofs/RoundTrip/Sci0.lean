import AdventureVm.Proofs.RoundTrip.Blocks
import AdventureVm.Proofs.RoundTrip.Layout
import AdventureVm.Proofs.RoundTrip.Relocation

/-! Scripts of the first format: what was built is what is loaded. -/

namespace AdventureVm

open ScriptDefinition (blockBytes)

/-- Both ways of a choice go on in the same way. -/
theorem ite_bind_eq_ok {ε α β : Type} {condition : Prop} [Decidable condition]
    {first second : Except ε α} {next : α → Except ε β} {value : α} {result : β}
    (chosen : (if condition then first else second) = .ok value)
    (continued : next value = .ok result) :
    (if condition then first >>= next else second >>= next) = .ok result := by
  -- By the condition.
  by_cases holds : condition
  · rw [if_pos holds] at chosen ⊢
    exact bind_eq_ok.mpr ⟨value, chosen, continued⟩
  · rw [if_neg holds] at chosen ⊢
    exact bind_eq_ok.mpr ⟨value, chosen, continued⟩

namespace Draft

/-- The selectors that are written for an object of the first format. -/
def sci0Selectors (draft : Draft) : List Nat :=
  if draft.object.isClass then draft.object.selectors .sci0 else []

/-- The body of the block of an object of the first format. -/
def sci0Body (draft : Draft) : Bytes :=
  plainBytes [objectMagic.toNat, 0,
      2 * draft.object.propertyCount .sci0 + draft.object.selectorBytes,
      draft.object.propertyCount .sci0] ++
    Cell.bytes draft.cells ++ plainBytes draft.sci0Selectors ++
    plainBytes ([draft.object.methods.length] ++ draft.object.methods.map (·.1.toNat) ++ [0] ++
      draft.offsets)

/-- The selectors take as many bytes as building reckons with. -/
theorem length_sci0Selectors (draft : Draft) :
    2 * draft.sci0Selectors.length = draft.object.selectorBytes := by
  -- Only classes have selectors of their own.
  unfold sci0Selectors ObjectDefinition.selectorBytes
  split
  · simp [ObjectDefinition.selectors, ObjectDefinition.propertyCount]
  · rfl

variable {definition : ScriptDefinition} {places : Places} {codeBase : Nat} {draft : Draft}

/-- A block takes as many bytes as building reckons with. -/
theorem size_sci0Body (version : definition.version = .sci0)
    (fits : draft.Fits definition places codeBase) :
    4 + draft.sci0Body.size = draft.object.blockSize := by
  -- There are as many values as properties, and as many offsets as methods.
  have count := fits.count
  have offsets := fits.methods.length_eq
  have selectors := draft.length_sci0Selectors
  rw [version] at count
  simp only [sci0Body, Array.size_append, size_plainBytes, Cell.size_bytes, List.length_append,
    List.length_map, List.length_cons, List.length_nil, ObjectDefinition.blockSize, count,
    ← offsets]
  omega

/-- What was written for the methods of an object is what they are read as. -/
theorem zip_methods (methods : List (UInt16 × Label)) (offsets : List Nat) :
    ((methods.map (·.1)).zip (offsets.map UInt16.ofNat)).map
        (fun pair => (⟨pair.1, pair.2⟩ : Method)) =
      List.zipWith (fun method offset => ⟨method.1, UInt16.ofNat offset⟩) methods offsets := by
  -- Selectors and offsets are stored in two rows and read in pairs.
  rw [List.zip_map, List.map_map, List.zip_eq_zipWith, List.map_zipWith]
  rfl

/-- The words of a block of an object, each where it is read. -/
structure Sci0Record (data : Bytes) (start : Nat) (draft : Draft) : Prop where
  magic : word? data start = some objectMagic
  distance : word? data (start + 4) =
    some (UInt16.ofNat (2 * draft.object.propertyCount .sci0 + draft.object.selectorBytes))
  count : word? data (start + 6) = some (UInt16.ofNat (draft.object.propertyCount .sci0))
  cells : HasWords data (start + 8) (draft.cells.map (·.word))
  selectors : HasWords data (start + 8 + 2 * draft.object.propertyCount .sci0)
    (draft.sci0Selectors.map UInt16.ofNat)
  methodCount : word? data
      (start + 8 + (2 * draft.object.propertyCount .sci0 + draft.object.selectorBytes)) =
    some (UInt16.ofNat draft.object.methods.length)
  names : HasWords data
      (start + 8 + (2 * draft.object.propertyCount .sci0 + draft.object.selectorBytes) + 2)
    (draft.object.methods.map (·.1))
  offsets : HasWords data
      (start + 8 + (2 * draft.object.propertyCount .sci0 + draft.object.selectorBytes) + 4 +
        2 * draft.object.methods.length)
    (draft.offsets.map UInt16.ofNat)

/-- The words are in the body of the block. -/
theorem sci0Record {data : Bytes} {start : Nat}
    (count : draft.cells.length = draft.object.propertyCount .sci0)
    (carries : Carries data start draft.sci0Body) : draft.Sci0Record data start := by
  -- The body is cut into its runs of words, each of which is where the ones before it end.
  have selectorBytes := draft.length_sci0Selectors
  simp only [sci0Body, plainBytes_append, Carries.append, Array.size_append, size_plainBytes,
    Cell.size_bytes, List.length_cons, List.length_nil, List.length_map, count,
    selectorBytes] at carries
  obtain ⟨⟨⟨header, cells⟩, selectors⟩, ⟨⟨methodCount, names⟩, _⟩, offsets⟩ := carries
  obtain ⟨magic, _, distance, number, _⟩ := header.values
  have back : (draft.object.methods.map (·.1.toNat)).map UInt16.ofNat =
      draft.object.methods.map (·.1) := by
    simp
  exact
    { magic := magic, distance := distance, count := number, cells := cells.words
      selectors := (selectors.move (by omega)).values
      methodCount := (methodCount.move (by omega)).values.1
      names := back ▸ (names.move (by omega)).values, offsets := (offsets.move (by omega)).values }

/-- The word of an object that tells what it is has the class bit exactly for a class. -/
theorem classFlag_of_fits (version : definition.version = .sci0)
    (fits : draft.Fits definition places codeBase) :
    ((draft.cells.map (·.word)).toArray[2]?.getD 0 &&& classFlag ≠ 0) ↔
      draft.object.isClass = true := by
  -- The third word is the info word of the definition.
  have written := fits.info
  rw [version] at written
  rw [List.getElem?_toArray, List.getElem?_map, show draft.cells[2]? = _ from written]
  exact draft.object.info_and_classFlag

/-- The selectors of a class are read back, and those of an instance are neither there nor read. -/
theorem readSelectors_eq {source : Source} {start : Nat} (segment : SegmentId)
    (version : definition.version = .sci0) (fits : draft.Fits definition places codeBase)
    (record : draft.Sci0Record source.data start) :
    (if (draft.cells.map (·.word)).toArray[2]?.getD 0 &&& classFlag ≠ 0 then
        some <$> source.table (start + 8 + 2 * draft.object.propertyCount .sci0)
          (draft.object.propertyCount .sci0) source.data.size "property selectors"
      else pure none) = .ok (draft.parsed definition segment 0).selectors := by
  have flag := classFlag_of_fits version fits
  -- Only the record of a class has room for selectors.
  by_cases isClass : draft.object.isClass = true
  · have table := record.selectors
    rw [sci0Selectors, if_pos isClass, ← version, definition.map_selectors, version] at table
    have length : (definition.selectorWords draft.object).length =
        draft.object.propertyCount .sci0 := by
      simp [ScriptDefinition.selectorWords, ObjectDefinition.propertyCount, version]
    have read := Source.table_of table "property selectors" table.bound
    rw [length] at read
    rw [if_pos (flag.mpr isClass), read, parsed]
    simp only [isClass, true_or, if_true]
    rfl
  · have absent : ¬ (draft.object.isClass = true ∨ definition.version = .sci11) := by
      simp [isClass, version]
    rw [if_neg (mt flag.mp isClass), parsed]
    simp only [if_neg absent]
    rfl

/-- An object is read from its block. -/
theorem parseSci0_eq {source : Source} {start : Nat} (segment : SegmentId)
    (version : definition.version = .sci0) (fits : draft.Fits definition places codeBase)
    (carries : Carries source.data start draft.sci0Body) (small : source.data.size ≤ 65536)
    (place : draft.place = start + 8) :
    Object.parseSci0 source segment draft.place = .ok (draft.parsed definition segment 0) := by
  have count := fits.count
  have least : 4 ≤ draft.object.propertyCount .sci0 := by
    simp [ObjectDefinition.propertyCount, Version.layout]
  rw [version] at count
  have record := sci0Record count carries
  have bound := record.offsets.bound
  have offsetCount := fits.methods.length_eq
  rw [List.length_map, ← offsetCount] at bound
  -- Everything is counted by words, none of which is too large.
  have countNat := toNat_word (show draft.object.propertyCount .sci0 < 65536 by omega)
  have distanceNat := toNat_word (show 2 * draft.object.propertyCount .sci0 +
    draft.object.selectorBytes < 65536 by omega)
  have methodNat := toNat_word (show draft.object.methods.length < 65536 by omega)
  have values := Source.table_of record.cells "property values" record.cells.bound
  have names := Source.table_of record.names "method selectors" record.names.bound
  have offsets := Source.table_of record.offsets "method offsets" record.offsets.bound
  have selectors := readSelectors_eq segment version fits record
  rw [List.length_map] at values names offsets
  rw [count] at values
  rw [← offsetCount] at offsets
  rw [place]
  -- The object is read in the order of its words: header, values, selectors, methods.
  unfold Object.parseSci0
  rw [if_neg (by simp only [Version.layout]; omega)]
  refine bind_eq_ok.mpr ⟨(), Object.checkMagic_of record.magic, ?_⟩
  refine bind_eq_ok.mpr ⟨_, Source.word_of record.distance _,
    bind_eq_ok.mpr ⟨_, Source.word_of record.count _, ?_⟩⟩
  rw [countNat, distanceNat]
  refine bind_eq_ok.mpr ⟨(), Object.checkCount_of least, bind_eq_ok.mpr ⟨_, values, ?_⟩⟩
  refine ite_bind_eq_ok selectors
    (bind_eq_ok.mpr ⟨_, Source.word_of record.methodCount _, ?_⟩)
  rw [methodNat]
  refine bind_eq_ok.mpr ⟨_, names, bind_eq_ok.mpr ⟨_, offsets, ?_⟩⟩
  have methods := zip_methods draft.object.methods draft.offsets
  simp only [parsed, version, Nat.zero_add, place, List.zip_toArray, methods, List.map_toArray,
    List.map_map]
  rfl

end Draft

/-- The kind of block in which an object is stored. -/
def Draft.sci0Kind (draft : Draft) : BlockKind :=
  if draft.object.isClass then .classes else .object

namespace ScriptDefinition

variable {definition : ScriptDefinition} {places : Places}

/-- An object that can be written has a draft from which it is written. -/
theorem sci0Object_eq_ok (version : definition.version = .sci0) {object : ObjectDefinition}
    {block : Nat} {written : Bytes × List Nat}
    (made : definition.sci0Object places object block = .ok written) :
    ∃ draft : Draft, draft.object = object ∧ draft.home = block ∧ draft.place = block + 12 ∧
      draft.Fits definition places definition.sci0CodeBase ∧
      written = (draft.sci0Body, Cell.pointers draft.place draft.cells) := by
  obtain ⟨cells, cellsMade, later⟩ := bind_eq_ok.mp made
  obtain ⟨offsets, offsetsMade, rest⟩ := bind_eq_ok.mp later
  obtain ⟨name, named, valued⟩ := bind_eq_ok.mp cellsMade
  obtain ⟨values, valuesMade, same⟩ := bind_eq_ok.mp valued
  cases rest
  cases same
  -- Every value and every method offset was found, since building did not fail.
  have stored := mapM_eq_ok.mp valuesMade
  have methods := mapM_eq_ok.mp offsetsMade
  have length := stored.length_eq
  refine ⟨⟨object, block + 12, block, _, offsets⟩, rfl, rfl, rfl, ?_, rfl⟩
  -- Four words of its own come first, the last of them the name, and then the declared values.
  constructor
  · simp [ObjectDefinition.propertyCount, version, Version.layout, length]
    omega
  · rw [version]
    rfl
  · rw [version]
    rfl
  · rw [version]
    rfl
  · rw [version]
    exact ⟨name, named, rfl⟩
  · rw [version]
    exact stored
  · exact methods

/-- The offsets of the addresses in a script of the first format. -/
def sci0Pointers (definition : ScriptDefinition) (drafts : List Draft) (locals : List Cell) :
    List Nat :=
  Script.draftPointers 0 drafts ++
    Cell.pointers (definition.sci0CodeBase + definition.paddedCodeSize + 4) locals

/-- The values of the synonyms, in pairs. -/
def synonymValues (definition : ScriptDefinition) : List Nat :=
  definition.synonyms.flatMap fun (replaced, replacement) => [replaced.toNat, replacement.toNat]

/-- The block of the exports, if there are any. -/
def exportBlock (exports : List Cell) : Bytes :=
  if exports.isEmpty then #[]
  else blockBytes .exports (plainBytes [exports.length] ++ Cell.bytes exports)

/-- The block of the synonyms, if there are any. -/
def synonymBlock (definition : ScriptDefinition) : Bytes :=
  if definition.synonymValues.isEmpty then #[]
  else blockBytes .synonyms (plainBytes definition.synonymValues)

/-- The blocks of the objects. -/
def objectsBytes (drafts : List Draft) : Bytes :=
  (drafts.map fun draft => blockBytes draft.sci0Kind draft.sci0Body).foldl (· ++ ·) #[]

/-- The block of the local variables, if there are any. -/
def localsBlock (locals : List Cell) : Bytes :=
  if locals.isEmpty then #[] else blockBytes .localVars (Cell.bytes locals)

/-- What a resource of the first format was built from. -/
structure Sci0Built (definition : ScriptDefinition) (bytes code : Bytes) (exports : List Cell)
    (drafts : List Draft) (locals : List Cell) : Prop where
  linked : definition.assembly.link definition.sci0CodeBase false definition.sci0Places = .ok code
  exported : List.Forall₂ (fun target cell =>
    definition.exportCell definition.sci0CodeBase definition.sci0Places target = .ok cell)
    definition.exports exports
  listed : drafts.map (fun draft => (draft.object, draft.home)) =
    definition.objects.zip definition.objectBlocks
  fits : ∀ draft ∈ drafts, draft.place = draft.home + 12 ∧
    draft.Fits definition definition.sci0Places definition.sci0CodeBase
  valued : List.Forall₂ (fun value cell => definition.sci0Places.cell value = .ok cell)
    definition.locals locals
  image : bytes = plainBytes [locals.length, 0] ++ exportBlock exports ++ definition.synonymBlock ++
    objectsBytes drafts ++ blockBytes .strings (textsBytes definition.texts) ++
    blockBytes .code (padded code) ++ localsBlock locals ++
    blockBytes .pointers (plainBytes ((definition.sci0Pointers drafts locals).length ::
      definition.sci0Pointers drafts locals)) ++
    plainBytes [BlockKind.terminator.toWord.toNat]

/-- A resource of the first format that can be built was built from something. -/
theorem buildSci0_eq_ok (version : definition.version = .sci0) {bytes : Bytes}
    (made : definition.buildSci0 = .ok bytes) :
    ∃ code exports drafts locals, definition.Sci0Built bytes code exports drafts locals := by
  -- Building succeeds only if each of its four steps does.
  obtain ⟨code, linked, made⟩ := bind_eq_ok.mp made
  obtain ⟨exports, exported, made⟩ := bind_eq_ok.mp made
  obtain ⟨objects, objectsMade, made⟩ := bind_eq_ok.mp made
  obtain ⟨locals, localsMade, made⟩ := bind_eq_ok.mp made
  -- Each object was written from a draft.
  obtain ⟨drafts, listed, written, fits⟩ :=
    exists_of_mapM (fun draft : Draft => (draft.object, draft.home))
      (fun draft => (blockBytes draft.sci0Kind draft.sci0Body,
        Cell.pointers draft.place draft.cells))
      (fun draft => draft.place = draft.home + 12 ∧
        draft.Fits definition definition.sci0Places definition.sci0CodeBase) objectsMade (by
      intro given result done
      obtain ⟨object, block⟩ := given
      obtain ⟨⟨body, pointers⟩, objectMade, same⟩ := bind_eq_ok.mp done
      obtain ⟨draft, rfl, rfl, place, fits, rfl, rfl⟩ := sci0Object_eq_ok version objectMade
      cases same
      exact ⟨draft, rfl, rfl, place, fits⟩)
  subst written
  refine ⟨code, exports, drafts, locals, linked, mapM_eq_ok.mp exported, listed, fits,
    mapM_eq_ok.mp localsMade, ?_⟩
  cases made
  simp only [sci0Pointers, Script.draftPointers, objectsBytes, List.flatMap_map, List.map_map,
    Nat.zero_add]
  rfl

/-- The export block has the size that building reckons with. -/
theorem size_exportBlock {exports : List Cell}
    (same : definition.exports.length = exports.length) :
    (exportBlock exports).size = definition.exportBlockSize := by
  -- Without exports there is no block; otherwise a count comes before them.
  simp only [exportBlock, exportBlockSize, List.isEmpty_iff_length_eq_zero, same]
  split
  · rfl
  · simp only [Outline.size_blockBytes, Array.size_append, size_plainBytes, Cell.size_bytes,
      List.length_singleton]
    omega

/-- There are two values for each synonym. -/
theorem length_synonymValues (definition : ScriptDefinition) :
    definition.synonymValues.length = 2 * definition.synonyms.length := by
  -- Each synonym is written as two words.
  rw [synonymValues, List.length_flatMap]
  simp [Nat.mul_comm]

/-- The synonym block has the size that building reckons with. -/
theorem size_synonymBlock (definition : ScriptDefinition) :
    definition.synonymBlock.size = definition.synonymBlockSize := by
  have length := definition.length_synonymValues
  simp only [synonymBlock, synonymBlockSize, List.isEmpty_iff_length_eq_zero, length]
  -- Without synonyms the block is left out.
  by_cases none_ : definition.synonyms.length = 0
  · rw [if_pos (by omega), if_pos none_]
    rfl
  · rw [if_neg (by omega), if_neg none_]
    simp only [Outline.size_blockBytes, size_plainBytes, length]
    omega

namespace Sci0Built

variable {bytes code : Bytes} {exports : List Cell} {drafts : List Draft} {locals : List Cell}

/-- The drafts are those of the objects. -/
theorem objects (built : definition.Sci0Built bytes code exports drafts locals) :
    drafts.map (·.object) = definition.objects := by
  -- The list of pairs has the objects as its first parts.
  have firsts := congrArg (List.map Prod.fst) built.listed
  rw [List.map_map, List.map_fst_zip (by simp [objectBlocks])] at firsts
  exact firsts

/-- The drafts are in the blocks of the objects. -/
theorem homes (built : definition.Sci0Built bytes code exports drafts locals) :
    drafts.map (·.home) = definition.objectBlocks := by
  -- The list of pairs has the blocks as its second parts.
  have seconds := congrArg (List.map Prod.snd) built.listed
  rw [List.map_map, List.map_snd_zip (by simp [objectBlocks])] at seconds
  exact seconds

/-- The blocks of the objects have the sizes that building reckons with. -/
theorem blockSizes (version : definition.version = .sci0)
    (built : definition.Sci0Built bytes code exports drafts locals) :
    (drafts.map fun draft => blockBytes draft.sci0Kind draft.sci0Body).map (·.size) =
      definition.objects.map ObjectDefinition.blockSize := by
  -- Draft by draft, since the blocks are those of the objects in their order.
  rw [← built.objects, List.map_map, List.map_map]
  apply List.map_congr_left
  intro draft member
  simp only [Function.comp_apply, Outline.size_blockBytes]
  exact Draft.size_sci0Body version (built.fits draft member).2

/-- The parts of the resource, each where building reckons it to be. -/
structure Parts (definition : ScriptDefinition) (bytes code : Bytes) (exports : List Cell)
    (drafts : List Draft) (locals : List Cell) : Prop where
  headerAt : Carries bytes 0 (plainBytes [locals.length, 0])
  exportsAt : Carries bytes 4 (exportBlock exports)
  synonymsAt : Carries bytes (4 + definition.exportBlockSize) definition.synonymBlock
  objectsAt : Carries bytes (4 + definition.exportBlockSize + definition.synonymBlockSize)
    (objectsBytes drafts)
  textsAt : Carries bytes definition.textBlock (blockBytes .strings (textsBytes definition.texts))
  codeAt : Carries bytes (definition.textBlock + (4 + (textsBytes definition.texts).size))
    (blockBytes .code (padded code))
  localsAt : Carries bytes (definition.sci0CodeBase + definition.paddedCodeSize)
    (localsBlock locals)
  pointersAt : Carries bytes
    (definition.sci0CodeBase + definition.paddedCodeSize + (localsBlock locals).size)
    (blockBytes .pointers (plainBytes ((definition.sci0Pointers drafts locals).length ::
      definition.sci0Pointers drafts locals)))
  terminatorAt : Carries bytes
    (definition.sci0CodeBase + definition.paddedCodeSize + (localsBlock locals).size +
      (blockBytes .pointers (plainBytes ((definition.sci0Pointers drafts locals).length ::
        definition.sci0Pointers drafts locals))).size)
    (plainBytes [BlockKind.terminator.toWord.toNat])

/-- The parts of the resource are where building reckons them to be. -/
theorem parts (version : definition.version = .sci0)
    (built : definition.Sci0Built bytes code exports drafts locals) :
    Parts definition bytes code exports drafts locals := by
  have whole := Carries.self bytes
  have exportSize : (exportBlock exports).size = definition.exportBlockSize :=
    size_exportBlock built.exported.length_eq
  have objectsSize : (objectsBytes drafts).size =
      totalSize (definition.objects.map ObjectDefinition.blockSize) := by
    rw [objectsBytes, size_foldl_append, built.blockSizes version]
  have codeSize := size_padded (Assembly.size_link built.linked)
  -- The resource is the sequence of its blocks, so each carries what it was built from.
  nth_rewrite 2 [built.image] at whole
  simp only [Carries.append, Array.size_append, size_plainBytes, List.length_cons,
    List.length_nil, exportSize, definition.size_synonymBlock, objectsSize,
    Outline.size_blockBytes, codeSize] at whole
  obtain ⟨⟨⟨⟨⟨⟨⟨⟨header, exports⟩, synonyms⟩, objects⟩, texts⟩, code⟩, locals⟩, pointers⟩,
    terminator⟩ := whole
  refine ⟨header, exports.move (by omega), synonyms.move (by omega), objects.move (by omega),
    texts.move ?_, code.move ?_, locals.move ?_, pointers.move ?_, terminator.move ?_⟩
  all_goals
    simp only [sci0CodeBase, textBlock, Outline.size_blockBytes, size_plainBytes, List.length_cons]
    omega

section Walk

open Outline

variable {number : UInt16} {more : Bytes} {declared pos : Nat} {outline : Outline}

/-- The walk over the export block. -/
theorem walk_exports (small : bytes.size < 65536)
    (carries : Carries bytes pos (exportBlock exports)) :
    walkBlocks ⟨number, bytes ++ more⟩ declared bytes.size pos outline =
      walkBlocks ⟨number, bytes ++ more⟩ declared bytes.size (pos + (exportBlock exports).size)
        { outline with exports := outline.exports ++ (exports.map (·.word)).toArray } := by
  refine walkBlocks_optional small carries (by decide) ?_ ?_
  · -- Without exports there is no block, and the walk finds none.
    intro none_
    rw [List.isEmpty_iff.mp none_]
    simp
  · -- The block is read by its own count, which is that of the exports.
    intro body
    have bound := body.bound
    rw [Array.size_append, size_plainBytes, Cell.size_bytes] at bound
    exact addBlock_exports (body.before more) (by omega)

/-- The walk over the synonym block. -/
theorem walk_synonyms (small : bytes.size < 65536)
    (carries : Carries bytes pos definition.synonymBlock) :
    walkBlocks ⟨number, bytes ++ more⟩ declared bytes.size pos outline =
      walkBlocks ⟨number, bytes ++ more⟩ declared bytes.size (pos + definition.synonymBlock.size)
        { outline with synonyms := outline.synonyms ++
          (definition.synonyms.map fun (replaced, replacement) =>
            (⟨replaced, replacement⟩ : Synonym)).toArray } := by
  have length := definition.length_synonymValues
  refine walkBlocks_optional small carries (by decide) ?_ ?_
  · intro none_
    rw [List.isEmpty_iff_length_eq_zero, length] at none_
    have nothing : definition.synonyms = [] := List.length_eq_zero_iff.mp (by omega)
    simp [nothing]
  · -- The block has no count: it is read to its end, two words at a time.
    intro body
    have words := (body.before more).values
    have same : definition.synonymValues.map UInt16.ofNat =
        synonymWords (definition.synonyms.map fun (replaced, replacement) =>
          ⟨replaced, replacement⟩) := by
      simp [synonymValues, synonymWords, List.map_flatMap, List.flatMap_map]
    rw [same] at words
    rw [size_plainBytes, length, show 2 * (2 * definition.synonyms.length) =
      4 * (definition.synonyms.map fun (replaced, replacement) =>
        (⟨replaced, replacement⟩ : Synonym)).length by rw [List.length_map]; omega]
    exact addBlock_synonyms words

/-- The walk over the blocks of the objects. -/
theorem walk_objects (drafts : List Draft) (small : bytes.size < 65536)
    (carries : Carries bytes pos (objectsBytes drafts)) :
    walkBlocks ⟨number, bytes ++ more⟩ declared bytes.size pos outline =
      walkBlocks ⟨number, bytes ++ more⟩ declared bytes.size (pos + (objectsBytes drafts).size)
        { outline with objectBases := outline.objectBases ++
          ((running pos ((drafts.map fun draft => blockBytes draft.sci0Kind draft.sci0Body).map
            (·.size))).map (· + 12)).toArray } := by
  -- The walk moves on from block to block, so its place and what it has found vary.
  induction drafts generalizing pos outline with
  | nil => simp [objectsBytes, running]
  | cons draft drafts ih =>
    have parts : objectsBytes (draft :: drafts) =
        blockBytes draft.sci0Kind draft.sci0Body ++ objectsBytes drafts := by
      rw [objectsBytes, List.map_cons, List.foldl_cons, foldl_append_eq, Array.empty_append]
      rfl
    rw [parts, Carries.append] at carries
    -- Classes and instances have blocks of different kinds, which are treated alike.
    have found : addBlock ⟨number, bytes ++ more⟩ declared outline draft.sci0Kind (pos + 4)
        (pos + 4 + draft.sci0Body.size) =
        pure { outline with objectBases := outline.objectBases.push (pos + 12) } := by
      rw [Draft.sci0Kind]
      split
      · rfl
      · rfl
    have other : draft.sci0Kind ≠ .terminator := by
      rw [Draft.sci0Kind]
      split
      · decide
      · decide
    rw [walkBlocks_block small carries.1 other found, ih carries.2, parts, Array.size_append,
      ← Nat.add_assoc]
    simp [running]

/-- The walk over the block of the local variables, all of which were declared. -/
theorem walk_locals (small : bytes.size < 65536) (carries : Carries bytes pos (localsBlock locals))
    (room : outline.locals = Array.replicate locals.length .null)
    (fresh : outline.localsRange = none) :
    walkBlocks ⟨number, bytes ++ more⟩ locals.length bytes.size pos outline =
      walkBlocks ⟨number, bytes ++ more⟩ locals.length bytes.size
        (pos + (localsBlock locals).size)
        { outline with
          locals := (locals.map fun cell => Address.number cell.word).toArray
          localsRange :=
            if locals.isEmpty then none else some (pos + 4, pos + 4 + 2 * locals.length) } := by
  by_cases none_ : locals.isEmpty = true
  · -- Without local variables there is no block, and nothing to set.
    have nothing := List.isEmpty_iff.mp none_
    subst nothing
    have same : outline = { outline with locals := #[], localsRange := none } := by
      rw [← fresh]
      rw [List.length_nil, Array.replicate_zero] at room
      rw [← room]
    rw [localsBlock, if_pos none_]
    simpa using congrArg _ same
  · -- The block has as many words as variables were declared, so all of them are set.
    rw [localsBlock, if_neg none_] at carries ⊢
    have body := carries.before more
    rw [blockBytes, Carries.append, size_plainBytes] at body
    have all : outline.locals.size = locals.length := by rw [room, Array.size_replicate]
    rw [walkBlocks_block small carries (by decide) (addBlock_localVars body.2 all), if_neg none_]

end Walk

/-- Each object is in its block. -/
theorem carries_draft (version : definition.version = .sci0)
    (built : definition.Sci0Built bytes code exports drafts locals) :
    ∀ draft ∈ drafts, Carries bytes draft.home (blockBytes draft.sci0Kind draft.sci0Body) := by
  -- The blocks are one after the other, so each is at the sum of the sizes before it.
  have blocks := (built.parts version).objectsAt.parts
  rw [built.blockSizes version] at blocks
  have homes : running (4 + definition.exportBlockSize + definition.synonymBlockSize)
      (definition.objects.map ObjectDefinition.blockSize) = drafts.map (·.home) :=
    built.homes.symm
  rw [homes, List.forall₂_map_left_iff, List.forall₂_map_right_iff, List.forall₂_same] at blocks
  exact blocks

/-- The properties of an object lie in its block. -/
theorem place_bound (version : definition.version = .sci0)
    (built : definition.Sci0Built bytes code exports drafts locals) {draft : Draft}
    (member : draft ∈ drafts) :
    draft.place = draft.home + 12 ∧ 4 ≤ draft.cells.length ∧
      12 + 2 * draft.cells.length ≤ draft.object.blockSize ∧
      draft.home + draft.object.blockSize ≤ bytes.size := by
  obtain ⟨place, fits⟩ := built.fits draft member
  have bound := (built.carries_draft version draft member).bound
  have count := fits.count
  rw [version] at count
  rw [Outline.size_blockBytes, Draft.size_sci0Body version fits] at bound
  -- The header of the block and the head of the object come before the properties.
  refine ⟨place, ?_, ?_, bound⟩
  · rw [count]
    simp [ObjectDefinition.propertyCount, Version.layout]
  · rw [count, ObjectDefinition.blockSize]
    omega

/-- The offsets of the addresses in a script lie in it. -/
theorem pointers_lt (version : definition.version = .sci0)
    (built : definition.Sci0Built bytes code exports drafts locals) :
    ∀ offset ∈ definition.sci0Pointers drafts locals, offset < bytes.size := by
  intro offset member
  rcases List.mem_append.mp member with inObjects | inLocals
  · -- An address in a property lies in the block of its object.
    obtain ⟨draft, among, inDraft⟩ := List.mem_flatMap.mp inObjects
    have bounds := Cell.mem_pointers inDraft
    have block := built.place_bound version among
    omega
  · -- An address in a variable lies in the block of the variables, so there is one.
    have bounds := Cell.mem_pointers inLocals
    have block := (built.parts version).localsAt.bound
    have some_ : ¬ locals.isEmpty = true := by
      intro none_
      rw [List.isEmpty_iff.mp none_] at inLocals
      cases inLocals
    rw [localsBlock, if_neg some_, Outline.size_blockBytes, Cell.size_bytes] at block
    omega

/-- The number of local variables is in the header of the resource. -/
theorem declaredLocals?_eq (version : definition.version = .sci0)
    (built : definition.Sci0Built bytes code exports drafts locals) (small : bytes.size < 65536)
    (more : Bytes) : declaredLocals? (bytes ++ more) = some locals.length := by
  have parts := built.parts version
  have count := (parts.headerAt.before more).values.1
  have block := parts.localsAt.bound
  rw [declaredLocals?, count, Option.map_some, toNat_word]
  -- The variables are all in the resource, so their number fits into a word.
  rw [localsBlock] at block
  split at block
  · rename_i none_
    rw [List.isEmpty_iff.mp none_]
    decide
  · rw [Outline.size_blockBytes, Cell.size_bytes] at block
    omega

/-- What the walk over a resource of the first format finds. -/
def outline (definition : ScriptDefinition) (exports : List Cell) (drafts : List Draft)
    (locals : List Cell) : Outline where
  exports := (exports.map (·.word)).toArray
  synonyms := (definition.synonyms.map fun (replaced, replacement) =>
    (⟨replaced, replacement⟩ : Synonym)).toArray
  codeRanges :=
    [(definition.sci0CodeBase, definition.sci0CodeBase + definition.paddedCodeSize)]
  objectBases := (drafts.map (·.place)).toArray
  locals := (locals.map fun cell => Address.number cell.word).toArray
  localsRange :=
    if locals.isEmpty then none
    else some (definition.sci0CodeBase + definition.paddedCodeSize + 4,
      definition.sci0CodeBase + definition.paddedCodeSize + 4 + 2 * locals.length)
  relocations := (definition.sci0Pointers drafts locals).toArray

/-- The walk over a resource of the first format finds all that it was built from. -/
theorem ofSci0_eq (version : definition.version = .sci0)
    (built : definition.Sci0Built bytes code exports drafts locals) (small : bytes.size < 65536)
    (number : UInt16) (more : Bytes) :
    Outline.ofSci0 ⟨number, bytes ++ more⟩ bytes.size =
      pure (outline definition exports drafts locals) := by
  have parts := built.parts version
  -- The places that building and loading reckon with are the same.
  have bases : ((running (4 + definition.exportBlockSize + definition.synonymBlockSize)
      ((drafts.map fun draft => blockBytes draft.sci0Kind draft.sci0Body).map (·.size))).map
        (· + 12)) = drafts.map (·.place) := by
    rw [built.blockSizes version]
    change definition.objectBlocks.map (· + 12) = _
    rw [← built.homes, List.map_map]
    exact List.map_congr_left fun draft member => (built.fits draft member).1.symm
  have exportSize : (exportBlock exports).size = definition.exportBlockSize :=
    size_exportBlock built.exported.length_eq
  have objectsEnd : 4 + definition.exportBlockSize + definition.synonymBlockSize +
      (objectsBytes drafts).size = definition.textBlock := by
    rw [objectsBytes, size_foldl_append, built.blockSizes version]
    rfl
  have codeSize := size_padded (Assembly.size_link built.linked)
  have codeEnd : definition.textBlock + (4 + (textsBytes definition.texts).size) +
      (4 + definition.paddedCodeSize) =
      definition.sci0CodeBase + definition.paddedCodeSize := by
    rw [sci0CodeBase]
    omega
  -- The pointers fit into their block, so their count is a word.
  have pointersSmall : (definition.sci0Pointers drafts locals).length < 65536 := by
    have block := parts.pointersAt.bound
    rw [Outline.size_blockBytes, size_plainBytes, List.length_cons] at block
    omega
  have pointersBody := parts.pointersAt.before more
  rw [blockBytes, Carries.append, size_plainBytes] at pointersBody
  rw [Outline.ofSci0, built.declaredLocals?_eq version small, Option.getD_some]
  -- The walk goes over the blocks in the order in which they were written.
  change Outline.walkBlocks _ _ _ 4 _ = _
  rw [walk_exports small parts.exportsAt, exportSize, walk_synonyms small parts.synonymsAt,
    definition.size_synonymBlock, walk_objects drafts small parts.objectsAt, objectsEnd, bases,
    Outline.walkBlocks_block small parts.textsAt (by decide) rfl, Outline.size_blockBytes,
    Outline.walkBlocks_block small parts.codeAt (by decide) rfl, Outline.size_blockBytes, codeSize,
    codeEnd, walk_locals small parts.localsAt rfl rfl,
    Outline.walkBlocks_block small parts.pointersAt (by decide)
      (Outline.addBlock_pointers pointersBody.2 pointersSmall fun offset member =>
        Nat.lt_trans (built.pointers_lt version offset member) small),
    Outline.walkBlocks_terminator parts.terminatorAt]
  have codeStart : definition.textBlock + (4 + (textsBytes definition.texts).size) + 4 =
      definition.sci0CodeBase := by
    rw [sci0CodeBase]
    omega
  simp [outline, codeStart]

/-- Objects lie one after the other, and before the local variables. -/
theorem ordered (version : definition.version = .sci0)
    (built : definition.Sci0Built bytes code exports drafts locals) :
    (drafts.Pairwise fun first second => first.place + 2 * first.cells.length ≤ second.place) ∧
      ∀ draft ∈ drafts, draft.place + 2 * draft.cells.length ≤
        definition.sci0CodeBase + definition.paddedCodeSize + 4 := by
  have homes : drafts.map (·.home) =
      running (4 + definition.exportBlockSize + definition.synonymBlockSize)
        (drafts.map (·.object.blockSize)) := by
    rw [built.homes, objectBlocks, ← built.objects, List.map_map]
    rfl
  constructor
  · -- The properties of an object end in its block, and the next block starts there.
    apply (pairwise_of_running homes).imp_of_mem
    intro first second firstMember secondMember apart
    have before := built.place_bound version firstMember
    have after := built.place_bound version secondMember
    omega
  · intro draft member
    have before := built.place_bound version member
    have ends := le_of_running homes member
    have total : 4 + definition.exportBlockSize + definition.synonymBlockSize +
        totalSize (drafts.map (·.object.blockSize)) = definition.textBlock := by
      rw [textBlock, ← built.objects, List.map_map]
      rfl
    rw [sci0CodeBase]
    omega

/-- The addresses of a script of the first format are set. -/
theorem relocations (version : definition.version = .sci0)
    (built : definition.Sci0Built bytes code exports drafts locals) (small : bytes.size < 65536)
    (script : Script) :
    (definition.sci0Pointers drafts locals).foldlM
        (Script.relocate (outline definition exports drafts locals).localsRange (UInt16.ofNat 0))
        ({ script with objects :=
            (drafts.map (Draft.parsed definition script.segment 0)).toArray },
          (outline definition exports drafts locals).locals) =
      pure ({ script with objects :=
          (drafts.map (Draft.relocated definition script.segment 0)).toArray },
        (locals.map (Cell.address script.segment 0)).toArray) := by
  obtain ⟨pairwise, before⟩ := built.ordered version
  rw [sci0Pointers, List.foldlM_append, Script.foldlM_relocate_objects definition script, pure_bind]
  · -- The range of the variables is known as soon as there is one.
    apply Script.foldlM_relocate_values
    intro offset low high
    have some_ : ¬ locals.isEmpty = true := by
      intro none_
      rw [List.isEmpty_iff.mp none_, List.length_nil] at high
      omega
    rw [outline, if_neg some_, Option.filter_some, if_pos]
    simp [Script.within]
    omega
  · intro draft member
    have bound := built.place_bound version member
    omega
  · -- Objects do not overlap, so a pointer belongs to one of them.
    exact pairwise
  · -- The local variables come after all objects.
    intro draft member offset low high
    have bound := before draft member
    rw [outline]
    split
    · rfl
    · rw [Option.filter_some, if_neg]
      simp [Script.within]
      omega

/-- The places of a resource of the first format are where things are. -/
theorem settled (version : definition.version = .sci0)
    (built : definition.Sci0Built bytes code exports drafts locals)
    (clean : ∀ text ∈ definition.texts, 0 ∉ text.toUTF8.data) {script : Script} {more : Bytes}
    (data : script.data = bytes ++ more) (small : script.data.size ≤ 65536)
    (objects : script.objects =
      (drafts.map (Draft.relocated definition script.segment 0)).toArray) :
    Settled definition definition.sci0Places 0 drafts script := by
  refine ⟨built.objects, ?_, by rw [objects], ?_⟩
  · -- Building gives an object the place twelve bytes into its block.
    rw [sci0Places, ← built.objects, ← built.homes, List.map_map, List.map_map, List.zip_map']
    apply List.map_congr_left
    intro draft member
    rw [(built.fits draft member).1]
    rfl
  · -- A text ends at the first zero, and it has none of its own.
    intro text place found
    have listed := Places.mem_of_text found
    have block := (built.parts version).textsAt.before more
    rw [blockBytes, Carries.append, size_plainBytes, ← data] at block
    obtain ⟨member, carries⟩ := carries_text block.2 listed
    have bound := carries.bound
    rw [size_textBytes] at bound
    rw [Nat.zero_add]
    exact ⟨by omega, Script.spells_of_carries carries (clean text member)⟩

/-- The code of a resource of the first format is at its base. -/
theorem carries_code (version : definition.version = .sci0)
    (built : definition.Sci0Built bytes code exports drafts locals) :
    Carries bytes definition.sci0CodeBase code := by
  -- The block of code begins with its kind and its size.
  have block := (built.parts version).codeAt
  rw [blockBytes, padded, Carries.append, Carries.append, size_plainBytes] at block
  apply block.2.1.move
  simp only [sci0CodeBase, List.length_cons, List.length_nil]
  omega

/-- The walk over a resource of the first format is the outline of its script. -/
theorem run_outline (version : definition.version = .sci0)
    (built : definition.Sci0Built bytes code exports drafts locals) (small : bytes.size < 65536)
    (more : Bytes) (heapStart : Nat) (journal : Journal) :
    (Script.outline definition.version ⟨definition.number, bytes ++ more⟩ bytes.size heapStart).run
      journal = (.ok (outline definition exports drafts locals, bytes ++ more), journal) := by
  -- The walk gives the outline, and in this format the buffer is left as it is.
  rw [version]
  change (do
    return (← Outline.ofSci0 ⟨definition.number, bytes ++ more⟩ bytes.size, bytes ++ more) :
      Logged (Outline × Bytes)).run journal = _
  rw [built.ofSci0_eq version small]
  rfl

/-- The objects of a resource of the first format are read. -/
theorem parse_draft (version : definition.version = .sci0)
    (built : definition.Sci0Built bytes code exports drafts locals) {more : Bytes}
    (small : (bytes ++ more).size ≤ 65536) (segment : SegmentId) :
    ∀ draft ∈ drafts, Object.parse definition.version ⟨definition.number, bytes ++ more⟩ segment
      bytes.size (0 + draft.place) = .ok (draft.parsed definition segment 0) := by
  -- The record is behind the two words that begin its block.
  intro draft member
  obtain ⟨place, fits⟩ := built.fits draft member
  have block := (built.carries_draft version draft member).before more
  rw [blockBytes, Carries.append, size_plainBytes] at block
  rw [version, Nat.zero_add]
  apply Draft.parseSci0_eq segment version fits block.2 small
  rw [place, List.length_cons, List.length_singleton]

/-- In memory, a resource of the first format is followed by room for the local variables. -/
theorem bufferSize_eq (version : definition.version = .sci0)
    (built : definition.Sci0Built bytes code exports drafts locals) (small : bytes.size < 65536) :
    definition.version.layout.bufferSize definition.number bytes none =
      .ok (bytes.size + 2 * locals.length) := by
  -- The number of local variables is read from their block.
  have declared := built.declaredLocals?_eq version small #[]
  rw [Array.append_empty] at declared
  rw [version]
  simp only [Version.layout, Layout.bufferSize, declared]

/-- A resource of the first format can be loaded if it fits a segment in memory. -/
theorem run_load (version : definition.version = .sci0)
    (built : definition.Sci0Built bytes code exports drafts locals) (small : bytes.size < 65536)
    (room : bytes.size + 2 * locals.length ≤ 65536) (segment : SegmentId) (journal : Journal) :
    ∃ script more, (Script.load definition.version definition.number segment bytes none).run
        journal = (.ok (script, (locals.map (Cell.address segment 0)).toArray), journal) ∧
      script.number = definition.number ∧ script.segment = segment ∧
      script.data = bytes ++ more ∧ script.data.size ≤ 65536 ∧
      script.exports = (outline definition exports drafts locals).exports ∧
      script.synonyms = (outline definition exports drafts locals).synonyms ∧
      script.codeRanges = (outline definition exports drafts locals).codeRanges ∧
      script.objects = (drafts.map (Draft.relocated definition segment 0)).toArray := by
  -- The buffer is the resource and room for the local variables.
  let more : Bytes := Array.replicate (bytes.size + 2 * locals.length - bytes.size) 0
  have data : Script.buffer definition.version bytes none (bytes.size + 2 * locals.length) =
      bytes ++ more := by
    rw [version]
    rfl
  have whole : (bytes ++ more).size ≤ 65536 := by
    rw [Array.size_append, Array.size_replicate]
    omega
  have outlined := built.run_outline version small more
    (Script.heapOffset definition.version bytes none) journal
  nth_rewrite 1 [← data] at outlined
  have bases : (outline definition exports drafts locals).objectBases =
      (drafts.map (0 + ·.place)).toArray := by
    simp [outline]
  have below : ∀ draft ∈ drafts, 0 + draft.place < 65536 := by
    intro draft member
    have bound := built.place_bound version member
    omega
  -- Objects come in the order of their places, so none is read twice.
  have ascending : drafts.Pairwise fun first second => first.place < second.place := by
    apply (built.ordered version).1.imp_of_mem
    intro first second member _ apart
    have bound := built.place_bound version member
    omega
  obtain ⟨script, loaded, number, rfl, buffer, others⟩ :=
    Script.run_load (built.bufferSize_eq version small) room outlined bases
      (built.parse_draft version whole segment) below ascending (by
        intro script equal
        subst equal
        exact built.relocations version small script)
  exact ⟨script, more, loaded, number, rfl, buffer, buffer ▸ whole, others⟩

/-- Loading a resource of the first format gives the script that it was built from. -/
theorem load_restored (version : definition.version = .sci0)
    (built : definition.Sci0Built bytes code exports drafts locals)
    (clean : ∀ text ∈ definition.texts, 0 ∉ text.toUTF8.data) (small : bytes.size < 65536)
    (room : bytes.size + 2 * locals.length ≤ 65536) (segment : SegmentId) (journal : Journal) :
    ∃ script addresses, (Script.load definition.version definition.number segment bytes none).run
        journal = (.ok (script, addresses), journal) ∧
      definition.Restored segment definition.sci0CodeBase script addresses := by
  obtain ⟨script, more, loaded, number, rfl, buffer, whole, offered, synonyms, codeRanges,
    objects⟩ := built.run_load version small room segment journal
  refine ⟨script, _, loaded, ?_⟩
  -- What was loaded is compared with the definition part by part.
  apply (built.settled version clean buffer whole objects).restored
    (fun draft member => (built.fits draft member).2) number built.exported _ built.valued rfl _
    codeRanges
  · rw [Places.shift_zero, version]
    exact built.linked
  · rw [buffer]
    exact (built.carries_code version).before more
  · rw [offered]
    simp [outline]
  · rw [synonyms, version]
    rfl

end Sci0Built

end ScriptDefinition

end AdventureVm
