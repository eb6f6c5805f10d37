import AdventureVm.Definition.Sci11
import AdventureVm.Proofs.RoundTrip.Layout
import AdventureVm.Proofs.RoundTrip.Shifting

/-! Scripts of the second format: what was built is what is loaded. -/

namespace AdventureVm

/-- The selectors of methods and the places of their code, in turn. -/
def methodValues (methods : List (UInt16 × Label)) (offsets : List Nat) : List Nat :=
  (List.zipWith (fun method offset => [method.1.toNat, offset]) methods offsets).flatten

/-- There are two values for each method. -/
theorem length_methodValues {methods : List (UInt16 × Label)} {offsets : List Nat}
    (same : methods.length = offsets.length) :
    (methodValues methods offsets).length = 2 * methods.length := by
  rw [methodValues, List.length_flatten]
  induction methods generalizing offsets with
  | nil => rfl
  | cons method methods ih =>
    -- There is one offset for each method.
    cases offsets with
    | nil => cases same
    | cons offset offsets =>
      have rest := ih (Nat.succ.inj same)
      simp only [List.zipWith_cons_cons, List.map_cons, List.sum_cons, rest, List.length_cons,
        List.length_nil]
      omega

/-- What was written for methods is what they are read as. -/
theorem methodPairs_methodValues (methods : List (UInt16 × Label)) (offsets : List Nat) :
    Object.methodPairs ((methodValues methods offsets).map UInt16.ofNat) =
      List.zipWith (fun method offset => ⟨method.1, UInt16.ofNat offset⟩) methods offsets := by
  induction methods generalizing offsets with
  | nil => rfl
  | cons method methods ih =>
    -- Both sides end with the shorter of the two lists.
    cases offsets with
    | nil => rfl
    | cons offset offsets =>
      rw [List.zipWith_cons_cons, ← ih]
      simp [methodValues, Object.methodPairs]

namespace Draft

/-- The selector and method tables of an object of the second format. -/
def sci11Table (draft : Draft) : Bytes :=
  plainBytes (draft.object.selectors .sci11) ++ (plainBytes [draft.object.methods.length] ++
    plainBytes (methodValues draft.object.methods draft.offsets))

/-- The first four properties of an object of the second format say how it is stored. -/
def HasHead (draft : Draft) : Prop :=
  draft.cells.take 4 = Cell.plain [objectMagic.toNat, draft.object.propertyCount .sci11, draft.home,
    draft.home + 2 * draft.object.propertyCount .sci11]

variable {definition : ScriptDefinition} {places : Places} {codeBase : Nat} {draft : Draft}

/-- The first four words of the record are known. -/
theorem HasHead.getElem? (head : draft.HasHead) {index : Nat} (early : index < 4) :
    (draft.cells.map (·.word))[index]? = [objectMagic,
      UInt16.ofNat (draft.object.propertyCount .sci11), UInt16.ofNat draft.home,
      UInt16.ofNat (draft.home + 2 * draft.object.propertyCount .sci11)][index]? := by
  -- The first words are known as a list.
  have known : (draft.cells.map (·.word)).take 4 = [objectMagic,
      UInt16.ofNat (draft.object.propertyCount .sci11), UInt16.ofNat draft.home,
      UInt16.ofNat (draft.home + 2 * draft.object.propertyCount .sci11)] := by
    rw [← List.map_take, head]
    rfl
  rw [← known, List.getElem?_take_of_lt early]

/-- A record starts with the mark of an object. -/
theorem HasHead.magic (head : draft.HasHead) {data : Bytes} {base : Nat}
    (words : HasWords data base (draft.cells.map (·.word))) :
    word? data base = some objectMagic :=
  words.word?_of_getElem? (head.getElem? (show 0 < 4 by decide))

/-- After the mark, a record says how many properties there are. -/
theorem HasHead.number (head : draft.HasHead) {data : Bytes} {base : Nat}
    (words : HasWords data base (draft.cells.map (·.word))) :
    word? data (base + 2) = some (UInt16.ofNat (draft.object.propertyCount .sci11)) :=
  words.word?_of_getElem? (head.getElem? (show 1 < 4 by decide))

/-- The third word of a record leads to the selectors. -/
theorem HasHead.selectorsAt (head : draft.HasHead) (small : draft.home < 65536) :
    ((draft.cells.map Cell.word).toArray[2]?.getD 0).toNat = draft.home := by
  -- The tables of an object begin with its selectors.
  rw [List.getElem?_toArray, head.getElem? (show 2 < 4 by decide)]
  exact toNat_word small

/-- The fourth word of a record leads to the methods. -/
theorem HasHead.methodsAt (head : draft.HasHead)
    (small : draft.home + 2 * draft.object.propertyCount .sci11 < 65536) :
    ((draft.cells.map Cell.word).toArray[3]?.getD 0).toNat =
      draft.home + 2 * draft.object.propertyCount .sci11 := by
  -- The methods come behind the selectors, of which there is one for each property.
  rw [List.getElem?_toArray, head.getElem? (show 3 < 4 by decide)]
  exact toNat_word small

/-- An object has as many selectors as properties. -/
theorem length_selectors (object : ObjectDefinition) (version : Version) :
    (object.selectors version).length = object.propertyCount version := by
  simp [ObjectDefinition.selectors, ObjectDefinition.propertyCount]

/-- The tables take as many bytes as building reckons with. -/
theorem size_sci11Table (same : draft.object.methods.length = draft.offsets.length) :
    draft.sci11Table.size = draft.object.tableBytes := by
  -- Selectors and methods take a word each, and the count of methods one more.
  simp only [sci11Table, Array.size_append, size_plainBytes, length_selectors,
    length_methodValues same, ObjectDefinition.tableBytes, List.length_singleton]
  omega

/-- An object is read from its record and its tables. -/
theorem parseSci11_eq {source : Source} {scriptSize base : Nat} (segment : SegmentId)
    (version : definition.version = .sci11) (fits : draft.Fits definition places codeBase)
    (head : draft.HasHead) (record : Carries source.data base (Cell.bytes draft.cells))
    (tables : Carries source.data draft.home draft.sci11Table)
    (inside : draft.home + draft.sci11Table.size ≤ scriptSize) (small : source.data.size ≤ 65536)
    {delta : Nat} (place : base = delta + draft.place) :
    Object.parseSci11 source segment scriptSize base =
      .ok (draft.parsed definition segment delta) := by
  have count := fits.count
  have least : 9 ≤ draft.object.propertyCount .sci11 := by
    simp [ObjectDefinition.propertyCount, Version.layout]
  rw [version] at count
  have same := fits.methods.length_eq
  have sized := size_sci11Table same
  rw [ObjectDefinition.tableBytes] at sized
  have bound := tables.bound
  have cells := record.words
  have recordBound := cells.bound
  rw [List.length_map] at recordBound
  rw [sci11Table, Carries.append, Carries.append, size_plainBytes, size_plainBytes,
    length_selectors] at tables
  obtain ⟨selectorTable, methodCount, pairs⟩ := tables
  have selectors := selectorTable.values
  rw [← version, definition.map_selectors] at selectors
  have selectorCount : (definition.selectorWords draft.object).length =
      draft.object.propertyCount .sci11 := by
    rw [← definition.map_selectors, List.length_map, length_selectors, version]
  -- Everything is counted by words, none of which is too large.
  have countNat := toNat_word (show draft.object.propertyCount .sci11 < 65536 by omega)
  have methodNat := toNat_word (show draft.object.methods.length < 65536 by omega)
  -- The head of the record names the places of the two tables.
  have selectorsAt := head.selectorsAt (by omega)
  have methodsAt := head.methodsAt (by omega)
  -- Values are read from the record, and the two tables from the script part.
  have values := Source.table_of cells "property values" cells.bound
  have dictionary := Source.table_of selectors "property dictionary"
    (show _ ≤ scriptSize by rw [selectorCount]; omega)
  have methods := Source.table_of pairs.values "method dictionary"
    (show _ ≤ scriptSize by
      rw [List.length_map, length_methodValues same, List.length_singleton]
      omega)
  rw [List.length_map, count] at values
  rw [selectorCount] at dictionary
  rw [List.length_map, length_methodValues same, List.length_singleton] at methods
  -- The object is read in this order: header, values, selectors, methods.
  refine bind_eq_ok.mpr ⟨(), Object.checkMagic_of (head.magic cells),
    bind_eq_ok.mpr ⟨_, Source.word_of (head.number cells) _, ?_⟩⟩
  rw [countNat]
  refine bind_eq_ok.mpr ⟨(), Object.checkCount_of least, bind_eq_ok.mpr ⟨_, values, ?_⟩⟩
  rw [selectorsAt, methodsAt]
  refine bind_eq_ok.mpr ⟨_, dictionary,
    bind_eq_ok.mpr ⟨_, Source.word_of methodCount.values.1 _, ?_⟩⟩
  rw [methodNat]
  refine bind_eq_ok.mpr ⟨_, methods, ?_⟩
  simp only [parsed, version, or_true, if_true, methodPairs_methodValues, place, List.map_toArray,
    List.map_map]
  rfl

end Draft

namespace ScriptDefinition

variable {definition : ScriptDefinition}

/-- The tables of an object that can be written list its methods. -/
theorem objectTable_eq_ok {object : ObjectDefinition} {written : Bytes}
    (made : definition.objectTable object = .ok written) :
    ∃ offsets, List.Forall₂ (fun method offset =>
        definition.methodOffset definition.sci11CodeBase method.2 = .ok offset)
        object.methods offsets ∧
      written = plainBytes (object.selectors .sci11) ++ (plainBytes [object.methods.length] ++
        plainBytes (methodValues object.methods offsets)) := by
  -- Each method gives its selector and the place of its code.
  obtain ⟨pairs, pairsMade, same⟩ := bind_eq_ok.mp made
  obtain ⟨pieces, methods, values, found⟩ :=
    exists_of_mapM (fun piece : (UInt16 × Label) × Nat => piece.1)
      (fun piece => [piece.1.1.toNat, piece.2])
      (fun piece => definition.methodOffset definition.sci11CodeBase piece.1.2 = .ok piece.2)
      pairsMade (by
        intro given result done
        obtain ⟨selector, label⟩ := given
        obtain ⟨offset, found, listed⟩ := bind_eq_ok.mp done
        cases listed
        exact ⟨((selector, label), offset), rfl, rfl, found⟩)
  refine ⟨pieces.map (·.2), ?_, ?_⟩
  · rw [← methods, List.forall₂_map_left_iff, List.forall₂_map_right_iff, List.forall₂_same]
    exact found
  · cases same
    rw [plainBytes_append, plainBytes_append, Array.append_assoc, methodValues]
    congr 4
    rw [← values, ← methods, List.zipWith_map_left, List.zipWith_map_right, List.zipWith_self]

/-- An object that can be written has its properties where they belong. -/
theorem sci11Cells_eq_ok (version : definition.version = .sci11) {object : ObjectDefinition}
    {places : Places} {table : Nat} {cells : List Cell}
    (made : object.sci11Cells definition.number places table = .ok cells) {offsets : List Nat}
    (methods : List.Forall₂ (fun method offset =>
      definition.methodOffset definition.sci11CodeBase method.2 = .ok offset)
      object.methods offsets) (place : Nat) :
    Draft.HasHead ⟨object, place, table, cells, offsets⟩ ∧
      Draft.Fits definition places definition.sci11CodeBase
        ⟨object, place, table, cells, offsets⟩ := by
  obtain ⟨name, named, valued⟩ := bind_eq_ok.mp made
  obtain ⟨values, valuesMade, same⟩ := bind_eq_ok.mp valued
  cases same
  have stored := mapM_eq_ok.mp valuesMade
  have length := stored.length_eq
  refine ⟨rfl, ?_⟩
  -- Nine words of its own come first, the last of them the name, and then the declared values.
  constructor
  · simp [ObjectDefinition.propertyCount, version, Version.layout, length]
    omega
  · rw [version]
    simp [Version.layout, Cell.plain]
  · rw [version]
    simp [Version.layout, Cell.plain]
  · rw [version]
    rfl
  · rw [version]
    exact ⟨name, named, rfl⟩
  · rw [version]
    exact stored
  · exact methods

/-- Objects whose properties and tables can be written have drafts from which they are written. -/
theorem exists_drafts (version : definition.version = .sci11) {places : Places}
    {objects : List ObjectDefinition} {homes spots : List Nat} {rows : List (List Cell)}
    {tables : List Bytes} (sameHomes : homes.length = objects.length)
    (sameSpots : spots.length = objects.length)
    (rowsMade : List.Forall₂ (fun pair cells =>
      pair.1.sci11Cells definition.number places pair.2 = .ok cells) (objects.zip homes) rows)
    (tablesMade : List.Forall₂ (fun object written => definition.objectTable object = .ok written)
      objects tables) :
    ∃ drafts : List Draft, drafts.map (·.object) = objects ∧ drafts.map (·.home) = homes ∧
      drafts.map (·.place) = spots ∧ drafts.map (·.cells) = rows ∧
      drafts.map Draft.sci11Table = tables ∧
      ∀ draft ∈ drafts, draft.HasHead ∧ draft.Fits definition places definition.sci11CodeBase := by
  -- An object is written in two parts, and the draft of the object brings them together.
  induction objects generalizing homes spots rows tables with
  | nil =>
    cases tablesMade
    cases rowsMade
    rw [List.length_eq_zero_iff.mp sameHomes, List.length_eq_zero_iff.mp sameSpots]
    exact ⟨[], rfl, rfl, rfl, rfl, rfl, by simp⟩
  | cons object objects ih =>
    obtain ⟨home, homes, rfl⟩ := List.exists_cons_of_length_eq_add_one sameHomes
    obtain ⟨spot, spots, rfl⟩ := List.exists_cons_of_length_eq_add_one sameSpots
    rw [List.zip_cons_cons] at rowsMade
    cases rowsMade with
    | cons row rowsMade =>
      cases tablesMade with
      | cons table tablesMade =>
        obtain ⟨offsets, methods, rfl⟩ := objectTable_eq_ok table
        obtain ⟨drafts, rfl, rfl, rfl, rfl, rfl, fits⟩ :=
          ih (by simpa using sameHomes) (by simpa using sameSpots) rowsMade tablesMade
        have first := sci11Cells_eq_ok version row methods spot
        exact ⟨⟨object, spot, home, _, offsets⟩ :: drafts, rfl, rfl, rfl, rfl, rfl,
          List.forall_mem_cons.mpr ⟨first, fits⟩⟩

/-- The offsets of the addresses in the heap part, counted from its start. -/
def heapPointers (drafts : List Draft) (locals : List Cell) : List Nat :=
  Cell.pointers 4 (locals ++ (drafts.map (·.cells)).flatten)

/-- What the resources of the second format were built from. -/
structure Sci11Built (definition : ScriptDefinition) (script heap code : Bytes)
    (exports : List Cell) (drafts : List Draft) (locals : List Cell) : Prop where
  linked : definition.assembly.link definition.sci11CodeBase true
    (definition.sci11Places.shift definition.heapBase) = .ok code
  exported : List.Forall₂ (fun target cell =>
    definition.exportCell definition.sci11CodeBase definition.sci11Places target = .ok cell)
    definition.exports exports
  objects : drafts.map (·.object) = definition.objects
  homes : drafts.map (·.home) = definition.objectTables
  spots : drafts.map (·.place) = running definition.firstRecord definition.recordSizes
  fits : ∀ draft ∈ drafts, draft.HasHead ∧
    draft.Fits definition definition.sci11Places definition.sci11CodeBase
  valued : List.Forall₂ (fun value cell => definition.sci11Places.cell value = .ok cell)
    definition.locals locals
  scriptImage : script = plainBytes [definition.relocationTable, 0, 0, exports.length] ++
    Cell.bytes exports ++ padded code ++
    plainBytes ((Cell.pointers 8 exports).length :: Cell.pointers 8 exports) ++
    (drafts.map Draft.sci11Table).foldl (· ++ ·) #[]
  heapImage : heap = plainBytes [definition.firstText + (textsBytes definition.texts).size,
      locals.length] ++
    Cell.bytes (locals ++ (drafts.map (·.cells)).flatten) ++ plainBytes [0] ++
    textsBytes definition.texts ++
    plainBytes ((heapPointers drafts locals).length :: heapPointers drafts locals)

/-- Resources of the second format that can be built were built from something. -/
theorem buildSci11_eq_ok (version : definition.version = .sci11) {script heap : Bytes}
    (scriptMade : definition.sci11Script = .ok script)
    (heapMade : definition.sci11Heap = .ok heap) :
    ∃ code exports drafts locals,
      definition.Sci11Built script heap code exports drafts locals := by
  -- Building succeeds only if each step of either part does.
  obtain ⟨code, linked, scriptMade⟩ := bind_eq_ok.mp scriptMade
  obtain ⟨exports, exported, scriptMade⟩ := bind_eq_ok.mp scriptMade
  obtain ⟨tables, tablesMade, scriptMade⟩ := bind_eq_ok.mp scriptMade
  obtain ⟨locals, localsMade, heapMade⟩ := bind_eq_ok.mp heapMade
  obtain ⟨rows, rowsMade, heapMade⟩ := bind_eq_ok.mp heapMade
  have valued := mapM_eq_ok.mp localsMade
  have sameSpots : (running definition.firstRecord definition.recordSizes).length =
      definition.objects.length := by
    simp [recordSizes]
  obtain ⟨drafts, objects, homes, spots, rfl, rfl, fits⟩ :=
    exists_drafts version (by simp [objectTables]) sameSpots (mapM_eq_ok.mp rowsMade)
      (mapM_eq_ok.mp tablesMade)
  refine ⟨code, exports, drafts, locals, linked, mapM_eq_ok.mp exported, objects, homes, spots,
    fits, valued, ?_, ?_⟩
  · cases scriptMade
    rfl
  · cases heapMade
    rw [valued.length_eq]
    rfl

/-- The exports that are objects are those whose words are addresses. -/
theorem length_pointers_exports {codeBase start : Nat} {places : Places}
    {targets : List ExportTarget} {cells : List Cell}
    (exported : List.Forall₂ (fun target cell =>
      definition.exportCell codeBase places target = .ok cell) targets cells) :
    (Cell.pointers start cells).length = (targets.filter (·.isObject)).length := by
  induction exported generalizing start with
  | nil => rfl
  | @cons target cell _ _ made _ ih =>
    -- An export of code is written as a number, one of an object as an address.
    have pointer : cell.isPointer = target.isObject := by
      cases target with
      | code label =>
        simp only [exportCell] at made
        split at made
        · cases made
          rfl
        · cases made
      | object name =>
        obtain ⟨place, _, rfl⟩ := map_eq_ok.mp made
        rfl
    rw [Cell.pointers, List.filter_cons, pointer]
    split
    · rw [List.length_cons, List.length_cons, ih]
    · exact ih

namespace Sci11Built

variable {script heap code : Bytes} {exports : List Cell} {drafts : List Draft} {locals : List Cell}

/-- The tables of the objects have the sizes that building reckons with. -/
theorem tableSizes (built : definition.Sci11Built script heap code exports drafts locals) :
    (drafts.map Draft.sci11Table).map (·.size) =
      definition.objects.map ObjectDefinition.tableBytes := by
  -- Draft by draft, since the tables are those of the objects in their order.
  rw [← built.objects, List.map_map, List.map_map]
  apply List.map_congr_left
  intro draft member
  exact Draft.size_sci11Table (built.fits draft member).2.methods.length_eq

/-- The records of the objects have the sizes that building reckons with. -/
theorem recordSizes (version : definition.version = .sci11)
    (built : definition.Sci11Built script heap code exports drafts locals) :
    drafts.map (2 * ·.cells.length) = definition.recordSizes := by
  -- Draft by draft, since the records are those of the objects in their order.
  rw [ScriptDefinition.recordSizes, ← built.objects, List.map_map]
  apply List.map_congr_left
  intro draft member
  have count := (built.fits draft member).2.count
  rw [version] at count
  exact congrArg (2 * ·) count

/-- The script part has the size that building reckons with. -/
theorem size_script (built : definition.Sci11Built script heap code exports drafts locals) :
    script.size = definition.firstTable +
      totalSize (definition.objects.map ObjectDefinition.tableBytes) := by
  have codeSize := size_padded (Assembly.size_link built.linked)
  have length := built.exported.length_eq
  -- Only an export of an object adds to the relocation table.
  have pointers : (Cell.pointers 8 exports).length = _ := length_pointers_exports built.exported
  rw [built.scriptImage]
  simp only [Array.size_append, size_plainBytes, Cell.size_bytes, codeSize, size_foldl_append,
    built.tableSizes, List.length_cons, List.length_nil, pointers, firstTable, relocationTable,
    sci11CodeBase, length]
  omega

/-- The heap part starts where building reckons it to start. -/
theorem heapBase_eq (built : definition.Sci11Built script heap code exports drafts locals) :
    script.size + heapPadding script.size = definition.heapBase := by
  rw [built.size_script]
  rfl

/-- What follows the exports in the buffer. -/
def tail (script heap code : Bytes) (exports : List Cell) (drafts : List Draft) : Bytes :=
  padded code ++ (plainBytes [(Cell.pointers 8 exports).length] ++
    (plainBytes (Cell.pointers 8 exports) ++ ((drafts.map Draft.sci11Table).foldl (· ++ ·) #[] ++
      (Array.replicate (heapPadding script.size) 0 ++ heap))))

/-- The buffer, with exports that may have been moved. -/
def image (definition : ScriptDefinition) (tail : Bytes) (exports : List Cell) : Source where
  script := definition.number
  data :=
    plainBytes [definition.relocationTable, 0, 0, exports.length] ++ (Cell.bytes exports ++ tail)

/-- The buffer is made of the script part, padding and the heap part. -/
theorem image_eq (built : definition.Sci11Built script heap code exports drafts locals) :
    script ++ Array.replicate (heapPadding script.size) 0 ++ heap =
      (image definition (tail script heap code exports drafts) exports).data := by
  -- The script part begins with the count of exports and the exports.
  have counted : plainBytes ((Cell.pointers 8 exports).length :: Cell.pointers 8 exports) =
      plainBytes [(Cell.pointers 8 exports).length] ++ plainBytes (Cell.pointers 8 exports) := by
    rw [← plainBytes_append, List.singleton_append]
  nth_rewrite 1 [built.scriptImage]
  rw [counted, image, tail]
  simp only [Array.append_assoc]

/-- The parts of the script part, and the heap part, each where building reckons it to be. -/
structure ScriptParts (definition : ScriptDefinition) (data heap code : Bytes)
    (exports cells : List Cell) (drafts : List Draft) : Prop where
  headerAt : Carries data 0 (plainBytes [definition.relocationTable, 0, 0, cells.length])
  exportsAt : Carries data 8 (Cell.bytes cells)
  codeAt : Carries data definition.sci11CodeBase code
  countAt : Carries data definition.relocationTable
    (plainBytes [(Cell.pointers 8 exports).length])
  tablesAt : ∀ draft ∈ drafts, Carries data draft.home draft.sci11Table
  heapAt : Carries data definition.heapBase heap

/-- The parts of the script part are where building reckons them to be. -/
theorem scriptParts (built : definition.Sci11Built script heap code exports drafts locals)
    {cells : List Cell} (same : cells.length = exports.length) :
    ScriptParts definition (image definition (tail script heap code exports drafts) cells).data
      heap code exports cells drafts := by
  -- The buffer carries itself, and is cut into the parts that it was put together from.
  have whole := Carries.self (image definition (tail script heap code exports drafts) cells).data
  have codeSize := size_padded (Assembly.size_link built.linked)
  have length := built.exported.length_eq
  have pointers : (Cell.pointers 8 exports).length = _ := length_pointers_exports built.exported
  have tablesSize : ((drafts.map Draft.sci11Table).foldl (· ++ ·) #[]).size =
      totalSize (definition.objects.map ObjectDefinition.tableBytes) := by
    rw [size_foldl_append, built.tableSizes]
  have base := built.heapBase_eq
  have scriptSize := built.size_script
  have firstTable : definition.firstTable = 8 + 2 * definition.exports.length +
      definition.paddedCodeSize + 2 + 2 * (definition.exports.filter (·.isObject)).length := rfl
  nth_rewrite 2 [image] at whole
  rw [tail] at whole
  simp only [Carries.append, size_plainBytes, List.length_cons, List.length_nil, Cell.size_bytes,
    Array.size_replicate, codeSize, tablesSize] at whole
  obtain ⟨header, exportsAt, codeAt, count, _, tables, _, heapAt⟩ := whole
  -- The tables follow each other, so each object has its own where building puts it.
  have homes := (tables.move (show _ = definition.firstTable by omega)).parts
  have listed : running definition.firstTable
      (definition.objects.map ObjectDefinition.tableBytes) = drafts.map (·.home) :=
    built.homes.symm
  rw [built.tableSizes, listed, List.forall₂_map_left_iff, List.forall₂_map_right_iff,
    List.forall₂_same] at homes
  rw [padded, Carries.append] at codeAt
  refine ⟨header, exportsAt, codeAt.1.move ?_, count.move ?_, homes, heapAt.move ?_⟩
  · rw [sci11CodeBase]
    omega
  · rw [relocationTable, sci11CodeBase]
    omega
  · omega

/-- The parts of the heap part, each where building reckons it to be. -/
structure HeapParts (definition : ScriptDefinition) (data : Bytes) (drafts : List Draft)
    (locals : List Cell) : Prop where
  headerAt : Carries data definition.heapBase
    (plainBytes [definition.firstText + (textsBytes definition.texts).size, locals.length])
  localsAt : Carries data (definition.heapBase + 4) (Cell.bytes locals)
  recordsAt : Carries data (definition.heapBase + definition.firstRecord)
    (Cell.bytes (drafts.map (·.cells)).flatten)
  zeroAt : Carries data (definition.heapBase + definition.firstRecord +
    totalSize definition.recordSizes) (plainBytes [0])
  textsAt : Carries data (definition.heapBase + definition.firstText)
    (textsBytes definition.texts)
  pointersAt : Carries data
    (definition.heapBase + (definition.firstText + (textsBytes definition.texts).size))
    (plainBytes ((heapPointers drafts locals).length :: heapPointers drafts locals))

/-- The records of the objects have the total size that building reckons with. -/
theorem rowsSize (version : definition.version = .sci11)
    (built : definition.Sci11Built script heap code exports drafts locals) :
    2 * (drafts.map (·.cells)).flatten.length = totalSize definition.recordSizes := by
  -- The bytes of all words are those of the records put together.
  rw [← Cell.size_bytes, Cell.bytes_flatten, size_foldl_append, ← built.recordSizes version,
    List.map_map, List.map_map]
  simp [Function.comp_def]

/-- The parts of the heap part are where building reckons them to be. -/
theorem heapParts (version : definition.version = .sci11)
    (built : definition.Sci11Built script heap code exports drafts locals) {data : Bytes}
    (whole : Carries data definition.heapBase heap) :
    HeapParts definition data drafts locals := by
  have rowsSize := built.rowsSize version
  have localCount := built.valued.length_eq
  have firstRecord : definition.firstRecord = 4 + 2 * definition.locals.length := rfl
  have firstText : definition.firstText =
      definition.firstRecord + totalSize definition.recordSizes + 2 := rfl
  rw [built.heapImage, Cell.bytes_append] at whole
  simp only [Carries.append, Array.size_append, size_plainBytes, List.length_cons,
    List.length_nil, Cell.size_bytes, rowsSize] at whole
  -- The parts follow each other, so each starts where the sizes before it lead to.
  obtain ⟨⟨⟨⟨header, locals, records⟩, zero⟩, texts⟩, pointers⟩ := whole
  exact ⟨header, locals, records.move (by omega), zero.move (by omega), texts.move (by omega),
    pointers.move (by omega)⟩

/-- The walk over the records goes on behind a record. -/
theorem walkObjects_record {source : Source} {pos : Nat} {bases : Array Nat} {count : Nat}
    (magic : word? source.data pos = some objectMagic)
    (number : word? source.data (pos + 2) = some (UInt16.ofNat count)) (some_ : count ≠ 0)
    (small : count < 65536) :
    Outline.walkObjects source pos bases =
      Outline.walkObjects source (pos + 2 * count) (bases.push pos) := by
  -- The mark and the count are read, and the count is not zero.
  have inside := bound_of_word? number
  rw [Outline.walkObjects, dif_pos (by omega), Source.wordBefore_of magic _ (by omega),
    Source.wordBefore_of number _ inside]
  have other : objectMagic ≠ 0 := by decide
  simp only [ok_bind, if_neg other, ne_eq, not_true_eq_false, if_false, toNat_word small,
    dif_neg some_]

/-- The walk over the records ends at a word zero. -/
theorem walkObjects_end {source : Source} {pos : Nat} {bases : Array Nat}
    (zero : word? source.data pos = some 0) :
    Outline.walkObjects source pos bases = .ok bases := by
  -- The word is read where the mark of a record would be.
  have inside := bound_of_word? zero
  rw [Outline.walkObjects, dif_pos inside, Source.wordBefore_of zero _ inside]
  rfl

/-- The walk over the records of the objects finds where each of them is. -/
theorem walkObjects_eq {source : Source} (small : source.data.size ≤ 65536) (drafts : List Draft)
    {pos : Nat} {bases : Array Nat}
    (heads : ∀ draft ∈ drafts, draft.HasHead ∧ 4 ≤ draft.cells.length ∧
      draft.cells.length = draft.object.propertyCount .sci11)
    (records : Carries source.data pos (Cell.bytes (drafts.map (·.cells)).flatten))
    (zero : Carries source.data (pos + 2 * (drafts.map (·.cells)).flatten.length)
      (plainBytes [0])) :
    Outline.walkObjects source pos bases =
      .ok (bases ++ (running pos (drafts.map (2 * ·.cells.length))).toArray) := by
  -- The walk moves on from record to record, so its place and what it has found vary.
  induction drafts generalizing pos bases with
  | nil =>
    -- After the last record there is a word zero.
    have word : word? source.data pos = some 0 := zero.values.1
    rw [walkObjects_end word]
    simp [running]
  | cons draft drafts ih =>
    obtain ⟨⟨head, four, count⟩, rest⟩ := List.forall_mem_cons.mp heads
    rw [List.map_cons, List.flatten_cons, Cell.bytes_append, Carries.append, Cell.size_bytes]
      at records
    rw [List.map_cons, List.flatten_cons, List.length_append] at zero
    have words := records.1.words
    have bound := words.bound
    rw [List.length_map] at bound
    -- The record says how long it is, so the walk goes on at the next one.
    have number := head.number words
    rw [← count] at number
    rw [walkObjects_record (head.magic words) number (by omega) (by omega),
      ih rest records.2 (zero.move (by omega))]
    simp [running]

/-- What the walk over resources of the second format finds. -/
def outline (definition : ScriptDefinition) (exports : List Cell) (drafts : List Draft)
    (locals : List Cell) : Outline where
  exports := (exports.map (·.word)).toArray
  codeRanges :=
    [(definition.sci11CodeBase, definition.sci11CodeBase + definition.paddedCodeSize)]
  objectBases := (drafts.map (definition.heapBase + ·.place)).toArray
  locals := (locals.map fun cell => Address.number cell.word).toArray
  localsRange := some (definition.heapBase + 4, definition.heapBase + 4 + 2 * locals.length)
  relocations := ((heapPointers drafts locals).map (definition.heapBase + ·)).toArray
  relocationDelta := UInt16.ofNat definition.heapBase

/-- The addresses in the script part are moved to the heap part. -/
theorem shiftWords_image (built : definition.Sci11Built script heap code exports drafts locals)
    (small : script.size < 65536) :
    Outline.shiftWords (image definition (tail script heap code exports drafts) exports)
        script.size definition.heapBase definition.relocationTable
        (Cell.pointers 8 exports).length =
      .ok (image definition (tail script heap code exports drafts)
        (exports.map (Cell.shifted definition.heapBase))) := by
  have codeSize := size_padded (Assembly.size_link built.linked)
  have length := built.exported.length_eq
  have scriptSize := built.size_script
  have pointers : (Cell.pointers 8 exports).length = _ := length_pointers_exports built.exported
  rw [firstTable, relocationTable, sci11CodeBase] at scriptSize
  rw [shiftWords_eq, image, image, List.length_map, List.range_eq_range']
  -- The exports follow the eight bytes of the header.
  have header : ∀ count, (plainBytes [definition.relocationTable, 0, 0, count]).size = 8 :=
    fun _ => rfl
  apply foldlM_shiftWord (definition.paddedCodeSize + 2)
  · -- The table follows the code and the number of its entries.
    have whole := Carries.self (tail script heap code exports drafts)
    nth_rewrite 2 [tail] at whole
    rw [Carries.append, Carries.append, Carries.append] at whole
    apply whole.2.2.1.move
    rw [codeSize, size_plainBytes, Nat.zero_add]
    rfl
  · rw [header, relocationTable, sci11CodeBase, length]
    omega
  · rw [header, relocationTable, sci11CodeBase]
    omega
  · rw [header]
    omega

/-- The buffer takes the script part, padding and the heap part, wherever its exports lead to. -/
theorem size_image (built : definition.Sci11Built script heap code exports drafts locals)
    {cells : List Cell} (same : cells.length = exports.length) :
    (image definition (tail script heap code exports drafts) cells).data.size =
      definition.heapBase + heap.size := by
  -- The exports take two bytes each, wherever they lead to.
  have whole := congrArg Array.size built.image_eq
  have base := built.heapBase_eq
  simp only [image, Array.size_append, size_plainBytes, Cell.size_bytes, Array.size_replicate,
    List.length_cons, List.length_nil] at whole ⊢
  omega

/-- The heap part starts at most one byte behind the script part. -/
theorem heapBase_le (built : definition.Sci11Built script heap code exports drafts locals) :
    script.size ≤ definition.heapBase ∧ definition.heapBase ≤ script.size + 1 := by
  -- The padding is one byte or none.
  have base := built.heapBase_eq
  rw [heapPadding] at base
  omega

/-- The offsets of the addresses in the heap part lie in it. -/
theorem heapPointers_lt
    (built : definition.Sci11Built script heap code exports drafts locals) :
    ∀ offset ∈ heapPointers drafts locals, offset < heap.size := by
  -- An address is one of the words, and those are followed by the count and the texts.
  intro offset member
  have bounds := Cell.mem_pointers member
  have size := congrArg Array.size built.heapImage
  simp only [Array.size_append, size_plainBytes, Cell.size_bytes, List.length_cons,
    List.length_nil] at size
  omega

/-- The records of the objects are where the walk finds them. -/
theorem bases_eq (version : definition.version = .sci11)
    (built : definition.Sci11Built script heap code exports drafts locals) :
    running (definition.heapBase + definition.firstRecord) (drafts.map (2 * ·.cells.length)) =
      drafts.map (definition.heapBase + ·.place) := by
  -- The walk starts at the first record of the heap part.
  rw [built.recordSizes version, ← map_running, ← built.spots, List.map_map]
  rfl

/-- The walk over the heap part finds all that it was built from. -/
theorem walkObjects_image (version : definition.version = .sci11)
    (built : definition.Sci11Built script heap code exports drafts locals) {source : Source}
    (parts : HeapParts definition source.data drafts locals) (small : source.data.size ≤ 65536) :
    Outline.walkObjects source (definition.heapBase + definition.firstRecord) #[] =
      .ok (drafts.map (definition.heapBase + ·.place)).toArray := by
  rw [walkObjects_eq small drafts _ parts.recordsAt, built.bases_eq version, Array.empty_append]
  · -- A zero word after the last record ends the walk.
    apply parts.zeroAt.move
    rw [built.rowsSize version]
  · intro draft member
    obtain ⟨head, fits⟩ := built.fits draft member
    have count := fits.count
    rw [version] at count
    refine ⟨head, ?_, count⟩
    rw [count]
    simp only [ObjectDefinition.propertyCount, Version.layout]
    omega

/-- The header of the heap part and the tables that it leads to can be read. -/
theorem HeapParts.read {source : Source} (parts : HeapParts definition source.data drafts locals) :
    source.wordBefore source.data.size definition.heapBase "heap relocation offset" =
        .ok (UInt16.ofNat (definition.firstText + (textsBytes definition.texts).size)) ∧
      source.wordBefore source.data.size (definition.heapBase + 2) "local count" =
        .ok (UInt16.ofNat locals.length) ∧
      source.tableBefore source.data.size (definition.heapBase + 4) locals.length "locals" =
        .ok (locals.map (·.word)).toArray ∧
      source.wordBefore source.data.size
          (definition.heapBase + (definition.firstText + (textsBytes definition.texts).size))
          "heap relocation count" =
        .ok (UInt16.ofNat (heapPointers drafts locals).length) ∧
      source.tableBefore source.data.size
          (definition.heapBase + (definition.firstText + (textsBytes definition.texts).size) + 2)
          (heapPointers drafts locals).length "heap relocation table" =
        .ok ((heapPointers drafts locals).map UInt16.ofNat).toArray := by
  obtain ⟨heapTable, localCount, _⟩ := parts.headerAt.values
  obtain ⟨pointerCount, pointerWords⟩ := parts.pointersAt.values
  -- A table that lies in the data can be read whole.
  have localTable := Source.tableBefore_of parts.localsAt.words "locals" parts.localsAt.words.bound
  have pointerTable :=
    Source.tableBefore_of pointerWords "heap relocation table" pointerWords.bound
  rw [List.length_map] at localTable pointerTable
  exact ⟨Source.wordBefore_of heapTable _ (bound_of_word? heapTable),
    Source.wordBefore_of localCount _ (bound_of_word? localCount), localTable,
    Source.wordBefore_of pointerCount _ (bound_of_word? pointerCount), pointerTable⟩

/-- The walk over resources of the second format finds all that they were built from. -/
theorem ofSci11_eq (version : definition.version = .sci11)
    (built : definition.Sci11Built script heap code exports drafts locals)
    (small : script.size + heap.size < 65535) :
    Outline.ofSci11 (image definition (tail script heap code exports drafts) exports) script.size
        definition.heapBase =
      .ok (outline definition (exports.map (Cell.shifted definition.heapBase)) drafts locals,
        (image definition (tail script heap code exports drafts)
          (exports.map (Cell.shifted definition.heapBase))).data) := by
  have base := built.heapBase_le
  have scriptSize := built.size_script
  have length := built.exported.length_eq
  have pointers : (Cell.pointers 8 exports).length = _ := length_pointers_exports built.exported
  have firstTable : definition.firstTable = definition.relocationTable + 2 +
    2 * (definition.exports.filter (·.isObject)).length := rfl
  have table : definition.relocationTable = 8 + 2 * definition.exports.length +
    definition.paddedCodeSize := rfl
  -- First the table of the script part is read, and the exports are moved.
  have before := built.scriptParts (Eq.refl exports.length)
  have offset := before.headerAt.values.1
  have count := before.countAt.values.1
  unfold Outline.ofSci11
  rw [Source.wordBefore_of offset _ (by omega), ok_bind]
  simp only [toNat_word (show definition.relocationTable < 65536 by omega)]
  rw [if_neg (by omega), Source.wordBefore_of count _ (by omega), ok_bind, toNat_word (by omega),
    built.shiftWords_image (by omega), ok_bind]
  -- Then everything is read from the buffer with the moved exports.
  have same : (exports.map (Cell.shifted definition.heapBase)).length = exports.length :=
    List.length_map _
  have moved := built.scriptParts same
  have size := built.size_image same
  have parts := built.heapParts version moved.heapAt
  generalize image definition (tail script heap code exports drafts)
    (exports.map (Cell.shifted definition.heapBase)) = source at moved size parts ⊢
  have exportCount : word? source.data 6 = some (UInt16.ofNat _) := moved.headerAt.values.2.2.2.1
  have exportTable := Source.tableBefore_of moved.exportsAt.words "export table"
    (show _ ≤ script.size by rw [List.length_map]; omega)
  rw [List.length_map] at exportTable
  rw [Source.wordBefore_of exportCount _ (by omega), ok_bind, toNat_word (by omega), exportTable,
    ok_bind]
  -- No number in the heap part is larger than the buffer.
  have pointersBound := parts.pointersAt.bound
  rw [size_plainBytes, List.length_cons] at pointersBound
  have start : definition.heapBase + 4 + 2 * locals.length =
      definition.heapBase + definition.firstRecord := by
    rw [firstRecord, built.valued.length_eq]
    omega
  have records := parts.recordsAt.bound
  have firstText : definition.firstText =
    definition.firstRecord + totalSize definition.recordSizes + 2 := rfl
  obtain ⟨heapTable, localCount, localTable, pointerCount, pointerTable⟩ := parts.read
  rw [heapTable, ok_bind, toNat_word (by omega), localCount, ok_bind, toNat_word (by omega),
    localTable, ok_bind, start, built.walkObjects_image version parts (by omega), ok_bind,
    if_neg (by omega), pointerCount, ok_bind, toNat_word (by omega), pointerTable, ok_bind]
  -- Each pointer of the heap part is moved by where that part begins.
  have found : ((heapPointers drafts locals).map UInt16.ofNat).map
      (fun offset => definition.heapBase + offset.toNat) =
      (heapPointers drafts locals).map (definition.heapBase + ·) := by
    rw [List.map_map]
    apply List.map_congr_left
    intro offset member
    have inside := built.heapPointers_lt offset member
    rw [Function.comp_apply, toNat_word (by omega)]
  have range : max definition.relocationTable (8 + 2 * definition.exports.length) =
      definition.relocationTable := by
    omega
  simp only [outline, List.map_toArray, found, same, start, ← length, List.map_map,
    if_neg (show ¬ definition.relocationTable = 0 by omega), range]
  rfl

/-- The records of the objects follow each other. -/
theorem spots_eq (version : definition.version = .sci11)
    (built : definition.Sci11Built script heap code exports drafts locals) :
    drafts.map (·.place) = running definition.firstRecord (drafts.map (2 * ·.cells.length)) := by
  -- Building places the records by their sizes.
  rw [built.recordSizes version]
  exact built.spots

/-- The record of each object is at its place. -/
theorem carries_record (version : definition.version = .sci11)
    (built : definition.Sci11Built script heap code exports drafts locals) {data : Bytes}
    (parts : HeapParts definition data drafts locals) :
    ∀ draft ∈ drafts,
      Carries data (definition.heapBase + draft.place) (Cell.bytes draft.cells) := by
  have records := parts.recordsAt
  rw [Cell.bytes_flatten, List.map_map] at records
  -- The row of all records is taken apart into one row for each.
  have each := records.parts
  have sizes : (drafts.map (Cell.bytes ∘ (·.cells))).map (·.size) =
      drafts.map (2 * ·.cells.length) := by
    simp [Function.comp_def]
  rw [sizes, built.bases_eq version, List.forall₂_map_left_iff, List.forall₂_map_right_iff,
    List.forall₂_same] at each
  exact each

/-- The record of each object lies between the local variables and the end of the heap part. -/
theorem place_bound (version : definition.version = .sci11)
    (built : definition.Sci11Built script heap code exports drafts locals) {draft : Draft}
    (member : draft ∈ drafts) :
    4 + 2 * locals.length ≤ draft.place ∧ 0 < draft.cells.length ∧
      draft.place + 2 * draft.cells.length ≤ heap.size := by
  -- The records follow each other, from the end of the local variables on.
  have spots := built.spots_eq version
  have ends := le_of_running spots member
  have listed : draft.place ∈ drafts.map (·.place) := List.mem_map_of_mem member
  rw [spots] at listed
  have starts := le_of_mem_running listed
  rw [firstRecord, built.valued.length_eq] at starts ends
  have count := (built.fits draft member).2.count
  rw [version, ObjectDefinition.propertyCount] at count
  have least : 9 ≤ Version.sci11.layout.minProperties := by decide
  have size := congrArg Array.size built.heapImage
  have rows := built.rowsSize version
  rw [← built.recordSizes version] at rows
  simp only [Array.size_append, size_plainBytes, Cell.size_bytes, List.length_append,
    List.length_cons, List.length_nil] at size
  omega

/-- The addresses in the heap part are those of the local variables, then those of the objects. -/
theorem map_heapPointers (version : definition.version = .sci11)
    (built : definition.Sci11Built script heap code exports drafts locals) :
    (heapPointers drafts locals).map (definition.heapBase + ·) =
      Cell.pointers (definition.heapBase + 4) locals ++
        Script.draftPointers definition.heapBase drafts := by
  -- Local variables come first in the heap part, and objects follow them.
  have start : 4 + 2 * locals.length = definition.firstRecord := by
    rw [firstRecord, built.valued.length_eq]
  rw [heapPointers, Cell.map_pointers, Cell.pointers_append, Nat.add_assoc, start,
    Script.draftPointers_eq (built.spots_eq version)]

/-- The addresses of a script of the second format are set. -/
theorem relocations (version : definition.version = .sci11)
    (built : definition.Sci11Built script heap code exports drafts locals)
    (small : definition.heapBase + heap.size ≤ 65536) (moved : List Cell) (script : Script) :
    (outline definition moved drafts locals).relocations.toList.foldlM
        (Script.relocate (outline definition moved drafts locals).localsRange
          (UInt16.ofNat definition.heapBase))
        ({ script with objects :=
            (drafts.map (Draft.parsed definition script.segment definition.heapBase)).toArray },
          (outline definition moved drafts locals).locals) =
      pure ({ script with objects :=
          (drafts.map (Draft.relocated definition script.segment definition.heapBase)).toArray },
        (locals.map (Cell.address script.segment definition.heapBase)).toArray) := by
  have pointers : (outline definition moved drafts locals).relocations.toList = _ :=
    built.map_heapPointers version
  have values : (outline definition moved drafts locals).locals =
    (locals.map fun cell => Address.number cell.word).toArray := rfl
  have range : (outline definition moved drafts locals).localsRange =
    some (definition.heapBase + 4, definition.heapBase + 4 + 2 * locals.length) := rfl
  -- First the local variables are set, then the properties of the objects.
  rw [pointers, values, range, List.foldlM_append, Script.foldlM_relocate_values, pure_bind,
    Script.foldlM_relocate_objects definition script]
  · intro draft member
    have bound := built.place_bound version member
    omega
  · exact pairwise_of_running (built.spots_eq version)
  · -- The local variables come before all objects.
    intro draft member offset low high
    have bound := built.place_bound version member
    rw [Option.filter_some, if_neg]
    simp [Script.within]
    omega
  · intro offset low high
    rw [Option.filter_some, if_pos]
    simp [Script.within]
    omega

/-- The places of resources of the second format are where things are. -/
theorem settled (built : definition.Sci11Built script heap code exports drafts locals)
    (clean : ∀ text ∈ definition.texts, 0 ∉ text.toUTF8.data) {loaded : Script}
    (parts : HeapParts definition loaded.data drafts locals) (small : loaded.data.size ≤ 65536)
    (objects : loaded.objects =
      (drafts.map (Draft.relocated definition loaded.segment definition.heapBase)).toArray) :
    Settled definition definition.sci11Places definition.heapBase drafts loaded := by
  refine ⟨built.objects, ?_, by rw [objects], ?_⟩
  · rw [sci11Places, ← built.spots, ← built.objects, List.map_map, List.zip_map']
    rfl
  · -- A text ends at the first zero, and it has none of its own.
    intro text place found
    have listed := textPlaces_add definition.heapBase (Places.mem_of_text found)
    obtain ⟨member, carries⟩ := carries_text parts.textsAt listed
    have bound := carries.bound
    rw [size_textBytes] at bound
    exact ⟨by omega, Script.spells_of_carries carries (clean text member)⟩

/-- The walk over resources of the second format is the outline of their script. -/
theorem run_outline (version : definition.version = .sci11)
    (built : definition.Sci11Built script heap code exports drafts locals)
    (small : script.size + heap.size < 65535) (size : Nat) (journal : Journal) :
    (Script.outline definition.version
        ⟨definition.number, Script.buffer definition.version script (some heap) size⟩ script.size
        (Script.heapOffset definition.version script (some heap))).run journal =
      (.ok (outline definition (exports.map (Cell.shifted definition.heapBase)) drafts locals,
        (image definition (tail script heap code exports drafts)
          (exports.map (Cell.shifted definition.heapBase))).data), journal) := by
  -- The buffer is the two parts with the padding between them.
  have data : (⟨definition.number, Script.buffer definition.version script (some heap) size⟩ :
      Source) = image definition (tail script heap code exports drafts) exports := by
    rw [version]
    exact congrArg (Source.mk definition.number) built.image_eq
  have base : Script.heapOffset definition.version script (some heap) = definition.heapBase := by
    rw [version]
    exact built.heapBase_eq
  rw [data, base, version]
  change (Logged.quiet (Outline.ofSci11 _ _ _)).run journal = _
  rw [built.ofSci11_eq version small]
  rfl

/-- The tables of each object lie in the script part. -/
theorem table_bound (built : definition.Sci11Built script heap code exports drafts locals)
    {draft : Draft} (member : draft ∈ drafts) :
    draft.home + draft.sci11Table.size ≤ script.size := by
  -- The tables are the last of the script part, and they take the rest of it.
  have sizes := built.tableSizes
  rw [List.map_map] at sizes
  have homes : drafts.map (·.home) = running definition.firstTable
      (drafts.map ((·.size) ∘ Draft.sci11Table)) := by
    rw [sizes]
    exact built.homes
  have ends := le_of_running homes member
  rw [sizes, ← built.size_script] at ends
  exact ends

/-- The objects of resources of the second format are read. -/
theorem parse_draft (version : definition.version = .sci11)
    (built : definition.Sci11Built script heap code exports drafts locals) {source : Source}
    {cells : List Cell}
    (parts : ScriptParts definition source.data heap code exports cells drafts)
    (small : source.data.size ≤ 65536) (segment : SegmentId) :
    ∀ draft ∈ drafts, Object.parse definition.version source segment script.size
      (definition.heapBase + draft.place) =
        .ok (draft.parsed definition segment definition.heapBase) := by
  -- The record is in the heap part, its tables are in the script part.
  intro draft member
  obtain ⟨head, fits⟩ := built.fits draft member
  have record := built.carries_record version (built.heapParts version parts.heapAt) draft member
  rw [version]
  exact Draft.parseSci11_eq segment version fits head record (parts.tablesAt draft member)
    (built.table_bound member) small rfl

/-- Resources of the second format can be loaded. -/
theorem run_load (version : definition.version = .sci11)
    (built : definition.Sci11Built script heap code exports drafts locals)
    (small : script.size + heap.size < 65535) (segment : SegmentId) (journal : Journal) :
    ∃ loaded, (Script.load definition.version definition.number segment script
        (some heap)).run journal =
        (.ok (loaded, (locals.map (Cell.address segment definition.heapBase)).toArray), journal) ∧
      loaded.number = definition.number ∧ loaded.segment = segment ∧
      loaded.data = (image definition (tail script heap code exports drafts)
        (exports.map (Cell.shifted definition.heapBase))).data ∧
      loaded.exports = (outline definition (exports.map (Cell.shifted definition.heapBase)) drafts
        locals).exports ∧
      loaded.synonyms = (outline definition (exports.map (Cell.shifted definition.heapBase)) drafts
        locals).synonyms ∧
      loaded.codeRanges = (outline definition (exports.map (Cell.shifted definition.heapBase))
        drafts locals).codeRanges ∧
      loaded.objects =
        (drafts.map (Draft.relocated definition segment definition.heapBase)).toArray := by
  have sized : definition.version.layout.bufferSize definition.number script (some heap) =
      .ok (script.size + heapPadding script.size + heap.size) := by
    rw [version]
    rfl
  have base := built.heapBase_le
  have total : script.size + heapPadding script.size + heap.size ≤ segmentLimit := by
    rw [built.heapBase_eq, segmentLimit]
    omega
  -- What is loaded is the buffer with the moved exports.
  have same : (exports.map (Cell.shifted definition.heapBase)).length = exports.length :=
    List.length_map _
  have parts := built.scriptParts same
  have size := built.size_image same
  have outlined := built.run_outline version small
    (script.size + heapPadding script.size + heap.size) journal
  -- No place exceeds a word, so it is read as it was written.
  have below : ∀ draft ∈ drafts, definition.heapBase + draft.place < 65536 := by
    intro draft member
    have bound := built.place_bound version member
    omega
  have ascending : drafts.Pairwise fun first second => first.place < second.place := by
    apply (pairwise_of_running (built.spots_eq version)).imp_of_mem
    intro first second member _ apart
    have bound := built.place_bound version member
    omega
  exact Script.run_load sized total outlined rfl
    (built.parse_draft version parts (by omega) segment) below ascending (by
      intro loaded equal
      subst equal
      exact built.relocations version (by omega) _ loaded)

/-- Loading resources of the second format gives the script that they were built from. -/
theorem load_restored (version : definition.version = .sci11)
    (built : definition.Sci11Built script heap code exports drafts locals)
    (clean : ∀ text ∈ definition.texts, 0 ∉ text.toUTF8.data)
    (small : script.size + heap.size < 65535) (segment : SegmentId) (journal : Journal) :
    ∃ loaded addresses, (Script.load definition.version definition.number segment script
        (some heap)).run journal = (.ok (loaded, addresses), journal) ∧
      definition.Restored segment definition.sci11CodeBase loaded addresses := by
  obtain ⟨loaded, ran, number, rfl, buffer, offered, synonyms, codeRanges, objects⟩ :=
    built.run_load version small segment journal
  -- The buffer holds the script part with the moved exports, and the heap part.
  have same : (exports.map (Cell.shifted definition.heapBase)).length = exports.length :=
    List.length_map _
  have base := built.heapBase_le
  have size := built.size_image same
  have parts := built.scriptParts same
  rw [← buffer] at parts size
  have heapParts := built.heapParts version parts.heapAt
  refine ⟨loaded, _, ran, ?_⟩
  apply (built.settled clean heapParts (by omega) objects).restored
    (fun draft member => (built.fits draft member).2) number built.exported _ built.valued rfl _
    codeRanges _ parts.codeAt
  · rw [offered]
    simp [outline, Cell.shifted]
  · rw [synonyms, version]
    rfl
  · rw [version]
    exact built.linked

end Sci11Built

end ScriptDefinition

end AdventureVm
