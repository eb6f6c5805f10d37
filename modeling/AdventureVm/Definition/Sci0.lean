import AdventureVm.Definition.Basic

/-! Building script resources of the first format. -/

namespace AdventureVm

namespace ObjectDefinition

/-- The number of bytes of the selector list, which only a class has. -/
def selectorBytes (object : ObjectDefinition) : Nat :=
  if object.isClass then 2 * object.propertyCount .sci0 else 0

/-- The number of bytes of the block of an object. -/
def blockSize (object : ObjectDefinition) : Nat :=
  4 + 8 + 2 * object.propertyCount .sci0 + object.selectorBytes + 4 + 4 * object.methods.length

/-- The properties of an object. -/
def sci0Cells (object : ObjectDefinition) (places : Places) : Except BuildError (List Cell) := do
  let name ← places.text object.name
  let values ← object.properties.mapM fun (_, value) => places.cell value
  return [⟨object.species, false⟩, ⟨object.superclass, false⟩,
    ⟨UInt16.ofNat object.info, false⟩, ⟨UInt16.ofNat name, true⟩] ++ values

end ObjectDefinition

namespace ScriptDefinition

/-- The bytes of a block: its kind, its size and its body. -/
def blockBytes (kind : BlockKind) (body : Bytes) : Bytes :=
  plainBytes [kind.toWord.toNat, 4 + body.size] ++ body

/-- The size of the export block, which a script without exports does not have. -/
def exportBlockSize (definition : ScriptDefinition) : Nat :=
  if definition.exports.isEmpty then 0 else 6 + 2 * definition.exports.length

/-- The size of the synonym block, which a script without synonyms does not have. -/
def synonymBlockSize (definition : ScriptDefinition) : Nat :=
  if definition.synonyms.isEmpty then 0 else 4 + 4 * definition.synonyms.length

/-- The places at which the object blocks start. -/
def objectBlocks (definition : ScriptDefinition) : List Nat :=
  running (4 + definition.exportBlockSize + definition.synonymBlockSize)
    (definition.objects.map ObjectDefinition.blockSize)

/-- The place after the last object block. -/
def textBlock (definition : ScriptDefinition) : Nat :=
  4 + definition.exportBlockSize + definition.synonymBlockSize +
    totalSize (definition.objects.map ObjectDefinition.blockSize)

/-- The place at which the code starts. -/
def sci0CodeBase (definition : ScriptDefinition) : Nat :=
  definition.textBlock + 4 + (textsBytes definition.texts).size + 4

/-- The places of objects and texts. -/
def sci0Places (definition : ScriptDefinition) : Places :=
  { objects := (definition.objects.map (·.name)).zip (definition.objectBlocks.map (· + 12))
    texts := definition.textPlaces (definition.textBlock + 4) }

/-- The body of an object block, and the offsets of the addresses among its properties. -/
def sci0Object (definition : ScriptDefinition) (places : Places) (object : ObjectDefinition)
    (block : Nat) : Except BuildError (Bytes × List Nat) := do
  -- The cells are checked before the methods, so an unknown name wins over an unbound label.
  let cells ← object.sci0Cells places
  let offsets ← object.methods.mapM fun (_, label) =>
    definition.methodOffset definition.sci0CodeBase label
  let count := object.propertyCount .sci0
  let selectors := if object.isClass then object.selectors .sci0 else []
  let body := plainBytes [objectMagic.toNat, 0, 2 * count + object.selectorBytes, count] ++
    Cell.bytes cells ++ plainBytes selectors ++
    plainBytes ([object.methods.length] ++ object.methods.map (·.1.toNat) ++ [0] ++ offsets)
  return (body, Cell.pointers (block + 12) cells)

/-- The resource of a script of the first format. -/
def buildSci0 (definition : ScriptDefinition) : Except BuildError Bytes := do
  let places := definition.sci0Places
  let codeBase := definition.sci0CodeBase
  -- Code is linked first: its open operands fail before those of any table.
  let code ← definition.assembly.link codeBase false places
  let exports ← definition.exports.mapM (definition.exportCell codeBase places)
  let objects ← (definition.objects.zip definition.objectBlocks).mapM fun (object, block) => do
    let (body, pointers) ← definition.sci0Object places object block
    return (blockBytes (if object.isClass then .classes else .object) body, pointers)
  let locals ← definition.locals.mapM places.cell
  let localsBase := codeBase + definition.paddedCodeSize + 4
  let pointers := objects.flatMap (·.2) ++ Cell.pointers localsBase locals
  let synonyms := definition.synonyms.flatMap fun (replaced, replacement) =>
    [replaced.toNat, replacement.toNat]
  -- Blocks without contents are left out.
  let exportBlock :=
    if exports.isEmpty then #[]
    else blockBytes .exports (plainBytes [exports.length] ++ Cell.bytes exports)
  let synonymBlock := if synonyms.isEmpty then #[] else blockBytes .synonyms (plainBytes synonyms)
  let localsBlock := if locals.isEmpty then #[] else blockBytes .localVars (Cell.bytes locals)
  return plainBytes [locals.length, 0] ++ exportBlock ++ synonymBlock ++
    (objects.map (·.1)).foldl (· ++ ·) #[] ++
    blockBytes .strings (textsBytes definition.texts) ++
    blockBytes .code (padded code) ++
    localsBlock ++
    blockBytes .pointers (plainBytes (pointers.length :: pointers)) ++
    plainBytes [BlockKind.terminator.toWord.toNat]

end ScriptDefinition

end AdventureVm
