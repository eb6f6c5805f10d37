import AdventureVm.Definition.Basic

/-! Building script and heap resources of the second format. -/

namespace AdventureVm

namespace ObjectDefinition

/-- The number of bytes of the selector and method tables of an object. -/
def tableBytes (object : ObjectDefinition) : Nat :=
  2 * object.propertyCount .sci11 + 2 + 4 * object.methods.length

/-- The properties of an object whose tables start at a place. -/
def sci11Cells (object : ObjectDefinition) (number : UInt16) (places : Places) (table : Nat) :
    Except BuildError (List Cell) := do
  let name ← places.text object.name
  let values ← object.properties.mapM fun (_, value) => places.cell value
  let count := object.propertyCount .sci11
  return Cell.plain [objectMagic.toNat, count, table, table + 2 * count, number.toNat,
    object.species.toNat, object.superclass.toNat, object.info] ++
    [⟨UInt16.ofNat name, true⟩] ++ values

end ObjectDefinition

namespace ScriptDefinition

/-- The place at which the code starts. -/
def sci11CodeBase (definition : ScriptDefinition) : Nat :=
  8 + 2 * definition.exports.length

/-- The place of the relocation table of the script part. -/
def relocationTable (definition : ScriptDefinition) : Nat :=
  definition.sci11CodeBase + definition.paddedCodeSize

/-- The place of the tables of the first object. -/
def firstTable (definition : ScriptDefinition) : Nat :=
  definition.relocationTable + 2 + 2 * (definition.exports.filter (·.isObject)).length

/-- The places of the tables of the objects. -/
def objectTables (definition : ScriptDefinition) : List Nat :=
  running definition.firstTable (definition.objects.map ObjectDefinition.tableBytes)

/-- The place at which the heap part starts. -/
def heapBase (definition : ScriptDefinition) : Nat :=
  let size := definition.firstTable + totalSize (definition.objects.map ObjectDefinition.tableBytes)
  size + heapPadding size

/-- The sizes of the object records in bytes. -/
def recordSizes (definition : ScriptDefinition) : List Nat :=
  definition.objects.map fun object => 2 * object.propertyCount .sci11

/-- The place of the first object record, counted from the start of the heap part. -/
def firstRecord (definition : ScriptDefinition) : Nat :=
  4 + 2 * definition.locals.length

/-- The place of the first text, counted from the start of the heap part. -/
def firstText (definition : ScriptDefinition) : Nat :=
  definition.firstRecord + totalSize definition.recordSizes + 2

/-- The places of objects and texts, counted from the start of the heap part. -/
def sci11Places (definition : ScriptDefinition) : Places :=
  { objects := (definition.objects.map (·.name)).zip
      (running definition.firstRecord definition.recordSizes)
    texts := definition.textPlaces definition.firstText }

/-- The selector and method tables of an object. -/
def objectTable (definition : ScriptDefinition) (object : ObjectDefinition) :
    Except BuildError Bytes := do
  let methods ← object.methods.mapM fun (selector, label) => do
    return [selector.toNat, ← definition.methodOffset definition.sci11CodeBase label]
  return plainBytes (object.selectors .sci11 ++ [object.methods.length] ++ methods.flatten)

/-- The script resource. -/
def sci11Script (definition : ScriptDefinition) : Except BuildError Bytes := do
  let places := definition.sci11Places
  let codeBase := definition.sci11CodeBase
  -- Code names places in the joined buffer, tables name places in the heap part.
  let code ← definition.assembly.link codeBase true (places.shift definition.heapBase)
  let exports ← definition.exports.mapM (definition.exportCell codeBase places)
  let tables ← definition.objects.mapM definition.objectTable
  let pointers := Cell.pointers 8 exports
  return plainBytes [definition.relocationTable, 0, 0, exports.length] ++ Cell.bytes exports ++
    padded code ++ plainBytes (pointers.length :: pointers) ++ tables.foldl (· ++ ·) #[]

/-- The heap resource. -/
def sci11Heap (definition : ScriptDefinition) : Except BuildError Bytes := do
  let places := definition.sci11Places
  let locals ← definition.locals.mapM places.cell
  let objects ← (definition.objects.zip definition.objectTables).mapM fun (object, table) =>
    object.sci11Cells definition.number places table
  let cells := locals ++ objects.flatten
  let pointers := Cell.pointers 4 cells
  -- An even number of bytes comes before the texts, so they may be padded by themselves.
  let texts := textsBytes definition.texts
  return plainBytes [definition.firstText + texts.size, definition.locals.length] ++
    Cell.bytes cells ++ plainBytes [0] ++ texts ++ plainBytes (pointers.length :: pointers)

end ScriptDefinition

end AdventureVm
