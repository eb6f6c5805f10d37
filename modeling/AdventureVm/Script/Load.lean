import AdventureVm.Script.Outline

/-! Loading a script from its resources. -/

namespace AdventureVm

namespace Layout

/-- The number of bytes that the script and its heap or its local variables take in memory. -/
def bufferSize (layout : Layout) (number : UInt16) (script : Bytes) (heap : Option Bytes) :
    Except Fault Nat :=
  match layout.version, heap with
  -- The variables get room after the resource, although the resource holds them as well.
  | .sci0, _ =>
    match declaredLocals? script with
    | some declared => .ok (script.size + 2 * declared)
    | none =>
      .error (.scriptCorrupt number "header" s!"resource is {script.size} bytes, header needs 2")
  | .sci11, some heap => .ok (script.size + heapPadding script.size + heap.size)
  | .sci11, none => .error (.scriptNotFound number)

end Layout

namespace Script

/-- The buffer of a script: the resource, then the heap part or zeros up to the given size. -/
def buffer (version : Version) (script : Bytes) (heap : Option Bytes) (size : Nat) : Bytes :=
  match version, heap with
  | .sci11, some heap => script ++ Array.replicate (heapPadding script.size) 0 ++ heap
  | _, _ => script ++ Array.replicate (size - script.size) 0

/-- Where the part after the script part starts. -/
def heapOffset (version : Version) (script : Bytes) (heap : Option Bytes) : Nat :=
  match version, heap with
  | .sci11, some _ => script.size + heapPadding script.size
  | _, _ => script.size

/-- The offset lies between the start and the end of a range. -/
def within (range : Nat × Nat) (offset : Nat) : Bool :=
  range.1 ≤ offset && offset < range.2

/--
Turns the word at an offset into an address of the script's own segment.

The word belongs to the local variables, else to the first object that holds it, else to nothing.
-/
def relocate (range : Option (Nat × Nat)) (delta : UInt16) (loaded : Script × Array Address)
    (offset : Nat) : StateM Journal (Script × Array Address) := do
  let (script, locals) := loaded
  match range.filter (within · offset) with
  | some range =>
    let moved := locals.modify ((offset - range.1) / 2) fun value =>
      ⟨script.segment, value.offset + delta⟩
    return (script, moved)
  | none =>
    match script.objects.findIdx? (fun object => within object.span offset) with
    -- Only the properties of an object are looked through, not its tables.
    | some index =>
      let objects := script.objects.modify index fun object =>
        object.relocate ((offset - object.span.1) / 2) script.segment delta
      return ({ script with objects }, locals)
    | none =>
      modify fun journal => journal.push (.plain .trace
        s!"script {script.number}: relocation at 0x{hexText 4 offset} outside objects and locals")
      return (script, locals)

/-- The parts of a script of either version and its buffer. -/
def outline (version : Version) (source : Source) (scriptSize heapStart : Nat) :
    Logged (Outline × Bytes) :=
  match version with
  | .sci0 => do return (← Outline.ofSci0 source scriptSize, source.data)
  | .sci11 => Logged.quiet (Outline.ofSci11 source scriptSize heapStart)

/-- Reads the objects that start at the given offsets, of which the low sixteen bits count. -/
def withObjects (script : Script) (version : Version) (bases : Array Nat) : Except Fault Script :=
  bases.toList.foldlM (fun script base => do
    return (← script.instantiateObject version (UInt16.ofNat base)).2) script

/-- Loads a script into a segment; the answer includes the initial values of its local variables. -/
def load (version : Version) (number : UInt16) (segment : SegmentId) (bytes : Bytes)
    (heap : Option Bytes) : Logged (Script × Array Address) := do
  let size ← Logged.quiet (version.layout.bufferSize number bytes heap)
  -- Offsets have sixteen bits.
  if size > segmentLimit then
    throw (.scriptCorrupt number "size" s!"{size} bytes do not fit a segment")
  let heapStart := heapOffset version bytes heap
  let (parts, data) ←
    outline version ⟨number, buffer version bytes heap size⟩ bytes.size heapStart
  let bare : Script :=
    { number, segment, data, scriptSize := bytes.size, heapStart, exports := parts.exports
      synonyms := parts.synonyms, codeRanges := parts.codeRanges }
  let script ← Logged.quiet (bare.withObjects version parts.objectBases)
  -- Addresses are set last, when objects and local variables are known.
  ExceptT.lift (parts.relocations.toList.foldlM
    (relocate parts.localsRange parts.relocationDelta) (script, parts.locals))

end Script

end AdventureVm
