import AdventureVm.Journal
import AdventureVm.Memory.Heap

/-! What is at an address, and reading and writing it. -/

namespace AdventureVm

/-- What an address leads to. -/
inductive View where
  /-- Bytes from the address to the end of their region. -/
  | bytes (data : Bytes)
  /-- Values from the address to the end of their table. -/
  | values (slots : Array Address)
  | object (object : Object)
  | list (list : ListEnds)
  | node (node : Node)
deriving Repr, Inhabited

/-- The largest number of bytes that can be read from a view. -/
def View.maxSize : View → Nat
  | bytes data => data.size
  | values slots => 2 * slots.size
  | object found => 2 * found.properties.size
  | list _ => 4
  | node _ => 8

namespace Segment

/-- The part of an array from an index on, unless nothing is left. -/
def remainder? {α : Type} (items : Array α) (start : Nat) : Option (Array α) :=
  if start < items.size then some (items.extract start items.size) else none

/-- What is at an offset of the segment. -/
def view? (segment : Segment) (offset : Nat) : Option View :=
  match segment with
  | script contents => (remainder? contents.data offset).map .bytes
  | locals table =>
    if offset % 2 = 0 then (remainder? table.values (offset / 2)).map .values else none
  | stack slots => if offset % 2 = 0 then (remainder? slots (offset / 2)).map .values else none
  | clones pool => (pool.get? offset).map .object
  | lists pool => (pool.get? offset).map .list
  | nodes pool => (pool.get? offset).map .node
  -- A block in a pool is named by its slot, so all of its bytes are seen from there.
  | hunks pool => (pool.get? offset).map fun block => .bytes block.data
  | dynmem block => (remainder? block.data offset).map .bytes
  | systemStrings texts => texts[offset]?.map fun text => .bytes text.data

/-- The segment after bytes were written at an offset, when all of them fit. -/
def writeBytes? (segment : Segment) (offset : Nat) (data : Bytes) : Option Segment :=
  match segment with
  | script contents =>
    (splice? contents.data offset data).map fun data => .script { contents with data }
  | dynmem block => (block.write? offset data).map .dynmem
  -- The offset is a slot, so writing starts at the first byte of the block.
  | hunks pool => do
    let block ← (← pool.get? offset).write? 0 data
    return .hunks (pool.modify offset fun _ => block)
  | systemStrings texts => do
    let written ← splice? (← texts[offset]?).data 0 data
    return .systemStrings (texts.modify offset fun text => { text with data := written })
  | _ => none

/-- The segment after a value was stored at an offset, when there is a slot for values. -/
def writeSlot? (segment : Segment) (offset : Nat) (value : Address) : Option Segment :=
  match segment with
  | locals table =>
    if offset % 2 = 0 ∧ offset / 2 < table.values.size then
      some (.locals { table with values := table.values.setIfInBounds (offset / 2) value })
    else none
  | stack slots =>
    if offset % 2 = 0 ∧ offset / 2 < slots.size then
      some (.stack (slots.setIfInBounds (offset / 2) value))
    else none
  | _ => none

end Segment

namespace Heap

/-- The failure to find enough at an address. -/
def invalid (heap : Heap) (address : Address) (requested : Nat) : Fault :=
  .invalidAddress address (heap.kind? address.segment) requested

/-- What is at an address. -/
def dereference (heap : Heap) (address : Address) : Except Fault View :=
  match (heap.get? address.segment).bind (·.view? address.offset.toNat) with
  | some view => .ok view
  | none => .error (heap.invalid address 0)

/-- The value at an address; where there are bytes it is the number of a word. -/
def readValue (heap : Heap) (address : Address) : Except Fault Address := do
  -- Objects, lists and nodes have no value of their own.
  match ← heap.dereference address with
  | .values slots =>
    match slots[0]? with
    | some value => return value
    | none => throw (heap.invalid address 2)
  | .bytes data =>
    match word? data 0 with
    | some word => return .number word
    | none => throw (heap.invalid address 2)
  | _ => throw (heap.invalid address 2)

/-- So many bytes from an address on. -/
def readBytes (heap : Heap) (address : Address) (count : Nat) : Except Fault Bytes := do
  match ← heap.dereference address with
  | .bytes data =>
    match slice? data 0 count with
    | some found => return found
    | none => throw (heap.invalid address count)
  | _ => throw (heap.invalid address count)

/-- The bytes from an address to the end of their region, in which a text is looked for. -/
def textRegion (heap : Heap) (address : Address) : Except Fault Bytes := do
  match ← heap.dereference address with
  | .bytes data => return data
  | _ => throw (heap.invalid address 1)

/-- The text at an address: the bytes before the first zero, or to the end of the region. -/
def readString (heap : Heap) (address : Address) : Except Fault Bytes :=
  (heap.textRegion address).map beforeZero

/-- The warning about a text that no zero ends. -/
def stringRecords (heap : Heap) (address : Address) : List Record :=
  match heap.textRegion address with
  | .ok data =>
    if isTerminated data then [] else [.plain .warn s!"string at {address} is not terminated"]
  | .error _ => []

/-- Writes bytes from an address on. -/
def writeBytes (heap : Heap) (address : Address) (data : Bytes) : Except Fault Heap :=
  match (heap.get? address.segment).bind (·.writeBytes? address.offset.toNat data) with
  | some segment => .ok (heap.put address.segment (some segment))
  | none => .error (heap.invalid address data.size)

/-- Writes a text and the zero that ends it. -/
def writeString (heap : Heap) (address : Address) (text : Bytes) : Except Fault Heap :=
  heap.writeBytes address (text.push 0)

/-- The segment keeps words instead of values. -/
def storesWords (heap : Heap) (address : Address) : Bool :=
  match heap.kind? address.segment with
  | some .script | some .dynmem => true
  | _ => false

/-- Stores a value at an address; where there are bytes only the offset is stored, as a word. -/
def writeValue (heap : Heap) (address value : Address) : Except Fault Heap :=
  -- A word has no room for the segment of the value.
  if heap.storesWords address then heap.writeBytes address (wordBytes value.offset)
  else
    match (heap.get? address.segment).bind (·.writeSlot? address.offset.toNat value) with
    | some segment => .ok (heap.put address.segment (some segment))
    | none => .error (heap.invalid address 2)

/-- The warning about a location that is stored as a word. -/
def writeRecords (heap : Heap) (address value : Address) : List Record :=
  if heap.storesWords address && value.isPointer then
    [.plain .warn s!"storing pointer {value} as raw word at {address}"]
  else []

end Heap

end AdventureVm
