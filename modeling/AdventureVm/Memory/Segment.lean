import AdventureVm.Memory.Block
import AdventureVm.Memory.Pool
import AdventureVm.Memory.SegmentKind
import AdventureVm.Script.Basic

/-! Memory segments. -/

namespace AdventureVm

/-- The local variables of a script. -/
structure LocalsTable where
  /-- The script the variables belong to. -/
  script : UInt16
  /-- The values of the variables. -/
  values : Array Address
deriving Repr, DecidableEq, Inhabited

/-- The two ends of a list of nodes. -/
structure ListEnds where
  /-- The first node, or null. -/
  first : Address := .null
  /-- The last node, or null. -/
  last : Address := .null
deriving Repr, DecidableEq, Inhabited

/-- A node of a list. -/
structure Node where
  /-- The node before this one, or null. -/
  pred : Address := .null
  /-- The node after this one, or null. -/
  succ : Address := .null
  /-- What the node is found by. -/
  key : Address := .null
  /-- What the node holds. -/
  value : Address := .null
deriving Repr, DecidableEq, Inhabited

/-- A part of memory. -/
inductive Segment where
  /-- A script with its objects, addressed by byte. -/
  | script (script : Script)
  /-- The local variables of a script, each two bytes wide. -/
  | locals (table : LocalsTable)
  /-- A stack of values, each two bytes wide. -/
  | stack (slots : Array Address)
  /-- Clones, addressed by slot. -/
  | clones (pool : Pool Object)
  /-- Lists, addressed by slot. -/
  | lists (pool : Pool ListEnds)
  /-- Nodes, addressed by slot. -/
  | nodes (pool : Pool Node)
  /-- Blocks of bytes, addressed by slot. -/
  | hunks (pool : Pool Block)
  /-- One block of bytes, addressed by byte. -/
  | dynmem (block : Block)
  /-- The scratch texts, addressed by position. -/
  | systemStrings (texts : ScratchTexts)
deriving Repr, Inhabited

namespace Segment

/-- What the segment holds. -/
def kind : Segment → SegmentKind
  | script _ => .script
  | locals _ => .locals
  | stack _ => .stack
  | clones _ => .clones
  | lists _ => .lists
  | nodes _ => .nodes
  | hunks _ => .hunks
  | dynmem _ => .dynmem
  | systemStrings _ => .systemStrings

/-- The number of slots of an operand stack unless a game says otherwise. -/
def defaultStackSize : Nat := 4096

/-- A segment with nothing in it. -/
def empty : SegmentKind → Segment
  | .script => script (.empty 0)
  | .locals => locals ⟨0, #[]⟩
  | .stack => stack (Array.replicate defaultStackSize .null)
  | .clones => clones {}
  | .lists => lists {}
  | .nodes => nodes {}
  | .hunks => hunks {}
  | .dynmem => dynmem (.zeros 0 "")
  | .systemStrings => systemStrings .fresh

/-- The offset of the thing that an offset is part of: a record of a pool, else the segment. -/
def canonicalOffset (segment : Segment) (offset : UInt16) : UInt16 :=
  if segment.kind.isPool then offset else 0

/-- Something is at the offset. -/
def isValidOffset (segment : Segment) (offset : UInt16) : Bool :=
  let place := offset.toNat
  match segment with
  | script contents => place < contents.size
  -- Slots are two bytes wide, and either byte of one counts.
  | locals table => place / 2 < table.values.size
  | stack slots => place / 2 < slots.size
  | clones pool => pool.isLive place
  | lists pool => pool.isLive place
  | nodes pool => pool.isLive place
  | hunks pool => pool.isLive place
  | dynmem block => place < block.size
  | systemStrings texts => place < texts.size

end Segment

end AdventureVm
