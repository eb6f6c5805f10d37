/-! The kinds of memory segment. -/

namespace AdventureVm

/-- What a segment holds. -/
inductive SegmentKind where
  | script
  | locals
  | stack
  | clones
  | lists
  | nodes
  | hunks
  | dynmem
  | systemStrings
deriving Repr, DecidableEq, Inhabited

namespace SegmentKind

/-- The words for a kind in messages. -/
def name : SegmentKind → String
  | script => "script"
  | locals => "locals"
  | stack => "stack"
  | clones => "clones"
  | lists => "lists"
  | nodes => "nodes"
  | hunks => "hunks"
  | dynmem => "dynmem"
  | systemStrings => "system strings"

/-- All kinds. -/
def all : List SegmentKind :=
  [script, locals, stack, clones, lists, nodes, hunks, dynmem, systemStrings]

/-- The kind that the words of a message stand for. -/
def ofName? (name : String) : Option SegmentKind :=
  all.find? (·.name == name)

/-- The entries of such a segment are separate records that the collector frees one by one. -/
def isPool : SegmentKind → Bool
  | clones | lists | nodes | hunks => true
  | _ => false

end SegmentKind

end AdventureVm
