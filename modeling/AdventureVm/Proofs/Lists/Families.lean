import AdventureVm.Proofs.Lists.Traversal
import AdventureVm.Proofs.Memory.Grounded
import Mathlib.Logic.Function.Basic

/-!
Families of lists that represent separate sequences, and what else is known about records.

Each change of one sequence, one key or one record is a change of what the memory shows.
-/

namespace AdventureVm

/-- What memory shows: the sequences of a family of lists, and all else about every record. -/
structure Sequences where
  /-- The nodes of each list of the family, in order. -/
  order : Address → Option (List Address)
  /-- Every record in memory, without the ends of lists and the links of nodes. -/
  records : Address → Option Entry

namespace Sequences

variable {state : Sequences} {list node key : Address} {nodes : List Address}

/-- A node has a key. -/
def hasKey (state : Sequences) (key node : Address) : Bool :=
  (state.records node).any (Entry.hasKey key)

/-- A node is in memory, but in none of the sequences. -/
structure IsUnlisted (state : Sequences) (node : Address) : Prop where
  /-- The node is in memory. -/
  live : ∃ contents, state.records node = some (.node contents)
  /-- No list of the family has it. -/
  outside : ∀ list nodes, state.order list = some nodes → node ∉ nodes

/-- No sequence has more nodes than are looked at when a list is gone through. -/
def IsShort (state : Sequences) : Prop :=
  ∀ list nodes, state.order list = some nodes → nodes.length ≤ Pool.maxSlots

/-- One list represents another sequence, or is no longer one of the family. -/
def reorder (state : Sequences) (list : Address) (nodes : Option (List Address)) : Sequences :=
  { state with order := Function.update state.order list nodes }

/-- One node gets another key, if there is one to be given. -/
def rekey (state : Sequences) (node : Address) : Option Address → Sequences
  | none => state
  | some key =>
    { state with
      records := Function.update state.records node
        ((state.records node).map (Entry.changeNode fun contents => { contents with key })) }

/-- Some records are gone. -/
def without (state : Sequences) (freed : List Address) : Sequences :=
  { state with records := fun address => if address ∈ freed then none else state.records address }

/-- The sequence of one list is the new one, and the others are as they were. -/
theorem order_reorder (state : Sequences) (list other : Address) (nodes : Option (List Address)) :
    (state.reorder list nodes).order other = if other = list then nodes else state.order other :=
  Function.update_apply _ _ _ _

/-- A new key changes no sequence. -/
@[simp] theorem order_rekey (state : Sequences) (node : Address) (key : Option Address) :
    (state.rekey node key).order = state.order := by
  cases key <;> rfl

/-- A node stays in memory, and outside of all sequences, when a node gets another key. -/
theorem IsUnlisted.rekey (unlisted : state.IsUnlisted node) (other : Address)
    (key : Option Address) : (state.rekey other key).IsUnlisted node := by
  refine ⟨?_, by simpa using unlisted.outside⟩
  obtain ⟨contents, live⟩ := unlisted.live
  cases key with
  | none => exact ⟨contents, live⟩
  | some key =>
    -- Even the node that gets the key stays a node.
    by_cases same : node = other
    · subst same
      exact ⟨{ contents with key }, by simp [Sequences.rekey, live, Entry.changeNode]⟩
    · exact ⟨contents, by simp [Sequences.rekey, same, live]⟩

end Sequences

namespace Heap

/-- A memory shows certain sequences, which have no node in common, and certain records. -/
structure Shows (heap : Heap) (state : Sequences) : Prop where
  /-- Every list of the family represents its sequence. -/
  represents : ∀ {list nodes}, state.order list = some nodes → heap.Represents list nodes
  /-- No node is in two sequences. -/
  disjoint : ∀ {list other nodes others}, state.order list = some nodes →
    state.order other = some others → list ≠ other → nodes.Disjoint others
  /-- The records are as they are said to be. -/
  records : ∀ address, heap.contents? address = state.records address

variable {heap before after : Heap} {state : Sequences} {list node : Address}
  {nodes others freed : List Address}

/-- Null is no node of a sequence. -/
theorem Represents.real (represents : heap.Represents list nodes) (grounded : heap.Grounded) :
    Address.null ∉ nodes := by
  -- Every node of the row is a record, and a grounded memory has no record at null.
  intro member
  obtain ⟨node, there⟩ := represents.linked.live _ member
  cases grounded.isNull_of_record there

namespace Shows

/-- What is shown as a node is one. -/
theorem live (shows : heap.Shows state) {contents : Node}
    (given : state.records node = some (.node contents)) :
    ∃ entry, heap.recordAt? node = some (.node entry) := by
  -- The state keeps records without their links, and that keeps a node a node.
  rw [← shows.records, contents?, Option.map_eq_some_iff] at given
  obtain ⟨entry, there, same⟩ := given
  cases entry with
  | node entry => exact ⟨entry, there⟩
  | _ => simp [Entry.unlinked] at same

/-- A list of the family is no node of a sequence. -/
theorem list_notMem (shows : heap.Shows state) (given : state.order list = some nodes)
    {other : Address} (givenToo : state.order other = some others) : list ∉ others := by
  -- The address would have to be a list and a node at once.
  intro member
  have ends := ends?_eq_some.mp (shows.represents given).ends
  obtain ⟨entry, there⟩ := (shows.represents givenToo).linked.live list member
  rw [ends] at there
  cases there

/-- Where one list is linked to nodes of its own and to others of no list, one sequence changes. -/
theorem reorder (shows : before.Shows state) (given : state.order list = some nodes)
    (represents : after.Represents list others)
    (relinked : before.Relinked [list] others after)
    (own : ∀ address ∈ others, address ∈ nodes ∨ state.IsUnlisted address) :
    after.Shows (state.reorder list (some others)) := by
  -- The nodes of the other lists are neither nodes of this one nor in no list.
  have apart : ∀ {other row}, other ≠ list → state.order other = some row →
      row.Disjoint others := by
    intro other row different givenToo address inRow inOthers
    rcases own address inOthers with inNodes | unlisted
    · exact shows.disjoint givenToo given different inRow inNodes
    · exact unlisted.outside other row givenToo inRow
  refine ⟨?_, ?_, ?_⟩
  · intro other row givenToo
    rw [Sequences.order_reorder] at givenToo
    split at givenToo
    · rename_i here
      rw [here, ← Option.some.inj givenToo]
      exact represents
    · rename_i elsewhere
      exact (shows.represents givenToo).of_relinked relinked (by simp [elsewhere])
        (apart elsewhere givenToo)
  · intro first second row rowToo givenFirst givenSecond different
    rw [Sequences.order_reorder] at givenFirst givenSecond
    -- At most one of the two lists is the one that changed.
    split at givenFirst <;> split at givenSecond
    · rename_i here there
      exact absurd (here.trans there.symm) different
    · rename_i elsewhere
      exact Option.some.inj givenFirst ▸ (apart elsewhere givenSecond).symm
    · rename_i elsewhere _
      exact Option.some.inj givenSecond ▸ apart elsewhere givenFirst
    · exact shows.disjoint givenFirst givenSecond different
  · intro address
    rw [relinked.contents]
    exact shows.records address

/-- A list may be left out of the family. -/
theorem drop (shows : heap.Shows state) (list : Address) :
    heap.Shows (state.reorder list none) := by
  -- Every sequence that is left was there before.
  have kept : ∀ {other row}, (state.reorder list none).order other = some row →
      state.order other = some row := by
    intro other row given
    rw [Sequences.order_reorder] at given
    split at given
    · simp at given
    · exact given
  exact ⟨fun given => shows.represents (kept given),
    fun given givenToo different => shows.disjoint (kept given) (kept givenToo) different,
    shows.records⟩

/-- Freeing what is no list and no node of the family changes no sequence. -/
theorem without (shows : before.Shows state) (given : before.Freed freed after)
    (spared : ∀ list nodes, state.order list = some nodes →
      list ∉ freed ∧ nodes.Disjoint freed) :
    after.Shows (state.without freed) := by
  refine ⟨?_, shows.disjoint, ?_⟩
  · intro list nodes listed
    obtain ⟨listKept, nodesKept⟩ := spared list nodes listed
    exact given.represents (shows.represents listed) listKept nodesKept
  · intro address
    rw [contents?, given.records]
    -- What is freed is left out on both sides.
    simp only [Sequences.without]
    split
    · rfl
    · exact shows.records address

/-- A node that gets another key is shown with that key, and nothing else is shown otherwise. -/
theorem rekey (shows : heap.Shows state) {entry : Node}
    (there : heap.recordAt? node = some (.node entry)) (key : Address) :
    (heap.modifyNode node fun contents => { contents with key }).Shows
      (state.rekey node (some key)) := by
  have record := heap.recordAt?_modifyNode node
  -- Neither ends nor links depend on a key.
  have ends := heap.ends?_modifyNode node
  have links : ∀ address,
      (heap.modifyNode node fun contents => { contents with key }).links? address =
        heap.links? address := by
    intro address
    rw [links?, links?, record]
    split
    · rename_i here
      rw [here, there]
      rfl
    · rfl
  refine ⟨?_, shows.disjoint, ?_⟩
  · intro list nodes given
    have represents := shows.represents given
    exact ⟨(ends list _).trans represents.ends, represents.linked.congr fun node _ => links node,
      represents.distinct⟩
  · -- Memory and the family change the record of the same node.
    intro address
    simp only [Sequences.rekey, Function.update_apply, ← shows.records, contents?, record]
    split
    · rename_i here
      rw [here, there]
      rfl
    · rfl

end Shows

end Heap

end AdventureVm
