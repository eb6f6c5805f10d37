import AdventureVm.Collector.Reachable
import AdventureVm.Collector.Worklist
import Std.Data.HashSet

/-! Finding what can be reached. -/

namespace AdventureVm

/-- What is left to find, and the records of references that lead nowhere. -/
structure Marking where
  /-- The canonical addresses that have not been reached. -/
  unreached : Std.HashSet Address
  /-- The records so far. -/
  records : Array Record := #[]

namespace Heap

/-- The thing that a reference leads to, unless it leads nowhere. -/
def target? (heap : Heap) (address : Address) : Option Address :=
  (heap.canonical? address).filter heap.isEntity

/--
Follows references, oldest first, until none is left.

Each thing that is reached for the first time adds the references it holds, so the work ends when
everything has been reached or nothing waits any more.
-/
def mark (heap : Heap) (work : Worklist) (marking : Marking) : Marking :=
  match _taken : work.pop? with
  | none => marking
  | some (address, rest) =>
    match heap.target? address with
    | none =>
      heap.mark rest { marking with
        records := marking.records.push (.plain .warn s!"dangling reference to {address}") }
    | some entity =>
      -- Only the first visit adds references, so cycles come to an end.
      if _new : entity ∈ marking.unreached then
        heap.mark (rest.append (heap.references entity))
          { marking with unreached := marking.unreached.erase entity }
      else heap.mark rest marking
termination_by (marking.unreached.size, work.length)
decreasing_by
  · exact Prod.Lex.right _ (Worklist.length_of_pop? _taken)
  · apply Prod.Lex.left
    have occupied : marking.unreached.isEmpty = false :=
      Std.HashSet.isEmpty_eq_false_iff_exists_mem.mpr ⟨entity, _new⟩
    have positive : marking.unreached.size ≠ 0 := by
      simpa [Std.HashSet.isEmpty_eq_size_eq_zero] using occupied
    simp only [Std.HashSet.size_erase, _new, if_true]
    omega
  · exact Prod.Lex.right _ (Worklist.length_of_pop? _taken)

/-- What cannot be reached from the roots. -/
def unreachable (heap : Heap) (roots : List Address) : Marking :=
  heap.mark ⟨roots, []⟩ { unreached := Std.HashSet.ofList heap.entities }

end Heap

end AdventureVm
