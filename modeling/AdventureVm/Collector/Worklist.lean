import AdventureVm.Address

/-! First-in, first-out lists of addresses. -/

namespace AdventureVm

/-- Addresses that wait to be looked at: those to come first, and the others from last to first. -/
structure Worklist where
  /-- The addresses that come first, in order. -/
  front : List Address
  /-- The addresses that come after those, the last one first. -/
  back : List Address := []
deriving Repr, Inhabited

namespace Worklist

/-- The waiting addresses in order. -/
def toList (work : Worklist) : List Address :=
  work.front ++ work.back.reverse

/-- The number of waiting addresses. -/
def length (work : Worklist) : Nat :=
  work.front.length + work.back.length

/-- Takes the address that has waited longest. -/
def pop? (work : Worklist) : Option (Address × Worklist) :=
  match work.front with
  | first :: rest => some (first, ⟨rest, work.back⟩)
  | [] =>
    -- The back is turned around once, when the front is used up.
    match work.back.reverse with
    | first :: rest => some (first, ⟨rest, []⟩)
    | [] => none

/-- Adds addresses in order. -/
def append (work : Worklist) (added : List Address) : Worklist :=
  { work with back := added.reverse ++ work.back }

/-- Adding puts the addresses after all others. -/
@[simp] theorem toList_append (work : Worklist) (added : List Address) :
    (work.append added).toList = work.toList ++ added := by
  simp [append, toList]

/-- Taking removes the first address. -/
theorem toList_of_pop? {work rest : Worklist} {first : Address}
    (taken : work.pop? = some (first, rest)) : work.toList = first :: rest.toList := by
  -- The front is used up before the reversed rest takes its place.
  obtain ⟨front, back⟩ := work
  cases front with
  | cons head tail =>
    simp only [pop?, Option.some.injEq, Prod.mk.injEq] at taken
    obtain ⟨rfl, rfl⟩ := taken
    rfl
  | nil =>
    simp only [pop?] at taken
    split at taken
    · rename_i head tail reversed
      simp only [Option.some.injEq, Prod.mk.injEq] at taken
      obtain ⟨rfl, rfl⟩ := taken
      simp [toList, reversed]
    · simp at taken

/-- Taking leaves one address less. -/
theorem length_of_pop? {work rest : Worklist} {first : Address}
    (taken : work.pop? = some (first, rest)) : rest.length < work.length := by
  -- Both counts are lengths of the lists that stand for the waiting addresses.
  have lists := congrArg List.length (toList_of_pop? taken)
  simp [toList] at lists
  unfold length
  omega

end Worklist

end AdventureVm
