/-! Sets of characters, given by ranges of code points. -/

namespace AdventureVm

/-- The code points from a first to a last one, both included. -/
structure CodeRange where
  /-- The lowest code point. -/
  first : Nat
  /-- The highest code point. -/
  last : Nat
deriving Repr, DecidableEq, Inhabited

namespace CodeRange

/-- Whether a code point belongs to the range. -/
def Holds (range : CodeRange) (code : Nat) : Prop :=
  range.first ≤ code ∧ code ≤ range.last

/-- Whether each range starts no lower than a bound and above all the ranges in front of it. -/
def ascendFrom : Nat → List CodeRange → Bool
  | _, [] => true
  | bound, range :: rest =>
    bound ≤ range.first && range.first ≤ range.last && ascendFrom (range.last + 1) rest

/-- Looks for a code point in ascending ranges, no further than the first range above it. -/
def search : List CodeRange → Nat → Bool
  | [], _ => false
  | range :: rest, code => range.first ≤ code && (code ≤ range.last || search rest code)

/-- No ascending range holds a code point below the bound. -/
theorem not_holds_of_lt {bound code : Nat} {ranges : List CodeRange}
    (ascending : ascendFrom bound ranges = true) (below : code < bound) :
    ∀ range ∈ ranges, ¬ range.Holds code := by
  -- The bound only grows along the list.
  induction ranges generalizing bound with
  | nil => simp
  | cons range rest ih =>
    simp only [ascendFrom, Bool.and_eq_true, decide_eq_true_eq] at ascending
    obtain ⟨⟨starts, nonempty⟩, later⟩ := ascending
    intro other member
    rcases List.mem_cons.mp member with rfl | inRest
    · intro holds
      have := holds.1
      omega
    · exact ih later (by omega) other inRest

/-- The search finds exactly the code points that some range holds. -/
theorem search_eq_true_iff {bound code : Nat} {ranges : List CodeRange}
    (ascending : ascendFrom bound ranges = true) :
    search ranges code = true ↔ ∃ range ∈ ranges, range.Holds code := by
  induction ranges generalizing bound with
  | nil => simp [search]
  | cons range rest ih =>
    simp only [ascendFrom, Bool.and_eq_true, decide_eq_true_eq] at ascending
    obtain ⟨⟨_, nonempty⟩, later⟩ := ascending
    simp only [search, Bool.and_eq_true, Bool.or_eq_true, decide_eq_true_eq, ih later,
      List.mem_cons, exists_eq_or_imp]
    -- A code point below the first range lies below all of them.
    constructor
    · rintro ⟨starts, ends | found⟩
      · exact Or.inl ⟨starts, ends⟩
      · exact Or.inr found
    · rintro (holds | ⟨other, member, holds⟩)
      · exact ⟨holds.1, Or.inl holds.2⟩
      · refine ⟨Nat.le_of_not_lt fun below => ?_, Or.inr ⟨other, member, holds⟩⟩
        exact not_holds_of_lt later (by omega) other member holds

end CodeRange

/-- A set of characters as ascending ranges of their code points. -/
structure CharSet where
  /-- The ranges. -/
  ranges : List CodeRange
  /-- No two ranges overlap, and each lies above those in front of it. -/
  ascending : CodeRange.ascendFrom 0 ranges = true

namespace CharSet

/-- Whether a character belongs to the set. -/
def contains (set : CharSet) (c : Char) : Bool :=
  CodeRange.search set.ranges c.toNat

/-- The characters of a set are those whose code point some range holds. -/
theorem contains_eq_true_iff (set : CharSet) (c : Char) :
    set.contains c = true ↔ ∃ range ∈ set.ranges, range.Holds c.toNat :=
  -- The ranges of a set ascend, so the search may stop early.
  CodeRange.search_eq_true_iff set.ascending

end CharSet

end AdventureVm
