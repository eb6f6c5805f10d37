import AdventureVm.Proofs.Machine.Reentry

/-!
The machines that a run passes through, and the frames that it comes down to.

However many frames a run starts, and whatever they do, it finds the frames below them as they were
left when it comes down to these again.
-/

namespace AdventureVm

open VmM

namespace Machine

/--
The machines that a run passes through, each as it is before a step or at the end.

Before a step also means before the look for a request to stop that comes with it.
-/
def visited : Nat → Nat → Machine → List Machine
  | 0, _, machine => [machine]
  | fuel + 1, depth, machine =>
    if machine.context.depth ≤ depth ∨ machine.asked?.isSome then [machine]
    else
      match step (runWithin fuel) machine.polled with
      | some (.ok (), after) => machine :: visited fuel depth after
      -- A step that fails or does not end is the last.
      | _ => [machine]

section Visited

variable {fuel depth : Nat} {start before first : Machine} {past later : List Machine}

/-- A run passes first through the machine that it is given. -/
theorem head_of_visited (visits : visited fuel depth start = first :: later) : first = start := by
  -- Whether the run goes on or not, that machine comes first.
  have begins : (visited fuel depth start).head? = some start := by
    cases fuel with
    | zero => rfl
    | succ fuel =>
      unfold visited
      split
      · rfl
      · split <;> rfl
  rw [visits] at begins
  exact Option.some.inj begins

/-- What a run passes through after the first machine is where a run from the next one passes. -/
theorem step_of_visited (visits : visited fuel depth start = first :: later)
    (goesOn : later ≠ []) :
    ∃ left after, fuel = left + 1 ∧ ¬ start.context.depth ≤ depth ∧
      start.asked? = none ∧ step (runWithin left) start.polled = some (.ok (), after) ∧
      visited left depth after = later := by
  cases fuel with
  | zero =>
    rw [visited, List.cons.injEq] at visits
    exact absurd visits.2.symm goesOn
  | succ left =>
    unfold visited at visits
    split at visits
    · rw [List.cons.injEq] at visits
      exact absurd visits.2.symm goesOn
    · -- A run that is not at its end takes a step, and only one that succeeds leads further.
      rename_i runs
      rw [not_or, Option.not_isSome_iff_eq_none] at runs
      split at visits
      · rename_i after stepped
        rw [List.cons.injEq] at visits
        exact ⟨left, after, rfl, runs.1, runs.2, stepped, visits.2⟩
      · rw [List.cons.injEq] at visits
        exact absurd visits.2.symm goesOn

/-- From each machine that a run passes through, the rest of the run is a run of its own. -/
theorem visited_of_append (visits : visited fuel depth start = past ++ before :: later) :
    ∃ left, visited left depth before = before :: later ∧
      runUntil left depth before = runUntil fuel depth start := by
  induction past generalizing fuel start with
  | nil =>
    obtain rfl := head_of_visited visits
    exact ⟨fuel, visits, rfl⟩
  | cons first past ih =>
    obtain ⟨left, after, rfl, deep, quiet, stepped, further⟩ := step_of_visited visits (by simp)
    obtain ⟨fewer, visits, same⟩ := ih further
    refine ⟨fewer, visits, same.trans ?_⟩
    -- The run goes on from where its first step leads.
    have steps : step (fun depth => settle depth (runUntil left depth)) start.polled =
        some (.ok (), after) := stepped
    rw [runUntil, if_neg deep, quiet]
    simp only [steps]

end Visited

/-- When machines come down to as many frames as are given for the first time, these are all. -/
def Resumes (below : List Frame) (machines : List Machine) : Prop :=
  ∀ between again later, machines = between ++ again :: later →
    (∀ machine ∈ between, below.length < machine.context.depth) →
    again.context.depth ≤ below.length → again.context.frames.list = below

/-- Machines that come down to as many frames as are given, or to fewer, have had just these. -/
theorem Resumes.reached {below : List Frame} {machines between later : List Machine}
    {again : Machine} (resumes : Resumes below machines)
    (splits : machines = between ++ again :: later) (down : again.context.depth ≤ below.length) :
    ∃ machine ∈ between ++ [again], machine.context.frames.list = below := by
  -- The machine in question is the first that has come down so far.
  let low : Machine → Bool := fun machine => machine.context.depth ≤ below.length
  have exists_low : ((between ++ [again]).find? low).isSome := by
    rw [List.find?_isSome]
    exact ⟨again, by simp, by simpa [low] using down⟩
  obtain ⟨first, found⟩ := Option.isSome_iff_exists.mp exists_low
  obtain ⟨isLow, before, others, parts, above⟩ := List.find?_eq_some_iff_append.mp found
  refine ⟨first, List.mem_of_find?_eq_some found, ?_⟩
  apply resumes before first (others ++ later)
  · rw [splits, ← List.singleton_append, ← List.append_assoc, parts, List.append_assoc,
      List.cons_append]
  · intro machine member
    simpa [low] using above machine member
  · simpa [low] using isLow

/-- A run that stands over some frames finds them as they are when it comes down to them. -/
theorem visited_resumes {below : List Frame} (fuel depth : Nat) {machine : Machine}
    (stands : machine.StandsOver below) : Resumes below (visited fuel depth machine) := by
  intro between again later visits above down
  -- Each step before that is one of a frame that was started since.
  induction between generalizing fuel machine with
  | nil =>
    obtain rfl := head_of_visited visits
    rw [Context.depth, FrameStack.size_eq] at down
    exact (stands.eq_of_length_le down).symm
  | cons first between ih =>
    obtain rfl := head_of_visited visits
    obtain ⟨left, after, _, _, _, stepped, further⟩ := step_of_visited visits (by simp)
    have standsToo : first.polled.StandsOver below := stands
    have runs := standsToo.runsOver (above first (List.mem_cons_self ..))
    have still := step_standsOver (runWithin_comesBack left) runs _ _ stepped
    exact ih left still further fun machine member => above machine (.tail _ member)

end Machine

end AdventureVm
