import AdventureVm.Fault

/-!
Asking a run to stop.

The flag is shared with other threads. What these do to it shows when the machine next looks at it.
-/

namespace AdventureVm

/-- What another thread has done to the flag by the time of a look. -/
inductive Signal where
  /-- Nothing that shows. -/
  | quiet
  /-- It has left a request. -/
  | leave (request : StopRequest)
  /-- It has withdrawn what waited, or taken it. -/
  | withdraw
deriving Repr, DecidableEq, Inhabited

/--
The request that waits to be noticed, if there is one; a later request replaces it.

The flag carries what other threads are going to do to it, so that a run depends on the machine
alone. It also remembers what was taken, which nothing that the machine does depends on.
-/
structure StopFlag where
  /-- The waiting request. -/
  pending : Option StopRequest := none
  /-- What other threads do by the time of each of the next looks; later they do nothing. -/
  signals : List Signal := []
  /-- The requests that were taken by the machine, the last one first. -/
  taken : List StopRequest := []
deriving Repr, DecidableEq, Inhabited

namespace StopFlag

/-- Leaves a request. -/
def request (flag : StopFlag) (request : StopRequest) : StopFlag :=
  { flag with pending := some request }

/-- Withdraws the request. -/
def clear (flag : StopFlag) : StopFlag :=
  { flag with pending := none }

/-- The flag as it is at the next look. -/
def receive (flag : StopFlag) : StopFlag :=
  match flag.signals with
  | [] => flag
  | .quiet :: later => { flag with signals := later }
  | .leave request :: later => { flag with pending := some request, signals := later }
  | .withdraw :: later => { flag with pending := none, signals := later }

/-- Looks at the flag and takes the request, which then no longer waits. -/
def take (flag : StopFlag) : Option StopRequest × StopFlag :=
  let flag := flag.receive
  (flag.pending, { flag with pending := none, taken := flag.pending.toList ++ flag.taken })

/-- A look does not change what was taken. -/
@[simp]
theorem taken_receive (flag : StopFlag) : flag.receive.taken = flag.taken := by
  -- A signal changes what waits, and nothing else but the signals to come.
  unfold receive
  split <;> rfl

/-- What is taken comes in front of what was taken before. -/
theorem taken_take (flag : StopFlag) :
    flag.take.2.taken = flag.take.1.toList ++ flag.taken :=
  congrArg (flag.receive.pending.toList ++ ·) flag.taken_receive

/-- Nothing is taken, and nothing changes, where nothing waits and no other thread does anything. -/
theorem take_of_undisturbed {flag : StopFlag} (idle : flag.pending = none)
    (alone : flag.signals = []) : flag.take = (none, flag) := by
  obtain ⟨pending, signals, taken⟩ := flag
  cases idle
  cases alone
  rfl

end StopFlag

end AdventureVm
