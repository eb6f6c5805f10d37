import AdventureVm.Proofs.Lists.Calls
import AdventureVm.Proofs.Lists.Gathered

/-!
In every memory, lists behave as the sequences that they represent.

One call answers from the sequences or changes one of them, and so does one call after the other.
Where nodes were made elsewhere than in their pool, a list can be longer than it is gone through, so
there it is asked that no list is.
-/

namespace AdventureVm

open Heap Store StoreM

/-- A kernel function leaves the nodes of memory together. -/
theorem Heap.Gathered.call {store after : Store} {call : KernelCall}
    {outcome : Except Fault Address} (gathered : store.heap.Gathered)
    (ended : call.run.run store = (outcome, after)) : after.heap.Gathered := by
  -- A kernel function puts in no segment; it changes pools and values only.
  have develops := call.run_advances store gathered.sound.opened
  rw [Leads, ended] at develops
  exact gathered.of_develops develops

namespace Sequences

/-- What calls answer, one after the other, and what becomes of the sequences on the way. -/
inductive Course : Sequences → List KernelCall → List Address → Sequences → Prop where
  | done (state : Sequences) : Course state [] [] state
  /-- The next call only asks. -/
  | asked {state final : Sequences} {call : KernelCall} {calls : List KernelCall}
      {answer : Address} {answers : List Address}
      (answered : state.Answers call.builtin call.arguments answer)
      (rest : Course state calls answers final) :
      Course state (call :: calls) (answer :: answers) final
  /-- The next call changes a sequence. -/
  | changed {state next final : Sequences} {call : KernelCall} {calls : List KernelCall}
      {answer : Address} {answers : List Address}
      (becomes : state.Becomes call.acc call.builtin call.arguments answer next)
      (rest : Course next calls answers final) :
      Course state (call :: calls) (answer :: answers) final

end Sequences

namespace KernelCall

/-- Calls on lists answer and change what the same operations on sequences do, call after call. -/
theorem run_of_course {state final : Sequences} {calls : List KernelCall} {answers : List Address}
    (course : state.Course calls answers final) {store : Store} (gathered : store.heap.Gathered)
    (shows : store.heap.Shows state) :
    ∃ after, (calls.mapM KernelCall.run).run store = (.ok answers, after) ∧
      after.heap.Gathered ∧ after.heap.Shows final ∧ store.heap.SparesOthers after.heap := by
  -- After each call the memory shows what the sequences have become, so the next one can follow.
  suffices settled : (calls.mapM KernelCall.run).Succeeds store fun given after =>
      given = answers ∧ after.heap.Gathered ∧ after.heap.Shows final ∧
        store.heap.SparesOthers after.heap by
    obtain ⟨given, after, ended, rfl, holds⟩ := settled.run
    exact ⟨after, ended, holds⟩
  induction course generalizing store with
  | done state => exact ⟨rfl, gathered, shows, .refl _⟩
  -- A question changes nothing.
  | asked answered _ ih =>
    rw [List.mapM_cons]
    have answered := run_of_answers gathered.sound.grounded shows
      (fun _ => gathered.isShort shows) answered
    refine (succeeds_of_run answered).bind ?_
    rintro answer _ ⟨rfl, rfl⟩
    refine (ih gathered shows).bind ?_
    rintro answers after ⟨rfl, holds⟩
    exact ⟨rfl, holds⟩
  | changed becomes _ ih =>
    obtain ⟨between, ended, shown, spared⟩ :=
      run_of_becomes gathered.sound.grounded shows (fun _ => gathered.isShort shows) becomes
    rw [List.mapM_cons]
    refine (succeeds_of_run ended).bind ?_
    rintro answer _ ⟨rfl, rfl⟩
    refine (ih (gathered.call ended) shown).bind ?_
    rintro answers after ⟨rfl, gathered, shown, sparedToo⟩
    exact ⟨rfl, gathered, shown, spared.trans sparedToo⟩

/-- A call in a game without resources. -/
def plain (builtin : Builtin) (arguments : List Address) : KernelCall :=
  { resources := {}, acc := .null, builtin, arguments }

end KernelCall

namespace Store

/-- A memory with a list of two nodes, a list of one node, and a node that is in neither. -/
def listsInRow : Store :=
  let calls : List (Builtin × List Address) :=
    [(.newList, []), (.newList, []), (.newNode, [.number 10]), (.newNode, [.number 20]),
      (.newNode, [.number 30]), (.newNode, [.number 40]), (.addToEnd, [⟨1, 0⟩, ⟨2, 1⟩]),
      (.addToFront, [⟨1, 0⟩, ⟨2, 0⟩]), (.addToEnd, [⟨1, 1⟩, ⟨2, 3⟩])]
  calls.foldl (fun store call => ((KernelCall.plain call.1 call.2).run.run store).2)
    (Store.blank .sci0 {} #[])

end Store

end AdventureVm
