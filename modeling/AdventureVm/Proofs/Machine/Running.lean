import AdventureVm.Proofs.Machine.Reentry

/-!
A run leads along whatever its steps lead along.

What comes before and after the steps sets what the machine is doing, counts arguments that wait,
and drops frames of a run that failed.
-/

namespace AdventureVm

open VmM

namespace Machine

/-- The machine may be run along the relation, as far as that does not depend on what is run. -/
class AdmitsRuns (rel : Machine → Machine → Prop) : Prop extends Admits rel where
  /-- How the work stands may change. -/
  status : ∀ change : Status → Status, Along rel (modifyStatus change)
  /-- Frames may be dropped. -/
  truncate : ∀ depth, Along rel (modifyContext (·.truncate depth))
  /-- Arguments may wait, or wait no longer. -/
  rest : ∀ rest, Along rel (modifyContext fun context => { context with rest })

variable {rel : Machine → Machine → Prop} [AdmitsRuns rel] {run : Runner}

/-- Taking the waiting arguments is part of every run. -/
theorem takeRest_along : Along rel takeRest :=
  (along_context _).bind fun rest => (AdmitsRuns.rest 0).bind fun _ => along_pure rest

/-- Looking for the arguments of a call is part of every run. -/
theorem callBase_along (bytes : Nat) : Along rel (callBase bytes) := by
  -- The count is taken, the base is found and the argument count is raised if need be.
  refine takeRest_along.bind fun rest => (stackBase_proceeds _).bind fun base =>
    (stackGet_proceeds base).bind fun count => ?_
  dsimp only
  split
  · exact (stackSet_proceeds _ _).bind fun _ => along_pure _
  · exact along_pure _

/-- Counting a kernel call leads along whatever a collection does. -/
theorem countKernelCall_along (collects : Along rel collectGarbage) :
    Along rel countKernelCall := by
  -- An interval of zero means that there is no counting.
  refine (along_setup _).bind fun interval => ?_
  split
  · exact along_pure _
  · refine (along_status _).bind fun countdown => (AdmitsRuns.status _).bind fun _ => ?_
    split
    · exact collects.bind fun _ => along_pure _
    · exact along_pure _

/-- Calling a kernel function passes on whatever running the functions of the machine does. -/
theorem callKernel_passes {property : Machine → Prop} [AdmitsRuns (Passes property)]
    [AdmitsStack (Passes property)] (collects : Along (Passes property) collectGarbage)
    (applies : ∀ (machine : Machine) index entry, property machine →
      machine.setup.kernel.get? index = some entry →
      ∀ arguments, Along (Passes property) (applyKernel run entry arguments)) (index bytes : Nat) :
    Along (Passes property) (callKernel run index bytes) := by
  -- The collection that may be due happens before the arguments are looked at.
  refine (countKernelCall_along collects).bind fun _ =>
    (callBase_along bytes).bind fun found => (stackSlice_proceeds _ _).bind fun arguments => ?_
  -- What is known of the function is known because it is one of the machine.
  refine along_passes fun machine holds => ?_
  rw [ends_bind, ends_setup, either_ok]
  cases listed : machine.setup.kernel.get? index with
  | none => exact (ends_throw _ _ _).mpr holds
  | some entry =>
    refine Along.keeps ?_ holds
    refine (note_proceeds _ _).bind fun _ => (along_context _).bind fun depth =>
      (AdmitsRuns.status _).bind fun _ =>
        (applies machine index entry holds listed arguments).outcome.bind fun result => ?_
    exact (AdmitsRuns.status _).bind fun _ => (AdmitsRuns.truncate depth).bind fun _ =>
      (along_ofExcept result).bind fun value => (setAcc_proceeds value).bind fun _ =>
        AdmitsStack.setStackPointer _

/-- Setting what the machine is doing before and after work leads along whatever the work does. -/
theorem settle_along (depth : Nat) {work : VmM Unit} (along : Along rel work) :
    Along rel (settle depth work) := by
  -- A failed run has its frames dropped, any other has ended them.
  refine (along_status _).bind fun outer => (AdmitsRuns.status _).bind fun _ =>
    along.outcome.bind fun outcome => ?_
  cases outcome with
  | ok _ => exact AdmitsRuns.status _
  | error fault =>
    exact (AdmitsRuns.truncate depth).bind fun _ => (AdmitsRuns.status _).bind fun _ =>
      along_throw _

/-- A run of any number of steps leads along whatever each step does, given runs that do. -/
theorem runUntil_along
    (steps : ∀ run : Runner, (∀ depth, Along rel (run depth)) → Along rel (step run))
    (fuel depth : Nat) : Along rel (runUntil fuel depth) := by
  -- The runs inside of a step have fewer steps left.
  induction fuel generalizing depth with
  | zero => exact fun _ => ends_runUntil_zero
  | succ fuel ih =>
    intro machine
    -- Looking for a request to stop changes how the work stands and nothing else.
    have polls : rel machine machine.polled := AdmitsRuns.status Status.polled machine _ _ rfl
    apply ends_runUntil_succ
    case returned => exact fun _ => refl machine
    case stopped => exact fun _ _ => polls
    case steps =>
      intro _ _
      refine (steps _ (fun depth => settle_along depth (ih depth)) machine.polled).mono ?_
      intro ending between led
      have ledThere := IsTrans.trans _ _ _ polls led
      cases ending with
      | ok _ =>
        exact (ih depth between).mono fun _ after further =>
          IsTrans.trans _ _ _ ledThere further
      | error fault => exact ledThere

/-- A run leads along whatever each step does, given runs that do. -/
theorem runWithin_along
    (steps : ∀ run : Runner, (∀ depth, Along rel (run depth)) → Along rel (step run))
    (fuel depth : Nat) : Along rel (runWithin fuel depth) :=
  settle_along depth (runUntil_along steps fuel depth)

/-- Ending a run is part of every run. -/
theorem conclude_along (rest depth : Nat) (result : Except Fault Unit) :
    Along rel (do
      modifyContext fun context => { context with rest }
      conclude depth result) := by
  -- The count is put back; a failure also drops frames.
  refine (AdmitsRuns.rest rest).bind fun _ => ?_
  cases result with
  | ok _ => exact along_context _
  | error fault => exact (AdmitsRuns.truncate depth).bind fun _ => along_throw _

/-- Sending a message from outside leads along whatever sending and running do. -/
theorem sendVia_along {object : Address}
    (sends : ∀ base words, Along rel (dispatch object object base words))
    (runs : ∀ depth, Along rel (run depth)) (selector : UInt16) (arguments : List Address) :
    Along rel (sendVia run object selector arguments) := by
  -- The message is written, sent and run, and then the registers are put back.
  refine (along_context _).bind fun depth => (along_context _).bind fun base => ?_
  refine takeRest_along.bind fun rest => ?_
  refine Along.bind (Along.outcome ?_) fun result => conclude_along rest depth result
  refine (writeMessage_proceeds _ _ _).bind fun words => ?_
  exact (sends base words).bind fun _ => runs depth

end Machine

end AdventureVm
