import AdventureVm.Proofs.Machine.Calling

/-!
The number of arguments that wait.

It is set where parameters are passed on, and taken where a call is made or messages are sent. All
else that an instruction does leaves it as it is.
-/

namespace AdventureVm

open VmM

namespace Machine

/-- As many arguments wait. -/
abbrev SameRest : Machine → Machine → Prop :=
  Same (·.context.rest)

/-- No arguments wait. -/
def NoneWait (machine : Machine) : Prop :=
  machine.context.rest = 0

variable {α : Type} {run : Runner}

section Kept

/-- Changing frames leaves the number alone. -/
theorem context_sameRest (change : Context → Context)
    (same : ∀ context, (change context).rest = context.rest) :
    Along SameRest (modifyContext change) :=
  fun machine => (ends_modifyContext _ machine _).mpr (same machine.context)

/-- Changing the current frame leaves the number alone. -/
theorem modifyFrame_sameRest (change : Frame → Frame) : Along SameRest (modifyFrame change) :=
  context_sameRest (·.modifyCurrent change) fun _ => rfl

/-- Changing how the work stands leaves the number alone. -/
theorem status_sameRest (change : Status → Status) : Along SameRest (modifyStatus change) :=
  fun machine => (ends_modifyStatus _ machine _).mpr rfl

/-- Work on memory, on registers and on the operand stack leaves the number alone. -/
instance : AdmitsStack SameRest where
  store _ machine := (ends_store _ machine _).mpr (Leads.intro fun _ _ _ => rfl)
  registers _ _ same := context_sameRest _ same
  setStackPointer _ := modifyFrame_sameRest _

/-- What leaves the registers alone leaves the number alone. -/
theorem sameRest_of_sameContext {work : VmM α} (along : Along (Same (·.context)) work) :
    Along SameRest work :=
  along.mono fun _ _ same => congrArg Context.rest same

/-- Where none wait, none wait after work that leaves the number alone. -/
theorem passes_noneWait {work : VmM α} (along : Along SameRest work) :
    Along (Passes NoneWait) work :=
  along.mono fun _ _ same none => Eq.trans same none

/-- Memory, registers and the operand stack may be worked on where none wait. -/
instance : AdmitsStack (Passes NoneWait) where
  store advances := passes_noneWait (Admits.store advances)
  registers same sameStack sameRest :=
    passes_noneWait (Admits.registers same sameStack sameRest)
  setStackPointer sp := passes_noneWait (AdmitsStack.setStackPointer sp)

/-- An instruction that neither calls nor sends and passes nothing on leaves the number alone. -/
theorem execute_sameRest (run : Runner) {instruction : Instruction} (next : Address)
    (quiet : instruction.callWords? = none) (noRest : instruction.operation ≠ .rest) :
    Along SameRest (execute run instruction next) := by
  by_cases plain : instruction.operation.isPlain
  · exact execute_plain run next plain (fun _ => modifyFrame_sameRest _)
      fun isRest => absurd isRest noRest
  · -- What is left is the end of a frame.
    unfold Instruction.callWords? at quiet
    refine (along_context _).bind fun acc => ?_
    cases operation : instruction.operation with
    | ret => exact context_sameRest (·.pop) fun _ => rfl
    | _ =>
      rw [operation] at plain quiet
      simp [Operation.isPlain] at plain quiet

/-- The access that a message asks for leaves the number alone. -/
theorem accessSelected_sameRest (frame : Frame) (index : Nat) :
    Along SameRest (accessSelected frame index) :=
  (context_sameRest (·.pop) fun _ => rfl).bind fun _ => selected_proceeds frame index

/-- Starting a frame leaves the number alone. -/
theorem pushFrame_sameRest (frame : Frame) : Along SameRest (pushFrame frame) := by
  -- Pushing a frame changes no register.
  intro machine
  apply ends_pushFrame
  · exact fun _ => rfl
  · rfl

/-- Sending messages from given slots leaves the number alone. -/
theorem dispatch_sameRest (target work : Address) (base words : Nat) :
    Along SameRest (dispatch target work base words) :=
  dispatch_starting pushFrame_sameRest target work base words

end Kept

section Taken

/-- Whatever comes after the arguments were taken, if it leaves the number alone none wait. -/
theorem takes_rest {next : Nat → VmM α} (along : ∀ rest, Along SameRest (next rest))
    (machine : Machine) : Ends (takeRest >>= next) machine fun _ after => after.NoneWait := by
  -- After taking the count it is zero, and it stays so.
  rw [ends_bind, ends_takeRest, either_ok]
  exact Ends.mono (along _ _) fun _ _ same => same

/-- After the arguments of a call were looked for, none wait. -/
theorem callBase_takes (bytes : Nat) (machine : Machine) :
    Ends (callBase bytes) machine fun _ after => after.NoneWait := by
  -- Taking the count sets it to zero; what follows leaves it alone.
  refine takes_rest (fun rest => ?_) machine
  refine (stackBase_proceeds _).bind fun base => (stackGet_proceeds base).bind fun count => ?_
  dsimp only
  split
  · exact (stackSet_proceeds _ _).bind fun _ => along_pure _
  · exact along_pure _

/-- After messages were sent from the top of the stack, none wait. -/
theorem sendMessages_takes (target work : Address) (bytes : Nat) (machine : Machine) :
    Ends (sendMessages target work bytes) machine fun _ after => after.NoneWait := by
  -- Taking the count sets it to zero; what follows leaves it alone.
  refine takes_rest (fun rest => ?_) machine
  refine (stackBase_proceeds _).bind fun base => ?_
  dsimp only
  split
  · exact (extendLastMessage_proceeds _ _ _).bind fun _ => dispatch_sameRest _ _ _ _
  · exact dispatch_sameRest _ _ _ _

/-- What holds however work ends holds where it succeeds. -/
theorem gives_of_ends {work : VmM α} {machine : Machine} {property : Machine → Prop}
    (ends : Ends work machine fun _ after => property after) :
    Gives work machine fun _ after => property after := by
  -- A failure has nothing to meet.
  refine ends.mono ?_
  intro outcome after holds
  cases outcome with
  | ok _ => exact holds
  | error _ => trivial

/-- Where none wait after some work, none wait after what follows and leaves the number alone. -/
theorem none_followed {β : Type} {first : VmM α} {next : α → VmM β} {machine : Machine}
    (takes : Ends first machine fun _ after => after.NoneWait)
    (along : ∀ value, Along (Passes NoneWait) (next value)) :
    Ends (first >>= next) machine fun _ after => after.NoneWait := by
  -- After a failure nothing follows, and none wait there either.
  rw [ends_bind]
  refine takes.mono ?_
  intro outcome between none
  cases outcome with
  | ok value => exact (along value).keeps none
  | error fault => exact none

/-- After a procedure was called, none wait. -/
theorem callProcedure_takes (target : Address) (bytes : Nat) (locals : Option SegmentId)
    (machine : Machine) :
    Ends (callProcedure target bytes locals) machine fun _ after => after.NoneWait := by
  -- Looking for the arguments takes the count; entering the frame leaves it alone.
  refine none_followed (callBase_takes bytes machine) fun found => passes_noneWait ?_
  refine frame_proceeds.bind fun caller => (pushFrame_sameRest _).bind fun _ => ?_
  exact context_sameRest _ fun _ => rfl

end Taken

section Entries

/-- Whatever a run does with the number, it is put back when the run is concluded. -/
theorem conclude_putsBack (work : VmM Unit) (rest depth : Nat) (machine : Machine) :
    Ends (do
      let result ← VmM.outcome work
      modifyContext fun context => { context with rest }
      conclude depth result) machine fun _ after => after.context.rest = rest := by
  rw [ends_bind, ends_outcome]
  intro result between _
  rw [either_ok, ends_bind, ends_modifyContext, either_ok]
  -- A failed run drops its frames on top of that, which leaves the number alone.
  cases result with
  | ok _ => exact (ends_context _ _ _).mpr rfl
  | error fault =>
    rw [conclude, ends_bind, ends_modifyContext, either_ok, ends_throw]
    rfl

/-- As many arguments wait after a message was sent, whether it was answered or failed. -/
theorem sendVia_sameRest (run : Runner) (object : Address) (selector : UInt16)
    (arguments : List Address) : Along SameRest (sendVia run object selector arguments) := by
  -- What was taken is put back at the end, whatever came in between.
  refine (along_context _).bind fun depth => (along_context _).bind fun base => ?_
  intro machine
  rw [ends_bind, ends_takeRest, either_ok]
  exact conclude_putsBack _ _ depth _

/-- Where none wait, none wait after an export was called and has returned. -/
theorem callExportVia_noneWait (run : Runner) (number : UInt16) (index : Nat)
    (arguments : List Address) :
    Along (Passes NoneWait) (callExportVia run number index arguments) := by
  refine (scriptExport_proceeds _ _).bind fun target => ?_
  refine (along_context _).bind fun context => along_passes fun machine none => ?_
  rw [ends_bind, ends_takeRest, either_ok, none]
  -- Where the arguments do not fit, the number is not put back, but it is none as well.
  have writes : Along SameRest
      (stackSetAll context.stackTop (.ofNat arguments.length :: arguments)) :=
    stackSetAll_proceeds _ _
  refine none_followed ((writes _).mono fun _ _ same => same) fun _ => ?_
  refine (along_require _).bind fun script => along_passes fun between _ => ?_
  exact conclude_putsBack _ 0 context.depth _

/-- Where none wait, none wait after whatever an added kernel function may ask for. -/
theorem grants_noneWait (run : Runner) : Grants (Passes NoneWait) (fun _ => True) run where
  -- One field for each thing that an added function may ask for.
  send object selector arguments := passes_noneWait (sendVia_sameRest run object selector arguments)
  callExport number index arguments := callExportVia_noneWait run number index arguments
  abort := passes_noneWait (status_sameRest _)
  status change _ := passes_noneWait (status_sameRest change)
  memory _ := passes_noneWait fun machine => (ends_storeState _ machine _).mpr rfl
  register _ _ _ := passes_noneWait fun machine => (ends_modifyGet _ machine _).mpr rfl
  collect := passes_noneWait (sameRest_of_sameContext collectGarbage_same)

/-- What a kernel call does before the function gets the machine. -/
def handOver (index bytes : Nat) : VmM (KernelEntry × List Address × Nat × Nat) := do
  countKernelCall
  let (base, argc) ← callBase bytes
  let arguments ← stackSlice (base + 1) argc
  let some entry ← VmM.setup (·.kernel.get? index) | throw (.unknownKernelCall index)
  VmM.note .trace s!"kernel {entry.name}({argc} args)"
  let depth ← VmM.context (·.depth)
  VmM.setState .awaitingKernelCall
  return (entry, arguments, base, depth)

/-- A kernel call hands the machine over to the function and gets it back. -/
theorem callKernel_eq (run : Runner) (index bytes : Nat) : callKernel run index bytes = (do
    let (entry, arguments, base, depth) ← handOver index bytes
    let result ← VmM.outcome (applyKernel run entry arguments)
    VmM.setState .running
    VmM.modifyContext (·.truncate depth)
    VmM.setAcc (← VmM.ofExcept result)
    setStackPointer base) := by
  -- Only an entry that is there is applied; after that both sides do the same.
  simp only [callKernel, handOver, bind_assoc]
  refine bind_congr fun _ => bind_congr fun found => bind_congr fun arguments =>
    bind_congr fun entry => ?_
  cases entry with
  | none => rfl
  | some entry => simp only [bind_assoc, pure_bind]

/-- A kernel function gets the machine without arguments that wait, however many there were. -/
theorem handOver_takes (index bytes : Nat) (machine : Machine) :
    Gives (handOver index bytes) machine fun _ after => after.NoneWait := by
  have start : machine.SameRest machine := rfl
  refine (sameRest_of_sameContext countKernelCall_same).gives_bind start fun _ counted _ => ?_
  -- The arguments that wait are taken with the call, and nothing after that puts any back.
  refine gives_of_ends (none_followed (callBase_takes bytes counted) fun found => ?_)
  refine (stackSlice_proceeds _ _).bind fun arguments => (along_setup _).bind fun entry => ?_
  cases entry with
  | none => exact along_throw _
  | some entry =>
    refine (note_proceeds _ _).bind fun _ => (along_context _).bind fun depth => ?_
    exact (passes_noneWait (status_sameRest _)).bind fun _ => along_pure _

/-- After a kernel function was called, none wait. -/
theorem callKernel_takes (run : Runner) (index bytes : Nat) (machine : Machine) :
    Gives (callKernel run index bytes) machine fun _ after => after.NoneWait := by
  rw [callKernel_eq]
  refine (handOver_takes index bytes machine).bind ?_
  rintro ⟨entry, arguments, base, depth⟩ handed none
  -- None wait when the function gets the machine, and what comes then keeps it so.
  have goesOn : Along (Passes NoneWait) (do
      let result ← VmM.outcome (applyKernel run entry arguments)
      VmM.setState .running
      VmM.modifyContext (·.truncate depth)
      VmM.setAcc (← VmM.ofExcept result)
      setStackPointer base) := by
    have applies := (grants_noneWait run).applyKernel entry.respects_all arguments
    refine applies.outcome.bind fun result => ?_
    refine (passes_noneWait (status_sameRest _)).bind fun _ => ?_
    refine (passes_noneWait (context_sameRest (·.truncate depth) fun _ => rfl)).bind fun _ => ?_
    refine (along_ofExcept result).bind fun value => ?_
    exact (setAcc_proceeds value).bind fun _ => AdmitsStack.setStackPointer base
  exact gives_of_ends (goesOn.keeps none)

/-- After an export was called by an instruction, none wait. -/
theorem callExported_takes (number : UInt16) (index bytes : Nat) (machine : Machine) :
    Gives (callExported number index bytes) machine fun _ after => after.NoneWait := by
  have start : machine.SameRest machine := rfl
  have loads (given : Resources) : Along SameRest (VmM.store (Store.loadScript given number)) :=
    store_proceeds (Store.loadScript_advances given number)
  refine (along_setup _).gives_bind start fun given _ _ => ?_
  refine (loads given).gives_bind rfl fun id loaded _ => ?_
  refine (along_require _).gives_bind rfl fun script found _ => ?_
  -- Only a procedure that exists is called, and its call takes what waits.
  cases script.export? index with
  | none => exact gives_throw _ _
  | some target => exact gives_of_ends (callProcedure_takes _ _ _ _)

/-- After an instruction that calls or sends, none wait. -/
theorem execute_takes (run : Runner) {instruction : Instruction} (next : Address) {words : Nat}
    (takes : instruction.callWords? = some words) (machine : Machine) :
    Gives (execute run instruction next) machine fun _ after => after.NoneWait := by
  have sends (target work : Address) (bytes : Nat) (before : Machine) :
      Gives (sendMessages target work bytes) before fun _ after => after.NoneWait :=
    gives_of_ends (sendMessages_takes target work bytes before)
  have start : machine.SameRest machine := rfl
  unfold Instruction.callWords? at takes
  rw [Gives, execute, ends_bind, ends_context, either_ok]
  -- Every call and every send takes the arguments first.
  cases operation : instruction.operation with
  | call => exact gives_of_ends (callProcedure_takes _ _ _ _)
  | callKernel => exact callKernel_takes run _ _ _
  | callBase => exact callExported_takes _ _ _ _
  | callExport => exact callExported_takes _ _ _ _
  | send => exact sends _ _ _ _
  | sendSelf => exact frame_proceeds.gives_bind start fun _ between _ => sends _ _ _ _
  | sendSuper =>
    refine (resolveClass_proceeds _).gives_bind start fun parent resolved same => ?_
    exact frame_proceeds.gives_bind same fun _ between _ => sends _ _ _ _
  | _ =>
    rw [operation] at takes
    simp at takes

end Entries

end Machine

end AdventureVm
