import AdventureVm.Proofs.Machine.Instructions

/-!
What calls, messages, instructions and added kernel functions lead along.

They are made of other work, and lead along a relation if that work does. Whatever the relation is,
they are taken apart in the same way.
-/

namespace AdventureVm

open VmM

/-- The function changes memory only in the allowed ways, and so do the functions that it adds. -/
inductive HostAction.Respects (allowed : (Store → Store) → Prop) : HostAction → Prop where
  | finish {result : Except Fault Address} : Respects allowed (.finish result)
  | send {object : Address} {selector : UInt16} {arguments : List Address}
      {next : Except Fault Address → HostAction}
      (further : ∀ result, Respects allowed (next result)) :
      Respects allowed (.send object selector arguments next)
  | callExport {number : UInt16} {index : Nat} {arguments : List Address}
      {next : Except Fault Address → HostAction}
      (further : ∀ result, Respects allowed (next result)) :
      Respects allowed (.callExport number index arguments next)
  | execute {object : Address} {selector : UInt16} {arguments : List Address}
      {next : RunOutcome → HostAction} (further : ∀ outcome, Respects allowed (next outcome)) :
      Respects allowed (.execute object selector arguments next)
  | memory {change : Store → Store} {next : Store → HostAction} (changes : allowed change)
      (further : ∀ store, Respects allowed (next store)) : Respects allowed (.memory change next)
  | register {name : String} {action : List Address → HostAction} {next : Nat → HostAction}
      (added : ∀ arguments, Respects allowed (action arguments))
      (further : ∀ index, Respects allowed (next index)) :
      Respects allowed (.register name action next)
  | requestStop {request : StopRequest} {next : HostAction} (further : Respects allowed next) :
      Respects allowed (.requestStop request next)
  | pendingStop {next : Option StopRequest → HostAction}
      (further : ∀ found, Respects allowed (next found)) : Respects allowed (.pendingStop next)
  | takeStop {next : Option StopRequest → HostAction}
      (further : ∀ found, Respects allowed (next found)) : Respects allowed (.takeStop next)
  | clearStop {next : HostAction} (further : Respects allowed next) :
      Respects allowed (.clearStop next)
  | collect {next : Collection → HostAction}
      (further : ∀ collection, Respects allowed (next collection)) :
      Respects allowed (.collect next)
  | inspect {next : Context → ExecState → HostAction}
      (further : ∀ context state, Respects allowed (next context state)) :
      Respects allowed (.inspect next)
  | takeSnapshot {next : HostAction} (further : Respects allowed next) :
      Respects allowed (.takeSnapshot next)

/-- Every function changes memory in one of all ways. -/
theorem HostAction.respects_all (action : HostAction) : action.Respects fun _ => True := by
  -- What a function asks for next may be anything, so every continuation is gone through.
  induction action with
  | finish _ => exact .finish
  | send _ _ _ _ ih => exact .send ih
  | callExport _ _ _ _ ih => exact .callExport ih
  | execute _ _ _ _ ih => exact .execute ih
  | memory _ _ ih => exact .memory trivial ih
  | register _ _ _ added ih => exact .register added ih
  | requestStop _ _ ih => exact .requestStop ih
  | pendingStop _ ih => exact .pendingStop ih
  | takeStop _ ih => exact .takeStop ih
  | clearStop _ ih => exact .clearStop ih
  | collect _ ih => exact .collect ih
  | inspect _ ih => exact .inspect ih
  | takeSnapshot _ ih => exact .takeSnapshot ih

/-- The same is being done, and no request that was taken is forgotten. -/
structure Status.GoesOn (before after : Status) : Prop where
  /-- What the machine is doing is the same. -/
  state : after.state = before.state
  /-- Requests are only taken. -/
  taken : before.stop.taken <:+ after.stop.taken

/-- Where the same requests were taken, none is forgotten. -/
theorem Status.goesOn_of_same {before after : Status} (state : after.state = before.state)
    (same : after.stop.taken = before.stop.taken) : before.GoesOn after :=
  ⟨state, same ▸ List.suffix_rfl⟩

/-- Looking for a request to stop takes at most one more. -/
theorem Status.goesOn_polled (status : Status) : status.GoesOn status.polled where
  state := rfl
  taken := ⟨_, status.stop.taken_take.symm⟩

/-- The kernel function, if it was added, changes memory only in the allowed ways. -/
def KernelEntry.Respects (allowed : (Store → Store) → Prop) (entry : KernelEntry) : Prop :=
  ∀ action, entry.function = .host action → ∀ arguments, (action arguments).Respects allowed

/-- Every kernel function changes memory in one of all ways. -/
theorem KernelEntry.respects_all (entry : KernelEntry) : entry.Respects fun _ => True :=
  fun _ _ _ => HostAction.respects_all _

namespace Machine

section Calls

variable {rel : Machine → Machine → Prop} {target work : Address}

/-- Starting frames leads along whatever starting each of them does. -/
theorem pushFrames_along [IsPreorder Machine rel] {frames : List Frame}
    (starts : ∀ frame ∈ frames, Along rel (pushFrame frame)) : Along rel (pushFrames frames) := by
  -- The first frame is started last.
  induction frames with
  | nil => exact along_pure _
  | cons frame rest ih =>
    exact (ih fun other later => starts other (List.mem_cons_of_mem _ later)).bind fun _ =>
      starts frame List.mem_cons_self

variable [Admits rel]

/-- Sending messages leads along whatever starting the frames that answer them does. -/
theorem dispatch_along {base words : Nat}
    (sends : ∀ messages, Along rel (do
      setStackPointer base
      pushFrames (← answers target work (base + words) messages))) :
    Along rel (dispatch target work base words) := by
  -- The messages are sent whether or not there was a warning about their length.
  refine (operands?_proceed _).bind fun found => ?_
  dsimp only
  split
  · exact (warnOverrun_proceeds _ _).bind fun _ => sends found.1
  · exact sends found.1

/-- Sending the messages on top of the stack leads along whatever sending them does. -/
theorem sendMessages_along (takes : Along rel takeRest)
    (dispatches : ∀ base words, Along rel (dispatch target work base words)) (bytes : Nat) :
    Along rel (sendMessages target work bytes) := by
  -- Arguments that waited are counted into the last message before all are sent.
  refine takes.bind fun rest => (stackBase_proceeds _).bind fun base => ?_
  dsimp only
  split
  · exact (extendLastMessage_proceeds _ _ _).bind fun _ => dispatches _ _
  · exact dispatches _ _

/-- Calling an export leads along whatever calling a procedure does. -/
theorem callExported_along {bytes : Nat}
    (calls : ∀ target locals, Along rel (callProcedure target bytes locals)) (number : UInt16)
    (index : Nat) : Along rel (callExported number index bytes) := by
  -- Loading the script is work on memory, and the rest is a call.
  refine (along_setup _).bind fun resources =>
    (store_proceeds (Store.loadScript_advances resources number)).bind fun id =>
      (along_require _).bind fun script => ?_
  split
  · exact along_throw _
  · exact calls _ _

end Calls

section Frames

variable {rel : Machine → Machine → Prop} [AdmitsStack rel]

/-- Sending messages leads along whatever admits moving the stack pointer and starting frames. -/
theorem dispatch_starting (starts : ∀ frame, Along rel (pushFrame frame)) (target work : Address)
    (base words : Nat) : Along rel (dispatch target work base words) :=
  dispatch_along fun _ => (AdmitsStack.setStackPointer base).bind fun _ =>
    (answers_proceed _ _ _ _).bind fun _ => pushFrames_along fun frame _ => starts frame

end Frames

section Steps

variable {rel : Machine → Machine → Prop} {run : Runner}

/-- An instruction leads along whatever jumps, calls, sends and returns do. -/
theorem execute_along [AdmitsOperands rel] (jumps : ∀ pc, Along rel (jumpTo pc))
    (passes : ∀ first, Along rel (pushRest first))
    (calls : ∀ target bytes, Along rel (callProcedure target bytes none))
    (kernel : ∀ index bytes, Along rel (callKernel run index bytes))
    (exports : ∀ number index bytes, Along rel (callExported number index bytes))
    (sends : ∀ target work bytes, Along rel (sendMessages target work bytes))
    (returns : Along rel dropFrame) (instruction : Instruction) (next : Address) :
    Along rel (execute run instruction next) := by
  by_cases plain : instruction.operation.isPlain
  · exact execute_plain run next plain (fun _ => jumps _) fun _ => passes
  · -- What is left starts a frame or ends one.
    refine (along_context _).bind fun acc => ?_
    cases operation : instruction.operation with
    | call => exact calls _ _
    | callKernel => exact kernel _ _
    | callBase => exact exports _ _ _
    | callExport => exact exports _ _ _
    | ret => exact returns
    | send => exact sends _ _ _
    | sendSelf => exact frame_proceeds.bind fun _ => sends _ _ _
    | sendSuper =>
      exact (resolveClass_proceeds _).bind fun _ => frame_proceeds.bind fun _ => sends _ _ _
    | _ =>
      rw [operation] at plain
      simp [Operation.isPlain] at plain

/-- A step leads along whatever instructions and the access to properties do. -/
theorem step_along [Admits rel] (jumps : ∀ pc, Along rel (jumpTo pc))
    (counts : ∀ change, Along rel (modifyStatus change))
    (selects : ∀ frame index, Along rel (accessSelected frame index))
    (executes : ∀ instruction next, Along rel (execute run instruction next)) :
    Along rel (step run) := by
  have carries (frame : Frame) (instruction : Instruction) :
      Along rel (carryOut run frame instruction) :=
    (jumps _).bind fun _ => (counts _).bind fun _ => executes instruction _
  -- An instruction is carried out whether or not it is recorded.
  have advances (frame : Frame) : Along rel (advance run frame) := by
    refine (along_require _).bind fun instruction => (along_setup _).bind fun traced => ?_
    dsimp only
    split
    · exact (traceInstruction_proceeds frame instruction).bind fun _ => carries frame instruction
    · exact carries frame instruction
  rw [step_eq]
  refine frame_proceeds.bind fun frame => ?_
  split
  · exact selects frame _
  · exact advances frame

end Steps

/-- Sending a message without failing leads along whatever sending it does. -/
theorem executeVia_along {rel : Machine → Machine → Prop} [Admits rel] {run : Runner}
    {object : Address} {selector : UInt16} {arguments : List Address}
    (sends : Along rel (sendVia run object selector arguments))
    (aborts : Along rel (setState .aborted)) :
    Along rel (executeVia run object selector arguments) := by
  -- Only a failure other than a request to stop aborts the machine.
  refine (along_status _).bind fun steps => sends.outcome.bind fun result =>
    (along_status _).bind fun _ => (along_context _).bind fun acc => ?_
  split
  · exact along_pure _
  · exact (note_proceeds _ _).bind fun _ => along_pure _
  · exact (note_proceeds _ _).bind fun _ => aborts.bind fun _ => along_pure _

/--
What an added kernel function may ask for leads along the relation, if the function changes memory
only in the allowed ways.
-/
structure Grants (rel : Machine → Machine → Prop) (allowed : (Store → Store) → Prop)
    (run : Runner) : Prop where
  /-- Messages may be sent. -/
  send : ∀ object selector arguments, Along rel (sendVia run object selector arguments)
  /-- Exports may be called. -/
  callExport : ∀ number index arguments, Along rel (callExportVia run number index arguments)
  /-- A message that could not be sent without failing may abort the machine. -/
  abort : Along rel (setState .aborted)
  /-- How the work stands may change otherwise. -/
  status : ∀ change : Status → Status, (∀ status : Status, status.GoesOn (change status)) →
    Along rel (modifyStatus change)
  /-- Memory may be changed in the allowed ways. -/
  memory : ∀ {change : Store → Store}, allowed change → Along rel (VmM.storeState (modify change))
  /-- Functions that change memory in the allowed ways may be added. -/
  register : ∀ (name : String) {action : List Address → HostAction},
    (∀ arguments, (action arguments).Respects allowed) → Along rel (registerKernel name action)
  /-- Garbage may be collected. -/
  collect : Along rel collectGarbage

namespace Grants

variable {rel : Machine → Machine → Prop} [Admits rel] {allowed : (Store → Store) → Prop}
  {run : Runner}

/-- Doing what an added function asks for leads along the relation. -/
theorem perform (grants : Grants rel allowed run) {action : HostAction}
    (respects : action.Respects allowed) : Along rel (action.perform run) := by
  -- Whatever is done to the flag, what was taken before stays on record.
  have asks (request : StopRequest) : Along rel (requestStop request) :=
    grants.status _ fun _ => Status.goesOn_of_same rfl rfl
  have clears : Along rel clearStop := grants.status _ fun _ => Status.goesOn_of_same rfl rfl
  have looks : Along rel pendingStop :=
    (grants.status (fun status => { status with stop := status.stop.receive }) fun status =>
      Status.goesOn_of_same rfl status.stop.taken_receive).bind fun _ => along_status _
  have takes : Along rel takeStop :=
    (along_status _).bind fun found => (grants.status _ Status.goesOn_polled).bind
      fun _ => along_pure found
  have keeps : Along rel takeSnapshot :=
    along_get.bind fun _ => grants.status _ fun _ => Status.goesOn_of_same rfl rfl
  -- What the function does next may depend on how the last thing ended.
  induction respects with
  | finish => exact along_ofExcept _
  | send _ ih => exact (grants.send _ _ _).outcome.bind ih
  | callExport _ ih => exact (grants.callExport _ _ _).outcome.bind ih
  | execute _ ih =>
    exact (executeVia_along (grants.send _ _ _) grants.abort).bind ih
  | memory changes _ ih =>
    exact (grants.memory changes).bind fun _ => along_get.bind fun machine => ih machine.store
  | register added _ _ ih => exact (grants.register _ added).bind ih
  | requestStop _ ih => exact (asks _).bind fun _ => ih
  | pendingStop _ ih => exact looks.bind ih
  | takeStop _ ih => exact takes.bind ih
  | clearStop _ ih => exact clears.bind fun _ => ih
  | collect _ ih => exact grants.collect.bind ih
  | inspect _ ih => exact along_get.bind fun machine => ih machine.context machine.status.state
  | takeSnapshot _ ih => exact keeps.bind fun _ => ih

/-- Running a kernel function leads along the relation. -/
theorem applyKernel (grants : Grants rel allowed run) {entry : KernelEntry}
    (respects : entry.Respects allowed) (arguments : List Address) :
    Along rel (applyKernel run entry arguments) := by
  -- Only an added function can use the machine again.
  unfold Machine.applyKernel
  split
  · exact (along_setup _).bind fun _ => (along_context _).bind fun _ =>
      store_proceeds (KernelCall.run_advances _)
  · exact (note_proceeds _ _).bind fun _ => along_pure _
  · rename_i action host
    exact grants.perform (respects action host arguments)

end Grants

end Machine

end AdventureVm
