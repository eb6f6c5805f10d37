import AdventureVm.Machine.Messages

/-! Ways into the machine, also for kernel functions that use it again. -/

namespace AdventureVm

/-- Work that ends when no more frames are left than there were before. -/
abbrev Runner := Nat → VmM Unit

namespace Machine

/-- Ends a run that was begun over some frames: what failed leaves no frame behind. -/
def conclude (depth : Nat) (result : Except Fault Unit) : VmM Address := do
  match result with
  | .ok () => VmM.context (·.acc)
  | .error fault =>
    VmM.modifyContext (·.truncate depth)
    throw fault

/-- Sends a message, runs until it is answered, and answers the accumulator. -/
def sendVia (run : Runner) (object : Address) (selector : UInt16) (arguments : List Address) :
    VmM Address := do
  let depth ← VmM.context (·.depth)
  let base ← VmM.context (·.stackTop)
  let rest ← takeRest
  -- A failure anywhere in here is passed on only after the registers are put back.
  let result ← VmM.outcome do
    let words ← writeMessage base selector arguments
    dispatch object object base words
    run depth
  VmM.modifyContext fun context => { context with rest }
  conclude depth result

/-- Sends a message and answers how that ended, without failing itself. -/
def executeVia (run : Runner) (object : Address) (selector : UInt16) (arguments : List Address) :
    VmM RunOutcome := do
  let before ← VmM.status (·.steps)
  let result ← VmM.outcome (sendVia run object selector arguments)
  -- Steps of runs inside kernel calls count as well.
  let steps := (← VmM.status (·.steps)) - before
  let acc ← VmM.context (·.acc)
  match result with
  | .ok acc => return { state := .halted, acc, steps, fault := none }
  | .error (.interrupted request) =>
    VmM.note .debug s!"run stopped by {request.name} after {steps} steps"
    return { state := request.finalState, acc, steps, fault := none }
  | .error fault =>
    VmM.note .error s!"script aborted: {fault.message}"
    VmM.setState .aborted
    return { state := .aborted, acc, steps, fault := some fault }

/-- The frame of a procedure that is called from outside, with the caller's objects. -/
def exportFrame (context : Context) (pc : Address) (locals : SegmentId)
    (arguments : List Address) : Frame :=
  let base := context.stackTop
  -- The count of the arguments stands below them and takes a slot as well.
  let top := base + 1 + arguments.length
  { kind := .call, pc, sp := top, fp := top, argp := base, argc := arguments.length
    objp := context.current?.elim .null (·.objp), sendp := context.current?.elim .null (·.sendp)
    locals }

/--
Calls an export of a script, runs until it returns, and answers the accumulator.

When the arguments do not fit the stack, no arguments wait for the next call any more.
-/
def callExportVia (run : Runner) (number : UInt16) (index : Nat) (arguments : List Address) :
    VmM Address := do
  let target ← scriptExport number index
  let context ← VmM.context id
  let rest ← takeRest
  -- A failure up to here is passed on at once.
  stackSetAll context.stackTop (.ofNat arguments.length :: arguments)
  let script ← VmM.require (·.script target.segment)
  let result ← VmM.outcome do
    pushFrame (exportFrame context target script.localsSegment arguments)
    run context.depth
  VmM.modifyContext fun context => { context with rest }
  conclude context.depth result

end Machine

/-- Does what an added kernel function asks for. -/
def HostAction.perform (run : Runner) : HostAction → VmM Address
  | finish result => VmM.ofExcept result
  | send object selector arguments next => do
    -- A failure of the run is an answer to the function, not the end of it.
    let result ← VmM.outcome (Machine.sendVia run object selector arguments)
    (next result).perform run
  | callExport number index arguments next => do
    let result ← VmM.outcome (Machine.callExportVia run number index arguments)
    (next result).perform run
  | execute object selector arguments next => do
    -- This way in answers failures by itself.
    let result ← Machine.executeVia run object selector arguments
    (next result).perform run
  | memory change next => do
    VmM.storeState (modify change)
    let machine ← get
    (next machine.store).perform run
  | register name action next => do
    let index ← Machine.registerKernel name action
    (next index).perform run
  | requestStop request next => do
    Machine.requestStop request
    next.perform run
  | pendingStop next => do
    let found ← Machine.pendingStop
    (next found).perform run
  | takeStop next => do
    let found ← Machine.takeStop
    (next found).perform run
  | clearStop next => do
    Machine.clearStop
    next.perform run
  | collect next => do
    let collection ← Machine.collectGarbage
    (next collection).perform run
  | inspect next => do
    let machine ← get
    (next machine.context machine.status.state).perform run
  | takeSnapshot next => do
    Machine.takeSnapshot
    next.perform run

namespace Machine

/-- Runs a kernel function. -/
def applyKernel (run : Runner) (entry : KernelEntry) (arguments : List Address) : VmM Address := do
  match entry.function with
  | .builtin builtin =>
    let resources ← VmM.setup (·.resources)
    let acc ← VmM.context (·.acc)
    VmM.store (KernelCall.run { resources, acc, builtin, arguments })
  | .stub =>
    VmM.note .warn
      s!"unimplemented kernel function {entry.name} called with {arguments.length} args"
    return .null
  | .host action => (action arguments).perform run

end Machine

end AdventureVm
