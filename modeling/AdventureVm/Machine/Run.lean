import AdventureVm.Machine.Step

/-! Running the machine. -/

namespace AdventureVm

/-- The state in which a failed run leaves the machine. -/
def Fault.finalState : Fault → ExecState
  | interrupted request => request.finalState
  | _ => .aborted

namespace Machine

/--
Does work that runs frames, and sets what the machine is doing before and after it.

A run inside of a kernel call gives the machine back to the kernel function. A failed run leaves no
frame of its own behind.
-/
def settle (depth : Nat) (work : VmM Unit) : VmM Unit := do
  -- What the machine was doing decides what it does afterwards.
  let outer ← VmM.status (·.state)
  VmM.setState .running
  match ← VmM.outcome work with
  | .ok () =>
    VmM.setState (if outer = .awaitingKernelCall then .awaitingKernelCall else .halted)
  | .error fault =>
    VmM.modifyContext (·.truncate depth)
    VmM.setState fault.finalState
    throw fault

/--
Runs until no more than so many frames are left.

The machine looks for a request to stop before each step; it may have been left by a kernel function
or by another thread. A kernel function that uses the machine again has the steps that are left.
-/
def runUntil : Nat → Nat → Machine → Option (Except Fault Unit × Machine)
  | 0, _, _ => none
  | fuel + 1, depth, machine =>
    if machine.context.depth ≤ depth then some (.ok (), machine)
    else
      match machine.asked? with
      | some request => some (.error (.interrupted request), machine.polled)
      | none =>
        -- The step may itself run frames; it gets a runner that has one step less.
        match step (fun depth => settle depth (runUntil fuel depth)) machine.polled with
        | none => none
        | some (.error fault, machine) => some (.error fault, machine)
        | some (.ok (), machine) => runUntil fuel depth machine

/-- Runs for at most so many steps in one row. -/
def runWithin (fuel : Nat) : Runner := fun depth =>
  settle depth (runUntil fuel depth)

/-- The number of steps after which a run is given up, too large to be reached in practice. -/
def stepLimit : Nat := 0x4000000000000000

/-- Sends a message, runs until it is answered, and answers the accumulator. -/
def send (object : Address) (selector : UInt16) (arguments : List Address) : VmM Address :=
  sendVia (runWithin stepLimit) object selector arguments

/-- Calls an export of a script, runs until it returns, and answers the accumulator. -/
def callExport (number : UInt16) (index : Nat) (arguments : List Address) : VmM Address :=
  callExportVia (runWithin stepLimit) number index arguments

/-- Runs a kernel function outside of any run. -/
def invokeKernel (entry : KernelEntry) (arguments : List Address) : VmM Address :=
  applyKernel (runWithin stepLimit) entry arguments

/-- Sends a message and answers how that ended. -/
def executeMessage (object : Address) (selector : UInt16) (arguments : List Address) :
    VmM RunOutcome :=
  executeVia (runWithin stepLimit) object selector arguments

/-- A machine that has loaded no script yet. -/
def start (config : Config) (resources : Resources) : Except Fault Machine :=
  let kernel := KernelTable.ofGame resources.kernelNames
  let empty : Store :=
    { heap := { version := config.version, classes := .ofScripts resources.classScripts } }
  -- The order decides which segments the stack and the texts get.
  let prepare : StoreM (SegmentId × SegmentId) := do
    let stack ← Store.allocateStack config.stackSize
    let strings ← Store.allocateSystemStrings
    StoreM.note .debug (s!"interpreter ready: {config.version.name} layout, " ++
      s!"{kernel.size} kernel functions, stack of {config.stackSize} entries")
    return (stack, strings)
  match prepare.run empty with
  | (.error fault, _) => .error fault
  | (.ok (stackSegment, stringsSegment), store) =>
    .ok {
      store
      context := { stackSegment }
      status := { countdown := config.gcInterval }
      setup := { config, kernel, resources, stringsSegment } }

end Machine

end AdventureVm
