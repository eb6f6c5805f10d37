import AdventureVm.Kernel.Table
import AdventureVm.Machine.Config

/-! The machine and the computations that change it. -/

namespace AdventureVm

/-- A picture of the registers, the frames and the operand stack. -/
structure Snapshot where
  /-- The registers and the frames. -/
  context : Context
  /-- The slots of the operand stack that are in use. -/
  stack : Array Address
  /-- What the machine was doing. -/
  state : ExecState
deriving Repr, DecidableEq, Inhabited

/-- How the work of a machine stands. -/
structure Status where
  /-- What the machine is doing. -/
  state : ExecState := .halted
  /-- The request to stop that waits to be noticed. -/
  stop : StopFlag := {}
  /-- The number of instructions that were executed. -/
  steps : Nat := 0
  /-- The number of kernel calls until the next collection. -/
  countdown : Nat := 0
  /-- The pictures that were taken, oldest first. -/
  snapshots : Array Snapshot := #[]
deriving Repr, DecidableEq, Inhabited

/-- How the work stands after a look for a request to stop, which takes the request. -/
def Status.polled (status : Status) : Status :=
  { status with stop := status.stop.take.2 }

/-- What a machine was given to work with. -/
structure Setup where
  /-- The settings. -/
  config : Config
  /-- The kernel functions. -/
  kernel : KernelTable
  /-- The game's resources. -/
  resources : Resources
  /-- The segment of the scratch texts. -/
  stringsSegment : SegmentId

/-- The machine. -/
structure Machine where
  /-- The memory and the journal. -/
  store : Store
  /-- The registers and the frames. -/
  context : Context
  /-- How the work stands. -/
  status : Status
  /-- What the machine was given. -/
  setup : Setup

/--
Work of the machine that may fail; what was done before a failure stays done.

There is no answer at all when the work was given too few steps to come to its end.
-/
abbrev VmM := ExceptT Fault (StateT Machine Option)

namespace VmM

variable {α : Type}

/-- Work that uses memory only. -/
def store (work : StoreM α) : VmM α :=
  fun ⟨store, context, status, setup⟩ =>
    let (result, store) := work store
    some (result, ⟨store, context, status, setup⟩)

/-- Work that uses memory only and cannot fail. -/
def storeState (work : StateM Store α) : VmM α :=
  store (ExceptT.lift work)

/-- Reads from memory. -/
def read (query : Heap → α) : VmM α :=
  store (StoreM.read query)

/-- Reads from memory what may not be there. -/
def require (query : Heap → Except Fault α) : VmM α :=
  store (StoreM.require query)

/-- Adds a record. -/
def note (level : Level) (text : String) : VmM Unit :=
  store (StoreM.note level text)

/-- Reads from the registers and the frames. -/
def context (query : Context → α) : VmM α := do
  return query (← get).context

/-- Changes the registers or the frames. -/
def modifyContext (change : Context → Context) : VmM Unit :=
  modify fun machine => { machine with context := change machine.context }

/-- Reads how the work stands. -/
def status (query : Status → α) : VmM α := do
  return query (← get).status

/-- Changes how the work stands. -/
def modifyStatus (change : Status → Status) : VmM Unit :=
  modify fun machine => { machine with status := change machine.status }

/-- Reads from what the machine was given. -/
def setup (query : Setup → α) : VmM α := do
  return query (← get).setup

/-- Does work and answers how it ended, without failing itself. -/
def outcome (work : VmM α) : VmM (Except Fault α) :=
  ExceptT.lift work.run

/-- Ends as given. -/
def ofExcept : Except Fault α → VmM α
  | .ok value => return value
  | .error fault => throw fault

/-- Sets what the machine is doing. -/
def setState (state : ExecState) : VmM Unit :=
  modifyStatus fun status => { status with state }

/-- Loads the accumulator. -/
def setAcc (value : Address) : VmM Unit :=
  modifyContext fun context => { context with acc := value }

end VmM

namespace Machine

/-- Collects garbage now; the calls until the next collection are counted anew. -/
def collectGarbage : VmM Collection := do
  let interval ← VmM.setup (·.config.gcInterval)
  VmM.modifyStatus fun status => { status with countdown := interval }
  let context ← VmM.context id
  VmM.storeState (Store.collect context)

/-- Counts a kernel call, and collects garbage when it is time to. -/
def countKernelCall : VmM Unit := do
  if (← VmM.setup (·.config.gcInterval)) = 0 then
    return ()
  -- A count that is zero already stays zero and collects at once.
  let left := (← VmM.status (·.countdown)) - 1
  VmM.modifyStatus fun status => { status with countdown := left }
  if left = 0 then
    let _ ← collectGarbage

/-- The picture of a machine. -/
def snapshot (machine : Machine) : Snapshot :=
  { context := machine.context
    -- What lies above the stack pointer is not part of the picture.
    stack := match machine.store.heap.stack machine.context.stackSegment with
      | .ok slots => slots.extract 0 machine.context.stackTop
      | .error _ => #[]
    state := machine.status.state }

/-- Keeps a picture of the machine. -/
def takeSnapshot : VmM Unit := do
  let picture := (← get).snapshot
  VmM.modifyStatus fun status => { status with snapshots := status.snapshots.push picture }

/-- Adds a kernel function, or replaces the first one of its name, and answers its number. -/
def registerKernel (name : String) (action : List Address → HostAction) : VmM Nat :=
  modifyGet fun machine =>
    let (index, kernel) := machine.setup.kernel.register name action
    (index, { machine with setup := { machine.setup with kernel } })

/-- Leaves a request to stop, which is noticed before the next instruction. -/
def requestStop (request : StopRequest) : VmM Unit :=
  VmM.modifyStatus fun status => { status with stop := status.stop.request request }

/-- Withdraws the request to stop. -/
def clearStop : VmM Unit :=
  VmM.modifyStatus fun status => { status with stop := status.stop.clear }

/-- Looks for a request to stop and leaves it where it is. -/
def pendingStop : VmM (Option StopRequest) := do
  VmM.modifyStatus fun status => { status with stop := status.stop.receive }
  VmM.status (·.stop.pending)

/-- The request to stop that a look finds. -/
def asked? (machine : Machine) : Option StopRequest :=
  machine.status.stop.take.1

/-- The machine after a look for a request to stop, which takes the request. -/
def polled (machine : Machine) : Machine :=
  { machine with status := machine.status.polled }

@[simp] theorem polled_store (machine : Machine) : machine.polled.store = machine.store := rfl

@[simp] theorem polled_context (machine : Machine) : machine.polled.context = machine.context := rfl

@[simp] theorem polled_setup (machine : Machine) : machine.polled.setup = machine.setup := rfl

/-- Takes the request to stop, if there is one. -/
def takeStop : VmM (Option StopRequest) := do
  let found ← VmM.status (·.stop.take.1)
  VmM.modifyStatus Status.polled
  return found

end Machine

end AdventureVm
