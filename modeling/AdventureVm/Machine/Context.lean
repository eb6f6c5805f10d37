import AdventureVm.Machine.Frames
import AdventureVm.Machine.Stop

/-! Registers and frames. -/

namespace AdventureVm

/-- What the machine is doing. -/
inductive ExecState where
  | running
  /-- A kernel function is at work and may use the machine again. -/
  | awaitingKernelCall
  | halted
  | aborted
  | restarting
  | loadingSavedState
deriving Repr, DecidableEq, Inhabited

/-- The word for a state in reports. -/
def ExecState.name : ExecState → String
  | running => "Running"
  | awaitingKernelCall => "AwaitingKernelCall"
  | halted => "Halted"
  | aborted => "Aborted"
  | restarting => "Restarting"
  | loadingSavedState => "LoadingSavedState"

/-- The state in which a stop request leaves the machine. -/
def StopRequest.finalState : StopRequest → ExecState
  | abort => .aborted
  | restart => .restarting
  | restoreGame => .loadingSavedState

/-- How a run of the game ended. -/
structure RunOutcome where
  /-- What the machine is doing now. -/
  state : ExecState
  /-- The accumulator. -/
  acc : Address
  /-- The number of instructions that were executed. -/
  steps : Nat
  /-- The failure, if there was one. -/
  fault : Option Fault
deriving Repr, DecidableEq, Inhabited

/-- The registers and the frames. -/
structure Context where
  /-- The segment of the operand stack. -/
  stackSegment : SegmentId
  /-- The frames. -/
  frames : FrameStack := .empty
  /-- The accumulator. -/
  acc : Address := .null
  /-- The value that the last comparison saved. -/
  prev : Address := .null
  /-- The number of further arguments that wait for the next call. -/
  rest : Nat := 0
deriving Repr, DecidableEq, Inhabited

namespace Context

/-- The number of frames. -/
def depth (context : Context) : Nat :=
  context.frames.size

/-- The current frame. -/
def current? (context : Context) : Option Frame :=
  context.frames.list.head?

/-- The first free slot of the operand stack. -/
def stackTop (context : Context) : Nat :=
  context.current?.elim 0 (·.sp)

/-- Starts a frame. -/
def push (context : Context) (frame : Frame) : Context :=
  { context with frames := context.frames.push frame }

/-- Ends the current frame, if there is one. -/
def pop (context : Context) : Context :=
  { context with frames := context.frames.pop }

/-- Changes the current frame, if there is one. -/
def modifyCurrent (context : Context) (change : Frame → Frame) : Context :=
  { context with frames := context.frames.modifyCurrent change }

/-- Moves the stack pointer of the frame below the current one, if there is one. -/
def setCallerStackPointer (context : Context) (sp : Nat) : Context :=
  { context with frames := context.frames.modifyCaller fun caller => { caller with sp } }

/-- Drops frames until at most so many are left. -/
def truncate (context : Context) (depth : Nat) : Context :=
  { context with frames := context.frames.truncate depth }

end Context

end AdventureVm
