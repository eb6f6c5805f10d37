import AdventureVm.Collector.Sweep
import AdventureVm.Machine.Context

/-! Kernel functions that the surrounding program adds. -/

namespace AdventureVm

/--
What an added kernel function does with the machine, step by step, until it comes to a result.

Such a function changes registers and frames only by asking the machine to run scripts; it may do
with memory and with the kernel functions what it likes.
-/
inductive HostAction where
  /-- Ends with a result or a failure. -/
  | finish (result : Except Fault Address)
  /-- Sends a message and goes on with how that ended. -/
  | send (object : Address) (selector : UInt16) (arguments : List Address)
      (next : Except Fault Address → HostAction)
  /-- Calls an export of a script and goes on with how that ended. -/
  | callExport (number : UInt16) (index : Nat) (arguments : List Address)
      (next : Except Fault Address → HostAction)
  /-- Sends a message and goes on with how that run ended, which is never a failure. -/
  | execute (object : Address) (selector : UInt16) (arguments : List Address)
      (next : RunOutcome → HostAction)
  /-- Works on memory and goes on with what it then holds. -/
  | memory (change : Store → Store) (next : Store → HostAction)
  /-- Adds a kernel function, or replaces one, and goes on with its number. -/
  | register (name : String) (action : List Address → HostAction) (next : Nat → HostAction)
  /-- Asks the run to stop. -/
  | requestStop (request : StopRequest) (next : HostAction)
  /-- Looks whether the run was asked to stop. -/
  | pendingStop (next : Option StopRequest → HostAction)
  /-- Takes the request to stop, so that the run does not notice it. -/
  | takeStop (next : Option StopRequest → HostAction)
  /-- Withdraws the request to stop. -/
  | clearStop (next : HostAction)
  /-- Collects garbage. -/
  | collect (next : Collection → HostAction)
  /-- Looks at the registers and the frames. -/
  | inspect (next : Context → ExecState → HostAction)
  /-- Keeps a picture of the machine. -/
  | takeSnapshot (next : HostAction)

end AdventureVm
