import AdventureVm.Format

/-! The settings of a machine. -/

namespace AdventureVm

/-- The settings of a machine, which stay as they are while it works. -/
structure Config where
  /-- The format of the game's scripts. -/
  version : Version := .sci0
  /-- The number of slots of the operand stack. -/
  stackSize : Nat := 4096
  /-- The largest number of frames. -/
  maxCallDepth : Nat := 256
  /-- The number of kernel calls from one collection to the next; zero means no collections. -/
  gcInterval : Nat := 500
  /-- Messages that an object does not understand are passed over instead of ending the run. -/
  continueOnInvalidSelector : Bool := false
  /-- Every instruction is recorded. -/
  traceInstructions : Bool := false
deriving Repr, DecidableEq, Inhabited

end AdventureVm
