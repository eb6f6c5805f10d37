import AdventureVm.Address
import AdventureVm.Bytes
import AdventureVm.Instruction.Operation

/-! The statements of an assembly program. -/

namespace AdventureVm

/-- The number of a label, counted from zero in the order of creation. -/
abbrev Label := Nat

/-- An operand as it is written in a program. -/
inductive Argument where
  /-- A known value; the low byte counts where an operand is a single byte. -/
  | value (word : UInt16)
  /-- The distance to a label. -/
  | label (target : Label)
  /-- The place of an object of the script. -/
  | object (name : String)
  /-- The place of a text of the script. -/
  | text (text : String)
deriving Repr, DecidableEq, Inhabited

/-- One step of an assembly program. -/
inductive Statement where
  /-- Creates the next label without a position. -/
  | label
  /-- Gives a label the current position, also when it had one. -/
  | bind (label : Label)
  /-- An operation with its operands. -/
  | instruction (operation : Operation) (arguments : List Argument)
  /-- The bare opcode with the given number. -/
  | opcode (number : Nat)
  /-- Bytes as they are. -/
  | raw (bytes : Bytes)
deriving Repr, Inhabited

namespace Statement

/-- An operation without operands. -/
def plain (operation : Operation) : Statement :=
  .instruction operation []

/-- Loads a signed constant into the accumulator. -/
def loadImmediate (value : Int) : Statement :=
  .instruction .loadImmediate [.value (wordOfInt value)]

/-- Pushes a signed constant. -/
def pushImmediate (value : Int) : Statement :=
  .instruction .pushImmediate [.value (wordOfInt value)]

/-- Jumps to a label, unconditionally or as the branch operation says. -/
def branch (operation : Operation) (target : Label) : Statement :=
  .instruction operation [.label target]

/-- Reserves temporary variables. -/
def link (count : UInt16) : Statement :=
  .instruction .link [.value count]

/-- The size in bytes of a number of words on the stack. -/
def frameBytes (words : UInt16) : Argument :=
  .value (2 * words)

/-- Calls the procedure at a label; its argument count and arguments have been pushed. -/
def call (target : Label) (argc : UInt16) : Statement :=
  .instruction .call [.label target, frameBytes argc]

/-- Calls a kernel function. -/
def callKernel (index argc : UInt16) : Statement :=
  .instruction .callKernel [.value index, frameBytes argc]

/-- Calls an export of the main script. -/
def callBase (index argc : UInt16) : Statement :=
  .instruction .callBase [.value index, frameBytes argc]

/-- Calls an export of any script. -/
def callExport (script index argc : UInt16) : Statement :=
  .instruction .callExport [.value script, .value index, frameBytes argc]

/-- Sends messages of so many words to the object in the accumulator. -/
def send (words : UInt16) : Statement :=
  .instruction .send [frameBytes words]

/-- Sends messages of so many words to the current object. -/
def sendSelf (words : UInt16) : Statement :=
  .instruction .sendSelf [frameBytes words]

/-- Sends messages of so many words to the current object, looked up from a class. -/
def sendSuper (species words : UInt16) : Statement :=
  .instruction .sendSuper [.value species, frameBytes words]

/-- Loads the address of a class. -/
def loadClass (species : UInt16) : Statement :=
  .instruction .loadClass [.value species]

/-- Pushes the parameters from the given one on for the next call. -/
def rest (first : UInt16) : Statement :=
  .instruction .rest [.value first]

/-- Loads the address of a variable. -/
def lea (kind : VariableKind) (index : UInt16) : Statement :=
  .instruction .lea [.value (UInt16.ofNat (2 * kind.bits)), .value index]

/-- Accesses a property of the current object. -/
def property (action : VariableAction) (index : UInt16) : Statement :=
  .instruction (.property action) [.value (2 * index)]

/-- Accesses a variable. -/
def access (op : VariableOp) (index : UInt16) : Statement :=
  .instruction (.variable op) [.value index]

/-- Loads or pushes the place of an object. -/
def objectOffset (operation : Operation) (name : String) : Statement :=
  .instruction operation [.object name]

/-- Loads or pushes the place of a text. -/
def textOffset (operation : Operation) (text : String) : Statement :=
  .instruction operation [.text text]

end Statement

end AdventureVm
