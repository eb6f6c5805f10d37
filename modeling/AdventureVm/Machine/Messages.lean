import AdventureVm.Machine.Scripts
import AdventureVm.Machine.Stack

/-! Sending messages. -/

namespace AdventureVm

/-- A message on the operand stack: a selector, the number of arguments, and the arguments. -/
structure Message where
  /-- What the message is about. -/
  selector : UInt16
  /-- The slot of the number of arguments. -/
  argp : Nat
  /-- The number of arguments. -/
  argc : Nat
deriving Repr, DecidableEq, Inhabited

/--
The messages that begin below a slot, and the slot after the last of them.

A message may say that it has more arguments than there are slots left, so the last slot may lie
past the given one. There is no answer when a message begins outside of the stack.
-/
def readMessages? (slots : Array Address) (start top : Nat) : Option (List Message × Nat) :=
  if _room : start + 1 < top then
    match slots[start]?, slots[start + 1]? with
    | some selector, some count =>
      -- Both words of a message are read as numbers, whatever segment they name.
      let argc := count.offset.toNat
      (readMessages? slots (start + 2 + argc) top).map fun (rest, stop) =>
        (⟨selector.offset, start + 1, argc⟩ :: rest, stop)
    | _, _ => none
  else some ([], start)
termination_by top - start

namespace Machine

/-- The frame in which a method answers a message. -/
def methodFrame (target work pc : Address) (top : Nat) (message : Message) : VmM Frame := do
  -- The receiver remembers its last message only once the method is known to be in a script.
  let script ← VmM.require (·.script pc.segment)
  VmM.store (StoreM.change
    (·.modifyObject target fun object => { object with lastSent := some message.selector }))
  return {
    kind := .method, pc, sp := top, fp := top, argp := message.argp, argc := message.argc
    objp := work, sendp := target, locals := script.localsSegment
    selector := some message.selector }

/-- The frame in which a property answers a message. -/
def propertyFrame (target work : Address) (index top : Nat) (message : Message) : Frame :=
  { kind := .variable index, sp := top, fp := top, argp := message.argp, argc := message.argc
    objp := work, sendp := target, selector := some message.selector }

/-- The frame that answers a message; a message that is passed over gets none. -/
def answer? (target work : Address) (top : Nat) (message : Message) : VmM (Option Frame) := do
  match ← VmM.store (Store.resolve target message.selector) with
  | .method pc _ => return some (← methodFrame target work pc top message)
  | .variable _ index => return some (propertyFrame target work index top message)
  -- A selector without meaning stops the machine unless it is told to go on.
  | .notFound =>
    let fault ← selectorNotFound target message.selector
    if ← VmM.setup (·.config.continueOnInvalidSelector) then
      VmM.note .warn s!"{fault.message}; continuing"
      VmM.setAcc .null
      return none
    else throw fault

/-- The frames that answer messages, in order. -/
def answers (target work : Address) (top : Nat) : List Message → VmM (List Frame)
  | [] => return []
  | message :: rest => do
    let first ← answer? target work top message
    let others ← answers target work top rest
    return first.toList ++ others

/-- Starts frames so that the first of them is the current one. -/
def pushFrames : List Frame → VmM Unit
  | [] => return ()
  | frame :: rest => do
    -- The last message is pushed first and so answered last.
    pushFrames rest
    pushFrame frame

/-- The warning about messages that reach past the slots they were given. -/
def warnOverrun (target : Address) (excess : Nat) : VmM Unit := do
  VmM.store (StoreM.record (← VmM.read (·.nameRecords .warn target)))
  let name ← VmM.read (·.objectName target)
  VmM.note .warn s!"send to {name} overruns its frame by {excess} words"

/--
Sends the messages in so many slots to an object.

Every message is resolved before the first is answered, and the messages are no longer on the
caller's stack while they are answered. The methods see the properties of the working object.
-/
def dispatch (target work : Address) (base words : Nat) : VmM Unit := do
  let top := base + words
  let (messages, stop) ← operands? fun slots => readMessages? slots base top
  -- The last message may end past the slots of the call; it is answered all the same.
  if top < stop then
    warnOverrun target (stop - top)
  -- The caller gives up the messages before any of them is answered.
  setStackPointer base
  pushFrames (← answers target work top messages)

/-- Adds the arguments that wait to the last of the messages. -/
def extendLastMessage (base words rest : Nat) : VmM Unit := do
  let (messages, _) ← operands? fun slots => readMessages? slots base (base + words)
  -- Without a message the slot is where the first count would be.
  let slot := (messages.getLast?.map Message.argp).getD (base + 1)
  stackSet slot ((← stackGet slot).shift rest)

/-- Sends the messages on top of the stack, which take so many bytes. -/
def sendMessages (target work : Address) (bytes : Nat) : VmM Unit := do
  let rest ← takeRest
  let words := bytes / 2 + rest
  let base ← stackBase words
  if 0 < rest then
    extendLastMessage base (bytes / 2) rest
  dispatch target work base words

/-- Puts a message on the stack and answers how many slots it takes. -/
def writeMessage (base : Nat) (selector : UInt16) (arguments : List Address) : VmM Nat := do
  stackSetAll base (.number selector :: .ofNat arguments.length :: arguments)
  return 2 + arguments.length

end Machine

end AdventureVm
