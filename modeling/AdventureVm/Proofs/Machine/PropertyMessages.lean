import AdventureVm.Proofs.Machine.Calling
import AdventureVm.Proofs.Machine.Steady
import AdventureVm.Proofs.Memory.Slots

/-!
A message that names a property is a detour to the property.

It is written onto the operand stack, read from there, and given a frame that the next turn of the
run ends. What is left is what reading or replacing the property itself leaves, but for the slots of
the operand stack.
-/

namespace AdventureVm

open VmM

section Writing

variable {slots : Array Address} {start : Nat} {values : List Address}

/-- A message that was written with its selector and its arguments is the one that is read. -/
theorem holdsMessages_storeAll {selector : UInt16} (small : values.length < 65536)
    (room : start + (2 + values.length) ≤ slots.size) :
    HoldsMessages (storeAll slots start (.number selector :: .ofNat values.length :: values))
      (start + (2 + values.length)) start [⟨selector, start + 1, values.length⟩] := by
  -- What is read from a slot is what was stored there, since all slots exist.
  have stored (index : Nat) (inside : index < 2 + values.length) :
      (storeAll slots start (.number selector :: .ofNat values.length :: values))[start + index]? =
        (Address.number selector :: .ofNat values.length :: values)[index]? :=
    getElem?_storeAll (by simp only [List.length_cons]; omega)
      (by simp only [List.length_cons]; omega)
  refine ⟨?_, rfl, ?_, Nat.add_assoc start 2 values.length⟩
  · exact congrArg (Option.map (·.offset)) (stored 0 (by omega))
  · rw [stored 1 (by omega)]
    simp [Address.ofNat, Address.number, Nat.mod_eq_of_lt small]

end Writing

namespace VmM

variable {machine : Machine}

/-- Memory is changed where the change succeeds. -/
theorem run_attempt_ok {step : Heap → Except Fault Heap} {heap : Heap}
    (done : step machine.store.heap = .ok heap) : store (StoreM.attempt step) machine =
      some (.ok (), { machine with store := machine.store.mapHeap fun _ => heap }) := by
  -- What leads to a condition on the outcome is a run of that outcome.
  apply run_store
  rw [StoreM.leads_attempt, done]
  exact ⟨rfl, rfl⟩

/-- A change of memory that fails changes nothing. -/
theorem run_attempt_error {step : Heap → Except Fault Heap} {fault : Fault}
    (failed : step machine.store.heap = .error fault) :
    store (StoreM.attempt step) machine = some (.error fault, machine) := by
  -- What leads to a condition on the outcome is a run of that outcome.
  apply run_store
  rw [StoreM.leads_attempt, failed]
  exact ⟨rfl, rfl⟩

end VmM

namespace Machine

variable {machine : Machine} {slots : Array Address}

/-- The machine with other slots in its operand stack. -/
def withSlots (machine : Machine) (slots : Array Address) : Machine :=
  { machine with
    store := machine.store.mapHeap (·.withStack machine.context.stackSegment slots) }

/-- The machine with other registers and frames. -/
def withContext (machine : Machine) (context : Context) : Machine :=
  { machine with context }

/-- The machine in another state. -/
def withState (machine : Machine) (state : ExecState) : Machine :=
  { machine with status := { machine.status with state } }

/-- The operand stack of a machine has the given slots. -/
def HasSlots (slots : Array Address) (machine : Machine) : Prop :=
  machine.store.heap.HasStack machine.context.stackSegment slots

/-- Of two rounds of slots for the operand stack, the second counts. -/
@[simp] theorem withSlots_withSlots (machine : Machine) (slots others : Array Address) :
    (machine.withSlots slots).withSlots others = machine.withSlots others := by
  simp only [withSlots, Store.mapHeap, Heap.withStack_withStack]

/-- The slots that the operand stack was given are those that it has. -/
theorem HasSlots.withSlots (has : machine.HasSlots slots) (others : Array Address) :
    (machine.withSlots others).HasSlots others :=
  has.withStack others

/-- Registers or frames are looked at. -/
theorem run_context {α : Type} (query : Context → α) (machine : Machine) :
    VmM.context query machine = some (.ok (query machine.context), machine) := rfl

/-- The arguments that wait are taken. -/
theorem run_takeRest (machine : Machine) : takeRest machine =
    some (.ok machine.context.rest, machine.withContext { machine.context with rest := 0 }) := rfl

/-- Registers or frames are changed. -/
theorem run_modifyContext (change : Context → Context) (machine : Machine) :
    modifyContext change machine =
      some (.ok (), machine.withContext (change machine.context)) := rfl

/-- What the machine is doing is set. -/
theorem run_setState (state : ExecState) (machine : Machine) :
    setState state machine = some (.ok (), machine.withState state) := rfl

/-- The stack pointer is moved. -/
theorem run_setStackPointer (sp : Nat) (machine : Machine) : setStackPointer sp machine =
    some (.ok (), machine.withContext (machine.context.modifyCurrent fun frame =>
      { frame with sp })) := rfl

/-- A frame is started where there are few enough of them. -/
theorem run_pushFrame (shallow : machine.context.depth < machine.setup.config.maxCallDepth)
    (frame : Frame) : pushFrame frame machine =
      some (.ok (), machine.withContext (machine.context.push frame)) := by
  -- The depth and the limit are read, and the limit is not reached.
  rw [pushFrame, run_bind_of_ok rfl, run_bind_of_ok rfl]
  dsimp only
  rw [if_neg (Nat.not_lt_of_le shallow)]
  rfl

/-- The operand stack is asked. -/
theorem HasSlots.run_operands {α : Type} (has : machine.HasSlots slots)
    (query : Array Address → α) : operands query machine = some (.ok (query slots), machine) := by
  -- The stack segment is a stack with these slots.
  rw [operands, run_bind_of_ok rfl, run_require, Heap.stack_eq_ok.mpr has]
  rfl

/-- The operand stack is asked for something that it has. -/
theorem HasSlots.run_operands? {α : Type} (has : machine.HasSlots slots)
    {query : Array Address → Option α} {value : α} (found : query slots = some value) :
    operands? query machine = some (.ok value, machine) := by
  -- What is asked for is there.
  rw [operands?, run_bind_of_ok (has.run_operands _), found]
  rfl

/-- A value is stored into a slot of the operand stack. -/
theorem HasSlots.run_stackSet (has : machine.HasSlots slots) {index : Nat}
    (inside : index < slots.size) (value : Address) :
    stackSet index value machine =
      some (.ok (), machine.withSlots (slots.setIfInBounds index value)) := by
  -- The capacity is read, and the index is inside of it.
  rw [stackSet, run_bind_of_ok (has.run_operands _)]
  dsimp only
  rw [if_neg (Nat.not_le_of_lt inside), Machine.withSlots, Store.mapHeap,
    ← has.setStackSlot_eq index value]
  rfl

/-- Values are stored into neighbouring slots of the operand stack. -/
theorem HasSlots.run_stackSetAll {start : Nat} {values : List Address}
    (has : machine.HasSlots slots) (room : start + values.length ≤ slots.size) :
    stackSetAll start values machine =
      some (.ok (), machine.withSlots (storeAll slots start values)) := by
  -- The slots change with each value, so they stay quantified.
  induction values generalizing machine slots start with
  | nil =>
    rw [storeAll, Machine.withSlots, Store.mapHeap, has.withStack_self]
    rfl
  | cons value rest ih =>
    rw [List.length_cons] at room
    rw [stackSetAll, run_bind_of_ok (has.run_stackSet (by omega) value),
      ih (has.withSlots _) (by rw [Array.size_setIfInBounds]; omega), withSlots_withSlots]
    rfl

/-- A selector that names a property is found to do so, and nothing is recorded. -/
theorem run_resolve_property {target receiver : Address} {selector : UInt16} {index : Nat}
    (found : machine.store.heap.lookup target selector = .ok (.variable receiver index)) :
    VmM.store (Store.resolve target selector) machine =
      some (.ok (.variable target index), machine) := by
  apply run_store
  rw [Store.resolve, StoreM.noted, leads_bind, StoreM.leads_require, Heap.resolve_of_variable found]
  -- There are no records to add to the journal.
  exact ⟨rfl, congrArg (Store.mk machine.store.heap) machine.store.journal.append_empty⟩

/-- A selector that names a property has its position. -/
theorem run_propertyIndex {object receiver : Address} {selector : UInt16} {index : Nat}
    (found : machine.store.heap.lookup object selector = .ok (.variable receiver index)) :
    propertyIndex object selector machine = some (.ok index, machine) := by
  -- The lookup finds the property and records nothing that matters.
  rw [propertyIndex, run_bind_of_ok (run_resolve_property found)]
  rfl

/-- A message that names a property of the receiver is answered by a frame for that property. -/
theorem run_answer?_property {target receiver : Address} {message : Message} {index : Nat}
    (found : machine.store.heap.lookup target message.selector = .ok (.variable receiver index))
    (work : Address) (top : Nat) :
    answer? target work top message machine =
      some (.ok (some (propertyFrame target work index top message)), machine) := by
  -- The lookup finds a property, so there is no method to be run.
  rw [answer?, run_bind_of_ok (run_resolve_property found)]
  rfl

/-- A frame that gives up nothing of its stack stays as it is. -/
theorem modifyCurrent_stackTop (context : Context) :
    (context.modifyCurrent fun frame => { frame with sp := context.stackTop }) = context := by
  -- The top of the stack is that of the current frame, so it is written back as it was.
  obtain ⟨segment, frames, acc, prev, rest⟩ := context
  have same : (frames.modifyCurrent fun frame =>
      { frame with sp := (frames.list.head?.elim 0 (·.sp)) }) = frames := by
    ext1
    rw [FrameStack.list_modifyCurrent]
    cases frames.list <;> rfl
  exact congrArg (Context.mk segment · acc prev rest) same

/-- Sending a message that names a property, and that nobody gives up, starts a frame for the
property. -/
theorem HasSlots.run_dispatch_property (has : machine.HasSlots slots) {target receiver : Address}
    {message : Message} {words index : Nat}
    (holds : HoldsMessages slots (machine.context.stackTop + words) machine.context.stackTop
      [message])
    (found : machine.store.heap.lookup target message.selector = .ok (.variable receiver index))
    (shallow : machine.context.depth < machine.setup.config.maxCallDepth) (work : Address) :
    dispatch target work machine.context.stackTop words machine =
      some (.ok (), machine.withContext (machine.context.push
        (propertyFrame target work index (machine.context.stackTop + words) message))) := by
  -- The message lies above the stack pointer, so taking it off moves nothing.
  have kept : machine.withContext (machine.context.modifyCurrent fun frame =>
      { frame with sp := machine.context.stackTop }) = machine :=
    congrArg machine.withContext (modifyCurrent_stackTop machine.context)
  rw [dispatch, run_bind_of_ok (has.run_operands? holds.read)]
  dsimp only
  rw [if_neg (Nat.lt_irrefl _), run_bind_of_ok (run_setStackPointer _ _), kept, answers, bind_assoc,
    run_bind_of_ok (run_answer?_property found _ _)]
  exact run_pushFrame shallow _

/-- A run sets what the machine is doing, and changes nothing else where it leaves no frames. -/
theorem run_settle {depth : Nat} {work : VmM Unit} {outcome : Except Fault Unit} {after : Machine}
    (worked : work (machine.withState .running) = some (outcome, after))
    (left : after.context.depth ≤ depth) :
    ∃ state, settle depth work machine = some (outcome, after.withState state) := by
  have told : VmM.outcome work (machine.withState .running) = some (.ok outcome, after) := by
    rw [run_outcome, worked]
    rfl
  rw [settle, run_bind_of_ok rfl, run_bind_of_ok (run_setState _ _), run_bind_of_ok told]
  cases outcome with
  | ok _ => exact ⟨_, rfl⟩
  | error fault =>
    -- There are no frames to drop.
    have kept : after.context.truncate depth = after.context := by
      rw [Context.truncate, FrameStack.truncate_of_le left]
    refine ⟨fault.finalState, ?_⟩
    dsimp only
    rw [run_bind_of_ok (run_modifyContext _ _), kept]
    rfl

/-- Where the access that a message asks for ends, the run that it was started for ends as well. -/
theorem runUntil_access {frame : Frame} {index depth : Nat} {outcome : Except Fault Unit}
    {after : Machine} (top : machine.context.current? = some frame)
    (kind : frame.kind = .variable index) (deep : depth < machine.context.depth)
    (idle : machine.asked? = none)
    (accessed : accessSelected frame index machine.polled = some (outcome, after))
    (left : after.context.depth ≤ depth) (fuel : Nat) :
    runUntil (fuel + 2) depth machine = some (outcome, after) := by
  have topToo : machine.polled.context.current? = some frame := top
  rw [runUntil, if_neg (Nat.not_le_of_lt deep), idle]
  dsimp only
  rw [step_of_selected _ topToo kind, accessed]
  cases outcome with
  | ok _ =>
    -- There is nothing left to do in the next turn.
    dsimp only
    rw [runUntil, if_pos left]
  | error fault => rfl

/-- A property is read for a message without arguments. -/
theorem run_accessSelected_read (frame : Frame) (index : Nat) (without : frame.argc = 0)
    (machine : Machine) :
    let result := machine.store.heap.readProperty frame.objp index
    accessSelected frame index machine = some (result.map fun _ => (), { machine with
      context := { machine.context.pop with acc := result.toOption.getD machine.context.acc } }) := by
  have looked := run_require (·.readProperty frame.objp index)
    { machine with context := machine.context.pop }
  rw [accessSelected, run_bind_of_ok rfl, if_pos without]
  -- The frame is gone in either case, and the accumulator is set only where there is a value.
  cases found : machine.store.heap.readProperty frame.objp index with
  | error fault =>
    rw [found] at looked
    rw [run_bind_of_error looked]
    rfl
  | ok value =>
    rw [found] at looked
    rw [run_bind_of_ok looked]
    rfl

/-- A property is replaced for a message with an argument. -/
theorem HasSlots.run_accessSelected_write {frame : Frame} {value : Address}
    (has : machine.HasSlots slots) (index : Nat) (given : frame.argc ≠ 0)
    (stored : slots[frame.argp + 1]? = some value) :
    accessSelected frame index machine = VmM.store
      (StoreM.attempt (·.writeProperty frame.objp index value))
      { machine with context := machine.context.pop } := by
  -- The frame is dropped first, which leaves the slots; then the argument is read.
  have hasToo : HasSlots slots { machine with context := machine.context.pop } := has
  rw [accessSelected, run_bind_of_ok rfl, if_neg given, stackGet,
    run_bind_of_ok (hasToo.run_operands? stored)]

/-- A run that left no frames behind answers with the accumulator, or with its failure. -/
theorem run_conclude {depth : Nat} (left : machine.context.depth ≤ depth)
    (outcome : Except Fault Unit) : conclude depth outcome machine =
      some (outcome.map fun _ => machine.context.acc, machine) := by
  -- There is no frame to cut off, whether the run succeeded or not.
  have kept : machine.context.truncate depth = machine.context := by
    rw [Context.truncate, FrameStack.truncate_of_le left]
  cases outcome with
  | ok _ => rfl
  | error fault =>
    rw [conclude, run_bind_of_ok (run_modifyContext _ _), kept]
    rfl

/-- The frame in which the only message on the stack is answered by a property. -/
def accessFrame (object : Address) (selector : UInt16) (arguments : List Address)
    (index base : Nat) : Frame :=
  propertyFrame object object index (base + (2 + arguments.length))
    ⟨selector, base + 1, arguments.length⟩

/-- The machine with a message on its operand stack and the frame of the property that the message
names, which a run is about to end. -/
def withAccess (machine : Machine) (slots : Array Address) (object : Address) (selector : UInt16)
    (arguments : List Address) (index : Nat) : Machine :=
  let base := machine.context.stackTop
  let written := storeAll slots base (.number selector :: .ofNat arguments.length :: arguments)
  ((machine.withSlots written).withState .running).withContext
    ({ machine.context with rest := 0 }.push (accessFrame object selector arguments index base))

/-- Sending a message that names a property is the access that the message asks for. -/
theorem HasSlots.run_send_property (has : machine.HasSlots slots) {object receiver : Address}
    {selector : UInt16} {arguments : List Address} {index : Nat}
    (idle : machine.asked? = none)
    (shallow : machine.context.depth < machine.setup.config.maxCallDepth)
    (small : arguments.length < 65536)
    (room : machine.context.stackTop + (2 + arguments.length) ≤ slots.size)
    (found : machine.store.heap.lookup object selector = .ok (.variable receiver index))
    {outcome : Except Fault Unit} {after : Machine}
    (accessed : accessSelected
      (accessFrame object selector arguments index machine.context.stackTop) index
      (machine.polled.withAccess slots object selector arguments index) = some (outcome, after))
    (left : after.context.depth ≤ machine.context.depth) :
    ∃ state, send object selector arguments machine =
      some (outcome.map fun _ => after.context.acc,
        (after.withContext { after.context with rest := machine.context.rest }).withState state) := by
  let base := machine.context.stackTop
  let quiet : Machine := machine.withContext { machine.context with rest := 0 }
  let written := storeAll slots base (.number selector :: .ofNat arguments.length :: arguments)
  have hasQuiet : quiet.HasSlots slots := has
  -- The message is written and read again.
  have writes : writeMessage base selector arguments quiet =
      some (.ok (2 + arguments.length), quiet.withSlots written) := by
    rw [writeMessage, run_bind_of_ok (hasQuiet.run_stackSetAll
      (by simp only [List.length_cons]; omega))]
    rfl
  -- The selector means a variable, so one frame is started that accesses it.
  have dispatches : dispatch object object base (2 + arguments.length) (quiet.withSlots written) =
      some (.ok (), (quiet.withSlots written).withContext (quiet.context.push
        (accessFrame object selector arguments index base))) := by
    have means : (quiet.withSlots written).store.heap.lookup object selector =
        .ok (.variable receiver index) := (has.lookup_withStack written object selector).trans found
    exact (hasQuiet.withSlots written).run_dispatch_property (holdsMessages_storeAll small room)
      means shallow object
  -- The run that follows does nothing but the access, so it has steps enough.
  have runs : runUntil stepLimit machine.context.depth
      (machine.withAccess slots object selector arguments index) = some (outcome, after) := by
    have idleToo : (machine.withAccess slots object selector arguments index).asked? = none := idle
    exact runUntil_access rfl rfl (Nat.lt_succ_self _) idleToo accessed left (stepLimit - 2)
  -- The run ends no deeper than it began, so settling it drops no frame.
  have settles : ∃ state, runWithin stepLimit machine.context.depth
      ((quiet.withSlots written).withContext (quiet.context.push
        (accessFrame object selector arguments index base))) =
        some (outcome, after.withState state) :=
    run_settle runs left
  obtain ⟨state, settles⟩ := settles
  refine ⟨state, ?_⟩
  have does : VmM.outcome (do
      let words ← writeMessage base selector arguments
      dispatch object object base words
      runWithin stepLimit machine.context.depth) quiet =
        some (.ok outcome, after.withState state) := by
    rw [run_outcome, run_bind_of_ok writes, run_bind_of_ok dispatches, settles]
    rfl
  let last : Machine :=
    (after.withContext { after.context with rest := machine.context.rest }).withState state
  have leftLast : last.context.depth ≤ machine.context.depth := left
  rw [send, sendVia, run_bind_of_ok (run_context _ _), run_bind_of_ok (run_context _ _),
    run_bind_of_ok (run_takeRest _), run_bind_of_ok does, run_bind_of_ok (run_modifyContext _ _)]
  exact run_conclude leftLast outcome

/-- A machine is as another one, but for the slots of the operand stack and what it is doing. -/
structure Resembles (machine other : Machine) : Prop where
  /-- The memory is the same outside of the operand stack, and the same was recorded. -/
  memory : ∃ slots, machine.store =
    other.store.mapHeap (·.withStack other.context.stackSegment slots)
  /-- The registers and the frames are the same. -/
  context : machine.context = other.context
  /-- The work stands the same. -/
  status : { machine.status with state := other.status.state } = other.status
  /-- The machine was given the same. -/
  setup : machine.setup = other.setup

section Accesses

variable {object receiver : Address} {selector : UInt16} {index : Nat}

/-- Sending a message without arguments that names a property reads the property. -/
theorem HasSlots.send_reads (has : machine.HasSlots slots) (idle : machine.asked? = none)
    (shallow : machine.context.depth < machine.setup.config.maxCallDepth)
    (room : machine.context.stackTop + 2 ≤ slots.size)
    (found : machine.store.heap.lookup object selector = .ok (.variable receiver index)) :
    let result := machine.store.heap.readProperty object index
    ∃ state written, send object selector [] machine = some (result,
      ((machine.polled.withSlots written).withState state).withContext
        { machine.context with acc := result.toOption.getD machine.context.acc }) := by
  intro result
  have reads := run_accessSelected_read
    (accessFrame object selector [] index machine.context.stackTop) index rfl
    (machine.polled.withAccess slots object selector [] index)
  -- The property is found in spite of what is on the operand stack.
  have same : (machine.polled.withAccess slots object selector [] index).store.heap.readProperty
      (accessFrame object selector [] index machine.context.stackTop).objp index = result :=
    has.readProperty_withStack _ object index
  dsimp only at reads
  rw [same] at reads
  have fits : machine.context.stackTop + (2 + ([] : List Address).length) ≤ slots.size := room
  obtain ⟨state, sends⟩ := has.run_send_property idle shallow (by decide) fits found reads
    (Nat.le_refl _)
  refine ⟨state, _, sends.trans (congrArg some (Prod.ext ?_ rfl))⟩
  cases result <;> rfl

/-- Sending a message with an argument that names a property replaces the property. -/
theorem HasSlots.send_writes (has : machine.HasSlots slots) (idle : machine.asked? = none)
    (shallow : machine.context.depth < machine.setup.config.maxCallDepth)
    (room : machine.context.stackTop + 3 ≤ slots.size)
    (found : machine.store.heap.lookup object selector = .ok (.variable receiver index))
    (value : Address) :
    ∃ outcome store, VmM.store (StoreM.attempt (·.writeProperty object index value)) machine =
        some (outcome, { machine with store }) ∧
      ∃ state written, send object selector [value] machine =
        some (outcome.map fun _ => machine.context.acc,
          ({ machine.polled with store }.withSlots written).withState state) := by
  let base := machine.context.stackTop
  let written := storeAll slots base [.number selector, .ofNat 1, value]
  let ready := machine.polled.withAccess slots object selector [value] index
  have hasReady : ready.HasSlots written := has.withStack written
  -- The argument is read from where it was written.
  have fits : base + [Address.number selector, .ofNat 1, value].length ≤ slots.size := room
  have stored : written[base + 2]? = some value := getElem?_storeAll fits (Nat.lt_add_one 2)
  have given : (accessFrame object selector [value] index base).argc ≠ 0 := Nat.one_ne_zero
  have writes := hasReady.run_accessSelected_write index given stored
  have short : [value].length < 65536 := by simp
  have roomy : machine.context.stackTop + (2 + [value].length) ≤ slots.size := room
  -- Writing a property and writing the stack do not get in the way of each other.
  have same : (ready.withContext ready.context.pop).store.heap.writeProperty object index value =
      (machine.store.heap.writeProperty object index value).map
        (·.withStack machine.context.stackSegment written) :=
    has.writeProperty_withStack written object index value
  cases replaced : machine.store.heap.writeProperty object index value with
  | error fault =>
    rw [replaced] at same
    obtain ⟨state, sends⟩ := has.run_send_property idle shallow short roomy found
      (writes.trans (run_attempt_error same)) (Nat.le_refl _)
    exact ⟨_, _, run_attempt_error replaced, state, written, sends⟩
  | ok heap =>
    rw [replaced] at same
    obtain ⟨state, sends⟩ := has.run_send_property idle shallow short roomy found
      (writes.trans (run_attempt_ok same)) (Nat.le_refl _)
    exact ⟨_, _, run_attempt_ok replaced, state, written, sends⟩

/-- Where nothing waits and other threads leave the flag alone, a look for a request changes
nothing. -/
theorem polled_of_undisturbed (idle : machine.status.stop.pending = none)
    (alone : machine.status.stop.signals = []) :
    machine.asked? = none ∧ machine.polled = machine := by
  -- Taking from such a flag gives nothing and leaves it as it is.
  have taken := StopFlag.take_of_undisturbed idle alone
  refine ⟨congrArg Prod.fst taken, ?_⟩
  rw [polled, Status.polled, taken]

/--
Sending a message that names a property is accessing the property.

Without an argument the answer is the one that reading the property gives, and no object is changed.
With an argument it is the accumulator, which stays as it was, where replacing the property
succeeds, and its failure where it fails. No instruction is executed.

Only sending looks for a request to stop, and finds none. Where other threads leave the flag alone,
that look changes nothing.
-/
theorem send_accesses_property (idle : machine.asked? = none)
    (shallow : machine.context.depth < machine.setup.config.maxCallDepth)
    (has : machine.HasSlots slots) (room : machine.context.stackTop + 3 ≤ slots.size)
    (found : machine.store.heap.lookup object selector = .ok (.variable receiver index)) :
    (∃ result sent, getProperty object selector machine = some (result, machine) ∧
      send object selector [] machine = some (result, sent) ∧
      sent.Resembles (machine.polled.withContext
        { machine.context with acc := result.toOption.getD machine.context.acc }) ∧
      (∀ address, sent.store.heap.object? address = machine.store.heap.object? address) ∧
      sent.status.steps = machine.status.steps) ∧
    ∀ value, ∃ result direct sent,
      setProperty object selector value machine = some (result, direct) ∧
      send object selector [value] machine =
        some (result.map fun _ => machine.context.acc, sent) ∧
      sent.Resembles direct.polled ∧ sent.context.acc = machine.context.acc ∧
      sent.status.steps = machine.status.steps := by
  -- Without an argument the property is read, with one it is replaced.
  constructor
  · obtain ⟨state, written, sends⟩ := has.send_reads idle shallow (by omega) found
    refine ⟨_, _, ?_, sends, ⟨⟨written, rfl⟩, rfl, rfl, rfl⟩, ?_, rfl⟩
    · rw [getProperty, run_bind_of_ok (run_propertyIndex found), run_require]
    · exact has.object?_withStack written
  · intro value
    obtain ⟨outcome, store, replaces, state, written, sends⟩ :=
      has.send_writes idle shallow room found value
    refine ⟨outcome, { machine with store }, _, ?_, sends, ⟨⟨written, rfl⟩, rfl, rfl, rfl⟩, rfl,
      rfl⟩
    rw [setProperty, run_bind_of_ok (run_propertyIndex found), replaces]

end Accesses

/-- A machine whose only frame may send messages, and an object with a property. -/
def askingMachine : Machine :=
  sendingMachine.withContext { sendingMachine.context with frames := .ofList [waitingFrame] }

/-- The property of the object is read and replaced by messages. -/
theorem send_accesses_property_asked :
    (∃ sent, send ⟨2, 100⟩ 20 [] askingMachine = some (.ok (.number 9), sent) ∧
      sent.status.steps = 0) ∧
    ∃ direct sent, setProperty ⟨2, 100⟩ 20 (.number 4) askingMachine = some (.ok (), direct) ∧
      send ⟨2, 100⟩ 20 [.number 4] askingMachine = some (.ok ⟨2, 100⟩, sent) ∧
      sent.Resembles direct ∧ sent.status.steps = 0 := by
  have means : askingMachine.store.heap.lookup ⟨2, 100⟩ 20 = .ok (.variable ⟨2, 100⟩ 0) := by
    decide +kernel
  have has : askingMachine.HasSlots sendingSlots := rfl
  obtain ⟨⟨result, sent, reads, sends, -, -, steps⟩, writes⟩ :=
    send_accesses_property (polled_of_undisturbed rfl rfl).1 (by decide) has (by decide) means
  have read : (getProperty ⟨2, 100⟩ 20 askingMachine).map (·.1) = some (.ok (.number 9)) := by
    decide +kernel
  -- The outcomes are those that reading and replacing the property directly has.
  rw [reads, Option.map_some, Option.some.injEq] at read
  obtain ⟨outcome, direct, sentToo, replaces, sendsToo, same, -, stepsToo⟩ := writes (.number 4)
  have replaced : (setProperty ⟨2, 100⟩ 20 (.number 4) askingMachine).map
      (fun ended => (ended.1, ended.2.status.stop)) = some (.ok (), {}) := by decide +kernel
  rw [replaces, Option.map_some, Option.some.injEq, Prod.mk.injEq] at replaced
  dsimp only at read replaced
  obtain ⟨rfl, flag⟩ := replaced
  subst read
  -- No other thread does anything here, so the look for a request changes nothing.
  rw [(polled_of_undisturbed (by rw [flag]) (by rw [flag])).2] at same
  exact ⟨⟨sent, sends, steps⟩, direct, sentToo, replaces, sendsToo, same, stepsToo⟩

end Machine

end AdventureVm
