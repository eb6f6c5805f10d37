import AdventureVm.Proofs.Machine.Outcomes
import AdventureVm.Proofs.Memory.Builtins

/-!
Work that starts and ends no frame.

It frees no script either. Most of it leaves all frames alone, the rest moves the current one.
-/

namespace AdventureVm

open VmM

/-- A frame goes on: it stands for the same, with the same variables, in its script or at home. -/
structure Frame.Goes (home : SegmentId) (before after : Frame) : Prop where
  /-- The frame stands for the same. -/
  kind : after.kind = before.kind
  /-- The frame has the same variables. -/
  locals : after.locals = before.locals
  /-- The next instruction is where the last one was, or at home. -/
  segment : after.pc.segment = before.pc.segment ∨ after.pc.segment = home

/-- The current frame goes on, if there is one, and the others are left alone. -/
inductive Frame.OnlyCurrent (home : SegmentId) : List Frame → List Frame → Prop where
  | none : OnlyCurrent home [] []
  | current {frame next : Frame} {callers : List Frame} (goes : frame.Goes home next) :
      OnlyCurrent home (frame :: callers) (next :: callers)

namespace Frame

variable {home : SegmentId}

/-- A frame may stay as it is. -/
theorem Goes.refl (frame : Frame) : frame.Goes home frame :=
  ⟨rfl, rfl, .inl rfl⟩

/-- A frame that goes on twice has gone on. -/
theorem Goes.trans {first second third : Frame} (goes : first.Goes home second)
    (further : second.Goes home third) : first.Goes home third := by
  -- A frame that has come home stays at home, and one that has not is where it was.
  refine ⟨further.kind.trans goes.kind, further.locals.trans goes.locals, ?_⟩
  rcases further.segment with there | there
  · rw [there]
    exact goes.segment
  · exact .inr there

/-- The current frame may go on again and again. -/
instance : IsPreorder (List Frame) (OnlyCurrent home) where
  refl frames := by
    cases frames with
    | nil => exact .none
    | cons frame callers => exact .current (.refl frame)
  trans _ _ _ first second := by
    cases first with
    | none => exact second
    | current goes =>
      cases second with
      | current further => exact .current (goes.trans further)

end Frame

/-- The machine works on without a change to what it was given, and no script leaves memory. -/
structure Machine.Proceeds (may : List Frame → List Frame → Prop) (before after : Machine) :
    Prop where
  /-- Frames change as they may. -/
  frames : may before.context.frames.list after.context.frames.list
  /-- What the machine was given stays as it is. -/
  setup : after.setup = before.setup
  /-- What the machine is doing stays the same. -/
  state : after.status.state = before.status.state
  /-- Memory is led from step to step. -/
  memory : 0 < before.store.heap.segments.size → before.store.heap.Develops after.store.heap
  /-- The operand stack is in the same segment. -/
  stackSegment : after.context.stackSegment = before.context.stackSegment

namespace Machine

variable {α : Type} {may : List Frame → List Frame → Prop} [IsPreorder (List Frame) may]

/-- The machine may work on again and again. -/
instance : IsPreorder Machine (Proceeds may) where
  refl machine := ⟨refl machine.context.frames.list, rfl, rfl, fun _ => .refl, rfl⟩
  trans _ _ _ first second :=
    ⟨IsTrans.trans _ _ _ first.frames second.frames, second.setup.trans first.setup,
      second.state.trans first.state, fun opened =>
        (first.memory opened).trans (second.memory ((first.memory opened).opened opened)),
      second.stackSegment.trans first.stackSegment⟩

omit [IsPreorder (List Frame) may] in
/-- What frames may do they may do under a weaker rule. -/
theorem Proceeds.mono {weaker : List Frame → List Frame → Prop} {before after : Machine}
    (proceeds : before.Proceeds may after)
    (implied : ∀ frames later, may frames later → weaker frames later) :
    before.Proceeds weaker after :=
  ⟨implied _ _ proceeds.frames, proceeds.setup, proceeds.state, proceeds.memory,
    proceeds.stackSegment⟩

/-- Memory may be worked on along the relation, and registers may be set, again and again. -/
class Admits (rel : Machine → Machine → Prop) : Prop extends IsPreorder Machine rel where
  /-- Memory may be led from step to step. -/
  store : ∀ {α : Type} {work : StoreM α}, work.Advances → Along rel (VmM.store work)
  /-- Registers may be set, except the number of arguments that wait. -/
  registers : ∀ {change : Context → Context},
    (∀ context, (change context).frames = context.frames) →
    (∀ context, (change context).stackSegment = context.stackSegment) →
    (∀ context, (change context).rest = context.rest) → Along rel (modifyContext change)

/-- Registers may change as long as frames and the operand stack do not. -/
theorem registers_proceed {change : Context → Context}
    (same : ∀ context, (change context).frames = context.frames)
    (sameStack : ∀ context, (change context).stackSegment = context.stackSegment) :
    Along (Proceeds may) (modifyContext change) := by
  -- Frames and stack segment are unchanged by assumption, memory is not part of the context.
  intro machine
  rw [ends_modifyContext]
  refine ⟨?_, rfl, rfl, fun _ => .refl, sameStack machine.context⟩
  rw [same]
  exact refl machine.context.frames.list

/-- The machine may proceed by work on memory and on registers. -/
instance : Admits (Proceeds may) where
  store := by
    intro α work advances machine
    rw [ends_store]
    by_cases opened : 0 < machine.store.heap.segments.size
    · apply (advances machine.store opened).mono
      intro _ after develops
      exact ⟨refl machine.context.frames.list, rfl, rfl, fun _ => develops, rfl⟩
    · -- Nothing is said about memory that has no place zero.
      exact ⟨refl machine.context.frames.list, rfl, rfl, fun holds => absurd holds opened, rfl⟩
  registers same sameStack _ := registers_proceed same sameStack

/-- What holds wherever the machine goes on with the same frames admits work on it. -/
theorem Admits.of_proceeds {rel : Machine → Machine → Prop} [IsPreorder Machine rel]
    (holds : ∀ before after : Machine, before.Proceeds Eq after → rel before after) :
    Admits rel where
  -- Both of the admitted kinds of work go on with the same frames.
  store advances := Along.mono (Admits.store advances) holds
  registers same sameStack _ := (registers_proceed same sameStack).mono holds

variable {rel : Machine → Machine → Prop} [Admits rel]

/-- Work on memory that leads from step to step leaves all else alone. -/
theorem store_proceeds {work : StoreM α} (advances : work.Advances) :
    Along rel (VmM.store work) :=
  Admits.store advances

/-- A record is added and all else is left alone. -/
theorem note_proceeds (level : Level) (text : String) : Along rel (VmM.note level text) :=
  store_proceeds (StoreM.advances_note level text)

/-- The accumulator is no frame. -/
theorem setAcc_proceeds (value : Address) : Along rel (setAcc value) :=
  Admits.registers (fun _ => rfl) (fun _ => rfl) fun _ => rfl

section Stack

/-- Looking at the current frame leaves all alone. -/
theorem frame_proceeds : Along rel frame := by
  -- Reading the context and failing without a frame change nothing.
  refine (along_context _).bind fun current => ?_
  cases current with
  | some frame => exact along_pure _
  | none => exact along_throw _

/-- Reading from the operand stack leaves all alone. -/
theorem operands_proceed (query : Array Address → α) : Along rel (operands query) :=
  (along_context _).bind fun _ => along_require _

/-- Reading from the operand stack what may not be there leaves all alone. -/
theorem operands?_proceed (query : Array Address → Option α) :
    Along rel (operands? query) := by
  -- What is not there makes the read fail, and the failure tells how large the stack is.
  refine (operands_proceed _).bind fun found => ?_
  obtain ⟨found, capacity⟩ := found
  cases found with
  | some value => exact along_pure _
  | none => exact along_throw _

/-- Reading a slot of the operand stack leaves all alone. -/
theorem stackGet_proceeds (index : Nat) : Along rel (stackGet index) :=
  operands?_proceed _

/-- Storing into the operand stack changes no frame. -/
theorem stackSet_proceeds (index : Nat) (value : Address) :
    Along rel (stackSet index value) := by
  -- A slot of the stack is no script.
  have stores : Along rel (do
      let id ← VmM.context (·.stackSegment)
      VmM.store (StoreM.change (·.setStackSlot id index value))) :=
    (along_context _).bind fun _ =>
      store_proceeds (StoreM.advances_change fun _ => Heap.Develops.refl.setStackSlot index value)
  refine (operands_proceed _).bind fun capacity => ?_
  split
  · exact (along_throw _).bind fun _ => stores
  · exact stores

/-- Storing values into the operand stack changes no frame. -/
theorem stackSetAll_proceeds (start : Nat) (values : List Address) :
    Along rel (stackSetAll start values) := by
  -- Induction on the values that are left to store.
  induction values generalizing start with
  | nil => exact along_pure _
  | cons value rest ih => exact (stackSet_proceeds start value).bind fun _ => ih (start + 1)

/-- Looking at the top of the stack leaves all alone. -/
theorem peek_proceeds : Along rel peek := by
  -- An empty frame answers null and reads no slot.
  refine frame_proceeds.bind fun frame => ?_
  split
  · exact along_pure _
  · exact stackGet_proceeds _

/-- Looking for where the top words begin leaves all alone. -/
theorem stackBase_proceeds (words : Nat) : Along rel (stackBase words) := by
  -- The frame and the capacity are read, and nothing is written.
  refine frame_proceeds.bind fun frame => (operands_proceed _).bind fun capacity => ?_
  split
  · exact (along_throw _).bind fun _ => along_pure _
  · exact along_pure _

/-- Taking the waiting arguments changes no frame. -/
theorem takeRest_proceeds : Along (Proceeds may) takeRest := by
  -- The count is a register.
  refine (along_context _).bind fun rest => ?_
  have takes : Along (Proceeds may) (modifyContext fun context => { context with rest := 0 }) :=
    registers_proceed (fun _ => rfl) fun _ => rfl
  exact takes.bind fun _ => along_pure rest

/-- Reading neighbouring slots leaves all alone. -/
theorem stackSlice_proceeds (start count : Nat) :
    Along rel (stackSlice start count) := by
  -- Induction on the slots that are left to read.
  induction count generalizing start with
  | zero => exact along_pure _
  | succ count ih =>
    exact (stackGet_proceeds start).bind fun _ => (ih (start + 1)).bind fun _ => along_pure _

/-- Looking for the arguments of a call changes no frame. -/
theorem callBase_proceeds (bytes : Nat) : Along (Proceeds may) (callBase bytes) := by
  -- The count of the arguments is written again where more of them waited.
  refine takeRest_proceeds.bind fun rest => (stackBase_proceeds _).bind fun base =>
    (stackGet_proceeds base).bind fun count => ?_
  dsimp only
  split
  · exact (stackSet_proceeds _ _).bind fun _ => along_pure _
  · exact along_pure _

end Stack

section Scripts

/-- Making sure that a script is in memory changes no frame. -/
theorem ensureScript_proceeds (number : UInt16) : Along rel (ensureScript number) :=
  (along_setup _).bind fun _ => store_proceeds (Store.ensureScript_advances _ _)

/-- Looking up an export changes no frame. -/
theorem scriptExport_proceeds (number : UInt16) (index : Nat) :
    Along rel (scriptExport number index) := by
  -- Making sure of the script may load it; frames are no part of that.
  refine (ensureScript_proceeds number).bind fun id => (along_require _).bind fun script => ?_
  split
  · exact along_pure _
  · exact along_throw _

/-- Looking up a class, for which a script may be loaded, changes no frame. -/
theorem resolveClass_proceeds (species : UInt16) :
    Along rel (resolveClass species) := by
  -- The class is known, or its script is loaded and the class is looked for once more.
  refine (along_read _).bind fun known => ?_
  split
  · exact along_pure _
  · refine (along_read _).bind fun owner => ?_
    split
    · exact along_throw _
    · refine (ensureScript_proceeds _).bind fun _ => (along_read _).bind fun address => ?_
      split
      · exact along_pure _
      · exact along_throw _

/-- Telling what an object does not understand leaves all alone. -/
theorem selectorNotFound_proceeds (object : Address) (selector : UInt16) :
    Along rel (selectorNotFound object selector) :=
  (along_setup _).bind fun _ => along_pure _

end Scripts

section Messages

/-- Making the frame of a method does not start it. -/
theorem methodFrame_proceeds (target work pc : Address) (top : Nat) (message : Message) :
    Along rel (methodFrame target work pc top message) := by
  refine (along_require _).bind fun script => ?_
  -- The receiver stays where it is when it remembers its last message.
  have remembers : (StoreM.change (·.modifyObject target fun object =>
      { object with lastSent := some message.selector })).Advances :=
    StoreM.advances_change fun _ => Heap.Develops.refl.modifyObject target fun _ => rfl
  exact (store_proceeds remembers).bind fun _ => along_pure _

/-- Finding the frame that answers a message does not start it. -/
theorem answer?_proceeds (target work : Address) (top : Nat) (message : Message) :
    Along rel (answer? target work top message) := by
  -- A method, a property, or nothing: of the last a lenient machine makes a remark.
  refine (store_proceeds (Store.resolve_advances _ _)).bind fun found => ?_
  split
  · exact (methodFrame_proceeds _ _ _ _ _).bind fun _ => along_pure _
  · exact along_pure _
  · refine (selectorNotFound_proceeds _ _).bind fun fault => (along_setup _).bind fun lenient => ?_
    split
    · exact (note_proceeds _ _).bind fun _ => (setAcc_proceeds _).bind fun _ => along_pure _
    · exact along_throw _

/-- Finding the frames that answer messages does not start them. -/
theorem answers_proceed (target work : Address) (top : Nat) (messages : List Message) :
    Along rel (answers target work top messages) := by
  -- Induction on the messages that are left to look up.
  induction messages with
  | nil => exact along_pure _
  | cons message rest ih =>
    exact (answer?_proceeds _ _ _ _).bind fun _ => ih.bind fun _ => along_pure _

/-- A warning about messages changes no frame. -/
theorem warnOverrun_proceeds (target : Address) (excess : Nat) :
    Along rel (warnOverrun target excess) :=
  (along_read _).bind fun _ => (store_proceeds (StoreM.advances_record _)).bind fun _ =>
    (along_read _).bind fun _ => note_proceeds _ _

/-- Adding the waiting arguments to a message changes no frame. -/
theorem extendLastMessage_proceeds (base words rest : Nat) :
    Along rel (extendLastMessage base words rest) :=
  (operands?_proceed _).bind fun _ => (stackGet_proceeds _).bind fun _ => stackSet_proceeds _ _

/-- Putting a message on the stack changes no frame. -/
theorem writeMessage_proceeds (base : Nat) (selector : UInt16) (arguments : List Address) :
    Along rel (writeMessage base selector arguments) :=
  (stackSetAll_proceeds _ _).bind fun _ => along_pure _

end Messages

section Variables

/-- Looking for a table of variables leaves all alone. -/
theorem localsTable?_proceeds (kind : VariableKind) :
    Along rel (localsTable? kind) := by
  -- Globals are looked up in memory, locals in the current frame.
  unfold localsTable?
  split
  · exact along_read _
  · exact frame_proceeds.bind fun _ => along_pure _

/-- Looking for the place of a variable leaves all alone. -/
theorem variableSlot_proceeds (kind : VariableKind) (index : Nat) :
    Along rel (variableSlot kind index) := by
  -- Temporary variables and parameters are on the stack, the others in tables.
  unfold variableSlot
  split
  · exact frame_proceeds.bind fun _ => along_pure _
  · refine frame_proceeds.bind fun frame => ?_
    dsimp only
    split
    · exact (along_throw _).bind fun _ => along_pure _
    · exact along_pure _
  · refine (localsTable?_proceeds _).bind fun table => ?_
    split
    · exact along_throw _
    · refine (along_require _).bind fun found => ?_
      dsimp only
      split
      · exact (along_throw _).bind fun _ => along_pure _
      · exact along_pure _

/-- Asking whether a variable is missing changes nothing. -/
theorem isMissing_proceeds (kind : VariableKind) (index : Nat) :
    Along rel (isMissing kind index) := by
  -- Only a parameter can be missing, and that is read off the frame.
  cases kind with
  | param => exact frame_proceeds.bind fun _ => along_pure _
  | _ => exact along_pure _

/-- Reading a variable changes no frame. -/
theorem readVariable_proceeds (kind : VariableKind) (index : Nat) :
    Along rel (readVariable kind index) := by
  have reads : Along rel (do readSlot kind (← variableSlot kind index)) := by
    refine (variableSlot_proceeds kind index).bind fun slot => ?_
    cases slot with
    | stack index => exact stackGet_proceeds index
    | «local» id index =>
      refine (along_require _).bind fun table => ?_
      split
      · exact along_pure _
      · exact along_throw _
  -- A parameter that was not given reads as nothing, with a remark.
  refine (isMissing_proceeds kind index).bind fun missing => ?_
  split
  · exact (note_proceeds _ _).bind fun _ => along_pure _
  · exact reads

/-- Storing into a variable changes no frame. -/
theorem writeVariable_proceeds (kind : VariableKind) (index : Nat) (value : Address) :
    Along rel (writeVariable kind index value) := by
  -- A slot of the operand stack, or one of a table of variables.
  refine (variableSlot_proceeds kind index).bind fun slot => ?_
  cases slot with
  | stack index => exact stackSet_proceeds index value
  | «local» id index =>
    exact store_proceeds
      (StoreM.advances_change fun _ => Heap.Develops.refl.setLocal index value)

/-- Adding the accumulator to an index leaves all alone. -/
theorem indexBy_proceeds (indexed : Bool) (index : Nat) :
    Along rel (indexBy indexed index) := by
  -- The accumulator is read; a fault leaves the machine as it was.
  unfold indexBy
  split
  · refine (along_context _).bind fun acc => ?_
    split
    · exact along_pure _
    · exact along_throw _
  · exact along_pure _

/-- Replacing a property changes no frame. -/
theorem writeProperty_proceeds (object : Address) (index : Nat) (value : Address) :
    Along rel (VmM.store (StoreM.attempt (·.writeProperty object index value))) :=
  store_proceeds (StoreM.advances_attempt fun _ _ done => Heap.Develops.refl.writeProperty done)

/-- Setting the property that a selector names moves nothing in memory. -/
theorem setProperty_proceeds (object : Address) (selector : UInt16) (value : Address) :
    Along rel (setProperty object selector value) := by
  have finds : Along rel (propertyIndex object selector) := by
    refine (store_proceeds (Store.resolve_advances object selector)).bind fun found => ?_
    -- The selector may be that of a method, or of nothing.
    split
    · exact along_pure _
    · exact (selectorNotFound_proceeds object selector).bind fun _ => along_throw _
  exact finds.bind fun index => writeProperty_proceeds object index value

/-- Looking for the address of a variable leaves all alone. -/
theorem variableAddress_proceeds (word : UInt16) (index : Nat) :
    Along rel (variableAddress word index) := by
  refine (indexBy_proceeds _ _).bind fun index => (along_context _).bind fun segment => ?_
  -- Two kinds are on the operand stack, the others in a table that may be missing.
  split
  · exact frame_proceeds.bind fun _ => along_pure _
  · exact frame_proceeds.bind fun _ => along_pure _
  · refine (localsTable?_proceeds _).bind fun table => ?_
    split
    · exact along_pure _
    · exact along_throw _

end Variables

/-- Reading or replacing the property that a message asks for changes no frame. -/
theorem selected_proceeds (frame : Frame) (index : Nat) :
    Along rel (if frame.argc = 0 then do
      setAcc (← VmM.require (·.readProperty frame.objp index))
    else do
      let value ← stackGet (frame.argp + 1)
      VmM.store (StoreM.attempt (·.writeProperty frame.objp index value))) := by
  -- A message without arguments reads, any other writes.
  split
  · exact (along_require _).bind fun _ => setAcc_proceeds _
  · exact (stackGet_proceeds _).bind fun value => writeProperty_proceeds _ _ value

/-- Recording an instruction changes no frame. -/
theorem traceInstruction_proceeds (frame : Frame) (instruction : Instruction) :
    Along rel (traceInstruction frame instruction) := by
  -- Recording reads the machine and writes to the journal.
  refine along_get.bind fun machine => ?_
  split
  · exact along_pure _
  · exact note_proceeds _ _

end Machine

end AdventureVm
