import AdventureVm.Proofs.Machine.LiveCode
import AdventureVm.Proofs.Machine.Returning
import AdventureVm.Proofs.Machine.Sending

/-!
No frame leaves the operand stack.

Slots of the stack are computed from operands and from words that are on the stack themselves. What
is computed becomes part of a frame only after the stack was found to be large enough.
-/

namespace AdventureVm

open VmM

/-- A frame is within so many slots of the operand stack. -/
structure Frame.IsWithin (capacity : Nat) (frame : Frame) : Prop where
  /-- The first free slot is one of them, or comes right after them. -/
  sp : frame.sp ≤ capacity
  /-- So does the slot of the first temporary variable. -/
  fp : frame.fp ≤ capacity
  /-- The argument count is in one of them. -/
  argp : frame.argp < capacity

/-- The machine keeps to its settings, which are the given ones. -/
structure Machine.IsWithin (config : Config) (machine : Machine) : Prop where
  /-- The settings are the given ones. -/
  given : machine.setup.config = config
  /-- No kernel function was added. -/
  kernel : machine.setup.kernel.IsBuiltin
  /-- The tables of memory agree with each other. -/
  sound : machine.store.heap.Sound
  /-- The operand stack is in memory, with as many slots as were asked for. -/
  stack : ∃ slots, machine.store.heap.HasStack machine.context.stackSegment slots ∧
    slots.size = config.stackSize
  /-- Every frame is within the operand stack. -/
  frames : ∀ frame ∈ machine.context.frames.list, frame.IsWithin config.stackSize
  /-- There are not too many frames. -/
  depth : machine.context.depth ≤ config.maxCallDepth

namespace VmM

variable {α β : Type} {config : Config}

/--
Work that starts within bounds ends within bounds, however it ends, and what it answers is as told.
-/
def Within (config : Config) (work : VmM α) (told : α → Prop) : Prop :=
  ∀ machine, machine.IsWithin config → Ends work machine (Either
    (fun value after => after.IsWithin config ∧ told value) fun _ after => after.IsWithin config)

/-- Work that starts within bounds ends within bounds. -/
abbrev Stays (config : Config) (work : VmM α) : Prop :=
  Within config work fun _ => True

/-- To stay within bounds is to pass them on. -/
theorem stays_iff_along {work : VmM α} :
    Stays config work ↔ Along (Machine.Passes (Machine.IsWithin config)) work := by
  -- The two differ only in how they split up the outcome.
  constructor
  · intro stays machine outcome after ended within
    have holds := stays machine within outcome after ended
    cases outcome with
    | ok _ => exact holds.1
    | error _ => exact holds
  · intro along machine within outcome after ended
    have holds := along machine outcome after ended within
    cases outcome with
    | ok _ => exact ⟨holds, trivial⟩
    | error _ => exact holds

/-- Less may be told of an answer. -/
theorem Within.mono {work : VmM α} {told less : α → Prop} (within : Within config work told)
    (implied : ∀ value, told value → less value) : Within config work less :=
  fun machine holds => (within machine holds).either
    (fun value _ both => ⟨both.1, implied value both.2⟩) fun _ _ holds => holds

/-- Giving a value stays within bounds. -/
theorem within_pure {told : α → Prop} {value : α} (holds : told value) :
    Within config (pure value) told :=
  fun _ within => (ends_pure _ _ _).mpr ⟨within, holds⟩

/-- Failing stays within bounds. -/
theorem within_throw {told : α → Prop} (fault : Fault) : Within config (throw fault) told :=
  fun _ within => (ends_throw _ _ _).mpr within

/-- What is told of the first answer may be needed for the second piece of work. -/
theorem Within.bind {first : VmM α} {next : α → VmM β} {told : α → Prop}
    {toldNext : β → Prop}
    (within : Within config first told)
    (withinNext : ∀ value, told value → Within config (next value) toldNext) :
    Within config (first >>= next) toldNext := by
  -- The first answer and its bounds are handed on; a failure keeps the bounds.
  intro machine holds
  rw [ends_bind]
  refine (within machine holds).either ?_ fun _ _ holds => holds
  exact fun value between both => withinNext value both.2 between both.1

/-- Work whose failure is answered stays within bounds if the work does. -/
theorem Within.outcome {work : VmM α} (stays : Stays config work) :
    Stays config (VmM.outcome work) :=
  stays_iff_along.mpr (stays_iff_along.mp stays).outcome

/-- Registers and frames are looked at. -/
theorem within_context {query : Context → α} {told : α → Prop}
    (tells : ∀ machine : Machine, machine.IsWithin config → told (query machine.context)) :
    Within config (VmM.context query) told :=
  fun machine within => (ends_context _ _ _).mpr ⟨within, tells machine within⟩

/-- What the machine was given is looked at. -/
theorem within_setup {query : Setup → α} {told : α → Prop}
    (tells : ∀ machine : Machine, machine.IsWithin config → told (query machine.setup)) :
    Within config (VmM.setup query) told :=
  fun machine within => (ends_setup _ _ _).mpr ⟨within, tells machine within⟩

end VmM

namespace Machine

variable {α : Type} {config : Config} {machine after : Machine}

section Kept

/-- The first free slot is within the operand stack, also when there is no frame. -/
theorem IsWithin.stackTop (within : machine.IsWithin config) :
    machine.context.stackTop ≤ config.stackSize := by
  -- It is the stack pointer of the current frame.
  rw [Context.stackTop]
  cases current : machine.context.current? with
  | none => exact Nat.zero_le _
  | some frame => exact (within.frames frame (List.mem_of_mem_head? current)).sp

/-- Work that changes no frame stays within bounds. -/
theorem IsWithin.proceeds (within : machine.IsWithin config)
    (proceeds : machine.Proceeds Eq after) : after.IsWithin config := by
  have develops := proceeds.memory within.sound.opened
  obtain ⟨slots, has, size⟩ := within.stack
  have frames : after.context.frames = machine.context.frames :=
    FrameStack.ext proceeds.frames.symm
  refine ⟨?_, ?_, develops.sound within.sound, ?_, ?_, ?_⟩
  · rw [proceeds.setup]
    exact within.given
  · rw [proceeds.setup]
    exact within.kernel
  · -- The stack is where it was, and no slot has been added or lost.
    obtain ⟨later, found, same⟩ := develops.stack_stays within.sound has
    rw [proceeds.stackSegment]
    exact ⟨later, found, same.trans size⟩
  · rw [frames]
    exact within.frames
  · rw [Context.depth, frames]
    exact within.depth

/-- Registers and frames may change within bounds. -/
theorem IsWithin.context (within : machine.IsWithin config) {context : Context}
    (sameStack : context.stackSegment = machine.context.stackSegment)
    (frames : ∀ frame ∈ context.frames.list, frame.IsWithin config.stackSize)
    (depth : context.depth ≤ config.maxCallDepth) : { machine with context }.IsWithin config := by
  -- Settings, kernel and memory are not touched, and the stack segment is the same.
  refine ⟨within.given, within.kernel, within.sound, ?_, frames, depth⟩
  show ∃ slots, machine.store.heap.HasStack context.stackSegment slots ∧ _
  rw [sameStack]
  exact within.stack

/-- How the work stands has no bounds. -/
theorem IsWithin.status (within : machine.IsWithin config) (status : Status) :
    { machine with status }.IsWithin config :=
  ⟨within.given, within.kernel, within.sound, within.stack, within.frames, within.depth⟩

/-- A collection leaves the operand stack alone. -/
theorem IsWithin.collect (within : machine.IsWithin config) :
    { machine with store := ((Store.collect machine.context).run machine.store).2 }.IsWithin
      config := by
  -- What is swept is never a stack, and a stack that is kept keeps its size.
  obtain ⟨_, store, _, run, swept⟩ :=
    Store.run_collect machine.store within.sound machine.context
  have collected := Store.collected machine.store within.sound machine.context
  obtain ⟨slots, has, size⟩ := within.stack
  rw [run] at collected ⊢
  exact ⟨within.given, within.kernel, swept.sound,
    ⟨slots, collected.stack_kept within.sound has, size⟩, within.frames, within.depth⟩

end Kept

section Stack

/-- Work that changes no frame stays within bounds. -/
theorem stays_of_proceeds {work : VmM α} (along : Along (Proceeds Eq) work) : Stays config work :=
  stays_iff_along.mpr (along.mono fun _ _ proceeds within => within.proceeds proceeds)

/-- Changing how the work stands stays within bounds. -/
theorem modifyStatus_stays (change : Status → Status) : Stays config (modifyStatus change) :=
  fun _ within => (ends_modifyStatus _ _ _).mpr ⟨within.status _, trivial⟩

/-- A change of registers and frames stays within bounds if frames do and none is started. -/
theorem modifyContext_stays {change : Context → Context}
    (sameStack : ∀ context, (change context).stackSegment = context.stackSegment)
    (frames : ∀ context : Context,
      (∀ frame ∈ context.frames.list, frame.IsWithin config.stackSize) →
        ∀ frame ∈ (change context).frames.list, frame.IsWithin config.stackSize)
    (depth : ∀ context, (change context).depth ≤ context.depth) :
    Stays config (modifyContext change) := by
  -- The conditions on the change are those on the bounds, one by one.
  intro machine within
  rw [ends_modifyContext]
  exact ⟨within.context (sameStack _) (frames _ within.frames)
    ((depth _).trans within.depth), trivial⟩

/-- Changing one frame leaves all within bounds if that frame stays there. -/
theorem frames_within_modify {frames : List Frame} {capacity : Nat} {change : Frame → Frame}
    (keeps : ∀ frame : Frame, frame.IsWithin capacity → (change frame).IsWithin capacity)
    (place : Nat) (within : ∀ frame ∈ frames, frame.IsWithin capacity) :
    ∀ frame ∈ frames.modify place change, frame.IsWithin capacity := by
  intro frame member
  obtain ⟨index, held⟩ := List.mem_iff_getElem?.mp member
  rw [List.getElem?_modify] at held
  obtain ⟨former, there, same⟩ := Option.map_eq_some_iff.mp held
  have formerly := within former (List.mem_of_getElem? there)
  -- The frame was the one that changed, or it was there before.
  split at same
  · exact same ▸ keeps former formerly
  · exact same ▸ formerly

/-- Changing the current frame stays within bounds if that frame does. -/
theorem modifyFrame_stays {change : Frame → Frame} (keeps : ∀ frame : Frame,
    frame.IsWithin config.stackSize → (change frame).IsWithin config.stackSize) :
    Stays config (modifyFrame change) := by
  refine modifyContext_stays (fun _ => rfl) ?_ fun _ => Nat.le_refl _
  intro context within
  -- The current frame is the first of the list.
  rw [Context.modifyCurrent, FrameStack.list_modifyCurrent, List.modifyHead_eq_modify_zero]
  exact frames_within_modify keeps 0 within

/-- The stack pointer may be moved to where there are slots, or right behind them. -/
theorem setStackPointer_stays {sp : Nat} (room : sp ≤ config.stackSize) :
    Stays config (setStackPointer sp) :=
  modifyFrame_stays fun _ within => ⟨room, within.fp, within.argp⟩

/-- Going on somewhere else stays within bounds. -/
theorem jumpTo_stays (pc : Address) : Stays config (jumpTo pc) :=
  modifyFrame_stays fun _ within => ⟨within.sp, within.fp, within.argp⟩

/-- Dropping frames stays within bounds. -/
theorem truncate_stays (depth : Nat) : Stays config (modifyContext (·.truncate depth)) :=
  -- The frames that are left were within bounds, and they are fewer.
  modifyContext_stays (fun _ => rfl)
    (fun _ within frame member => within frame (List.mem_of_mem_drop member))
    fun _ => Nat.min_le_left _ _

/-- Ending the current frame stays within bounds. -/
theorem dropFrame_stays : Stays config dropFrame :=
  -- The frames that are left were within bounds, and they are fewer.
  modifyContext_stays (fun _ => rfl)
    (fun _ within frame member => within frame (List.mem_of_mem_tail member))
    fun _ => Nat.sub_le _ _

/-- A frame that is within bounds may be started. -/
theorem pushFrame_stays {frame : Frame} (fits : frame.IsWithin config.stackSize) :
    Stays config (pushFrame frame) := by
  intro machine within
  simp only [pushFrame, ends_bind, ends_context, ends_setup, either_ok, within.given]
  split
  · simp only [ends_bind, ends_throw, either_error]
    exact within
  · -- There was room for one more.
    rename_i few
    simp only [ends_modifyContext, either_ok]
    refine ⟨within.context rfl ?_ (Nat.le_of_not_lt few), trivial⟩
    intro other member
    rcases List.mem_cons.mp member with rfl | former
    · exact fits
    · exact within.frames other former

/-- The current frame is within bounds. -/
theorem frame_within :
    Within config frame fun current => current.IsWithin config.stackSize := by
  -- The current frame is one of the frames.
  intro machine within
  apply ends_frame
  · exact fun _ => within
  · exact fun current isCurrent =>
      ⟨within, within.frames current (List.mem_of_mem_head? isCurrent)⟩

/-- The operand stack is asked. -/
theorem operands_within (query : Array Address → α) : Within config (operands query)
    fun value => ∃ slots, slots.size = config.stackSize ∧ query slots = value := by
  -- The operand stack is live, and its size is the configured one.
  intro machine within
  obtain ⟨slots, has, size⟩ := within.stack
  rw [operands, ends_bind, ends_context, either_ok, ends_require, Heap.stack_eq_ok.mpr has]
  exact ⟨within, slots, size, rfl⟩

/-- The operand stack is asked for something that it may not have. -/
theorem operands?_within (query : Array Address → Option α) :
    Within config (operands? query) fun value => ∃ slots, query slots = some value := by
  -- What is not there is a failure, and so there is nothing to be told.
  refine (operands_within _).bind ?_
  rintro ⟨found, capacity⟩ ⟨slots, _, asked⟩
  cases found with
  | some value => exact within_pure ⟨slots, congrArg Prod.fst asked⟩
  | none => exact within_throw _

/-- A slot that can be stored into is within the operand stack. -/
theorem stackSet_within (index : Nat) (value : Address) :
    Within config (stackSet index value) fun _ => index < config.stackSize := by
  have stores : Stays config (do
      let id ← VmM.context (·.stackSegment)
      VmM.store (StoreM.change (·.setStackSlot id index value))) :=
    stays_of_proceeds ((along_context _).bind fun _ => store_proceeds
      (StoreM.advances_change fun _ => Heap.Develops.refl.setStackSlot index value))
  refine (operands_within _).bind ?_
  rintro _ ⟨slots, size, rfl⟩
  dsimp only
  -- An index that is outside is refused before anything is stored.
  split
  · exact (within_throw _).bind fun _ (failed : False) => failed.elim
  · rename_i inside
    rw [size] at inside
    exact stores.mono fun _ _ => Nat.lt_of_not_le inside

/-- Neighbouring slots that can be stored into are within the operand stack. -/
theorem stackSetAll_within {start : Nat} (values : List Address) (room : start ≤ config.stackSize) :
    Within config (stackSetAll start values)
      fun _ => start + values.length ≤ config.stackSize := by
  -- Induction on the values: each slot that could be stored into is inside.
  induction values generalizing start with
  | nil => exact within_pure room
  | cons value rest ih =>
    refine (stackSet_within start value).bind fun _ inside => ?_
    refine (ih inside).mono fun _ fits => ?_
    rw [List.length_cons]
    omega

/-- Pushing a value stays within bounds. -/
theorem push_stays (value : Address) : Stays config (push value) :=
  -- The slot could be stored into, so the pointer behind it is within the stack.
  frame_within.bind fun _ _ => (stackSet_within _ _).bind fun _ inside =>
    setStackPointer_stays inside

/-- Taking the top of the stack stays within bounds. -/
theorem pop_stays : Stays config pop := by
  refine frame_within.bind fun current fits => ?_
  split
  · exact (operands_within _).bind fun _ _ => within_throw _
  · rename_i sp top
    -- The pointer of a frame lies in the stack, and so does the slot below it.
    have room : sp ≤ config.stackSize := by
      have := fits.sp
      omega
    exact (stays_of_proceeds (stackGet_proceeds _)).bind fun _ _ =>
      (setStackPointer_stays room).bind fun _ _ => within_pure trivial

/-- Reserving temporary variables stays within bounds. -/
theorem link_stays (count : Nat) : Stays config (link count) := by
  -- Each variable is set to null before the pointer moves past all of them.
  refine frame_within.bind fun current fits => ?_
  refine (stackSetAll_within _ fits.sp).bind fun _ room => ?_
  rw [List.length_replicate] at room
  exact setStackPointer_stays room

/-- Changing registers stays within bounds. -/
theorem registers_stay {change : Context → Context}
    (same : ∀ context, (change context).frames = context.frames)
    (sameStack : ∀ context, (change context).stackSegment = context.stackSegment) :
    Stays config (modifyContext change) :=
  stays_of_proceeds (registers_proceed same sameStack)

/-- What comes before and after the steps of a run stays within bounds. -/
instance : AdmitsRuns (Passes (IsWithin config)) where
  store advances := stays_iff_along.mp (stays_of_proceeds (store_proceeds advances))
  registers same sameStack _ := stays_iff_along.mp (registers_stay same sameStack)
  status change := stays_iff_along.mp (modifyStatus_stays change)
  truncate depth := stays_iff_along.mp (truncate_stays depth)
  rest _ := stays_iff_along.mp (registers_stay (fun _ => rfl) fun _ => rfl)

/-- Values are pushed and taken, and slots are reserved, within bounds. -/
instance : AdmitsOperands (Passes (IsWithin config)) where
  push value := stays_iff_along.mp (push_stays value)
  pop := stays_iff_along.mp pop_stays
  link count := stays_iff_along.mp (link_stays count)

/-- Passing parameters on stays within bounds. -/
theorem pushRest_stays (first : Nat) : Stays config (pushRest first) :=
  frame_within.bind fun _ _ => (stays_iff_along.mpr (pushSlots_moves _ _)).bind fun _ _ =>
    registers_stay (fun _ => rfl) fun _ => rfl

/-- The words on top of the stack are within it. -/
theorem stackBase_within (words : Nat) :
    Within config (stackBase words) fun base => base + words ≤ config.stackSize := by
  refine frame_within.bind fun current fits => (operands_within _).bind fun capacity _ => ?_
  dsimp only
  -- With too few words there is no base at all.
  split
  · exact (within_throw _).bind fun _ (failed : False) => failed.elim
  · rename_i enough
    refine within_pure ?_
    have := fits.sp
    omega

/-- The argument count of a call is within the stack. -/
theorem callBase_within (bytes : Nat) :
    Within config (callBase bytes) fun found => found.1 < config.stackSize := by
  refine (stays_of_proceeds takeRest_proceeds).bind fun rest _ => ?_
  refine (stackBase_within _).bind fun base room => ?_
  -- The slot of the count is one of the words, so the base lies below the top.
  have inside : base < config.stackSize := by omega
  refine (stays_of_proceeds (stackGet_proceeds base)).bind fun count _ => ?_
  dsimp only
  split
  · exact (stackSet_within _ _).bind fun _ _ => within_pure inside
  · exact within_pure inside

end Stack

section Messages

/-- The frame that answers a message in the stack is within the stack. -/
theorem answer?_within (target work : Address) {top : Nat} {message : Message}
    (room : top ≤ config.stackSize) (inside : message.argp < top) :
    Within config (answer? target work top message)
      fun answer => ∀ frame ∈ answer, frame.IsWithin config.stackSize := by
  have counted := Nat.lt_of_lt_of_le inside room
  refine (stays_of_proceeds (store_proceeds (Store.resolve_advances _ _))).bind fun found _ => ?_
  split
  · -- The receiver remembers the message before the frame is made.
    have makes (pc : Address) : Within config (methodFrame target work pc top message)
        fun frame => frame.IsWithin config.stackSize := by
      refine (stays_of_proceeds (along_require _)).bind fun script _ => ?_
      have remembers : (StoreM.change (·.modifyObject target fun object =>
          { object with lastSent := some message.selector })).Advances :=
        StoreM.advances_change fun _ => Heap.Develops.refl.modifyObject target fun _ => rfl
      exact (stays_of_proceeds (store_proceeds remembers)).bind fun _ _ =>
        within_pure ⟨room, room, counted⟩
    refine (makes _).bind fun frame fits => within_pure ?_
    simpa using fits
  · refine within_pure ?_
    simpa using (⟨room, room, counted⟩ :
      (propertyFrame target work _ top message).IsWithin config.stackSize)
  · refine (stays_of_proceeds (selectorNotFound_proceeds _ _)).bind fun fault _ => ?_
    refine (stays_of_proceeds (along_setup _)).bind fun lenient _ => ?_
    split
    · -- A message that is passed over is answered by no frame.
      exact (stays_of_proceeds (note_proceeds _ _)).bind fun _ _ =>
        (stays_of_proceeds (setAcc_proceeds _)).bind fun _ _ => within_pure (by simp)
    · exact within_throw _

/-- The frames that answer messages in the stack are within the stack. -/
theorem answers_within (target work : Address) {top : Nat} {messages : List Message}
    (room : top ≤ config.stackSize) (inside : ∀ message ∈ messages, message.argp < top) :
    Within config (answers target work top messages)
      fun frames => ∀ frame ∈ frames, frame.IsWithin config.stackSize := by
  induction messages with
  | nil => exact within_pure (by simp)
  | cons message rest ih =>
    refine (answer?_within target work room (inside _ List.mem_cons_self)).bind fun first fits => ?_
    have others := ih fun message later => inside message (List.mem_cons_of_mem _ later)
    refine others.bind fun others fitToo => within_pure ?_
    intro frame member
    -- A frame answers the first message or a later one.
    rcases List.mem_append.mp member with isFirst | isOther
    · exact fits frame (by simpa using isFirst)
    · exact fitToo frame isOther

/-- Frames that are within bounds may be started. -/
theorem pushFrames_stays {frames : List Frame}
    (fit : ∀ frame ∈ frames, frame.IsWithin config.stackSize) :
    Stays config (pushFrames frames) :=
  stays_iff_along.mpr
    (pushFrames_along fun frame member => stays_iff_along.mp (pushFrame_stays (fit frame member)))

/-- Sending the messages in slots of the stack stays within bounds. -/
theorem dispatch_stays (target work : Address) {base words : Nat}
    (room : base + words ≤ config.stackSize) :
    Stays config (dispatch target work base words) := by
  refine (operands?_within _).bind fun found reads => ?_
  obtain ⟨slots, read⟩ := reads
  -- Messages may say that they are longer, but where they are counted is below the top.
  have inside : ∀ message ∈ found.1, message.argp < base + words :=
    fun message member => (bounds_of_readMessages? read message member).1
  have sends : Stays config (do
      setStackPointer base
      pushFrames (← answers target work (base + words) found.1)) :=
    (setStackPointer_stays (by omega)).bind fun _ _ =>
      (answers_within target work room inside).bind fun _ fit => pushFrames_stays fit
  dsimp only
  split
  · exact (stays_of_proceeds (warnOverrun_proceeds _ _)).bind fun _ _ => sends
  · exact sends

/-- Sending the messages on top of the stack stays within bounds. -/
theorem sendMessages_stays (target work : Address) (bytes : Nat) :
    Stays config (sendMessages target work bytes) := by
  -- The base leaves room for the messages, whether or not arguments are counted in.
  refine (stays_of_proceeds takeRest_proceeds).bind fun rest _ => ?_
  refine (stackBase_within _).bind fun base room => ?_
  dsimp only
  split
  · exact (stays_of_proceeds (extendLastMessage_proceeds _ _ _)).bind fun _ _ =>
      dispatch_stays target work room
  · exact dispatch_stays target work room

end Messages

section Calls

/-- Calling a procedure stays within bounds. -/
theorem callProcedure_stays (target : Address) (bytes : Nat) (locals : Option SegmentId) :
    Stays config (callProcedure target bytes locals) := by
  refine (callBase_within bytes).bind fun found inside => ?_
  refine frame_within.bind fun caller fits => ?_
  refine (pushFrame_stays ?_).bind fun _ _ => ?_
  · exact ⟨fits.sp, fits.sp, inside⟩
  · -- The caller is the frame below the new one.
    refine modifyContext_stays (fun _ => rfl) ?_ fun _ => Nat.le_refl _
    intro context within
    refine frames_within_modify ?_ 1 within
    exact fun _ within => ⟨Nat.le_of_lt inside, within.fp, within.argp⟩

/-- Calling an export stays within bounds. -/
theorem callExported_stays (number : UInt16) (index bytes : Nat) :
    Stays config (callExported number index bytes) := by
  -- Loading the script develops memory; the call is that of any procedure.
  refine (stays_of_proceeds (along_setup _)).bind fun resources _ => ?_
  refine (stays_of_proceeds (store_proceeds (Store.loadScript_advances _ _))).bind fun id _ => ?_
  refine (stays_of_proceeds (along_require _)).bind fun script _ => ?_
  split
  · exact within_throw _
  · exact callProcedure_stays _ _ _

/-- A collection stays within bounds. -/
theorem collectGarbage_stays : Stays config collectGarbage := by
  -- Setting the countdown does not matter to the bounds.
  intro machine within
  simp only [collectGarbage, ends_bind, ends_setup, ends_modifyStatus, ends_context,
    ends_storeState, either_ok, id_eq]
  exact ⟨within.collect.status _, trivial⟩

/-- A kernel function that was not added stays within bounds. -/
theorem applyKernel_stays (run : Runner) {entry : KernelEntry} (arguments : List Address)
    (builtin : ∀ action, entry.function ≠ .host action) :
    Stays config (applyKernel run entry arguments) := by
  -- By what stands in the entry: a built-in function, nothing, or an added one.
  unfold applyKernel
  split
  · exact stays_of_proceeds ((along_setup _).bind fun _ => (along_context _).bind fun _ =>
      store_proceeds (KernelCall.run_advances _))
  · exact stays_of_proceeds ((note_proceeds _ _).bind fun _ => along_pure _)
  · rename_i action same
    exact absurd same (builtin action)

/-- Calling a kernel function stays within bounds. -/
theorem callKernel_stays (run : Runner) (index bytes : Nat) :
    Stays config (callKernel run index bytes) := by
  have counts : Stays config countKernelCall :=
    stays_iff_along.mpr (countKernelCall_along (stays_iff_along.mp collectGarbage_stays))
  refine counts.bind fun _ _ => (callBase_within bytes).bind fun found inside => ?_
  refine (stays_of_proceeds (stackSlice_proceeds _ _)).bind fun arguments _ => ?_
  -- Whatever entry has the number, it is none that was added.
  have listed : Within config (VmM.setup (·.kernel.get? index)) fun entry =>
      ∀ found, entry = some found → ∀ action, found.function ≠ .host action :=
    within_setup fun machine within found there =>
      within.kernel found (Array.mem_of_getElem? there)
  refine listed.bind fun entry builtin => ?_
  cases entry with
  | none => exact within_throw _
  | some entry =>
    refine (stays_of_proceeds (note_proceeds _ _)).bind fun _ _ => ?_
    refine (stays_of_proceeds (along_context _)).bind fun depth _ => ?_
    refine (modifyStatus_stays _).bind fun _ _ => ?_
    refine (Within.outcome (applyKernel_stays run arguments (builtin entry rfl))).bind
      fun result _ => ?_
    refine (modifyStatus_stays _).bind fun _ _ => (truncate_stays depth).bind fun _ _ => ?_
    refine (stays_of_proceeds (along_ofExcept result)).bind fun value _ => ?_
    -- The stack pointer is set to where the words of the call began.
    exact (stays_of_proceeds (setAcc_proceeds value)).bind fun _ _ =>
      setStackPointer_stays (Nat.le_of_lt inside)

end Calls

section Running

variable {run : Runner}

/-- Executing an instruction stays within bounds. -/
theorem execute_stays (run : Runner) (instruction : Instruction) (next : Address) :
    Stays config (execute run instruction next) := by
  -- Every family of instructions is covered by its own lemma, and these are put together.
  exact stays_iff_along.mpr (execute_along (fun pc => stays_iff_along.mp (jumpTo_stays pc))
    (fun first => stays_iff_along.mp (pushRest_stays first))
    (fun target bytes => stays_iff_along.mp (callProcedure_stays target bytes _))
    (fun index bytes => stays_iff_along.mp (callKernel_stays run index bytes))
    (fun number index bytes => stays_iff_along.mp (callExported_stays number index bytes))
    (fun target work bytes => stays_iff_along.mp (sendMessages_stays target work bytes))
    (stays_iff_along.mp dropFrame_stays) instruction next)

/-- Accessing the property that a message asks for stays within bounds. -/
theorem accessSelected_stays (frame : Frame) (index : Nat) :
    Stays config (accessSelected frame index) :=
  dropFrame_stays.bind fun _ _ => stays_of_proceeds (selected_proceeds frame index)

/-- A step stays within bounds. -/
theorem step_stays (run : Runner) : Stays config (step run) :=
  -- A step is an access of a property or an instruction; both have been seen to.
  stays_iff_along.mpr (step_along (fun pc => stays_iff_along.mp (jumpTo_stays pc))
    (fun change => stays_iff_along.mp (modifyStatus_stays change))
    (fun frame index => stays_iff_along.mp (accessSelected_stays frame index))
    fun instruction next => stays_iff_along.mp (execute_stays run instruction next))

/-- A run stays within bounds. -/
theorem runWithin_stays (fuel depth : Nat) : Stays config (runWithin fuel depth) :=
  stays_iff_along.mpr
    (runWithin_along (fun run _ => stays_iff_along.mp (step_stays run)) fuel depth)

/-- Ending a run stays within bounds. -/
theorem conclude_stays (rest depth : Nat) (result : Except Fault Unit) :
    Stays config (do
      modifyContext fun context => { context with rest }
      conclude depth result) :=
  stays_iff_along.mpr (conclude_along rest depth result)

/-- Sending a message stays within bounds, if running does. -/
theorem sendVia_stays (stays : ∀ depth, Stays config (run depth)) (object : Address)
    (selector : UInt16) (arguments : List Address) :
    Stays config (sendVia run object selector arguments) := by
  refine (stays_of_proceeds (along_context _)).bind fun depth _ => ?_
  have top : Within config (VmM.context (·.stackTop)) fun base => base ≤ config.stackSize :=
    within_context fun _ within => within.stackTop
  refine top.bind fun base room => ?_
  refine (stays_of_proceeds takeRest_proceeds).bind fun rest _ => ?_
  refine (Within.outcome ?_).bind fun result _ => conclude_stays rest depth result
  -- The message was written into the slots that it is sent from.
  have writes : Within config (writeMessage base selector arguments)
      fun words => base + words ≤ config.stackSize := by
    refine (stackSetAll_within _ room).bind fun _ fits => within_pure ?_
    simp only [List.length_cons] at fits
    omega
  exact writes.bind fun words fits => (dispatch_stays object object fits).bind fun _ _ =>
    stays depth

/-- Calling an export stays within bounds, if running does. -/
theorem callExportVia_stays (stays : ∀ depth, Stays config (run depth)) (number : UInt16)
    (index : Nat) (arguments : List Address) :
    Stays config (callExportVia run number index arguments) := by
  refine (stays_of_proceeds (scriptExport_proceeds _ _)).bind fun target _ => ?_
  have top : Within config (VmM.context id) fun context => context.stackTop ≤ config.stackSize :=
    within_context fun _ within => within.stackTop
  refine top.bind fun context room => ?_
  refine (stays_of_proceeds takeRest_proceeds).bind fun rest _ => ?_
  refine (stackSetAll_within _ room).bind fun _ fits => ?_
  refine (stays_of_proceeds (along_require _)).bind fun script _ => ?_
  refine (Within.outcome ?_).bind fun result _ => conclude_stays rest _ result
  -- The count and the arguments are in slots, so the frame above them is within the stack.
  have framed : (exportFrame context target script.localsSegment arguments).IsWithin
      config.stackSize := by
    rw [List.length_cons] at fits
    refine ⟨?_, ?_, ?_⟩
    · show context.stackTop + 1 + arguments.length ≤ _
      omega
    · show context.stackTop + 1 + arguments.length ≤ _
      omega
    · show context.stackTop < _
      omega
  exact (pushFrame_stays framed).bind fun _ _ => stays _

end Running

/-- A new operand stack has as many slots as it was given. -/
theorem leads_allocateStack (size : Nat) {store : Store} (sound : store.heap.Sound) :
    Leads (Store.allocateStack size) store (Either (fun id after => after.heap.Sound ∧
      ∃ slots, after.heap.HasStack id slots ∧ slots.size = size) fun _ _ => True) := by
  have keeps := Store.allocateStack_advances size store sound.opened
  rw [Store.allocateStack, Store.leads_insert] at keeps ⊢
  cases next : store.heap.nextId? with
  | none => trivial
  | some id =>
    rw [next] at keeps
    obtain ⟨atEnd, _⟩ := Heap.nextId?_spec sound.opened next
    refine ⟨keeps.sound sound, Array.replicate size .null, ?_, Array.size_replicate⟩
    -- The segment is found where it was put.
    exact (Heap.get?_insert atEnd).trans (if_pos rfl)

/-- At the start the operand stack is in memory, and there is no frame. -/
theorem start_isWithin {resources : Resources} {machine : Machine}
    (started : start config resources = .ok machine) : machine.IsWithin config := by
  have blank := Store.blank_sound config.version (.ofScripts resources.classScripts) #[]
  -- The stack comes first, and is still there after what comes next.
  have prepared {text : String} {stack strings : SegmentId} {store : Store} (ended : (do
        let stack ← Store.allocateStack config.stackSize
        let strings ← Store.allocateSystemStrings
        StoreM.note .debug text
        return (stack, strings) : StoreM (SegmentId × SegmentId)).run
          (Store.blank config.version (.ofScripts resources.classScripts) #[]) =
        (.ok (stack, strings), store)) :
      ∃ slots, store.heap.HasStack stack slots ∧ slots.size = config.stackSize := by
    have leads : Leads (do
        let stack ← Store.allocateStack config.stackSize
        let strings ← Store.allocateSystemStrings
        StoreM.note .debug text
        return (stack, strings)) (Store.blank config.version (.ofScripts resources.classScripts) #[])
        (Either (fun found after => ∃ slots, after.heap.HasStack found.1 slots ∧
          slots.size = config.stackSize) fun _ _ => True) := by
      rw [leads_bind]
      refine (leads_allocateStack config.stackSize blank).either ?_ fun _ _ _ => trivial
      rintro id between ⟨sound, slots, has, size⟩
      -- What comes next leaves a stack where it is.
      rw [either_ok, leads_bind]
      refine Leads.mono (Store.allocateSystemStrings_advances between sound.opened) ?_
      intro outcome later develops
      cases outcome with
      | error fault => trivial
      | ok strings =>
        obtain ⟨others, found, same⟩ := develops.stack_stays sound has
        exact ⟨others, found, same.trans size⟩
    rw [Leads, ended] at leads
    exact leads
  -- A machine that starts has no frame, so all that is left is its stack.
  have live := start_isLive started
  simp only [start] at started
  split at started
  · simp at started
  · rename_i stack strings store ended
    cases started
    exact ⟨rfl, live.kernel, live.sound, prepared ended,
      by simp [FrameStack.empty, FrameStack.ofList], Nat.zero_le _⟩

/-- Whatever happens, the machine stays within bounds. -/
theorem Event.work_stays (event : Event) : Stays config event.work := by
  -- Staying within bounds is a relation, so the rules for relations apply.
  have sends {run : Runner} (runs : ∀ depth, Along (Passes (IsWithin config)) (run depth))
      (object : Address) (selector : UInt16) (arguments : List Address) :
      Along (Passes (IsWithin config)) (sendVia run object selector arguments) :=
    stays_iff_along.mp
      (sendVia_stays (fun depth => stays_iff_along.mpr (runs depth)) object selector arguments)
  have calls {run : Runner} (runs : ∀ depth, Along (Passes (IsWithin config)) (run depth))
      (number : UInt16) (index : Nat) (arguments : List Address) :
      Along (Passes (IsWithin config)) (callExportVia run number index arguments) :=
    stays_iff_along.mp
      (callExportVia_stays (fun depth => stays_iff_along.mpr (runs depth)) number index arguments)
  exact stays_iff_along.mpr (event.work_along sends calls
    (fun fuel depth => stays_iff_along.mp (runWithin_stays fuel depth))
    (fun fuel => stays_iff_along.mp (step_stays (runWithin fuel)))
    (stays_iff_along.mp collectGarbage_stays))

/-- A machine that arises is within the bounds of its settings. -/
theorem Arises.isWithin {machine : Machine} (arises : machine.Arises) :
    machine.IsWithin machine.setup.config := by
  induction arises with
  | start started =>
    have within := start_isWithin started
    rw [within.given]
    exact within
  | @after machine later event _ _ ended within =>
    -- The settings are those of the machine before.
    have still := stays_iff_along.mp event.work_stays _ _ _ ended within
    rw [still.given]
    exact still

/-- A run from within bounds passes only through machines that are within them. -/
theorem IsWithin.visited {machine passed : Machine} {fuel depth : Nat}
    (within : machine.IsWithin config) (member : passed ∈ visited fuel depth machine) :
    passed.IsWithin config := by
  -- The run goes on from the machine after each step, so the machine stays quantified over.
  induction fuel generalizing machine with
  | zero => exact List.mem_singleton.mp member ▸ within
  | succ fuel ih =>
    rw [Machine.visited] at member
    split at member
    · exact List.mem_singleton.mp member ▸ within
    · split at member
      · rename_i after stepped
        rcases List.mem_cons.mp member with rfl | later
        · exact within
        · -- The look for a request to stop that comes before the step changes no bounds.
          have polled : machine.polled.IsWithin config := within.status machine.status.polled
          exact ih (stays_iff_along.mp (step_stays _) _ _ _ stepped polled) later
      · exact List.mem_singleton.mp member ▸ within

/-- The operand stack is as large as was asked for, and frames are within it and not too many. -/
structure KeepsBounds (config : Config) (machine : Machine) : Prop where
  /-- The operand stack is a stack in memory, with the number of slots that was asked for. -/
  stack : ∃ slots, machine.store.heap.stack machine.context.stackSegment = .ok slots ∧
    slots.size = config.stackSize
  /-- What a frame knows of the operand stack is within it. -/
  frames : ∀ frame ∈ machine.context.frames.list, frame.IsWithin config.stackSize
  /-- There are no more frames than are allowed. -/
  depth : machine.context.depth ≤ config.maxCallDepth

/-- What stays within bounds keeps them. -/
theorem IsWithin.keepsBounds (within : machine.IsWithin config) : machine.KeepsBounds config := by
  -- The stack is the one that is live, and it has the configured size.
  obtain ⟨slots, has, size⟩ := within.stack
  exact ⟨⟨slots, Heap.stack_eq_ok.mpr has, size⟩, within.frames, within.depth⟩

/--
The operand stack and the frames keep to the settings, whatever has happened to the machine.

That is also true before each step of any run, and after any failure.
-/
theorem bounds_are_kept {machine : Machine} (arises : machine.Arises) :
    machine.KeepsBounds machine.setup.config ∧
      ∀ fuel depth, ∀ passed ∈ visited fuel depth machine,
        passed.KeepsBounds machine.setup.config :=
  ⟨arises.isWithin.keepsBounds,
    fun _ _ _ member => (arises.isWithin.visited member).keepsBounds⟩

end Machine

/-- Resources with one script, which has a variable and a procedure that pushes four values. -/
def Resources.fourPushes : Resources :=
  { script? := fun number =>
      if number = 1 then
        some #[1, 0, 0, 0, 7, 0, 8, 0, 1, 0, 16, 0, 2, 0, 8, 0, 118, 118, 118, 118]
      else none }

namespace Machine

/-- What events lead to from the start, each of them tried whether or not the last succeeded. -/
def afterEvents (config : Config) (resources : Resources) (events : List Event) : Option Machine :=
  match start config resources with
  | .ok machine => events.foldlM (fun machine event => (event.work machine).map (·.2)) machine
  | .error _ => none

/-- Events lead to machines that arise. -/
theorem arises_afterEvents {config : Config} {resources : Resources} {events : List Event}
    {machine : Machine} (led : afterEvents config resources events = some machine) :
    machine.Arises := by
  rw [afterEvents] at led
  split at led
  · rename_i first started
    have arises : first.Arises := .start started
    -- How the machine started is not needed any more, and would not hold of later ones.
    clear started
    induction events generalizing first with
    | nil => exact Option.some.inj led ▸ arises
    | cons event rest ih =>
      rw [List.foldlM_cons] at led
      obtain ⟨between, stepped, further⟩ := Option.bind_eq_some_iff.mp led
      obtain ⟨⟨outcome, after⟩, ended, rfl⟩ := Option.map_eq_some_iff.mp stepped
      exact ih after further (@Arises.after first after event outcome arises ended)
  · simp at led

/-- A frame that has filled the operand stack stays within it when the next push fails. -/
theorem bounds_are_kept_full :
    ∃ machine : Machine, machine.Arises ∧ machine.KeepsBounds { stackSize := 4 } ∧
      machine.context.frames.list =
        [{ kind := .call, pc := ⟨3, 20⟩, sp := 4, fp := 1, locals := 4 }] := by
  -- Three values fit above the argument count, and the fourth does not.
  have led : (afterEvents { stackSize := 4 } .fourPushes
      [.begin (.callExport 1 0 []), .step 1, .step 1, .step 1, .step 1]).map
        (fun machine => (machine.setup.config, machine.context.frames.list)) =
      some ({ stackSize := 4 }, [{ kind := .call, pc := ⟨3, 20⟩, sp := 4, fp := 1, locals := 4 }]) := by
    decide +kernel
  obtain ⟨machine, ended, known⟩ := Option.map_eq_some_iff.mp led
  rw [Prod.mk.injEq] at known
  have arises := arises_afterEvents ended
  exact ⟨machine, arises, known.1 ▸ (bounds_are_kept arises).1, known.2⟩

end Machine

end AdventureVm
