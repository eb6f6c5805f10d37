import AdventureVm.Proofs.Machine.LiveFrames
import AdventureVm.Proofs.Memory.Steady

/-!
Work of the machine that looser settings do not change, and that no request to stop ends.

Where such work succeeds, it succeeds in the same way on a machine that has more room for frames,
that is more lenient, or that records more.
-/

namespace AdventureVm

/-- Settings that allow whatever others allow, and count and collect like them. -/
structure Config.LoosensTo (tight loose : Config) : Prop where
  version : loose.version = tight.version
  stackSize : loose.stackSize = tight.stackSize
  gcInterval : loose.gcInterval = tight.gcInterval
  /-- There is room for as many frames. -/
  maxCallDepth : tight.maxCallDepth ≤ loose.maxCallDepth
  /-- Messages that are not understood are passed over if they were. -/
  lenient : tight.continueOnInvalidSelector → loose.continueOnInvalidSelector

/--
Two machines in the same state, of which the second has looser settings.

What was recorded may differ. No kernel function was added to those that the machines bring along.
-/
structure Machine.LoosensTo (tight loose : Machine) : Prop where
  heap : loose.store.heap = tight.store.heap
  context : loose.context = tight.context
  status : loose.status = tight.status
  config : tight.setup.config.LoosensTo loose.setup.config
  kernel : loose.setup.kernel = tight.setup.kernel
  resources : loose.setup.resources = tight.setup.resources
  stringsSegment : loose.setup.stringsSegment = tight.setup.stringsSegment
  builtin : tight.setup.kernel.IsBuiltin

namespace Machine.LoosensTo

variable {tight loose : Machine}

/-- Memory may change in the same way in both. -/
theorem withStore (alike : tight.LoosensTo loose) {store storeToo : Store}
    (same : StoreM.SameHeap store storeToo) :
    { tight with store }.LoosensTo { loose with store := storeToo } :=
  { alike with heap := same }

/-- Registers and frames may change in the same way in both. -/
theorem withContext (alike : tight.LoosensTo loose) (change : Context → Context) :
    { tight with context := change tight.context }.LoosensTo
      { loose with context := change loose.context } :=
  { alike with context := congrArg change alike.context }

/-- How the work stands may change in the same way in both. -/
theorem withStatus (alike : tight.LoosensTo loose) (change : Status → Status) :
    { tight with status := change tight.status }.LoosensTo
      { loose with status := change loose.status } :=
  { alike with status := congrArg change alike.status }

end Machine.LoosensTo

/-- What the machine was given is the same, and so are the requests to stop that were taken. -/
structure Machine.Keeps (before after : Machine) : Prop where
  setup : after.setup = before.setup
  taken : after.status.stop.taken = before.status.stop.taken

/-- A machine keeps what one keeps that kept it before. -/
theorem Machine.Keeps.trans {before between after : Machine} (first : before.Keeps between)
    (second : between.Keeps after) : before.Keeps after :=
  ⟨second.setup.trans first.setup, second.taken.trans first.taken⟩

namespace VmM

variable {α β : Type}

/-- Where the work succeeds, it succeeds with the same value under looser settings. -/
def Follows (work : VmM α) : Prop :=
  ∀ ⦃tight loose : Machine⦄, tight.LoosensTo loose → ∀ value after,
    work tight = some (.ok value, after) →
      ∃ later, work loose = some (.ok value, later) ∧ after.LoosensTo later

/-- Work that looser settings do not change, that no request to stop ends, that takes no such
request, and that leaves what the machine was given as it is. -/
structure Steady (work : VmM α) : Prop where
  /-- A success stays one under looser settings. -/
  follows : Follows work
  /-- A failure is no request to stop. -/
  genuine : ∀ machine, Ends work machine fun result after =>
    Genuine result ∧ machine.Keeps after

section Rules

/-- Two pieces of work succeed when the first does and the second does after it. -/
theorem bind_eq_some_ok {first : VmM α} {next : α → VmM β} {machine after : Machine} {value : β} :
    (first >>= next) machine = some (.ok value, after) ↔
      ∃ found between, first machine = some (.ok found, between) ∧
        next found between = some (.ok value, after) := by
  rw [run_bind]
  -- The first piece has no end, or it succeeds, or it fails.
  rcases first machine with _ | ⟨outcome, between⟩
  · simp
  · cases outcome with
    | ok found => simp
    | error fault => simp

/-- Work follows when each of its pieces does. -/
theorem Follows.bind {work : VmM α} {next : α → VmM β} (here : Follows work)
    (further : ∀ value, Follows (next value)) : Follows (work >>= next) := by
  -- The second piece starts from machines that are alike because the first one followed.
  intro tight loose alike value after ended
  obtain ⟨found, between, first, second⟩ := bind_eq_some_ok.mp ended
  obtain ⟨betweenToo, firstToo, alikeThen⟩ := here alike found between first
  obtain ⟨later, secondToo, alikeLater⟩ := further found alikeThen value after second
  exact ⟨later, bind_eq_some_ok.mpr ⟨found, betweenToo, firstToo, secondToo⟩, alikeLater⟩

/-- Work that always succeeds follows if it comes to the same under looser settings. -/
theorem follows_of_eq {work : VmM α} {value : Machine → α} {step : Machine → Machine}
    (ended : ∀ machine, work machine = some (.ok (value machine), step machine))
    (same : ∀ tight loose : Machine, tight.LoosensTo loose →
      value loose = value tight ∧ (step tight).LoosensTo (step loose)) : Follows work := by
  -- The outcome is known on both sides, and it is the same.
  intro tight loose alike found after reached
  obtain ⟨equal, alikeLater⟩ := same tight loose alike
  rw [ended] at reached
  cases reached
  exact ⟨step loose, by rw [ended, equal], alikeLater⟩

/-- Giving a value is steady. -/
theorem steady_pure (value : α) : Steady (pure value) where
  follows := follows_of_eq (fun _ => rfl) fun _ _ alike => ⟨rfl, alike⟩
  genuine _ := (ends_pure _ _ _).mpr ⟨trivial, rfl, rfl⟩

/-- Failing is steady. -/
theorem steady_throw {fault : Fault} (genuine : fault.IsGenuine) :
    Steady (throw fault : VmM α) where
  -- A failure has no answer to be followed, and the fault is not a request.
  follows := by
    intro _ _ _ value after ended
    cases ended
  genuine _ := (ends_throw _ _ _).mpr ⟨genuine, rfl, rfl⟩

/-- Pieces of steady work are steady together. -/
theorem Steady.bind {work : VmM α} {next : α → VmM β} (here : Steady work)
    (further : ∀ value, Steady (next value)) : Steady (work >>= next) where
  follows := here.follows.bind fun value => (further value).follows
  genuine machine := by
    rw [ends_bind]
    refine (here.genuine machine).mono ?_
    intro outcome between reached
    obtain ⟨genuine, kept⟩ := reached
    -- A failure ends the work, so only the first piece counts.
    cases outcome with
    | error fault => exact ⟨genuine, kept⟩
    | ok value =>
      refine ((further value).genuine between).mono ?_
      exact fun _ _ ended => ⟨ended.1, kept.trans ended.2⟩

/-- Steady work on memory is steady. -/
theorem steady_store {work : StoreM α} (steady : work.Steady) : Steady (store work) where
  follows := by
    intro tight loose alike value after ended
    have reached : ((work.run tight.store).1,
        ({ tight with store := (work.run tight.store).2 } : Machine)) = (.ok value, after) :=
      Option.some.inj ended
    obtain ⟨gave, rfl⟩ := Prod.mk.inj reached
    -- Both memories hold the same, so the work comes to the same in both.
    obtain ⟨same, sameHeap⟩ := steady.alike
      (show StoreM.SameHeap tight.store loose.store from alike.heap)
    refine ⟨_, ?_, alike.withStore sameHeap⟩
    show some ((work.run loose.store).1, _) = _
    rw [← gave]
    exact congrArg (fun outcome => some (outcome, _)) same
  genuine machine := by
    rw [ends_store]
    refine (steady.genuine machine.store).either ?_ ?_
    · exact fun _ _ _ => ⟨trivial, rfl, rfl⟩
    · exact fun _ _ genuine => ⟨genuine, rfl, rfl⟩

/-- Work on memory that cannot fail is steady if earlier records make no difference to it. -/
theorem steady_storeState {work : StateM Store α}
    (alike : ∀ first second, StoreM.SameHeap first second →
      RunsAlike StoreM.SameHeap work first second) : Steady (storeState work) := by
  -- Such work is work that could fail and does not.
  have lifted : StoreM.Steady (ExceptT.lift work) :=
    ⟨fun {first second} same => ⟨congrArg Except.ok (alike first second same).1,
      (alike first second same).2⟩, fun _ => trivial⟩
  exact steady_store lifted

/-- Reading from memory is steady. -/
theorem steady_read (query : Heap → α) : Steady (read query) :=
  steady_store (StoreM.steady_read query)

/-- Reading from memory what may not be there is steady. -/
theorem steady_require {query : Heap → Except Fault α} (genuine : ∀ heap, Genuine (query heap)) :
    Steady (require query) :=
  steady_store (StoreM.steady_require genuine)

/-- Adding a record is steady. -/
theorem steady_note (level : Level) (text : String) : Steady (note level text) :=
  steady_store (StoreM.steady_note level text)

/-- Reading from registers and frames is steady. -/
theorem steady_context (query : Context → α) : Steady (context query) where
  follows := follows_of_eq (fun _ => rfl) fun _ _ alike => ⟨congrArg query alike.context, alike⟩
  genuine _ := (ends_context _ _ _).mpr ⟨trivial, rfl, rfl⟩

/-- Changing registers or frames is steady. -/
theorem steady_modifyContext (change : Context → Context) : Steady (modifyContext change) where
  follows := follows_of_eq (fun _ => rfl) fun _ _ alike => ⟨rfl, alike.withContext change⟩
  genuine _ := (ends_modifyContext _ _ _).mpr ⟨trivial, rfl, rfl⟩

/-- Reading how the work stands is steady. -/
theorem steady_status (query : Status → α) : Steady (status query) where
  follows := follows_of_eq (fun _ => rfl) fun _ _ alike => ⟨congrArg query alike.status, alike⟩
  genuine _ := (ends_status _ _ _).mpr ⟨trivial, rfl, rfl⟩

/-- Changing how the work stands is steady if no request to stop is taken. -/
theorem steady_modifyStatus (change : Status → Status)
    (same : ∀ status : Status, (change status).stop.taken = status.stop.taken) :
    Steady (modifyStatus change) where
  -- Memory, context and settings stay as they are, and so does what was taken.
  follows := follows_of_eq (fun _ => rfl) fun _ _ alike => ⟨rfl, alike.withStatus change⟩
  genuine machine := (ends_modifyStatus _ _ _).mpr ⟨trivial, rfl, same machine.status⟩

/-- Reading from what the machine was given is steady where looser settings make no difference. -/
theorem steady_setup {query : Setup → α} (same : ∀ tight loose : Machine, tight.LoosensTo loose →
    query loose.setup = query tight.setup) : Steady (setup query) where
  -- The answer is the same by assumption, and nothing changes.
  follows := follows_of_eq (fun _ => rfl) fun tight loose alike => ⟨same tight loose alike, alike⟩
  genuine _ := (ends_setup _ _ _).mpr ⟨trivial, rfl, rfl⟩

/-- Looking at the resources is steady. -/
theorem steady_resources (query : Resources → α) :
    Steady (setup fun setup => query setup.resources) :=
  steady_setup fun _ _ alike => congrArg query alike.resources

/-- Ending as given is steady. -/
theorem steady_ofExcept {result : Except Fault α} (genuine : Genuine result) :
    Steady (ofExcept result) := by
  -- An answer is returned, a genuine fault is thrown.
  cases result with
  | ok value => exact steady_pure value
  | error fault => exact steady_throw genuine

/-- Loading the accumulator is steady. -/
theorem steady_setAcc (value : Address) : Steady (setAcc value) :=
  steady_modifyContext _

/-- Setting the number of kernel calls until the next collection is steady. -/
theorem steady_setCountdown (countdown : Nat) :
    Steady (modifyStatus fun status => { status with countdown }) :=
  steady_modifyStatus _ fun _ => rfl

/-- Counting an instruction is steady. -/
theorem steady_countStep :
    Steady (modifyStatus fun status => { status with steps := status.steps + 1 }) :=
  steady_modifyStatus _ fun _ => rfl

/-- Setting what the machine is doing is steady. -/
theorem steady_setState (state : ExecState) : Steady (setState state) :=
  steady_modifyStatus _ fun _ => rfl

end Rules

end VmM

namespace Machine

open VmM

variable {α : Type}

section Stack

/-- Looking at the current frame is steady. -/
theorem frame_steady : Steady frame := by
  -- A missing frame is a genuine fault.
  refine (steady_context _).bind fun current => ?_
  cases current with
  | some frame => exact steady_pure frame
  | none => exact steady_throw (by simp)

/-- Changing the current frame is steady. -/
theorem modifyFrame_steady (change : Frame → Frame) : Steady (modifyFrame change) :=
  steady_modifyContext _

/-- Moving the stack pointer is steady. -/
theorem setStackPointer_steady (sp : Nat) : Steady (setStackPointer sp) :=
  modifyFrame_steady _

/-- Ending a frame is steady. -/
theorem dropFrame_steady : Steady dropFrame :=
  steady_modifyContext _

/-- Reading from the operand stack is steady. -/
theorem operands_steady (query : Array Address → α) : Steady (operands query) :=
  (steady_context _).bind fun id => steady_require fun _ => (Heap.stack_genuine id).map

/-- Reading from the operand stack what may not be there is steady. -/
theorem operands?_steady (query : Array Address → Option α) : Steady (operands? query) := by
  -- A missing value is a genuine fault.
  refine (operands_steady _).bind fun found => ?_
  obtain ⟨found, capacity⟩ := found
  cases found with
  | some value => exact steady_pure value
  | none => exact steady_throw (by simp)

/-- Reading a slot of the operand stack is steady. -/
theorem stackGet_steady (index : Nat) : Steady (stackGet index) :=
  operands?_steady _

/-- Storing into the operand stack is steady. -/
theorem stackSet_steady (index : Nat) (value : Address) : Steady (stackSet index value) := by
  have stores : Steady (do
      let id ← VmM.context (·.stackSegment)
      VmM.store (StoreM.change (·.setStackSlot id index value))) :=
    (steady_context _).bind fun _ => steady_store (StoreM.steady_change _)
  refine (operands_steady _).bind fun capacity => ?_
  -- A slot outside of the stack fails before anything is stored.
  split
  · exact (steady_throw (by simp)).bind fun _ => stores
  · exact stores

/-- Storing values into the operand stack is steady. -/
theorem stackSetAll_steady (start : Nat) (values : List Address) :
    Steady (stackSetAll start values) := by
  -- Induction on the values that are left to store.
  induction values generalizing start with
  | nil => exact steady_pure ()
  | cons value rest ih => exact (stackSet_steady start value).bind fun _ => ih (start + 1)

/-- Pushing a value is steady. -/
theorem push_steady (value : Address) : Steady (push value) :=
  frame_steady.bind fun _ => (stackSet_steady _ _).bind fun _ => setStackPointer_steady _

/-- Taking the top of the stack is steady. -/
theorem pop_steady : Steady pop := by
  -- Only an empty frame makes a difference, and it is empty on both sides.
  refine frame_steady.bind fun frame => ?_
  split
  · exact (operands_steady _).bind fun _ => steady_throw (by simp)
  · exact (stackGet_steady _).bind fun _ => (setStackPointer_steady _).bind fun _ => steady_pure _

/-- Looking at the top of the stack is steady. -/
theorem peek_steady : Steady peek := by
  -- Only an empty frame makes a difference, and it is empty on both sides.
  refine frame_steady.bind fun frame => ?_
  split
  · exact steady_pure _
  · exact stackGet_steady _

/-- Looking for where the top words begin is steady. -/
theorem stackBase_steady (words : Nat) : Steady (stackBase words) := by
  -- Frame and capacity are the same on both sides, so both fit or neither does.
  refine frame_steady.bind fun frame => (operands_steady _).bind fun capacity => ?_
  split
  · exact (steady_throw (by simp)).bind fun _ => steady_pure _
  · exact steady_pure _

/-- Taking the waiting arguments is steady. -/
theorem takeRest_steady : Steady takeRest :=
  (steady_context _).bind fun _ => (steady_modifyContext _).bind fun _ => steady_pure _

/-- Reserving temporary variables is steady. -/
theorem link_steady (count : Nat) : Steady (link count) :=
  frame_steady.bind fun _ => (stackSetAll_steady _ _).bind fun _ => setStackPointer_steady _

/-- Reading neighbouring slots is steady. -/
theorem stackSlice_steady (start count : Nat) : Steady (stackSlice start count) := by
  -- Induction on the slots that are left to read.
  induction count generalizing start with
  | zero => exact steady_pure _
  | succ count ih =>
    exact (stackGet_steady start).bind fun _ => (ih (start + 1)).bind fun _ => steady_pure _

/-- Looking for the arguments of a call is steady. -/
theorem callBase_steady (bytes : Nat) : Steady (callBase bytes) := by
  -- The count that is taken is the same on both sides.
  refine takeRest_steady.bind fun rest => (stackBase_steady _).bind fun base =>
    (stackGet_steady base).bind fun count => ?_
  dsimp only
  split
  · exact (stackSet_steady _ _).bind fun _ => steady_pure _
  · exact steady_pure _

/-- Pushing the values of slots is steady. -/
theorem pushSlots_steady (start count : Nat) : Steady (pushSlots start count) := by
  -- Induction on the slots that are left to push.
  induction count generalizing start with
  | zero => exact steady_pure _
  | succ count ih =>
    exact (stackGet_steady start).bind fun _ => (push_steady _).bind fun _ => ih (start + 1)

/-- Passing parameters on is steady. -/
theorem pushRest_steady (first : Nat) : Steady (pushRest first) :=
  frame_steady.bind fun _ => (pushSlots_steady _ _).bind fun _ => steady_modifyContext _

/-- A frame is started if there is room for it. -/
theorem pushFrame_eq (frame : Frame) (machine : Machine) :
    pushFrame frame machine =
      if machine.context.depth + 1 > machine.setup.config.maxCallDepth then
        some (.error (.stackOverflow (machine.context.depth + 1)
          machine.setup.config.maxCallDepth), machine)
      else some (.ok (), { machine with context := machine.context.push frame }) := by
  -- Reading depth and limit always succeeds, so the branch can be moved outwards.
  show (if machine.context.depth + 1 > machine.setup.config.maxCallDepth then _ else _ :
    VmM Unit) machine = _
  split
  · rfl
  · rfl

/-- Starting a frame is steady: what there is room for has room under looser settings. -/
theorem pushFrame_steady (frame : Frame) : Steady (pushFrame frame) where
  follows := by
    intro tight loose alike value after ended
    have depth : loose.context.depth = tight.context.depth := congrArg Context.depth alike.context
    rw [pushFrame_eq] at ended
    split at ended
    · cases ended
    · rename_i room
      cases ended
      -- The depths are the same, and only the limit on them is looser.
      have limit := alike.config.maxCallDepth
      refine ⟨_, ?_, alike.withContext (·.push frame)⟩
      rw [pushFrame_eq, if_neg (by omega)]
  genuine machine := by
    intro outcome after ended
    -- Reaching the limit fails with a fault of its own.
    rw [pushFrame_eq] at ended
    split at ended
    · cases ended
      exact ⟨by simp, rfl, rfl⟩
    · cases ended
      exact ⟨trivial, rfl, rfl⟩

end Stack

section Scripts

/-- Making sure that a script is in memory is steady. -/
theorem ensureScript_steady (number : UInt16) : Steady (ensureScript number) :=
  (steady_resources id).bind fun _ => steady_store (Store.ensureScript_steady _ _)

/-- Looking up an export is steady. -/
theorem scriptExport_steady (number : UInt16) (index : Nat) :
    Steady (scriptExport number index) := by
  -- The script is the same on both sides, so both have the export or neither has.
  refine (ensureScript_steady number).bind fun id =>
    (steady_require fun _ => Heap.script_genuine id).bind fun script => ?_
  split
  · exact steady_pure _
  · exact steady_throw (by simp)

/-- Looking up a class is steady. -/
theorem resolveClass_steady (species : UInt16) : Steady (resolveClass species) := by
  refine (steady_read _).bind fun known => ?_
  split
  · exact steady_pure _
  · refine (steady_read _).bind fun owner => ?_
    split
    · exact steady_throw (by simp)
    · -- The class is looked for again after its script has been brought in.
      refine (ensureScript_steady _).bind fun _ => (steady_read _).bind fun address => ?_
      split
      · exact steady_pure _
      · exact steady_throw (by simp)

end Scripts

section Messages

/-- Making the frame of a method is steady. -/
theorem methodFrame_steady (target work pc : Address) (top : Nat) (message : Message) :
    Steady (methodFrame target work pc top message) :=
  (steady_require fun _ => Heap.script_genuine _).bind fun _ =>
    (steady_store (StoreM.steady_change _)).bind fun _ => steady_pure _

/-- What becomes of a message that is not understood. -/
theorem unanswered_eq (target : Address) (selector : UInt16) (machine : Machine) :
    (do
      let fault ← selectorNotFound target selector
      if ← VmM.setup (·.config.continueOnInvalidSelector) then
        VmM.note .warn s!"{fault.message}; continuing"
        VmM.setAcc .null
        return none
      else throw fault : VmM (Option Frame)) machine =
      let fault := Fault.selectorNotFound target selector
        (machine.setup.resources.selectorName? selector)
      if machine.setup.config.continueOnInvalidSelector then
        some (.ok none, { machine with
          store := machine.store.note .warn s!"{fault.message}; continuing"
          context := { machine.context with acc := .null } })
      else some (.error fault, machine) := by
  -- The setting decides, and either branch computes.
  show (if machine.setup.config.continueOnInvalidSelector then _ else _ :
    VmM (Option Frame)) machine = _
  dsimp only
  split
  · rfl
  · rfl

/-- Passing over a message that is not understood, or refusing it, is steady. -/
theorem unanswered_steady (target : Address) (selector : UInt16) :
    Steady (do
      let fault ← selectorNotFound target selector
      if ← VmM.setup (·.config.continueOnInvalidSelector) then
        VmM.note .warn s!"{fault.message}; continuing"
        VmM.setAcc .null
        return none
      else throw fault : VmM (Option Frame)) where
  follows := by
    intro tight loose alike value after ended
    rw [unanswered_eq] at ended
    dsimp only at ended
    split at ended
    · -- Looser settings are lenient as well.
      rename_i lenient
      cases ended
      refine ⟨_, (unanswered_eq ..).trans (if_pos (alike.config.lenient lenient)), ?_⟩
      exact { alike with
        heap := alike.heap
        context := congrArg (fun context : Context => { context with acc := .null }) alike.context }
    · cases ended
  genuine machine := by
    intro outcome after ended
    rw [unanswered_eq] at ended
    dsimp only at ended
    split at ended
    · cases ended
      exact ⟨trivial, rfl, rfl⟩
    · cases ended
      exact ⟨by simp, rfl, rfl⟩

/-- Finding the frame that answers a message is steady. -/
theorem answer?_steady (target work : Address) (top : Nat) (message : Message) :
    Steady (answer? target work top message) := by
  -- By what the lookup found: a method, a property, or nothing.
  refine (steady_store (Store.resolve_steady _ _)).bind fun found => ?_
  split
  · exact (methodFrame_steady _ _ _ _ _).bind fun _ => steady_pure _
  · exact steady_pure _
  · exact unanswered_steady target message.selector

/-- Finding the frames that answer messages is steady. -/
theorem answers_steady (target work : Address) (top : Nat) (messages : List Message) :
    Steady (answers target work top messages) := by
  -- Induction on the messages that are left to look up.
  induction messages with
  | nil => exact steady_pure _
  | cons message rest ih =>
    exact (answer?_steady _ _ _ _).bind fun _ => ih.bind fun _ => steady_pure _

/-- Starting frames is steady. -/
theorem pushFrames_steady (frames : List Frame) : Steady (pushFrames frames) := by
  -- Induction on the frames, of which the first is started last.
  induction frames with
  | nil => exact steady_pure _
  | cons frame rest ih => exact ih.bind fun _ => pushFrame_steady frame

/-- A warning about messages is steady. -/
theorem warnOverrun_steady (target : Address) (excess : Nat) :
    Steady (warnOverrun target excess) :=
  (steady_read _).bind fun _ => (steady_store (StoreM.steady_record _)).bind fun _ =>
    (steady_read _).bind fun _ => steady_note _ _

/-- Sending messages is steady. -/
theorem dispatch_steady (target work : Address) (base words : Nat) :
    Steady (dispatch target work base words) := by
  -- With or without a warning, what follows is the same.
  have sends (messages : List Message) : Steady (do
      setStackPointer base
      pushFrames (← answers target work (base + words) messages)) :=
    (setStackPointer_steady base).bind fun _ => (answers_steady _ _ _ _).bind pushFrames_steady
  refine (operands?_steady _).bind fun found => ?_
  dsimp only
  split
  · exact (warnOverrun_steady _ _).bind fun _ => sends found.1
  · exact sends found.1

/-- Adding the waiting arguments to a message is steady. -/
theorem extendLastMessage_steady (base words rest : Nat) :
    Steady (extendLastMessage base words rest) :=
  (operands?_steady _).bind fun _ => (stackGet_steady _).bind fun _ => stackSet_steady _ _

/-- Sending the messages on top of the stack is steady. -/
theorem sendMessages_steady (target work : Address) (bytes : Nat) :
    Steady (sendMessages target work bytes) := by
  -- The count of waiting arguments is the same on both sides.
  refine takeRest_steady.bind fun rest => (stackBase_steady _).bind fun base => ?_
  dsimp only
  split
  · exact (extendLastMessage_steady _ _ _).bind fun _ => dispatch_steady _ _ _ _
  · exact dispatch_steady _ _ _ _

/-- Putting a message on the stack is steady. -/
theorem writeMessage_steady (base : Nat) (selector : UInt16) (arguments : List Address) :
    Steady (writeMessage base selector arguments) :=
  (stackSetAll_steady _ _).bind fun _ => steady_pure _

end Messages

section Calls

/-- Calling a procedure is steady. -/
theorem callProcedure_steady (target : Address) (bytes : Nat) (locals : Option SegmentId) :
    Steady (callProcedure target bytes locals) :=
  (callBase_steady bytes).bind fun _ => frame_steady.bind fun _ =>
    (pushFrame_steady _).bind fun _ => steady_modifyContext _

/-- Calling an export is steady. -/
theorem callExported_steady (number : UInt16) (index bytes : Nat) :
    Steady (callExported number index bytes) := by
  -- The script is the same on both sides, so both have the export or neither has.
  refine (steady_resources id).bind fun _ => (steady_store (Store.loadScript_steady _ _)).bind
    fun id => (steady_require fun _ => Heap.script_genuine id).bind fun script => ?_
  split
  · exact steady_throw (by simp)
  · exact callProcedure_steady _ _ _

/-- A collection is steady. -/
theorem collectGarbage_steady : Steady collectGarbage :=
  -- Interval, context and memory are the same on both sides.
  (steady_setup fun _ _ alike => alike.config.gcInterval).bind fun _ =>
    (steady_setCountdown _).bind fun _ => (steady_context _).bind fun context =>
      steady_storeState fun _ _ => Store.collect_sameHeap context

/-- Leaving a request to stop is steady. -/
theorem requestStop_steady (request : StopRequest) : Steady (requestStop request) :=
  steady_modifyStatus (fun status => { status with stop := status.stop.request request })
    fun _ => rfl

/-- Withdrawing a request to stop is steady. -/
theorem clearStop_steady : Steady clearStop :=
  steady_modifyStatus (fun status => { status with stop := status.stop.clear }) fun _ => rfl

/-- Looking for a request to stop without taking it is steady. -/
theorem pendingStop_steady : Steady pendingStop :=
  (steady_modifyStatus (fun status => { status with stop := status.stop.receive })
    fun status => status.stop.taken_receive).bind fun _ => steady_status _

/-- Counting a kernel call, with the collection that may be due, is steady. -/
theorem countKernelCall_steady : Steady countKernelCall := by
  -- The interval and the countdown are the same on both sides.
  refine (steady_setup fun _ _ alike => alike.config.gcInterval).bind fun interval => ?_
  split
  · exact steady_pure _
  · refine (steady_status _).bind fun countdown => (steady_setCountdown _).bind fun _ => ?_
    split
    · exact collectGarbage_steady.bind fun _ => steady_pure _
    · exact steady_pure _

end Calls

section Variables

/-- Looking for a table of variables is steady. -/
theorem localsTable?_steady (kind : VariableKind) : Steady (localsTable? kind) := by
  -- Globals are looked up in memory, locals in the current frame.
  unfold localsTable?
  split
  · exact steady_read _
  · exact frame_steady.bind fun _ => steady_pure _

/-- Looking for the place of a variable is steady. -/
theorem variableSlot_steady (kind : VariableKind) (index : Nat) :
    Steady (variableSlot kind index) := by
  unfold variableSlot
  split
  · -- The stack holds temporary variables and parameters, and tables hold the others.
    exact frame_steady.bind fun _ => steady_pure _
  · refine frame_steady.bind fun frame => ?_
    dsimp only
    split
    · exact (steady_throw (by simp)).bind fun _ => steady_pure _
    · exact steady_pure _
  · refine (localsTable?_steady _).bind fun table => ?_
    split
    · exact steady_throw (by simp)
    · refine (steady_require fun _ => Heap.locals_genuine _).bind fun found => ?_
      dsimp only
      split
      · exact (steady_throw (by simp)).bind fun _ => steady_pure _
      · exact steady_pure _

/-- Asking whether a variable is missing is steady. -/
theorem isMissing_steady (kind : VariableKind) (index : Nat) : Steady (isMissing kind index) := by
  -- Only a parameter can be missing, and that is read off the frame.
  cases kind with
  | param => exact frame_steady.bind fun _ => steady_pure _
  | _ => exact steady_pure _

/-- Reading a variable is steady. -/
theorem readVariable_steady (kind : VariableKind) (index : Nat) :
    Steady (readVariable kind index) := by
  have reads : Steady (do readSlot kind (← variableSlot kind index)) := by
    refine (variableSlot_steady kind index).bind fun slot => ?_
    cases slot with
    | stack index => exact stackGet_steady index
    | «local» id index =>
      refine (steady_require fun _ => Heap.locals_genuine id).bind fun table => ?_
      split
      · exact steady_pure _
      · exact steady_throw (by simp)
  -- A variable that is missing is read as zero, with a note.
  refine (isMissing_steady kind index).bind fun missing => ?_
  split
  · exact (steady_note _ _).bind fun _ => steady_pure _
  · exact reads

/-- Storing into a variable is steady. -/
theorem writeVariable_steady (kind : VariableKind) (index : Nat) (value : Address) :
    Steady (writeVariable kind index value) := by
  -- A slot of the operand stack, or one of a table of variables.
  refine (variableSlot_steady kind index).bind fun slot => ?_
  cases slot with
  | stack index => exact stackSet_steady index value
  | «local» id index => exact steady_store (StoreM.steady_change _)

/-- Adding the accumulator to an index is steady. -/
theorem indexBy_steady (indexed : Bool) (index : Nat) : Steady (indexBy indexed index) := by
  -- The accumulator is the same on both sides; an address in it is a genuine fault.
  unfold indexBy
  split
  · refine (steady_context _).bind fun acc => ?_
    split
    · exact steady_pure _
    · exact steady_throw (by simp)
  · exact steady_pure _

/-- Replacing a property is steady. -/
theorem writeProperty_steady (object : Address) (index : Nat) (value : Address) :
    Steady (VmM.store (StoreM.attempt (·.writeProperty object index value))) :=
  steady_store (Store.writeProperty_steady object index value)

/-- Looking for the address of a variable is steady. -/
theorem variableAddress_steady (word : UInt16) (index : Nat) :
    Steady (variableAddress word index) := by
  refine (indexBy_steady _ _).bind fun index => (steady_context _).bind fun segment => ?_
  -- Two kinds are on the operand stack, the others in a table that may be missing.
  split
  · exact frame_steady.bind fun _ => steady_pure _
  · exact frame_steady.bind fun _ => steady_pure _
  · refine (localsTable?_steady _).bind fun table => ?_
    split
    · exact steady_pure _
    · exact steady_throw (by simp)

/-- Acting on what can be read and written is steady if reading and writing is. -/
theorem access_steady (action : VariableAction) {read : VmM Address} {write : Address → VmM Unit}
    (reads : Steady read) (writes : ∀ value, Steady (write value)) (storePopped : Bool) :
    Steady (access action read write storePopped) := by
  -- Every action is made of reading, writing, and moving values between stack and accumulator.
  cases action with
  | loadAcc => exact reads.bind fun _ => steady_setAcc _
  | loadStack => exact reads.bind fun _ => push_steady _
  | storeAcc =>
    have stores : Steady (do write (← VmM.context (·.acc))) :=
      (steady_context _).bind fun _ => writes _
    dsimp only [access]
    split
    · exact pop_steady.bind fun _ => (steady_setAcc _).bind fun _ => stores
    · exact stores
  | storeStack => exact pop_steady.bind fun _ => writes _
  | incAcc => exact reads.bind fun _ => (writes _).bind fun _ => steady_setAcc _
  | decAcc => exact reads.bind fun _ => (writes _).bind fun _ => steady_setAcc _
  | incStack => exact reads.bind fun _ => (writes _).bind fun _ => push_steady _
  | decStack => exact reads.bind fun _ => (writes _).bind fun _ => push_steady _

/-- Accessing a variable is steady. -/
theorem accessVariable_steady (op : VariableOp) (index : Nat) : Steady (accessVariable op index) :=
  (indexBy_steady _ _).bind fun index =>
    access_steady _ (readVariable_steady _ index) (writeVariable_steady _ index) _

/-- Accessing a property is steady. -/
theorem accessProperty_steady (action : VariableAction) (index : Nat) :
    Steady (accessProperty action index) :=
  -- The object is that of the current frame; reading and writing are steady.
  frame_steady.bind fun frame =>
    access_steady _ (steady_require fun _ => Heap.readProperty_genuine frame.objp index)
      (writeProperty_steady frame.objp index) _

/-- Accessing the property that a message asks for is steady. -/
theorem accessSelected_steady (frame : Frame) (index : Nat) :
    Steady (accessSelected frame index) := by
  -- A message without arguments reads, any other writes.
  refine dropFrame_steady.bind fun _ => ?_
  split
  · exact (steady_require fun _ => Heap.readProperty_genuine frame.objp index).bind fun _ =>
      steady_setAcc _
  · exact (stackGet_steady _).bind fun value => writeProperty_steady _ _ value

end Variables

section Instructions

/-- An operation on words is not asked to stop. -/
theorem numberFor_genuine (mnemonic : String) (value : Address) :
    Genuine (numberFor mnemonic value) := by
  -- What is not a number is an invalid operand.
  unfold numberFor
  split
  · trivial
  · exact Fault.isGenuine_iff.mpr (by simp)

/-- An operation on the accumulator is not asked to stop. -/
theorem unary_genuine (op : UnaryOp) (value : Address) : Genuine (op.apply value) := by
  -- Only logical negation takes any value; the others ask for a number.
  cases op with
  | bnot => exact (numberFor_genuine _ _).map
  | neg => exact (numberFor_genuine _ _).map
  | not => trivial

/-- An operation on two values is not asked to stop. -/
theorem binary_genuine (op : BinaryOp) (left right : Address) : Genuine (op.apply left right) := by
  -- Comparisons of addresses never fail; the others ask for two numbers.
  unfold BinaryOp.apply
  split
  · trivial
  · exact (numberFor_genuine _ _).bind fun _ _ => (numberFor_genuine _ _).bind fun _ _ => trivial

/-- A comparison is not asked to stop. -/
theorem comparison_genuine (op : Comparison) (left right : Address) :
    Genuine (op.apply left right) := by
  -- Only an ordering of locations can fail, and equality needs none.
  have ordered : Genuine (op.order left right) := by
    unfold Comparison.order
    split
    · split
      · trivial
      · exact Fault.isGenuine_iff.mpr (by simp)
    · split <;> trivial
  cases op with
  | eq => trivial
  | ne => trivial
  | _ => exact ordered

/-- Reading an instruction is not asked to stop. -/
theorem instructionAt_genuine (heap : Heap) (pc : Address) : Genuine (instructionAt heap pc) := by
  -- No script, no opcode and too few bytes are three faults, none of them a request.
  unfold instructionAt
  split
  · exact Heap.invalid_isGenuine _ _
  · split
    · trivial
    · exact Fault.isGenuine_iff.mpr (by simp)
    · exact Fault.isGenuine_iff.mpr (by simp)

/-- An instruction that calls no kernel function is steady. -/
theorem execute_steady (run : Runner) {instruction : Instruction} (next : Address)
    (apart : instruction.operation ≠ .callKernel) : Steady (execute run instruction next) := by
  refine (steady_context _).bind fun acc => ?_
  -- Calls and sends have lemmas of their own, and most others only load or push a value.
  cases operation : instruction.operation with
  | unary op => exact (steady_ofExcept (unary_genuine _ _)).bind fun _ => steady_setAcc _
  | binary op =>
    exact pop_steady.bind fun left =>
      (steady_store (StoreM.steady_noted fun _ => binary_genuine op left acc)).bind fun _ =>
        steady_setAcc _
  | compare op =>
    exact (steady_modifyContext _).bind fun _ => pop_steady.bind fun left =>
      (steady_ofExcept (comparison_genuine op left acc)).bind fun _ => steady_setAcc _
  | branchTrue =>
    dsimp only
    split
    · exact modifyFrame_steady _
    · exact steady_pure _
  | branchFalse =>
    dsimp only
    split
    · exact modifyFrame_steady _
    · exact steady_pure _
  | jump => exact modifyFrame_steady _
  | loadImmediate => exact steady_setAcc _
  | push => exact push_steady _
  | pushImmediate => exact push_steady _
  | toss => exact pop_steady.bind fun _ => steady_pure _
  | dup => exact peek_steady.bind fun _ => push_steady _
  | link => exact link_steady _
  | call => exact callProcedure_steady _ _ _
  | callKernel => exact absurd operation apart
  | callBase => exact callExported_steady _ _ _
  | callExport => exact callExported_steady _ _ _
  | ret => exact dropFrame_steady
  | send => exact sendMessages_steady _ _ _
  | loadClass => exact (resolveClass_steady _).bind fun _ => steady_setAcc _
  | sendSelf => exact frame_steady.bind fun _ => sendMessages_steady _ _ _
  | sendSuper =>
    exact (resolveClass_steady _).bind fun _ => frame_steady.bind fun _ => sendMessages_steady _ _ _
  | rest => exact pushRest_steady _
  | lea => exact (variableAddress_steady _ _).bind fun _ => steady_setAcc _
  | selfID => exact frame_steady.bind fun _ => steady_setAcc _
  | pushPrev => exact (steady_context _).bind fun _ => push_steady _
  | property action => exact accessProperty_steady _ _
  | loadOffset => exact (steady_read _).bind fun _ => steady_setAcc _
  | pushOffset => exact (steady_read _).bind fun _ => push_steady _
  | push0 => exact push_steady _
  | push1 => exact push_steady _
  | push2 => exact push_steady _
  | pushSelf => exact frame_steady.bind fun _ => push_steady _
  | «variable» op => exact accessVariable_steady _ _

end Instructions

end Machine

end AdventureVm
