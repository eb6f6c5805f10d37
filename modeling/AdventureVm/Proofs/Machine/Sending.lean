import AdventureVm.Proofs.Machine.Reentry
import AdventureVm.Proofs.Memory.Spared
import Mathlib.Data.List.Forall2

/-!
What sending messages does to the frames and to the operand stack.

The sender gives its messages up, and every message that means something to the receiver gets a
frame. The frame of the first message is the current one, and all of them work above the messages.
-/

namespace AdventureVm

open VmM

namespace VmM

variable {α β : Type} {machine : Machine}

/-- Whenever the work, started on a machine, succeeds, the value and the machine that is then there
satisfy a condition. -/
def Gives (work : VmM α) (machine : Machine) (post : α → Machine → Prop) : Prop :=
  Ends work machine (Either post fun _ _ => True)

/-- A condition that follows from one that is met is met as well. -/
theorem Gives.mono {work : VmM α} {post weaker : α → Machine → Prop}
    (met : Gives work machine post)
    (implied : ∀ value after, post value after → weaker value after) :
    Gives work machine weaker :=
  met.either implied fun _ _ _ => trivial

/-- The second of two pieces of work starts where the first succeeds. -/
theorem Gives.bind {first : VmM α} {next : α → VmM β} {between : α → Machine → Prop}
    {post : β → Machine → Prop} (met : Gives first machine between)
    (metNext : ∀ value after, between value after → Gives (next value) after post) :
    Gives (first >>= next) machine post := by
  -- A failure has nothing to meet.
  rw [Gives, ends_bind]
  exact met.either metNext fun _ _ _ => trivial

/-- Giving a value is a success. -/
theorem gives_pure {value : α} {post : α → Machine → Prop} (holds : post value machine) :
    Gives (pure value) machine post :=
  (ends_pure _ _ _).mpr holds

/-- Failing is no success. -/
theorem gives_throw (fault : Fault) (post : α → Machine → Prop) :
    Gives (throw fault) machine post :=
  (ends_throw _ _ _).mpr trivial

/-- Work that leads along a relation may come first, and the relation then reaches further. -/
theorem Along.gives_bind {rel : Machine → Machine → Prop} [IsPreorder Machine rel]
    {start : Machine} {first : VmM α} {next : α → VmM β} {post : β → Machine → Prop}
    (along : Along rel first) (reached : rel start machine)
    (metNext : ∀ value after, rel start after → Gives (next value) after post) :
    Gives (first >>= next) machine post := by
  -- If the first piece fails there is nothing to meet.
  rw [Gives, ends_bind]
  refine (along machine).mono ?_
  intro outcome after leads
  cases outcome with
  | ok value => exact metNext value after (IsTrans.trans _ _ _ reached leads)
  | error fault => trivial

end VmM

/-- The slots from one on hold messages, one after the other, and nothing else up to the last. -/
def HoldsMessages (slots : Array Address) (stop : Nat) : Nat → List Message → Prop
  | start, [] => start = stop
  | start, message :: rest =>
    slots[start]?.map (·.offset) = some message.selector ∧ message.argp = start + 1 ∧
      slots[start + 1]?.map (·.offset.toNat) = some message.argc ∧
      HoldsMessages slots stop (start + 2 + message.argc) rest

/-- The slot of the number of arguments of the last message that begins between two slots. -/
def lastCount (slots : Array Address) (start top : Nat) : Nat :=
  (((readMessages? slots start top).bind (·.1.getLast?)).map Message.argp).getD (start + 1)

/-- The slots of the stack once the arguments that wait are counted into the last message. -/
def withRest (slots : Array Address) (start words rest : Nat) : Array Address :=
  if rest = 0 then slots else slots.modify (lastCount slots start (start + words)) (·.shift rest)

section Messages

variable {slots : Array Address} {start stop : Nat} {messages : List Message}

/-- Messages end where they begin or after that. -/
theorem HoldsMessages.le (holds : HoldsMessages slots stop start messages) : start ≤ stop := by
  -- Induction on the messages, each of which takes some slots.
  induction messages generalizing start with
  | nil => exact Nat.le_of_eq holds
  | cons message rest ih =>
    obtain ⟨_, _, _, others⟩ := holds
    have := ih others
    omega

/-- A message is counted by a word, in a slot below the one where reading messages stops. -/
theorem bounds_of_readMessages? {top : Nat}
    (read : readMessages? slots start top = some (messages, stop)) :
    ∀ message ∈ messages, message.argp < top ∧ message.argc < 65536 := by
  -- A message is read only where both of its words are below.
  fun_induction readMessages? slots start top generalizing messages stop with
  | case1 start room selector count foundCount found argc =>
    rename_i ih
    obtain ⟨⟨rest, last⟩, readRest, same⟩ := Option.map_eq_some_iff.mp read
    rw [Prod.mk.injEq] at same
    rw [← same.1]
    intro message member
    rcases List.mem_cons.mp member with rfl | later
    · exact ⟨room, count.offset.toNat_lt⟩
    · exact ih readRest message later
  | case2 start room missing => simp at read
  | case3 start full =>
    rw [Option.some.injEq, Prod.mk.injEq] at read
    simp [← read.1]

/-- Messages that fill the slots are the messages that are read. -/
theorem HoldsMessages.read (holds : HoldsMessages slots stop start messages) :
    readMessages? slots start stop = some (messages, stop) := by
  induction messages generalizing start with
  | nil =>
    obtain rfl : start = stop := holds
    rw [readMessages?, dif_neg (by omega)]
  | cons message rest ih =>
    -- The reader stops at the end, so it has to be shown that a message starts before it.
    obtain ⟨selected, place, counted, others⟩ := holds
    obtain ⟨selector, foundSelector, sameSelector⟩ := Option.map_eq_some_iff.mp selected
    obtain ⟨count, foundCount, sameCount⟩ := Option.map_eq_some_iff.mp counted
    have room := others.le
    rw [readMessages?, dif_pos (by omega), foundSelector, foundCount]
    simp only [sameSelector, sameCount, ih others, ← place, Option.map_some]

/-- Counting further arguments into the last of several messages makes them longer by these. -/
theorem HoldsMessages.extend {before : List Message} {last : Message} {rest : Nat}
    (holds : HoldsMessages slots stop start (before ++ [last])) (small : last.argc + rest < 65536) :
    start < last.argp ∧ HoldsMessages (slots.modify last.argp (·.shift rest)) (stop + rest) start
      (before ++ [{ last with argc := last.argc + rest }]) := by
  -- Only the count of the last message is changed, and it comes after all else that is read.
  induction before generalizing start with
  | nil =>
    obtain ⟨selected, place, counted, ends⟩ := holds
    obtain ⟨count, found, same⟩ := Option.map_eq_some_iff.mp counted
    -- The count stays within a word, so adding to it is the sum.
    have sum : (count.shift rest).offset.toNat = last.argc + rest := by
      rw [← same] at small ⊢
      simp only [Address.shift, wordOfInt, UInt16.toNat_ofNat']
      omega
    refine ⟨by omega, ?_, place, ?_, ?_⟩
    · rw [Array.getElem?_modify, if_neg (by omega)]
      exact selected
    · rw [Array.getElem?_modify, if_pos place, found]
      simp [sum]
    · have stops : start + 2 + last.argc = stop := ends
      show start + 2 + (last.argc + rest) = stop + rest
      omega
  | cons message others ih =>
    obtain ⟨selected, place, counted, further⟩ := holds
    obtain ⟨after, extended⟩ := ih further
    refine ⟨by omega, ?_, place, ?_, extended⟩
    · rw [Array.getElem?_modify, if_neg (by omega)]
      exact selected
    · rw [Array.getElem?_modify, if_neg (by omega)]
      exact counted

/-- Of several messages, the last one is where further arguments are counted. -/
theorem HoldsMessages.lastCount_eq {before : List Message} {last : Message}
    (holds : HoldsMessages slots stop start (before ++ [last])) :
    lastCount slots start (start + (stop - start)) = last.argp := by
  -- The walk over the messages stops at the last one.
  have whole : start + (stop - start) = stop := by
    have := holds.le
    omega
  simp [lastCount, whole, holds.read]

/-- Where messages are followed by the arguments that wait, the last message gets them. -/
theorem HoldsMessages.withRest {before : List Message} {last : Message} {rest : Nat}
    (holds : HoldsMessages slots stop start (before ++ [last])) (small : last.argc + rest < 65536) :
    HoldsMessages (withRest slots start (stop - start) rest) (stop + rest) start
      (before ++ [{ last with argc := last.argc + rest }]) := by
  unfold AdventureVm.withRest
  split
  · rename_i none
    subst none
    exact holds
  · -- The place where the count is changed is that of the last message.
    rw [holds.lastCount_eq]
    exact (holds.extend small).2

/-- Where arguments are counted into the last of several messages, all else stays as it is. -/
theorem HoldsMessages.getElem?_withRest {before : List Message} {last : Message} {place : Nat}
    (holds : HoldsMessages slots stop start (before ++ [last])) (other : place ≠ last.argp)
    (rest : Nat) :
    (AdventureVm.withRest slots start (stop - start) rest)[place]? = slots[place]? := by
  -- Without waiting arguments nothing is written, else the count of the last message is.
  unfold AdventureVm.withRest
  split
  · rfl
  · rw [holds.lastCount_eq, Array.getElem?_modify, if_neg (Ne.symm other)]

/-- The arguments of the last of several messages end where the messages do. -/
theorem HoldsMessages.stop_eq {before : List Message} {last : Message}
    (holds : HoldsMessages slots stop start (before ++ [last])) :
    last.argp + 1 + last.argc = stop := by
  -- The messages lie end to end, so those before the last are passed over one by one.
  induction before generalizing start with
  | nil =>
    obtain ⟨_, place, _, ends⟩ := holds
    rw [place]
    exact ends
  | cons message others ih =>
    obtain ⟨_, _, _, further⟩ := holds
    exact ih further

end Messages

/-- The message means something. -/
def Message.isResolved (meaning : UInt16 → Except Fault SelectorLookup) (message : Message) :
    Bool :=
  match meaning message.selector with
  | .ok found => found.isFound
  | .error _ => false

/-- The frame is the one in which a message is answered, given what selectors mean. -/
structure Frame.Answers (meaning : UInt16 → Except Fault SelectorLookup) (target work : Address)
    (top : Nat) (message : Message) (frame : Frame) : Prop where
  /-- The frame has the stack above the messages for itself. -/
  sp : frame.sp = top
  /-- Its temporary variables are there as well. -/
  fp : frame.fp = top
  /-- The arguments are those of the message. -/
  argp : frame.argp = message.argp
  /-- There are as many of them as the message says. -/
  argc : frame.argc = message.argc
  /-- The current object is the one that gives the properties. -/
  objp : frame.objp = work
  /-- The message was sent to the target. -/
  sendp : frame.sendp = target
  /-- The selector is that of the message. -/
  selector : frame.selector = some message.selector
  /-- The frame runs the method or stands for the property that the selector means. -/
  means : (∃ owner, meaning message.selector = .ok (.method frame.pc owner) ∧
      frame.kind = .method) ∨
    ∃ receiver index, meaning message.selector = .ok (.variable receiver index) ∧
      frame.kind = .variable index

namespace Machine

/-- The machine has the same frames and stacks, and selectors mean the same. -/
structure Spares (before after : Machine) : Prop where
  /-- The frames are the same. -/
  frames : after.context.frames = before.context.frames
  /-- The operand stack is in the same segment. -/
  stackSegment : after.context.stackSegment = before.context.stackSegment
  /-- The objects differ in their last messages at most. -/
  objects : before.store.heap.SameObjects after.store.heap
  /-- The stacks are the same. -/
  slots : ∀ place slots, before.store.heap.HasStack place slots →
    after.store.heap.HasStack place slots

instance : IsPreorder Machine Spares where
  refl _ := ⟨rfl, rfl, refl _, fun _ _ has => has⟩
  trans _ _ _ first second :=
    ⟨second.frames.trans first.frames, second.stackSegment.trans first.stackSegment,
      IsTrans.trans _ _ _ first.objects second.objects,
      fun place slots has => second.slots place slots (first.slots place slots has)⟩

section Answering

variable {machine : Machine} {target work : Address} {top : Nat}

/-- Recording something spares frames, stacks and objects. -/
theorem note_spares (level : Level) (text : String) : Along Spares (VmM.note level text) := by
  -- The journal is neither a frame, nor a stack, nor an object.
  intro machine
  rw [VmM.note, ends_store, StoreM.leads_note]
  exact ⟨rfl, rfl, refl _, fun _ _ has => has⟩

/-- Loading the accumulator spares frames, stacks and objects. -/
theorem setAcc_spares (value : Address) : Along Spares (setAcc value) := by
  -- The accumulator is a register; memory is not touched.
  intro machine
  rw [setAcc, ends_modifyContext]
  exact ⟨rfl, rfl, refl _, fun _ _ has => has⟩

/-- The warning about an overrun spares frames, stacks and objects. -/
theorem warnOverrun_spares (target : Address) (excess : Nat) :
    Along Spares (warnOverrun target excess) := by
  -- Memory is read, and what is found goes to the journal.
  have records (records : List Record) : Along Spares (VmM.store (StoreM.record records)) := by
    intro machine
    rw [ends_store, StoreM.leads_record]
    exact ⟨rfl, rfl, refl _, fun _ _ has => has⟩
  refine (along_read _).bind fun found => (records found).bind fun _ => ?_
  exact (along_read _).bind fun _ => note_spares _ _

/-- A selector is looked up. -/
theorem gives_resolve (target : Address) (selector : UInt16) (machine : Machine) :
    Gives (VmM.store (Store.resolve target selector)) machine fun found after =>
      machine.store.heap.lookup target selector = .ok found ∧ machine.Spares after := by
  -- The lookup reads memory and writes what it came across to the journal.
  rw [Gives, ends_store, Store.resolve, StoreM.noted, leads_bind, StoreM.leads_require]
  unfold Heap.lookup
  cases machine.store.heap.resolve target selector with
  | error fault => trivial
  | ok found => exact ⟨rfl, rfl, rfl, refl _, fun _ _ has => has⟩

/-- A method answers above the messages. -/
theorem gives_methodFrame (target work pc : Address) (top : Nat) (message : Message)
    (machine : Machine) :
    Gives (methodFrame target work pc top message) machine fun frame after =>
      (∃ locals, frame = {
        kind := .method, pc, sp := top, fp := top, argp := message.argp, argc := message.argc
        objp := work, sendp := target, locals, selector := some message.selector }) ∧
      machine.Spares after := by
  rw [Gives, methodFrame, ends_bind, ends_require]
  cases machine.store.heap.script pc.segment with
  | error fault => trivial
  | ok script =>
    simp only [either_ok, ends_bind, ends_store, StoreM.leads_change, ends_pure]
    -- The receiver remembers the message, and that is all that changes in memory.
    refine ⟨⟨script.localsSegment, rfl⟩, rfl, rfl, ?_, ?_⟩
    · exact Heap.sameObjects_modifyObject _ target fun _ => rfl
    · exact fun place slots has => has.modify rfl

/-- A message that means something gets a frame, and any other is passed over. -/
theorem gives_answer? (target work : Address) (top : Nat) (message : Message)
    (machine : Machine) :
    Gives (answer? target work top message) machine fun found after =>
      List.Forall₂ (Frame.Answers (machine.store.heap.lookup target) target work top)
        ([message].filter (Message.isResolved (machine.store.heap.lookup target))) found.toList ∧
      machine.Spares after := by
  refine (gives_resolve target message.selector machine).bind ?_
  rintro found between ⟨meaning, spares⟩
  have resolved : message.isResolved (machine.store.heap.lookup target) = found.isFound := by
    rw [Message.isResolved, meaning]
  -- What the selector means decides whether a frame answers, and of which kind.
  cases found with
  | method pc owner =>
    refine (gives_methodFrame target work pc top message between).bind ?_
    rintro frame after ⟨⟨locals, rfl⟩, further⟩
    refine gives_pure ⟨?_, IsTrans.trans _ _ _ spares further⟩
    rw [List.filter_singleton, resolved]
    exact .cons ⟨rfl, rfl, rfl, rfl, rfl, rfl, rfl, .inl ⟨owner, meaning, rfl⟩⟩ .nil
  | «variable» receiver index =>
    refine gives_pure ⟨?_, spares⟩
    rw [List.filter_singleton, resolved]
    exact .cons ⟨rfl, rfl, rfl, rfl, rfl, rfl, rfl, .inr ⟨receiver, index, meaning, rfl⟩⟩ .nil
  | notFound =>
    -- A machine that is lenient makes a remark and clears the accumulator, and that is all.
    have asks : Along Spares (selectorNotFound target message.selector) :=
      (along_setup _).bind fun _ => along_pure _
    refine asks.gives_bind spares fun fault asked spares => ?_
    refine (along_setup _).gives_bind spares fun lenient given spares => ?_
    split
    · refine (note_spares _ _).gives_bind spares fun _ noted spares => ?_
      refine (setAcc_spares _).gives_bind spares fun _ cleared spares => gives_pure ⟨?_, spares⟩
      rw [List.filter_singleton, resolved]
      exact .nil
    · exact gives_throw _ _

/-- The messages that mean something get a frame each, in order. -/
theorem gives_answers (target work : Address) (top : Nat) (messages : List Message)
    (machine : Machine) :
    Gives (answers target work top messages) machine fun frames after =>
      List.Forall₂ (Frame.Answers (machine.store.heap.lookup target) target work top)
        (messages.filter (Message.isResolved (machine.store.heap.lookup target))) frames ∧
      machine.Spares after := by
  induction messages generalizing machine with
  | nil => exact gives_pure ⟨.nil, refl machine⟩
  | cons message rest ih =>
    refine (gives_answer? target work top message machine).bind ?_
    rintro first between ⟨answersFirst, spares⟩
    refine (ih between).bind ?_
    rintro others after ⟨answersOthers, further⟩
    -- The first message did not change what the selectors of the others mean.
    rw [funext (spares.objects.lookup target)] at answersOthers
    refine gives_pure ⟨?_, IsTrans.trans _ _ _ spares further⟩
    rw [← List.singleton_append, List.filter_append]
    exact List.rel_append answersFirst answersOthers

end Answering

section Sending

variable {machine : Machine} {current : Frame} {callers : List Frame}

/-- Frames are started so that the first of them is the current one. -/
theorem gives_pushFrames (frames : List Frame) (machine : Machine) :
    Gives (pushFrames frames) machine fun _ after =>
      after.context.frames.list = frames ++ machine.context.frames.list ∧
      after.context.stackSegment = machine.context.stackSegment ∧ after.store = machine.store := by
  -- The last frame is started first, so the others are there when a frame is pushed.
  induction frames with
  | nil => exact gives_pure ⟨rfl, rfl, rfl⟩
  | cons frame rest ih =>
    refine ih.bind ?_
    rintro _ between ⟨list, segment, store⟩
    apply ends_pushFrame
    · exact fun _ => trivial
    · refine ⟨?_, segment, store⟩
      rw [Context.push, FrameStack.list_push, list, List.cons_append]

/-- The current frame is looked at. -/
theorem ends_frame_of_cons (frames : machine.context.frames.list = current :: callers)
    (post : Except Fault Frame → Machine → Prop) :
    Ends frame machine post ↔ post (.ok current) machine :=
  ends_of_eq (run_frame (current?_of_cons frames)) post

/-- A question about the operand stack is answered, or fails. -/
theorem ends_operands {α : Type} (query : Array Address → α)
    (post : Except Fault α → Machine → Prop) :
    Ends (operands query) machine post ↔
      post ((machine.store.heap.stack machine.context.stackSegment).map query) machine := by
  simp only [operands, ends_bind, ends_context, either_ok, ends_require]

/-- What is read from the operand stack is on it. -/
theorem gives_operands? {α : Type} (query : Array Address → Option α) (machine : Machine) :
    Gives (operands? query) machine fun value after => after = machine ∧
      ∃ slots, machine.store.heap.HasStack machine.context.stackSegment slots ∧
        query slots = some value := by
  rw [Gives, operands?, ends_bind, ends_operands]
  -- Without a stack, or when the question has no answer, the work fails and nothing is claimed.
  cases found : machine.store.heap.stack machine.context.stackSegment with
  | error fault => trivial
  | ok slots =>
    rw [Except.map, either_ok]
    cases value : query slots with
    | none => exact (ends_throw _ _ _).mpr trivial
    | some value =>
      exact (ends_pure _ _ _).mpr ⟨rfl, slots, Heap.stack_eq_ok.mp found, value⟩

/-- How a machine stands once the messages between two slots of its stack are sent. -/
structure Sent (target work : Address) (slots : Array Address) (base top : Nat)
    (started : List Frame) (after : Machine) : Prop where
  /-- The messages are still on the stack. -/
  stack : after.store.heap.HasStack after.context.stackSegment slots
  /-- Each message that means something got a frame, in order. -/
  answers : ∀ messages stop, readMessages? slots base top = some (messages, stop) →
    List.Forall₂ (Frame.Answers (after.store.heap.lookup target) target work top)
      (messages.filter (Message.isResolved (after.store.heap.lookup target))) started
  /-- No frame is given more arguments than a word can count. -/
  short : ∀ frame ∈ started, frame.argc < 65536

/-- Messages that were read are taken from the sender, and the frames that answer them start. -/
theorem gives_start_answers {slots : Array Address} {messages : List Message}
    {base words stop : Nat} (frames : machine.context.frames.list = current :: callers)
    (has : machine.store.heap.HasStack machine.context.stackSegment slots)
    (read : readMessages? slots base (base + words) = some (messages, stop))
    (target work : Address) :
    Gives (do
      setStackPointer base
      pushFrames (← answers target work (base + words) messages)) machine fun _ after =>
      ∃ started, after.context.frames.list = started ++ { current with sp := base } :: callers ∧
        after.store.heap.classes = machine.store.heap.classes ∧
        after.Sent target work slots base (base + words) started := by
  rw [Gives, setStackPointer, modifyFrame, ends_bind, ends_modifyContext, either_ok]
  refine (gives_answers target work (base + words) messages _).bind ?_
  rintro started between ⟨answered, spares⟩
  refine (gives_pushFrames started between).mono ?_
  rintro _ after ⟨list, segment, store⟩
  refine ⟨started, ?_, ?_, ?_, ?_, ?_⟩
  · rw [list, spares.frames, Context.modifyCurrent, FrameStack.list_modifyCurrent, frames]
    rfl
  · rw [store]
    exact spares.objects.classes
  · rw [store, segment, spares.stackSegment]
    exact spares.slots _ _ has
  · -- What was read is what the stack still holds, and selectors mean what they meant.
    intro others otherStop readToo
    rw [read, Option.some.injEq, Prod.mk.injEq] at readToo
    rw [← readToo.1, store, funext (spares.objects.lookup target)]
    exact answered
  · -- The arguments of each message lie among the words that were sent.
    intro frame member
    obtain ⟨index, inside, rfl⟩ := List.getElem_of_mem member
    have answers := answered.get (answered.length_eq ▸ inside) inside
    rw [List.get_eq_getElem, List.get_eq_getElem] at answers
    rw [answers.argc]
    exact (bounds_of_readMessages? read _ (List.mem_filter.mp (List.getElem_mem _)).1).2

/-- Sending messages takes them from the sender and starts the frames that answer them. -/
theorem gives_dispatch (frames : machine.context.frames.list = current :: callers)
    (target work : Address) (base words : Nat) :
    Gives (dispatch target work base words) machine fun _ after => ∃ started slots,
      after.context.frames.list = started ++ { current with sp := base } :: callers ∧
      after.store.heap.classes = machine.store.heap.classes ∧
      machine.store.heap.HasStack machine.context.stackSegment slots ∧
      after.Sent target work slots base (base + words) started := by
  refine (gives_operands? _ machine).bind ?_
  rintro ⟨messages, stop⟩ after ⟨same, slots, has, read⟩
  subst after
  -- The warning about an overrun changes nothing that matters here.
  have sends {between : Machine} (spares : machine.Spares between) : Gives (do
      setStackPointer base
      pushFrames (← answers target work (base + words) messages)) between fun _ after =>
      ∃ started slots,
        after.context.frames.list = started ++ { current with sp := base } :: callers ∧
        after.store.heap.classes = machine.store.heap.classes ∧
        machine.store.heap.HasStack machine.context.stackSegment slots ∧
        after.Sent target work slots base (base + words) started := by
    have still : between.store.heap.HasStack between.context.stackSegment slots := by
      rw [spares.stackSegment]
      exact spares.slots _ _ has
    have framesToo : between.context.frames.list = current :: callers := by
      rw [spares.frames, frames]
    refine (gives_start_answers framesToo still read target work).mono ?_
    rintro _ after ⟨started, list, classes, sent⟩
    exact ⟨started, slots, list, classes.trans spares.objects.classes, has, sent⟩
  dsimp only
  split
  · exact (warnOverrun_spares _ _).gives_bind (refl machine) fun _ _ spares => sends spares
  · exact sends (refl machine)

/-- The words on top of the stack of the current frame end where that stack does. -/
theorem gives_stackBase (frames : machine.context.frames.list = current :: callers)
    (words : Nat) : Gives (stackBase words) machine fun base after =>
      after = machine ∧ base + words = current.sp := by
  rw [Gives, stackBase, ends_bind, ends_frame_of_cons frames, either_ok, ends_bind, ends_operands]
  cases machine.store.heap.stack machine.context.stackSegment with
  | error fault => trivial
  | ok slots =>
    rw [Except.map, either_ok]
    -- Too few words are a failure; else what is left below them is the answer.
    split
    · exact (ends_bind _ _ _ _).mpr ((ends_throw _ _ _).mpr trivial)
    · refine (ends_pure _ _ _).mpr ⟨rfl, ?_⟩
      omega

/-- A value is stored into a slot of the operand stack, and into no other. -/
theorem gives_stackSet (index : Nat) (value : Address) (machine : Machine) :
    Gives (stackSet index value) machine fun _ after =>
      after.context = machine.context ∧ after.setup = machine.setup ∧ after.store.heap =
        machine.store.heap.setStackSlot machine.context.stackSegment index value ∧
      ∀ slots, machine.store.heap.HasStack machine.context.stackSegment slots →
        index < slots.size := by
  rw [Gives, stackSet, ends_bind, ends_operands]
  cases found : machine.store.heap.stack machine.context.stackSegment with
  | error fault => trivial
  | ok slots =>
    rw [Except.map, either_ok]
    -- The index was compared with the size before anything was stored.
    split
    · exact (ends_bind _ _ _ _).mpr ((ends_throw _ _ _).mpr trivial)
    · rename_i inside
      rw [ends_bind, ends_context, either_ok, ends_store, StoreM.leads_change]
      refine ⟨rfl, rfl, rfl, fun others has => ?_⟩
      rw [has.unique (Heap.stack_eq_ok.mp found)] at inside
      exact Nat.lt_of_not_le inside

/-- Arguments that wait are counted into the last of the messages. -/
theorem gives_extendLastMessage (base words rest : Nat) (machine : Machine) :
    Gives (extendLastMessage base words rest) machine fun _ after =>
      after.context = machine.context ∧
      after.store.heap.classes = machine.store.heap.classes ∧
      ∀ slots, machine.store.heap.HasStack machine.context.stackSegment slots →
        after.store.heap.HasStack machine.context.stackSegment
          (slots.modify (lastCount slots base (base + words)) (·.shift rest)) := by
  refine (gives_operands? _ machine).bind ?_
  rintro ⟨messages, stop⟩ after ⟨same, slots, has, read⟩
  subst after
  refine (gives_operands? _ machine).bind ?_
  rintro value after ⟨same, others, hasToo, found⟩
  subst after
  refine (gives_stackSet _ _ machine).mono ?_
  rintro _ after ⟨context, _, heap, _⟩
  refine ⟨context, by rw [heap]; rfl, ?_⟩
  intro stack hasStack
  -- There is one stack, from which all was read.
  rw [hasStack.unique has] at read
  rw [hasStack.unique hasToo] at found
  have place : (messages.getLast?.map Message.argp).getD (base + 1) =
      lastCount stack base (base + words) := by
    rw [lastCount, read]
    rfl
  rw [place] at heap found
  rw [heap]
  exact hasStack.setSlot found (·.shift rest)

/-- Sending the messages on top of the stack takes them from the sender, together with the arguments
that wait, and starts the frames that answer them. -/
theorem gives_sendMessages (frames : machine.context.frames.list = current :: callers)
    (target work : Address) (bytes : Nat) :
    Gives (sendMessages target work bytes) machine fun _ after => ∃ base started,
      base + (bytes / 2 + machine.context.rest) = current.sp ∧
      after.context.frames.list = started ++ { current with sp := base } :: callers ∧
      after.store.heap.classes = machine.store.heap.classes ∧
      ∀ slots, machine.store.heap.HasStack machine.context.stackSegment slots →
        after.Sent target work (withRest slots base (bytes / 2) machine.context.rest) base
          current.sp started := by
  rw [Gives, sendMessages, ends_bind, ends_takeRest, either_ok]
  have framesToo : ({ machine with context := { machine.context with rest := 0 } } :
      Machine).context.frames.list = current :: callers := frames
  refine Gives.bind (gives_stackBase framesToo _) ?_
  rintro base after ⟨same, fits⟩
  subst after
  dsimp only
  split
  · -- The last message is extended before the messages are read for good.
    rename_i waits
    refine (gives_extendLastMessage base (bytes / 2) _ _).bind ?_
    rintro _ between ⟨context, classes, extended⟩
    have framesThen : between.context.frames.list = current :: callers := by
      rw [context]
      exact frames
    refine (gives_dispatch framesThen target work base _).mono ?_
    rintro _ after ⟨started, slots, list, classesToo, has, sent⟩
    refine ⟨base, started, fits, list, classesToo.trans classes, ?_⟩
    intro original hasOriginal
    rw [context] at has
    rw [fits, (extended original hasOriginal).unique has] at sent
    rw [withRest, if_neg (Nat.ne_of_gt waits)]
    exact sent
  · -- Nothing waits, so the messages are read as they are.
    rename_i quiet
    refine (gives_dispatch framesToo target work base _).mono ?_
    rintro _ after ⟨started, slots, list, classes, has, sent⟩
    refine ⟨base, started, fits, list, classes, ?_⟩
    intro original hasOriginal
    rw [fits, hasOriginal.unique has] at sent
    rw [withRest, if_pos (Nat.eq_zero_of_not_pos quiet)]
    exact sent

end Sending

end Machine

end AdventureVm
