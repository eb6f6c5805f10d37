import AdventureVm.Proofs.Collector.Exactness
import AdventureVm.Proofs.Machine.PropertyMessages
import AdventureVm.Proofs.Machine.Waiting

/-!
What is called while values wait.

They are on top of the stack, behind the arguments of the call, and are taken to be its last
arguments.
-/

namespace AdventureVm

open VmM

/-- Slots hold values, one after the other. -/
def HoldsValues (slots : Array Address) (start : Nat) (values : List Address) : Prop :=
  ∀ index < values.length, slots[start + index]? = values[index]?

instance {slots : Array Address} {start : Nat} {values : List Address} :
    Decidable (HoldsValues slots start values) :=
  inferInstanceAs (Decidable (∀ index < values.length, _))

/-- The values are those of slots, one after the other, each once those before it are stored. -/
def Forwards (slots : Array Address) (source target : Nat) (values : List Address) : Prop :=
  ∀ index < values.length,
    (storeAll slots target (values.take index))[source + index]? = values[index]?

section Values

variable {slots later : Array Address} {start source target : Nat} {values : List Address}

/-- Slots that hold values go on to do so while they stay as they are. -/
theorem HoldsValues.same (holds : HoldsValues slots start values)
    (same : ∀ place, start ≤ place → later[place]? = slots[place]?) :
    HoldsValues later start values :=
  fun index inside => (same _ (Nat.le_add_right _ _)).trans (holds index inside)

/-- Values that were stored are held. -/
theorem holdsValues_storeAll (room : target + values.length ≤ slots.size) :
    HoldsValues (storeAll slots target values) target values :=
  fun _ inside => getElem?_storeAll room inside

/-- There is one row of values of a length. -/
theorem HoldsValues.unique {others : List Address} (holds : HoldsValues slots start values)
    (holdsToo : HoldsValues slots start others) (same : others.length = values.length) :
    others = values := by
  -- At each place both rows have what the slot there holds.
  apply List.ext_getElem?
  intro index
  by_cases inside : index < values.length
  · rw [← holds index inside, ← holdsToo index (same ▸ inside)]
  · rw [List.getElem?_eq_none (by omega), List.getElem?_eq_none (by omega)]

/-- Where the values are stored behind all that is read, what is read is what was there before. -/
theorem Forwards.holdsValues (forwards : Forwards slots source target values)
    (below : source + values.length ≤ target) : HoldsValues slots source values := by
  -- What is stored so far lies behind the slot that is read.
  intro index inside
  rw [← forwards index inside, getElem?_storeAll_of_lt (by omega)]

/-- Where nothing is to be forwarded, nothing is read. -/
theorem forwards_nil : Forwards slots source target [] :=
  fun _ inside => absurd inside (Nat.not_lt_zero _)

/-- A value that is stored first may be read with those that follow. -/
theorem forwards_cons {value : Address} (read : slots[source]? = some value)
    (forwards : Forwards (slots.setIfInBounds target value) (source + 1) (target + 1) values) :
    Forwards slots source target (value :: values) := by
  -- The first value is read before it is stored; the others are those of the assumption.
  intro index inside
  cases index with
  | zero => exact read
  | succ index =>
    have held := forwards index (by rw [List.length_cons] at inside; omega)
    rw [List.getElem?_cons_succ, ← held, List.take_succ_cons, storeAll, Nat.add_right_comm source]
    rfl

end Values

namespace Machine

variable {machine : Machine} {current : Frame} {callers : List Frame} {slots : Array Address}

/-- The machine has a stack with the given slots, and the given frames. -/
structure Stands (frames : List Frame) (slots : Array Address) (machine : Machine) : Prop where
  /-- The frames are these. -/
  frames : machine.context.frames.list = frames
  /-- The operand stack is this. -/
  stack : machine.store.heap.HasStack machine.context.stackSegment slots

section Pushing

/-- A value is pushed where there is room for it. -/
theorem gives_push (value : Address) (stands : machine.Stands (current :: callers) slots) :
    Gives (push value) machine fun _ after => current.sp < slots.size ∧
      after.Stands ({ current with sp := current.sp + 1 } :: callers)
        (slots.setIfInBounds current.sp value) := by
  rw [Gives, push, ends_bind, ends_frame_of_cons stands.frames, either_ok]
  refine (gives_stackSet _ _ machine).bind ?_
  rintro _ stored ⟨context, _, heap, room⟩
  rw [Gives, setStackPointer, modifyFrame, ends_modifyContext]
  -- The value was stored, so its slot exists.
  refine ⟨room slots stands.stack, ?_, ?_⟩
  · rw [context, Context.modifyCurrent, FrameStack.list_modifyCurrent, stands.frames]
    rfl
  · show stored.store.heap.HasStack stored.context.stackSegment _
    rw [heap, context]
    exact stands.stack.setStackSlot _ _

/-- The values of slots are pushed one after the other. -/
theorem gives_pushSlots (source count : Nat) (stands : machine.Stands (current :: callers) slots) :
    Gives (pushSlots source count) machine fun _ after => ∃ values, values.length = count ∧
      Forwards slots source current.sp values ∧ (count = 0 ∨ current.sp + count ≤ slots.size) ∧
      after.Stands ({ current with sp := current.sp + count } :: callers)
        (storeAll slots current.sp values) := by
  induction count generalizing machine current slots source with
  | zero => exact gives_pure ⟨[], rfl, forwards_nil, .inl rfl, stands⟩
  | succ count ih =>
    refine (gives_operands? _ machine).bind ?_
    rintro value read ⟨rfl, others, has, found⟩
    rw [stands.stack.unique has] at found
    refine (gives_push value stands).bind ?_
    rintro _ pushed ⟨room, standsThen⟩
    refine (ih (source + 1) standsThen).mono ?_
    -- The first value is on the stack before the others are read.
    rintro _ after ⟨values, length, forwards, enough, standsAfter⟩
    refine ⟨value :: values, by rw [List.length_cons, length], forwards_cons found forwards, ?_, ?_⟩
    · rw [Array.size_setIfInBounds] at enough
      rcases enough with rfl | enough
      · exact .inr room
      · exact .inr (by dsimp only at enough; omega)
    · have total : current.sp + 1 + count = current.sp + (count + 1) := by omega
      rw [← total]
      exact standsAfter

/-- A value is pushed where there is room for it, and nothing else is done. -/
theorem HasSlots.run_push (has : machine.HasSlots slots)
    (top : machine.context.current? = some current) (room : current.sp < slots.size)
    (value : Address) : push value machine =
      some (.ok (), (machine.withSlots (slots.setIfInBounds current.sp value)).withContext
        (machine.context.modifyCurrent fun frame => { frame with sp := current.sp + 1 })) := by
  -- The slot at the stack pointer is filled, then the pointer is moved on.
  rw [push, run_bind_of_ok (run_frame top), run_bind_of_ok (has.run_stackSet room value)]
  rfl

/-- Values of slots are pushed where there is room, and only the stack is changed in memory. -/
theorem Stands.run_pushSlots {source count : Nat}
    (stands : machine.Stands (current :: callers) slots) (inside : source + count ≤ slots.size)
    (room : current.sp + count ≤ slots.size) : ∃ after others,
      pushSlots source count machine = some (.ok (), after) ∧
      after.store.heap = machine.store.heap.withStack machine.context.stackSegment others := by
  -- Each value that is pushed moves the stack pointer, so machine and slots stay quantified over.
  induction count generalizing machine current slots source with
  | zero => exact ⟨machine, slots, rfl, stands.stack.withStack_self.symm⟩
  | succ count ih =>
    have top := current?_of_cons stands.frames
    have read : slots[source]? = some slots[source] := Array.getElem?_eq_getElem (by omega)
    have pushes := HasSlots.run_push stands.stack top (by omega) slots[source]
    obtain ⟨_, standsThen⟩ := gives_push slots[source] stands _ _ pushes
    have insideThen : source + 1 + count ≤ (slots.setIfInBounds current.sp slots[source]).size := by
      rw [Array.size_setIfInBounds]
      omega
    have roomThen : current.sp + 1 + count ≤
        (slots.setIfInBounds current.sp slots[source]).size := by
      rw [Array.size_setIfInBounds]
      omega
    obtain ⟨after, others, goesOn, heap⟩ := ih standsThen insideThen roomThen
    refine ⟨after, others, ?_, heap.trans (Heap.withStack_withStack _ _ _ _)⟩
    rw [pushSlots, stackGet, run_bind_of_ok (HasSlots.run_operands? stands.stack read),
      run_bind_of_ok pushes, goesOn]

end Pushing

end Machine

/-- The frame has been given the arguments, and they are where it looks for them. -/
structure Frame.Receives (slots : Array Address) (arguments : List Address) (frame : Frame) :
    Prop where
  /-- The frame knows how many there are. -/
  argc : frame.argc = arguments.length
  /-- They come after their number. -/
  held : HoldsValues slots (frame.argp + 1) arguments

namespace Machine

variable {machine : Machine} {current : Frame} {callers : List Frame} {slots : Array Address}
  {base : Nat}

/-- From a slot on there are the number of arguments, the arguments, and values that wait. -/
structure HasBlock (slots : Array Address) (base : Nat) (arguments values : List Address)
    (machine : Machine) : Prop where
  /-- The slot has the number of arguments, without the values that wait. -/
  counted : slots[base]?.map (·.offset.toNat) = some arguments.length
  /-- The values come right after the arguments. -/
  held : HoldsValues slots (base + 1) (arguments ++ values)
  /-- As many values wait. -/
  waiting : machine.context.rest = values.length

section Calling

variable {arguments values : List Address}

/-- The values that wait are counted, and nothing behind the number is changed. -/
theorem gives_callBase_block {bytes : Nat} (stands : machine.Stands (current :: callers) slots)
    (block : machine.HasBlock slots base arguments values)
    (place : base + (bytes / 2 + 1 + values.length) = current.sp) :
    Gives (callBase bytes) machine fun found after =>
      found = (base, (arguments ++ values).length) ∧
      after.context = { machine.context with rest := 0 } ∧ after.setup = machine.setup ∧
      ∃ later, after.store.heap.HasStack machine.context.stackSegment later ∧
        ∀ place, base < place → later[place]? = slots[place]? := by
  rw [Gives, callBase, ends_bind, ends_takeRest, either_ok]
  have standsToo : Stands (current :: callers) slots
      { machine with context := { machine.context with rest := 0 } } :=
    ⟨stands.frames, stands.stack⟩
  refine Gives.bind (gives_stackBase standsToo.frames _) ?_
  rintro found _ ⟨rfl, fits⟩
  rw [block.waiting] at fits ⊢
  -- The base is determined by the stack pointer and the number of words.
  obtain rfl : found = base := by omega
  refine (gives_operands? _ _).bind ?_
  rintro count _ ⟨rfl, others, has, read⟩
  rw [stands.stack.unique has] at read
  -- The number on the stack is that of the arguments alone.
  have counted := block.counted
  rw [read, Option.map_some, Option.some.injEq] at counted
  rw [counted, List.length_append]
  dsimp only
  split
  · refine (gives_stackSet _ _ _).bind ?_
    rintro _ stored ⟨context, setup, heap, _⟩
    refine gives_pure ⟨rfl, context, setup, _, heap ▸ stands.stack.setStackSlot found _, ?_⟩
    exact fun place behind => Array.getElem?_setIfInBounds_ne (Nat.ne_of_lt behind)
  · exact gives_pure ⟨rfl, rfl, rfl, slots, stands.stack, fun _ _ => rfl⟩

/-- A procedure that is called receives the arguments and the values that wait. -/
theorem gives_callProcedure_receives {bytes : Nat}
    (stands : machine.Stands (current :: callers) slots)
    (block : machine.HasBlock slots base arguments values)
    (place : base + (bytes / 2 + 1 + values.length) = current.sp) (target : Address)
    (locals : Option SegmentId) :
    Gives (callProcedure target bytes locals) machine fun _ after => ∃ callee later,
      after.Stands (callee :: { current with sp := base } :: callers) later ∧
      callee.kind = .call ∧ callee.Receives later (arguments ++ values) := by
  refine (gives_callBase_block stands block place).bind ?_
  -- The words of the call have been found, and the count below them includes what waited.
  rintro _ between ⟨rfl, context, _, later, has, same⟩
  have frames : between.context.frames.list = current :: callers := by
    rw [context]
    exact stands.frames
  dsimp only
  rw [Gives, ends_bind, ends_frame_of_cons frames, either_ok, ends_bind]
  apply ends_pushFrame
  · exact fun _ => trivial
  · rw [either_ok, ends_modifyContext]
    refine ⟨?callee, later, ⟨?list, ?stack⟩, ?kind, ?receives⟩
    case list =>
      simp only [Context.setCallerStackPointer, FrameStack.list_modifyCaller, Context.push,
        FrameStack.list_push, frames]
      rfl
    case stack =>
      show between.store.heap.HasStack between.context.stackSegment later
      rw [context]
      exact has
    case kind => rfl
    case receives => exact ⟨rfl, block.held.same fun place behind => same place (by omega)⟩

/-- An export that is called receives the arguments and the values that wait. -/
theorem gives_callExported_receives {bytes : Nat}
    (stands : machine.Stands (current :: callers) slots)
    (block : machine.HasBlock slots base arguments values)
    (place : base + (bytes / 2 + 1 + values.length) = current.sp) (number : UInt16)
    (index : Nat) :
    Gives (callExported number index bytes) machine fun _ after => ∃ callee later,
      after.Stands (callee :: { current with sp := base } :: callers) later ∧
      callee.kind = .call ∧ callee.Receives later (arguments ++ values) := by
  rw [Gives, callExported, ends_bind, ends_setup, either_ok, ends_bind, ends_store]
  -- Loading the script leaves the stack as it was.
  refine (Store.loadScript_upholds _ number machine.store stands.stack).either ?_
    fun _ _ _ => trivial
  intro id loaded has
  rw [either_ok, ends_bind, ends_require]
  cases loaded.heap.script id with
  | error fault => trivial
  | ok script =>
    rw [either_ok]
    cases script.export? index with
    | none => exact (ends_throw _ _ _).mpr trivial
    | some target =>
      have standsToo : Stands (current :: callers) slots { machine with store := loaded } :=
        ⟨stands.frames, has⟩
      have blockToo : HasBlock slots base arguments values { machine with store := loaded } :=
        ⟨block.counted, block.held, block.waiting⟩
      exact gives_callProcedure_receives standsToo blockToo place target _

/-- The values of neighbouring slots are read, and nothing else is done. -/
theorem gives_stackSlice (start count : Nat) (machine : Machine) :
    Gives (stackSlice start count) machine fun found after => after = machine ∧
      found.length = count ∧ ∀ slots,
        machine.store.heap.HasStack machine.context.stackSegment slots →
        HoldsValues slots start found := by
  -- The slice goes on one slot further, so the start stays quantified over.
  induction count generalizing start with
  | zero => exact gives_pure ⟨rfl, rfl, fun _ _ _ inside => absurd inside (Nat.not_lt_zero _)⟩
  | succ count ih =>
    refine (gives_operands? _ machine).bind ?_
    rintro value _ ⟨rfl, others, has, read⟩
    refine (ih (start + 1)).bind ?_
    rintro found _ ⟨rfl, length, held⟩
    refine gives_pure ⟨rfl, by rw [List.length_cons, length], fun slots hasToo index inside => ?_⟩
    rw [hasToo.unique has] at read
    cases index with
    | zero => exact read
    | succ index =>
      rw [List.length_cons] at inside
      rw [List.getElem?_cons_succ, ← held slots hasToo index (by omega), Nat.add_right_comm start]
      rfl

/-- The collection that may come before a kernel call leaves the operand stack as it is. -/
theorem gives_countKernelCall (sound : machine.store.heap.Sound)
    (stands : machine.Stands (current :: callers) slots) :
    Gives countKernelCall machine fun _ after => after.context = machine.context ∧
      after.setup = machine.setup ∧ after.Stands (current :: callers) slots := by
  rw [Gives, countKernelCall, ends_bind, ends_setup, either_ok]
  -- Collections may be switched off; else the count decides.
  split
  · exact (ends_pure _ _ _).mpr ⟨rfl, rfl, stands⟩
  · simp only [ends_bind, ends_status, ends_modifyStatus, either_ok]
    split
    · simp only [collectGarbage, ends_bind, ends_setup, ends_modifyStatus, ends_context,
        ends_storeState, either_ok, id_eq, ends_pure]
      have collected := Store.collected machine.store sound machine.context
      exact ⟨trivial, trivial, stands.frames, collected.stack_kept sound stands.stack⟩
    · exact (ends_pure _ _ _).mpr ⟨rfl, rfl, stands.frames, stands.stack⟩

/-- A kernel function was called with the arguments, while none waited, and gave its answer. -/
def AppliesKernel (run : Runner) (index : Nat) (arguments : List Address)
    (before after : Machine) : Prop :=
  ∃ entry awaiting answer worked, before.setup.kernel.get? index = some entry ∧
    awaiting.context.rest = 0 ∧ awaiting.status.state = .awaitingKernelCall ∧
    applyKernel run entry arguments awaiting = some (.ok answer, worked) ∧
    after.context.acc = answer

/-- A kernel function that is called receives the arguments and the values that wait. -/
theorem gives_callKernel_receives {bytes : Nat} (sound : machine.store.heap.Sound)
    (stands : machine.Stands (current :: callers) slots)
    (block : machine.HasBlock slots base arguments values)
    (place : base + (bytes / 2 + 1 + values.length) = current.sp) (run : Runner) (index : Nat) :
    Gives (callKernel run index bytes) machine fun _ after =>
      machine.AppliesKernel run index (arguments ++ values) after := by
  refine (gives_countKernelCall sound stands).bind ?_
  rintro _ counted ⟨context, setup, standsThen⟩
  have blockThen : counted.HasBlock slots base arguments values :=
    ⟨block.counted, block.held, by rw [context]; exact block.waiting⟩
  refine (gives_callBase_block standsThen blockThen place).bind ?_
  rintro _ found ⟨rfl, contextThen, setupThen, later, has, same⟩
  refine (gives_stackSlice _ _ found).bind ?_
  rintro received between ⟨rfl, length, held⟩
  -- What is read are the arguments and the values, because there are as many of them.
  have kept : HoldsValues later (base + 1) (arguments ++ values) :=
    blockThen.held.same fun place behind => same place (by omega)
  obtain rfl := kept.unique (held later (by rw [contextThen]; exact has)) length
  rw [Gives, ends_bind, ends_setup, either_ok, setupThen, setup]
  cases listed : machine.setup.kernel.get? index with
  | none => exact (ends_throw _ _ _).mpr trivial
  | some entry =>
    simp only [ends_bind, VmM.note, ends_store, StoreM.leads_note, either_ok, ends_context,
      setState, ends_modifyStatus, ends_outcome]
    -- Setting the accumulator and the stack pointer changes nothing of what was answered.
    intro result worked applied
    simp only [ends_modifyContext, ends_ofExcept, either_ok]
    cases result with
    | error fault => trivial
    | ok answer =>
      simp only [either_ok, setAcc, setStackPointer, modifyFrame, ends_modifyContext]
      refine ⟨entry, _, answer, worked, listed, ?_, rfl, applied, rfl⟩
      show between.context.rest = 0
      rw [contextThen]

end Calling

end Machine

end AdventureVm
