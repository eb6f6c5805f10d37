import AdventureVm.Proofs.Machine.Lasting
import AdventureVm.Proofs.Machine.PropertyMessages
import AdventureVm.Proofs.Machine.StackBounds
import AdventureVm.Proofs.Memory.Overwriting
import AdventureVm.Proofs.Memory.Tables

/-!
The address of a variable leads to the slot that the variable is kept in.

Instructions that access a variable index a table of variables or the operand stack. The address
counts two bytes for each slot and keeps sixteen bits of that, and what is stored at an address is
found by halving its offset again. Both come to the same slot, because no table of variables is
larger than offsets reach, and as long as the operand stack is not.
-/

namespace AdventureVm

open VmM

namespace Heap

/-- A slot for a value is in memory, within reach of offsets. -/
structure HasSlot (heap : Heap) (id : SegmentId) (index : Nat) (segment : Segment)
    (slots : Array Address) : Prop where
  found : heap.get? id = some segment
  table : segment.slots? = some slots
  inside : index < slots.size
  small : 2 * index < segmentLimit

namespace HasSlot

variable {heap : Heap} {id : SegmentId} {index : Nat} {segment : Segment} {slots : Array Address}

/-- The offset of a slot is twice its number. -/
theorem offset (has : heap.HasSlot id index segment slots) :
    (UInt16.ofNat (2 * index)).toNat = 2 * index :=
  UInt16.toNat_ofNat_of_lt' has.small

/-- The offset of a slot leads back to the slot. -/
theorem half (has : heap.HasSlot id index segment slots) :
    (UInt16.ofNat (2 * index)).toNat / 2 = index := by
  -- The slot is within reach, so twice its index is not cut off.
  rw [has.offset]
  omega

/-- The offset of a slot is even. -/
theorem even (has : heap.HasSlot id index segment slots) :
    (UInt16.ofNat (2 * index)).toNat % 2 = 0 := by
  -- The slot is within reach, so twice its index is not cut off.
  rw [has.offset]
  omega

/-- The value in a slot is read at the address of the slot. -/
theorem readValue (has : heap.HasSlot id index segment slots) {value : Address}
    (held : slots[index]? = some value) :
    heap.readValue ⟨id, .ofNat (2 * index)⟩ = .ok value := by
  -- The offset is twice the index, so halving it gives the slot.
  apply readValue_slot has.found has.table has.even
  show slots[(UInt16.ofNat (2 * index)).toNat / 2]? = some value
  rw [has.half, held]

/-- Where there are slots for values, values are not stored as words. -/
theorem storesWords (has : heap.HasSlot id index segment slots) (offset : UInt16) :
    heap.storesWords ⟨id, offset⟩ = false := by
  -- Stacks and tables of variables store values.
  rcases Segment.kind_of_slots has.table with kind | kind <;>
    simp [Heap.storesWords, kind?, has.found, kind]

/-- A value that is stored at the address of a slot is stored into the slot. -/
theorem writeValue (has : heap.HasSlot id index segment slots) (value : Address) :
    heap.writeValue ⟨id, .ofNat (2 * index)⟩ value =
      .ok (heap.put id (some (segment.withSlots (slots.setIfInBounds index value)))) := by
  apply (writeValue_slot (has.storesWords _)).mpr
  refine ⟨segment, slots, has.found, has.table, has.even, ?_, ?_⟩
  · -- The offset of the slot is halved when it is written, which gives the slot back.
    show (UInt16.ofNat (2 * index)).toNat / 2 < slots.size
    rw [has.half]
    exact has.inside
  · show _ = heap.put id (some (segment.withSlots
      (slots.setIfInBounds ((UInt16.ofNat (2 * index)).toNat / 2) value)))
    rw [has.half]

end HasSlot

/-- A table of variables is found in the segment that holds it. -/
theorem locals_eq_ok {heap : Heap} {id : SegmentId} {table : LocalsTable} :
    heap.locals id = .ok table ↔ heap.get? id = some (.locals table) := by
  unfold Heap.locals
  -- Any other segment, or none, is refused.
  split
  · rename_i found
    rw [found]
    simp
  · rename_i other
    simp only [reduceCtorEq, false_iff]
    exact other table

end Heap

namespace Store

/-- Storing at the address of a slot changes the slot and records nothing. -/
theorem run_writeValue_slot {store : Store} {id : SegmentId} {index : Nat} {segment : Segment}
    {slots : Array Address} (has : store.heap.HasSlot id index segment slots) (value : Address) :
    (writeValue ⟨id, .ofNat (2 * index)⟩ value).run store =
      (.ok (), store.mapHeap fun _ =>
        store.heap.put id (some (segment.withSlots (slots.setIfInBounds index value)))) := by
  -- A slot takes any value, so there is no warning to be recorded.
  have quiet : store.heap.writeRecords ⟨id, .ofNat (2 * index)⟩ value = [] := by
    simp [Heap.writeRecords, has.storesWords]
  have same : store.record [] = store :=
    congrArg (Store.mk store.heap) store.journal.append_empty
  rw [run_writeValue, quiet, same, StoreM.run_attempt, has.writeValue]

end Store

namespace Machine

variable {machine : Machine} {kind : VariableKind} {index : Nat}

/--
A machine has a variable: there are that many in the table that keeps it, or the operand stack has a
slot for it where the current frame keeps it.
-/
inductive HasVariable (machine : Machine) : VariableKind → Nat → Prop where
  | global {id : SegmentId} {table : LocalsTable} {index : Nat}
      (globals : machine.store.heap.globalsSegment? = some id)
      (found : machine.store.heap.get? id = some (.locals table))
      (inside : index < table.values.size) : HasVariable machine .global index
  | local {frame : Frame} {table : LocalsTable} {index : Nat}
      (top : machine.context.current? = some frame) (some_ : frame.locals ≠ 0)
      (found : machine.store.heap.get? frame.locals = some (.locals table))
      (inside : index < table.values.size) : HasVariable machine .local index
  | temp {frame : Frame} {slots : Array Address} {index : Nat}
      (top : machine.context.current? = some frame) (has : machine.HasSlots slots)
      (inside : frame.fp + index < slots.size) : HasVariable machine .temp index
  /-- The argument count comes before the arguments, as the parameter with number zero. -/
  | param {frame : Frame} {slots : Array Address} {index : Nat}
      (top : machine.context.current? = some frame) (has : machine.HasSlots slots)
      (given : index ≤ frame.argc) (inside : frame.argp + index < slots.size) :
      HasVariable machine .param index

/--
What is read and stored at an address is what is read from and stored into a variable.

Storing leads to the same memory on both ways, and to nothing else.
-/
structure NamesVariable (machine : Machine) (kind : VariableKind) (index : Nat)
    (address : Address) : Prop where
  read : ∃ value, readVariable kind index machine = some (.ok value, machine) ∧
    machine.store.heap.readValue address = .ok value
  write : ∀ value, ∃ heap,
    (Store.writeValue address value).run machine.store =
      (.ok (), machine.store.mapHeap fun _ => heap) ∧
    writeVariable kind index value machine =
      some (.ok (), { machine with store := machine.store.mapHeap fun _ => heap })

section Slots

/-- Only a parameter can be missing. -/
theorem run_isMissing_of_ne (other : kind ≠ .param) :
    isMissing kind index machine = some (.ok false, machine) := by
  -- The only kind with a test is excluded.
  unfold isMissing
  split
  · exact absurd rfl other
  · rfl

/-- A parameter that was given is not missing. -/
theorem run_isMissing_param {frame : Frame} (top : machine.context.current? = some frame)
    (given : index ≤ frame.argc) :
    isMissing .param index machine = some (.ok false, machine) := by
  -- The count includes the word in front, so the last parameter is the one with that index.
  rw [isMissing, run_bind_of_ok (run_frame top), decide_eq_false (Nat.not_lt_of_le given)]
  rfl

/-- The value of a variable that is not missing is what is in its slot. -/
theorem run_readVariable {slot : VariableSlot}
    (given : isMissing kind index machine = some (.ok false, machine))
    (kept : variableSlot kind index machine = some (.ok slot, machine)) :
    readVariable kind index machine = readSlot kind slot machine := by
  -- Only a missing parameter is answered without looking at a slot.
  rw [readVariable, run_bind_of_ok given]
  exact run_bind_of_ok kept _

/-- The value of a variable in a table is read from its slot. -/
theorem run_readVariable_table {id : SegmentId} {table : LocalsTable} {value : Address}
    (tabled : kind ≠ .temp ∧ kind ≠ .param)
    (kept : variableSlot kind index machine = some (.ok (.local id index), machine))
    (found : machine.store.heap.get? id = some (.locals table))
    (held : table.values[index]? = some value) :
    readVariable kind index machine = some (.ok value, machine) := by
  -- The variable is not missing and its slot is in a table, which is then read.
  rw [run_readVariable (run_isMissing_of_ne tabled.2) kept, readSlot, run_bind, run_require,
    Heap.locals_eq_ok.mpr found, Option.bind_some]
  dsimp only
  rw [held]
  rfl

/-- The address of a slot in a table names the variable that is kept there. -/
theorem namesVariable_table {id : SegmentId} {table : LocalsTable}
    (tabled : kind ≠ .temp ∧ kind ≠ .param)
    (kept : variableSlot kind index machine = some (.ok (.local id index), machine))
    (has : machine.store.heap.HasSlot id index (.locals table) table.values) :
    machine.NamesVariable kind index ⟨id, .ofNat (2 * index)⟩ where
  read := by
    have held := Array.getElem?_eq_getElem has.inside
    exact ⟨_, run_readVariable_table tabled kept has.found held, has.readValue held⟩
  write value := by
    -- Storing by index and storing by address replace the same slot.
    have stored : machine.store.heap.setLocal id index value =
        machine.store.heap.put id
          (some ((Segment.locals table).withSlots (table.values.setIfInBounds index value))) :=
      Heap.modify_eq_put has.found _
    refine ⟨_, Store.run_writeValue_slot has value, ?_⟩
    rw [writeVariable, run_bind_of_ok kept, ← stored]
    rfl

/-- The address of a slot of the operand stack names the variable that is kept there. -/
theorem namesVariable_stack {slots : Array Address} {slot : Nat} (has : machine.HasSlots slots)
    (given : isMissing kind index machine = some (.ok false, machine))
    (kept : variableSlot kind index machine = some (.ok (.stack slot), machine))
    (inside : slot < slots.size) (small : slots.size ≤ 32768) :
    machine.NamesVariable kind index ⟨machine.context.stackSegment, .ofNat (2 * slot)⟩ := by
  have hasSlot : machine.store.heap.HasSlot machine.context.stackSegment slot (.stack slots)
      slots :=
    { found := has
      table := rfl
      inside
      small := by
        show 2 * slot < 65536
        omega }
  constructor
  · -- Reading and storing by address and by variable both come to this slot.
    have held := Array.getElem?_eq_getElem inside
    refine ⟨slots[slot], ?_, hasSlot.readValue held⟩
    rw [run_readVariable given kept]
    exact has.run_operands? held
  · intro value
    refine ⟨_, Store.run_writeValue_slot hasSlot value, ?_⟩
    rw [writeVariable, run_bind_of_ok kept]
    exact has.run_stackSet inside value

/-- A variable in a table has a slot there. -/
theorem run_variableSlot_table {id : SegmentId} {table : LocalsTable}
    (tabled : kind ≠ .temp ∧ kind ≠ .param)
    (listed : localsTable? kind machine = some (.ok (some id), machine))
    (found : machine.store.heap.get? id = some (.locals table))
    (inside : index < table.values.size) :
    variableSlot kind index machine = some (.ok (.local id index), machine) := by
  unfold variableSlot
  -- The first two kinds are kept on the stack.
  split
  · exact absurd rfl tabled.1
  · exact absurd rfl tabled.2
  · rw [run_bind_of_ok listed]
    dsimp only
    rw [run_bind, run_require, Heap.locals_eq_ok.mpr found, Option.bind_some]
    dsimp only
    rw [if_neg (Nat.not_le_of_lt inside)]
    rfl

/-- A table of variables that is in memory is found by its kind. -/
theorem run_localsTable_global {id : SegmentId}
    (globals : machine.store.heap.globalsSegment? = some id) :
    localsTable? .global machine = some (.ok (some id), machine) := by
  -- Globals are looked up by their script, not by the frame.
  show some (Except.ok machine.store.heap.globalsSegment?, machine) = _
  rw [globals]

/-- The current frame names the table of its local variables. -/
theorem run_localsTable_local {current : Frame} (top : machine.context.current? = some current)
    (some_ : current.locals ≠ 0) :
    localsTable? .local machine = some (.ok (some current.locals), machine) := by
  -- Local variables are looked up through the current frame.
  show (frame >>= fun found =>
    pure (if found.locals = 0 then none else some found.locals) : VmM _) machine = _
  rw [run_bind_of_ok (run_frame top), if_neg some_]
  rfl

end Slots

section Addresses

variable {word : UInt16} {operand : Nat}

/-- The address of a variable in a table is that of its slot. -/
theorem run_variableAddress_table {id : SegmentId}
    (tabled : kind ≠ .temp ∧ kind ≠ .param) (meant : VariableKind.ofBits (word.toNat / 2) = kind)
    (indexed : indexBy (word.toNat / 16 % 2 == 1) operand machine = some (.ok index, machine))
    (listed : localsTable? kind machine = some (.ok (some id), machine)) :
    variableAddress word operand machine = some (.ok ⟨id, .ofNat (2 * index)⟩, machine) := by
  -- Variables of frames are excluded, so the table is looked up and its slot is named.
  rw [variableAddress, run_bind_of_ok indexed, run_bind_of_ok (run_context _ _), meant]
  split
  · exact absurd rfl tabled.1
  · exact absurd rfl tabled.2
  · rw [run_bind_of_ok listed]
    rfl

/-- The address of a variable in a table names the variable. -/
theorem named_table {id : SegmentId} {table : LocalsTable}
    (tabled : kind ≠ .temp ∧ kind ≠ .param)
    (listed : localsTable? kind machine = some (.ok (some id), machine))
    (found : machine.store.heap.get? id = some (.locals table))
    (inside : index < table.values.size) (reach : machine.store.heap.WithinReach)
    (meant : VariableKind.ofBits (word.toNat / 2) = kind)
    (indexed : indexBy (word.toNat / 16 % 2 == 1) operand machine = some (.ok index, machine)) :
    ∃ address, variableAddress word operand machine = some (.ok address, machine) ∧
      machine.NamesVariable kind index address := by
  have has : machine.store.heap.HasSlot id index (.locals table) table.values :=
    { found
      table := rfl
      inside
      -- Tables are within reach, so the offset of the slot is no larger than a word.
      small := by
        have reachable := reach.tables id _ found table rfl
        omega }
  have kept := run_variableSlot_table tabled listed found inside
  exact ⟨_, run_variableAddress_table tabled meant indexed listed,
    namesVariable_table tabled kept has⟩

/-- The address of a variable that a machine has names the variable. -/
theorem HasVariable.named (has : machine.HasVariable kind index)
    (reach : machine.store.heap.WithinReach)
    (small : ∀ slots, machine.HasSlots slots → slots.size ≤ 32768)
    (meant : VariableKind.ofBits (word.toNat / 2) = kind)
    (indexed : indexBy (word.toNat / 16 % 2 == 1) operand machine = some (.ok index, machine)) :
    ∃ address, variableAddress word operand machine = some (.ok address, machine) ∧
      machine.NamesVariable kind index address := by
  -- Tables have their addresses from their segments, and the frame says where in the stack the
  -- others are.
  cases has with
  | global globals found inside =>
    exact named_table (by decide) (run_localsTable_global globals) found inside reach meant indexed
  | «local» top some_ found inside =>
    exact named_table (by decide) (run_localsTable_local top some_) found inside reach meant
      indexed
  | @temp frame slots _ top has inside =>
    have kept : variableSlot .temp index machine =
        some (.ok (.stack (frame.fp + index)), machine) := by
      rw [variableSlot, run_bind_of_ok (run_frame top)]
      rfl
    have given : isMissing .temp index machine = some (.ok false, machine) := rfl
    refine ⟨_, ?_, namesVariable_stack has given kept inside (small slots has)⟩
    rw [variableAddress, run_bind_of_ok indexed, run_bind_of_ok (run_context _ _), meant]
    dsimp only
    rw [run_bind_of_ok (run_frame top)]
    rfl
  -- The slot of a parameter that was given is counted from the argument pointer.
  | @param frame slots _ top has given inside =>
    have kept : variableSlot .param index machine =
        some (.ok (.stack (frame.argp + index)), machine) := by
      rw [variableSlot, run_bind_of_ok (run_frame top)]
      dsimp only
      rw [if_neg (Nat.not_lt_of_le given)]
      rfl
    refine ⟨_, ?_, namesVariable_stack has (run_isMissing_param top given) kept inside
      (small slots has)⟩
    rw [variableAddress, run_bind_of_ok indexed, run_bind_of_ok (run_context _ _), meant]
    dsimp only
    rw [run_bind_of_ok (run_frame top)]
    rfl

end Addresses

end Machine

namespace Store

/-- A change of memory does what some actions do, and brings no table too large for offsets. -/
def IsMeasured (change : Store → Store) : Prop :=
  ∀ store, ∃ actions : List Action, (∀ action ∈ actions, action.IsMeasured) ∧
    (change store).heap = (actions.foldl (fun store action => action.run store) store).heap

/-- Tables stay within reach when action follows action. -/
theorem actions_withinReach {actions : List Action} {store : Store}
    (measured : ∀ action ∈ actions, action.IsMeasured) (reach : store.heap.WithinReach) :
    (actions.foldl (fun store action => action.run store) store).heap.WithinReach := by
  -- Induction on the actions.
  induction actions generalizing store with
  | nil => exact reach
  | cons action rest ih =>
    apply ih fun action member => measured action (List.mem_cons_of_mem _ member)
    exact action.run_withinReach (measured action List.mem_cons_self) reach

/-- That tables are within reach lasts. -/
instance : Heap.Lasts Heap.WithinReach IsMeasured where
  opened reach := reach.opened
  develops reach develops := reach.develops develops
  collected context _ reach := collect_keeps freeAt_withinReach context reach
  changed measured reach := by
    obtain ⟨actions, each, same⟩ := measured _
    rw [same]
    exact actions_withinReach each reach

end Store

namespace Machine

/--
A machine that can occur: at the start, after anything that happens to a machine, after actions on
its memory from outside, and while or after a kernel function that was added is called.

Segments may be taken out in any order and functions added at any time. Tables of variables that
come from outside, or are changed by hand, are no larger than offsets reach.
-/
inductive Occurs : Machine → Prop where
  | start {config : Config} {resources : Resources} {machine : Machine}
      (started : start config resources = .ok machine) : Occurs machine
  | after {machine later : Machine} {event : Event} {outcome : Except Fault Unit}
      (occurs : Occurs machine) (ended : event.work machine = some (outcome, later)) : Occurs later
  | acted {machine : Machine} {action : Action} (occurs : Occurs machine)
      (measured : action.IsMeasured) :
      Occurs { machine with store := action.run machine.store }
  | equipped {machine : Machine} {kernel : KernelTable} (occurs : Occurs machine)
      (respects : kernel.Respects Store.IsMeasured) :
      Occurs { machine with setup := { machine.setup with kernel } }
  | called {machine later : Machine} {fuel : Nat} {entry : KernelEntry} {arguments : List Address}
      {outcome : Except Fault Address} (occurs : Occurs machine)
      (respects : entry.Respects Store.IsMeasured)
      (ended : applyKernel (runWithin fuel) entry arguments machine = some (outcome, later)) :
      Occurs later

/-- What arises when no function is added and memory is left to the machine can occur. -/
theorem Arises.occurs {machine : Machine} (arises : machine.Arises) : machine.Occurs := by
  -- Induction on the events.
  induction arises with
  | start started => exact .start started
  | after _ ended occurs => exact .after occurs ended

/-- Before anything is done there are no tables that could be too large. -/
theorem blank_withinReach (version : Version) (classes : ClassTable) (journal : Journal) :
    (Store.blank version classes journal).heap.WithinReach where
  opened := by simp [Store.blank]
  tables id segment found := by
    rw [Store.get?_blank] at found
    cases found

/-- In every machine that can occur, tables are within reach, and added functions keep that. -/
theorem Occurs.bears {machine : Machine} (occurs : machine.Occurs) :
    machine.Bears Heap.WithinReach Store.IsMeasured := by
  -- Each way to go on keeps memory within reach, and adds no function that would not.
  induction occurs with
  | start started =>
    have builtin := (start_bare started).2
    exact ⟨(blank_withinReach _ _ _).develops (start_develops started), builtin.respects⟩
  | after _ ended bears => exact Event.work_handsOn _ _ _ _ ended bears
  | acted _ measured bears => exact ⟨Action.run_withinReach measured bears.memory, bears.kernel⟩
  | equipped _ respects bears => exact ⟨bears.memory, respects⟩
  | called _ respects ended bears =>
    exact (grants_handsOn (runWithin_handsOn _)).applyKernel respects _ _ _ _ ended bears

/--
The address of a variable names the slot that the variable is read from and stored into.

So it is for every variable that a machine has, whether the accumulator is added or not, while the
operand stack is within reach of offsets. The variables of every script that can be loaded are.
-/
theorem variable_addresses_agree :
    (∀ machine : Machine, machine.Occurs →
      (∀ slots, machine.HasSlots slots → slots.size ≤ 32768) →
      ∀ (word : UInt16) (operand index : Nat),
        indexBy (word.toNat / 16 % 2 == 1) operand machine = some (.ok index, machine) →
        machine.HasVariable (.ofBits (word.toNat / 2)) index →
        ∃ address, variableAddress word operand machine = some (.ok address, machine) ∧
          machine.NamesVariable (.ofBits (word.toNat / 2)) index address) ∧
    ∀ (version : Version) (number : UInt16) (id : SegmentId) (bytes : Bytes) (heap : Option Bytes)
      (journal : Journal) (script : Script) (locals : Array Address),
      ((Script.load version number id bytes heap).run journal).1 = .ok (script, locals) →
      2 * locals.size ≤ segmentLimit := by
  refine ⟨?_, ?_⟩
  · intro machine occurs small word operand index indexed has
    exact has.named occurs.bears.memory small rfl indexed
  · intro version number id bytes heap journal script locals loaded
    have stages := Script.leads_load version number id bytes heap journal
    rw [Leads, loaded] at stages
    exact stages.withinReach

/-- A local variable and the argument count have addresses while a procedure runs. -/
theorem variable_addresses_agree_fourPushes :
    (∃ machine : Machine, machine.Occurs ∧
      (∃ address, variableAddress 2 0 machine = some (.ok address, machine) ∧
        machine.NamesVariable .local 0 address) ∧
      ∃ address, variableAddress 22 0 machine = some (.ok address, machine) ∧
        machine.NamesVariable .param 0 address) ∧
    ∃ bytes script, Resources.fourPushes.script? 1 = some bytes ∧
      ((Script.load .sci0 1 3 bytes none).run #[]).1 = .ok (script, #[.null]) ∧
      2 * #[Address.null].size ≤ segmentLimit := by
  have led : (afterEvents { stackSize := 4 } .fourPushes [.begin (.callExport 1 0 [])]).map
      (fun machine => (machine.context.acc, machine.context.current?,
        machine.store.heap.locals 4, machine.store.heap.stack machine.context.stackSegment)) =
      some (.null, some { kind := .call, pc := ⟨3, 16⟩, sp := 1, fp := 1, locals := 4 },
        .ok ⟨1, #[.null]⟩, .ok #[.null, .null, .null, .null]) := by
    decide +kernel
  obtain ⟨machine, ended, known⟩ := Option.map_eq_some_iff.mp led
  simp only [Prod.mk.injEq, Heap.locals_eq_ok, Heap.stack_eq_ok] at known
  obtain ⟨acc, top, table, stack⟩ := known
  have occurs := (arises_afterEvents ended).occurs
  -- The operand stack has four slots.
  have small (slots : Array Address) (has : machine.HasSlots slots) : slots.size ≤ 32768 := by
    rw [HasSlots, Heap.HasStack, stack] at has
    cases has
    decide
  refine ⟨⟨machine, occurs, ?_, ?_⟩, ?_⟩
  · exact variable_addresses_agree.1 machine occurs small 2 0 0 rfl
      (.local top (by decide) table (by decide))
  · -- The accumulator is zero, and is added.
    have indexed : indexBy true 0 machine = some (.ok 0, machine) := by
      rw [indexBy, if_pos rfl, run_bind_of_ok (run_context _ _), acc]
      rfl
    exact variable_addresses_agree.1 machine occurs small 22 0 0 indexed
      (.param top stack (by decide) (by decide))
  · have loads : (Resources.fourPushes.script? 1).map (fun bytes =>
        ((Script.load .sci0 1 3 bytes none).run #[]).1.map (·.2)) = some (.ok #[.null]) := by
      decide +kernel
    obtain ⟨bytes, offered, loaded⟩ := Option.map_eq_some_iff.mp loads
    -- The same script is loaded, with its one local variable.
    cases ended : ((Script.load .sci0 1 3 bytes none).run #[]).1 with
    | error fault =>
      rw [ended] at loaded
      cases loaded
    | ok parts =>
      obtain ⟨script, locals⟩ := parts
      rw [ended] at loaded
      obtain rfl : locals = #[.null] := Except.ok.inj loaded
      exact ⟨bytes, script, offered, ended,
        variable_addresses_agree.2 .sci0 1 3 bytes none #[] script _ ended⟩

end Machine

/--
Resources with one script, whose procedure calls another one with an argument count that was pushed
as a number.
-/
def Resources.countedCall : Resources :=
  { script? := fun number =>
      if number = 1 then
        some #[0, 0, 0, 0, 7, 0, 8, 0, 1, 0, 16, 0, 2, 0, 12, 0, 56, 0, 128, 65, 1, 0, 72, 72]
      else none }

namespace LocalsTable

/-- A table with one variable more than offsets reach, the first of which is one. -/
def oversized : LocalsTable :=
  ⟨1, (Array.replicate 32769 .null).setIfInBounds 0 (.number 1)⟩

/-- The number of variables in the table. -/
theorem size_oversized : oversized.values.size = 32769 := by
  rw [oversized, Array.size_setIfInBounds, Array.size_replicate]

/-- The first variable is one. -/
theorem first_oversized : oversized.values[0]? = some (.number 1) := by
  -- The slot was written, and it is one of those that there are.
  rw [oversized, Array.getElem?_setIfInBounds_self_of_lt]
  rw [Array.size_replicate]
  decide

/-- The last variable is null. -/
theorem last_oversized : oversized.values[32768]? = some .null := by
  -- The slot that was written is another one.
  rw [oversized, Array.getElem?_setIfInBounds_ne (by decide), Array.getElem?_replicate]
  rfl

end LocalsTable

namespace Machine

/-- At the address of a variable there is a value that is not read from the variable. -/
structure Strays (machine : Machine) (word : UInt16) (kind : VariableKind) (index : Nat)
    (address value : Address) : Prop where
  named : (variableAddress word index machine).map (·.1) = some (.ok address)
  there : machine.store.heap.readValue address = .ok value
  read : (readVariable kind index machine).map (·.1) ≠ some (.ok value)

/-- The address of a parameter that was given, but not within the operand stack, leads elsewhere. -/
theorem strays_beyond_stack :
    ∃ (machine : Machine) (frame : Frame), machine.Occurs ∧
      machine.context.current? = some frame ∧ 32768 ≤ frame.argc ∧
      (∀ slots, machine.HasSlots slots → slots.size ≤ 32768) ∧
      machine.Strays 6 .param 32768 ⟨1, 2⟩ (.number 32768) := by
  have led : (afterEvents { stackSize := 4 } .countedCall
      [.begin (.callExport 1 0 []), .step 1, .step 1]).map (fun machine =>
        (machine.context.current?, machine.store.heap.stack machine.context.stackSegment)) =
      some (some { kind := .call, pc := ⟨3, 23⟩, sp := 2, fp := 2, argp := 1, argc := 32768 },
        .ok #[.null, .number 32768, .null, .null]) := by
    decide +kernel
  -- The address is that of the argument count, which the parameter is much too far from.
  have answered : (afterEvents { stackSize := 4 } .countedCall
      [.begin (.callExport 1 0 []), .step 1, .step 1]).map (fun machine =>
        ((variableAddress 6 32768 machine).map (·.1), machine.store.heap.readValue ⟨1, 2⟩,
          (readVariable .param 32768 machine).map (·.1))) =
      some (some (.ok ⟨1, 2⟩), .ok (.number 32768), some (.error (.valueStackExhausted 4))) := by
    decide +kernel
  obtain ⟨machine, ended, known⟩ := Option.map_eq_some_iff.mp led
  rw [ended, Option.map_some] at answered
  simp only [Prod.mk.injEq, Option.some.injEq, Heap.stack_eq_ok] at known answered
  obtain ⟨top, stack⟩ := known
  obtain ⟨named, there, fails⟩ := answered
  have small (slots : Array Address) (has : machine.HasSlots slots) : slots.size ≤ 32768 := by
    rw [HasSlots, Heap.HasStack, stack] at has
    cases has
    decide
  have strays : machine.Strays 6 .param 32768 ⟨1, 2⟩ (.number 32768) :=
    { named
      there
      read := by simp [fails] }
  exact ⟨machine, _, (arises_afterEvents ended).occurs, top, Nat.le_refl _, small, strays⟩

/-- The address of a variable in a table that was made too large by hand leads elsewhere. -/
theorem strays_beyond_offsets :
    ∃ machine altered : Machine, machine.Occurs ∧
      altered = { machine with
        store := (Action.alter 4 fun _ => .locals .oversized).run machine.store } ∧
      altered.HasVariable .local 32768 ∧ altered.Strays 2 .local 32768 ⟨4, 0⟩ (.number 1) := by
  have led : (afterEvents { stackSize := 4 } .fourPushes [.begin (.callExport 1 0 [])]).map
      (fun machine => (machine.context.current?, machine.store.heap.locals 4)) =
      some (some { kind := .call, pc := ⟨3, 16⟩, sp := 1, fp := 1, locals := 4 },
        .ok ⟨1, #[.null]⟩) := by
    decide +kernel
  obtain ⟨machine, ended, known⟩ := Option.map_eq_some_iff.mp led
  simp only [Prod.mk.injEq, Heap.locals_eq_ok] at known
  obtain ⟨top, former⟩ := known
  let altered : Machine :=
    { machine with store := (Action.alter 4 fun _ => .locals .oversized).run machine.store }
  have still : altered.context.current? = machine.context.current? := rfl
  rw [← still] at top
  -- Memory holds the larger table in the place of the former one.
  have found : altered.store.heap.get? 4 = some (.locals .oversized) := by
    show (machine.store.heap.modify 4 _).get? 4 = _
    rw [Heap.modify_eq_put former, Heap.get?_put former, if_pos rfl]
  have large : 32768 < LocalsTable.oversized.values.size := by
    rw [LocalsTable.size_oversized]
    decide
  have listed := run_localsTable_local top (by decide)
  have tabled : VariableKind.local ≠ .temp ∧ VariableKind.local ≠ .param := by decide
  have kept := run_variableSlot_table tabled listed found large
  have indexed : indexBy false 32768 altered = some (.ok 32768, altered) := rfl
  -- Twice the number of the variable is too large by one for sixteen bits.
  have addressed : variableAddress 2 32768 altered =
      some (.ok ⟨4, .ofNat (2 * 32768)⟩, altered) :=
    run_variableAddress_table tabled rfl indexed listed
  have strays : altered.Strays 2 .local 32768 ⟨4, 0⟩ (.number 1) :=
    { named := by
        rw [addressed]
        rfl
      there := Heap.readValue_slot found rfl rfl LocalsTable.first_oversized
      read := by
        have null : some (Except.ok Address.null) ≠
            some (Except.ok (.number 1) : Except Fault Address) := by
          decide
        rw [run_readVariable_table tabled kept found LocalsTable.last_oversized]
        exact null }
  exact ⟨machine, altered, (arises_afterEvents ended).occurs, rfl,
    .local top (by decide) found large, strays⟩

/--
Where the operand stack ends before a parameter that was given, or a table is larger than offsets
reach, the address of a variable leads elsewhere.
-/
theorem variable_addresses_differ :
    (∃ (machine : Machine) (frame : Frame), machine.Occurs ∧
      machine.context.current? = some frame ∧ 32768 ≤ frame.argc ∧
      (∀ slots, machine.HasSlots slots → slots.size ≤ 32768) ∧
      machine.Strays 6 .param 32768 ⟨1, 2⟩ (.number 32768)) ∧
    ∃ machine altered : Machine, machine.Occurs ∧
      altered = { machine with
        store := (Action.alter 4 fun _ => .locals .oversized).run machine.store } ∧
      altered.HasVariable .local 32768 ∧ altered.Strays 2 .local 32768 ⟨4, 0⟩ (.number 1) :=
  ⟨strays_beyond_stack, strays_beyond_offsets⟩

end Machine

end AdventureVm
