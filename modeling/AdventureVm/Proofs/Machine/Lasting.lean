import AdventureVm.Proofs.Machine.LiveCode

/-!
What memory keeps, whatever happens to a machine.

A property of memory that is kept by every step of work and by collections is kept by whole runs,
also where kernel functions were added, as long as these change memory only in ways that keep it.
-/

namespace AdventureVm

open VmM

/-- The kernel functions that were added change memory only in the allowed ways. -/
def KernelTable.Respects (allowed : (Store → Store) → Prop) (table : KernelTable) : Prop :=
  ∀ entry ∈ table.entries, entry.Respects allowed

/--
A property of memory that is kept by every step of work, by collections, and by the allowed changes
of memory.
-/
class Heap.Lasts (property : Heap → Prop) (allowed : (Store → Store) → Prop) : Prop where
  opened : ∀ {heap}, property heap → 0 < heap.segments.size
  develops : ∀ {before after}, property before → before.Develops after → property after
  collected : ∀ context {store : Store}, property store.heap →
    property ((Store.collect context).run store).2.heap
  changed : ∀ {change : Store → Store} {store : Store}, allowed change → property store.heap →
    property (change store).heap

namespace KernelTable

variable {allowed : (Store → Store) → Prop} {table : KernelTable}

/-- Where no function was added, none changes memory. -/
theorem IsBuiltin.respects (builtin : table.IsBuiltin) : table.Respects allowed :=
  fun entry member action host => absurd host (builtin entry member action)

/-- A table to which a function is added changes memory as both do. -/
theorem Respects.register (respects : table.Respects allowed) (name : String)
    {action : List Address → HostAction}
    (added : ∀ arguments, (action arguments).Respects allowed) :
    (table.register name action).2.Respects allowed := by
  have own : KernelEntry.Respects allowed ⟨name, .host action⟩ := by
    intro other same arguments
    cases same
    exact added arguments
  intro entry member
  unfold KernelTable.register at member
  -- The function takes the place of the first one of its name, or comes last.
  split at member
  · rcases Array.mem_or_eq_of_mem_setIfInBounds member with former | rfl
    · exact respects entry former
    · exact own
  · rcases Array.mem_push.mp member with former | rfl
    · exact respects entry former
    · exact own

end KernelTable

namespace Machine

/-- Memory has a property, and kernel functions that were added change it in the allowed ways. -/
structure Bears (property : Heap → Prop) (allowed : (Store → Store) → Prop) (machine : Machine) :
    Prop where
  memory : property machine.store.heap
  kernel : machine.setup.kernel.Respects allowed

/-- The machine goes on to have what it had. -/
abbrev HandsOn (property : Heap → Prop) (allowed : (Store → Store) → Prop) :
    Machine → Machine → Prop :=
  Passes (Bears property allowed)

variable {property : Heap → Prop} {allowed : (Store → Store) → Prop} {run : Runner}

section Kept

/-- Registers and frames are no part of memory. -/
theorem modifyContext_handsOn (change : Context → Context) :
    Along (HandsOn property allowed) (modifyContext change) := by
  -- Neither memory nor the table of kernel functions is in the context.
  intro machine
  rw [ends_modifyContext]
  exact fun bears => ⟨bears.memory, bears.kernel⟩

/-- Jumping changes a frame, which is no part of memory. -/
theorem jumpTo_handsOn (pc : Address) : Along (HandsOn property allowed) (jumpTo pc) := by
  -- A jump changes the current frame and nothing else.
  rw [jumpTo, modifyFrame]
  exact modifyContext_handsOn _

/-- How the work stands is no part of memory. -/
theorem modifyStatus_handsOn (change : Status → Status) :
    Along (HandsOn property allowed) (modifyStatus change) := by
  -- Neither memory nor the table of kernel functions is in the status.
  intro machine
  rw [ends_modifyStatus]
  exact fun bears => ⟨bears.memory, bears.kernel⟩

/-- Starting a frame hands on what lasts. -/
theorem pushFrame_handsOn (frame : Frame) : Along (HandsOn property allowed) (pushFrame frame) := by
  -- A refused frame changes nothing, a pushed one no more than the frames.
  intro machine
  apply ends_pushFrame
  · exact fun _ bears => bears
  · exact fun bears => ⟨bears.memory, bears.kernel⟩

variable [Heap.Lasts property allowed]

/-- Work that goes on without a change to kernel functions hands on what lasts. -/
theorem Bears.proceeds {may : List Frame → List Frame → Prop} {machine after : Machine}
    (bears : machine.Bears property allowed) (proceeds : machine.Proceeds may after) :
    after.Bears property allowed where
  -- Memory has developed, and what lasts survives that.
  memory := Heap.Lasts.develops allowed bears.memory
    (proceeds.memory (Heap.Lasts.opened allowed bears.memory))
  kernel := proceeds.setup ▸ bears.kernel

/-- What lasts is kept by what every run does. -/
instance : AdmitsRuns (HandsOn property allowed) where
  store advances machine :=
    (store_proceeds advances machine).mono fun _ _ (proceeds : machine.Proceeds Eq _) bears =>
      bears.proceeds proceeds
  registers _ _ _ := modifyContext_handsOn _
  status := modifyStatus_handsOn
  truncate _ := modifyContext_handsOn _
  rest _ := modifyContext_handsOn _

/-- The current frame may use the operand stack. -/
instance : AdmitsStack (HandsOn property allowed) where
  setStackPointer sp := by
    rw [setStackPointer, modifyFrame]
    exact modifyContext_handsOn _

end Kept

variable [Heap.Lasts property allowed]

section Calls

/-- Sending messages hands on what lasts. -/
theorem dispatch_handsOn (target work : Address) (base words : Nat) :
    Along (HandsOn property allowed) (dispatch target work base words) :=
  dispatch_starting pushFrame_handsOn target work base words

/-- Sending the messages on top of the stack hands on what lasts. -/
theorem sendMessages_handsOn (target work : Address) (bytes : Nat) :
    Along (HandsOn property allowed) (sendMessages target work bytes) :=
  sendMessages_along takeRest_along (dispatch_handsOn target work) bytes

/-- Calling a procedure hands on what lasts. -/
theorem callProcedure_handsOn (target : Address) (bytes : Nat) (locals : Option SegmentId) :
    Along (HandsOn property allowed) (callProcedure target bytes locals) :=
  (callBase_along bytes).bind fun _ => frame_proceeds.bind fun _ =>
    (pushFrame_handsOn _).bind fun _ => modifyContext_handsOn _

/-- Calling an export hands on what lasts. -/
theorem callExported_handsOn (number : UInt16) (index bytes : Nat) :
    Along (HandsOn property allowed) (callExported number index bytes) :=
  callExported_along (fun target locals => callProcedure_handsOn target bytes locals) number index

/-- A collection hands on what lasts. -/
theorem collectGarbage_handsOn : Along (HandsOn property allowed) collectGarbage := by
  -- Everything before the collection proper leaves memory alone.
  refine (along_setup _).bind fun interval => (modifyStatus_handsOn _).bind fun _ =>
    (along_context _).bind fun context => ?_
  intro machine
  rw [ends_storeState]
  exact fun bears => ⟨Heap.Lasts.collected allowed context bears.memory, bears.kernel⟩

end Calls

section Entries

variable (runs : ∀ depth, Along (HandsOn property allowed) (run depth))
include runs

/-- Calling an export from outside hands on what lasts, if running does. -/
theorem callExportVia_handsOn (number : UInt16) (index : Nat) (arguments : List Address) :
    Along (HandsOn property allowed) (callExportVia run number index arguments) := by
  -- The pieces are taken in their order; only the run may do more than develop memory.
  refine (scriptExport_proceeds _ _).bind fun target => (along_context _).bind fun context =>
    takeRest_along.bind fun rest => (stackSetAll_proceeds _ _).bind fun _ =>
      (along_require _).bind fun script => ?_
  refine Along.bind (Along.outcome ?_) fun result => conclude_along rest _ result
  exact (pushFrame_handsOn _).bind fun _ => runs _

/-- Sending a message from outside hands on what lasts, if running does. -/
theorem sendVia_handsOn (object : Address) (selector : UInt16) (arguments : List Address) :
    Along (HandsOn property allowed) (sendVia run object selector arguments) :=
  sendVia_along (dispatch_handsOn object object) runs selector arguments

/-- What an added function may ask for hands on what lasts, if running does. -/
theorem grants_handsOn : Grants (HandsOn property allowed) allowed run where
  send object selector arguments := sendVia_handsOn runs object selector arguments
  callExport number index arguments := callExportVia_handsOn runs number index arguments
  abort := modifyStatus_handsOn _
  status change _ := modifyStatus_handsOn change
  -- What a function does to memory, and what it adds, is allowed by assumption.
  memory changes machine := (ends_storeState _ machine _).mpr fun bears =>
    ⟨Heap.Lasts.changed changes bears.memory, bears.kernel⟩
  register name _ added machine := (ends_modifyGet _ machine _).mpr fun bears =>
    ⟨bears.memory, bears.kernel.register name added⟩
  collect := collectGarbage_handsOn

/-- Calling a kernel function hands on what lasts, if running frames does. -/
theorem callKernel_handsOn (index bytes : Nat) :
    Along (HandsOn property allowed) (callKernel run index bytes) :=
  -- The entry comes from the table, whose functions change memory as allowed.
  callKernel_passes collectGarbage_handsOn (fun _ _ entry bears listed arguments =>
    (grants_handsOn runs).applyKernel (bears.kernel entry (Array.mem_of_getElem? listed)) arguments)
    index bytes

/-- Executing an instruction hands on what lasts, if running does. -/
theorem execute_handsOn (instruction : Instruction) (next : Address) :
    Along (HandsOn property allowed) (execute run instruction next) := by
  -- Every family of instructions is covered by its own lemma, and these are put together.
  have passes (first : Nat) : Along (HandsOn property allowed) (pushRest first) :=
    frame_proceeds.bind fun _ => (pushSlots_moves _ _).bind fun _ => modifyContext_handsOn _
  have calls (target : Address) (bytes : Nat) :
      Along (HandsOn property allowed) (callProcedure target bytes none) :=
    callProcedure_handsOn target bytes none
  exact execute_along jumpTo_handsOn passes calls (callKernel_handsOn runs) callExported_handsOn
    sendMessages_handsOn (modifyContext_handsOn _) instruction next

/-- A step hands on what lasts, if running does. -/
theorem step_handsOn : Along (HandsOn property allowed) (step run) :=
  -- A step is an access of a property or an instruction; both have been seen to.
  step_along jumpTo_handsOn modifyStatus_handsOn
    (fun frame index => (modifyContext_handsOn _).bind fun _ => selected_proceeds frame index)
    (execute_handsOn runs)

end Entries

/-- A run hands on what lasts. -/
theorem runWithin_handsOn (fuel depth : Nat) :
    Along (HandsOn property allowed) (runWithin fuel depth) :=
  runWithin_along (fun _ runs => step_handsOn runs) fuel depth

/-- Whatever happens to a machine, it hands on what lasts. -/
theorem Event.work_handsOn (event : Event) : Along (HandsOn property allowed) event.work :=
  event.work_along (fun runs => sendVia_handsOn runs) (fun runs => callExportVia_handsOn runs)
    runWithin_handsOn (fun fuel => step_handsOn (runWithin_handsOn fuel)) collectGarbage_handsOn

end Machine

end AdventureVm
