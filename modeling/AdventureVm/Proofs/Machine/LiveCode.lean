import AdventureVm.Proofs.Locks.Returned
import AdventureVm.Proofs.Machine.LiveFrames

/-!
Code never disappears under a frame.

Scripts may be disposed of and collections may happen at any moment of a run: the script of every
frame stays in memory, and so do its variables.
-/

namespace AdventureVm

open VmM

/-- A table made from names holds no functions but those that the machine brings along. -/
theorem KernelTable.ofGame_isBuiltin (names : Array String) : (ofGame names).IsBuiltin := by
  have listed (names : Array String) : (ofNames names).IsBuiltin := by
    intro entry member action
    obtain ⟨name, _, rfl⟩ := Array.mem_map.mp member
    -- A name stands for a function of the machine or for nothing yet.
    rw [KernelEntry.ofName]
    split <;> simp
  rw [ofGame]
  split
  · exact listed _
  · exact listed names

namespace Machine

/-- What may happen to a machine, also in the middle of a run. -/
inductive Event where
  /-- Locks a script. -/
  | lock (number : UInt16)
  /-- Drops a lock on a script. -/
  | unlock (number : UInt16)
  /-- Loads a script and does not lock it. -/
  | load (number : UInt16)
  /-- Locks a script if it is not in memory yet. -/
  | ensure (number : UInt16)
  /-- Looks for a class, for which its script may be loaded. -/
  | resolve (species : UInt16)
  /-- Looks for an export, for which its script may be loaded. -/
  | findExport (number : UInt16) (index : Nat)
  /-- Sets a property of an object. -/
  | assign (object : Address) (selector : UInt16) (value : Address)
  /-- Collects garbage. -/
  | collect
  /-- Uses a way into the machine and runs until it is over. -/
  | enter (fuel : Nat) (entry : Entry)
  /-- Sends a message without failing. -/
  | execute (fuel : Nat) (object : Address) (selector : UInt16) (arguments : List Address)
  /-- Uses a way into the machine and does not run the frames that are started. -/
  | begin (entry : Entry)
  /-- The current frame takes a step. -/
  | step (fuel : Nat)
  /-- Drops frames until at most so many are left. -/
  | unwind (depth : Nat)
  /-- Sets the number of arguments that wait, and changes how the work stands. -/
  | settle (rest : Nat) (change : Status → Status)

/-- The work that an event stands for. -/
def Event.work : Event → VmM Unit
  | lock number => discard (lockScript number)
  | unlock number => unlockScript number
  | load number => do
    discard (VmM.store (Store.loadScript (← VmM.setup (·.resources)) number))
  | ensure number => discard (ensureScript number)
  | resolve species => discard (resolveClass species)
  | findExport number index => discard (scriptExport number index)
  | assign object selector value => setProperty object selector value
  | collect => discard collectGarbage
  | enter fuel entry => discard (entry.via (runWithin fuel))
  | execute fuel object selector arguments =>
    discard (executeVia (runWithin fuel) object selector arguments)
  | begin entry => discard (entry.via fun _ => return ())
  | step fuel => Machine.step (runWithin fuel)
  | unwind depth => modifyContext (·.truncate depth)
  | settle rest change => do
    modifyContext fun context => { context with rest }
    modifyStatus change

/-- A machine that events have led to from the start, whether each succeeded or failed. -/
inductive Arises : Machine → Prop where
  | start {config : Config} {resources : Resources} {machine : Machine}
      (started : start config resources = .ok machine) : Arises machine
  | after {machine later : Machine} {event : Event} {outcome : Except Fault Unit}
      (arises : Arises machine) (ended : event.work machine = some (outcome, later)) : Arises later

/-- At the start memory is led from nothing to the operand stack and the scratch texts. -/
theorem start_develops {config : Config} {resources : Resources} {machine : Machine}
    (started : start config resources = .ok machine) :
    (Store.blank config.version (.ofScripts resources.classScripts) #[]).heap.Develops
      machine.store.heap := by
  have blank := Store.blank_sound config.version (.ofScripts resources.classScripts) #[]
  have prepared {size : Nat} {text : String} {outcome : Except Fault (SegmentId × SegmentId)}
      {store : Store} (ended : (do
        let stack ← Store.allocateStack size
        let strings ← Store.allocateSystemStrings
        StoreM.note .debug text
        return (stack, strings) : StoreM (SegmentId × SegmentId)).run
          (Store.blank config.version (.ofScripts resources.classScripts) #[]) = (outcome, store)) :
      (Store.blank config.version (.ofScripts resources.classScripts) #[]).heap.Develops
        store.heap := by
    have leads := ((Store.allocateStack_advances size).bind fun stack =>
      Store.allocateSystemStrings_advances.bind fun strings =>
        (StoreM.advances_note .debug text).bind fun _ =>
          StoreM.advances_pure (stack, strings)) _ blank.opened
    rwa [Leads, ended] at leads
  -- The machine starts only if the stack and the texts could be put into memory.
  simp only [start] at started
  split at started
  · simp at started
  · rename_i stack strings store ended
    cases started
    exact prepared ended

/-- At the start there are no frames and no kernel functions but those that come along. -/
theorem start_bare {config : Config} {resources : Resources} {machine : Machine}
    (started : start config resources = .ok machine) :
    machine.context.frames = .empty ∧ machine.setup.kernel.IsBuiltin := by
  -- A start that succeeds makes an empty stack of frames and the table of the game.
  simp only [start] at started
  split at started
  · simp at started
  · cases started
    exact ⟨rfl, KernelTable.ofGame_isBuiltin _⟩

/-- At the start there is no frame that could need anything. -/
theorem start_isLive {config : Config} {resources : Resources} {machine : Machine}
    (started : start config resources = .ok machine) : machine.IsLive := by
  -- Memory is sound because it develops from a blank one; no frame is there to be checked.
  obtain ⟨frames, builtin⟩ := start_bare started
  refine ⟨(start_develops started).sound (Store.blank_sound _ _ _), ?_, builtin⟩
  simp [frames, FrameStack.empty, FrameStack.ofList]

/-- Whatever happens leads along a relation that runs, collections and ways into the machine lead
along. -/
theorem Event.work_along {rel : Machine → Machine → Prop} [AdmitsRuns rel]
    (sends : ∀ {run : Runner}, (∀ depth, Along rel (run depth)) →
      ∀ object selector arguments, Along rel (sendVia run object selector arguments))
    (calls : ∀ {run : Runner}, (∀ depth, Along rel (run depth)) →
      ∀ number index arguments, Along rel (callExportVia run number index arguments))
    (runs : ∀ fuel depth, Along rel (runWithin fuel depth))
    (steps : ∀ fuel, Along rel (Machine.step (runWithin fuel)))
    (collects : Along rel collectGarbage) (event : Event) : Along rel event.work := by
  -- A way into the machine leads along whatever is run of what it starts.
  have enters {run : Runner} (runs : ∀ depth, Along rel (run depth)) (entry : Entry) :
      Along rel (entry.via run) := by
    cases entry with
    | send object selector arguments => exact sends runs object selector arguments
    | callExport number index arguments => exact calls runs number index arguments
  have discards {α : Type} {work : VmM α} (along : Along rel work) : Along rel (discard work) :=
    along.bind fun _ => along_pure _
  cases event with
  | lock number =>
    exact discards ((along_setup _).bind fun _ =>
      store_proceeds (Store.instantiateScript_advances _ number))
  | unlock number => exact store_proceeds (Store.uninstantiateScript_advances number)
  | load number =>
    exact (along_setup _).bind fun given =>
      discards (store_proceeds (Store.loadScript_advances given number))
  | ensure number => exact discards (ensureScript_proceeds number)
  | resolve species => exact discards (resolveClass_proceeds species)
  | findExport number index => exact discards (scriptExport_proceeds _ _)
  | assign object selector value => exact setProperty_proceeds _ _ _
  | collect => exact discards collects
  | enter fuel entry => exact discards (enters (runs fuel) entry)
  | execute fuel object selector arguments =>
    exact discards (executeVia_along (sends (runs fuel) object selector arguments)
      (AdmitsRuns.status _))
  | begin entry => exact discards (enters (fun _ => along_pure _) entry)
  | step fuel => exact steps fuel
  | unwind depth => exact AdmitsRuns.truncate depth
  | settle rest change =>
    exact (AdmitsRuns.rest rest).bind fun _ => AdmitsRuns.status change

/-- Whatever happens, what frames need stays in memory. -/
theorem Event.work_isLive (event : Event) : Along (Passes IsLive) event.work :=
  event.work_along sendVia_isLive callExportVia_isLive runWithin_isLive
    (fun fuel => step_isLive (runWithin fuel)) collectGarbage_isLive

/-- What frames need is in memory whenever a machine arises. -/
theorem Arises.isLive {machine : Machine} (arises : machine.Arises) : machine.IsLive := by
  -- Induction on the events: the start is live, and every event keeps that.
  induction arises with
  | start started => exact start_isLive started
  | after _ ended live => exact Event.work_isLive _ _ _ _ ended live

/-- The code and the variables of every frame are in memory. -/
structure HoldsCode (machine : Machine) : Prop where
  /-- A procedure or a method is at an instruction of a script, whose variables it uses. -/
  code : ∀ frame ∈ machine.context.frames.list, frame.kind = .call ∨ frame.kind = .method →
    ∃ script, machine.store.heap.get? frame.pc.segment = some (.script script) ∧
      script.localsSegment = frame.locals
  /-- A frame has no variables, or they are a table of a script that is in memory. -/
  locals : ∀ frame ∈ machine.context.frames.list, frame.locals = 0 ∨
    ∃ table id script, machine.store.heap.get? frame.locals = some (.locals table) ∧
      machine.store.heap.get? id = some (.script script) ∧
      script.localsSegment = frame.locals ∧ table.script = script.number

/--
The code and the variables of every frame are in memory, whatever has happened to the machine.

Locks on the script that runs may have been dropped, and collections may have happened since.
-/
theorem frames_hold_code {machine : Machine} (arises : machine.Arises) : machine.HoldsCode := by
  have live := arises.isLive
  refine ⟨fun frame member runs => (live.frames frame member).code runs, ?_⟩
  intro frame member
  by_cases runs : frame.RunsCode
  · -- The variables are those of the script that the frame is in, and that script is sound.
    obtain ⟨script, found, own⟩ := (live.frames frame member).code runs
    rw [← own]
    by_cases none : script.localsSegment = 0
    · exact .inl none
    · obtain ⟨_, table, tableAt, named⟩ :=
        live.sound.ownLocals frame.pc.segment script found none
      exact .inr ⟨table, frame.pc.segment, script, tableAt, found, rfl, named⟩
  · exact .inl ((live.frames frame member).bare runs)

end Machine

/-- Resources with one script, which has a variable and a procedure that only returns. -/
def Resources.oneProcedure : Resources :=
  { script? := fun number =>
      if number = 1 then some #[1, 0, 0, 0, 7, 0, 8, 0, 1, 0, 16, 0, 2, 0, 6, 0, 72, 0] else none }

namespace Machine

/-- A machine that has called the procedure and has not taken a step yet. -/
def calledProcedure : Option Machine :=
  match start { stackSize := 16 } .oneProcedure with
  | .ok machine => ((Event.begin (.callExport 1 0 [])).work machine).map (·.2)
  | .error _ => none

/-- Calling the procedure is an event. -/
theorem arises_of_calledProcedure {machine : Machine} (called : calledProcedure = some machine) :
    machine.Arises := by
  -- The machine is defined as the outcome of one event after a start.
  rw [calledProcedure] at called
  split at called
  · rename_i first started
    obtain ⟨⟨outcome, after⟩, ended, rfl⟩ := Option.map_eq_some_iff.mp called
    exact @Arises.after first after _ outcome (.start started) ended
  · simp at called

/-- A script that lost its last lock while it was running outlives the next collection. -/
theorem frames_hold_code_disposed :
    ∃ machine : Machine, machine.Arises ∧ machine.HoldsCode ∧
      machine.context.frames.list =
        [{ kind := .call, pc := ⟨3, 16⟩, sp := 1, fp := 1, locals := 4 }] ∧
      ∃ script, machine.store.heap.get? 3 = some (.script script) ∧ script.lockers = 0 ∧
        script.markedDeleted = true := by
  -- The machine that has called the procedure is at hand, so what it holds is computed.
  have framed : calledProcedure.map (·.context.frames.list) =
      some [{ kind := .call, pc := ⟨3, 16⟩, sp := 1, fp := 1, locals := 4 }] := by
    decide +kernel
  have known : calledProcedure.bind (Store.account ·.store.heap 1) = some (3, 1, true, []) := by
    decide +kernel
  obtain ⟨first, called, frames⟩ := Option.map_eq_some_iff.mp framed
  rw [called, Option.bind_some] at known
  obtain ⟨placed, script, found, last, holds, superclasses⟩ := Store.placed_of_account known
  -- The script gives its lock back, and no other.
  let disposed : Machine :=
    { first with store := ((Store.uninstantiateScript 1).run first.store).2 }
  have arises : disposed.Arises :=
    @Arises.after first _ (.unlock 1) _ (arises_of_calledProcedure called) rfl
  have marked : disposed.store.heap.get? 3 = some (.script (script.withLocks 0 true false)) := by
    have dropped := Store.uninstantiate_last placed found last
    rw [holds, Store.owners, superclasses] at dropped
    rw [show disposed.store = ((Store.uninstantiateScript 1).run first.store).2 from rfl, dropped]
    exact (Heap.get?_put found _).trans (if_pos rfl)
  -- The frame holds on to it through the collection.
  have member : ({ kind := .call, pc := ⟨3, 16⟩, sp := 1, fp := 1, locals := 4 } : Frame) ∈
      disposed.context.frames.list := by
    rw [frames]
    exact List.mem_singleton_self _
  have kept := (Store.collected disposed.store arises.isLive.sound disposed.context).script_kept 3 _
    marked (.inl (reach_code member marked))
  have later := @Arises.after disposed _ .collect _ arises rfl
  exact ⟨_, later, frames_hold_code later, frames, _, kept, rfl, rfl⟩

end Machine

end AdventureVm
