import AdventureVm.Proofs.Assembly.Agreement
import AdventureVm.Proofs.Machine.PropertyMessages

/-!
Where branches and calls lead.

The offset is counted from the next instruction, modulo 65536, and what a machine does next is what
it finds there.
-/

namespace AdventureVm

namespace VmM

variable {α β : Type}

/-- The work comes to an end, wherever it starts. -/
def Halts (work : VmM α) : Prop :=
  ∀ machine, ∃ outcome after, work machine = some (outcome, after)

/-- Giving a value comes to an end. -/
theorem halts_pure (value : α) : Halts (pure value) := fun machine => ⟨.ok value, machine, rfl⟩

/-- Failing comes to an end. -/
theorem halts_throw (fault : Fault) : Halts (throw fault : VmM α) :=
  fun machine => ⟨.error fault, machine, rfl⟩

/-- Work on memory comes to an end. -/
theorem halts_store (work : StoreM α) : Halts (store work) := fun _ => ⟨_, _, rfl⟩

/-- Looking at registers and frames comes to an end. -/
theorem halts_context (query : Context → α) : Halts (context query) := fun _ => ⟨_, _, rfl⟩

/-- Changing registers and frames comes to an end. -/
theorem halts_modifyContext (change : Context → Context) : Halts (modifyContext change) :=
  fun _ => ⟨_, _, rfl⟩

/-- Looking at what the machine was given comes to an end. -/
theorem halts_setup (query : Setup → α) : Halts (setup query) := fun _ => ⟨_, _, rfl⟩

/-- Two pieces of work that come to an end do so one after the other. -/
theorem Halts.bind {first : VmM α} {next : α → VmM β} (halts : Halts first)
    (haltsNext : ∀ value, Halts (next value)) : Halts (first >>= next) := by
  -- A failure of the first piece is an end of both.
  intro machine
  obtain ⟨outcome, between, ended⟩ := halts machine
  cases outcome with
  | ok value =>
    rw [run_bind_of_ok ended]
    exact haltsNext value between
  | error fault => exact ⟨_, _, run_bind_of_error ended _⟩

end VmM

namespace Machine

open VmM

section Halting

/-- Looking for the current frame comes to an end. -/
theorem frame_halts : Halts frame := by
  -- With or without a frame there is an outcome.
  refine (halts_context _).bind fun current => ?_
  cases current with
  | none => exact halts_throw _
  | some frame => exact halts_pure _

/-- Looking at the operand stack comes to an end. -/
theorem operands_halts {α : Type} (query : Array Address → α) : Halts (operands query) :=
  (halts_context _).bind fun _ => halts_store _

/-- Reading a slot comes to an end. -/
theorem stackGet_halts (index : Nat) : Halts (stackGet index) := by
  -- A slot past the capacity is a fault, which is an outcome too.
  refine (operands_halts _).bind fun (found, capacity) => ?_
  cases found with
  | none => exact halts_throw _
  | some value => exact halts_pure _

/-- Filling a slot comes to an end. -/
theorem stackSet_halts (index : Nat) (value : Address) : Halts (stackSet index value) := by
  -- A slot past the capacity is a fault; otherwise one value is written.
  refine (operands_halts _).bind fun capacity => ?_
  dsimp only
  split
  · exact (halts_throw _).bind fun _ => (halts_context _).bind fun _ => halts_store _
  · exact (halts_context _).bind fun _ => halts_store _

/-- Looking for the words of a call comes to an end. -/
theorem callBase_halts (bytes : Nat) : Halts (callBase bytes) := by
  have base (words : Nat) : Halts (stackBase words) := by
    refine frame_halts.bind fun current => (operands_halts _).bind fun capacity => ?_
    dsimp only
    split
    · exact (halts_throw _).bind fun _ => halts_pure _
    · exact halts_pure _
  have rest : Halts takeRest :=
    (halts_context _).bind fun _ => (halts_modifyContext _).bind fun _ => halts_pure _
  -- The count is stored again only if arguments waited.
  refine rest.bind fun waiting => (base _).bind fun slot => (stackGet_halts _).bind fun count => ?_
  dsimp only
  split
  · exact (stackSet_halts _ _).bind fun _ => halts_pure _
  · exact halts_pure _

/-- Starting a frame comes to an end. -/
theorem pushFrame_halts (frame : Frame) : Halts (pushFrame frame) := by
  -- A frame too many is a fault; otherwise one frame is pushed.
  refine (halts_context _).bind fun depth => (halts_setup _).bind fun limit => ?_
  dsimp only
  split
  · exact (halts_throw _).bind fun _ => halts_modifyContext _
  · exact halts_modifyContext _

/-- Calling a procedure comes to an end: it has been started then, or cannot be. -/
theorem callProcedure_halts (target : Address) (bytes : Nat) (locals : Option SegmentId) :
    Halts (callProcedure target bytes locals) :=
  (callBase_halts bytes).bind fun _ => frame_halts.bind fun _ =>
    (pushFrame_halts _).bind fun _ => halts_modifyContext _

end Halting

/-- The current frame is at an address. -/
def GoesOnAt (target : Address) (machine : Machine) : Prop :=
  machine.context.current?.map (·.pc) = some target

/-- A procedure that was called is the next to run. -/
theorem gives_callProcedure_target (target : Address) (bytes : Nat) (locals : Option SegmentId)
    (machine : Machine) :
    Gives (callProcedure target bytes locals) machine fun _ after => after.GoesOnAt target := by
  rw [Gives, callProcedure, ends_bind]
  intro outcome between _
  cases outcome with
  | error fault => trivial
  | ok found =>
    rw [either_ok, ends_bind]
    apply ends_frame
    · exact fun _ => trivial
    · intro caller current
      rw [either_ok, ends_bind]
      apply ends_pushFrame
      · exact fun _ => trivial
      · -- The stack pointer that is moved afterwards is that of the caller.
        rw [either_ok, ends_modifyContext]
        rfl

end Machine

/-- The instruction goes to where its first operand leads, given what is in the accumulator. -/
def Instruction.Branches (instruction : Instruction) (acc : Address) : Prop :=
  match instruction.operation with
  | .branchTrue => acc.isTruthy = true
  | .branchFalse => acc.isTruthy = false
  | .jump | .call => True
  | _ => False

/-- Where the first operand of an instruction leads when it is counted from the next one. -/
def Instruction.target (instruction : Instruction) (start : Nat) : UInt16 :=
  wordOfInt ((start + instruction.length : Nat) + instruction.operand 0)

namespace Machine

open VmM

/-- The current frame, over its callers, is at an offset of the code of a script. -/
structure RunsAt (code : Bytes) (start : Nat) (frame : Frame) (callers : List Frame)
    (machine : Machine) : Prop where
  /-- The frames are these. -/
  frames : machine.context.frames.list = frame :: callers
  /-- The current one runs code. -/
  runs : frame.RunsCode
  /-- It is in a script with that code. -/
  script : ∃ script, machine.store.heap.script frame.pc.segment = .ok script ∧ script.data = code
  /-- It is at that offset. -/
  place : frame.pc.offset.toNat = start

/--
A machine that takes the branch at an offset of some code goes on at the target.

Only a call may fail instead.
-/
def BranchLeads (code : Bytes) (start : Nat) (instruction : Instruction) (target : UInt16) : Prop :=
  ∀ (run : Runner) (machine : Machine) (frame : Frame) (callers : List Frame),
    machine.RunsAt code start frame callers → instruction.Branches machine.context.acc →
    ∃ outcome after, step run machine = some (outcome, after) ∧
      (outcome = .ok () → after.GoesOnAt ⟨frame.pc.segment, target⟩) ∧
      (instruction.operation ≠ .call → outcome = .ok ())

variable {code : Bytes} {start : Nat} {frame : Frame} {callers : List Frame} {machine : Machine}
  {instruction : Instruction}

/-- A frame is at the instruction that is read where it is. -/
theorem RunsAt.executes (at_ : machine.RunsAt code start frame callers)
    (read : decode code start = .ok instruction) :
    machine.Executes frame callers instruction := by
  -- The script in the segment holds the code, so decoding there reads the instruction.
  obtain ⟨script, found, rfl⟩ := at_.script
  refine ⟨at_.frames, at_.runs, ?_⟩
  rw [instructionAt, found]
  dsimp only
  rw [at_.place, read]

/-- The address of the target is that of the next instruction, moved by the operand. -/
theorem RunsAt.shift_target (at_ : machine.RunsAt code start frame callers) :
    (frame.pc.shift instruction.length).shift (instruction.operand 0) =
      ⟨frame.pc.segment, instruction.target start⟩ := by
  have next : ((wordOfInt (start + instruction.length)).toNat : Int) =
      ((start : Int) + instruction.length) % 65536 := by
    rw [wordOfInt, toNat_word (by omega)]
    omega
  -- Moving twice wraps around twice, which modulo 65536 is the same as once.
  rw [Address.shift, Address.shift, at_.place, Instruction.target, Address.mk.injEq]
  refine ⟨rfl, wordOfInt_eq_iff.mpr ?_⟩
  rw [next, Int.ModEq]
  omega

/-- An instruction that branches calls the place that its first operand leads to, or jumps there. -/
theorem run_execute_branch (branches : instruction.Branches machine.context.acc) (run : Runner)
    (next : Address) : execute run instruction next machine =
      if instruction.operation = .call then
        callProcedure (next.shift (instruction.operand 0)) (instruction.operand 1).toNat none
          machine
      else jumpTo (next.shift (instruction.operand 0)) machine := by
  rw [execute, run_bind_of_ok (run_context _ _)]
  unfold Instruction.Branches at branches
  -- Whether a conditional branch is taken was decided by the accumulator.
  split at branches
  · rename_i operation
    simp only [operation, branches, if_true, reduceCtorEq, if_false]
  · rename_i operation
    simp only [operation, branches, Bool.not_false, if_true, reduceCtorEq, if_false]
  · rename_i operation
    simp only [operation, reduceCtorEq, if_false]
  · rename_i operation
    simp only [operation, if_true]
  · exact branches.elim

/-- A branch that is taken leads to the target. -/
theorem branchLeads (read : decode code start = .ok instruction) :
    BranchLeads code start instruction (instruction.target start) := by
  intro run machine frame callers at_ branches
  have executes := at_.executes read
  obtain ⟨store, same, stepped⟩ := executes.run_step run
  have deep := (ready_sentOn frame instruction same).frames executes
  -- The frame was sent on before, so the next instruction is what the operand is counted from.
  have branchesToo : instruction.Branches
      (sentOn { machine with store } (frame.pc.shift instruction.length)).context.acc := branches
  rw [stepped, run_execute_branch branchesToo, at_.shift_target]
  split
  · rename_i call
    obtain ⟨outcome, after, ended⟩ := callProcedure_halts
      ⟨frame.pc.segment, instruction.target start⟩ (instruction.operand 1).toNat none
      (sentOn { machine with store } (frame.pc.shift instruction.length))
    refine ⟨outcome, after, ended, ?_, absurd call⟩
    rintro rfl
    exact gives_callProcedure_target _ _ _ _ _ _ ended
  · refine ⟨_, _, rfl, fun _ => ?_, fun _ => rfl⟩
    simp only [GoesOnAt, Context.current?, Context.modifyCurrent, FrameStack.list_modifyCurrent,
      deep]
    rfl

end Machine

end AdventureVm
