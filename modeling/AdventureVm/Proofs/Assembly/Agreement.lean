import AdventureVm.Machine.Step
import AdventureVm.Proofs.Assembly.Emitting

/-!
The assembler and the decoder agree.

Linked code is read instruction by instruction. What is read is what the program says, in its order,
and an operand that stands for a label, an object or a text leads there.
-/

namespace AdventureVm

namespace VmM

variable {α β : Type} (machine : Machine)

/-- Looking at the registers gives what is there, and the work goes on with it. -/
theorem context_bind (query : Context → α) (next : α → VmM β) :
    (context query >>= next) machine = next (query machine.context) machine := by
  rfl

/-- Looking at memory gives what is there, and the work goes on with it. -/
theorem read_bind (query : Heap → α) (next : α → VmM β) :
    (read query >>= next) machine = next (query machine.store.heap) machine := by
  rfl

end VmM

namespace Machine

/-- Does with a target what an instruction does with the place that its first operand leads to. -/
def follow (instruction : Instruction) (target : Address) : VmM Unit := do
  match instruction.operation with
  | .branchTrue => if (← VmM.context (·.acc)).isTruthy then jumpTo target
  | .branchFalse => if !(← VmM.context (·.acc)).isTruthy then jumpTo target
  | .jump => jumpTo target
  | .call => callProcedure target (instruction.operand 1).toNat none
  | .loadOffset => VmM.setAcc target
  | .pushOffset => push target
  | _ => return ()

end Machine

namespace Linkage

/-- The place in the buffer that is meant, unless a number is. -/
def place? (linkage : Linkage) : Meaning → Option Nat
  | .number _ => none
  | .label target => (linkage.assembly.position? target).map (linkage.base + ·)
  | .object name => (linkage.places.object name).toOption
  | .text text => (linkage.places.text text).toOption

/-- An operand names a place, as it is or from where the next instruction is in the code. -/
def Names (linkage : Linkage) (next place : Nat) (operand : Int) : Prop :=
  if linkage.absolute then operand ≡ place [ZMOD 65536]
  else linkage.base + next + operand ≡ place [ZMOD 65536]

/-- An operand is what is meant, given where the next instruction is in the code. -/
def Meets (linkage : Linkage) (next : Nat) : Meaning → Int → Prop
  | .number value, operand => operand = value
  | .label target, operand => ∃ position, linkage.assembly.position? target = some position ∧
      next + operand ≡ position [ZMOD 65536]
  | .object name, operand => ∃ place, linkage.places.object name = .ok place ∧
      linkage.Names next place operand
  | .text text, operand => ∃ place, linkage.places.text text = .ok place ∧
      linkage.Names next place operand

/--
Executing an instruction leads to a place, in whatever segment the buffer is.

The machine has to count offsets in the way for which the code was linked.
-/
def Reaches (linkage : Linkage) (instruction : Instruction) (next place : Nat) : Prop :=
  ∀ (segment : SegmentId) (run : Runner) (machine : Machine),
    machine.store.heap.version.layout.absoluteOffsets = linkage.absolute →
    Machine.execute run instruction ⟨segment, UInt16.ofNat (linkage.base + next)⟩ machine =
      Machine.follow instruction ⟨segment, UInt16.ofNat place⟩ machine

/--
Linked code follows a program from an offset on, before which so many labels were created.

Reading an instruction and going on behind it visits the instructions of the program and no others,
and comes to the end of the code with the end of the program.
-/
inductive Follows (linkage : Linkage) (code : Bytes) : Nat → Nat → List Statement → Prop where
  | done {created : Nat} : Follows linkage code created code.size []
  | label {created pc : Nat} {rest : List Statement}
      (others : Follows linkage code (created + 1) pc rest) :
      Follows linkage code created pc (.label :: rest)
  /-- The last position that a label is given is the one it has. -/
  | bind {created pc : Nat} {label : Label} {rest : List Statement}
      (last : .bind label ∉ rest → label < created →
        linkage.assembly.position? label = some pc)
      (others : Follows linkage code created pc rest) :
      Follows linkage code created pc (.bind label :: rest)
  /-- An instruction is in its word form, its operands are those that are meant, and executing it
  leads to the place that is meant, if one is. -/
  | instruction {created pc : Nat} {statement : Statement} {rest : List Statement}
      {instruction : Instruction} {meanings : List Meaning}
      (decoded : decode code pc = .ok instruction) (wordForm : instruction.byteForm = false)
      (emits : statement.Emits instruction.operation meanings)
      (operands : List.Forall₂ (linkage.Meets (pc + instruction.length)) meanings
        instruction.operands)
      (reaches : ∀ place, meanings.head?.bind linkage.place? = some place →
        linkage.Reaches instruction (pc + instruction.length) place)
      (others : Follows linkage code created (pc + instruction.length) rest) :
      Follows linkage code created pc (statement :: rest)

end Linkage

section Places

/-- Numbers that differ by a multiple of 65536 have the same word. -/
theorem wordOfInt_eq_iff {left right : Int} :
    wordOfInt left = wordOfInt right ↔ left ≡ right [ZMOD 65536] := by
  -- A word is what is left of a number modulo 65536.
  have inside (value : Int) : (wordOfInt value).toNat = (value % 65536).toNat :=
    toNat_word (by omega)
  rw [← UInt16.toNat_inj, inside, inside, Int.ModEq]
  omega

/-- The word of a natural number is that of the integer. -/
theorem wordOfInt_natCast (value : Nat) : wordOfInt value = UInt16.ofNat value := by
  -- Both are the number modulo the same power of two.
  rw [← UInt16.toNat_inj, wordOfInt, toNat_word (by omega), UInt16.toNat_ofNat']
  omega

/-- A number and the signed reading of its word differ by a multiple of 65536. -/
theorem signedWord_modEq (value : Int) : signedWord (wordOfInt value) ≡ value [ZMOD 65536] := by
  -- The signed reading takes off 65536 once, or nothing.
  have inside : (wordOfInt value).toNat = (value % 65536).toNat := toNat_word (by omega)
  rw [signedWord, inside, Int.ModEq]
  split <;> omega

/-- Moving an address leads to where the sum is. -/
theorem Address.shift_ofNat {segment : SegmentId} {start place : Nat} {delta : Int}
    (leads : start + delta ≡ place [ZMOD 65536]) :
    (⟨segment, UInt16.ofNat start⟩ : Address).shift delta = ⟨segment, UInt16.ofNat place⟩ := by
  -- Both sums leave the same word, since offsets are words.
  have word : wordOfInt ((UInt16.ofNat start).toNat + delta) = wordOfInt place := by
    rw [wordOfInt_eq_iff]
    rw [Int.ModEq] at leads ⊢
    rw [UInt16.toNat_ofNat']
    omega
  rw [Address.shift, word, wordOfInt_natCast]

end Places

section Reading

variable {written code : Bytes} {references : List Reference} {linkage : Linkage}
  {arguments : List Argument} {meanings : List Meaning}

/-- Bytes that none of the open operands touches are kept. -/
theorem Linkage.Filled.carries {start : Nat} {part : Bytes}
    (filled : linkage.Filled references written code) (there : Carries written start part)
    (apart : ∀ reference ∈ references,
      reference.offset + 2 ≤ start ∨ start + part.size ≤ reference.offset) :
    Carries code start part := by
  -- A byte of the part is kept because it is in none of the open operands.
  refine ⟨filled.size ▸ there.bound, fun index inside => ?_⟩
  rw [filled.kept _ fun reference member => ?_, there.same index inside]
  have either := apart reference member
  rw [Reference.Avoids]
  omega

/-- Operands that are off a stretch of the code are off each part of it. -/
theorem apart_mono {openings : List Reference} {start stop first last : Nat}
    (apart : ∀ reference ∈ references,
      reference ∈ openings ∨ reference.offset + 2 ≤ start ∨ stop ≤ reference.offset)
    (begins : start ≤ first) (ends : last ≤ stop) : ∀ reference ∈ references,
      reference ∈ openings ∨ reference.offset + 2 ≤ first ∨ last ≤ reference.offset := by
  -- A smaller stretch ends before what the larger one ends before, and begins later.
  intro reference member
  rcases apart reference member with among | low | high
  · exact .inl among
  · exact .inr (.inl (by omega))
  · exact .inr (.inr (by omega))

/-- What a stretch of the code starts with is kept if its own open operands lie behind it. -/
theorem Linkage.Filled.carries_before {openings : List Reference} {start stop : Nat} {part : Bytes}
    (filled : linkage.Filled references written code) (there : Carries written start part)
    (inside : start + part.size ≤ stop)
    (behind : ∀ reference ∈ openings, start + part.size ≤ reference.offset)
    (apart : ∀ reference ∈ references,
      reference ∈ openings ∨ reference.offset + 2 ≤ start ∨ stop ≤ reference.offset) :
    Carries code start part := by
  -- An open operand is one of those behind the part, or it is off the whole stretch.
  refine filled.carries there fun reference member => ?_
  rcases apart reference member with among | low | high
  · exact .inr (behind reference among)
  · exact .inl low
  · exact .inr (by omega)

/-- A known operand is read as its kind says. -/
theorem readOperand?_value {kind : OperandKind} {word : UInt16} {start : Nat}
    (there : Carries code start (Assembly.argumentBytes kind (.value word))) :
    readOperand? code start false kind = some (kind.reading word) := by
  -- A byte takes one byte even in the word form; the other kinds take two.
  cases kind with
  | byte =>
    have first := there.same 0 (by simp [Assembly.argumentBytes, OperandKind.size])
    rw [Nat.add_zero] at first
    simp [readOperand?, OperandKind.size, OperandKind.reading, first, Assembly.argumentBytes]
  | relative | signed | unsigned =>
    have read : word? code start = some word := there.word?
    simp [readOperand?, OperandKind.size, OperandKind.reading, read]

/-- An operand that is filled in is what is meant. -/
theorem Linkage.meets_of_value {meaning : Meaning} {argument : Argument} {offset next : Nat}
    {value : Int} (stands : meaning.argument? = some argument)
    (found : linkage.value ⟨offset, next, argument⟩ = .ok value) :
    linkage.Meets next meaning (signedWord (wordOfInt value)) := by
  have near := signedWord_modEq value
  -- The place of an object or text is found first, and then taken as it is or as a distance.
  have named {place : Nat}
      (shown : Assembly.offsetValue linkage.base linkage.absolute next place = value) :
      linkage.Names next place (signedWord (wordOfInt value)) := by
    unfold Assembly.offsetValue at shown
    unfold Names
    split at shown <;> rename_i mode
    · rw [if_pos mode, shown]
      exact near
    · rw [if_neg mode]
      rw [Int.ModEq] at near ⊢
      omega
  -- A number is known from the start, so it is no open operand.
  cases meaning with
  | number => cases stands
  | label target =>
    cases stands
    simp only [Linkage.value, Assembly.referenceValue] at found
    split at found
    · rename_i position bound
      cases found
      -- A label is met modulo 65536, whatever sign the distance has.
      refine ⟨position, bound, ?_⟩
      rw [Int.ModEq] at near ⊢
      omega
    · cases found
  | object name =>
    cases stands
    obtain ⟨place, known, shown⟩ := map_eq_ok.mp found
    exact ⟨place, known, named shown⟩
  | text text =>
    cases stands
    obtain ⟨place, known, shown⟩ := map_eq_ok.mp found
    exact ⟨place, known, named shown⟩

/-- The operands of an instruction are read back from linked code as what is meant by them. -/
theorem Linkage.Filled.readOperands? (filled : linkage.Filled references written code)
    {kinds : List OperandKind} (means : Means kinds arguments meanings) {next offset : Nat}
    (there : Carries written offset (Assembly.argumentsBytes kinds arguments))
    (listed : ∀ reference ∈ Assembly.openings next offset kinds arguments, reference ∈ references)
    (apart : ∀ reference ∈ references,
      reference ∈ Assembly.openings next offset kinds arguments ∨ reference.offset + 2 ≤ offset ∨
        offset + Instruction.operandSize false kinds ≤ reference.offset) :
    ∃ operands, AdventureVm.readOperands? code false offset kinds = some operands ∧
      List.Forall₂ (linkage.Meets next) meanings operands := by
  -- Each operand starts where the one before it ends, so the offset stays quantified over.
  induction means generalizing offset with
  | none => exact ⟨[], rfl, .nil⟩
  | @value kind word number kinds arguments meanings same others ih =>
    have total : Instruction.operandSize false (kind :: kinds) =
        kind.size false + Instruction.operandSize false kinds := rfl
    rw [Assembly.argumentsBytes, Carries.append, Assembly.size_argumentBytes_value] at there
    -- The open operands that follow lie behind this one.
    have behind := (Assembly.openings_apart others next (offset + kind.size false)).2
    have width := Assembly.size_argumentBytes_value kind word
    have first := filled.carries_before there.1 (by omega)
      (fun reference among => width ▸ (behind reference among).1) apart
    obtain ⟨operands, read, meets⟩ := ih there.2 listed (apart_mono apart (by omega) (by omega))
    refine ⟨kind.reading word :: operands, ?_, .cons same meets⟩
    rw [AdventureVm.readOperands?, readOperand?_value first, read]
    rfl
  | @opening meaning argument kinds arguments meanings stands others ih =>
    have total : Instruction.operandSize false (.relative :: kinds) =
        2 + Instruction.operandSize false kinds := rfl
    have size : (wordBytes 0).size = OperandKind.relative.size false := rfl
    rw [Assembly.argumentsBytes, Carries.append, Assembly.argumentBytes_opening stands, size]
      at there
    rw [Assembly.openings_opening stands] at listed apart
    obtain ⟨value, known, held⟩ := filled.filled _ (listed _ List.mem_cons_self)
    obtain ⟨operands, read, meets⟩ := ih there.2
      (fun reference member => listed reference (List.mem_cons_of_mem _ member)) (by
      intro reference member
      have two : OperandKind.relative.size false = 2 := rfl
      -- An open operand is this one, a later one, or lies outside of all that is read.
      rcases apart reference member with among | low | high
      · rcases List.mem_cons.mp among with rfl | later
        · exact .inr (.inl (Nat.le_refl _))
        · exact .inl later
      · exact .inr (.inl (by omega))
      · exact .inr (.inr (by omega)))
    refine ⟨signedWord (wordOfInt value) :: operands, ?_, .cons (meets_of_value stands known) meets⟩
    have first : readOperand? code offset false .relative =
        some (signedWord (wordOfInt value)) := by
      simp [readOperand?, OperandKind.size, held]
    rw [AdventureVm.readOperands?, first, read]
    rfl

/-- The opcode of the word form is twice the number of the operation. -/
theorem toNat_opcodeByte (operation : Operation) :
    (Assembly.opcodeByte operation.code).toNat = 2 * operation.code := by
  -- Operations have numbers below 128, so twice the number fits a byte.
  have small := Operation.lt_of_ofCode? (Operation.ofCode?_code operation)
  rw [Assembly.opcodeByte, UInt8.toNat_ofNat_of_lt' (by simp only [UInt8.size]; omega)]

/-- An instruction is read back from linked code with the operands that are meant. -/
theorem Linkage.Filled.decode {operation : Operation} {pc next : Nat}
    (filled : linkage.Filled references written code)
    (means : Means operation.operandKinds arguments meanings)
    (ends : next = pc + 1 + Instruction.operandSize false operation.operandKinds)
    (there : Carries written pc (#[Assembly.opcodeByte operation.code] ++
      Assembly.argumentsBytes operation.operandKinds arguments))
    (listed : ∀ reference ∈ Assembly.openings next (pc + 1) operation.operandKinds arguments,
      reference ∈ references)
    (apart : ∀ reference ∈ references,
      reference ∈ Assembly.openings next (pc + 1) operation.operandKinds arguments ∨
        reference.offset + 2 ≤ pc ∨ next ≤ reference.offset) :
    ∃ operands, AdventureVm.decode code pc = .ok ⟨operation, false, operands⟩ ∧
      List.Forall₂ (linkage.Meets next) meanings operands := by
  have single : (#[Assembly.opcodeByte operation.code] : Bytes).size = 1 := rfl
  rw [Carries.append, single] at there
  -- The opcode lies before all operands of the instruction.
  have behind := (Assembly.openings_apart means next (pc + 1)).2
  have first := filled.carries_before there.1 (by omega)
    (fun reference among => (behind reference among).1) apart
  obtain ⟨operands, read, meets⟩ :=
    filled.readOperands? means there.2 listed (apart_mono apart (by omega) (by omega))
  refine ⟨operands, ?_, meets⟩
  have opcode : code[pc]? = some (Assembly.opcodeByte operation.code) := by
    simpa using first.same 0 (by simp)
  have even : (2 * operation.code % 2 == 1) = false := by
    rw [Nat.mul_mod_right]
    rfl
  simp only [AdventureVm.decode, opcode, toNat_opcodeByte, Nat.mul_div_cancel_left _ Nat.two_pos,
    Operation.ofCode?_code, even, read]

end Reading

namespace Linkage

variable {linkage : Linkage} {instruction : Instruction} {next place : Nat}

/-- A jump or call whose operand is the distance to a label leads to the label. -/
theorem reaches_label {target : Label}
    (jumps : instruction.operation ∈ [.branchTrue, .branchFalse, .jump, .call])
    (meets : linkage.Meets next (.label target) (instruction.operand 0))
    (found : linkage.place? (.label target) = some place) :
    linkage.Reaches instruction next place := by
  intro segment run machine _
  obtain ⟨position, bound, leads⟩ := meets
  simp only [place?, bound, Option.map_some, Option.some.injEq] at found
  subst found
  -- The distance counts in the code, and the code starts at the base on both sides.
  have lands : (⟨segment, UInt16.ofNat (linkage.base + next)⟩ : Address).shift
      (instruction.operand 0) = ⟨segment, UInt16.ofNat (linkage.base + position)⟩ := by
    apply Address.shift_ofNat
    rw [Int.ModEq] at leads ⊢
    omega
  simp only [List.mem_cons, List.not_mem_nil, or_false] at jumps
  rcases jumps with shape | shape | shape | shape
  all_goals simp only [Machine.execute, Machine.follow, shape, VmM.context_bind, lands]

/-- An operand that names a place stands for the address of the place. -/
theorem offsetAddress_of_names {version : Version} {operand : Int}
    (mode : version.layout.absoluteOffsets = linkage.absolute)
    (names : linkage.Names next place operand) (segment : SegmentId) :
    Machine.offsetAddress version ⟨segment, UInt16.ofNat (linkage.base + next)⟩ operand =
      ⟨segment, UInt16.ofNat place⟩ := by
  unfold Names at names
  unfold Machine.offsetAddress
  rw [mode]
  -- An absolute operand is the place itself, a relative one the distance to it.
  split at names <;> rename_i absolute
  · rw [if_pos absolute, wordOfInt_eq_iff.mpr names, wordOfInt_natCast]
  · rw [if_neg absolute]
    apply Address.shift_ofNat
    simpa using names

/-- An instruction whose operand names a place gives the address of the place. -/
theorem reaches_offset (names : instruction.operation ∈ [.loadOffset, .pushOffset])
    (named : linkage.Names next place (instruction.operand 0)) :
    linkage.Reaches instruction next place := by
  -- Both operations work out the address before they differ.
  intro segment run machine mode
  have lands := offsetAddress_of_names mode named segment
  simp only [List.mem_cons, List.not_mem_nil, or_false] at names
  rcases names with shape | shape
  all_goals
    simp only [Machine.execute, Machine.follow, shape, VmM.context_bind, VmM.read_bind, lands]

/-- Executing an instruction whose operands are what is meant leads to where it is meant to. -/
theorem reaches_of_emits {statement : Statement} {meanings : List Meaning}
    (emits : statement.Emits instruction.operation meanings)
    (operands : List.Forall₂ (linkage.Meets next) meanings instruction.operands)
    (found : meanings.head?.bind linkage.place? = some place) :
    linkage.Reaches instruction next place := by
  obtain ⟨operation, byteForm, values⟩ := instruction
  -- Objects and texts are found among the places, and that is the place which is meant.
  have named {kept : Except BuildError Nat} {operand : Int}
      (known : kept.toOption = some place)
      (meets : ∃ place, kept = .ok place ∧ linkage.Names next place operand) :
      linkage.Names next place operand := by
    obtain ⟨other, rfl, names⟩ := meets
    cases known
    exact names
  cases emits with
  | branch jumps target =>
    obtain ⟨operand, _, meets, -, rfl⟩ := List.forall₂_cons_left_iff.mp operands
    refine reaches_label ?_ meets found
    simp only [List.mem_cons, List.not_mem_nil, or_false] at jumps ⊢
    tauto
  | call target fits =>
    obtain ⟨operand, _, meets, -, rfl⟩ := List.forall₂_cons_left_iff.mp operands
    exact reaches_label (by simp) meets found
  | objectOffset names name =>
    obtain ⟨operand, _, meets, -, rfl⟩ := List.forall₂_cons_left_iff.mp operands
    exact reaches_offset names (named found meets)
  | textOffset names text =>
    obtain ⟨operand, _, meets, -, rfl⟩ := List.forall₂_cons_left_iff.mp operands
    exact reaches_offset names (named found meets)
  -- The other statements name no place.
  | _ => cases found

/-- Code that is filled in follows what is left of the program from where it was assembled. -/
theorem follows_of_filled {assembly : Assembly} {program : List Statement} {code : Bytes}
    (emitted : ∀ statement ∈ program, statement.IsEmitted)
    (assembled : linkage.assembly = program.foldl Assembly.add assembly)
    (earlier : ∀ reference ∈ assembly.references.toList,
      reference.offset + 2 ≤ assembly.code.size)
    (filled : linkage.Filled linkage.assembly.references.toList linkage.assembly.code code) :
    linkage.Follows code assembly.labels.size assembly.code.size program := by
  -- What is assembled so far changes from statement to statement, so it stays quantified over.
  induction program generalizing assembly with
  | nil =>
    rw [List.foldl_nil] at assembled
    rw [← assembled, ← filled.size]
    exact .done
  | cons statement program ih =>
    obtain ⟨first, rest⟩ := List.forall_mem_cons.mp emitted
    rw [List.foldl_cons] at assembled
    cases first with
    | label =>
      have onward := ih rest assembled earlier
      rw [Assembly.add, Array.size_push] at onward
      exact .label onward
    | bind label =>
      have onward := ih rest assembled earlier
      simp only [Assembly.add, Array.size_setIfInBounds] at onward
      refine .bind (fun unbound created => ?_) onward
      -- Nothing that follows moves the label.
      have still : label < (assembly.add (.bind label)).labels.size := by
        simpa [Assembly.add] using created
      rw [Assembly.position?, assembled, Assembly.labels_foldl rest unbound still]
      simp [Assembly.add, created]
    | @instruction _ operation meanings emits =>
      obtain ⟨arguments, means, adds⟩ := emits.adds
      have onward := ih rest assembled
        ((Assembly.continues_add (.instruction emits)).inside earlier)
      have continues : (assembly.add statement).Continues linkage.assembly :=
        assembled ▸ Assembly.continues_foldl rest
      rw [adds, Assembly.addInstruction_eq means] at onward continues
      obtain ⟨⟨more, appended⟩, later, listed, -, behind⟩ := continues
      have size : (assembly.code ++ (#[Assembly.opcodeByte operation.code] ++
          Assembly.argumentsBytes operation.operandKinds arguments)).size =
          assembly.code.size + 1 + Instruction.operandSize false operation.operandKinds := by
        rw [Array.size_append, Array.size_append, Assembly.size_argumentsBytes means, Nat.add_assoc]
        rfl
      simp only [size, Array.toList_append] at onward behind listed
      -- The bytes of the instruction are in what is assembled in the end.
      have there := ((Carries.self (#[Assembly.opcodeByte operation.code] ++
        Assembly.argumentsBytes operation.operandKinds arguments)).after assembly.code).before more
      rw [← appended, Nat.add_zero] at there
      -- An open operand is an earlier one, one of this instruction, or a later one.
      obtain ⟨operands, decoded, meets⟩ := filled.decode means rfl there (by
        intro reference member
        rw [listed]
        exact List.mem_append_left _ (List.mem_append_right _ member)) (by
        intro reference member
        rw [listed] at member
        rcases List.mem_append.mp member with before | after
        · rcases List.mem_append.mp before with early | own
          · exact .inr (.inl (earlier reference early))
          · exact .inl own
        · exact .inr (.inr (behind reference after).1))
      have length : (⟨operation, false, operands⟩ : Instruction).length =
          1 + Instruction.operandSize false operation.operandKinds := rfl
      rw [Nat.add_assoc, ← length] at meets onward
      exact .instruction decoded rfl emits meets (fun _ => reaches_of_emits emits meets) onward

/--
Linked code follows the program that it was assembled from.

This holds wherever the code starts, whichever way offsets are counted and wherever the objects and
texts are, as long as linking succeeds.
-/
theorem follows_program {program : List Statement} {code : Bytes}
    (emitted : ∀ statement ∈ program, statement.IsEmitted)
    (assembled : linkage.assembly = .ofProgram program) (linked : linkage.code = .ok code) :
    linkage.Follows code 0 0 program := by
  -- All open operands were left by the program itself, and apart from each other.
  have continues : Assembly.Continues {} linkage.assembly :=
    assembled ▸ Assembly.continues_foldl emitted
  obtain ⟨later, listed, apart, -⟩ := continues.references
  rw [show (({} : Assembly).references.toList ++ later) = later from rfl] at listed
  have filled := filled_of_foldlM (listed ▸ apart) (continues.inside (by simp)) linked
  exact follows_of_filled emitted assembled (by simp) filled

/-- A loop with a call into it, a label that is given a position twice and an object far away. -/
theorem follows_program_far :
    let program : List Statement :=
      [.label, .label, .bind 0, .loadImmediate (-2), .branch .branchFalse 1, .bind 1, .call 0 3,
        .objectOffset .pushOffset "ego", .textOffset .loadOffset "Hi", .bind 1, .branch .jump 0,
        .opcode 36]
    let linkage : Linkage :=
      ⟨.ofProgram program, 8, false, { objects := [("ego", 40000)], texts := [("Hi", 4)] }⟩
    let code : Bytes :=
      #[52, 254, 255, 48, 10, 0, 64, 246, 255, 6, 116, 43, 156, 114, 236, 255, 50, 237, 255, 72]
    linkage.code = .ok code ∧ linkage.Follows code 0 0 program := by
  intro program linkage code
  have linked : linkage.code = .ok code := by decide +kernel
  refine ⟨linked, follows_program ?_ rfl linked⟩
  -- Each statement is one that can be written, which is decided where it has numbers.
  simp only [program, List.forall_mem_cons]
  exact ⟨.label, .label, .bind 0, .instruction (.loadImmediate (by decide) (by decide)),
    .instruction (.branch (by decide) 1), .bind 1, .instruction (.call 0 (by decide)),
    .instruction (.objectOffset (by decide) "ego"), .instruction (.textOffset (by decide) "Hi"),
    .bind 1, .instruction (.branch (by decide) 0), .instruction (.opcode rfl rfl), by simp⟩

end Linkage

end AdventureVm
