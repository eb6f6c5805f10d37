import AdventureVm.Instruction.Decode

/-!
An instruction is read from its own bytes and from nothing else.

Its opcode says how many these are, so that a buffer that is cut off somewhere either has all of
them, or shows that it was cut off too early.
-/

namespace AdventureVm

/-- So many bytes of a buffer, from an offset on, are found in another one, from an offset there. -/
def HoldsSame (code : Bytes) (start : Nat) (other : Bytes) (place count : Nat) : Prop :=
  ∀ index < count, other[place + index]? = code[start + index]?

/-- The length of the instructions that an opcode starts, if it starts any. -/
def instructionLength? (opcode : UInt8) : Option Nat :=
  (Operation.ofCode? (opcode.toNat / 2)).map fun operation =>
    1 + Instruction.operandSize (opcode.toNat % 2 == 1) operation.operandKinds

section Windows

variable {code other : Bytes} {start place count : Nat}

/-- The first byte is the same where there are any. -/
theorem HoldsSame.first (same : HoldsSame code start other place count) (some_ : 0 < count) :
    other[place]? = code[start]? :=
  same 0 some_

/-- Fewer bytes are the same as well. -/
theorem HoldsSame.mono (same : HoldsSame code start other place count) {fewer : Nat}
    (less : fewer ≤ count) : HoldsSame code start other place fewer :=
  fun index inside => same index (Nat.lt_of_lt_of_le inside less)

/-- The bytes after some of those that are the same are the same. -/
theorem HoldsSame.after (same : HoldsSame code start other place count) {skipped left : Nat}
    (inside : skipped + left ≤ count) :
    HoldsSame code (start + skipped) other (place + skipped) left := by
  -- The bytes after the skipped ones are bytes at higher places of the same stretch.
  intro index below
  rw [Nat.add_assoc, Nat.add_assoc]
  exact same (skipped + index) (by omega)

/-- A buffer that is continued holds what it held. -/
theorem holdsSame_append (more : Bytes) (inside : start + count ≤ code.size) :
    HoldsSame code start (code ++ more) start count :=
  fun _ below => Array.getElem?_append_left (by omega)

/-- The first bytes of a buffer are found in the buffer. -/
theorem holdsSame_of_cut {stop : Nat} (inside : start + count ≤ (code.extract 0 stop).size) :
    HoldsSame (code.extract 0 stop) start code start count := by
  -- A place below the cut is the same place of the buffer.
  intro index below
  rw [Array.size_extract] at inside
  rw [Array.getElem?_extract, if_pos (by omega), Nat.zero_add]

/-- A word is read from two bytes. -/
theorem HoldsSame.word? (same : HoldsSame code start other place 2) :
    word? other place = word? code start := by
  -- Both bytes of the word are among those that are the same.
  have first := same.first Nat.two_pos
  have second := same 1 Nat.one_lt_two
  simp only [AdventureVm.word?, first, second]

end Windows

section Operands

variable {code other : Bytes} {start place : Nat} {byteForm : Bool}

/-- An operand takes one byte or two. -/
theorem OperandKind.size_cases (byteForm : Bool) (kind : OperandKind) :
    kind.size byteForm = 1 ∨ kind.size byteForm = 2 := by
  cases kind <;> cases byteForm <;> decide

/-- The operands take the bytes of the first and those of the others. -/
theorem Instruction.operandSize_cons (byteForm : Bool) (kind : OperandKind)
    (kinds : List OperandKind) : operandSize byteForm (kind :: kinds) =
      kind.size byteForm + operandSize byteForm kinds := rfl

/-- The operands of an instruction take five bytes at most. -/
theorem Instruction.operandSize_le (byteForm : Bool) (operation : Operation) :
    operandSize byteForm operation.operandKinds ≤ 5 := by
  -- There are finitely many operations, each with its row of operands.
  cases byteForm <;> cases operation <;>
    simp [operandSize, Operation.operandKinds, totalSize, OperandKind.size]

open Instruction (operandSize operandSize_cons operandSize_le)

/-- The same bytes are the same operand, or too few for it. -/
theorem HoldsSame.readOperand? {kind : OperandKind}
    (same : HoldsSame code start other place (kind.size byteForm)) :
    readOperand? other place byteForm kind = readOperand? code start byteForm kind := by
  -- An operand has one byte or two.
  unfold AdventureVm.readOperand?
  rcases kind.size_cases byteForm with short | long
  · rw [short] at same
    rw [if_pos short, if_pos short, same.first Nat.one_pos]
  · rw [long] at same
    rw [if_neg (by omega), if_neg (by omega), same.word?]

/-- The same bytes are the same operands, or too few for them. -/
theorem HoldsSame.readOperands? {kinds : List OperandKind}
    (same : HoldsSame code start other place (operandSize byteForm kinds)) :
    readOperands? other byteForm place kinds = readOperands? code byteForm start kinds := by
  -- Induction on the kinds; each operand starts where the one before it ends.
  induction kinds generalizing start place with
  | nil => rfl
  | cons kind kinds ih =>
    rw [operandSize_cons] at same
    have first := (same.mono (Nat.le_add_right _ _)).readOperand?
    have rest := ih (same.after (Nat.le_refl _))
    simp only [AdventureVm.readOperands?, first, rest]

/-- There is a word where there are two bytes. -/
theorem isSome_word? : (word? code start).isSome = true ↔ start + 2 ≤ code.size := by
  unfold word?
  split
  · rename_i low high first second
    obtain ⟨inside, -⟩ := Array.getElem?_eq_some_iff.mp second
    simp only [Option.isSome_some, true_iff]
    omega
  · rename_i missing
    simp only [Option.isSome_none, Bool.false_eq_true, false_iff]
    intro inside
    -- Both places lie inside, so both bytes would have been found.
    exact missing _ _ (Array.getElem?_eq_getElem (by omega)) (Array.getElem?_eq_getElem (by omega))

/-- There is an operand where there are as many bytes as it takes. -/
theorem isSome_readOperand? (code : Bytes) (start : Nat) (byteForm : Bool) (kind : OperandKind) :
    (readOperand? code start byteForm kind).isSome = true ↔
      start + kind.size byteForm ≤ code.size := by
  unfold readOperand?
  -- An operand takes one byte or two.
  rcases kind.size_cases byteForm with short | long
  · rw [if_pos short, Option.isSome_map, short, Option.isSome_iff_exists]
    constructor
    · rintro ⟨byte, found⟩
      exact (Array.getElem?_eq_some_iff.mp found).1
    · exact fun inside => ⟨_, Array.getElem?_eq_getElem inside⟩
  · rw [if_neg (by omega), Option.isSome_map, long]
    exact isSome_word?

/-- There are all operands where there are as many bytes as they take together. -/
theorem isSome_readOperands? (inside : start ≤ code.size) (byteForm : Bool)
    (kinds : List OperandKind) :
    (readOperands? code byteForm start kinds).isSome = true ↔
      start + operandSize byteForm kinds ≤ code.size := by
  -- Each operand starts where the one before it ends, so the start stays quantified over.
  induction kinds generalizing start with
  | nil => simpa [readOperands?, operandSize, totalSize] using inside
  | cons kind kinds ih =>
    have first := isSome_readOperand? code start byteForm kind
    rw [readOperands?, operandSize_cons, ← Nat.add_assoc]
    cases read : readOperand? code start byteForm kind with
    -- The first operand is cut off, and the others would be behind it.
    | none =>
      rw [read] at first
      simp only [Option.isSome_none, Bool.false_eq_true, false_iff] at first
      simp only [Option.bind_eq_bind, Option.bind_none, Option.isSome_none, Bool.false_eq_true,
        false_iff]
      omega
    | some value =>
      rw [read] at first
      rw [← ih (first.mp rfl)]
      cases readOperands? code byteForm (start + kind.size byteForm) kinds <;> rfl

end Operands

section Decoding

variable {code other : Bytes} {pc place : Nat} {opcode : UInt8} {instruction : Instruction}

/-- An instruction has the opcode and the operands that are where it is read. -/
theorem decode_eq_ok : decode code pc = .ok instruction ↔
    ∃ opcode, code[pc]? = some opcode ∧
      Operation.ofCode? (opcode.toNat / 2) = some instruction.operation ∧
      instruction.byteForm = (opcode.toNat % 2 == 1) ∧
      readOperands? code instruction.byteForm (pc + 1) instruction.operation.operandKinds =
        some instruction.operands := by
  unfold decode
  constructor
  · -- Every other way through the reader ends with a fault.
    intro read
    split at read
    · cases read
    · rename_i opcode found
      dsimp only at read
      split at read
      · cases read
      · rename_i operation named
        split at read
        · cases read
        · rename_i operands given
          cases read
          exact ⟨opcode, found, named, rfl, given⟩
  · -- What the reader asks for is there, one thing after the other.
    rintro ⟨opcode, found, operation, form, operands⟩
    rw [form] at operands
    rw [found]
    dsimp only
    rw [operation]
    dsimp only
    rw [operands, ← form]

/-- Nothing is read where there is no byte. -/
theorem decode_of_none (missing : code[pc]? = none) : decode code pc = .error .truncated := by
  rw [decode, missing]

/-- An opcode that starts no instruction is refused, whatever comes after it. -/
theorem decode_of_undefined (found : code[pc]? = some opcode)
    (undefined : instructionLength? opcode = none) : decode code pc = .error (.invalid opcode) := by
  -- Decoding looks the operation up before it reads any operand.
  have unnamed : Operation.ofCode? (opcode.toNat / 2) = none := Option.map_eq_none_iff.mp undefined
  rw [decode, found]
  dsimp only
  rw [unnamed]

/-- An opcode that starts an instruction starts one of its length where there are all its bytes. -/
theorem decode_of_length {length : Nat} (found : code[pc]? = some opcode)
    (defined : instructionLength? opcode = some length) :
    (code.size < pc + length ∧ decode code pc = .error .truncated) ∨
      (pc + length ≤ code.size ∧
        ∃ instruction, decode code pc = .ok instruction ∧ instruction.length = length) := by
  obtain ⟨operation, named, rfl⟩ := Option.map_eq_some_iff.mp defined
  obtain ⟨inside, -⟩ := Array.getElem?_eq_some_iff.mp found
  -- The opcode is one byte, and the operands are all that can be cut off.
  have complete := isSome_readOperands? (Nat.succ_le_of_lt inside) (opcode.toNat % 2 == 1)
    operation.operandKinds
  rw [decode, found]
  dsimp only
  rw [named]
  dsimp only
  cases read : readOperands? code (opcode.toNat % 2 == 1) (pc + 1) operation.operandKinds with
  | none =>
    rw [read] at complete
    simp only [Option.isSome_none, Bool.false_eq_true, false_iff] at complete
    exact .inl ⟨by omega, rfl⟩
  | some operands =>
    rw [read] at complete
    exact .inr ⟨by have := complete.mp rfl; omega, _, rfl, rfl⟩

/-- The length of an instruction is the one that its opcode says. -/
theorem length_of_decode (read : decode code pc = .ok instruction) :
    ∃ opcode, code[pc]? = some opcode ∧ instructionLength? opcode = some instruction.length := by
  -- The length is one for the opcode and the sizes of its operands, which the opcode tells.
  obtain ⟨opcode, found, named, form, -⟩ := decode_eq_ok.mp read
  refine ⟨opcode, found, ?_⟩
  rw [instructionLength?, named, Option.map_some, ← form]
  rfl

/-- An instruction takes one byte at least and six at most. -/
theorem Instruction.length_bounds (instruction : Instruction) :
    1 ≤ instruction.length ∧ instruction.length ≤ 6 := by
  -- One byte is the opcode; the operands take five at most.
  have few := operandSize_le instruction.byteForm instruction.operation
  unfold length
  omega

/-- All bytes of an instruction are in the buffer. -/
theorem bound_of_decode (read : decode code pc = .ok instruction) :
    pc + instruction.length ≤ code.size := by
  -- An instruction that sticks out would have been truncated.
  obtain ⟨opcode, found, defined⟩ := length_of_decode read
  rcases decode_of_length found defined with ⟨-, truncated⟩ | ⟨inside, -⟩
  · rw [read] at truncated
    cases truncated
  · exact inside

/-- Where the bytes of an instruction are found, the instruction is read. -/
theorem HoldsSame.decode (same : HoldsSame code pc other place instruction.length)
    (read : decode code pc = .ok instruction) : decode other place = .ok instruction := by
  -- The opcode is the first of the bytes that are the same, the operands are the others.
  obtain ⟨opcode, found, operation, form, operands⟩ := decode_eq_ok.mp read
  refine decode_eq_ok.mpr ⟨opcode, ?_, operation, form, ?_⟩
  · rw [same.first instruction.length_bounds.1, found]
  · rw [(same.after (Nat.le_refl _)).readOperands?, operands]

/-- An opcode is refused because it starts no instruction. -/
theorem undefined_of_decode (refused : decode code pc = .error (.invalid opcode)) :
    code[pc]? = some opcode ∧ instructionLength? opcode = none := by
  -- An opcode that starts an instruction is read or cut off, but not refused.
  cases found : code[pc]? with
  | none =>
    rw [decode_of_none found] at refused
    cases refused
  | some byte =>
    cases defined : instructionLength? byte with
    | none =>
      rw [decode_of_undefined found defined] at refused
      cases refused
      exact ⟨rfl, defined⟩
    | some length =>
      rcases decode_of_length found defined with ⟨-, ended⟩ | ⟨-, read, ended, -⟩
      · rw [ended] at refused
        cases refused
      · rw [ended] at refused
        cases refused

/-- Code is cut off before an instruction, or within one. -/
theorem cut_of_decode (truncated : decode code pc = .error .truncated) :
    code.size ≤ pc ∨ ∃ opcode length, code[pc]? = some opcode ∧
      instructionLength? opcode = some length ∧ code.size < pc + length := by
  -- What is there and starts an instruction is cut off only for want of bytes.
  cases found : code[pc]? with
  | none => exact .inl (Array.getElem?_eq_none_iff.mp found)
  | some opcode =>
    cases defined : instructionLength? opcode with
    | none =>
      rw [decode_of_undefined found defined] at truncated
      cases truncated
    | some length =>
      rcases decode_of_length found defined with ⟨short, -⟩ | ⟨-, read, ended, -⟩
      · exact .inr ⟨opcode, length, rfl, defined, short⟩
      · rw [ended] at truncated
        cases truncated

/-- An instruction that is read from the first bytes of a buffer is read from the buffer. -/
theorem decode_of_cut {stop : Nat} (read : decode (code.extract 0 stop) pc = .ok instruction) :
    decode code pc = .ok instruction :=
  (holdsSame_of_cut (bound_of_decode read)).decode read

/-- The first bytes of a buffer are read like the buffer, unless they are too few. -/
theorem decode_cut (code : Bytes) (pc stop : Nat) :
    decode (code.extract 0 stop) pc = decode code pc ∨
      decode (code.extract 0 stop) pc = .error .truncated := by
  cases read : decode (code.extract 0 stop) pc with
  | ok instruction => exact .inl (decode_of_cut read).symm
  | error reason =>
    cases reason with
    | truncated => exact .inr rfl
    -- The opcode is among the first bytes, so the whole buffer has it as well.
    | invalid opcode =>
      obtain ⟨found, undefined⟩ := undefined_of_decode read
      obtain ⟨inside, -⟩ := Array.getElem?_eq_some_iff.mp found
      have same : HoldsSame (code.extract 0 stop) pc code pc 1 :=
        holdsSame_of_cut (Nat.succ_le_of_lt inside)
      exact .inl (decode_of_undefined ((same.first Nat.one_pos).trans found) undefined).symm

/--
An instruction is read from its own bytes, wherever they are, and from nothing else.

An opcode that is refused is refused everywhere. What is cut off is read as soon as all bytes of the
instruction are there, unless not even its opcode was. Where the code ends makes no other
difference.
-/
theorem decoding_is_local (code : Bytes) (pc : Nat) :
    (∀ instruction, decode code pc = .ok instruction →
      1 ≤ instruction.length ∧ instruction.length ≤ 6 ∧ pc + instruction.length ≤ code.size ∧
        ∀ other place, HoldsSame code pc other place instruction.length →
          decode other place = .ok instruction) ∧
    (∀ opcode, decode code pc = .error (.invalid opcode) → code[pc]? = some opcode ∧
      ∀ other place, other[place]? = some opcode →
        decode other place = .error (.invalid opcode)) ∧
    (decode code pc = .error .truncated → code.size ≤ pc ∨
      ∃ opcode length, code[pc]? = some opcode ∧ instructionLength? opcode = some length ∧
        code.size < pc + length ∧
        ∀ more, pc + length ≤ (code ++ more).size →
          ∃ instruction, decode (code ++ more) pc = .ok instruction ∧
            instruction.length = length) ∧
    ∀ stop later, decode (code.extract 0 stop) pc = decode (code.extract 0 later) pc ∨
      decode (code.extract 0 stop) pc = .error .truncated ∨
      decode (code.extract 0 later) pc = .error .truncated := by
  refine ⟨?_, ?_, ?_, ?_⟩
  · intro instruction read
    obtain ⟨least, most⟩ := instruction.length_bounds
    exact ⟨least, most, bound_of_decode read, fun other place same => same.decode read⟩
  · intro opcode refused
    obtain ⟨found, undefined⟩ := undefined_of_decode refused
    exact ⟨found, fun other place there => decode_of_undefined there undefined⟩
  · -- With all bytes of the instruction there, no second way to be cut off is left.
    intro truncated
    refine (cut_of_decode truncated).imp_right ?_
    rintro ⟨opcode, length, found, defined, short⟩
    refine ⟨opcode, length, found, defined, short, fun more inside => ?_⟩
    obtain ⟨within, -⟩ := Array.getElem?_eq_some_iff.mp found
    have there := (holdsSame_append more (Nat.succ_le_of_lt within)).first Nat.one_pos
    rcases decode_of_length (there.trans found) defined with ⟨outside, -⟩ | ⟨-, read⟩
    · omega
    · exact read
  · -- Each front either agrees with the whole or is too short.
    intro stop later
    rcases decode_cut code pc stop with first | first
    · rcases decode_cut code pc later with second | second
      · exact .inl (first.trans second.symm)
      · exact .inr (.inr second)
    · exact .inr (.inl first)

/-- The longest instruction is read in two places, but not from half of its bytes. -/
theorem decoding_is_local_callExport :
    decode #[0x46, 1, 0, 2, 0, 4, 0x4c] 0 = .ok ⟨.callExport, false, [1, 2, 4]⟩ ∧
    decode #[0x48, 0x46, 1, 0, 2, 0, 4] 1 = .ok ⟨.callExport, false, [1, 2, 4]⟩ ∧
    decode #[0x46, 1, 0, 2, 0, 4, 0x4c] 6 = .error (.invalid 0x4c) ∧
    decode #[0x4c] 0 = .error (.invalid 0x4c) ∧
    decode #[0x46, 1, 0] 0 = .error .truncated ∧
    ∃ instruction, decode (#[0x46, 1, 0] ++ #[2, 0, 4]) 0 = .ok instruction ∧
      instruction.length = 6 := by
  -- In the word form the first two operands take a word each, and the last one a byte.
  have whole : decode #[0x46, 1, 0, 2, 0, 4, 0x4c] 0 = .ok ⟨.callExport, false, [1, 2, 4]⟩ := rfl
  have refused : decode #[0x46, 1, 0, 2, 0, 4, 0x4c] 6 = .error (.invalid 0x4c) := rfl
  have half : decode #[0x46, 1, 0] 0 = .error .truncated := rfl
  refine ⟨whole, ?_, refused, ?_, half, ?_⟩
  · obtain ⟨-, -, -, elsewhere⟩ := (decoding_is_local _ _).1 _ whole
    exact elsewhere _ 1 (by unfold HoldsSame; decide)
  · exact ((decoding_is_local _ _).2.1 _ refused).2 _ 0 rfl
  · rcases (decoding_is_local _ _).2.2.1 half with outside | cut
    · exact absurd outside (by decide)
    · obtain ⟨opcode, length, found, defined, -, read⟩ := cut
      cases found
      cases defined
      exact read _ (by decide)

/-- Where not even the opcode is there, what comes next need not be an instruction. -/
theorem cut_before_opcode : decode #[] 0 = .error .truncated ∧
    ∀ size, ∃ more : Bytes, size ≤ more.size ∧ decode (#[] ++ more) 0 = .error (.invalid 0x4c) := by
  -- A byte that is no opcode in front, and as many more after it as wanted.
  refine ⟨rfl, fun size => ⟨#[0x4c] ++ Array.replicate size 0, ?_, ?_⟩⟩
  · rw [Array.size_append, Array.size_replicate]
    exact Nat.le_add_left _ _
  · have found : (#[] ++ (#[0x4c] ++ Array.replicate size 0) : Bytes)[0]? = some 0x4c := by
      rw [Array.empty_append, Array.getElem?_append_left Nat.one_pos]
      rfl
    exact decode_of_undefined found rfl

end Decoding

end AdventureVm
