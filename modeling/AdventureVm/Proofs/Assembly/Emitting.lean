import AdventureVm.Proofs.Assembly.Linking

/-!
What the statements of a program add to assembled code.

Each way of writing an instruction is listed with the operands that are meant by it. An instruction
adds its bytes at the end of the code, and an open operand is noted where its bytes are.
-/

namespace AdventureVm

/-- What is meant by an operand. -/
inductive Meaning where
  /-- A number. -/
  | number (value : Int)
  /-- The distance to a label. -/
  | label (target : Label)
  /-- The place of an object. -/
  | object (name : String)
  /-- The place of a text. -/
  | text (text : String)
deriving Repr, DecidableEq

/-- The open operand that stands for what is meant, unless a number is meant. -/
def Meaning.argument? : Meaning → Option Argument
  | number _ => none
  | label target => some (.label target)
  | object name => some (.object name)
  | .text spelled => some (.text spelled)

/--
A statement writes an operation with operands that mean something.

Numbers of words and of properties are stored in bytes, so twice the number has to fit its operand.
-/
inductive Statement.Emits : Statement → Operation → List Meaning → Prop where
  | opcode {number : Nat} {operation : Operation}
      (known : Operation.ofCode? number = some operation)
      (bare : operation.operandKinds = []) : Emits (.opcode number) operation []
  | plain {operation : Operation} (bare : operation.operandKinds = []) :
      Emits (.plain operation) operation []
  | loadImmediate {value : Int} (low : -32768 ≤ value) (high : value ≤ 32767) :
      Emits (.loadImmediate value) .loadImmediate [.number value]
  | pushImmediate {value : Int} (low : -32768 ≤ value) (high : value ≤ 32767) :
      Emits (.pushImmediate value) .pushImmediate [.number value]
  | branch {operation : Operation} (jumps : operation ∈ [.branchTrue, .branchFalse, .jump])
      (target : Label) : Emits (.branch operation target) operation [.label target]
  | link (count : UInt16) : Emits (.link count) .link [.number count.toNat]
  | call (target : Label) {argc : UInt16} (fits : argc.toNat < 128) :
      Emits (.call target argc) .call [.label target, .number (2 * argc.toNat)]
  | callKernel (index : UInt16) {argc : UInt16} (fits : argc.toNat < 128) :
      Emits (.callKernel index argc) .callKernel [.number index.toNat, .number (2 * argc.toNat)]
  | callBase (index : UInt16) {argc : UInt16} (fits : argc.toNat < 128) :
      Emits (.callBase index argc) .callBase [.number index.toNat, .number (2 * argc.toNat)]
  | callExport (script index : UInt16) {argc : UInt16} (fits : argc.toNat < 128) :
      Emits (.callExport script index argc) .callExport
        [.number script.toNat, .number index.toNat, .number (2 * argc.toNat)]
  | send {words : UInt16} (fits : words.toNat < 128) :
      Emits (.send words) .send [.number (2 * words.toNat)]
  | sendSelf {words : UInt16} (fits : words.toNat < 128) :
      Emits (.sendSelf words) .sendSelf [.number (2 * words.toNat)]
  | sendSuper (species : UInt16) {words : UInt16} (fits : words.toNat < 128) :
      Emits (.sendSuper species words) .sendSuper
        [.number species.toNat, .number (2 * words.toNat)]
  | loadClass (species : UInt16) : Emits (.loadClass species) .loadClass [.number species.toNat]
  | rest (first : UInt16) : Emits (.rest first) .rest [.number first.toNat]
  | lea (kind : VariableKind) (index : UInt16) :
      Emits (.lea kind index) .lea [.number (2 * kind.bits : Nat), .number index.toNat]
  | property (action : VariableAction) {index : UInt16} (fits : index.toNat < 32768) :
      Emits (.property action index) (.property action) [.number (2 * index.toNat)]
  | access (op : VariableOp) (index : UInt16) :
      Emits (.access op index) (.variable op) [.number index.toNat]
  | objectOffset {operation : Operation} (names : operation ∈ [.loadOffset, .pushOffset])
      (name : String) : Emits (.objectOffset operation name) operation [.object name]
  | textOffset {operation : Operation} (names : operation ∈ [.loadOffset, .pushOffset])
      (text : String) : Emits (.textOffset operation text) operation [.text text]

/-- The statement concerns labels, or it writes an instruction with fitting operands. -/
inductive Statement.IsEmitted : Statement → Prop where
  | label : IsEmitted .label
  | bind (label : Label) : IsEmitted (.bind label)
  | instruction {statement : Statement} {operation : Operation} {meanings : List Meaning}
      (emits : statement.Emits operation meanings) : IsEmitted statement

/-- The number that the word form of an operand stands for. -/
def OperandKind.reading (kind : OperandKind) (word : UInt16) : Int :=
  match kind with
  | relative | signed => signedWord word
  | unsigned => word.toNat
  | byte => (lowByte word).toNat

/-- Operands of some kinds, as they are written, mean something. -/
inductive Means : List OperandKind → List Argument → List Meaning → Prop where
  | none : Means [] [] []
  | value {kind : OperandKind} {word : UInt16} {number : Int} {kinds : List OperandKind}
      {arguments : List Argument} {meanings : List Meaning} (same : kind.reading word = number)
      (others : Means kinds arguments meanings) :
      Means (kind :: kinds) (.value word :: arguments) (.number number :: meanings)
  | opening {meaning : Meaning} {argument : Argument} {kinds : List OperandKind}
      {arguments : List Argument} {meanings : List Meaning}
      (stands : meaning.argument? = some argument) (others : Means kinds arguments meanings) :
      Means (.relative :: kinds) (argument :: arguments) (meaning :: meanings)

/-- Every number under which an operation is found has seven bits. -/
theorem Operation.lt_of_ofCode? {number : Nat} {operation : Operation}
    (found : ofCode? number = some operation) : number < 128 := by
  unfold ofCode? at found
  -- The operations on variables come last, and they fill the numbers up to the bound.
  split at found
  · rename_i low
    exact Nat.lt_trans low (by decide)
  · obtain ⟨op, isVariable, _⟩ := Option.map_eq_some_iff.mp found
    unfold VariableOp.ofCode? at isVariable
    split at isVariable
    · rename_i inside
      exact inside.2
    · cases isVariable

/-- An operation has the number under which it is found. -/
theorem Operation.code_of_ofCode? {number : Nat} {operation : Operation}
    (found : ofCode? number = some operation) : operation.code = number := by
  -- The numbers are checked one by one.
  have checked : ∀ number : Fin 128, (ofCode? number.val).all (·.code == number.val) = true := by
    decide
  have same := checked ⟨number, lt_of_ofCode? found⟩
  simpa [found] using same

section Numbers

/-- A signed number that fits a word is read back from it. -/
theorem signedWord_wordOfInt {value : Int} (low : -32768 ≤ value) (high : value ≤ 32767) :
    signedWord (wordOfInt value) = value := by
  -- A negative number was raised by 65536, and the reading takes that off again.
  have inside : (value % 65536).toNat < 65536 := by omega
  rw [signedWord, wordOfInt, toNat_word inside]
  split <;> omega

/-- The bytes that a few words take fit one byte. -/
theorem toNat_lowByte_double {words : UInt16} (fits : words.toNat < 128) :
    ((lowByte (2 * words)).toNat : Int) = 2 * words.toNat := by
  have double : (2 * words).toNat = 2 * words.toNat := by
    rw [UInt16.toNat_mul]
    exact Nat.mod_eq_of_lt (by simp; omega)
  -- Doubled, the number is still below 256, so its low byte is all of it.
  rw [lowByte, double, UInt8.toNat_ofNat']
  omega

/-- Twice a number fits a word when the number is below half of what fits. -/
theorem toNat_double {index : UInt16} (fits : index.toNat < 32768) :
    ((2 * index).toNat : Int) = 2 * index.toNat := by
  -- The double is computed modulo 65536, which it does not reach.
  have double : (2 * index).toNat = 2 * index.toNat := by
    rw [UInt16.toNat_mul]
    exact Nat.mod_eq_of_lt (by simp; omega)
  omega

end Numbers

/-- What a statement writes is an instruction whose operands mean what is meant. -/
theorem Statement.Emits.adds {statement : Statement} {operation : Operation}
    {meanings : List Meaning} (emits : statement.Emits operation meanings) :
    ∃ arguments, Means operation.operandKinds arguments meanings ∧
      ∀ assembly : Assembly,
        assembly.add statement = assembly.addInstruction operation arguments := by
  cases emits with
  | opcode known bare =>
    refine ⟨[], bare ▸ .none, fun assembly => ?_⟩
    rw [← Operation.code_of_ofCode? known]
    simp [Assembly.add, Assembly.addInstruction]
  | plain bare => exact ⟨[], bare ▸ .none, fun _ => rfl⟩
  | loadImmediate low high =>
    exact ⟨_, .value (signedWord_wordOfInt low high) .none, fun _ => rfl⟩
  | pushImmediate low high =>
    exact ⟨_, .value (signedWord_wordOfInt low high) .none, fun _ => rfl⟩
  | branch jumps target =>
    -- All three branches have one operand, a distance.
    refine ⟨[.label target], ?_, fun _ => rfl⟩
    simp only [List.mem_cons, List.not_mem_nil, or_false] at jumps
    rcases jumps with rfl | rfl | rfl
    all_goals exact .opening rfl .none
  | link count => exact ⟨_, .value rfl .none, fun _ => rfl⟩
  -- The byte that counts the arguments holds twice their number.
  | call target fits =>
    exact ⟨_, .opening rfl (.value (toNat_lowByte_double fits) .none), fun _ => rfl⟩
  | callKernel index fits =>
    exact ⟨_, .value rfl (.value (toNat_lowByte_double fits) .none), fun _ => rfl⟩
  | callBase index fits =>
    exact ⟨_, .value rfl (.value (toNat_lowByte_double fits) .none), fun _ => rfl⟩
  | callExport script index fits =>
    exact ⟨_, .value rfl (.value rfl (.value (toNat_lowByte_double fits) .none)), fun _ => rfl⟩
  | send fits => exact ⟨_, .value (toNat_lowByte_double fits) .none, fun _ => rfl⟩
  | sendSelf fits => exact ⟨_, .value (toNat_lowByte_double fits) .none, fun _ => rfl⟩
  | sendSuper species fits =>
    exact ⟨_, .value rfl (.value (toNat_lowByte_double fits) .none), fun _ => rfl⟩
  | loadClass species => exact ⟨_, .value rfl .none, fun _ => rfl⟩
  | rest first => exact ⟨_, .value rfl .none, fun _ => rfl⟩
  | lea kind index =>
    -- The kind of a variable is written as an even word, which reads as itself.
    have bits : OperandKind.unsigned.reading (UInt16.ofNat (2 * kind.bits)) =
        (2 * kind.bits : Nat) := by cases kind <;> rfl
    exact ⟨[.value (UInt16.ofNat (2 * kind.bits)), .value index], .value bits (.value rfl .none),
      fun _ => rfl⟩
  | property action fits => exact ⟨_, .value (toNat_double fits) .none, fun _ => rfl⟩
  | access op index => exact ⟨_, .value rfl .none, fun _ => rfl⟩
  | objectOffset names name =>
    refine ⟨[.object name], ?_, fun _ => rfl⟩
    simp only [List.mem_cons, List.not_mem_nil, or_false] at names
    rcases names with rfl | rfl
    all_goals exact .opening rfl .none
  | textOffset names text =>
    refine ⟨[.text text], ?_, fun _ => rfl⟩
    simp only [List.mem_cons, List.not_mem_nil, or_false] at names
    rcases names with rfl | rfl
    all_goals exact .opening rfl .none

namespace Assembly

variable {kinds : List OperandKind} {arguments : List Argument} {meanings : List Meaning}

/-- The bytes of operands one after the other. -/
def argumentsBytes : List OperandKind → List Argument → Bytes
  | kind :: kinds, argument :: arguments =>
    argumentBytes kind argument ++ argumentsBytes kinds arguments
  | _, _ => #[]

/-- The open ones among operands that are stored from an offset on. -/
def openings (next : Nat) : Nat → List OperandKind → List Argument → List Reference
  | offset, kind :: kinds, .value _ :: arguments =>
    openings next (offset + kind.size false) kinds arguments
  | offset, kind :: kinds, argument :: arguments =>
    ⟨offset, next, argument⟩ :: openings next (offset + kind.size false) kinds arguments
  | _, _, _ => []

/-- A known operand takes the bytes that its kind says. -/
theorem size_argumentBytes_value (kind : OperandKind) (word : UInt16) :
    (argumentBytes kind (.value word)).size = kind.size false := by
  cases kind <;> rfl

/-- What is no number is left open, in two bytes. -/
theorem argumentBytes_opening {meaning : Meaning} {argument : Argument}
    (stands : meaning.argument? = some argument) (kind : OperandKind) :
    argumentBytes kind argument = wordBytes 0 := by
  cases meaning <;> cases stands <;> rfl

/-- Operands that mean something take the bytes that their kinds say. -/
theorem size_argumentsBytes (means : Means kinds arguments meanings) :
    (argumentsBytes kinds arguments).size = Instruction.operandSize false kinds := by
  -- What names a place is written as a word of its own, to be filled in later.
  induction means with
  | none => rfl
  | value same others ih =>
    rw [argumentsBytes, Array.size_append, size_argumentBytes_value, ih]
    rfl
  | opening stands others ih =>
    rw [argumentsBytes, Array.size_append, argumentBytes_opening stands, ih]
    rfl

/-- An open operand that comes first is noted first. -/
theorem openings_opening {meaning : Meaning} {argument : Argument}
    (stands : meaning.argument? = some argument) (next offset : Nat) (kind : OperandKind)
    (kinds : List OperandKind) (arguments : List Argument) :
    openings next offset (kind :: kinds) (argument :: arguments) =
      ⟨offset, next, argument⟩ :: openings next (offset + kind.size false) kinds arguments := by
  cases meaning <;> cases stands <;> rfl

/-- Adding an open operand notes it. -/
theorem addArgument_opening {meaning : Meaning} {argument : Argument}
    (stands : meaning.argument? = some argument) (next : Nat) (assembly : Assembly)
    (kind : OperandKind) :
    assembly.addArgument next kind argument =
      { assembly with
        code := assembly.code ++ wordBytes 0
        references := assembly.references.push ⟨assembly.code.size, next, argument⟩ } := by
  cases meaning <;> cases stands <;> rfl

/-- Adding operands adds their bytes and notes the open ones. -/
theorem foldl_addArgument (means : Means kinds arguments meanings) (next : Nat)
    (assembly : Assembly) :
    (kinds.zip arguments).foldl
        (fun built (kind, argument) => built.addArgument next kind argument) assembly =
      { assembly with
        code := assembly.code ++ argumentsBytes kinds arguments
        references := assembly.references ++
          (openings next assembly.code.size kinds arguments).toArray } := by
  -- The code grows from operand to operand, so it stays quantified over.
  induction means generalizing assembly with
  | none => simp [argumentsBytes, openings]
  | @value kind word number kinds arguments meanings same others ih =>
    rw [List.zip_cons_cons, List.foldl_cons, ih]
    simp only [addArgument, argumentsBytes, openings, Array.append_assoc, Array.size_append,
      size_argumentBytes_value]
  | @opening meaning argument kinds arguments meanings stands others ih =>
    rw [List.zip_cons_cons, List.foldl_cons, ih, openings_opening stands]
    simp only [addArgument_opening stands, argumentsBytes, argumentBytes_opening stands]
    simp [wordBytes, OperandKind.size]

/-- An instruction adds its opcode and its operands, and notes the open ones. -/
theorem addInstruction_eq {operation : Operation}
    (means : Means operation.operandKinds arguments meanings) (assembly : Assembly) :
    assembly.addInstruction operation arguments =
      { assembly with
        code := assembly.code ++
          (#[opcodeByte operation.code] ++ argumentsBytes operation.operandKinds arguments)
        references := assembly.references ++
          (openings (assembly.code.size + 1 + Instruction.operandSize false operation.operandKinds)
            (assembly.code.size + 1) operation.operandKinds arguments).toArray } := by
  rw [addInstruction, foldl_addArgument means]
  simp

/-- Open operands lie inside the bytes of the operands, and none overlaps the next. -/
theorem openings_apart (means : Means kinds arguments meanings) (next offset : Nat) :
    (openings next offset kinds arguments).Pairwise
        (fun first second => first.offset + 2 ≤ second.offset) ∧
      ∀ reference ∈ openings next offset kinds arguments, offset ≤ reference.offset ∧
        reference.offset + 2 ≤ offset + Instruction.operandSize false kinds := by
  induction means generalizing offset with
  | none => exact ⟨.nil, by simp [openings]⟩
  | @value kind word number kinds arguments meanings same others ih =>
    -- A known operand is not noted, but those behind it lie further on by its bytes.
    obtain ⟨apart, inside⟩ := ih (offset + kind.size false)
    refine ⟨apart, fun reference member => ?_⟩
    obtain ⟨low, high⟩ := inside reference member
    simp only [Instruction.operandSize, List.map_cons, totalSize] at high ⊢
    omega
  | @opening meaning argument kinds arguments meanings stands others ih =>
    obtain ⟨apart, inside⟩ := ih (offset + OperandKind.relative.size false)
    rw [openings_opening stands]
    have size : OperandKind.relative.size false = 2 := rfl
    simp only [Instruction.operandSize, List.map_cons, totalSize, size] at inside ⊢
    refine ⟨List.pairwise_cons.mpr ⟨fun later member => (inside later member).1, apart⟩, ?_⟩
    intro reference member
    rcases List.mem_cons.mp member with rfl | later
    · exact ⟨Nat.le_refl _, by simp only; omega⟩
    · obtain ⟨low, high⟩ := inside reference later
      omega

/-- Assembled code continues other code, and its further open operands lie in what was added. -/
structure Continues (before after : Assembly) : Prop where
  /-- Code is added at the end. -/
  code : ∃ more, after.code = before.code ++ more
  /-- Open operands are noted at the end, and none overlaps the next. -/
  references : ∃ later, after.references.toList = before.references.toList ++ later ∧
    later.Pairwise (fun first second => first.offset + 2 ≤ second.offset) ∧
    ∀ reference ∈ later,
      before.code.size ≤ reference.offset ∧ reference.offset + 2 ≤ after.code.size

namespace Continues

variable {before middle after : Assembly}

/-- Code that is not changed continues itself. -/
theorem of_same (code : after.code = before.code)
    (references : after.references = before.references) : Continues before after :=
  ⟨⟨#[], by simp [code]⟩, [], by simp [references], .nil, by simp⟩

/-- The code gets no shorter. -/
theorem size_le (continues : Continues before after) : before.code.size ≤ after.code.size := by
  -- The code afterwards is that of before with more behind it.
  obtain ⟨more, added⟩ := continues.code
  rw [added, Array.size_append]
  omega

/-- Open operands lie in the code if those before lay in it. -/
theorem inside (continues : Continues before after)
    (earlier : ∀ reference ∈ before.references.toList, reference.offset + 2 ≤ before.code.size) :
    ∀ reference ∈ after.references.toList, reference.offset + 2 ≤ after.code.size := by
  -- An operand was open before, or was opened by what was added.
  obtain ⟨later, listed, -, bounds⟩ := continues.references
  intro reference member
  rw [listed] at member
  rcases List.mem_append.mp member with among | among
  · exact Nat.le_trans (earlier reference among) continues.size_le
  · exact (bounds reference among).2

/-- What continues a continuation continues the first. -/
theorem trans (first : Continues before middle) (second : Continues middle after) :
    Continues before after := by
  have shorter := first.size_le
  have longer := second.size_le
  obtain ⟨⟨more, code⟩, early, listed, apart, inside⟩ := first
  obtain ⟨⟨further, code'⟩, later, listed', apart', inside'⟩ := second
  refine ⟨⟨more ++ further, by rw [code', code, Array.append_assoc]⟩, early ++ later,
    by rw [listed', listed, List.append_assoc], ?_, ?_⟩
  · -- The first ones end before the code in which the others are.
    refine List.pairwise_append.mpr ⟨apart, apart', fun first among second member => ?_⟩
    exact Nat.le_trans (inside first among).2 (inside' second member).1
  · intro reference member
    rcases List.mem_append.mp member with among | among
    · obtain ⟨low, high⟩ := inside reference among
      exact ⟨low, Nat.le_trans high longer⟩
    · obtain ⟨low, high⟩ := inside' reference among
      exact ⟨Nat.le_trans shorter low, high⟩

end Continues

variable {assembly : Assembly} {statement : Statement} {program : List Statement}

/-- An instruction continues the code. -/
theorem continues_addInstruction {operation : Operation} {arguments : List Argument}
    {meanings : List Meaning} (means : Means operation.operandKinds arguments meanings) :
    Continues assembly (assembly.addInstruction operation arguments) := by
  obtain ⟨apart, inside⟩ := openings_apart means
    (assembly.code.size + 1 + Instruction.operandSize false operation.operandKinds)
    (assembly.code.size + 1)
  rw [addInstruction_eq means]
  refine ⟨⟨_, rfl⟩, _, by simp, apart, fun reference member => ?_⟩
  obtain ⟨low, high⟩ := inside reference member
  -- Each new reference lies in the bytes that the operands take.
  simp only [Array.size_append, size_argumentsBytes means, List.size_toArray, List.length_cons,
    List.length_nil]
  omega

/-- Each statement continues the code. -/
theorem continues_add (emitted : statement.IsEmitted) :
    Continues assembly (assembly.add statement) := by
  -- Only an instruction adds bytes; labels are places.
  cases emitted with
  | label => exact .of_same rfl rfl
  | bind label => exact .of_same rfl rfl
  | instruction emits =>
    obtain ⟨arguments, means, adds⟩ := emits.adds
    rw [adds assembly]
    exact continues_addInstruction means

/-- A program continues the code. -/
theorem continues_foldl (emitted : ∀ statement ∈ program, statement.IsEmitted) :
    Continues assembly (program.foldl add assembly) := by
  -- Each statement continues what the ones before it have left.
  induction program generalizing assembly with
  | nil => exact .of_same rfl rfl
  | cons statement program ih =>
    exact (continues_add (emitted statement List.mem_cons_self)).trans
      (ih fun other member => emitted other (List.mem_cons_of_mem _ member))

/-- A label that is not given a position again keeps the one it has. -/
theorem labels_foldl {label : Label} (emitted : ∀ statement ∈ program, statement.IsEmitted)
    (unbound : .bind label ∉ program) (created : label < assembly.labels.size) :
    (program.foldl add assembly).labels[label]? = assembly.labels[label]? := by
  induction program generalizing assembly with
  | nil => rfl
  | cons statement program ih =>
    rw [List.mem_cons, not_or] at unbound
    -- It is enough that the first statement keeps the position.
    have onward (kept : (assembly.add statement).labels[label]? = assembly.labels[label]?) :
        ((statement :: program).foldl add assembly).labels[label]? = assembly.labels[label]? := by
      have still : label < (assembly.add statement).labels.size := by
        rw [Array.getElem?_eq_getElem created] at kept
        exact (Array.getElem?_eq_some_iff.mp kept).1
      rw [List.foldl_cons, ih (fun other member => emitted other (List.mem_cons_of_mem _ member))
        unbound.2 still, kept]
    apply onward
    cases emitted statement List.mem_cons_self with
    | label => exact Array.getElem?_push_lt created ▸ (Array.getElem?_eq_getElem created).symm
    | bind other =>
      refine Array.getElem?_setIfInBounds_ne fun same => unbound.1 ?_
      rw [same]
    | instruction emits =>
      obtain ⟨arguments, means, adds⟩ := emits.adds
      rw [adds assembly, addInstruction_eq means]

end Assembly

end AdventureVm
