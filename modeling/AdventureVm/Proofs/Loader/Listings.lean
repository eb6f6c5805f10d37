import AdventureVm.Proofs.Loader.Hexadecimal
import AdventureVm.Proofs.Loader.WellFormed
import AdventureVm.Proofs.Machine.Branching

/-!
The listing of a script covers its code.

Each line stands for the bytes right after those of the line before, and shows them in numbers that
read back. What is read for the listing ends with the range of the code that is listed, and what is
read to be executed does not: the same instructions are found nevertheless.
-/

namespace AdventureVm

section Texts

/-- The last character of the text is no white space. -/
def EndsInInk (text : String) : Prop :=
  ∃ front last, text.toList = front ++ [last] ∧ isBlank last = false

/-- Nothing is cut off from a text up to its last ink. -/
theorem EndsInInk.trimEnd_append {front : String} (ends : EndsInInk front) (back : String) :
    ∃ rest, trimEnd (front ++ back) = front ++ rest := by
  obtain ⟨before, last, text, ink⟩ := ends
  -- Read from its end, the text is blank for as long as that is so of what stands behind the ink.
  have kept : dropBlankEnd (front ++ back).toList = front.toList ++ dropBlankEnd back.toList := by
    simp only [dropBlankEnd, String.toList_append, text, List.reverse_append,
      List.reverse_singleton]
    rw [List.dropWhile_append]
    split
    · rename_i blank
      rw [List.isEmpty_iff.mp blank, List.singleton_append,
        List.dropWhile_cons_of_neg (by simp [ink])]
      simp
    · simp
  refine ⟨String.ofList (dropBlankEnd back.toList), ?_⟩
  rw [trimEnd, kept, String.ofList_append, String.ofList_toList]

/-- A text that ends in ink has no white space to lose at its end. -/
theorem EndsInInk.trimEnd_eq {text : String} (ends : EndsInInk text) : trimEnd text = text := by
  obtain ⟨front, last, ends, ink⟩ := ends
  -- The search from the end stops at the first character.
  rw [trimEnd, dropBlankEnd, ends, List.reverse_append, List.reverse_singleton,
    List.singleton_append, List.dropWhile_cons_of_neg (by simp [ink]), List.reverse_cons,
    List.reverse_reverse, ← ends, String.ofList_toList]

/-- What comes before does not matter for how a text ends. -/
theorem EndsInInk.after {text : String} (ends : EndsInInk text) (before : String) :
    EndsInInk (before ++ text) := by
  -- The last character is that of the text behind.
  obtain ⟨front, last, ends, ink⟩ := ends
  exact ⟨before.toList ++ front, last, by rw [String.toList_append, ends, List.append_assoc], ink⟩

/-- What stands between the blank and the end of the first 128 characters is no white space. -/
theorem isBlank_of_visible {c : Char} (above : 0x20 < c.toNat) (below : c.toNat < 0x7f) :
    isBlank c = false := by
  -- No range of white space reaches in between.
  rw [Bool.eq_false_iff, Ne, isBlank, CharSet.contains_eq_true_iff]
  simp only [blank, CodeRange.Holds, List.mem_cons, List.not_mem_nil, or_false, exists_eq_or_imp,
    exists_eq_left]
  omega

/-- A hexadecimal digit is no white space. -/
theorem isBlank_hexDigit {value : Nat} (small : value < 16) : isBlank (hexDigit value) = false := by
  -- There are sixteen digits, and each is a visible character.
  have each : ∀ digit : Fin 16,
      0x20 < (hexDigit digit).toNat ∧ (hexDigit digit).toNat < 0x7f := by
    decide +kernel
  exact isBlank_of_visible (each ⟨value, small⟩).1 (each ⟨value, small⟩).2

/-- The digits of a number end with that of its last place. -/
theorem hexDigits_eq (value : Nat) :
    ∃ front, hexDigits value = front ++ [hexDigit (value % 16)] := by
  -- A number below sixteen is its own last place.
  rw [hexDigits]
  split
  · rename_i small
    exact ⟨[], by rw [Nat.mod_eq_of_lt small, List.nil_append]⟩
  · exact ⟨_, rfl⟩

/-- Hexadecimal text ends in ink. -/
theorem hexText_ends (width value : Nat) : EndsInInk (hexText width value) := by
  -- Zeros come in front only, so the last digit stays where it is.
  obtain ⟨front, digits⟩ := hexDigits_eq value
  refine ⟨List.replicate (width - (hexDigits value).length) '0' ++ front, hexDigit (value % 16), ?_,
    isBlank_hexDigit (Nat.mod_lt value (by decide))⟩
  rw [hexText, String.toList_ofList, List.append_assoc, ← digits]

/-- A decimal digit is no white space. -/
theorem isBlank_of_isDigit {c : Char} (digit : c.isDigit = true) : isBlank c = false := by
  simp only [Char.isDigit, Bool.and_eq_true, decide_eq_true_eq] at digit
  have bounds : 48 ≤ c.toNat ∧ c.toNat ≤ 57 := digit
  -- The digits stand among the visible characters.
  exact isBlank_of_visible (by omega) (by omega)

/-- The text of a natural number ends in ink. -/
theorem natText_ends (value : Nat) : EndsInInk (toString (value : Int)) := by
  -- There is always a last digit.
  have text : (toString (value : Int)).toList = Nat.toDigits 10 value := String.toList_ofList
  refine ⟨_, _, text.trans (List.dropLast_append_getLast Nat.toDigits_ne_nil).symm, ?_⟩
  exact isBlank_of_isDigit (Nat.isDigit_of_mem_toDigits (by decide) (by decide)
    (List.getLast_mem _))

/-- Every mnemonic ends in ink. -/
theorem mnemonic_ends (operation : Operation) : EndsInInk operation.mnemonic := by
  have last : operation.mnemonic.toList.getLast?.map isBlank = some false := by
    -- The operations are those of the families and each of the others.
    cases operation with
    | unary op => cases op <;> decide +kernel
    | binary op => cases op <;> decide +kernel
    | compare op => cases op <;> decide +kernel
    | property action => cases action <;> decide +kernel
    | «variable» op =>
      obtain ⟨action, kind, indexed⟩ := op
      cases action <;> cases kind <;> cases indexed <;> decide +kernel
    | _ => decide +kernel
  obtain ⟨character, found, ink⟩ := Option.map_eq_some_iff.mp last
  obtain ⟨front, text⟩ := List.getLast?_eq_some_iff.mp found
  exact ⟨front, character, text, ink⟩

/-- Text of blanks only. -/
def blanks (count : Nat) : String :=
  String.ofList (List.replicate count ' ')

/-- At least one blank stands between a text and the next column. -/
theorem append_padRight (front : String) (width : Nat) (text : String) :
    front ++ padRight width text ++ " " = front ++ text ++ blanks (width - text.length + 1) := by
  -- The blank in front of the next column is one more of those that fill this one.
  have more (count : Nat) : blanks (count + 1) = blanks count ++ " " := by
    rw [blanks, List.replicate_succ', String.ofList_append]
    rfl
  rw [padRight, more, ← String.append_assoc, ← String.append_assoc]
  rfl

end Texts

namespace Listing

/--
The text shows an offset, the bytes of the code from there up to another, and behind them a name.

The numbers are those that are read back from the text.
-/
def Shows (code : Bytes) (start stop : Nat) (name text : String) : Prop :=
  ∃ (offset : String) (bytes : List String) (gap : Nat),
    text = offset ++ ": " ++ " ".intercalate bytes ++ blanks (gap + 1) ++ name ∧
    hexValue? offset = some start ∧
    List.Forall₂ (fun digits byte => digits.length = 2 ∧ hexValue? digits = some byte.toNat)
      bytes (code.extract start stop).toList

/-- What the column of the operands has for a branch or a call with a target of four digits. -/
def branchText (instruction : Instruction) (digits : String) : String :=
  if instruction.operation = .call then
    digits ++ ", " ++ toString (instruction.operand 1)
  else digits

/-- The text behind the name of a branch or a call shows the target, as it reads back. -/
def ShowsTarget (instruction : Instruction) (target : UInt16) (text : String) : Prop :=
  ∃ (gap : Nat) (digits : String), text = blanks (gap + 1) ++ branchText instruction digits ∧
    digits.length = 4 ∧ hexValue? digits = some target.toNat

/-- The operations whose first operand says where to go on. -/
def branching : List Operation :=
  [.branchTrue, .branchFalse, .jump, .call]

/--
The line shows the instruction at an offset: where it stands, all its bytes and its name.

Behind the name of a branch or a call it shows where a machine goes on that branches or calls there.
-/
def ShowsInstruction (code : Bytes) (start : Nat) (instruction : Instruction) (line : String) :
    Prop :=
  ∃ front back, line = front ++ back ∧
    Shows code start (start + instruction.length) instruction.operation.mnemonic front ∧
    (instruction.operation ∈ branching → ∃ target,
      ShowsTarget instruction target back ∧ Machine.BranchLeads code start instruction target)

/--
The lines of the code from an offset on stand for all bytes up to a stop, one after the other.

The line of an instruction is that of the one that is found in the whole buffer.
-/
inductive Covers (symbols : Symbols) (code : Bytes) (stop : Nat) : Nat → List String → Prop where
  | done : Covers symbols code stop stop []
  /-- No instruction can be read there without reading past the stop. -/
  | byte {start : Nat} {byte : UInt8} {reason : DecodeError} {lines : List String}
      (inside : start < stop) (found : code[start]? = some byte)
      (refused : decode (code.extract 0 stop) start = .error reason)
      (shown : Shows code start (start + 1) "db" (dataLine start byte))
      (others : Covers symbols code stop (start + 1) lines) :
      Covers symbols code stop start (dataLine start byte :: lines)
  | instruction {start : Nat} {instruction : Instruction} {lines : List String}
      (read : decode code start = .ok instruction)
      (inside : start + instruction.length ≤ stop)
      (shown : ShowsInstruction code start instruction
        (instructionLine symbols code start instruction))
      (others : Covers symbols code stop (start + instruction.length) lines) :
      Covers symbols code stop start (instructionLine symbols code start instruction :: lines)

variable {symbols : Symbols} {code : Bytes} {start stop : Nat} {instruction : Instruction}

/-- A branch has one operand. -/
theorem readOperands?_branch {byteForm : Bool} {values : List Int}
    (read : readOperands? code byteForm start [.relative] = some values) :
    ∃ distance, values = [distance] := by
  -- The kinds tell how many operands are read.
  obtain ⟨distance, -, given⟩ := Option.bind_eq_some_iff.mp read
  cases given
  exact ⟨distance, rfl⟩

/-- A call has two operands, the second of which is a byte. -/
theorem readOperands?_call {byteForm : Bool} {values : List Int}
    (read : readOperands? code byteForm start [.relative, .byte] = some values) :
    ∃ distance, ∃ byte : UInt8, values = [distance, (byte.toNat : Int)] := by
  -- The second operand is read behind the first one.
  obtain ⟨distance, -, given⟩ := Option.bind_eq_some_iff.mp read
  obtain ⟨others, second, given⟩ := Option.bind_eq_some_iff.mp given
  obtain ⟨count, read, last⟩ := Option.bind_eq_some_iff.mp second
  obtain ⟨byte, -, rfl⟩ := Option.map_eq_some_iff.mp read
  cases last
  cases given
  exact ⟨distance, byte, rfl⟩

/-- The operands of a branch or a call are shown as its target and, for a call, one number more. -/
theorem operandTexts_branch (symbols : Symbols) (read : decode code start = .ok instruction)
    (branches : instruction.operation ∈ branching) :
    ", ".intercalate (operandTexts symbols instruction.operation (start + instruction.length) 0
        instruction.operation.operandKinds instruction.operands) =
      branchText instruction (hexText 4 (instruction.target start).toNat) ∧
    EndsInInk (branchText instruction (hexText 4 (instruction.target start).toNat)) := by
  obtain ⟨opcode, -, -, -, given⟩ := decode_eq_ok.mp read
  obtain ⟨operation, byteForm, operands⟩ := instruction
  -- A branch has nothing but its distance, and a call also says how many bytes it passes.
  have jump (kinds : operation.operandKinds = [.relative]) : ∃ distance, operands = [distance] :=
    readOperands?_branch (kinds ▸ given)
  simp only [branching, List.mem_cons, List.not_mem_nil, or_false] at branches
  rcases branches with rfl | rfl | rfl | rfl
  · obtain ⟨distance, rfl⟩ := jump rfl
    exact ⟨rfl, hexText_ends _ _⟩
  · obtain ⟨distance, rfl⟩ := jump rfl
    exact ⟨rfl, hexText_ends _ _⟩
  · obtain ⟨distance, rfl⟩ := jump rfl
    exact ⟨rfl, hexText_ends _ _⟩
  · obtain ⟨distance, byte, rfl⟩ := readOperands?_call given
    exact ⟨rfl, (natText_ends _).after _⟩

/-- The columns in front of the operands, as far as the name. -/
def columns (code : Bytes) (start stop : Nat) (name : String) : String :=
  hexText 4 start ++ ": " ++
    padRight 14 (" ".intercalate
      ((code.extract start stop).toList.map fun byte => hexText 2 byte.toNat)) ++ " " ++ name

/-- The columns show the numbers that they were written for. -/
theorem shows_columns (code : Bytes) (start stop : Nat) (name : String) :
    Shows code start stop name (columns code start stop name) := by
  refine ⟨_, _, _, congrArg (· ++ name) (append_padRight ..), hexValue?_hexText 4 start, ?_⟩
  -- A byte takes two digits, neither more nor less.
  refine List.forall₂_map_left_iff.mpr (List.forall₂_same.mpr fun byte _ => ?_)
  exact ⟨length_hexText byte.toNat_lt, hexValue?_hexText 2 byte.toNat⟩

/-- The line of an instruction is its columns and its operands, without blanks at its end. -/
theorem instructionLine_eq (symbols : Symbols) (code : Bytes) (start : Nat)
    (instruction : Instruction) :
    instructionLine symbols code start instruction =
      trimEnd (columns code start (start + instruction.length) instruction.operation.mnemonic ++
        (blanks (8 - instruction.operation.mnemonic.length + 1) ++
          ", ".intercalate (operandTexts symbols instruction.operation
            (start + instruction.length) 0 instruction.operation.operandKinds
            instruction.operands))) := by
  -- Only the brackets around the columns and the place of the blanks differ.
  rw [← String.append_assoc, columns, ← append_padRight]
  rfl

/-- The line of an instruction shows it. -/
theorem shows_instructionLine (read : decode code start = .ok instruction) :
    ShowsInstruction code start instruction
      (instructionLine symbols code start instruction) := by
  have shown := shows_columns code start (start + instruction.length)
    instruction.operation.mnemonic
  rw [instructionLine_eq]
  by_cases branches : instruction.operation ∈ branching
  · -- Nothing is cut off behind the target.
    obtain ⟨texts, ends⟩ := operandTexts_branch symbols read branches
    rw [texts, ((ends.after _).after _).trimEnd_eq]
    refine ⟨_, _, rfl, shown, fun _ => ⟨instruction.target start, ?_, Machine.branchLeads read⟩⟩
    exact ⟨_, _, rfl, length_hexText (instruction.target start).toNat_lt, hexValue?_hexText _ _⟩
  · -- What is cut off stands behind the name.
    have ends : EndsInInk (columns code start (start + instruction.length)
        instruction.operation.mnemonic) :=
      (mnemonic_ends instruction.operation).after _
    obtain ⟨back, line⟩ := ends.trimEnd_append _
    exact ⟨_, back, line, shown, fun branch => absurd branch branches⟩

/-- The line of a byte that starts no instruction shows it. -/
theorem shows_dataLine {byte : UInt8} (found : code[start]? = some byte) :
    Shows code start (start + 1) "db" (dataLine start byte) := by
  have one : (code.extract start (start + 1)).toList = [byte] := by
    obtain ⟨inside, rfl⟩ := Array.getElem?_eq_some_iff.mp found
    rw [Array.toList_extract, List.extract_eq_take_drop, Nat.add_sub_cancel_left,
      List.take_one_drop_eq_of_lt_length (by simpa using inside)]
    rfl
  -- The line is made without columns, and looks as if it were made of them.
  refine ⟨hexText 4 start, [hexText 2 byte.toNat], 12, ?_, hexValue?_hexText 4 start, ?_⟩
  · have gap : blanks (12 + 1) ++ "db" = "             db" := by decide +kernel
    rw [String.append_assoc, gap]
    rfl
  · rw [one]
    exact .cons ⟨length_hexText byte.toNat_lt, hexValue?_hexText 2 byte.toNat⟩ .nil

/-- An instruction has the same line wherever the code is cut off behind it. -/
theorem instructionLine_cut (inside : start + instruction.length ≤ stop) :
    instructionLine symbols (code.extract 0 stop) start instruction =
      instructionLine symbols code start instruction := by
  -- All that the line shows of the code is in front of the cut.
  have bytes : (code.extract 0 stop).extract start (start + instruction.length) =
      code.extract start (start + instruction.length) := by
    rw [Array.extract_extract, Nat.zero_add, Nat.zero_add, Nat.min_eq_left inside]
  rw [instructionLine, instructionLine, bytes]

/-- The lines of a range of code cover the range. -/
theorem covers_linesFrom (fits : stop ≤ code.size) (begins : start ≤ stop) :
    Covers symbols code stop start (linesFrom symbols (code.extract 0 stop) start) := by
  have size : (code.extract 0 stop).size = stop := by
    rw [Array.size_extract]
    omega
  -- The induction is on what is left of the range.
  generalize cut : code.extract 0 stop = shown at size ⊢
  fun_induction linesFrom symbols shown start with
  | case1 start inside instruction read ih =>
    subst cut
    -- What is read there ends within the range, since nothing else was shown.
    have ends := bound_of_decode read
    rw [size] at ends
    rw [instructionLine_cut ends]
    exact .instruction (decode_of_cut read) ends (shows_instructionLine (decode_of_cut read))
      (ih ends)
  | case2 start inside reason refused ih =>
    subst cut
    have found := (holdsSame_of_cut inside).first Nat.one_pos
    rw [Array.getElem?_eq_getElem inside] at found
    rw [size] at inside
    exact .byte inside found refused (shows_dataLine found) (ih inside)
  | case3 start outside =>
    obtain rfl : start = stop := by omega
    exact .done

end Listing

namespace Script

/-- The lines of a script cover its ranges of code, one range after the other. -/
theorem covers_listing {script : Script}
    (inside : ∀ range ∈ script.codeRanges, range.1 ≤ range.2 ∧ range.2 ≤ script.data.size)
    (symbols : Symbols) :
    ∃ parts, script.listing symbols = parts.flatten ∧
      List.Forall₂ (fun range lines =>
        Listing.Covers symbols script.data range.2 range.1 lines) script.codeRanges parts := by
  -- The listing of a script is that of its ranges, put together.
  refine ⟨script.codeRanges.map fun range =>
    Listing.linesFrom symbols (script.data.extract 0 range.2) range.1, ?_, ?_⟩
  · rw [listing, List.flatMap_def]
  · rw [List.forall₂_map_right_iff, List.forall₂_same]
    intro range member
    exact Listing.covers_linesFrom (inside range member).2 (inside range member).1

/--
The listing of a script covers its code, whatever bytes the script was loaded from.

Range by range, its lines stand for all bytes of the range, one after the other.
-/
theorem listing_covers_code {version : Version} {number : UInt16} {segment : SegmentId}
    {bytes : Bytes} {heap : Option Bytes} {journal : Journal} {script : Script}
    {locals : Array Address}
    (loaded : ((load version number segment bytes heap).run journal).1 = .ok (script, locals))
    (symbols : Symbols) :
    (∀ range ∈ script.codeRanges, range.1 ≤ range.2 ∧ range.2 ≤ script.data.size) ∧
    ∃ parts, script.listing symbols = parts.flatten ∧
      List.Forall₂ (fun range lines =>
        Listing.Covers symbols script.data range.2 range.1 lines) script.codeRanges parts := by
  have formed : Leads (load version number segment bytes heap) journal _ :=
    load_wellFormed version number segment bytes heap journal
  rw [Leads, loaded, either_ok] at formed
  -- A loaded script has its code inside of the script part.
  have inside : ∀ range ∈ script.codeRanges, range.1 ≤ range.2 ∧ range.2 ≤ script.data.size := by
    intro range member
    have bounds := formed.codeRanges range member
    exact ⟨bounds.1, Nat.le_trans bounds.2 formed.scriptPart.2⟩
  exact ⟨inside, covers_listing inside symbols⟩

/--
A script with a jump to itself, a byte that is no opcode, a return, and a jump that does not end
before the code does.
-/
def cutOffCode : Bytes :=
  #[0, 0, 0, 0, 2, 0, 10, 0, 51, 254, 76, 72, 50, 1, 7, 0, 8, 0, 1, 0, 8, 0]

/-- All bytes of the code are listed, also those of the jump that does not end before it. -/
theorem listing_covers_code_cut_off : ∃ script locals,
    ((load .sci0 1 2 cutOffCode none).run #[]).1 = .ok (script, locals) ∧
    script.codeRanges = [(8, 14)] ∧
    Listing.Covers {} script.data 14 8 (script.listing {}) := by
  -- The script is loaded by computation; its only range of code is then the first of the list.
  have coded : ((load .sci0 1 2 cutOffCode none).run #[]).1.map (·.1.codeRanges) =
      .ok [(8, 14)] := by
    decide +kernel
  obtain ⟨⟨script, locals⟩, loaded, ranges⟩ := map_eq_ok.mp coded
  obtain ⟨parts, listing, covers⟩ := (listing_covers_code loaded {}).2
  rw [ranges] at covers
  obtain ⟨lines, _, covered, ⟨⟩, rfl⟩ := List.forall₂_cons_left_iff.mp covers
  rw [List.flatten_cons, List.flatten_nil, List.append_nil] at listing
  exact ⟨script, locals, loaded, ranges, listing ▸ covered⟩

end Script

end AdventureVm
