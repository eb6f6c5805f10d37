/-! Instructions that read, write, count up and count down variables. -/

namespace AdventureVm

/-- The array a variable belongs to. -/
inductive VariableKind where
  | global
  | local
  | temp
  | param
deriving Repr, DecidableEq, Inhabited

namespace VariableKind

/-- The word for a kind in messages. -/
def name : VariableKind → String
  | global => "global"
  | .local => "local"
  | temp => "temp"
  | param => "param"

/-- The two bits that stand for a kind. -/
def bits : VariableKind → Nat
  | global => 0
  | .local => 1
  | temp => 2
  | param => 3

/-- The kind that the two low bits of a number stand for. -/
def ofBits (value : Nat) : VariableKind :=
  match value % 4 with
  | 0 => global
  | 1 => .local
  | 2 => temp
  | _ => param

/-- The letter for a kind in mnemonics. -/
def letter : VariableKind → Char
  | global => 'g'
  | .local => 'l'
  | temp => 't'
  | param => 'p'

/-- A kind is recovered from its bits. -/
@[simp] theorem ofBits_bits (kind : VariableKind) : ofBits kind.bits = kind := by
  cases kind <;> rfl

end VariableKind

/-- What is done with a variable; the value goes to or comes from the accumulator or the stack. -/
inductive VariableAction where
  | loadAcc
  | loadStack
  | storeAcc
  | storeStack
  | incAcc
  | incStack
  | decAcc
  | decStack
deriving Repr, DecidableEq, Inhabited

namespace VariableAction

/-- The word for an action. -/
def name : VariableAction → String
  | loadAcc => "LoadAcc"
  | loadStack => "LoadStack"
  | storeAcc => "StoreAcc"
  | storeStack => "StoreStack"
  | incAcc => "IncAcc"
  | incStack => "IncStack"
  | decAcc => "DecAcc"
  | decStack => "DecStack"

/-- The three bits that stand for an action. -/
def code : VariableAction → Nat
  | loadAcc => 0
  | loadStack => 1
  | storeAcc => 2
  | storeStack => 3
  | incAcc => 4
  | incStack => 5
  | decAcc => 6
  | decStack => 7

/-- The action that the three low bits of a number stand for. -/
def ofCode (value : Nat) : VariableAction :=
  match value % 8 with
  | 0 => loadAcc
  | 1 => loadStack
  | 2 => storeAcc
  | 3 => storeStack
  | 4 => incAcc
  | 5 => incStack
  | 6 => decAcc
  | _ => decStack

/-- The two characters that open the mnemonic of an action. -/
def stem : VariableAction → String
  | loadAcc => "la"
  | loadStack => "ls"
  | storeAcc => "sa"
  | storeStack => "ss"
  | incAcc => "+a"
  | incStack => "+s"
  | decAcc => "-a"
  | decStack => "-s"

/-- An action is recovered from its code. -/
@[simp] theorem ofCode_code (action : VariableAction) : ofCode action.code = action := by
  cases action <;> rfl

end VariableAction

/-- One member of the variable family of instructions. -/
structure VariableOp where
  /-- What is done with the variable. -/
  action : VariableAction
  /-- The array the variable belongs to. -/
  kind : VariableKind
  /-- The accumulator is added to the index. -/
  indexed : Bool
deriving Repr, DecidableEq, Inhabited

namespace VariableOp

/-- The number of the first operation of the family. -/
def base : Nat := 64

/-- The operation number: the family, then action, indexing and kind. -/
def code (op : VariableOp) : Nat :=
  base + 8 * op.action.code + (if op.indexed then 4 else 0) + op.kind.bits

/-- The member with an operation number, if the number is in the family. -/
def ofCode? (code : Nat) : Option VariableOp :=
  if base ≤ code ∧ code < 2 * base then
    some ⟨.ofCode (code / 8), .ofBits code, code / 4 % 2 == 1⟩
  else none

/-- The mnemonic: action, kind and a mark for indexing. -/
def mnemonic (op : VariableOp) : String :=
  op.action.stem ++ String.singleton op.kind.letter ++ (if op.indexed then "i" else "")

/-- A member is recovered from its operation number. -/
@[simp] theorem ofCode?_code (op : VariableOp) : ofCode? op.code = some op := by
  -- There are sixty-four members, and each is checked.
  obtain ⟨action, kind, indexed⟩ := op
  cases action <;> cases kind <;> cases indexed <;> rfl

end VariableOp

end AdventureVm
