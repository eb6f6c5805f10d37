import AdventureVm.Instruction.Variable

/-! The operations of the machine, their numbers, mnemonics and operands. -/

namespace AdventureVm

/-- Operations on the accumulator alone. -/
inductive UnaryOp where
  | bnot
  | neg
  | not
deriving Repr, DecidableEq, Inhabited

/-- The mnemonic of a unary operation. -/
def UnaryOp.mnemonic : UnaryOp → String
  | bnot => "bnot"
  | neg => "neg"
  | not => "not"

/-- Operations that combine a value from the stack with the accumulator. -/
inductive BinaryOp where
  | add
  | sub
  | mul
  | div
  | mod
  | shr
  | shl
  | xor
  | and
  | or
deriving Repr, DecidableEq, Inhabited

/-- The mnemonic of a binary operation. -/
def BinaryOp.mnemonic : BinaryOp → String
  | add => "add"
  | sub => "sub"
  | mul => "mul"
  | div => "div"
  | mod => "mod"
  | shr => "shr"
  | shl => "shl"
  | xor => "xor"
  | and => "and"
  | or => "or"

/-- Operations that compare a value from the stack with the accumulator. -/
inductive Comparison where
  | eq
  | ne
  | gt
  | ge
  | lt
  | le
  | ugt
  | uge
  | ult
  | ule
deriving Repr, DecidableEq, Inhabited

/-- The mnemonic of a comparison. -/
def Comparison.mnemonic : Comparison → String
  | eq => "eq?"
  | ne => "ne?"
  | gt => "gt?"
  | ge => "ge?"
  | lt => "lt?"
  | le => "le?"
  | ugt => "ugt?"
  | uge => "uge?"
  | ult => "ult?"
  | ule => "ule?"

/-- Everything an instruction can do. -/
inductive Operation where
  | unary (op : UnaryOp)
  | binary (op : BinaryOp)
  | compare (op : Comparison)
  /-- Jumps when the accumulator counts as true. -/
  | branchTrue
  /-- Jumps when the accumulator counts as false. -/
  | branchFalse
  | jump
  /-- Loads a constant into the accumulator. -/
  | loadImmediate
  /-- Pushes the accumulator. -/
  | push
  /-- Pushes a constant. -/
  | pushImmediate
  /-- Drops the top of the stack. -/
  | toss
  /-- Pushes the top of the stack again. -/
  | dup
  /-- Reserves temporary variables. -/
  | link
  /-- Calls a procedure of the same script. -/
  | call
  /-- Calls a kernel function. -/
  | callKernel
  /-- Calls an export of the main script. -/
  | callBase
  /-- Calls an export of any script. -/
  | callExport
  | ret
  /-- Sends messages to the object in the accumulator. -/
  | send
  /-- Loads the address of a class. -/
  | loadClass
  /-- Sends messages to the current object. -/
  | sendSelf
  /-- Sends messages to the current object, looked up from a given class. -/
  | sendSuper
  /-- Pushes the remaining parameters for the next call. -/
  | rest
  /-- Loads the address of a variable. -/
  | lea
  /-- Loads the address of the current object. -/
  | selfID
  /-- Pushes the value that the last comparison saved. -/
  | pushPrev
  /-- Accesses a property of the current object. -/
  | property (action : VariableAction)
  /-- Loads an address in the current script into the accumulator. -/
  | loadOffset
  /-- Pushes an address in the current script. -/
  | pushOffset
  | push0
  | push1
  | push2
  /-- Pushes the address of the current object. -/
  | pushSelf
  /-- Accesses a variable. -/
  | variable (op : VariableOp)
deriving Repr, DecidableEq, Inhabited

namespace Operation

/-- The operations below the variable family in the order of their numbers, with the gaps. -/
def numbered : List (Option Operation) :=
  [some (.unary .bnot), some (.binary .add), some (.binary .sub), some (.binary .mul),
    some (.binary .div), some (.binary .mod), some (.binary .shr), some (.binary .shl),
    some (.binary .xor), some (.binary .and), some (.binary .or), some (.unary .neg),
    some (.unary .not), some (.compare .eq), some (.compare .ne), some (.compare .gt),
    some (.compare .ge), some (.compare .lt), some (.compare .le), some (.compare .ugt),
    some (.compare .uge), some (.compare .ult), some (.compare .ule), some .branchTrue,
    some .branchFalse, some .jump, some .loadImmediate, some .push,
    some .pushImmediate, some .toss, some .dup, some .link,
    some .call, some .callKernel, some .callBase, some .callExport,
    some .ret, some .send, none, none,
    some .loadClass, none, some .sendSelf, some .sendSuper,
    some .rest, some .lea, some .selfID, none,
    some .pushPrev, some (.property .loadAcc), some (.property .storeAcc),
    some (.property .loadStack), some (.property .storeStack), some (.property .incAcc),
    some (.property .decAcc), some (.property .incStack), some (.property .decStack),
    some .loadOffset, some .pushOffset, some .push0, some .push1, some .push2, some .pushSelf,
    none]

/-- The operation with a number. -/
def ofCode? (code : Nat) : Option Operation :=
  if code < VariableOp.base then numbered[code]?.join
  else (VariableOp.ofCode? code).map .variable

/-- The number of an operation. -/
def code : Operation → Nat
  | .unary .bnot => 0
  | .binary .add => 1
  | .binary .sub => 2
  | .binary .mul => 3
  | .binary .div => 4
  | .binary .mod => 5
  | .binary .shr => 6
  | .binary .shl => 7
  | .binary .xor => 8
  | .binary .and => 9
  | .binary .or => 10
  | .unary .neg => 11
  | .unary .not => 12
  | .compare .eq => 13
  | .compare .ne => 14
  | .compare .gt => 15
  | .compare .ge => 16
  | .compare .lt => 17
  | .compare .le => 18
  | .compare .ugt => 19
  | .compare .uge => 20
  | .compare .ult => 21
  | .compare .ule => 22
  | branchTrue => 23
  | branchFalse => 24
  | jump => 25
  | loadImmediate => 26
  | push => 27
  | pushImmediate => 28
  | toss => 29
  | dup => 30
  | link => 31
  | call => 32
  | callKernel => 33
  | callBase => 34
  | callExport => 35
  | ret => 36
  | send => 37
  | loadClass => 40
  | sendSelf => 42
  | sendSuper => 43
  | rest => 44
  | lea => 45
  | selfID => 46
  | pushPrev => 48
  | property .loadAcc => 49
  | property .storeAcc => 50
  | property .loadStack => 51
  | property .storeStack => 52
  | property .incAcc => 53
  | property .decAcc => 54
  | property .incStack => 55
  | property .decStack => 56
  | loadOffset => 57
  | pushOffset => 58
  | push0 => 59
  | push1 => 60
  | push2 => 61
  | pushSelf => 62
  | .variable op => op.code

/-- The mnemonic of an operation. -/
def mnemonic : Operation → String
  | unary op => op.mnemonic
  | binary op => op.mnemonic
  | compare op => op.mnemonic
  | branchTrue => "bt"
  | branchFalse => "bnt"
  | jump => "jmp"
  | loadImmediate => "ldi"
  | push => "push"
  | pushImmediate => "pushi"
  | toss => "toss"
  | dup => "dup"
  | link => "link"
  | call => "call"
  | callKernel => "callk"
  | callBase => "callb"
  | callExport => "calle"
  | ret => "ret"
  | send => "send"
  | loadClass => "class"
  | sendSelf => "self"
  | sendSuper => "super"
  | rest => "&rest"
  | lea => "lea"
  | selfID => "selfID"
  | pushPrev => "pprev"
  | property .loadAcc => "pToa"
  | property .storeAcc => "aTop"
  | property .loadStack => "pTos"
  | property .storeStack => "sTop"
  | property .incAcc => "ipToa"
  | property .decAcc => "dpToa"
  | property .incStack => "ipTos"
  | property .decStack => "dpTos"
  | loadOffset => "lofsa"
  | pushOffset => "lofss"
  | push0 => "push0"
  | push1 => "push1"
  | push2 => "push2"
  | pushSelf => "pushSelf"
  | .variable op => op.mnemonic

end Operation

/-- How an operand is stored and read. -/
inductive OperandKind where
  /-- A signed distance from the next instruction. -/
  | relative
  /-- A signed constant. -/
  | signed
  /-- An unsigned constant. -/
  | unsigned
  /-- An unsigned constant that always takes one byte. -/
  | byte
deriving Repr, DecidableEq, Inhabited

/-- The number of bytes an operand takes in the byte form or the word form of an instruction. -/
def OperandKind.size (byteForm : Bool) : OperandKind → Nat
  | byte => 1
  | _ => if byteForm then 1 else 2

/-- The operands that follow an operation. -/
def Operation.operandKinds : Operation → List OperandKind
  | branchTrue | branchFalse | jump => [.relative]
  | loadImmediate | pushImmediate => [.signed]
  | link => [.unsigned]
  | call => [.relative, .byte]
  | callKernel | callBase => [.unsigned, .byte]
  | callExport => [.unsigned, .unsigned, .byte]
  | send | sendSelf => [.byte]
  | loadClass => [.unsigned]
  | sendSuper => [.unsigned, .byte]
  | rest => [.unsigned]
  | lea => [.unsigned, .unsigned]
  | property _ => [.unsigned]
  | loadOffset | pushOffset => [.relative]
  | .variable _ => [.unsigned]
  | _ => []

/-- An operation is recovered from its number. -/
@[simp] theorem Operation.ofCode?_code (operation : Operation) :
    Operation.ofCode? operation.code = some operation := by
  -- The variable family has its own numbering; every other operation is checked by itself.
  cases operation with
  | unary op => cases op <;> rfl
  | binary op => cases op <;> rfl
  | compare op => cases op <;> rfl
  | property action => cases action <;> rfl
  | «variable» op =>
    obtain ⟨action, kind, indexed⟩ := op
    cases action <;> cases kind <;> cases indexed <;> rfl
  | _ => rfl

end AdventureVm
