import AdventureVm.Text
import AdventureVm.Text.Extending
import AdventureVm.Text.Invisible
import AdventureVm.Text.Unassigned

/-! Texts between quotation marks. -/

namespace AdventureVm

/-- Characters that cannot be told from others when they stand in a text as they are. -/
def isObscure (c : Char) : Bool :=
  invisible.contains c || extending.contains c || unassigned.contains c

/-- How a character is written between quotation marks. -/
def quotedChar (c : Char) : List Char :=
  match c with
  | '"' => ['\\', '"']
  | '\\' => ['\\', '\\']
  | '\n' => ['\\', 'n']
  | '\r' => ['\\', 'r']
  | '\t' => ['\\', 't']
  | '\x00' => ['\\', '0']
  | other =>
    -- The code point stands between braces.
    if isObscure other then
      ['\\', 'u', '\x7b'] ++ hexDigits other.toNat ++ ['\x7d']
    else [other]

/-- A text between quotation marks, in which every character can be told from the others. -/
def quoted (text : String) : String :=
  String.ofList ('"' :: text.toList.flatMap quotedChar ++ ['"'])

end AdventureVm
