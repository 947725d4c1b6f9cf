import FlowAdmission.Text.Unprintable

namespace FlowAdmission.Text

def hexDigits (n : Nat) : List Char :=
  Nat.toDigits 16 n

/-- Quote, backslash and four controls have short escapes; any other unprintable character is
written by its number. An apostrophe stays as it is. -/
def quotedChar (c : Char) : List Char :=
  match c with
  | '"' => ['\\', '"']
  | '\\' => ['\\', '\\']
  | '\n' => ['\\', 'n']
  | '\t' => ['\\', 't']
  | '\r' => ['\\', 'r']
  | '\x00' => ['\\', '0']
  | c => if isUnprintable c then ['\\', 'u', '\x7b'] ++ hexDigits c.toNat ++ ['\x7d'] else [c]

def quoted (s : String) : String :=
  String.ofList ('"' :: s.toList.flatMap quotedChar ++ ['"'])

end FlowAdmission.Text
