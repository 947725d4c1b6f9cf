namespace FlowAdmission.Json

def hexPair (n : Nat) : List Char :=
  [Nat.digitChar (n / 16), Nat.digitChar (n % 16)]

def writtenChar (c : Char) : List Char :=
  match c with
  | '"' => ['\\', '"']
  | '\\' => ['\\', '\\']
  | '\x08' => ['\\', 'b']
  | '\x0c' => ['\\', 'f']
  | '\n' => ['\\', 'n']
  | '\r' => ['\\', 'r']
  | '\t' => ['\\', 't']
  | c => if c.toNat < 0x20 then ['\\', 'u', '0', '0'] ++ hexPair c.toNat else [c]

def writtenText (s : String) : List Char :=
  '"' :: s.toList.flatMap writtenChar ++ ['"']

def writtenNat (n : Nat) : List Char :=
  Nat.toDigits 10 n

def writtenInt (n : Int) : List Char :=
  if n < 0 then '-' :: writtenNat n.natAbs else writtenNat n.natAbs

def writtenBool (b : Bool) : List Char :=
  if b then ['t', 'r', 'u', 'e'] else ['f', 'a', 'l', 's', 'e']

def writtenList (values : List (List Char)) : List Char :=
  '[' :: [','].intercalate values ++ [']']

def writtenMember (m : String × List Char) : List Char :=
  writtenText m.1 ++ ':' :: m.2

def writtenObject (members : List (String × List Char)) : List Char :=
  '\x7b' :: [','].intercalate (members.map writtenMember) ++ ['\x7d']

end FlowAdmission.Json
