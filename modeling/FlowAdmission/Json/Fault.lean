import FlowAdmission.Number.Shortest
import FlowAdmission.Text.Quoted

namespace FlowAdmission.Json

inductive Found
  | null
  | boolean (b : Bool)
  | integer (n : Int)
  | float (negative : Bool) (size : Double)
  | text (s : String)
  | sequence
  | map
deriving DecidableEq

inductive Expected
  | text
  | boolean
  | sequence
  | size
  | unsigned
  | signed
  | nothing
  | record (name : String)
deriving DecidableEq

inductive Reason
  | expectedValue
  | expectedLiteral
  | expectedColon
  | expectedCommaOrBrace
  | expectedCommaOrBracket
  | keyNotText
  | trailingComma
  | trailingCharacters
  | invalidNumber
  | numberOutOfRange
  | invalidEscape
  | controlCharacter
  | unpairedUnit
  | loneSurrogate
  | endInValue
  | endInText
  | endInObject
  | endInList
  | wrongType (found : Found) (expected : Expected)
  | wrongValue (n : Int) (expected : Expected)
  | unknownVariant (label : String) (known : List String)
  | repeatedField (name : String)
  | missingField (name : String)
  | tooShort (length : Nat) (name : String) (size : Nat)
deriving DecidableEq

def Found.describe : Found → String
  | null => "null"
  | boolean b => s!"boolean `{b}`"
  | integer n => s!"integer `{n}`"
  | float negative size =>
    "floating point `" ++ (if negative then "-" else "") ++ size.render Double.standardLayout ++ "`"
  | text s => "string " ++ Text.quoted s
  | sequence => "sequence"
  | map => "map"

def Expected.describe : Expected → String
  | text => "a string"
  | boolean => "a boolean"
  | sequence => "a sequence"
  | size => "usize"
  | unsigned => "u64"
  | signed => "i64"
  | nothing => "unit"
  | record name => "struct " ++ name

def Reason.describe : Reason → String
  | expectedValue => "expected value"
  | expectedLiteral => "expected ident"
  | expectedColon => "expected `:`"
  | expectedCommaOrBrace => "expected `,` or `\x7d`"
  | expectedCommaOrBracket => "expected `,` or `]`"
  | keyNotText => "key must be a string"
  | trailingComma => "trailing comma"
  | trailingCharacters => "trailing characters"
  | invalidNumber => "invalid number"
  | numberOutOfRange => "number out of range"
  | invalidEscape => "invalid escape"
  | controlCharacter => "control character (\\u0000-\\u001F) found while parsing a string"
  | unpairedUnit => "unexpected end of hex escape"
  | loneSurrogate => "lone leading surrogate in hex escape"
  | endInValue => "EOF while parsing a value"
  | endInText => "EOF while parsing a string"
  | endInObject => "EOF while parsing an object"
  | endInList => "EOF while parsing a list"
  | wrongType found expected =>
    "invalid type: " ++ found.describe ++ ", expected " ++ expected.describe
  | wrongValue n expected => s!"invalid value: integer `{n}`, expected " ++ expected.describe
  | unknownVariant label known =>
    "unknown variant `" ++ label ++ "`, expected one of " ++
      ", ".intercalate (known.map ("`" ++ · ++ "`"))
  | repeatedField name => "duplicate field `" ++ name ++ "`"
  | missingField name => "missing field `" ++ name ++ "`"
  | tooShort length name size =>
    s!"invalid length {length}, expected struct {name} with {size} elements"

/-- A reason together with the number of bytes that lie beyond its place. -/
structure Fault where
  reason : Reason
  beyond : Nat
deriving DecidableEq

def byteSize (s : List Char) : Nat :=
  s.foldr (fun c n => c.utf8Size + n) 0

namespace Fault

def before (reason : Reason) (rest : List Char) : Fault :=
  ⟨reason, byteSize rest⟩

def inside (reason : Reason) (rest : List Char) : Fault :=
  ⟨reason, byteSize rest - 1⟩

end Fault

/-- Lines count from one; columns count the bytes since the last line feed. -/
structure Place where
  line : Nat
  column : Nat
deriving DecidableEq

namespace Place

def start : Place :=
  ⟨1, 0⟩

def advance (p : Place) : Nat → List Char → Place
  | _, [] => p
  | n, c :: s =>
    if n = 0 then p
    else if c = '\n' then advance ⟨p.line + 1, 0⟩ (n - 1) s
    else advance ⟨p.line, p.column + min n c.utf8Size⟩ (n - c.utf8Size) s

end Place

def Fault.place (f : Fault) (text : List Char) : Place :=
  Place.start.advance (byteSize text - f.beyond) text

def Fault.message (f : Fault) (text : List Char) : String :=
  let p := f.place text
  f.reason.describe ++ s!" at line {p.line} column {p.column}"

end FlowAdmission.Json
