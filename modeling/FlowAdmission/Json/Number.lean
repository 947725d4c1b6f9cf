import FlowAdmission.Json.Fault

namespace FlowAdmission.Json

/-- The parts of a number as they are written; the sign of the exponent is true when negative. -/
structure Numeral where
  negative : Bool
  whole : List Char
  fraction : List Char
  exponent : Option (Bool × List Char)

def digitValue (c : Char) : Nat :=
  c.toNat - '0'.toNat

def digits (s : List Char) : List Char × List Char :=
  (s.takeWhile Char.isDigit, s.dropWhile Char.isDigit)

def someDigits (atEnd : Reason) (s : List Char) : Except Fault (List Char × List Char) :=
  match s with
  | [] => .error ⟨atEnd, 0⟩
  | c :: r =>
    if c.isDigit then .ok (c :: (digits r).1, (digits r).2) else .error (.inside .invalidNumber s)

theorem someDigits_length {atEnd : Reason} {s ds r : List Char}
    (h : someDigits atEnd s = .ok (ds, r)) : r.length < s.length := by
  unfold someDigits at h
  split at h <;> try contradiction
  split at h <;> try contradiction
  rename_i c t _
  have : (t.dropWhile Char.isDigit).length ≤ t.length := (List.dropWhile_sublist _).length_le
  cases h
  simp only [digits, List.length_cons]
  omega

def whole (atEnd : Reason) (s : List Char) : Except Fault (List Char × List Char) :=
  match s with
  | '0' :: d :: r =>
    if d.isDigit then .error (.inside .invalidNumber (d :: r)) else .ok (['0'], d :: r)
  | _ => someDigits atEnd s

theorem whole_length {atEnd : Reason} {s ds r : List Char} (h : whole atEnd s = .ok (ds, r)) :
    r.length < s.length := by
  unfold whole at h
  split at h
  · split at h <;> try contradiction
    cases h
    simp
  · exact someDigits_length h

def fraction (atEnd : Reason) (s : List Char) : Except Fault (List Char × List Char) :=
  match s with
  | '.' :: r => someDigits atEnd r
  | _ => .ok ([], s)

theorem fraction_length {atEnd : Reason} {s ds r : List Char}
    (h : fraction atEnd s = .ok (ds, r)) : r.length ≤ s.length := by
  unfold fraction at h
  split at h
  · have := someDigits_length h
    simp only [List.length_cons]
    omega
  · cases h
    exact Nat.le_refl _

def sign (s : List Char) : Bool × List Char :=
  match s with
  | '-' :: r => (true, r)
  | '+' :: r => (false, r)
  | _ => (false, s)

theorem sign_length (s : List Char) : (sign s).2.length ≤ s.length := by
  unfold sign
  split <;> simp

def exponent (atEnd : Reason) (s : List Char) :
    Except Fault (Option (Bool × List Char) × List Char) :=
  match s with
  | [] => .ok (none, [])
  | c :: r =>
    if c = 'e' ∨ c = 'E' then
      match someDigits atEnd (sign r).2 with
      | .error f => .error f
      | .ok (ds, t) => .ok (some ((sign r).1, ds), t)
    else .ok (none, s)

theorem exponent_length {atEnd : Reason} {s r : List Char} {e : Option (Bool × List Char)}
    (h : exponent atEnd s = .ok (e, r)) : r.length ≤ s.length := by
  unfold exponent at h
  split at h
  · cases h
    exact Nat.le_refl _
  · rename_i c t
    split at h
    · split at h <;> try contradiction
      rename_i hd
      have := someDigits_length hd
      have := sign_length t
      cases h
      simp only [List.length_cons]
      omega
    · cases h
      exact Nat.le_refl _

def numeral (atEnd : Reason) (s : List Char) : Except Fault (Numeral × List Char) :=
  let (negative, body) : Bool × List Char :=
    match s with
    | '-' :: r => (true, r)
    | _ => (false, s)
  match whole atEnd body with
  | .error f => .error f
  | .ok (w, r) =>
    match fraction atEnd r with
    | .error f => .error f
    | .ok (d, t) =>
      match exponent atEnd t with
      | .error f => .error f
      | .ok (e, u) => .ok (⟨negative, w, d, e⟩, u)

theorem numeral_length {atEnd : Reason} {s r : List Char} {n : Numeral}
    (h : numeral atEnd s = .ok (n, r)) : r.length < s.length := by
  unfold numeral at h
  split at h
  rename_i negative body hb
  have hs : body.length ≤ s.length := by
    split at hb
    · cases hb
      simp
    · cases hb
      exact Nat.le_refl _
  split at h <;> try contradiction
  rename_i hw
  split at h <;> try contradiction
  rename_i hd
  split at h <;> try contradiction
  rename_i he
  have := whole_length hw
  have := fraction_length hd
  have := exponent_length he
  cases h
  omega

/-- Whole numbers stay exact while they have a place among the 64-bit ones; all others are
doubles. -/
inductive Number
  | integer (n : Int)
  | float (negative : Bool) (size : Double)
deriving DecidableEq

def Number.found : Number → Found
  | integer n => .integer n
  | float negative size => .float negative size

def collect (n : Nat) : List Char → Nat × List Char
  | [] => (n, [])
  | d :: ds =>
    if n * 10 + digitValue d < UInt64.size then collect (n * 10 + digitValue d) ds else (n, d :: ds)

def exponentValue (n : Nat) : List Char → Except (List Char) Nat
  | [] => .ok n
  | d :: ds =>
    if n * 10 + digitValue d < 1 <<< 31 then exponentValue (n * 10 + digitValue d) ds else .error ds

def powerOfTen (n : Nat) : Double :=
  (Double.ofNat? (Nat.pow 10 n)).getD .zero

def shrink (d : Double) (n : Nat) : Double :=
  if n ≤ 308 then (d.div? (powerOfTen n)).getD .zero
  else if d.significand = 0 then d
  else shrink ((d.div? (powerOfTen 308)).getD .zero) (n - 308)
termination_by n

def scaled (n : Nat) (e : Int) : Option Double :=
  let d := (Double.ofNat? n).getD .zero
  if e < 0 then some (shrink d e.natAbs)
  else if e ≤ 308 then d.mul? (powerOfTen e.natAbs)
  else if n = 0 then some d
  else none

/-- The double a numeral stands for. Whole digits that no longer fit the significand count as powers
of ten, fraction digits that do not fit are dropped. -/
def Numeral.float (m : Numeral) (rest : List Char) : Except Fault Number :=
  let (n, excess) := collect 0 m.whole
  let (n, dropped) := collect n m.fraction
  let base : Int := (excess.length : Int) - (m.fraction.length - dropped.length : Nat)
  let scaledTo (e : Int) : Except Fault Number :=
    match scaled n e with
    | some d => .ok (.float m.negative d)
    | none => .error (.before .numberOutOfRange rest)
  match m.exponent with
  | none => scaledTo base
  | some (negative, ds) =>
    match exponentValue 0 ds with
    | .ok e => scaledTo (if negative then base - e else base + e)
    | .error left =>
      if negative ∨ n = 0 then .ok (.float m.negative .zero)
      else .error ⟨.numberOutOfRange, byteSize rest + left.length⟩

def Numeral.value (m : Numeral) (rest : List Char) : Except Fault Number :=
  match m.fraction, m.exponent with
  | [], none =>
    match collect 0 m.whole with
    | (n, []) =>
      if m.negative then
        -- minus zero is a double
        if 0 < n ∧ n ≤ 1 <<< 63 then .ok (.integer (-n)) else m.float rest
      else .ok (.integer n)
    | _ => m.float rest
  | _, _ => m.float rest

def number (s : List Char) : Except Fault (Number × List Char) :=
  match numeral .endInValue s with
  | .error f => .error f
  | .ok (m, r) =>
    match m.value r with
    | .error f => .error f
    | .ok n => .ok (n, r)

theorem number_length {s r : List Char} {n : Number} (h : number s = .ok (n, r)) :
    r.length < s.length := by
  unfold number at h
  split at h <;> try contradiction
  rename_i hn
  have := numeral_length hn
  split at h <;> try contradiction
  cases h
  assumption

def skipNumber (s : List Char) : Except Fault (List Char) :=
  match numeral .invalidNumber s with
  | .error f => .error f
  | .ok (_, r) => .ok r

theorem skipNumber_length {s r : List Char} (h : skipNumber s = .ok r) : r.length < s.length := by
  unfold skipNumber at h
  split at h <;> try contradiction
  rename_i hn
  have := numeral_length hn
  cases h
  assumption

end FlowAdmission.Json
