namespace FlowAdmission

/-- The nonnegative number `significand · 2^exponent`. -/
structure Double where
  significand : Nat
  exponent : Int
deriving DecidableEq

namespace Double

def zero : Double :=
  ⟨0, -1074⟩

def numerator (d : Double) : Nat :=
  d.significand <<< d.exponent.toNat

def denominator (d : Double) : Nat :=
  1 <<< (-d.exponent).toNat

def floor (d : Double) : Nat :=
  d.numerator / d.denominator

/-- The nearest whole number to a quotient; a half goes to the even neighbour. -/
def roundDiv (num den : Nat) : Nat :=
  let q := num / den
  let r := num % den
  if 2 * r < den then q
  else if den < 2 * r then q + 1
  else q + q % 2

def magnitude (num den : Nat) : Int :=
  let l : Int := Nat.log2 num - Nat.log2 den
  if den <<< l.toNat ≤ num <<< (-l).toNat then l else l - 1

/-- The nearest number with 53 significant bits and an exponent of at least -1074, or nothing when
that is 2^1024 or more. -/
def nearest? (num den : Nat) : Option Double :=
  if num = 0 then some zero
  else
    let e := max (-1074) (magnitude num den - 52)
    let m := roundDiv (num <<< (-e).toNat) (den <<< e.toNat)
    let d : Double := if m = 1 <<< 53 then ⟨1 <<< 52, e + 1⟩ else ⟨m, e⟩
    if 971 < d.exponent then none else some d

def ofNat? (n : Nat) : Option Double :=
  nearest? n 1

def mul? (a b : Double) : Option Double :=
  nearest? (a.numerator * b.numerator) (a.denominator * b.denominator)

def div? (a b : Double) : Option Double :=
  nearest? (a.numerator * b.denominator) (a.denominator * b.numerator)

end Double

end FlowAdmission
