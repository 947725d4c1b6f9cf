import FlowAdmission.Number.Double

namespace FlowAdmission.Double

/-- The numbers that round to a double, in quarters of its last binary place. A power of two has
its lower neighbour at half the distance of its upper one. -/
structure Interval where
  lower : Nat
  upper : Nat
  closed : Bool

def interval (d : Double) : Interval where
  lower := 4 * d.significand - if d.significand = 1 <<< 52 ∧ -1074 < d.exponent then 1 else 2
  upper := 4 * d.significand + 2
  closed := d.significand % 2 == 0

/-- Multiplying by these two makes `c · 10^k` and a count of quarters comparable. -/
def scales (d : Double) (k : Int) : Nat × Nat :=
  (Nat.pow 10 k.toNat <<< (2 - d.exponent).toNat, Nat.pow 10 (-k).toNat <<< (d.exponent - 2).toNat)

def multiple? (d : Double) (k : Int) : Option Nat :=
  let (tens, quarters) := d.scales k
  let i := d.interval
  let inside (c : Nat) : Bool :=
    if i.closed then i.lower * quarters ≤ c * tens && c * tens ≤ i.upper * quarters
    else i.lower * quarters < c * tens && c * tens < i.upper * quarters
  let value := 4 * d.significand * quarters
  let c := value / tens
  if inside c then
    -- of two multiples the nearer, and of two as near the even
    if inside (c + 1) then some (roundDiv value tens) else some c
  else if inside (c + 1) then some (c + 1)
  else none

def coarsest (d : Double) : Nat → Int → Nat × Int
  | 0, k => (0, k)
  | n + 1, k =>
    match d.multiple? k with
    | some c => (c, k)
    | none => coarsest d n (k - 1)

def shortest (d : Double) : Nat × Int :=
  -- from above the greatest double down to grids finer than the least one
  d.coarsest 640 309

structure Layout where
  lowest : Int
  highest : Int

def standardLayout : Layout :=
  -- positional from 10^-5 to below 10^16
  ⟨-5, 15⟩

def zeros (n : Nat) : String :=
  String.ofList (List.replicate n '0')

def positional (digits : String) (place : Int) : String :=
  if place < 0 then "0." ++ zeros (-place - 1).toNat ++ digits
  else
    let whole := place.toNat + 1
    if digits.length ≤ whole then digits ++ zeros (whole - digits.length) ++ ".0"
    else String.ofList (digits.toList.take whole) ++ "." ++ String.ofList (digits.toList.drop whole)

def scientific (digits : String) (place : Int) : String :=
  let lead := String.ofList (digits.toList.take 1)
  let tail := String.ofList (digits.toList.drop 1)
  lead ++ (if tail.isEmpty then "" else "." ++ tail) ++ "e" ++ (if place < 0 then "-" else "+") ++
    toString place.natAbs

def render (layout : Layout) (d : Double) : String :=
  if d.significand = 0 then "0.0"
  else
    let (c, k) := d.shortest
    let digits := toString c
    let place := k + digits.length - 1
    if layout.lowest ≤ place ∧ place ≤ layout.highest then positional digits place
    else scientific digits place

end FlowAdmission.Double
