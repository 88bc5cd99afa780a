import Remit.Json.Decimal

namespace Remit.Binary64

def neighbours (m : Nat) (e q : Int) : List Nat :=
  let (num, den) := ratioAt m e q
  let low := num / den
  if roundDiv num den == low then [low, low + 1] else [low + 1, low]

/-- Digits and exponent of the shortest numeral of m * 2 ^ e, for a positive mantissa. The first
power of ten tried is above the number, and each one after it is a tenth of the one before. -/
def shortest (m : Nat) (e : Int) : Nat × Int :=
  let top := nearLog10 m e + 2
  let found := (List.range 22).findSome? fun i : Nat =>
    let q := top - i
    ((neighbours m e q).find? fun n => ofDecimal false n q == .finite false m e).map (·, q)
  found.getD (0, 0)

/-- The numeral of m * 2 ^ e: positional from 0.0001 to below 10 ^ 16, with a digit after the
point. -/
def numeral (m : Nat) (e : Int) : String :=
  if m = 0 then "0.0"
  else
    let (n, q) := shortest m e
    let digits := natDigits n
    let place := digits.length + q
    if -4 < place ∧ place ≤ 16 then
      let (whole, fraction) := pointed digits place
      String.ofList (joinPoint true whole (if fraction.isEmpty then ['0'] else fraction))
    else String.ofList (scientific false digits place)

def written : Binary64 → String
  | .nan => "NaN"
  | .infinite negative => if negative then "-Infinity" else "Infinity"
  | .finite negative m e => (if negative then "-" else "") ++ numeral m e

def shown : Binary64 → String
  | .nan => "nan"
  | .infinite negative => if negative then "-inf" else "inf"
  | .finite negative m e => (if negative then "-" else "") ++ numeral m e

end Remit.Binary64
