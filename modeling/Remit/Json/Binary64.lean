namespace Remit

/-- A finite number is its mantissa times two to its exponent. The mantissa has 53 bits, or fewer
where the exponent is the least. -/
inductive Binary64 where
  | nan
  | infinite (negative : Bool)
  | finite (negative : Bool) (mantissa : Nat) (exponent : Int)
  deriving DecidableEq, Repr

namespace Binary64

def roundDiv (num den : Nat) : Nat :=
  let q := num / den
  let r := num % den
  if 2 * r < den then q
  else if den < 2 * r then q + 1
  else if q % 2 == 0 then q else q + 1

def scaled (num den : Nat) (e : Int) : Nat × Nat :=
  if 0 ≤ e then (num, den <<< e.toNat) else (num <<< (-e).toNat, den)

def floorLog2 (num den : Nat) : Int :=
  let e : Int := num.log2 - den.log2
  let (n, d) := scaled num den e
  if d ≤ n then e else e - 1

/-- The nearest number to num / den, a tie to the even mantissa: 53 bits of mantissa, no exponent
under -1074, and infinity from 2 ^ 1024 on. -/
def ofRatio (negative : Bool) (num den : Nat) : Binary64 :=
  if num = 0 then .finite negative 0 0
  else
    let e := max (floorLog2 num den - 52) (-1074)
    let (n, d) := scaled num den e
    let m := roundDiv n d
    if 1024 ≤ m.log2 + e then .infinite negative
    else if m.log2 == 53 then .finite negative (m >>> 1) (e + 1)
    else .finite negative m e

/-- The nearest number to digits * 10 ^ exponent. The first two cases are those that lie beyond
the range without a look at the digits. -/
def ofDecimal (negative : Bool) (digits : Nat) (exponent : Int) : Binary64 :=
  if digits = 0 then .finite negative 0 0
  else if 400 < exponent then .infinite negative
  else if digits.log2 + 1 + 3 * exponent < -1100 then .finite negative 0 0
  else if 0 ≤ exponent then ofRatio negative (digits * Nat.pow 10 exponent.toNat) 1
  else ofRatio negative digits (Nat.pow 10 (-exponent).toNat)

def toInt? : Binary64 → Option Int
  | .finite negative m e =>
    let sign : Int := if negative then -1 else 1
    let whole := if 0 ≤ e then m <<< e.toNat else m >>> (-e).toNat
    if e < 0 ∧ whole <<< (-e).toNat ≠ m then none else some (sign * whole)
  | _ => none

def isFinite : Binary64 → Bool
  | .finite .. => true
  | _ => false

end Binary64

end Remit
