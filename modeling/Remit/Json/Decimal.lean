import Remit.Json.Binary64

namespace Remit.Binary64

def ratioAt (m : Nat) (e q : Int) : Nat × Nat :=
  (m <<< e.toNat * Nat.pow 10 (-q).toNat, 1 <<< (-e).toNat * Nat.pow 10 q.toNat)

/-- An exponent of ten, at most two below and one above that of m * 2 ^ e. -/
def nearLog10 (m : Nat) (e : Int) : Int := (m.log2 + e) * 30103 / 100000

def floorLog10 (m : Nat) (e : Int) : Int :=
  let top := nearLog10 m e + 2
  let found := (List.range 6).find? fun i : Nat =>
    let (num, den) := ratioAt m e (top - i)
    den ≤ num
  top - (found.getD 0 : Nat)

def zeros (n : Int) : List Char := List.replicate n.toNat '0'

def natDigits (n : Nat) : List Char := (toString n).toList

def pointed (digits : List Char) (place : Int) : List Char × List Char :=
  if place ≤ 0 then (['0'], zeros (-place) ++ digits)
  else (digits.take place.toNat ++ zeros (place - digits.length), digits.drop place.toNat)

def joinPoint (keep : Bool) (whole fraction : List Char) : List Char :=
  if fraction.isEmpty && !keep then whole else whole ++ '.' :: fraction

def scientific (keep : Bool) (digits : List Char) (place : Int) : List Char :=
  let exponent := natDigits (place - 1).natAbs
  joinPoint keep (digits.take 1) (digits.drop 1) ++
    ['e', if place ≤ 0 then '-' else '+'] ++ zeros (2 - exponent.length) ++ exponent

def firstDigits (count : Nat) (m : Nat) (e : Int) : List Char × Int :=
  if m = 0 then (zeros count, 1)
  else
    let k := floorLog10 m e
    let (num, den) := ratioAt m e (k + 1 - count)
    let n := roundDiv num den
    if n = Nat.pow 10 count then (natDigits (n / 10), k + 2) else (natDigits n, k + 1)

def fixed (keep : Bool) (places m : Nat) (e : Int) : List Char :=
  let (num, den) := ratioAt m e (-places)
  let digits := natDigits (roundDiv num den)
  let padded := zeros (places + 1 - digits.length) ++ digits
  joinPoint keep (padded.take (padded.length - places)) (padded.drop (padded.length - places))

def exponential (keep : Bool) (places m : Nat) (e : Int) : List Char :=
  let (digits, place) := firstDigits (places + 1) m e
  scientific keep digits place

/-- A number of digits, at least one, without the zeros at their end. The point stands within them
or less than five places before them; otherwise there is an exponent. Where the point is kept, so
are the zeros. -/
def general (keep : Bool) (count m : Nat) (e : Int) : List Char :=
  let (digits, place) := firstDigits (max count 1) m e
  let digits := if keep then digits else (digits.reverse.dropWhile (· == '0')).reverse
  if -4 < place ∧ place ≤ max count 1 then
    joinPoint keep (pointed digits place).1 (pointed digits place).2
  else scientific keep digits place

end Remit.Binary64
