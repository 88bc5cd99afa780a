import Remit.Json.Decimal
import Remit.Template.Fault

namespace Remit.Template

structure Numeral where
  negative : Bool
  mark : List Char
  digits : List Char

def Numeral.capital (n : Numeral) : Numeral :=
  ⟨n.negative, n.mark.map Char.toUpper, n.digits.map Char.toUpper⟩

def truncated : Binary64 → Except Fault Int
  | .nan => .error .nanToInteger
  | .infinite _ => .error .infinityToInteger
  | .finite negative m e =>
    let whole : Int := if 0 ≤ e then m <<< e.toNat else m >>> (-e).toNat
    .ok (if negative then -whole else whole)

def wholeNumber? : Json → Option Int
  | .int n => some n
  | .bool b => some (if b then 1 else 0)
  | _ => none

/-- The precision of an integer is the least number of its digits, within this bound. -/
def maxIntegerPrecision : Nat := 2147483644

def integerNumeral (mark digits : List Char) (precision : Option Nat) (n : Int) : Numeral :=
  ⟨decide (n < 0), mark, Binary64.zeros (precision.getD 0 - digits.length) ++ digits⟩

def decimalNumeral (conversion : Char) (precision : Option Nat) (v : Json) :
    Except Fault Numeral := do
  let n ← match wholeNumber? v, v with
    | some n, _ => pure n
    | none, .real x => truncated x
    | none, v => throw (.notNumber conversion v.typeName)
  if precision.any (maxIntegerPrecision < ·) then throw .precisionTooLarge
  unless Text.Writable n do throw .tooLong
  return integerNumeral [] (Binary64.natDigits n.natAbs) precision n

def binaryNumeral (base : Nat) (conversion : Char) (marked : Bool) (precision : Option Nat)
    (v : Json) : Except Fault Numeral :=
  match wholeNumber? v with
  | none => .error (.notInteger conversion v.typeName)
  | some n =>
    if precision.any (maxIntegerPrecision < ·) then .error .precisionTooLarge
    else
      let mark := if marked then ['0', conversion] else []
      .ok (integerNumeral mark (Nat.toDigits base n.natAbs) precision n)

def realNumber (v : Json) : Except Fault Binary64 :=
  match wholeNumber? v, v with
  | some n, _ =>
    match Binary64.ofRatio (decide (n < 0)) n.natAbs 1 with
    | .infinite _ => .error .integerToReal
    | x => .ok x
  | none, .real x => .ok x
  | none, v => .error (.notReal v.typeName)

def realNumeral (layout : Nat → Nat → Int → List Char) (precision : Option Nat) (v : Json) :
    Except Fault Numeral := do
  match ← realNumber v with
  | .nan => return ⟨false, [], "nan".toList⟩
  | .infinite negative => return ⟨negative, [], "inf".toList⟩
  | .finite negative m e => return ⟨negative, [], layout (precision.getD 6) m e⟩

end Remit.Template
