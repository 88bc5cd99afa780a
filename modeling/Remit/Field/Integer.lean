import Remit.Field.Complaint
import Remit.Json.Basic
import Remit.Text.Word
import Remit.Text.Half

namespace Remit.Field

/-- The blanks that may surround a numeral: all but the four separator controls. -/
def isPadding (c : Char) : Bool := Text.isBlank c && !(0x1C ≤ c.toNat && c.toNat ≤ 0x1F)

/-- Zero, or digits without a zero in front; too many digits count as such, whatever follows. -/
def plainNat (cs : List Char) : Except FieldFault Nat :=
  match cs with
  | ['0'] => .ok 0
  | '0' :: _ => .error .notNumeral
  | _ =>
    if Text.maxDigits < (cs.takeWhile Char.isDigit).length then .error .integerTooLong
    else if Text.allDigits cs then .ok (Text.digitsValue cs)
    else .error .notNumeral

def plainInteger : List Char → Except FieldFault Int
  | '-' :: cs => (plainNat cs).map fun n => -(n : Int)
  | cs => (plainNat cs).map fun n => (n : Int)

def withoutPlus? : List Char → Option (List Char)
  | '+' :: '-' :: _ => none
  | '+' :: cs => some cs
  | cs => some cs

/-- What follows the zeros and underscores in front. One zero stays before a point and at the
end. -/
def afterZeros? (last : Char) : List Char → Option (List Char)
  | [] => some [last]
  | c :: cs =>
    if c == '0' || c == '_' then afterZeros? c cs
    else if c.isDigit || c == '-' then some (c :: cs)
    else if c == '.' then some (last :: c :: cs)
    else none

def withoutZeros? : List Char → Option (List Char)
  | '0' :: cs => afterZeros? '0' cs
  | c :: cs => if c.isDigit || c == '-' then some (c :: cs) else none
  | [] => none

def withoutFraction (cs : List Char) : List Char :=
  match cs.dropWhile (· != '.') with
  | '.' :: zeros =>
    if !zeros.isEmpty && zeros.all (· == '0') then cs.takeWhile (· != '.') else cs
  | _ => cs

def hasDoubleUnderscore : List Char → Bool
  | '_' :: '_' :: _ => true
  | _ :: cs => hasDoubleUnderscore cs
  | [] => false

/-- Underscores are left out where each stands alone within the numeral. -/
def withoutUnderscores (cs : List Char) : List Char :=
  if cs.head? == some '_' || cs.getLast? == some '_' || hasDoubleUnderscore cs then cs
  else cs.filter (· != '_')

def simplified? (cs : List Char) : Option (List Char) :=
  (withoutZeros? cs).map fun cs => withoutUnderscores (withoutFraction cs)

def plainForm? (cs : List Char) : Option (List Char) :=
  match withoutPlus? (Text.trim isPadding cs) with
  | none => none
  | some ('-' :: cs) => (simplified? cs).map ('-' :: ·)
  | some cs => simplified? cs

/-- A numeral is read as it stands or else in its plain form. Only as it stands can it have too many
digits. -/
def integerOfNumeral (cs : List Char) : Except FieldFault Int :=
  match plainInteger cs with
  | .error .notNumeral =>
    match (plainForm? cs).map plainInteger with
    | some (.ok n) => .ok n
    | _ => .error .notNumeral
  | result => result

def integerOfText (s : String) : Except FieldFault Int :=
  if Text.hasHalf s then .error .halvedPair else integerOfNumeral s.toList

def maxInt64 : Nat := 9223372036854775807

/-- A number without a fraction counts if neither it nor its negative exceeds the 64-bit
integers. -/
def integerOfReal (x : Binary64) : Except FieldFault Int :=
  if !x.isFinite then .error .notFinite
  else match x.toInt? with
    | none => .error .fractional
    | some n => if n.natAbs ≤ maxInt64 then .ok n else .error .integerTooLong

def integer : Json → Except FieldFault Int
  | .int n => .ok n
  | .bool b => .ok (if b then 1 else 0)
  | .real x => integerOfReal x
  | .str s => integerOfText s
  | _ => .error .notInteger

def text : Json → Except FieldFault String
  | .str s => .ok s
  | _ => .error .notText

def nonEmptyText (j : Json) : Except FieldFault String :=
  match text j with
  | .error e => .error e
  | .ok s =>
    if Text.hasHalf s then .error .halvedPair else if s = "" then .error .emptyText else .ok s

def truthValue (s : String) : Except FieldFault Bool :=
  match Text.asciiLower s with
  | "1" | "t" | "y" | "on" | "yes" | "true" => .ok true
  | "0" | "f" | "n" | "no" | "off" | "false" => .ok false
  | _ => .error .notTruthValue

end Remit.Field
