namespace Remit.Text

/-- The longest numeral that is converted, in either direction. -/
def maxDigits : Nat := 4300

def digitValue (c : Char) : Nat := c.toNat - '0'.toNat

def digitsValue (cs : List Char) : Nat := cs.foldl (fun n c => 10 * n + digitValue c) 0

def allDigits (cs : List Char) : Bool := !cs.isEmpty && cs.all Char.isDigit

/-- The value of a numeral of at most `maxDigits` ASCII digits, leading zeros counted. -/
def natOfDigits? (cs : List Char) : Option Nat :=
  if allDigits cs && cs.length ≤ maxDigits then some (digitsValue cs) else none

inductive TooLong where
  | tooLong
  deriving DecidableEq, Repr

def TooLong.message : TooLong → String
  | .tooLong => "Exceeds the limit (4300 digits) for integer string conversion; " ++
      "use sys.set_int_max_str_digits() to increase the limit"

def tooManyDigitsMessage (digits : Nat) : String :=
  "Exceeds the limit (4300 digits) for integer string conversion: value has " ++
    toString digits ++ " digits; use sys.set_int_max_str_digits() to increase the limit"

/-- Whether an integer has at most `maxDigits` digits, the sign not counted. -/
def Writable (n : Int) : Prop := n.natAbs < Nat.pow 10 maxDigits

instance (n : Int) : Decidable (Writable n) := inferInstanceAs (Decidable (_ < _))

def decimal? (n : Int) : Except TooLong String :=
  if Writable n then .ok (toString n) else .error .tooLong

end Remit.Text
