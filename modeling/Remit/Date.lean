import Remit.Text.Digits

namespace Remit

def isLeap (year : Nat) : Bool := year % 4 == 0 && (year % 100 != 0 || year % 400 == 0)

def daysIn (year month : Nat) : Nat :=
  if month == 2 then if isLeap year then 29 else 28
  else if month == 4 || month == 6 || month == 9 || month == 11 then 30
  else 31

structure Date where
  year : Nat
  month : Nat
  day : Nat
  valid : 1 ≤ year ∧ year ≤ 9999 ∧ 1 ≤ month ∧ month ≤ 12 ∧ 1 ≤ day ∧ day ≤ daysIn year month
  deriving DecidableEq

namespace Date

def ofParts? (year month day : Nat) : Option Date :=
  if h : 1 ≤ year ∧ year ≤ 9999 ∧ 1 ≤ month ∧ month ≤ 12 ∧ 1 ≤ day ∧ day ≤ daysIn year month then
    some ⟨year, month, day, h⟩
  else none

instance : LT Date where
  lt a b := a.year < b.year ∨ a.year = b.year ∧
    (a.month < b.month ∨ a.month = b.month ∧ a.day < b.day)

instance (a b : Date) : Decidable (a < b) := inferInstanceAs (Decidable (_ ∨ _))

def digit (n : Nat) : Char := Char.ofNat ('0'.toNat + n % 10)

def isoChars (d : Date) : List Char :=
  [digit (d.year / 1000), digit (d.year / 100), digit (d.year / 10), digit d.year, '-',
    digit (d.month / 10), digit d.month, '-', digit (d.day / 10), digit d.day]

def iso (d : Date) : String := String.ofList d.isoChars

def ofIsoChars? : List Char → Option Date
  | [y₁, y₂, y₃, y₄, '-', m₁, m₂, '-', d₁, d₂] =>
    if [y₁, y₂, y₃, y₄, m₁, m₂, d₁, d₂].all Char.isDigit then
      ofParts? (Text.digitsValue [y₁, y₂, y₃, y₄]) (Text.digitsValue [m₁, m₂])
        (Text.digitsValue [d₁, d₂])
    else none
  | _ => none

def ofIso? (s : String) : Option Date := ofIsoChars? s.toList

/-- A date that a sentence may name: one whose year needs four digits. -/
def ofToken? (token : String) : Option Date := (ofIso? token).filter (1000 ≤ ·.year)

end Date

end Remit
