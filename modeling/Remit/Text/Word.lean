import Remit.Text.CaseTable

namespace Remit.Text

/-- Spaces, line and paragraph separators and the control characters that count as such. -/
def isBlank (c : Char) : Bool :=
  let n := c.toNat
  (9 ≤ n && n ≤ 13) || (0x1C ≤ n && n ≤ 0x20) || n == 0x85 || n == 0xA0 || n == 0x1680 ||
    (0x2000 ≤ n && n ≤ 0x200A) || n == 0x2028 || n == 0x2029 || n == 0x202F || n == 0x205F ||
    n == 0x3000

def close (run : List Char) (rest : List (List Char)) : List (List Char) :=
  if run.isEmpty then rest else run :: rest

/-- The run at the head of a list, which is empty if a blank comes first, and the runs after it. -/
def cut : List Char → List Char × List (List Char)
  | [] => ([], [])
  | c :: cs =>
    let (run, rest) := cut cs
    if isBlank c then ([], close run rest) else (c :: run, rest)

def runs (cs : List Char) : List (List Char) := close (cut cs).1 (cut cs).2

def trim (blank : Char → Bool) (cs : List Char) : List Char :=
  ((cs.dropWhile blank).reverse.dropWhile blank).reverse

def words (s : String) : List String := (runs s.toList).map String.ofList

def upperFromTable (n : Nat) : List Char :=
  match caseExpansions.find? (·.1 == n) with
  | some (_, capitals) => capitals.map Char.ofNat
  | none =>
    match caseRuns.find? (·.holds n) with
    | some r => [Char.ofNat (n + r.shift).toNat]
    | none => [Char.ofNat n]

def upperChar (c : Char) : List Char :=
  if c.toNat < 128 then [c.toUpper] else upperFromTable c.toNat

def upper (s : String) : String := String.ofList (s.toList.flatMap upperChar)

def asciiLower (s : String) : String := String.ofList (s.toList.map Char.toLower)

end Remit.Text
