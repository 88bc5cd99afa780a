import Remit.Text.Half
import Remit.Text.InvisibleTable

namespace Remit.Text

def singleQuote : Char := Char.ofNat 39

/-- Binary search for the range that could hold `n`, among the ranges from `lo` to below `hi`. -/
def inRanges (ranges : Array (Nat × Nat)) (n : Nat) : Nat → Nat → Nat → Bool
  | 0, _, _ => false
  | fuel + 1, lo, hi =>
    if lo < hi then
      match ranges[(lo + hi) / 2]? with
      | none => false
      | some (first, last) =>
        if n < first then inRanges ranges n fuel lo ((lo + hi) / 2)
        else if last < n then inRanges ranges n fuel ((lo + hi) / 2 + 1) hi
        else true
    else false

def isVisible (n : Nat) : Bool :=
  32 ≤ n && !inRanges invisibleRanges n invisibleRanges.size 0 invisibleRanges.size

def hexDigits : List Char := "0123456789abcdef".toList

def hex : Nat → Nat → List Char
  | 0, _ => []
  | width + 1, n => hex width (n / 16) ++ [hexDigits.getD (n % 16) '0']

def numberEscape (n : Nat) : List Char :=
  if n < 0x100 then '\\' :: 'x' :: hex 2 n
  else if n < 0x10000 then '\\' :: 'u' :: hex 4 n
  else '\\' :: 'U' :: hex 8 n

def quotedPoint (quote : Char) (n : Nat) : List Char :=
  if n == quote.toNat || n == '\\'.toNat then ['\\', Char.ofNat n]
  else if n == '\t'.toNat then ['\\', 't']
  else if n == '\n'.toNat then ['\\', 'n']
  else if n == '\r'.toNat then ['\\', 'r']
  else if isVisible n then [Char.ofNat n]
  else numberEscape n

def quoted (s : String) : String :=
  let quote := if s.toList.contains singleQuote && !s.toList.contains '"' then '"' else singleQuote
  String.ofList (quote :: (points s.toList).flatMap (quotedPoint quote) ++ [quote])

def asciiOnly (s : String) : String :=
  String.ofList (s.toList.flatMap fun c => if c.toNat < 128 then [c] else numberEscape c.toNat)

end Remit.Text
