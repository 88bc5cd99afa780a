/-! Halves of surrogate pairs. A document may name a code point that is half of a pair and no
character. A text holds such a half as two characters, a herald and a mark; the herald's own code
point is held in the same way, and every other character stands for itself. -/

namespace Remit.Text

def isHigh (n : Nat) : Bool := 0xD800 ≤ n && n ≤ 0xDBFF
def isLow (n : Nat) : Bool := 0xDC00 ≤ n && n ≤ 0xDFFF
def isHalf (n : Nat) : Bool := isHigh n || isLow n

def joinHalves (high low : Nat) : Nat := 0x10000 + (high - 0xD800) * 0x400 + (low - 0xDC00)

def joinPairs : List Nat → List Nat
  | high :: low :: rest =>
    if isHigh high && isLow low then joinHalves high low :: joinPairs rest
    else high :: joinPairs (low :: rest)
  | ns => ns

def herald : Char := Char.ofNat 0x10FFFF

/-- The mark of a half, or of the herald itself. -/
def mark (n : Nat) : Char := Char.ofNat (if isHalf n then 0xF0000 + (n - 0xD800) else 0xF0800)

def pointOfMark (c : Char) : Nat :=
  if c.toNat == 0xF0800 then herald.toNat else 0xD800 + (c.toNat - 0xF0000)

def ofPoint (n : Nat) : List Char :=
  if isHalf n || n == herald.toNat then [herald, mark n] else [Char.ofNat n]

def points : List Char → List Nat
  | c :: m :: cs => if c == herald then pointOfMark m :: points cs else c.toNat :: points (m :: cs)
  | cs => cs.map Char.toNat

/-- A text from outside, where every character stands for itself, as this library holds it. -/
def ofOutside (s : String) : String := String.ofList (s.toList.flatMap fun c => ofPoint c.toNat)

def hasHalf (s : String) : Bool := (points s.toList).any isHalf

end Remit.Text
