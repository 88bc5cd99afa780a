import Remit.Template.Hole
import Remit.Template.Numeral

namespace Remit.Template

/-- What the holes take: arguments in their order, and a value that may be asked for what it
holds under a name. -/
structure Supply where
  args : List Json
  holder : Option Json

namespace Supply

def ofList (args : List Json) : Supply := ⟨args, none⟩

/-- One value. A list or an object need not be taken. -/
def ofValue (arg : Json) : Supply :=
  match arg with
  | .arr _ | .obj _ => ⟨[arg], some arg⟩
  | _ => ⟨[arg], none⟩

def take (s : Supply) : Except Fault (Json × Supply) :=
  match s.args with
  | [] => .error .tooFew
  | arg :: rest => .ok (arg, { s with args := rest })

def select (s : Supply) (name : String) : Except Fault Supply :=
  match s.holder with
  | none => .error .unnamed
  | some (.arr _) => .error .indexedByName
  | some held =>
    match held.field? name with
    | none => .error (.unknownName name)
    | some arg => .ok { s with args := [arg] }

def maxWidth : Nat := Nat.pow 2 63 - 1

def maxPrecision : Nat := Nat.pow 2 31 - 1

def takeAmount (s : Supply) (bound : Nat) (tooBig outOfRange : Fault) :
    Amount → Except Fault (Option Int × Supply)
  | .none => .ok (none, s)
  | .given n => if n ≤ bound then .ok (some n, s) else .error tooBig
  | .asked => do
    let (arg, s) ← s.take
    match wholeNumber? arg with
    | none => .error .amountNotInteger
    | some n => if -bound - 1 ≤ n ∧ n ≤ bound then .ok (some n, s) else .error outOfRange

/-- A negative width puts the text at the left. -/
def takeWidth (s : Supply) (a : Amount) : Except Fault (Int × Supply) := do
  let (width, s) ← s.takeAmount maxWidth .widthTooBig .widthOutOfRange a
  return (width.getD 0, s)

/-- A negative precision is zero. -/
def takePrecision (s : Supply) (a : Amount) : Except Fault (Option Nat × Supply) := do
  let (precision, s) ← s.takeAmount maxPrecision .precisionTooBig .precisionOutOfRange a
  return (precision.map Int.toNat, s)

def isLeftOver (s : Supply) : Bool := !s.args.isEmpty && s.holder.isNone

end Supply

inductive Shown where
  | text (points : List Nat)
  | number (n : Numeral)

/-- The precision of a text is the greatest number of its code points. -/
def cutText (precision : Option Nat) (s : Except Text.TooLong String) : Except Fault Shown :=
  match s with
  | .error _ => .error .tooLong
  | .ok s =>
    let points := Text.points s.toList
    .ok (.text (precision.elim points points.take))

def character (v : Json) : Except Fault Shown :=
  match v, wholeNumber? v with
  | .str s, _ =>
    match Text.points s.toList with
    | [n] => .ok (.text [n])
    | _ => .error .notCharacter
  | _, some n =>
    if 0 ≤ n ∧ n ≤ Text.herald.toNat then .ok (.text [n.toNat]) else .error .characterOutOfRange
  | _, none => .error .notCharacter

namespace Hole

def convert (h : Hole) (precision : Option Nat) (conversion : Nat) (v : Json) :
    Except Fault Shown :=
  let alternate := h.flags.alternate
  match Char.ofNat conversion with
  | 's' => cutText precision v.text
  | 'r' => cutText precision v.quotedText
  | 'a' => cutText precision (v.quotedText.map Text.asciiOnly)
  | 'c' => character v
  | 'd' => .number <$> decimalNumeral 'd' precision v
  | 'i' => .number <$> decimalNumeral 'i' precision v
  | 'u' => .number <$> decimalNumeral 'u' precision v
  | 'o' => .number <$> binaryNumeral 8 'o' alternate precision v
  | 'x' => .number <$> binaryNumeral 16 'x' alternate precision v
  | 'X' => (.number ·.capital) <$> binaryNumeral 16 'X' alternate precision v
  | 'f' => .number <$> realNumeral (Binary64.fixed alternate) precision v
  | 'F' => (.number ·.capital) <$> realNumeral (Binary64.fixed alternate) precision v
  | 'e' => .number <$> realNumeral (Binary64.exponential alternate) precision v
  | 'E' => (.number ·.capital) <$> realNumeral (Binary64.exponential alternate) precision v
  | 'g' => .number <$> realNumeral (Binary64.general alternate) precision v
  | 'G' => (.number ·.capital) <$> realNumeral (Binary64.general alternate) precision v
  | _ => .error (.unknown conversion h.position)

end Hole

def Flags.sign (flags : Flags) (negative : Bool) : List Char :=
  if negative then ['-'] else if flags.plus then ['+'] else if flags.blank then [' '] else []

/-- A number with its sign. Zeros after the sign and the mark fill it up to a width, if the flags
say so and it does not stand at the left. -/
def Numeral.signed (n : Numeral) (flags : Flags) (left : Bool) (width : Nat) : List Char :=
  let head := flags.sign n.negative ++ n.mark
  let missing : Int := width - (head ++ n.digits).length
  head ++ (if flags.zero && !left then Binary64.zeros missing else []) ++ n.digits

def Shown.points (s : Shown) (flags : Flags) (left : Bool) (width : Nat) : List Nat :=
  match s with
  | .text points => points
  | .number n => (n.signed flags left width).map Char.toNat

/-- No text is this wide. -/
def widthOfMemory : Nat := Nat.pow 2 40

def Shown.placed (s : Shown) (flags : Flags) (width : Int) : Except Fault (List Nat) :=
  if widthOfMemory ≤ width.natAbs then .error .noRoom
  else
    let left := flags.left || width < 0
    let points := s.points flags left width.natAbs
    let blanks := List.replicate (width.natAbs - points.length) ' '.toNat
    .ok (if left then points ++ blanks else blanks ++ points)

def Hole.fill (h : Hole) (s : Supply) : Except Fault (List Nat × Supply) := do
  let s ← match h.name with
    | none => pure s
    | some name => s.select name
  let (width, s) ← s.takeWidth h.width
  let (precision, s) ← s.takePrecision h.precision
  let some conversion := h.conversion | throw .unfinished
  let (arg, s) ← s.take
  let shown ← h.convert precision conversion arg
  return (← shown.placed h.flags width, s)

def Piece.fill (p : Piece) (s : Supply) : Except Fault (List Nat × Supply) :=
  match p with
  | .point n => .ok ([n], s)
  | .hole h => h.fill s
  | .unfinishedName => .error (if s.holder.isNone then .unnamed else .unfinishedName)

def fillAll : List Piece → Supply → Except Fault (List Nat × Supply)
  | [], s => .ok ([], s)
  | p :: ps, s => do
    let (points, s) ← p.fill s
    let (rest, s) ← fillAll ps s
    return (points ++ rest, s)

def fill (template : String) (s : Supply) : Except Fault String := do
  let (points, s) ← fillAll (piecesOf template) s
  if s.isLeftOver then throw .leftOver
  return String.ofList (points.flatMap Text.ofPoint)

end Remit.Template
