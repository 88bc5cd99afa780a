import Remit.Text.Digits
import Remit.Text.Half

/-! Message templates. A template is a row of code points and holes. A hole is a percent sign, the
name of an argument in round brackets, flags, a width, a precision, a size and a conversion, where
all but the first and the last may be missing. Two percent signs stand for one. -/

namespace Remit.Template

inductive Amount where
  | none
  | given (n : Nat)
  | asked
  deriving DecidableEq, Repr

def Amount.push (a : Amount) (c : Char) : Amount :=
  match a with
  | .given n => .given (10 * n + Text.digitValue c)
  | _ => .given (Text.digitValue c)

structure Flags where
  left : Bool
  plus : Bool
  blank : Bool
  alternate : Bool
  zero : Bool
  deriving DecidableEq, Repr

structure Hole where
  name : Option String
  flags : Flags
  width : Amount
  precision : Amount
  /-- the code point of the conversion, unless the template ends before it -/
  conversion : Option Nat
  /-- where in the template the conversion stands -/
  position : Nat
  deriving Repr

inductive Piece where
  | point (n : Nat)
  | hole (h : Hole)
  /-- the template ends within the name of an argument -/
  | unfinishedName
  deriving Repr

/-- The part of a hole that comes next: anything, a name with its code points so far and the
brackets open in it, or one of the parts after that. -/
inductive Part where
  | start
  | name (before : List Nat) (depth : Nat)
  | flags
  | width
  | afterWidth
  | precision (first : Bool)
  | size
  | conversion

namespace Hole

def empty : Hole := ⟨none, ⟨false, false, false, false, false⟩, .none, .none, none, 0⟩

abbrev Progress := Part × Hole ⊕ Piece

def converted (h : Hole) (position n : Nat) : Progress :=
  .inr (.hole { h with conversion := some n, position := position })

def readSize (h : Hole) (position n : Nat) : Progress :=
  match Char.ofNat n with
  | 'h' | 'l' | 'L' => .inl (.conversion, h)
  | _ => h.converted position n

def readPrecision (h : Hole) (first : Bool) (position n : Nat) : Progress :=
  let c := Char.ofNat n
  if c.isDigit then .inl (.precision false, { h with precision := h.precision.push c })
  else if first && c == '*' then .inl (.size, { h with precision := .asked })
  else h.readSize position n

def readPoint (h : Hole) (position n : Nat) : Progress :=
  match Char.ofNat n with
  | '.' => .inl (.precision true, { h with precision := .given 0 })
  | _ => h.readSize position n

def readWidth (h : Hole) (position n : Nat) : Progress :=
  let c := Char.ofNat n
  if c.isDigit then .inl (.width, { h with width := h.width.push c }) else h.readPoint position n

def readFlags (h : Hole) (position n : Nat) : Progress :=
  match Char.ofNat n with
  | '-' => .inl (.flags, { h with flags.left := true })
  | '+' => .inl (.flags, { h with flags.plus := true })
  | ' ' => .inl (.flags, { h with flags.blank := true })
  | '#' => .inl (.flags, { h with flags.alternate := true })
  | '0' => .inl (.flags, { h with flags.zero := true })
  | '*' => .inl (.afterWidth, { h with width := .asked })
  | _ => h.readWidth position n

def readName (h : Hole) (before : List Nat) (depth n : Nat) : Progress :=
  match Char.ofNat n, depth with
  | ')', 0 =>
    .inl (.flags, { h with name := some (String.ofList (before.reverse.flatMap Text.ofPoint)) })
  | ')', depth + 1 => .inl (.name (n :: before) depth, h)
  | '(', _ => .inl (.name (n :: before) (depth + 1), h)
  | _, _ => .inl (.name (n :: before) depth, h)

def read (h : Hole) (position n : Nat) : Part → Progress
  | .start =>
    match Char.ofNat n with
    | '%' => .inr (.point n)
    | '(' => .inl (.name [] 0, h)
    | _ => h.readFlags position n
  | .name before depth => h.readName before depth n
  | .flags => h.readFlags position n
  | .width => h.readWidth position n
  | .afterWidth => h.readPoint position n
  | .precision first => h.readPrecision first position n
  | .size => h.readSize position n
  | .conversion => h.converted position n

end Hole

def unfinished : Part → Hole → Piece
  | .name _ _, _ => .unfinishedName
  | _, h => .hole h

def pieces (position : Nat) : Option (Part × Hole) → List Nat → List Piece
  | none, [] => []
  | some (part, h), [] => [unfinished part h]
  | none, n :: ns =>
    if Char.ofNat n == '%' then pieces (position + 1) (some (.start, .empty)) ns
    else .point n :: pieces (position + 1) none ns
  | some (part, h), n :: ns =>
    match h.read position n part with
    | .inl within => pieces (position + 1) (some within) ns
    | .inr piece => piece :: pieces (position + 1) none ns

def piecesOf (template : String) : List Piece := pieces 0 none (Text.points template.toList)

end Remit.Template
