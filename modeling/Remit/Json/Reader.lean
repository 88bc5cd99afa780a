import Remit.Json.Basic
import Remit.Text.Half

/-! Reading documents. A scan of a list of characters gives a value and the characters after it. A
fault tells how many characters are left from where it lies, so that no scan counts positions. -/

namespace Remit.Json

structure Limits where
  digits : Option Nat
  depth : Option Nat

def unlimited : Limits := ⟨none, none⟩

inductive Bracket where
  | list | object
  deriving DecidableEq, Repr

inductive Fault where
  /-- the text breaks the grammar this many characters before its end -/
  | malformed (left : Nat)
  /-- an integer literal of more digits than the bound -/
  | tooLong (digits : Nat)
  /-- the first bracket beyond the bound on nesting -/
  | tooDeep (bracket : Bracket)
  deriving DecidableEq, Repr

abbrev Scan (α : Type) := Except Fault (α × List Char)

def isSpace (c : Char) : Bool := c == ' ' || c == '\t' || c == '\n' || c == '\r'

def skip (cs : List Char) : List Char := cs.dropWhile isSpace

def hexValue? (c : Char) : Option Nat :=
  if c.isDigit then some (c.toNat - 48)
  else if 'a' ≤ c && c ≤ 'f' then some (c.toNat - 87)
  else if 'A' ≤ c && c ≤ 'F' then some (c.toNat - 55)
  else none

def unit? (a b c d : Char) : Option Nat := do
  let a ← hexValue? a
  let b ← hexValue? b
  let c ← hexValue? c
  let d ← hexValue? d
  return ((a * 16 + b) * 16 + c) * 16 + d

/-- A part of a string literal: a character, or the code point that an escape names. -/
inductive Piece where
  | char (c : Char)
  | escaped (n : Nat)

/-- A piece in front of others; it joins the first of them if both are escaped and a pair. -/
def Piece.before : Piece → List Piece → List Piece
  | .escaped n, .escaped n' :: rest =>
    if Text.isHigh n && Text.isLow n' then .escaped (Text.joinHalves n n') :: rest
    else .escaped n :: .escaped n' :: rest
  | p, rest => p :: rest

def Piece.chars : Piece → List Char
  | .char c => [c]
  | .escaped n => Text.ofPoint n

def simpleEscape? : Char → Option Char
  | '"' => some '"'
  | '\\' => some '\\'
  | '/' => some '/'
  | 'b' => some (Char.ofNat 8)
  | 'f' => some (Char.ofNat 12)
  | 'n' => some '\n'
  | 'r' => some '\r'
  | 't' => some '\t'
  | _ => none

/-- The rest of a string literal. `opening` is what stands from the opening quote on, where a
literal without end is at fault. An escape of four digits needs a character after it. -/
def scanPieces (opening : List Char) (before : List Piece) : List Char → Scan (List Piece)
  | [] => .error (.malformed opening.length)
  | '"' :: rest => .ok (before.reverse, rest)
  | '\\' :: 'u' :: a :: b :: c :: d :: rest =>
    match if rest.isEmpty then none else unit? a b c d with
    | none => .error (.malformed (rest.length + 5))
    | some n => scanPieces opening (.escaped n :: before) rest
  | '\\' :: 'u' :: rest => .error (.malformed (rest.length + 1))
  | ['\\'] => .error (.malformed opening.length)
  | '\\' :: c :: rest =>
    match simpleEscape? c with
    | none => .error (.malformed (rest.length + 2))
    | some c => scanPieces opening (.char c :: before) rest
  | c :: rest =>
    if c.toNat < 32 then .error (.malformed (rest.length + 1))
    else scanPieces opening (.char c :: before) rest

def scanText (opening cs : List Char) : Scan String :=
  match scanPieces opening [] cs with
  | .error e => .error e
  | .ok (pieces, rest) =>
    .ok (String.ofList ((pieces.foldr Piece.before []).flatMap Piece.chars), rest)

structure Numeral where
  negative : Bool
  whole : List Char
  fraction : Option (List Char)
  exponent : Option Int

def scanWhole : List Char → Option (List Char × List Char)
  | '0' :: rest => some (['0'], rest)
  | cs =>
    if (cs.takeWhile Char.isDigit).isEmpty then none
    else some (cs.takeWhile Char.isDigit, cs.dropWhile Char.isDigit)

def scanFraction : List Char → Option (List Char) × List Char
  | '.' :: rest =>
    if (rest.takeWhile Char.isDigit).isEmpty then (none, '.' :: rest)
    else (some (rest.takeWhile Char.isDigit), rest.dropWhile Char.isDigit)
  | cs => (none, cs)

def exponentSign : List Char → Int × List Char
  | '-' :: rest => (-1, rest)
  | '+' :: rest => (1, rest)
  | cs => (1, cs)

def scanExponent (cs : List Char) : Option Int × List Char :=
  match cs with
  | e :: rest =>
    if e == 'e' || e == 'E' then
      let (sign, body) := exponentSign rest
      if (body.takeWhile Char.isDigit).isEmpty then (none, cs)
      else (some (sign * Text.digitsValue (body.takeWhile Char.isDigit)),
        body.dropWhile Char.isDigit)
    else (none, cs)
  | [] => (none, [])

def scanNumeral (cs : List Char) : Option (Numeral × List Char) := do
  let (negative, body) := match cs with
    | '-' :: rest => (true, rest)
    | _ => (false, cs)
  let (whole, rest) ← scanWhole body
  let (fraction, rest) := scanFraction rest
  let (exponent, rest) := scanExponent rest
  return (⟨negative, whole, fraction, exponent⟩, rest)

def Numeral.value (limits : Limits) (n : Numeral) : Except Fault Json :=
  match n.fraction, n.exponent with
  | none, none =>
    if limits.digits.any (· < n.whole.length) then .error (.tooLong n.whole.length)
    else
      let value : Int := Text.digitsValue n.whole
      .ok (.int (if n.negative then -value else value))
  | fraction, exponent =>
    let decimals := fraction.getD []
    .ok (.real (Binary64.ofDecimal n.negative (Text.digitsValue (n.whole ++ decimals))
      (exponent.getD 0 - decimals.length)))

def scanScalar (limits : Limits) (cs : List Char) : Scan Json :=
  match cs with
  | 'n' :: 'u' :: 'l' :: 'l' :: rest => .ok (.null, rest)
  | 't' :: 'r' :: 'u' :: 'e' :: rest => .ok (.bool true, rest)
  | 'f' :: 'a' :: 'l' :: 's' :: 'e' :: rest => .ok (.bool false, rest)
  | 'N' :: 'a' :: 'N' :: rest => .ok (.real .nan, rest)
  | 'I' :: 'n' :: 'f' :: 'i' :: 'n' :: 'i' :: 't' :: 'y' :: rest =>
    .ok (.real (.infinite false), rest)
  | '-' :: 'I' :: 'n' :: 'f' :: 'i' :: 'n' :: 'i' :: 't' :: 'y' :: rest =>
    .ok (.real (.infinite true), rest)
  | _ =>
    match scanNumeral cs with
    | none => .error (.malformed cs.length)
    | some (n, rest) => (n.value limits).map (·, rest)

mutual

/-- One value. The fuel bounds the number of nested calls; twice the number of characters is
enough. -/
def scanValue (limits : Limits) : Nat → Nat → List Char → Scan Json
  | 0, _, cs => .error (.malformed cs.length)
  | fuel + 1, depth, cs =>
    match cs with
    | '"' :: rest =>
      match scanText cs rest with
      | .error e => .error e
      | .ok (text, rest) => .ok (.str text, rest)
    | '[' :: rest =>
      if limits.depth.any (· ≤ depth) then .error (.tooDeep .list)
      else match skip rest with
        | ']' :: rest => .ok (.arr [], rest)
        | rest => scanItems limits fuel (depth + 1) rest []
    | '\x7b' :: rest =>
      if limits.depth.any (· ≤ depth) then .error (.tooDeep .object)
      else match skip rest with
        | '\x7d' :: rest => .ok (.obj [], rest)
        | rest => scanFields limits fuel (depth + 1) rest []
    | _ => scanScalar limits cs

/-- The items of a list from one of them on; those before it are given, last first. -/
def scanItems (limits : Limits) : Nat → Nat → List Char → List Json → Scan Json
  | 0, _, cs, _ => .error (.malformed cs.length)
  | fuel + 1, depth, cs, before =>
    match scanValue limits fuel depth cs with
    | .error e => .error e
    | .ok (item, rest) =>
      match skip rest with
      | ']' :: rest => .ok (.arr (item :: before).reverse, rest)
      | ',' :: rest => scanItems limits fuel depth (skip rest) (item :: before)
      | rest => .error (.malformed rest.length)

def scanFields (limits : Limits) :
    Nat → Nat → List Char → List (String × Json) → Scan Json
  | 0, _, cs, _ => .error (.malformed cs.length)
  | fuel + 1, depth, cs, before =>
    match cs with
    | '"' :: rest =>
      match scanText cs rest with
      | .error e => .error e
      | .ok (key, rest) =>
        match skip rest with
        | ':' :: rest =>
          match scanValue limits fuel depth (skip rest) with
          | .error e => .error e
          | .ok (value, rest) =>
            match skip rest with
            | '\x7d' :: rest => .ok (.obj (put before key value), rest)
            | ',' :: rest =>
              scanFields limits fuel depth (skip rest) (put before key value)
            | rest => .error (.malformed rest.length)
        | rest => .error (.malformed rest.length)
    | _ => .error (.malformed cs.length)

end

def scanDocument (limits : Limits) (cs : List Char) : Except Fault Json := do
  let (value, rest) ← scanValue limits (2 * cs.length + 2) 0 (skip cs)
  match skip rest with
  | [] => return value
  | rest => throw (.malformed rest.length)

/-- Why a text is not read: it breaks the grammar at a position, which counts code points, or it
exceeds a limit. -/
inductive ReadError where
  | malformed (position : Nat)
  | tooLong (digits : Nat)
  | tooDeep (bracket : Bracket)
  deriving DecidableEq, Repr

def positionOf (cs : List Char) (left : Nat) : Nat :=
  (Text.points (cs.take (cs.length - left))).length

def read (limits : Limits) (text : String) : Except ReadError Json :=
  match scanDocument limits text.toList with
  | .ok value => .ok value
  | .error (.malformed left) => .error (.malformed (positionOf text.toList left))
  | .error (.tooLong digits) => .error (.tooLong digits)
  | .error (.tooDeep bracket) => .error (.tooDeep bracket)

end Remit.Json
