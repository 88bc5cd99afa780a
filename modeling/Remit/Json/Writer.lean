import Remit.Json.Basic
import Remit.Json.Shortest
import Remit.Text.Quoted

namespace Remit.Json

def unitEscape (n : Nat) : List Char := '\\' :: 'u' :: Text.hex 4 n

def asciiEscape (n : Nat) : List Char :=
  if n == '"'.toNat || n == '\\'.toNat then ['\\', Char.ofNat n]
  else if 32 ≤ n && n < 127 then [Char.ofNat n]
  else if n < 0x10000 then unitEscape n
  else unitEscape (0xD800 + (n - 0x10000) / 0x400) ++
    unitEscape (0xDC00 + (n - 0x10000) % 0x400)

def compactEscape (n : Nat) : List Char :=
  if n == '"'.toNat || n == '\\'.toNat then ['\\', Char.ofNat n]
  else if n == 8 then ['\\', 'b']
  else if n == 9 then ['\\', 't']
  else if n == 10 then ['\\', 'n']
  else if n == 12 then ['\\', 'f']
  else if n == 13 then ['\\', 'r']
  else if n < 32 then unitEscape n
  else Text.ofPoint n

def literal (escape : Nat → List Char) (s : String) : String :=
  String.ofList ('"' :: (Text.points s.toList).flatMap escape ++ ['"'])

mutual

def render (escape : Nat → List Char) : Json → String
  | .null => "null"
  | .bool b => if b then "true" else "false"
  | .int n => toString n
  | .real x => x.written
  | .str s => literal escape s
  | .arr items => "[" ++ renderItems escape items ++ "]"
  | .obj fields => "\x7b" ++ renderFields escape fields ++ "\x7d"

def renderItems (escape : Nat → List Char) : List Json → String
  | [] => ""
  | [j] => render escape j
  | j :: js => render escape j ++ "," ++ renderItems escape js

def renderFields (escape : Nat → List Char) : List (String × Json) → String
  | [] => ""
  | [(k, j)] => literal escape k ++ ":" ++ render escape j
  | (k, j) :: rest =>
    literal escape k ++ ":" ++ render escape j ++ "," ++ renderFields escape rest

end

def ascii (j : Json) : String := render asciiEscape j

def compact (j : Json) : String := render compactEscape j

def write (j : Json) : Except Text.TooLong String :=
  if j.fits then .ok j.ascii else .error .tooLong

end Remit.Json
