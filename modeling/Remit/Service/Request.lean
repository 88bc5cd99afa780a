import Remit.Field.Integer
import Remit.Json.Reader
import Remit.Service.Framework

namespace Remit.Service

inductive BodyFault where
  | unreadable
  | invalid (complaints : List Complaint)
  deriving DecidableEq

def required {α : Type} (path : List String) (j : Json) (key : String)
    (check : Json → Except FieldFault α) : Checked α :=
  match j.field? key with
  | none => .error [⟨path ++ [key], .missing⟩]
  | some value => .ofField (path ++ [key]) (check value)

def isObject : Json → Bool
  | .obj _ => true
  | _ => false

def accountOfJson (path : List String) (j : Json) : Checked Account :=
  if !isObject j then .error [⟨path, .notObject⟩]
  else
    match Checked.both (required path j "id" Field.nonEmptyText)
        (.both (required path j "balance" Field.integer)
          (required path j "currency" Field.nonEmptyText)) with
    | .error e => .error e
    | .ok (id, balance, currency) => .ok ⟨id, balance, currency⟩

/-- The accounts of a request; a request without that field has none. -/
def accountsOfJson (j : Json) : Checked Snapshot :=
  match j.field? "accounts" with
  | none => .ok []
  | some (.arr items) =>
    Checked.items (fun n => accountOfJson ["body", "accounts", toString n]) 0 items
  | some _ => .error [⟨["body", "accounts"], .notList⟩]

def Request.ofJson (j : Json) : Checked Request :=
  if !isObject j then .error [⟨["body"], .notObject⟩]
  else
    match Checked.both (required ["body"] j "instruction" Field.text) (accountsOfJson j) with
    | .error e => .error e
    | .ok (instruction, accounts) => .ok ⟨instruction, accounts⟩

/-- The blanks that may surround the name of a content type: the ASCII ones. -/
def isPadding (c : Char) : Bool := Text.isBlank c && c.toNat < 128

/-- Whether a content type is application/json or application/...+json; parameters do not count. -/
def isJsonMedia (contentType : String) : Bool :=
  let name := (Text.trim isPadding (contentType.toList.takeWhile (· != ';'))).map Char.toLower
  let subtype := (name.dropWhile (· != '/')).drop 1
  name.takeWhile (· != '/') == "application".toList && !subtype.contains '/' &&
    (subtype == "json".toList || "+json".toList.isSuffixOf subtype)

def pairs? (bigEndian : Bool) : List Nat → Option (List Nat)
  | [] => some []
  | [_] => none
  | a :: b :: rest =>
    (pairs? bigEndian rest).map ((if bigEndian then a * 256 + b else b * 256 + a) :: ·)

/-- The code points of UTF-16. A half of a pair that stands alone is one of them. -/
def utf16? (bigEndian : Bool) (bytes : List Nat) : Option (List Nat) :=
  (pairs? bigEndian bytes).map Text.joinPairs

def utf32? (bigEndian : Bool) : List Nat → Option (List Nat)
  | [] => some []
  | a :: b :: c :: d :: rest =>
    let n := if bigEndian then ((a * 256 + b) * 256 + c) * 256 + d
      else ((d * 256 + c) * 256 + b) * 256 + a
    if n < 0x110000 then (utf32? bigEndian rest).map (n :: ·) else none
  | _ => none

def bytesOf (points : List Nat) : List Nat :=
  (String.ofList (points.map Char.ofNat)).toUTF8.toList.map UInt8.toNat

/-- The code points of a body. Zero bytes at its start tell that it is not in UTF-8, as a document
starts with two ASCII characters; a mark in front of UTF-8 is left out. -/
def decoded? (body : String) : Option (List Nat) :=
  let points := Text.points body.toList
  let bytes := bytesOf points
  match bytes with
  | 0 :: 0 :: _ :: _ :: _ => utf32? true bytes
  | 0 :: _ :: _ :: _ :: _ => utf16? true bytes
  | _ :: 0 :: 0 :: 0 :: _ => utf32? false bytes
  | _ :: 0 :: _ :: _ :: _ => utf16? false bytes
  | [0, _] => utf16? true bytes
  | [_, 0] => utf16? false bytes
  | _ => some (if points.head? == some 0xFEFF then points.drop 1 else points)

def bodyLimits : Json.Limits := ⟨some Text.maxDigits, some 967⟩

def Request.ofDocument (document : String) : Except BodyFault Request :=
  match Json.read bodyLimits document with
  | .error (.malformed position) =>
    .error (.invalid [⟨["body", toString position], .notDocument⟩])
  | .error _ => .error .unreadable
  | .ok j =>
    match Request.ofJson j with
    | .error complaints => .error (.invalid complaints)
    | .ok r => .ok r

def Request.ofBody (contentType : Option String) (body : String) : Except BodyFault Request :=
  if body = "" then .error (.invalid [⟨["body"], .missing⟩])
  else if contentType.any isJsonMedia then
    match decoded? body with
    | none => .error .unreadable
    | some points => Request.ofDocument (String.ofList (points.flatMap Text.ofPoint))
  else .error (.invalid [⟨["body"], .notObject⟩])

end Remit.Service
