namespace Remit

inductive FieldFault where
  | missing
  | notText
  | halvedPair
  | emptyText
  | notList
  | notObject
  | notInteger
  | notNumeral
  | integerTooLong
  | fractional
  | notFinite
  | notTruthValue
  | notDocument
  | unknownLogFormat
  deriving DecidableEq, Repr

namespace FieldFault

def name : FieldFault → String
  | .missing => "missing"
  | .notText => "string_type"
  | .halvedPair => "string_unicode"
  | .emptyText => "string_too_short"
  | .notList => "list_type"
  | .notObject => "model_attributes_type"
  | .notInteger => "int_type"
  | .notNumeral => "int_parsing"
  | .integerTooLong => "int_parsing_size"
  | .fractional => "int_from_float"
  | .notFinite => "finite_number"
  | .notTruthValue => "bool_parsing"
  | .notDocument => "json_invalid"
  | .unknownLogFormat => "value_error"

def message : FieldFault → String
  | .missing => "Field required"
  | .notText => "Input should be a valid string"
  | .halvedPair => "Input should be a valid string, unable to parse raw data as a unicode string"
  | .emptyText => "String should have at least 1 character"
  | .notList => "Input should be a valid list"
  | .notObject => "Input should be a valid dictionary or object to extract fields from"
  | .notInteger => "Input should be a valid integer"
  | .notNumeral => "Input should be a valid integer, unable to parse string as an integer"
  | .integerTooLong => "Unable to parse input string as an integer, exceeded maximum size"
  | .fractional => "Input should be a valid integer, got a number with a fractional part"
  | .notFinite => "Input should be a finite number"
  | .notTruthValue => "Input should be a valid boolean, unable to interpret input"
  | .notDocument => "JSON decode error"
  | .unknownLogFormat => "Value error, log_format must be 'json' or 'text'"

end FieldFault

structure Complaint where
  path : List String
  fault : FieldFault
  deriving DecidableEq, Repr

abbrev Checked (α : Type) := Except (List Complaint) α

namespace Checked

def ofField {α : Type} (path : List String) : Except FieldFault α → Checked α
  | .ok a => .ok a
  | .error fault => .error [⟨path, fault⟩]

def both {α β : Type} : Checked α → Checked β → Checked (α × β)
  | .ok a, .ok b => .ok (a, b)
  | .ok _, .error e => .error e
  | .error e, .ok _ => .error e
  | .error e, .error e' => .error (e ++ e')

def items {α β : Type} (check : Nat → α → Checked β) : Nat → List α → Checked (List β)
  | _, [] => .ok []
  | n, a :: rest =>
    match both (check n a) (items check (n + 1) rest) with
    | .ok (b, bs) => .ok (b :: bs)
    | .error e => .error e

end Checked

end Remit
