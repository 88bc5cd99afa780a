import Remit.Json.Shown

namespace Remit.Template

inductive Fault where
  | tooFew
  | leftOver
  | unfinished
  | unfinishedName
  /-- an argument is asked for by name, but the arguments have no names -/
  | unnamed
  | indexedByName
  | unknownName (name : String)
  /-- a width or precision among the arguments is no integer, or exceeds its type -/
  | amountNotInteger
  | widthOutOfRange
  | precisionOutOfRange
  /-- a width or precision in the template exceeds its type -/
  | widthTooBig
  | precisionTooBig
  | precisionTooLarge
  | notCharacter
  | characterOutOfRange
  | notInteger (conversion : Char) (type : String)
  | notNumber (conversion : Char) (type : String)
  | notReal (type : String)
  | infinityToInteger
  | nanToInteger
  | integerToReal
  | tooLong
  /-- a text is wider than any memory -/
  | noRoom
  | unknown (conversion position : Nat)
  deriving DecidableEq, Repr

namespace Fault

def message : Fault → String
  | .tooFew => "not enough arguments for format string"
  | .leftOver => "not all arguments converted during string formatting"
  | .unfinished => "incomplete format"
  | .unfinishedName => "incomplete format key"
  | .unnamed => "format requires a mapping"
  | .indexedByName => "list indices must be integers or slices, not str"
  | .unknownName name => Text.quoted name
  | .amountNotInteger => "* wants int"
  | .widthOutOfRange => "Python int too large to convert to C ssize_t"
  | .precisionOutOfRange => "Python int too large to convert to C int"
  | .widthTooBig => "width too big"
  | .precisionTooBig => "precision too big"
  | .precisionTooLarge => "precision too large"
  | .notCharacter => "%c requires int or char"
  | .characterOutOfRange => "%c arg not in range(0x110000)"
  | .notInteger c type => "%" ++ c.toString ++ " format: an integer is required, not " ++ type
  | .notNumber c type => "%" ++ c.toString ++ " format: a real number is required, not " ++ type
  | .notReal type => "must be real number, not " ++ type
  | .infinityToInteger => "cannot convert float infinity to integer"
  | .nanToInteger => "cannot convert float NaN to integer"
  | .integerToReal => "int too large to convert to float"
  | .tooLong => Text.TooLong.tooLong.message
  | .noRoom => ""
  | .unknown n position =>
    "unsupported format character '" ++
      (if 31 ≤ n ∧ n < 127 then (Char.ofNat n).toString else "?") ++ "' (0x" ++
      String.ofList (Nat.toDigits 16 n) ++ ") at index " ++ toString position

end Fault

end Remit.Template
