import Remit.Json.Basic
import Remit.Json.Shortest
import Remit.Text.Quoted

namespace Remit.Json

mutual

def shown : Json → String
  | .null => "None"
  | .bool b => if b then "True" else "False"
  | .int n => toString n
  | .real x => x.shown
  | .str s => Text.quoted s
  | .arr items => "[" ++ itemsShown items ++ "]"
  | .obj fields => "\x7b" ++ fieldsShown fields ++ "\x7d"

def itemsShown : List Json → String
  | [] => ""
  | [j] => shown j
  | j :: js => shown j ++ ", " ++ itemsShown js

def fieldsShown : List (String × Json) → String
  | [] => ""
  | [(k, j)] => Text.quoted k ++ ": " ++ shown j
  | (k, j) :: rest => Text.quoted k ++ ": " ++ shown j ++ ", " ++ fieldsShown rest

end

def typeName : Json → String
  | .null => "NoneType"
  | .bool _ => "bool"
  | .int _ => "int"
  | .real _ => "float"
  | .str _ => "str"
  | .arr _ => "list"
  | .obj _ => "dict"

def quotedText (j : Json) : Except Text.TooLong String :=
  if j.fits then .ok j.shown else .error .tooLong

def text : Json → Except Text.TooLong String
  | .str s => .ok s
  | j => j.quotedText

end Remit.Json
