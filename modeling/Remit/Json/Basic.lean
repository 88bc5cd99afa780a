import Remit.Json.Binary64
import Remit.Text.Digits

namespace Remit

inductive Json where
  | null
  | bool (value : Bool)
  | int (value : Int)
  | real (value : Binary64)
  | str (value : String)
  | arr (items : List Json)
  | obj (fields : List (String × Json))
  deriving Inhabited

namespace Json

def field? (j : Json) (key : String) : Option Json :=
  match j with
  | .obj fields => (fields.find? (·.1 == key)).map (·.2)
  | _ => none

/-- Fields with the value under a key set: an earlier value of the key is replaced in its place. -/
def put (fields : List (String × Json)) (key : String) (value : Json) : List (String × Json) :=
  if fields.any (·.1 == key) then fields.map fun f => if f.1 == key then (key, value) else f
  else fields ++ [(key, value)]

def isNull : Json → Bool
  | .null => true
  | _ => false

/-- Whether a value counts as none: null, a false truth value, a zero, or what is empty. -/
def isVoid : Json → Bool
  | .null => true
  | .bool b => !b
  | .int n => n == 0
  | .real x => x.toInt? == some 0
  | .str s => s == ""
  | .arr items => items.isEmpty
  | .obj fields => fields.isEmpty

def ofString? : Option String → Json
  | none => .null
  | some s => .str s

mutual

def fits : Json → Bool
  | .int n => decide (Text.Writable n)
  | .arr items => itemsFit items
  | .obj fields => fieldsFit fields
  | _ => true

def itemsFit : List Json → Bool
  | [] => true
  | j :: js => fits j && itemsFit js

def fieldsFit : List (String × Json) → Bool
  | [] => true
  | (_, j) :: rest => fits j && fieldsFit rest

end

end Json

end Remit
