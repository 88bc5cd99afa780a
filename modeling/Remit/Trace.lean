import Remit.Json.Shown

/-! Traces of log entries. A trace is three values, of which the second is what was raised and the
third where. Documents cannot hold such values, so only a trace of nulls is one; and a document
shows no trace. -/

namespace Remit.Trace

inductive Fault where
  | notIndexable (type : String)
  | notNumbered
  | shortText
  | shortList
  | noFrame (type : String)
  | noContext (type : String)
  deriving DecidableEq, Repr

def place : Nat := 2

def Fault.message : Fault → String
  | .notIndexable type => "'" ++ type ++ "' object is not subscriptable"
  | .notNumbered => toString place
  | .shortText => "string index out of range"
  | .shortList => "list index out of range"
  | .noFrame type => "'" ++ type ++ "' object has no attribute 'tb_frame'"
  | .noContext type => "'" ++ type ++ "' object has no attribute '__suppress_context__'"

def ends : Json → Except Fault (Json × Json)
  | .arr (_ :: raised :: position :: _) => .ok (raised, position)
  | .arr _ => .error .shortList
  | .str s =>
    if (Text.points s.toList).length ≤ place then .error .shortText else .ok (.str s, .str s)
  | .obj _ => .error .notNumbered
  | j => .error (.notIndexable j.typeName)

def fault? (trace : Json) : Option Fault :=
  if trace.isVoid then none
  else
    match ends trace with
    | .error e => some e
    | .ok (raised, position) =>
      if !position.isNull then some (.noFrame position.typeName)
      else if !raised.isNull then some (.noContext raised.typeName)
      else none

end Remit.Trace
