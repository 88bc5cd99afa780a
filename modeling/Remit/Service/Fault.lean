import Remit.Json.Shown
import Remit.Status

namespace Remit.Service

inductive Category where
  | validation | businessRule | internal
  deriving DecidableEq, Repr

def Category.name : Category → String
  | .validation => "validation"
  | .businessRule => "business_rule"
  | .internal => "internal"

def Category.ofName? (s : String) : Option Category :=
  [Category.validation, .businessRule, .internal].find? (·.name == s)

inductive Severity where
  | info | warning | error | critical
  deriving DecidableEq, Repr

def Severity.name : Severity → String
  | .info => "info"
  | .warning => "warning"
  | .error => "error"
  | .critical => "critical"

def Severity.ofName? (s : String) : Option Severity :=
  [Severity.info, .warning, .error, .critical].find? (·.name == s)

structure Fault where
  message : Json
  code : Json
  category : Category
  severity : Severity
  httpStatus : Int
  instructionType : Json
  data : Json

def Fault.text (f : Fault) : Except Text.TooLong String := f.message.text

def Fault.envelopeWith (f : Fault) (more : List (String × Json)) : Json :=
  .obj [("error", .obj ([("code", f.code), ("message", f.message),
      ("category", .str f.category.name), ("severity", .str f.severity.name)] ++ more)),
    ("data", f.data)]

def Fault.envelope (f : Fault) : Json := f.envelopeWith []

/-- The answer as it is sent: the time follows the severity. Any time takes as much room. -/
def Fault.sentForm (f : Fault) : Json :=
  f.envelopeWith [("timestamp", .str "2000-01-01T00:00:00.000000+00:00")]

/-- Codes that the syntax of a text causes belong to validation, any other to business rules. -/
def categoryOf : Json → Category
  | .str name =>
    if (StatusCode.ofName? name).any StatusCode.isSyntactic then .validation else .businessRule
  | _ => .businessRule

inductive OutcomeDefect where
  | noCode | noReason | listForCode | objectForCode
  deriving DecidableEq, Repr

def OutcomeDefect.message : OutcomeDefect → String
  | .noCode => "'status_code'"
  | .noReason => "'status_reason'"
  | .listForCode => "unhashable type: 'list'"
  | .objectForCode => "unhashable type: 'dict'"

def Fault.ofOutcome (outcome : Json) : Except OutcomeDefect Fault :=
  match outcome.field? "status_code", outcome.field? "status_reason" with
  | none, _ => .error .noCode
  | some _, none => .error .noReason
  | some (.arr _), some _ => .error .listForCode
  | some (.obj _), some _ => .error .objectForCode
  | some code, some reason =>
    .ok ⟨reason, code, categoryOf code, .error, 400,
      (outcome.field? "type").getD .null, outcome⟩

end Remit.Service
