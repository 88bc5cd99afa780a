import Remit.Record
import Remit.Service.Fault

/-! Replies to what is raised on the way to an answer. There is a handler for the errors of this
service, one for bodies that are no requests, and one for everything else. A handler may fail as
well, as the body that it makes may be one that cannot be encoded. -/

namespace Remit.Service

structure Response where
  status : Int
  body : Json

structure Reply extends Response where
  records : List Record

def Reply.after (records : List Record) (r : Reply) : Reply :=
  { r with records := records ++ r.records }

structure BodyError where
  place : List String
  message : String
  type : String
  deriving DecidableEq, Repr

namespace BodyError

def field (e : BodyError) : String := ".".intercalate e.place

def toJson (e : BodyError) : Json :=
  .obj [("field", .str e.field), ("message", .str e.message), ("type", .str e.type)]

end BodyError

inductive Raised where
  | payments (fault : Fault)
  /-- the errors of a body, and the line of text that shows them -/
  | invalid (errors : List BodyError) (shown : String)
  | other (cause : String)

structure Attempt (ε : Type) where
  records : List Record
  result : Except ε Response

structure Handlers where
  payments : Fault → Attempt String
  invalid : List BodyError → String → Attempt String
  other : String → Attempt String

def Handlers.attempt (h : Handlers) : Raised → Attempt String
  | .payments fault => h.payments fault
  | .invalid errors shown => h.invalid errors shown
  | .other cause => h.other cause

def handlerLogger : String := "payments.api.error_handlers"

def faultRecord (path : String) (f : Fault) (text : String) : Record :=
  ⟨.warning, handlerLogger, "PaymentsError: " ++ text,
    [("error_code", f.code), ("path", .str path), ("http_status", .int f.httpStatus),
      ("instruction_type", f.instructionType)]⟩

def invalidRecord (path shown : String) : Record :=
  ⟨.warning, handlerLogger, "Validation error on " ++ path ++ ": " ++ shown, []⟩

def internalRecord (path cause : String) : Record :=
  ⟨.error, handlerLogger, "Unhandled exception on " ++ path ++ ": " ++ cause, []⟩

def invalidBody (errors : List BodyError) : Json :=
  .obj [("error", .obj [("code", .str "VALIDATION_ERROR"), ("message", .str "Invalid request data"),
    ("category", .str Category.validation.name), ("severity", .str Severity.error.name),
    ("details", .arr (errors.map BodyError.toJson))])]

/-- Shows nothing of the cause, which goes into the record. -/
def internalBody : Json :=
  .obj [("error", .obj [("code", .str "INTERNAL_ERROR"),
    ("message", .str "An unexpected error occurred"), ("category", .str Category.internal.name),
    ("severity", .str Severity.critical.name)])]

section Encoding

variable (refusal? : Json → Option String)

/-- The response, unless there is a cause why its body cannot be encoded. What is encoded may hold
more than the body shows. -/
def encoded (status : Int) (form body : Json) : Except String Response :=
  match refusal? form with
  | none => .ok ⟨status, body⟩
  | some cause => .error cause

def handlers (path : String) : Handlers where
  payments f :=
    match f.text with
    | .error e => ⟨[], .error e.message⟩
    | .ok text => ⟨[faultRecord path f text], encoded refusal? f.httpStatus f.sentForm f.envelope⟩
  invalid errors shown :=
    ⟨[invalidRecord path shown], encoded refusal? 400 (invalidBody errors) (invalidBody errors)⟩
  other cause := ⟨[internalRecord path cause], encoded refusal? 500 internalBody internalBody⟩

end Encoding

end Remit.Service
