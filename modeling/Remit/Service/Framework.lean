import Remit.Pipeline
import Remit.Service.Reply
import Remit.Settings

/-! The service on top of a framework, which is a parameter: what finds the endpoint of a request,
reads a body, encodes an answer and calls the handler of what is raised is not part of this library.
The endpoint of payments runs the pipeline and leaves failed outcomes to the handlers. -/

namespace Remit.Service

structure HttpRequest where
  method : String
  path : String
  contentType : Option String
  body : String
  deriving DecidableEq, Repr

structure Request where
  instruction : String
  accounts : Snapshot
  deriving DecidableEq

/-- What a body is read as, unless the framework answers it by itself. -/
inductive Reading where
  | request (r : Request)
  | invalid (errors : List BodyError) (shown : String)
  | own (response : Response)

inductive Target where
  | payment
  | health
  | own (response : Response)

structure Framework where
  target : HttpRequest → Target
  read : HttpRequest → Reading
  /-- the path of a request as the handlers see it -/
  path : HttpRequest → String
  /-- why a document cannot be encoded, if it cannot -/
  refusal? : Json → Option String
  /-- the body of the answer to which an endpoint returns an outcome -/
  emit : Json → Except String Json
  handle : Handlers → Raised → Reply

def paymentPath : String := "/payment-instructions"

def healthPath : String := "/api/v1/health/"

def requestLogger : String := "payments.api.routes.payment_instructions"

def completionRecord (o : Outcome) : Record :=
  ⟨.info, requestLogger, "payment-instruction-request-completed",
    [("status_code", .str o.code.name),
      ("instruction_type", Json.ofString? (o.instruction.map (·.kind.name))),
      ("path", .str paymentPath)]⟩

def raisedByFailure (outcome : Json) : Raised :=
  match Fault.ofOutcome outcome with
  | .error defect => .other defect.message
  | .ok fault => .payments fault

section Framework

variable (fw : Framework)

def respond (o : Outcome) : Except Raised Response :=
  if o.isFailed then .error (raisedByFailure o.toJson)
  else
    match fw.emit o.toJson with
    | .error cause => .error (.other cause)
    | .ok body => .ok ⟨200, body⟩

def pay (logRequests : Bool) (today : Date) (r : Request) : Attempt Raised :=
  match process (.str r.instruction) r.accounts today with
  | .error e => ⟨[], .error (.other e.message)⟩
  | .ok p =>
    ⟨p.record :: if logRequests then [completionRecord p.outcome] else [], respond fw p.outcome⟩

def healthBody (settings : Settings) : Json :=
  .obj [("status", .str "healthy"), ("service", .str "payment-instructions-api"),
    ("version", .str settings.appVersion)]

def probe (settings : Settings) : Attempt Raised :=
  ⟨[], (encoded fw.refusal? 200 (healthBody settings) (healthBody settings)).mapError .other⟩

def attempt (settings : Settings) (today : Date) (r : HttpRequest) : Attempt Raised :=
  match fw.target r with
  | .own response => ⟨[], .ok response⟩
  | .health => probe fw settings
  | .payment =>
    match fw.read r with
    | .own response => ⟨[], .ok response⟩
    | .invalid errors shown => ⟨[], .error (.invalid errors shown)⟩
    | .request request => pay fw settings.logRequests today request

def conclude (path : String) (a : Attempt Raised) : Reply :=
  match a.result with
  | .ok response => ⟨response, a.records⟩
  | .error raised => (fw.handle (handlers fw.refusal? path) raised).after a.records

def serve (settings : Settings) (today : Date) (r : HttpRequest) : Reply :=
  conclude fw (fw.path r) (attempt fw settings today r)

end Framework

end Remit.Service
