import Remit.Json.Obstacle
import Remit.Service.Request

namespace Remit.Service

def schemaPath : String := "/openapi.json"

def pagePaths : List String := ["/docs", "/docs/oauth2-redirect", "/redoc"]

inductive Endpoint where
  | payment | health | schema | page
  deriving DecidableEq, Repr

/-- Whether a path leads to a resource: it is its name, with or without a line break after it. -/
def leadsTo (path resource : String) : Bool := path == resource || path == resource ++ "\n"

namespace Endpoint

def ofPath? (path : String) : Option Endpoint :=
  if leadsTo path paymentPath then some .payment
  else if leadsTo path healthPath then some .health
  else if leadsTo path schemaPath then some .schema
  else if pagePaths.any (leadsTo path) then some .page
  else none

def methods : Endpoint → List String
  | .payment => ["POST"]
  | .health => ["GET"]
  | .schema | .page => ["GET", "HEAD"]

def target : Endpoint → Target
  | .payment => .payment
  | .health => .health
  | .schema | .page => .own ⟨200, .null⟩

end Endpoint

/-- Whether the answer is a page. Its body is no document. -/
def HttpRequest.isForPage (r : HttpRequest) : Bool :=
  Endpoint.ofPath? r.path == some .page && Endpoint.page.methods.contains r.method

/-- A path without the slashes at its end, or with one put there. -/
def otherSlash (path : String) : String :=
  match path.toList.reverse with
  | '/' :: rest => String.ofList (rest.dropWhile (· == '/')).reverse
  | _ => path ++ "/"

def detail (status : Int) (text : String) : Response := ⟨status, .obj [("detail", .str text)]⟩

def redirection : Response := ⟨307, .null⟩

def standardTarget (r : HttpRequest) : Target :=
  match Endpoint.ofPath? r.path with
  | some endpoint =>
    if r.method ∈ endpoint.methods then endpoint.target
    else .own (detail 405 "Method Not Allowed")
  | none =>
    if (Endpoint.ofPath? (otherSlash r.path)).isSome then .own redirection
    else .own (detail 404 "Not Found")

def bodyErrorOf (c : Complaint) : BodyError := ⟨c.path, c.fault.message, c.fault.name⟩

def standardReading (shown : List Complaint → String) (r : HttpRequest) : Reading :=
  match Request.ofBody r.contentType r.body with
  | .ok request => .request request
  | .error (.invalid complaints) => .invalid (complaints.map bodyErrorOf) (shown complaints)
  | .error .unreadable => .own (detail 400 "There was an error parsing the body")

namespace Handlers

/-- The reply of the last handler. If that fails too, nothing is left to be said. -/
def lastReply (h : Handlers) (cause : String) : Reply :=
  match (h.other cause).result with
  | .ok response => ⟨response, (h.other cause).records⟩
  | .error _ => ⟨⟨500, .str "Internal Server Error"⟩, (h.other cause).records⟩

def dispatch (h : Handlers) : Raised → Reply
  | .other cause => h.lastReply cause
  | raised =>
    match (h.attempt raised).result with
    | .ok response => ⟨response, (h.attempt raised).records⟩
    | .error cause => (h.lastReply cause).after (h.attempt raised).records

end Handlers

/-- Outcomes are sent as they are, integers of any length included, and any other document if
nothing keeps it back. The line that shows the errors of a body is left open. -/
def Framework.standard (shown : List Complaint → String) : Framework where
  target := standardTarget
  read := standardReading shown
  path r := if r.path = paymentPath ++ "\n" then paymentPath else r.path
  refusal? j := j.obstacle?.map (·.message)
  emit := .ok
  handle := Handlers.dispatch

end Remit.Service
