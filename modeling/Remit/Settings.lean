import Remit.Field.Integer
import Remit.Json.Reader
import Remit.Logging

namespace Remit

structure Settings where
  appName : String
  appVersion : String
  host : String
  port : Int
  corsOrigins : List String
  logLevel : String
  logFormat : Layout
  logRequests : Bool
  deriving DecidableEq, Repr

inductive SettingsFault where
  | unreadableOrigins
  | deepOrigins (bracket : Json.Bracket)
  | invalid (complaints : List Complaint)
  deriving DecidableEq, Repr

def unreadableOriginsMessage : String :=
  "error parsing value for field \"cors_origins\" from source \"EnvSettingsSource\""

def deepOriginsMessage (bracket : Json.Bracket) : String :=
  "maximum recursion depth exceeded while decoding a JSON " ++
    (match bracket with
      | .list => "array"
      | .object => "object") ++ " from a unicode string"

namespace Settings

def default : Settings where
  appName := "Payment Instructions API"
  appVersion := "1.0.0"
  host := "0.0.0.0"
  port := 8000
  corsOrigins := ["http://localhost:5173"]
  logLevel := defaultLevel
  logFormat := .json
  logRequests := true

def layoutName : Layout → String
  | .json => "json"
  | .text => "text"

def toJson (s : Settings) : Json :=
  .obj [("app_name", .str s.appName), ("app_version", .str s.appVersion), ("host", .str s.host),
    ("port", .int s.port), ("cors_origins", .arr (s.corsOrigins.map .str)),
    ("log_level", .str s.logLevel), ("log_format", .str (layoutName s.logFormat)),
    ("log_requests", .bool s.logRequests)]

abbrev Environment := List (String × String)

def valueOf? (env : Environment) (name : String) : Option String :=
  (env.reverse.find? fun v => Text.asciiLower v.1 == name).map (·.2)

def setting {α : Type} (env : Environment) (name : String) (otherwise : α)
    (check : String → Except FieldFault α) : Checked α :=
  match valueOf? env name with
  | none => .ok otherwise
  | some value => .ofField [name] (check value)

def layout (s : String) : Except FieldFault Layout :=
  match Text.asciiLower s with
  | "json" => .ok .json
  | "text" => .ok .text
  | _ => .error .unknownLogFormat

/-- Origins are a list of texts, or null for the default. -/
def originsOfJson : Json → Checked (List String)
  | .null => .ok default.corsOrigins
  | .arr items =>
    Checked.items (fun n j => .ofField ["cors_origins", toString n] (Field.text j)) 0 items
  | _ => .error [⟨["cors_origins"], .notList⟩]

def originsLimits : Json.Limits := ⟨some Text.maxDigits, some 985⟩

/-- The variable of the origins holds a document. It must be one before anything is checked. -/
def originsDocument (env : Environment) : Except SettingsFault Json :=
  match valueOf? env "cors_origins" with
  | none => .ok .null
  | some text =>
    match Json.read originsLimits text with
    | .ok j => .ok j
    | .error (.tooDeep bracket) => .error (.deepOrigins bracket)
    | .error _ => .error .unreadableOrigins

def check (env : Environment) (origins : Json) : Checked Settings :=
  match Checked.both (setting env "app_name" default.appName .ok)
      (.both (setting env "app_version" default.appVersion .ok)
        (.both (setting env "host" default.host .ok)
          (.both (setting env "port" default.port Field.integerOfText)
            (.both (originsOfJson origins)
              (.both (setting env "log_level" default.logLevel .ok)
                (.both (setting env "log_format" default.logFormat layout)
                  (setting env "log_requests" default.logRequests Field.truthValue))))))) with
  | .error e => .error e
  | .ok (appName, appVersion, host, port, corsOrigins, logLevel, logFormat, logRequests) =>
    .ok ⟨appName, appVersion, host, port, corsOrigins, logLevel, logFormat, logRequests⟩

def ofEnvironment (env : Environment) : Except SettingsFault Settings :=
  match originsDocument env with
  | .error e => .error e
  | .ok origins =>
    match check env origins with
    | .error complaints => .error (.invalid complaints)
    | .ok s => .ok s

end Settings

end Remit
