import Remit.Json.Basic

namespace Remit

inductive Level where
  | notset | debug | info | warning | error | critical
  deriving DecidableEq, Repr

namespace Level

def number : Level → Nat
  | .notset => 0
  | .debug => 10
  | .info => 20
  | .warning => 30
  | .error => 40
  | .critical => 50

def name : Level → String
  | .notset => "NOTSET"
  | .debug => "DEBUG"
  | .info => "INFO"
  | .warning => "WARNING"
  | .error => "ERROR"
  | .critical => "CRITICAL"

/-- Two levels have a second name. -/
def ofName? : String → Option Level
  | "NOTSET" => some .notset
  | "DEBUG" => some .debug
  | "INFO" => some .info
  | "WARNING" => some .warning
  | "WARN" => some .warning
  | "ERROR" => some .error
  | "CRITICAL" => some .critical
  | "FATAL" => some .critical
  | _ => none

end Level

abbrev Details := List (String × Json)

namespace Details

def value? (details : Details) (key : String) : Option Json :=
  (details.find? (·.1 == key)).map (·.2)

def shownKeys : List String :=
  ["stage", "error_code", "status_code", "instruction_type", "path", "http_status"]

def shown (details : Details) : List (String × Json) :=
  shownKeys.filterMap fun key =>
    match details.value? key with
    | none => none
    | some value => if value.isNull then none else some (key, value)

end Details

structure Record where
  level : Level
  logger : String
  message : String
  details : Details

def Record.toJson (r : Record) : Json :=
  .obj ([("level", .str r.level.name), ("logger", .str r.logger), ("message", .str r.message)] ++
    r.details.shown)

end Remit
