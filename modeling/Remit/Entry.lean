import Remit.Record
import Remit.Template.Fill
import Remit.Trace

/-! Log entries: records whose message is still a template with arguments. A detail that bears the
name of another part of the entry takes its place. -/

namespace Remit

structure Entry where
  level : Level
  logger : String
  message : Json
  args : List Json
  details : Details

namespace Entry

inductive Fault where
  | template (fault : Template.Fault)
  | trace (fault : Trace.Fault)
  /-- a detail takes the place of what makes the message -/
  | notCallable (type : String)
  deriving DecidableEq, Repr

def Fault.message : Fault → String
  | .template fault => fault.message
  | .trace fault => fault.message
  | .notCallable type => "'" ++ type ++ "' object is not callable"

inductive Arguments where
  | listed (args : List Json)
  | alone (arg : Json)

def Arguments.supply : Arguments → Template.Supply
  | .listed args => .ofList args
  | .alone arg => .ofValue arg

def Arguments.areVoid : Arguments → Bool
  | .listed args => args.isEmpty
  | .alone arg => arg.isVoid

/-- An object with fields stands alone if it is the only item of a list. -/
def Arguments.ofList : List Json → Arguments
  | [.obj (field :: rest)] => .alone (.obj (field :: rest))
  | args => .listed args

def arguments (e : Entry) : Arguments :=
  match e.details.value? "args" with
  | none => .ofList e.args
  | some arg => .alone arg

/-- The message; the template is taken as it stands if there are no arguments. -/
def messageText (e : Entry) : Except Fault String :=
  match e.details.value? "getMessage", ((e.details.value? "msg").getD e.message).text with
  | some v, _ => .error (.notCallable v.typeName)
  | none, .error _ => .error (.template .tooLong)
  | none, .ok template =>
    if e.arguments.areVoid then .ok template
    else (Template.fill template e.arguments.supply).mapError .template

def trace (e : Entry) : Json := (e.details.value? "exc_info").getD .null

def toJson (e : Entry) : Except Fault Json := do
  let message ← e.messageText
  if let some fault := Trace.fault? e.trace then throw (.trace fault)
  return .obj ([("level", (e.details.value? "levelname").getD (.str e.level.name)),
    ("logger", (e.details.value? "name").getD (.str e.logger)), ("message", .str message)] ++
    e.details.shown)

end Entry

end Remit
