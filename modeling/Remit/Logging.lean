import Remit.Record
import Remit.Text.Word

/-! Setting up logging: one handler of our own at the root, whose layout is given by a format name,
and the root level, given by a level name. A set-up remembers the handler that it adds, and the next
one takes that handler away before it adds another. -/

namespace Remit

inductive Layout where
  | json | text
  deriving DecidableEq, Repr

namespace Layout

/-- Any format but "json" gives lines of text. -/
def ofFormat (format : String) : Layout := if format = "json" then .json else .text

def shown : Layout → String
  | .json => "json"
  | .text => "%(asctime)s %(levelname)s %(name)s - %(message)s"

end Layout

/-- A handler that a set-up made. No two of them have one number. -/
structure OwnHandler where
  number : Nat
  layout : Layout
  deriving DecidableEq, Repr

inductive Handler where
  | own (handler : OwnHandler)
  | foreign (label : String)
  deriving DecidableEq, Repr

namespace Handler

def own? : Handler → Option OwnHandler
  | .own handler => some handler
  | .foreign _ => none

def foreign? : Handler → Option String
  | .own _ => none
  | .foreign label => some label

end Handler

/-- The root logger and what is remembered of the last set-up. The level may be any integer, since
others may set it. -/
structure LogState where
  level : Int
  handlers : List Handler
  installed : Option OwnHandler
  deriving DecidableEq, Repr

def LogState.start (level : Int) (others : List String) : LogState :=
  ⟨level, others.map .foreign, none⟩

def LogState.initial : LogState := .start Level.warning.number []

def defaultLevel : String := "INFO"

def defaultFormat : String := "json"

structure SetUp where
  level : String := defaultLevel
  format : String := defaultFormat
  deriving DecidableEq, Repr

/-- Two names are taken for levels although they name something else: the template of the basic
layout and the table of template styles. -/
inductive LevelFault where
  | basicTemplate | styleTable
  deriving DecidableEq, Repr

def LevelFault.message : LevelFault → String
  | .basicTemplate => "Unknown level: '%(levelname)s:%(name)s:%(message)s'"
  | .styleTable =>
    "Level not an integer or a valid string: \x7b'%': (<class 'logging.PercentStyle'>, " ++
      "'%(levelname)s:%(name)s:%(message)s'), '\x7b': (<class 'logging.StrFormatStyle'>, " ++
      "'\x7blevelname\x7d:\x7bname\x7d:\x7bmessage\x7d'), '$': " ++
      "(<class 'logging.StringTemplateStyle'>, " ++
      "'$\x7blevelname\x7d:$\x7bname\x7d:$\x7bmessage\x7d')\x7d"

/-- The level of a name in any case of letters; an unknown name gives the level of information. -/
def Level.named (name : String) : Except LevelFault Level :=
  match Level.ofName? (Text.upper name) with
  | some level => .ok level
  | none =>
    match Text.upper name with
    | "BASIC_FORMAT" => .error .basicTemplate
    | "_STYLES" => .error .styleTable
    | _ => .ok .info

namespace LogState

def add (handlers : List Handler) (handler : Handler) : List Handler :=
  if handler ∈ handlers then handlers else handlers ++ [handler]

/-- A new handler of our own: the numbers of those before it are lower. -/
def make (s : LogState) (layout : Layout) : OwnHandler :=
  ⟨s.installed.elim 0 (·.number + 1), layout⟩

def kept (s : LogState) : List Handler :=
  match s.installed with
  | none => s.handlers
  | some old => s.handlers.erase (.own old)

def install (s : LogState) (layout : Layout) : LogState :=
  let handler := s.make layout
  { s with handlers := add s.kept (.own handler), installed := some handler }

/-- The handler is replaced first, so it is new even where the level name is at fault. -/
def setUp (s : LogState) (call : SetUp) : LogState × Option LevelFault :=
  let s := s.install (.ofFormat call.format)
  match Level.named call.level with
  | .ok level => ({ s with level := level.number }, none)
  | .error fault => (s, some fault)

def ownHandlers (s : LogState) : List OwnHandler := s.handlers.filterMap Handler.own?

def otherHandlers (s : LogState) : List String := s.handlers.filterMap Handler.foreign?

end LogState

end Remit
