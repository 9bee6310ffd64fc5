import ScriptReplay.Log.Event
import ScriptReplay.Log.Hierarchy
import ScriptReplay.Text.Case

/-!
# The registry of loggers

The state of logging: the level and the handlers of the base logger, whether its events go on to the
root, which loggers there are and what they remember, the stamps that they put on their events, the
correlation id in force, and the time. `configure` sets up one handler that writes to the error
stream; `write` gives what an event puts there. An event that no handler sees is written as its bare
message if it is a warning or graver.

A logger decides once whether it lets events of a level pass, and remembers this until a level is
set up. It does not forget it when it comes to stand below another logger.
-/

namespace ScriptReplay.Log

/-- How a handler writes events. -/
inductive Style
  | structured
  | plain
  deriving Repr, DecidableEq

/-- The style that a name asks for: any name but one asks for plain lines. -/
def Style.ofName (name : String) : Style :=
  if name == "structured" then .structured else .plain

/-- Why a name names no level: nothing has the name, or it is the name of a format or of all the
formats. -/
inductive LevelError
  | unknown (name : String)
  | isFormat
  | isFormats
  deriving Repr, DecidableEq

/-- The ways to write a format: the sign of each, its class, and how it spells the basic format. -/
def formats : List (Char × String × String) := [
  ('%', "PercentStyle", "%(levelname)s:%(name)s:%(message)s"),
  ('\x7b', "StrFormatStyle", "\x7blevelname\x7d:\x7bname\x7d:\x7bmessage\x7d"),
  ('$', "StringTemplateStyle", "$\x7blevelname\x7d:$\x7bname\x7d:$\x7bmessage\x7d")]

/-- The words for it. -/
def LevelError.message : LevelError → String
  | .unknown name => "module 'logging' has no attribute '" ++ name ++ "'"
  | .isFormat => "Unknown level: '%(levelname)s:%(name)s:%(message)s'"
  | .isFormats =>
    "Level not an integer or a valid string: \x7b"
      ++ ", ".intercalate (formats.map fun (sign, kind, format) =>
        Text.quoted sign.toString ++ ": (<class 'logging." ++ kind ++ "'>, "
          ++ Text.quoted format ++ ")")
      ++ "\x7d"

/-- The levels by their names. -/
def levels : List (String × Level) := [
  ("NOTSET", 0),
  ("DEBUG", .debug),
  ("INFO", .info),
  ("WARN", .warning),
  ("WARNING", .warning),
  ("ERROR", .error),
  ("FATAL", .critical),
  ("CRITICAL", .critical)]

/-- The level that a name in any case stands for. Two names are taken, by formats. -/
def Level.ofName (name : String) : Except LevelError Level :=
  let upper := String.ofList (Text.upper name.toList)
  match levels.lookup upper with
  | some level => .ok level
  | none =>
    .error (if upper == "BASIC_FORMAT" then .isFormat
      else if upper == "_STYLES" then .isFormats else .unknown upper)

/-- The name of the logger that is asked for by a name. A name that does not begin like the base
logger's is put below it. -/
def loggerName : Option String → String
  | none => baseName
  | some name => if baseName.toList.isPrefixOf name.toList then name else partName name

/-- The state of logging. Where it is not said which loggers are there, the one is that is asked for
by the empty name. -/
structure Registry where
  level : Level := 0
  handlers : List Style := []
  propagates : Bool := true
  hierarchy : Hierarchy := .of [loggerName (some "")]
  decisions : List ((String × Level) × Bool) := []
  stamped : List String := []
  correlation : Option String := none
  time : Time := {}
  deriving Repr, DecidableEq

/-- The state of logging in which nothing is set up, and loggers are there that were asked for by
some names before. -/
def Registry.clean (names : List String) : Registry :=
  { hierarchy := .of (names.map fun name => loggerName (some name)) }

/-- A change to the state of logging, which may fail. What was changed before a failure stays
changed. -/
abbrev Change := ExceptT LevelError (StateM Registry)

namespace Registry

/-- Sets up logging to the error stream: the level is looked up and set, by which all decisions are
forgotten, and a handler takes the place of those that there are. -/
def setUp (level style : String) : Change Unit := do
  let level ← MonadExcept.ofExcept (Level.ofName level)
  modify fun registry => { registry with level, decisions := [] }
  modify fun registry => { registry with handlers := [] }
  modify fun registry => { registry with handlers := registry.handlers ++ [.ofName style] }
  modify fun registry => { registry with propagates := false }

/-- What comes of a change, and the state that it leaves behind. -/
def change (registry : Registry) (action : Change Unit) : Except LevelError Unit × Registry :=
  action.run.run registry

/-- The state of logging where it was set up. -/
def configure (registry : Registry) (level style : String) : Except LevelError Registry :=
  match registry.change (setUp level style) with
  | (.ok _, after) => .ok after
  | (.error error, _) => .error error

/-- The logger that is asked for, which is there from then on, and stamps its events if it is asked
for by name. -/
def getLogger (registry : Registry) (name : Option String) : String × Registry :=
  let logger := loggerName name
  let registry := { registry with hierarchy := registry.hierarchy.add logger }
  (logger,
    if name.isNone || registry.stamped.contains logger then registry
    else { registry with stamped := registry.stamped ++ [logger] })

/-- The number of stamps that a logger puts on its events. -/
def stampCount (registry : Registry) (logger : String) : Nat :=
  registry.stamped.count logger

/-- The least level that a logger lets pass: the level of the base logger if that is above it and
has one, and else the level of the root. -/
def threshold (registry : Registry) (logger : String) : Level :=
  if registry.hierarchy.isBelowBase logger && registry.level != 0 then registry.level else .warning

/-- How a logger decides whether it lets events of a level pass. -/
def decides (registry : Registry) (logger : String) (level : Level) : Bool :=
  0 < level && registry.threshold logger ≤ level

/-- Whether a logger lets events of a level pass: as it remembers that it decided, or as it decides
now. -/
def lets (registry : Registry) (logger : String) (level : Level) : Bool :=
  (registry.decisions.lookup (logger, level)).getD (registry.decides logger level)

/-- Makes a logger remember whether it lets events of a level pass. -/
def decide (registry : Registry) (logger : String) (level : Level) : Registry :=
  { registry with decisions := ((logger, level), registry.lets logger level) :: registry.decisions }

/-- The handlers that see the events of a logger. -/
def handlersFor (registry : Registry) (logger : String) : List Style :=
  if registry.hierarchy.isBelowBase logger then registry.handlers else []

/-- An event in a handler's style. -/
def writeIn [Zone] (registry : Registry) (event : Event) : Style → Except EventError String
  | .structured => event.structured none registry.correlation
  | .plain => event.plain

/-- A line, or nothing if it cannot be written. That an event cannot be written is itself reported
on the error stream, with the places in the program that led there, which are none of a log's. -/
def lineOf (result : Except EventError String) : String :=
  match result with
  | .ok text => text ++ "\n"
  | .error _ => ""

/-- Stamps an event with the time, and with the correlation id in force if its logger does so. -/
def stamp (registry : Registry) (event : Event) : Event :=
  let event := { event with time := registry.time }
  if registry.stamped.contains event.logger then
    { event with correlation := registry.correlation }
  else event

/-- What an event puts on the error stream. -/
def write [Zone] (registry : Registry) (event : Event) : String :=
  if registry.lets event.logger event.level then
    let event := registry.stamp event
    match registry.handlersFor event.logger with
    | [] => if .warning ≤ event.level then lineOf event.bare else ""
    | handlers => String.join (handlers.map fun style => lineOf (registry.writeIn event style))
  else ""

/-- Logs with the logger that is asked for by name: what it puts on the error stream, and the state
after it. -/
def log [Zone] (registry : Registry) (name : Option String) (event : Event) : String × Registry :=
  let (logger, registry) := registry.getLogger name
  (registry.write { event with logger }, registry.decide logger event.level)

/-- What notices put on the error stream. The loggers of the parts always stand right below the base
logger, so what they remember is what they decide. -/
def writeNotices [Zone] (registry : Registry) (notices : List Notice) : String :=
  String.join (notices.map fun notice => registry.write notice.event)

end Registry

end ScriptReplay.Log
