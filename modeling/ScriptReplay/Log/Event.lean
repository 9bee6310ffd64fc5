import ScriptReplay.Incident
import ScriptReplay.Json.Writer
import ScriptReplay.Log.Message
import ScriptReplay.Log.Notice
import ScriptReplay.Log.Timestamp

/-!
# Log events and how they are written

An event is all that is known of one use of a logger. It is written either as a line of text, with
its exception on the lines behind it, or as one JSON object: timestamp, level, logger and message,
then the correlation id if there is one, then the fields that were added to it, and the exception
last. A field replaces one of the same name that came before it and keeps its place.
-/

namespace ScriptReplay.Log

/-- One use of a logger. The `extra` value holds fields that are added to the event, and
`correlation` the id that was in force when it was logged. An exception is given by its text, with
the places that it passed through, or as an incident, which passed through none and may have a
cause. -/
structure Event where
  logger : String
  level : Level
  text : String
  arguments : List Json := []
  time : Time := {}
  correlation : Option String := none
  extra : Option Json := none
  exception : Option String := none
  incident : Option Incident := none
  cause : Option Incident := none

/-- A notice as an event. -/
def Notice.event (notice : Notice) : Event :=
  { logger := notice.logger
    level := notice.level
    text := notice.message
    extra := notice.extra.map Json.obj }

/-- Why an event cannot be written. -/
inductive EventError
  | message (error : MessageError)
  | time (error : TimeError)
  | notFields (kind : String)
  | notPair (index : Nat)
  | wrongLength (index length : Nat)
  | unhashableKey (kind : String)
  | keyNotText
  deriving Repr, DecidableEq

/-- The words for it. -/
def EventError.text : EventError → String
  | .message error => error.message
  | .time error => error.message
  | .notFields kind => "'" ++ kind ++ "' object is not iterable"
  | .notPair index =>
    "cannot convert dictionary update sequence element #" ++ Text.decimalString index
      ++ " to a sequence"
  | .wrongLength index length =>
    "dictionary update sequence element #" ++ Text.decimalString index ++ " has length "
      ++ Text.decimalString length ++ "; 2 is required"
  | .unhashableKey kind => "unhashable type: '" ++ kind ++ "'"
  | .keyNotText => "Only dicts with str-like or number-like keys are supported"

/-- The values that a sequence lists: the items of an array, the characters of a text, or the keys
of an object. -/
def itemsOf? : Json → Option (List Json)
  | .arr items => some items
  | .str s => some (s.toList.map fun c => .str c.toString)
  | .obj fields => some (fields.map fun (key, _) => .str key)
  | .null | .bool _ | .num _ => none

/-- The field that a sequence of two makes; `index` is its place among others. -/
def pairOf (index : Nat) (value : Json) : Except EventError (String × Json) :=
  match itemsOf? value with
  | none => .error (.notPair index)
  | some [.str key, value] => .ok (key, value)
  | some [.num n, value] => .ok (Text.integerString n, value)
  | some [.arr _, _] => .error (.unhashableKey "list")
  | some [.obj _, _] => .error (.unhashableKey "dict")
  | some [_, _] => .error .keyNotText
  | some items => .error (.wrongLength index items.length)

/-- The fields that a value adds to an event: those of an object, or pairs in sequence. -/
def fieldsOf : Json → Except EventError Fields
  | .obj fields => .ok fields
  | value =>
    match itemsOf? value with
    | none => .error (.notFields value.kindName)
    | some items => (items.zipIdx).mapM fun (item, index) => pairOf index item

/-- What stands between an incident and the one that it caused. -/
def causeLine : String :=
  "\n\nThe above exception was the direct cause of the following exception:\n\n"

/-- An incident in a log: its kind, and its text if it has one. -/
def incidentText (incident : Incident) : String :=
  if incident.text.isEmpty then incident.label else incident.label ++ ": " ++ incident.text

namespace Event

/-- The message of an event. -/
def message (event : Event) : Except EventError String :=
  match messageOf event.text event.arguments with
  | .ok text => .ok text
  | .error error => .error (.message error)

/-- The timestamp of an event. -/
def timestamp [Zone] (event : Event) (pattern : Option String) : Except EventError String :=
  match Log.timestamp event.time pattern with
  | .ok text => .ok text
  | .error error => .error (.time error)

/-- The text of the exception of an event, if it has one. An incident stands behind its cause. -/
def exceptionText (event : Event) : Option String :=
  match event.incident with
  | none => event.exception
  | some incident =>
    match event.cause with
    | none => some (incidentText incident)
    | some cause => some (incidentText cause ++ causeLine ++ incidentText incident)

/-- The correlation id to write: the one of the event, or else the one in force now. An empty one
counts as none. -/
def correlationToWrite (event : Event) (current : Option String) : Option String :=
  match event.correlation.filter (!·.isEmpty) with
  | some id => some id
  | none => current.filter (!·.isEmpty)

/-- An event as fields. -/
def fields [Zone] (event : Event) (pattern current : Option String) : Except EventError Fields := do
  let timestamp ← event.timestamp pattern
  let message ← event.message
  let basic : Fields :=
    [("timestamp", .str timestamp), ("level", .str event.level.name),
      ("logger", .str event.logger), ("message", .str message)]
  let marked : Fields :=
    match event.correlationToWrite current with
    | none => basic
    | some id => basic ++ [("correlation_id", .str id)]
  let extended := Fields.update marked (← fieldsOf (event.extra.getD (.obj [])))
  match event.exceptionText with
  | none => return extended
  | some text => return extended.set "exception" (.str text)

/-- An event as one JSON object. -/
def structured [Zone] (event : Event) (pattern current : Option String) : Except EventError String := do
  return (Json.obj (← event.fields pattern current)).text

/-- A text with the exception of an event on the lines behind it. -/
def withException (event : Event) (text : String) : String :=
  match event.exceptionText with
  | none => text
  | some exception =>
    if exception.isEmpty then text
    else if text.toList.getLast? == some '\n' then text ++ exception
    else text ++ "\n" ++ exception

/-- An event as a line of text. -/
def plain [Zone] (event : Event) : Except EventError String := do
  let message ← event.message
  let timestamp ← event.timestamp none
  return event.withException (timestamp ++ " - " ++ event.logger ++ " - "
    ++ event.level.name ++ " - " ++ message)

/-- An event as its bare message. -/
def bare (event : Event) : Except EventError String := do
  return event.withException (← event.message)

end Event

end ScriptReplay.Log
