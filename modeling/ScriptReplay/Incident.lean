import ScriptReplay.Report

/-!
# Incidents

Something that went wrong, as it is named in a message or a log: a report of the library, or an
error of another kind, which is known by its kind and its arguments.
-/

namespace ScriptReplay

/-- The kinds of errors that are no reports of the library. -/
inductive ErrorKind
  | value
  | key
  | runtime
  deriving Repr, DecidableEq

/-- The name of a kind of error. -/
def ErrorKind.label : ErrorKind → String
  | .value => "ValueError"
  | .key => "KeyError"
  | .runtime => "RuntimeError"

/-- Something that went wrong. -/
inductive Incident
  | report (report : Report)
  | other (kind : ErrorKind) (arguments : List Json)
  deriving Repr

namespace Incident

/-- The text of an incident. A single argument stands for itself, quoted if it is a missing key;
several are listed in parentheses. -/
def text : Incident → String
  | .report made => made.message
  | .other _ [] => ""
  | .other .key [argument] => String.ofList argument.shown
  | .other _ [argument] => argument.display
  | .other _ arguments => Json.displayTuple arguments

/-- The full name of the kind of an incident. -/
def label : Incident → String
  | .report made => "sqlscript.exceptions." ++ made.subject.label
  | .other kind _ => kind.label

end Incident

end ScriptReplay
