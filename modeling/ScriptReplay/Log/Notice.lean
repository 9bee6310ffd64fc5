import ScriptReplay.Json.Basic
import ScriptReplay.Text.Numeral

/-!
# Notices and records

A `Notice` is what a part of the library has to say: which part says it, how grave it is, the
message, and fields for programs to read. A `Record` is a notice that was logged, stamped with the
correlation id in force at that moment.
-/

namespace ScriptReplay.Log

/-- How grave a notice is; five degrees have names. -/
abbrev Level := Int

namespace Level

def debug : Level := 10
def info : Level := 20
def warning : Level := 30
def error : Level := 40
def critical : Level := 50

/-- The name of a level. -/
def name (level : Level) : String :=
  if level = 0 then "NOTSET"
  else if level = debug then "DEBUG"
  else if level = info then "INFO"
  else if level = warning then "WARNING"
  else if level = error then "ERROR"
  else if level = critical then "CRITICAL"
  else "Level " ++ Text.integerString level

end Level

/-- The logger that all loggers of the library stand below. -/
def baseName : String := "sqlscript"

/-- The logger of a part of the library. -/
def partName (part : String) : String := baseName ++ "." ++ part

/-- Something to be logged. -/
structure Notice where
  logger : String
  level : Level
  message : String
  extra : Option Fields := none

/-- A notice as it was logged. -/
structure Record extends Notice where
  correlation : Option String

/-- Stamps a notice with the correlation id in force. -/
def Notice.stamp (notice : Notice) (correlation : Option String) : Record :=
  { notice with correlation := correlation }

end ScriptReplay.Log
