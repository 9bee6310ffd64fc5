import ScriptReplay.Database
import ScriptReplay.Path.Basic

/-!
# Scripts

A script file together with the statements found in it.
-/

namespace ScriptReplay

/-- A script: where it comes from, the system it was split for, its statements, and the checksum of
its text. -/
structure Script where
  path : String
  database : Database
  statements : List String := []
  checksum : String := ""
  deriving Repr, DecidableEq

/-- The file name of a script. -/
def Script.name (script : Script) : String :=
  (Path.ofString script.path).name

/-- The number of a script's statements. -/
def Script.size (script : Script) : Nat :=
  script.statements.length

end ScriptReplay
