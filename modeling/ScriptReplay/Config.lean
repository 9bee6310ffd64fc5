import ScriptReplay.Fault
import ScriptReplay.Splitter.Basic

/-!
# Settings of a run

The database system that scripts are written for, the encoding of their files, and a delimiter to
use in place of the one that is looked up for a script.
-/

namespace ScriptReplay

/-- The delimiter with the given pattern. -/
def Delimiter.ofPattern (pattern : String) : Except Fault Delimiter :=
  match ofPattern? pattern with
  | .ok delimiter => .ok delimiter
  | .error fault => .error (.ofPattern pattern fault)

/-- How scripts are read and split. -/
structure Config where
  database : Database := .generic
  encoding : String := "utf-8"
  delimiter : Option Delimiter := none

namespace Config

/-- The settings for a database system given by any of its names. The pattern of no characters asks
for no delimiter of its own. -/
def ofNames (database encoding : String) (pattern : Option String) : Except Fault Config := do
  let database ← match Database.resolve database with
    | .ok database => pure database
    | .error report => throw (.report report none)
  match pattern with
  | none => return { database, encoding }
  | some pattern =>
    if pattern.isEmpty then return { database, encoding }
    else return { database, encoding, delimiter := some (← Delimiter.ofPattern pattern) }

/-- The splitter for a script whose own delimiter may have been looked up. The delimiter in the
settings goes first, the standard one last. -/
def splitter (config : Config) (found : Option Delimiter) : Splitter :=
  { database := config.database
    delimiter := (config.delimiter <|> found).getD .forScript }

end Config

end ScriptReplay
