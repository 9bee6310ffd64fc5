import ScriptReplay.Fault
import ScriptReplay.Script.Load

/-!
# The world of a run

What a run leaves behind, whatever its outcome: the requests made to the connection with their
outcome, the records logged, and the correlation id that new records are stamped with. An action may
fail, and its failure keeps what was done before it.
-/

namespace ScriptReplay

/-- What has been done so far. -/
structure World where
  exchanges : List Exchange := []
  records : List Log.Record := []
  correlation : Option String := none

/-- An action on the world, which may fail. -/
abbrev Action := ExceptT Fault (StateM World)

namespace Action

open Encoding (Codecs)

/-- Makes a request to the connection. -/
def request (connection : Connection) (call : Call) : Action Unit := do
  let outcome := connection.answer (← get).exchanges call
  modify fun world => { world with exchanges := world.exchanges ++ [⟨call, outcome⟩] }
  match outcome with
  | none => return
  | some failure => throw (.connection failure)

/-- Logs a notice under the correlation id in force. -/
def log (notice : Log.Notice) : Action Unit :=
  modify fun world =>
    { world with records := world.records ++ [notice.stamp world.correlation] }

/-- Takes a result that needed nothing of the world. -/
def lift {α : Type} (result : Except Fault α) : Action α :=
  ExceptT.mk (pure result)

/-- Does an action under another correlation id and puts the old one back, whatever happens. -/
def withCorrelation {α : Type} (id : String) (action : Action α) : Action α := do
  let before := (← get).correlation
  modify fun world => { world with correlation := some id }
  try action
  finally modify fun world => { world with correlation := before }

/-- Loads a script file and logs what is said meanwhile. -/
def load [Codecs] (tree : FileTree) (config : Config) (path : String) : Action Script := do
  let loaded ← lift (Script.load tree config path)
  loaded.notices.forM log
  return loaded.script

/-- Loads the scripts of a directory that a glob selects and logs what is said meanwhile. -/
def loadAll [Codecs] (tree : FileTree) (config : Config) (directory glob : String) :
    Action (List Script) := do
  let paths ← lift (Script.select tree directory glob)
  paths.mapM fun path => load tree config path.toString

end Action

end ScriptReplay
