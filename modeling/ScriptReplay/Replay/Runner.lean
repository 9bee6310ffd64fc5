import ScriptReplay.Replay.World
import ScriptReplay.Text.Blank

/-!
# Replaying scripts

A runner executes the statements of scripts on a connection, in their order and with one cursor for
a script. Unless the connection commits on its own, it commits behind the last statement, and rolls
back when a statement fails. Each script of a directory is a transaction of its own.
-/

namespace ScriptReplay

/-- A connection to run scripts on, and how to read them. -/
structure Runner where
  connection : Connection
  config : Config := {}
  autocommit : Bool := false

namespace Runner

open ScriptReplay.Action

/-- The record of a statement that failed. -/
def failureNotice (index : Nat) (path : Option String) (failure : Failure) : Log.Notice :=
  { logger := Log.partName "runner"
    level := .error
    message := "Statement #" ++ Text.decimalString (index + 1) ++ " failed: " ++ failure.message
    extra := some
      [("script", path.elim .null .str), ("statement_index", .num index)] }

/-- The record of a script that was executed. -/
def successNotice (path : String) (count : Nat) : Log.Notice :=
  { logger := Log.partName "runner"
    level := .info
    message := "Executed " ++ Text.decimalString count ++ " statements from " ++ path
    extra := some [("script", .str path), ("statement_count", .num count)] }

/-- Does an action, and nothing else if it fails in a way that does not abort. -/
def unlessAborted (action : Action Unit) : Action Unit :=
  tryCatch action fun fault =>
    match fault with
    | .connection failure => if failure.aborts then throw fault else pure ()
    | _ => throw fault

/-- Rolls back, where the connection does not commit on its own. A failure to do so is not reported,
for there is another to report. -/
def rollback (runner : Runner) : Action Unit :=
  if runner.autocommit then pure () else unlessAborted (request runner.connection .rollback)

/-- Executes the statement at an index of a script. When it fails, the failure is logged, what was
done is rolled back, and the statement is reported. -/
def executeStatement (runner : Runner) (path : Option String) (index : Nat) (statement : String) :
    Action Unit :=
  tryCatch (request runner.connection (.execute statement)) fun fault =>
    match fault with
    | .connection failure =>
      if failure.aborts then throw fault
      else do
        log (failureNotice index path failure)
        runner.rollback
        throw (.report (.failedStatement statement index path) (some (.failure failure)))
    | _ => throw fault

/-- Executes statements, the first of which stands at an index, and counts them. Blank statements
are left out. -/
def executeFrom (runner : Runner) (path : Option String) : Nat → List String → Action Nat
  | _, [] => return 0
  | index, statement :: rest => do
    if Text.blank statement then runner.executeFrom path (index + 1) rest
    else
      runner.executeStatement path index statement
      return (← runner.executeFrom path (index + 1) rest) + 1

/-- Executes statements with one cursor, which is closed whatever happens, and commits. -/
def executeStatements (runner : Runner) (statements : List String) (path : Option String) :
    Action Nat := do
  request runner.connection .cursor
  let count ←
    try runner.executeFrom path 0 statements
    finally request runner.connection .close
  unless runner.autocommit do request runner.connection .commit
  return count

/-- Executes the statements of a script, under its name as the correlation id. -/
def executeLoaded (runner : Runner) (script : Script) : Action Nat :=
  withCorrelation script.name (runner.executeStatements script.statements (some script.path))

/-- Loads and executes one script file. -/
def executeScript [Encoding.Codecs] (runner : Runner) (tree : FileTree) (path : String) : Action Nat := do
  let script ← load tree runner.config path
  let count ← runner.executeLoaded script
  log (successNotice script.path count)
  return count

/-- Executes scripts one after another and adds up the numbers of their statements. -/
def executeEach (runner : Runner) : List Script → Action Nat
  | [] => return 0
  | script :: rest => do
    let count ← runner.executeLoaded script
    return count + (← runner.executeEach rest)

/-- Loads the scripts of a directory that a glob selects, and then executes them in the order of
their file names. -/
def executeDirectory [Encoding.Codecs] (runner : Runner) (tree : FileTree)
    (directory glob : String) : Action Nat := do
  runner.executeEach (← loadAll tree runner.config directory glob)

end Runner

end ScriptReplay
