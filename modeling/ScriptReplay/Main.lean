import ScriptReplay.Cli.Run
import Std.Time.DateTime.Timestamp

/-!
# The program

Reads the script that the command line asks for, answers the command line, and writes the answer to
the output streams.
-/

open ScriptReplay

/-- Why the system refused to read a file, as far as it tells. -/
def refusalOf : IO.Error → SystemError.Reason
  | .inappropriateType _ code _ => if code = 21 then .isDirectory else .notDirectory
  | .invalidArgument _ code _ => if code = 36 then .nameTooLong else .notFound
  | _ => .notFound

/-- The file system as far as a command line needs it. -/
def treeFor (arguments : List String) : IO FileTree := do
  match Cli.read arguments with
  | .error _ => return {}
  | .ok request =>
    let path := Path.ofString request.path
    let result ← (IO.FS.readBinFile path.toString).toBaseIO
    return .ofReading path (match result with
      | .ok bytes => .ok bytes.toList
      | .error error => .error (refusalOf error))

/-- The time by the system's clock. -/
def timeNow : IO Log.Time := do
  let milliseconds := (← Std.Time.Timestamp.now).toMillisecondsSinceUnixEpoch.val
  return { seconds := milliseconds / 1000, milliseconds := milliseconds % 1000 }

/-- Runs the program. -/
def main (arguments : List String) : IO UInt32 := do
  let outcome := Cli.run (← timeNow) (← treeFor arguments) arguments
  IO.print outcome.output
  IO.eprint outcome.errors
  match outcome.ending with
  | .exit code => return UInt32.ofNat code
  | .fault fault => do
    IO.eprintln fault.message
    return 1
  | .markup error => do
    IO.eprintln error.message
    return 1
