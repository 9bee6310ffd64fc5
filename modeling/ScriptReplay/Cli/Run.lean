import ScriptReplay.Cli.Request
import ScriptReplay.Console.Page
import ScriptReplay.Json.Writer
import ScriptReplay.Log.Registry
import ScriptReplay.Script.Load
import ScriptReplay.Text.ControlSequence

/-!
# Running a command line

`run` answers a command line: what is written to the two output streams, and how the run ends. A
fault that is reported is printed as a message; any other fault ends the run.
-/

namespace ScriptReplay.Cli

open Encoding (Codecs)

/-- How a run ends. -/
inductive Ending
  | exit (code : Nat)
  | fault (fault : Fault)
  | markup (error : Console.MarkupError)
  deriving Repr, DecidableEq

/-- What a run writes, and how it ends. -/
structure Outcome where
  output : String := ""
  errors : String := ""
  ending : Ending := .exit 0
  deriving Repr, DecidableEq

/-- A usage error as it is shown. The control sequences of an argument that it names are left out. -/
def usageText (command : Command) (error : UsageError) : String :=
  (if error.standsAlone then ""
    else "Usage: " ++ command.name ++ " " ++ command.synopsis ++ "\nTry '" ++ command.name
      ++ " --help' for help.\n\n")
    ++ Text.withoutSequences ("Error: " ++ error.message) ++ "\n"

/-- The outcome of a command line without a request. -/
def refuse : Refusal → Outcome
  | .help command => { output := command.help }
  | .nothing => { errors := mainCommand.help, ending := .exit 2 }
  | .usage command error => { errors := usageText command error, ending := .exit 2 }
  | .nulInPath => { ending := .fault .nulInPath }

/-- The outcome of a fault. The message of a report is printed as markup. -/
def fail : Fault → Outcome
  | .report report _ =>
    match Console.message ("[red]Error: " ++ report.message ++ "[/]").toList with
    | .ok text => { output := text, ending := .exit 1 }
    | .error error => { ending := .markup error }
  | fault => { ending := .fault fault }

/-- The title over the statements of a script, with markup. -/
def title (script : Script) : String :=
  "[yellow]" ++ script.name ++ "[/] (" ++ script.database.name ++ ", "
    ++ Text.decimalString script.size ++ " statements)"

/-- A statement as it is printed, under its number. -/
def numbered (statement : String) (number : Nat) : String :=
  "#" ++ Text.decimalString number ++ "\n" ++ Console.code statement.toList

/-- The statements of a script as text, under a title. -/
def page (script : Script) : Except Console.MarkupError String := do
  let rule ← Console.rule (title script).toList
  return rule ++ String.join ((script.statements.zipIdx 1).map fun (statement, number) =>
    numbered statement number)

/-- The statements of a script as one line of JSON. -/
def jsonLine (script : Script) : String :=
  (Json.ofStrings script.statements).text ++ "\n"

/-- The state of logging that a request asks for. -/
def registryFor (time : Log.Time) (logging : Logging) : Log.Registry :=
  if logging.verbose then
    { level := .debug, handlers := [.ofName logging.format], propagates := false, time }
  else { time }

/-- The script that a request asks for, with what was said while it was loaded. -/
def loadFor [Codecs] (tree : FileTree) (request : Request) : Except Fault Script.Loaded := do
  let config ← Config.ofNames request.database request.encoding request.delimiter
  Script.load tree config (Path.ofString request.path).toString

/-- Answers a request. -/
def answer [Codecs] [Log.Zone] (time : Log.Time) (tree : FileTree) (request : Request) :
    Outcome :=
  match loadFor tree request with
  | .error fault => fail fault
  | .ok loaded =>
    let errors := (registryFor time request.logging).writeNotices loaded.notices
    if request.json then { output := jsonLine loaded.script, errors }
    else
      match page loaded.script with
      | .ok output => { output, errors }
      | .error error => { errors, ending := .markup error }

/-- Answers a command line, given the time and the file system. -/
def run [Codecs] [Log.Zone] (time : Log.Time) (tree : FileTree) (arguments : List String) :
    Outcome :=
  match read arguments with
  | .error refusal => refuse refusal
  | .ok request => answer time tree request

end ScriptReplay.Cli
