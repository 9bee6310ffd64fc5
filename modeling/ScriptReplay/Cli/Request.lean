import ScriptReplay.Cli.Arguments
import ScriptReplay.Text.Alphanumeric

/-!
# Requests

The commands there are and what a command line asks of them: to split a script, or to be told how to
ask. A command line that asks for nothing that can be done is refused.
-/

namespace ScriptReplay.Cli

/-- The command that the others belong to. -/
def mainCommand : Command where
  name := "sqlscript"
  synopsis := "[OPTIONS] COMMAND [ARGS]..."
  options := [
    ⟨"--verbose", .flag⟩,
    ⟨"--log-format", .choice ["simple", "structured"]⟩,
    ⟨"--help", .flag⟩]
  anywhere := false
  help := "Usage: sqlscript [OPTIONS] COMMAND [ARGS]...

  Split SQL scripts into statements.

Options:
  --verbose                       Enable verbose output.
  --log-format [simple|structured]
                                  Format of the verbose log written to stderr.
                                  [default: simple]
  --help                          Show this message and exit.

Commands:
  split  Print the statements extracted from a SQL script.
"

/-- The command that prints the statements of a script. -/
def splitCommand : Command where
  name := "sqlscript split"
  synopsis := "[OPTIONS] PATH"
  options := [
    ⟨"--dialect", .text⟩,
    ⟨"--delimiter", .text⟩,
    ⟨"--encoding", .text⟩,
    ⟨"--format", .choice ["text", "json"]⟩,
    ⟨"--help", .flag⟩]
  anywhere := true
  help := "Usage: sqlscript split [OPTIONS] PATH

  Print the statements extracted from a SQL script.

Options:
  --dialect TEXT        Database type the script is written for.
  --delimiter TEXT      Override the statement delimiter pattern.
  --encoding TEXT       Text encoding of the script.  [default: utf-8]
  --format [text|json]  Output format.  [default: text]
  --help                Show this message and exit.
"

/-- The names of the commands that belong to the main one. -/
def commandNames : List String := ["split"]

/-- How the library is to log. -/
structure Logging where
  verbose : Bool
  format : String
  deriving Repr, DecidableEq

/-- A script to split, and how. -/
structure Request where
  logging : Logging
  path : String
  database : String
  delimiter : Option String
  encoding : String
  json : Bool
  deriving Repr, DecidableEq

/-- Why there is no request: help is asked for, nothing is asked for, the command line is wrong, or
it names a path that no file can have. -/
inductive Refusal
  | help (command : Command)
  | nothing
  | usage (command : Command) (error : UsageError)
  | nulInPath

/-- A result or the refusal of a wrong command line. -/
def ofUsage {α : Type} (command : Command) : Except UsageError α → Except Refusal α
  | .ok result => .ok result
  | .error error => .error (.usage command error)

/-- What a command line gives to a command, which is refused where help is asked for. -/
def givenTo (command : Command) (arguments : List String) : Except Refusal Given := do
  let given ← ofUsage command (command.parse arguments)
  if given.has "--help" then throw (.help command)
  ofUsage command (command.checkChoices given)
  return given

/-- Whether the name of a command looks like an option. -/
def looksLikeOption (name : String) : Bool :=
  name.toList.head?.any fun c => !Text.alphanumerics.contains c.toNat

/-- The request to split a script. -/
def readSplit (logging : Logging) (arguments : List String) : Except Refusal Request := do
  let given ← givenTo splitCommand arguments
  match given.arguments with
  | [] => throw (.usage splitCommand (.missingArgument "PATH"))
  | path :: rest =>
    if path.toList.contains '\x00' then throw .nulInPath
    if !rest.isEmpty then throw (.usage splitCommand (.unexpectedArguments rest))
    return {
      logging, path
      database := (given.value? "--dialect").getD "generic"
      delimiter := given.value? "--delimiter"
      encoding := (given.value? "--encoding").getD "utf-8"
      json := given.value? "--format" == some "json" }

/-- The request of a command line. A name that is no command and looks like an option is first tried
as one. -/
def read (arguments : List String) : Except Refusal Request := do
  if arguments.isEmpty then throw .nothing
  let given ← givenTo mainCommand arguments
  let logging : Logging :=
    { verbose := given.has "--verbose"
      format := (given.value? "--log-format").getD "simple" }
  match given.arguments with
  | [] => throw (.usage mainCommand .missingCommand)
  | name :: rest =>
    if commandNames.contains name then readSplit logging rest
    else
      if looksLikeOption name then let _ ← givenTo mainCommand (name :: rest)
      throw (.usage mainCommand (.noSuchCommand name (Text.suggestions name commandNames)))

end ScriptReplay.Cli
