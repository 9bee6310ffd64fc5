import ScriptReplay.Text.Quoted
import ScriptReplay.Text.Similarity

/-!
# Usage errors

What can be wrong with a command line, and how it is said. Most errors are shown below the usage of
the command they belong to.
-/

namespace ScriptReplay.Cli

/-- What is wrong with a command line. -/
inductive UsageError
  | noSuchOption (name : String) (hints : List String)
  | needsArgument (option : String)
  | takesNoValue (option : String)
  | badChoice (option value : String) (choices : List String)
  | missingArgument (name : String)
  | unexpectedArguments (arguments : List String)
  | missingCommand
  | noSuchCommand (name : String) (hints : List String)
  deriving Repr, DecidableEq

/-- A message with the names that may have been meant. -/
def withHints (message : String) (hints : List String) : String :=
  match hints with
  | [] => message
  | [hint] => message ++ " Did you mean " ++ Text.quoted hint ++ "?"
  | _ =>
    message ++ " (Did you mean one of: "
      ++ ", ".intercalate ((hints.mergeSort fun a b => !decide (b < a)).map Text.quoted) ++ "?)"

/-- The words for a usage error. -/
def UsageError.message : UsageError → String
  | .noSuchOption name hints => withHints ("No such option " ++ Text.quoted name ++ ".") hints
  | .needsArgument option => "Option " ++ Text.quoted option ++ " requires an argument."
  | .takesNoValue option => "Option " ++ Text.quoted option ++ " does not take a value."
  | .badChoice option value choices =>
    "Invalid value for '" ++ option ++ "': " ++ Text.quoted value ++ " is not one of "
      ++ ", ".intercalate (choices.map Text.quoted) ++ "."
  | .missingArgument name => "Missing argument '" ++ name ++ "'."
  | .unexpectedArguments arguments =>
    "Got unexpected extra argument" ++ (if arguments.length = 1 then "" else "s") ++ " ("
      ++ " ".intercalate arguments ++ ")"
  | .missingCommand => "Missing command."
  | .noSuchCommand name hints => withHints ("No such command " ++ Text.quoted name ++ ".") hints

/-- Whether an error is shown without the usage of its command. -/
def UsageError.standsAlone : UsageError → Bool
  | .needsArgument _ | .takesNoValue _ => true
  | _ => false

end ScriptReplay.Cli
