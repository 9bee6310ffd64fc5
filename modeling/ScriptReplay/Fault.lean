import ScriptReplay.Connection
import ScriptReplay.Database
import ScriptReplay.Encoding.Codec
import ScriptReplay.Path.Glob
import ScriptReplay.Pattern.Error
import ScriptReplay.Text.Quoted
import ScriptReplay.Text.WholeNumber

/-!
# Faults

All ways in which an operation of the library can end without a result. Most are reports, made for
the reader and carrying what they were made from; the others come from below and are passed on as
they are.
-/

namespace ScriptReplay

/-- What a report was made from. -/
inductive Origin
  | pattern (error : Pattern.Error) (text : String)
  | system (error : SystemError)
  | content (error : Encoding.Error)
  | failure (reason : Failure)
  deriving Repr, DecidableEq

/-- The message of what a report was made from. -/
def Origin.message : Origin → String
  | .pattern error text => error.message text
  | .system error => error.message
  | .content error => error.message
  | .failure reason => reason.message

/-- Why an operation has no result. -/
inductive Fault
  | report (report : Report) (origin : Option Origin)
  | repetitionTooLarge
  | countTooLong (digits : Nat)
  | asciiAndUnicode
  | encodingName (error : Encoding.CodecError)
  | nulInPath
  | system (error : SystemError)
  | glob (error : Glob.Error)
  | connection (failure : Failure)
  | noDatabase (name : String)
  deriving Repr, DecidableEq

namespace Fault

/-- The message of a fault. -/
def message : Fault → String
  | .report text _ => text.message
  | .repetitionTooLarge => "the repetition number is too large"
  | .countTooLong digits => Text.tooManyDigits digits
  | .asciiAndUnicode => "ASCII and UNICODE flags are incompatible"
  | .encodingName error => error.message
  | .nulInPath => "embedded null byte"
  | .system error => error.message
  | .glob error => error.message
  | .connection failure => failure.message
  | .noDatabase name => Text.quoted name ++ " is not a valid DatabaseType"

/-- The fault of a text that yields no pattern. A fault in the text itself is reported. -/
def ofPattern (text : String) : Pattern.Fault → Fault
  | .invalid error =>
    .report (.configuration ("Invalid delimiter pattern '" ++ text ++ "': " ++ error.message text))
      (some (.pattern error text))
  | .repetitionTooLarge => .repetitionTooLarge
  | .countTooLong digits => .countTooLong digits
  | .asciiAndUnicode => .asciiAndUnicode

end Fault

/-- The system with exactly this name. -/
def Database.named (name : String) : Except Fault Database :=
  match ofName? name with
  | some database => .ok database
  | none => .error (.noDatabase name)

end ScriptReplay
