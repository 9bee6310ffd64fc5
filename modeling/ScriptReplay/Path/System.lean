import ScriptReplay.Path.Basic
import ScriptReplay.Text.Numeral
import ScriptReplay.Text.Quoted

/-!
# Refusals of the file system

Why the file system refuses a path, and the message it gives.
-/

namespace ScriptReplay

/-- Why the file system refuses a path. -/
inductive SystemError.Reason
  | notFound
  | notDirectory
  | isDirectory
  | nameTooLong
  deriving Repr, DecidableEq

/-- A refusal of the file system, with the path as it was asked for. -/
structure SystemError where
  reason : SystemError.Reason
  path : Path
  deriving Repr, DecidableEq

namespace SystemError

/-- The number of a reason. -/
def Reason.number : Reason → Nat
  | .notFound => 2
  | .notDirectory => 20
  | .isDirectory => 21
  | .nameTooLong => 36

/-- The words for a reason. -/
def Reason.text : Reason → String
  | .notFound => "No such file or directory"
  | .notDirectory => "Not a directory"
  | .isDirectory => "Is a directory"
  | .nameTooLong => "File name too long"

/-- The message of a refusal. -/
def message (error : SystemError) : String :=
  "[Errno " ++ Text.decimalString error.reason.number ++ "] " ++ error.reason.text ++ ": "
    ++ Text.quoted error.path.toString

end SystemError

end ScriptReplay
