import ScriptReplay.Json.Display
import ScriptReplay.Text.Blank

/-!
# Reports of failure

What the library reports when it cannot do its work: a database or delimiter that makes no sense, a
script that is missing or cannot be read, a statement that failed. A report has a `detail`, which is
its main text, and may have further notes; its message is the notes followed by the detail.
-/

namespace ScriptReplay

/-- What a report is about. -/
inductive Subject
  | script
  | configuration
  | missingFile (path : String)
  | unreadableFile (path : String)
  | failedStatement (statement : String) (index : Int) (path : Option String)
  deriving Repr, DecidableEq

/-- The name of a kind of report. -/
def Subject.label : Subject → String
  | .script => "SQLScriptError"
  | .configuration => "ImproperConfigurationError"
  | .missingFile _ => "SQLFileNotFoundError"
  | .unreadableFile _ => "SQLFileReadError"
  | .failedStatement .. => "ScriptExecutionError"

/-- A report of failure. -/
structure Report where
  subject : Subject
  notes : List String
  detail : String
  deriving Repr, DecidableEq

namespace Report

/-- Gives a report new notes and a new detail. Without a detail the first note takes its place, and
without notes either the report keeps the detail it has. -/
def amend (report : Report) (notes : List String) (detail : String) : Report :=
  if !detail.isEmpty then { report with notes := notes, detail := detail }
  else
    match notes with
    | [] => { report with notes := [] }
    | first :: rest => { report with notes := rest, detail := first }

/-- A report from its notes and its detail. -/
def make (subject : Subject) (notes : List String) (detail : String) : Report :=
  amend ⟨subject, [], ""⟩ notes detail

/-- The notes that values make: those that count as something, as a message shows them. -/
def notesOf (values : List Json) : List String :=
  (values.filter Json.truthy).map Json.display

/-- The message: the notes and the detail, without white space around them. -/
def message (report : Report) : String :=
  Text.strip (" ".intercalate (report.notes ++ [report.detail]))

/-- The kind of the report with its detail, if it has one. -/
def describe (report : Report) : String :=
  if report.detail.isEmpty then report.subject.label
  else report.subject.label ++ " - " ++ report.detail

/-- A setting that makes no sense. -/
def configuration (text : String) : Report :=
  make .configuration [text] ""

/-- A script file that does not exist. -/
def missingFile (path : String) : Report :=
  make (.missingFile path) ["SQL script file not found: " ++ path] ""

/-- A script file that exists and cannot be read or decoded; `reason` says why. -/
def unreadableFile (path : String) (reason : Option String) : Report :=
  let text := "Failed to read SQL script file: " ++ path
  make (.unreadableFile path)
    [match reason with
      | none => text
      | some reason => text ++ " (" ++ reason ++ ")"] ""

/-- A statement that failed: the one at `index` of a script, counted from zero. -/
def failedStatement (statement : String) (index : Int) (path : Option String) : Report :=
  let place := match path with
    | none => ""
    | some path => if path.isEmpty then "" else " in " ++ path
  make (.failedStatement statement index path) []
    ("Statement #" ++ Text.integerString (index + 1) ++ place ++ " failed to execute\nSQL: "
      ++ Text.strip statement)

end Report

end ScriptReplay
