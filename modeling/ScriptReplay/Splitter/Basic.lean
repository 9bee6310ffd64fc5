import ScriptReplay.Database
import ScriptReplay.Delimiter
import ScriptReplay.Text.Blank
import ScriptReplay.Text.LineBreak

/-!
# Splitting a script into statements

A script is split line by line. A line is trimmed, and skipped if it is empty or a comment. A line
that matches the delimiter's pattern closes the pending statement; a line with the literal delimiter
inside is cut there; any other line is added to the pending statement, with a space behind it. In
PostgreSQL scripts the lines in dollar signs are counted, and while their number is odd the literal
delimiter is not seen.

`step` takes one line: it gives the statements that the line completes and the state after it.
`feed` takes lines one after another, and `split` adds the statement that is still pending at the
end.
-/

namespace ScriptReplay

/-- How scripts are split. -/
structure Splitter where
  database : Database := .generic
  delimiter : Delimiter := .forScript

namespace Splitter

/-- What is kept between two lines: the text of the pending statement and the number of lines in
dollar signs so far. -/
structure State where
  pending : List Char := []
  dollarLines : Nat := 0
  deriving Repr, DecidableEq

/-- What begins a comment line. -/
def commentMarks : List (List Char) := [['-', '-'], ['#'], ['/', '*']]

/-- A line that sets a schema of its own and is no statement of the script. -/
def schemaLine : List Char := "SET CURRENT SCHEMA BPMS@".toList

/-- Whether a trimmed line is no part of any statement. -/
def isSkipped (line : List Char) : Bool :=
  line.isEmpty || commentMarks.any (·.isPrefixOf line) || line == schemaLine

/-- Whether a whole line stands between two dollar signs. -/
def isDollarLine : List Char → Bool
  | '$' :: rest =>
    match rest.reverse with
    | '$' :: middle => !middle.contains '\n'
    | _ => false
  | _ => false

/-- Cuts a line at its literal delimiters: the statements it completes, the first with the pending
text before it, and the text that is pending after it. A line of delimiters alone completes
nothing. -/
def cutLine (delimiter : Delimiter) (line pending : List Char) :
    List (List Char) × List Char :=
  match delimiter.fragments line with
  | [] => ([], pending)
  | first :: rest =>
    let opened := pending ++ ' ' :: first
    if delimiter.literal.isSuffixOf line then (opened :: rest, [])
    else (opened :: rest.dropLast, rest.getLast?.getD [])

/-- The number of lines in dollar signs up to and including a trimmed line. -/
def dollarsWith (splitter : Splitter) (state : State) (line : List Char) : Nat :=
  if splitter.database.usesDollarQuoting && isDollarLine line then state.dollarLines + 1
  else state.dollarLines

/-- Whether the literal delimiter is not seen at a line, with so many lines in dollar signs. -/
def hides (splitter : Splitter) (dollars : Nat) : Bool :=
  splitter.database.usesDollarQuoting && dollars % 2 == 1

/-- Takes one line: the statements it completes, and the state after it. -/
def step (splitter : Splitter) (state : State) (line : List Char) :
    List (List Char) × State :=
  let line := Text.trim Text.isMargin line
  if isSkipped line then ([], state)
  else
    let dollars := splitter.dollarsWith state line
    if splitter.delimiter.isLine line && !state.pending.isEmpty then
      ([state.pending], ⟨[], dollars⟩)
    else if splitter.delimiter.occursIn line && !splitter.hides dollars then
      let (done, pending) := cutLine splitter.delimiter line state.pending
      (done, ⟨pending, dollars⟩)
    else
      ([], ⟨state.pending ++ line ++ [' '], dollars⟩)

/-- Takes lines one after another: the statements they complete, and the state after them. -/
def feed (splitter : Splitter) : State → List (List Char) → List (List Char) × State
  | state, [] => ([], state)
  | state, line :: rest =>
    let (done, next) := splitter.step state line
    let (more, last) := splitter.feed next rest
    (done ++ more, last)

/-- The statement that is pending at the end of a script, if there is one. -/
def State.flush (state : State) : List (List Char) :=
  if state.pending.isEmpty then [] else [state.pending]

/-- The statements of a script given by its lines. -/
def splitChars (splitter : Splitter) (lines : List (List Char)) : List (List Char) :=
  let (done, last) := splitter.feed {} lines
  done ++ last.flush

/-- The number of lines in dollar signs of a script given by its lines. -/
def dollarLines (splitter : Splitter) (lines : List (List Char)) : Nat :=
  (splitter.feed {} lines).2.dollarLines

/-- The statements of a script given by its lines. -/
def split (splitter : Splitter) (lines : List String) : List String :=
  (splitter.splitChars (lines.map String.toList)).map String.ofList

/-- The lines of a script given as text. -/
def linesOfText (text : String) : List String :=
  (Text.textLines text.toList).map String.ofList

/-- The statements of a script given as text. -/
def splitText (splitter : Splitter) (text : String) : List String :=
  splitter.split (linesOfText text)

end Splitter

end ScriptReplay
