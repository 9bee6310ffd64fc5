import ScriptReplay.Console.Marked
import ScriptReplay.Text.Blank

/-!
# Lines of a console

How a text is laid out in lines of a given number of columns: a line breaks between words, and a word
that is wider than a line is cut. White space at the end of a line stays there as far as the line has
room for it.
-/

namespace ScriptReplay.Console

/-- The number of columns of the console. -/
def width : Nat := 80

/-- The words of a text, each with the white space behind it, and the first also with the white space
before it, of which `fuel` bounds the number. -/
def wordsWithin : Nat → List Char → List (List Char)
  | 0, _ => []
  | fuel + 1, text =>
    let before := text.takeWhile Text.isBlank
    let text := text.dropWhile Text.isBlank
    let word := text.takeWhile (!Text.isBlank ·)
    let text := text.dropWhile (!Text.isBlank ·)
    if word.isEmpty then []
    else
      (before ++ word ++ text.takeWhile Text.isBlank)
        :: wordsWithin fuel (text.dropWhile Text.isBlank)

/-- The words of a text with the white space around them. -/
def words (text : List Char) : List (List Char) :=
  wordsWithin text.length text

/-- The lines that words are put into, where the line begun has `current` in it, over so many columns.
The line begun comes first. -/
def fillLines (limit : Nat) : List Char → Nat → List (List Char) → List (List Char)
  | current, _, [] => [current]
  | current, used, word :: rest =>
    let size := Text.columns (Text.trimEnd Text.isBlank word)
    if used + size ≤ limit then
      fillLines limit (current ++ word) (used + Text.columns word) rest
    else if limit < size then
      let parts := Text.chop limit word
      let last := parts.getLast?.getD []
      let lines := parts.dropLast
      let opened := if current.isEmpty then lines else current :: lines
      opened ++ fillLines limit last (Text.columns last) rest
    else current :: fillLines limit word (Text.columns word) rest

/-- The places where parts of these sizes end, behind the given place. -/
def endsOf (place : Nat) : List Nat → List Nat
  | [] => []
  | size :: rest => (place + size) :: endsOf (place + size) rest

/-- The places where a line of text breaks. -/
def breaksOf (limit : Nat) (text : List Char) : List Nat :=
  endsOf 0 (((fillLines limit [] 0 (words text)).dropLast).map List.length)

/-- The line without the white space at its end that a line has no room for. -/
def dropOverhang (limit : Nat) (line : Marked) : Marked :=
  let blanks := line.text.length - (Text.trimEnd Text.isBlank line.text).length
  line.withText (line.text.take (line.text.length - min blanks (line.text.length - limit)))

/-- A line of text in lines of the console. -/
def wrapLine (limit : Nat) (line : Marked) : List Marked :=
  (line.divide (breaksOf limit line.text)).map fun part =>
    let part := dropOverhang limit part
    part.withText (Text.crop limit part.text)

/-- Runs cut where they leave the columns of a line: all that end before its last column, and what the
next has of it. -/
def cropRuns (limit used : Nat) : List (List Char) → List (List Char)
  | [] => []
  | run :: rest =>
    if used + Text.columns run < limit then
      run :: cropRuns limit (used + Text.columns run) rest
    else [Text.fit (limit - used) run]

/-- The columns of runs one after another. -/
def columnsOfRuns (runs : List (List Char)) : Nat :=
  runs.foldl (fun total run => total + Text.columns run) 0

/-- Runs that are cut if they take more columns than a line has. -/
def limitRuns (limit : Nat) (runs : List (List Char)) : List (List Char) :=
  if limit < columnsOfRuns runs then cropRuns limit 0 runs else runs

/-- Runs with spaces behind them that fill up a line. -/
def padRuns (limit : Nat) (runs : List (List Char)) : List (List Char) :=
  runs ++ [List.replicate (limit - columnsOfRuns runs) ' ']

end ScriptReplay.Console
