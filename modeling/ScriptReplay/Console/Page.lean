import ScriptReplay.Console.Highlight
import ScriptReplay.Console.Markup
import ScriptReplay.Console.SqlToken
import ScriptReplay.Console.Wrap

/-!
# What is printed on the console

Three kinds of output: a message with markup, a rule with a title, and a block of code. Each is the
text that it adds to the output, with a line break at the end of every line.
-/

namespace ScriptReplay.Console

/-- Lines as they are printed. -/
def printed (lines : List (List Char)) : String :=
  String.ofList (lines.flatMap (· ++ ['\n']))

/-- The distance of tab stops in a message. -/
def messageStops : Nat := 8

/-- The distance of tab stops in code. -/
def codeStops : Nat := 4

/-- The styles of a text must have colors that are numbers where they are written as such. -/
def checkStyles (lines : List Marked) : Except MarkupError Unit :=
  (lines.flatMap (·.marks)).forM fun mark => do
    let _ ← checked (StyleName.ofName? mark.style)

/-- A text in lines of the console. -/
def printText (text : Marked) : Except MarkupError String := do
  let lines := text.lines.flatMap fun line => wrapLine width (line.expandTabs messageStops)
  checkStyles lines
  return printed (lines.map fun line => (limitRuns width line.runs).flatten)

/-- A text with markup, with the marks that every printed text gets. -/
def highlighted (markup : List Char) : Except MarkupError Marked := do
  let text ← markedOf markup
  return { text with marks := highlightsOf text.text ++ text.marks }

/-- A message with markup. -/
def message (markup : List Char) : Except MarkupError String := do
  printText (← highlighted markup)

/-- A title that fits a rule: cut, with an ellipsis at the end, if it is too long. -/
def fitTitle (title : Marked) : Marked :=
  if Text.columns title.text ≤ width - 4 then title
  else title.withText (Text.fit (width - 5) title.text ++ ['…'])

/-- A rule across the console with a title, given with markup, in its middle. -/
def rule (markup : List Char) : Except MarkupError String := do
  let title ← highlighted markup
  let title := title.withText (title.text.map fun c => if c = '\n' then ' ' else c)
  let title := fitTitle (title.expandTabs messageStops)
  let size := Text.columns title.text
  let side := (width - size) / 2
  let left := List.replicate (side - 1) '─'
  let right := List.replicate (min (width - (side - 1) - size) (side + 1)) '─'
  let line := Marked.join [.whole (left ++ [' ']), title, .whole (' ' :: right)]
  printText (line.withText (Text.fit width line.text))

/-- A text with its tabs filled up to the next stop, where the column is known. A line break starts again
at the first column. -/
def expandTabs (stops column : Nat) : List Char → List Char
  | [] => []
  | c :: rest =>
    if c = '\t' then
      let spaces := stops - column % stops
      List.replicate spaces ' ' ++ expandTabs stops (column + spaces) rest
    else if c = '\n' ∨ c = '\r' then c :: expandTabs stops 0 rest
    else c :: expandTabs stops (column + 1) rest

/-- Code without a byte order mark at its start. -/
def withoutMark : List Char → List Char
  | '\ufeff' :: rest => rest
  | code => code

/-- A block of code, with a mark for each of its tokens. -/
def tokenized (text : List Char) : Marked :=
  .join ((sqlTokens text).map fun token => .whole (token.filter (!Markup.isHidden ·)))

/-- A line of code in lines of the console, filled up with spaces. -/
def codeLines (line : Marked) : List (List Char) :=
  (wrapLine width line).map fun line =>
    let padded : Marked := { line with text := line.text ++ List.replicate (width - Text.columns line.text) ' ' }
    let runs := limitRuns width padded.runs
    (limitRuns width (padRuns width runs)).flatten

/-- A block of code, filled up with spaces to the width of the console. -/
def code (text : List Char) : String :=
  let text := withoutMark (expandTabs codeStops 0 (Text.trim Text.isBlank text))
  printed ((tokenized text).lines.flatMap codeLines)

end ScriptReplay.Console
