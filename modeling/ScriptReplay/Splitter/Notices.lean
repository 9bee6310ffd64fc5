import ScriptReplay.Log.Notice
import ScriptReplay.Splitter.Basic

/-!
# What the splitter says

Splitting a script is noted with the number of statements found. A PostgreSQL script that ends with
an odd number of lines in dollar signs earns a warning first.
-/

namespace ScriptReplay.Splitter

/-- The warning about a script that ends while the delimiter is hidden, if there is cause for it. -/
def openBlockWarning (splitter : Splitter) (dollars : Nat) : List Log.Notice :=
  if splitter.hides dollars then
    [{ logger := Log.partName "splitter"
       level := .warning
       message := "Script ended inside a dollar-quoted block after "
         ++ Text.decimalString dollars ++ " dollar-quote lines"
       extra := some [("dollar_quote_lines", .num dollars)] }]
  else []

/-- The note of how many statements were found. -/
def countNotice (splitter : Splitter) (count : Nat) : Log.Notice :=
  { logger := Log.partName "splitter"
    level := .debug
    message := "Extracted " ++ Text.decimalString count ++ " statements ("
      ++ splitter.database.name ++ ")"
    extra := some
      [("statement_count", .num count), ("database_type", .str splitter.database.name)] }

/-- What is said when a script with these lines is split. -/
def notices (splitter : Splitter) (lines : List String) : List Log.Notice :=
  let chars := lines.map String.toList
  splitter.openBlockWarning (splitter.dollarLines chars)
    ++ [splitter.countNotice (splitter.splitChars chars).length]

end ScriptReplay.Splitter
