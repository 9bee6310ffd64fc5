import ScriptReplay.Console.Marked
import ScriptReplay.Pattern.Parser
import ScriptReplay.Pattern.Search

/-!
# Highlighting

What is marked in every printed text, whatever it says: tags, attributes, brackets, addresses, calls,
truth values, numbers, paths and quoted texts. The marks have no name of a style, since they only cut
the text into runs.
-/

namespace ScriptReplay.Console

/-- The patterns of what is marked; each group is a mark. -/
def highlightPatterns : List String := [
  "(<)([-\\w.:|]*)([\\w\\W]*)(>)",
  "([\\w_]\x7b1,50\x7d)=(\"?[\\w_]+\"?)?",
  "([][\x7b\x7d()])",
  "|".intercalate [
    "([0-9]\x7b1,3\x7d\\.[0-9]\x7b1,3\x7d\\.[0-9]\x7b1,3\x7d\\.[0-9]\x7b1,3\x7d)",
    "((?:[A-Fa-f0-9]\x7b1,4\x7d::?)\x7b1,7\x7d[A-Fa-f0-9]\x7b1,4\x7d)",
    "((?:[0-9A-Fa-f]\x7b1,2\x7d-)\x7b7\x7d[0-9A-Fa-f]\x7b1,2\x7d"
      ++ "|(?:[0-9A-Fa-f]\x7b1,2\x7d:)\x7b7\x7d[0-9A-Fa-f]\x7b1,2\x7d"
      ++ "|(?:[0-9A-Fa-f]\x7b4\x7d\\.)\x7b3\x7d[0-9A-Fa-f]\x7b4\x7d)",
    "((?:[0-9A-Fa-f]\x7b1,2\x7d-)\x7b5\x7d[0-9A-Fa-f]\x7b1,2\x7d"
      ++ "|(?:[0-9A-Fa-f]\x7b1,2\x7d:)\x7b5\x7d[0-9A-Fa-f]\x7b1,2\x7d"
      ++ "|(?:[0-9A-Fa-f]\x7b4\x7d\\.)\x7b2\x7d[0-9A-Fa-f]\x7b4\x7d)",
    "([a-fA-F0-9]\x7b8\x7d-[a-fA-F0-9]\x7b4\x7d-[a-fA-F0-9]\x7b4\x7d-[a-fA-F0-9]\x7b4\x7d"
      ++ "-[a-fA-F0-9]\x7b12\x7d)",
    "([\\w.]*?)\\(",
    "\\b(True)\\b|\\b(False)\\b|\\b(None)\\b",
    "(\\.\\.\\.)",
    "((?<!\\w)(?:\\-?[0-9]+\\.?[0-9]*(?:e[-+]?\\d+?)?)"
      ++ "(?:[-+](?:[0-9]+\\.?[0-9]*(?:e[-+]?\\d+)?))?j)",
    "((?<!\\w)\\-?[0-9]+\\.?[0-9]*(?:e[-+]?\\d+?)?\\b|0x[0-9a-fA-F]*)",
    "(\\B(?:/[-\\w._+]+)*\\/)([-\\w._+]*)?",
    "(?<![\\\\\\w])(b?'''.*?(?<!\\\\)'''|b?'.*?(?<!\\\\)'"
      ++ "|b?\"\"\".*?(?<!\\\\)\"\"\"|b?\".*?(?<!\\\\)\")",
    "((?:file|https|http|ws|wss)://[-0-9a-zA-Z$_+!`(),.?/;:&=%#~@]*)"]]

/-- The patterns as trees. -/
def highlights : List Pattern.Node :=
  highlightPatterns.filterMap fun text => (Pattern.parse? text.toList).toOption

/-- Whether a text holds a character that changes how the one before it or behind it is measured. -/
def hasJoins (text : List Char) : Bool :=
  text.any fun c => c == Text.joiner || c == Text.pictureSign

/-- The marks that every printed text gets. Where all characters are measured by themselves, runs take
the columns of their text wherever they are cut, and there is no need for marks. -/
def highlightsOf (text : List Char) : List Mark :=
  if hasJoins text then
    highlights.flatMap fun node => (node.stretches text).map fun (start, stop) => ⟨start, stop, []⟩
  else []

end ScriptReplay.Console
