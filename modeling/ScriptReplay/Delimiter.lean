import ScriptReplay.Pattern.Matcher
import ScriptReplay.Pattern.Parser
import ScriptReplay.Text.Cut

/-!
# Statement delimiters

A delimiter is given by a pattern. The pattern is matched against whole lines in upper case only;
what stands before its first bar is the literal delimiter looked for inside lines. So `;|GO` ends a
statement at `;` anywhere and at `GO` alone on a line.
-/

namespace ScriptReplay

/-- A statement delimiter: the text of its pattern and the pattern that the text spells. -/
structure Delimiter where
  pattern : String
  node : Pattern.Node
  spelled : Pattern.parse? pattern.toList = .ok node

namespace Delimiter

/-- The delimiter with the given pattern. -/
def ofPattern? (pattern : String) : Except Pattern.Fault Delimiter :=
  match h : Pattern.parse? pattern.toList with
  | .ok node => .ok ⟨pattern, node, h⟩
  | .error fault => .error fault

/-- Delimiters with one pattern are equal. -/
theorem eq_of_pattern {a b : Delimiter} (h : a.pattern = b.pattern) : a = b := by
  obtain ⟨p, m, hm⟩ := a
  obtain ⟨q, n, hn⟩ := b
  cases h
  cases hm.symm.trans hn
  rfl

instance : DecidableEq Delimiter := fun a b =>
  if h : a.pattern = b.pattern then .isTrue (eq_of_pattern h)
  else .isFalse fun e => h (congrArg pattern e)

/-- The semicolon, which ends statements unless another delimiter is asked for. -/
def standard : Delimiter :=
  ⟨";", .char {} false [.single 59], rfl⟩

/-- The delimiter that is used when none is configured, whatever the script and its database. -/
def forScript : Delimiter := standard

/-- The delimiter as it stands inside a line: the pattern's text before its first bar. -/
def literal (delimiter : Delimiter) : List Char :=
  delimiter.pattern.toList.takeWhile (· ≠ '|')

/-- Whether the whole line, in upper case, matches the pattern. -/
def isLine (delimiter : Delimiter) (line : List Char) : Bool :=
  delimiter.node.matchesWhole (Text.upper line)

/-- Whether the literal delimiter stands in the line. -/
def occursIn (delimiter : Delimiter) (line : List Char) : Bool :=
  Text.occurs delimiter.literal line

/-- The fragments of a line between its literal delimiters, without empty ones at the end. -/
def fragments (delimiter : Delimiter) (line : List Char) : List (List Char) :=
  Text.fragments delimiter.literal line

end Delimiter

end ScriptReplay
