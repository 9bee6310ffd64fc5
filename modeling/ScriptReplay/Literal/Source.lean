import ScriptReplay.Literal.Error
import ScriptReplay.Literal.TokenList

/-!
# What parsers read

The tokens of an expression, and where the expression stands.
-/

namespace ScriptReplay.Literal

/-- The tokens of an expression, whether it stands in the braces of a text, and what is wrong with an
expression in the braces of one of its own strings, which begins on a line. -/
structure Source where
  list : TokenList
  inBraces : Bool
  braceError? : Nat → List Char → Option ReadError

/-- An error of the expression itself, marked if it stands in braces. -/
def Source.own (source : Source) (error : ReadError) : ReadError :=
  if source.inBraces then .inBraces error else error

end ScriptReplay.Literal
