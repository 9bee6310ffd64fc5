import ScriptReplay.Pattern.Basic
import ScriptReplay.Text.Numeral
import ScriptReplay.Text.Quoted

/-!
# Faults in a pattern

Why a text is no pattern, and how that is said. Most faults belong to a place in the text; the place
is told by its position, and by line and column as well when the text has several lines.
-/

namespace ScriptReplay.Pattern

/-- What is wrong with the text of a pattern. -/
inductive Cause
  | danglingEscape
  | badEscape (escape : String)
  | incompleteEscape (escape : String)
  | octalTooLarge (escape : String)
  | missingBrace
  | undefinedCharacter (name : String)
  | unterminatedSet
  | badRange (low high : String)
  | nothingToRepeat
  | multipleRepeat
  | minAboveMax
  | unexpectedEnd
  | unknownExtension (text : String)
  | missingName (what : String)
  | unterminatedName (terminator : Char)
  | badGroupName (name : String)
  | unknownGroupName (name : String)
  | redefinedGroup (name : String) (index first : Nat)
  | openGroup
  | groupOfSameLookBehind
  | invalidGroupReference (index : Nat)
  | badGroupNumber
  | unterminatedComment
  | unterminatedGroup
  | tooManyBranches
  | misplacedFlags
  | bytesFlag
  | incompatibleFlags
  | unknownFlag
  | missingFlag
  | missingColon
  | missingFlagEnd
  | flagKindTurnedOff
  | flagOnAndOff
  | wholeFlagTurnedOn
  | wholeFlagTurnedOff
  | unbalancedParenthesis
  | variableLookBehind
  | farLookBehind
  | templateRepetition (greed : Greed)
  deriving Repr, DecidableEq

/-- The name of a kind of repetition. -/
def Greed.label : Greed → String
  | .greedy => "MAX_REPEAT"
  | .lazy => "MIN_REPEAT"
  | .possessive => "POSSESSIVE_REPEAT"

/-- The words for a fault. -/
def Cause.message : Cause → String
  | .danglingEscape => "bad escape (end of pattern)"
  | .badEscape escape => "bad escape " ++ escape
  | .incompleteEscape escape => "incomplete escape " ++ escape
  | .octalTooLarge escape => "octal escape value " ++ escape ++ " outside of range 0-0o377"
  | .missingBrace => "missing \x7b"
  | .undefinedCharacter name => "undefined character name " ++ Text.quoted name
  | .unterminatedSet => "unterminated character set"
  | .badRange low high => "bad character range " ++ low ++ "-" ++ high
  | .nothingToRepeat => "nothing to repeat"
  | .multipleRepeat => "multiple repeat"
  | .minAboveMax => "min repeat greater than max repeat"
  | .unexpectedEnd => "unexpected end of pattern"
  | .unknownExtension text => "unknown extension " ++ text
  | .missingName what => "missing " ++ what
  | .unterminatedName terminator => "missing " ++ terminator.toString ++ ", unterminated name"
  | .badGroupName name => "bad character in group name " ++ Text.quoted name
  | .unknownGroupName name => "unknown group name " ++ Text.quoted name
  | .redefinedGroup name index first =>
    "redefinition of group name " ++ Text.quoted name ++ " as group " ++ Text.decimalString index
      ++ "; was group " ++ Text.decimalString first
  | .openGroup => "cannot refer to an open group"
  | .groupOfSameLookBehind =>
    "cannot refer to group defined in the same lookbehind subpattern"
  | .invalidGroupReference index => "invalid group reference " ++ Text.decimalString index
  | .badGroupNumber => "bad group number"
  | .unterminatedComment => "missing ), unterminated comment"
  | .unterminatedGroup => "missing ), unterminated subpattern"
  | .tooManyBranches => "conditional backref with more than two branches"
  | .misplacedFlags => "global flags not at the start of the expression"
  | .bytesFlag => "bad inline flags: cannot use 'L' flag with a str pattern"
  | .incompatibleFlags => "bad inline flags: flags 'a', 'u' and 'L' are incompatible"
  | .unknownFlag => "unknown flag"
  | .missingFlag => "missing flag"
  | .missingColon => "missing :"
  | .missingFlagEnd => "missing -, : or )"
  | .flagKindTurnedOff => "bad inline flags: cannot turn off flags 'a', 'u' and 'L'"
  | .flagOnAndOff => "bad inline flags: flag turned on and off"
  | .wholeFlagTurnedOn => "bad inline flags: cannot turn on global flag"
  | .wholeFlagTurnedOff => "bad inline flags: cannot turn off global flag"
  | .unbalancedParenthesis => "unbalanced parenthesis"
  | .variableLookBehind => "look-behind requires fixed-width pattern"
  | .farLookBehind => "looks too much behind"
  | .templateRepetition greed => "internal: unsupported template operator " ++ greed.label

/-- A fault in the text of a pattern, with its place if it has one. -/
structure Error where
  cause : Cause
  position : Option Nat
  deriving Repr, DecidableEq

/-- Line and column of a position, both counted from one. -/
def lineAndColumn (text : List Char) (position : Nat) : Nat × Nat :=
  let before := text.take position
  (before.count '\n' + 1, (before.reverse.takeWhile (· ≠ '\n')).length + 1)

/-- The message for a fault in the given text. -/
def Error.message (error : Error) (text : String) : String :=
  match error.position with
  | none => error.cause.message
  | some position =>
    let chars := text.toList
    let place := error.cause.message ++ " at position " ++ Text.decimalString position
    if chars.contains '\n' then
      let (line, column) := lineAndColumn chars position
      place ++ " (line " ++ Text.decimalString line ++ ", column " ++ Text.decimalString column ++ ")"
    else place

/-- Why a text yields no pattern: a fault in it, a repetition count beyond the limit or written with
too many digits, or two settings for the whole pattern that exclude each other. -/
inductive Fault
  | invalid (error : Error)
  | repetitionTooLarge
  | countTooLong (digits : Nat)
  | asciiAndUnicode
  deriving Repr, DecidableEq

end ScriptReplay.Pattern
