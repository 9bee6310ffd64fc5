import ScriptReplay.Literal.Token
import ScriptReplay.Text.WholeNumber

/-!
# Errors in an expression

Why tokens spell no expression, with the words for each reason.
-/

namespace ScriptReplay.Literal

/-- What is wrong with an escape in a string. -/
inductive EscapeReason
  | truncated (form : String)
  | tooLarge
  | unnamed
  | unknownName
  deriving Repr, DecidableEq

/-- The words for it. -/
def EscapeReason.words : EscapeReason → String
  | .truncated form => "truncated " ++ form ++ " escape"
  | .tooLarge => "illegal Unicode character"
  | .unnamed => "malformed \\N character escape"
  | .unknownName => "unknown Unicode character name"

/-- Why an expression in braces cannot be found in a text. -/
inductive BraceError
  | loneBrace
  | tooDeep
  | backslash
  | comment
  | tooManyBrackets
  | unmatched (bracket : Char)
  | mismatch (bracket opening : Char)
  | openString
  | empty
  | nothingBefore (c : Char)
  | conversion
  | openBrace
  deriving Repr, DecidableEq

/-- The words for it. -/
def BraceError.message : BraceError → String
  | .loneBrace => "f-string: single '\x7d' is not allowed"
  | .tooDeep => "f-string: expressions nested too deeply"
  | .backslash => "f-string expression part cannot include a backslash"
  | .comment => "f-string expression part cannot include '#'"
  | .tooManyBrackets => "f-string: too many nested parenthesis"
  | .unmatched bracket => "f-string: unmatched '" ++ bracket.toString ++ "'"
  | .mismatch bracket opening =>
    "f-string: closing parenthesis '" ++ bracket.toString ++ "' does not match opening parenthesis '"
      ++ opening.toString ++ "'"
  | .openString => "f-string: unterminated string"
  | .empty => "f-string: empty expression not allowed"
  | .nothingBefore c => "f-string: expression required before '" ++ c.toString ++ "'"
  | .conversion => "f-string: invalid conversion character: expected 's', 'r', or 'a'"
  | .openBrace => "f-string: expecting '\x7d'"

/-- What is wrong with the parameters of a function without a name. -/
inductive ParameterError
  | missingDefault
  | bracketed
  | slashFirst
  | slashTwice
  | slashAfterStar
  | slashBeforeStar
  | nothingAfterStar
  | starDefault
  | starTwice
  | starsDefault
  | afterStars
  | emptyDefault
  deriving Repr, DecidableEq

/-- The words for it. -/
def ParameterError.message : ParameterError → String
  | .missingDefault => "non-default argument follows default argument"
  | .bracketed => "Lambda expression parameters cannot be parenthesized"
  | .slashFirst => "at least one argument must precede /"
  | .slashTwice => "/ may appear only once"
  | .slashAfterStar => "/ must be ahead of *"
  | .slashBeforeStar => "expected comma between / and *"
  | .nothingAfterStar => "named arguments must follow bare *"
  | .starDefault => "var-positional argument cannot have default value"
  | .starTwice => "* argument may appear only once"
  | .starsDefault => "var-keyword argument cannot have default value"
  | .afterStars => "arguments cannot follow var-keyword argument"
  | .emptyDefault => "expected default value expression"

/-- Why tokens spell no expression. An error in an expression that stands in the braces of a text is marked
as such. -/
inductive ReadError
  | token (fault : TokenFault)
  | invalid
  | margin (opened : Bool)
  | missingComma
  | missingElse
  | equalsSign
  | oldStatement (name : List Char)
  | notAssignable (what : String)
  | notAssignableHere (what : String)
  | notNamed (what : String)
  | assignedArgument
  | bareGenerator
  | starAfterKeywords
  | positionalAfterKeyword (unpacked : Bool)
  | starredComprehension
  | bareTarget
  | unpackedComprehension
  | starredGroup
  | doubleStarredGroup
  | starredEntry
  | missingEntry
  | missingColon
  | parameter (error : ParameterError)
  | tooManyDigits (digits : Nat)
  | mixedStrings
  | bytesNotAscii
  | byteEscape (position : Nat)
  | escape (start stop : Nat) (reason : EscapeReason)
  | brace (error : BraceError)
  | inBraces (error : ReadError)
  deriving Repr, DecidableEq

/-- The words for it. -/
def ReadError.message : ReadError → String
  | .token fault => fault.message
  | .invalid => "invalid syntax"
  | .margin opened => if opened then "unexpected indent" else "unexpected unindent"
  | .missingComma => "invalid syntax. Perhaps you forgot a comma?"
  | .missingElse => "expected 'else' after 'if' expression"
  | .equalsSign => "invalid syntax. Maybe you meant '==' or ':=' instead of '='?"
  | .oldStatement name =>
    let name := String.ofList name
    "Missing parentheses in call to '" ++ name ++ "'. Did you mean " ++ name ++ "(...)?"
  | .notAssignable what => "cannot assign to " ++ what
  | .notAssignableHere what =>
    "cannot assign to " ++ what ++ " here. Maybe you meant '==' instead of '='?"
  | .notNamed what => "cannot use assignment expressions with " ++ what
  | .assignedArgument => "expression cannot contain assignment, perhaps you meant \"==\"?"
  | .bareGenerator => "Generator expression must be parenthesized"
  | .starAfterKeywords => "iterable argument unpacking follows keyword argument unpacking"
  | .positionalAfterKeyword unpacked =>
    if unpacked then "positional argument follows keyword argument unpacking"
    else "positional argument follows keyword argument"
  | .starredComprehension => "iterable unpacking cannot be used in comprehension"
  | .bareTarget => "did you forget parentheses around the comprehension target?"
  | .unpackedComprehension => "dict unpacking cannot be used in dict comprehension"
  | .starredGroup => "cannot use starred expression here"
  | .doubleStarredGroup => "cannot use double starred expression here"
  | .starredEntry => "cannot use a starred expression in a dictionary value"
  | .missingEntry => "expression expected after dictionary key and ':'"
  | .missingColon => "':' expected after dictionary key"
  | .parameter error => error.message
  | .tooManyDigits digits =>
    Text.tooManyDigits digits
      ++ " - Consider hexadecimal for huge integer literals to avoid decimal conversion limits."
  | .mixedStrings => "cannot mix bytes and nonbytes literals"
  | .bytesNotAscii => "bytes can only contain ASCII literal characters"
  | .byteEscape position =>
    "(value error) invalid \\x escape at position " ++ Text.decimalString position
  | .escape start stop reason =>
    "(unicode error) 'unicodeescape' codec can't decode "
      ++ (if stop = start + 1 then "byte 0x5c in position " ++ Text.decimalString start
        else "bytes in position " ++ Text.decimalString start ++ "-" ++ Text.decimalString (stop - 1))
      ++ ": " ++ reason.words
  | .brace error => error.message
  | .inBraces error => "f-string: " ++ error.message

end ScriptReplay.Literal
