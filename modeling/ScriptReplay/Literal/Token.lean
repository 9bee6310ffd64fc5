import ScriptReplay.Text.Numeral
import ScriptReplay.Text.Printable
import ScriptReplay.Text.Quoted

/-!
# Tokens of an expression

The parameters of a tag are an expression. It is made of tokens, of which this module says what they
are, and why a text may have no next token.
-/

namespace ScriptReplay.Literal

/-- What a token is. -/
inductive TokenKind
  | name
  | keyword
  | number
  | string
  | operator
  | newline
  | indent
  | dedent
  | finish
  deriving Repr, DecidableEq

/-- A token: its text, the line it stands on, how many brackets are open behind it, and whether it could
only be told by looking behind the end of the text. -/
structure Token where
  kind : TokenKind
  text : List Char
  line : Nat
  depth : Nat
  atEnd : Bool
  deriving Repr, DecidableEq

/-- The words that are no names. -/
def keywords : List String :=
  ["False", "None", "True", "and", "as", "assert", "async", "await", "break", "class", "continue", "def",
    "del", "elif", "else", "except", "finally", "for", "from", "global", "if", "import", "in", "is",
    "lambda", "nonlocal", "not", "or", "pass", "raise", "return", "try", "while", "with", "yield"]

/-- The words that are names in an expression but not everywhere. -/
def softKeywords : List String :=
  ["_", "case", "match"]

/-- The operators of more than one character, the longest first. -/
def longOperators : List String :=
  ["...", "**=", "//=", "<<=", ">>=", "!=", "%=", "&=", "**", "*=", "+=", "-=", "->", "//", "/=", ":=",
    "<<", "<=", "<>", "==", ">=", ">>", "@=", "^=", "|="]

/-- An opening bracket and the line it stands on. -/
structure Bracket where
  char : Char
  line : Nat
  deriving Repr, DecidableEq

/-- The bracket that closes an opening bracket. -/
def closing (opening : Char) : Char :=
  if opening == '(' then ')' else if opening == '[' then ']' else '\x7d'

/-- How a number is written. -/
inductive NumberForm
  | hexadecimal
  | octal
  | binary
  | decimal
  | imaginary
  deriving Repr, DecidableEq

/-- The word for it. -/
def NumberForm.word : NumberForm → String
  | .hexadecimal => "hexadecimal"
  | .octal => "octal"
  | .binary => "binary"
  | .decimal => "decimal"
  | .imaginary => "imaginary"

/-- Why a text has no next token. -/
inductive TokenError
  | number (form : NumberForm)
  | digit (c : Char) (form : NumberForm)
  | leadingZeros
  | character (c : Char)
  | openString (triple : Bool) (line : Nat)
  | tooManyBrackets
  | unmatched (bracket : Char)
  | mismatch (bracket : Char) (opening : Char) (line : Option Nat)
  | afterBackslash
  | atEnd
  | mixedTabs
  | unknownMargin
  | tooManyMargins
  deriving Repr, DecidableEq

namespace TokenError

/-- A code point in hexadecimal digits, four at least. -/
def codePoint (c : Char) : String :=
  "U+" ++ String.ofList (Text.zeroPadded 4 ((Nat.toDigits 16 c.toNat).map Char.toUpper))

/-- The words for it. At the end of the text the last bracket that is open is to blame. -/
def message (error : TokenError) (opened : Option Bracket) : String :=
  match error with
  | .number form => "invalid " ++ form.word ++ " literal"
  | .digit c form => "invalid digit '" ++ c.toString ++ "' in " ++ form.word ++ " literal"
  | .leadingZeros =>
    "leading zeros in decimal integer literals are not permitted; "
      ++ "use an 0o prefix for octal integers"
  | .character c =>
    if Text.printables.contains c.toNat then
      "invalid character '" ++ c.toString ++ "' (" ++ codePoint c ++ ")"
    else "invalid non-printable character " ++ codePoint c
  | .openString triple line =>
    (if triple then "unterminated triple-quoted string literal" else "unterminated string literal")
      ++ " (detected at line " ++ Text.decimalString line ++ ")"
  | .tooManyBrackets => "too many nested parentheses"
  | .unmatched bracket => "unmatched '" ++ bracket.toString ++ "'"
  | .mismatch bracket opening line =>
    "closing parenthesis '" ++ bracket.toString ++ "' does not match opening parenthesis '"
      ++ opening.toString ++ "'"
      ++ (match line with | none => "" | some n => " on line " ++ Text.decimalString n)
  | .afterBackslash => "unexpected character after line continuation character"
  | .atEnd =>
    match opened with
    | some bracket => "'" ++ bracket.char.toString ++ "' was never closed"
    | none => "unexpected EOF while parsing"
  | .mixedTabs => "inconsistent use of tabs and spaces in indentation"
  | .unknownMargin => "unindent does not match any outer indentation level"
  | .tooManyMargins => "too many levels of indentation"

/-- Whether the error lies in the token alone, so that it counts wherever the token stands. The others
only count where the token is asked for. -/
def isOwn : TokenError → Bool
  | .afterBackslash | .atEnd | .mixedTabs | .unknownMargin | .tooManyMargins => false
  | _ => true

end TokenError

/-- An error with the bracket that is open where it is found. -/
structure TokenFault where
  error : TokenError
  opened : Option Bracket
  deriving Repr, DecidableEq

/-- The words for it. -/
def TokenFault.message (fault : TokenFault) : String :=
  fault.error.message fault.opened

end ScriptReplay.Literal
