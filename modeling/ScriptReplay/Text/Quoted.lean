import ScriptReplay.Text.Printable

/-!
# Quoted text

A text in quotes, for messages that name a file or a value. It stands in apostrophes, or in double
quotes if it holds an apostrophe and no double quote; the quote and the backslash get a backslash,
and what cannot be printed is written by its code point with the fewest of two, four or eight
hexadecimal digits that hold it.
-/

namespace ScriptReplay.Text

/-- The last `width` hexadecimal digits of a number, in lower case. -/
def hexPadded : Nat → Nat → List Char
  | 0, _ => []
  | width + 1, n => hexPadded width (n / 16) ++ [Nat.digitChar (n % 16)]

/-- The quote a text is put in. -/
def quoteFor (s : List Char) : Char :=
  if s.contains '\x27' && !s.contains '\x22' then '\x22' else '\x27'

/-- A code point by its hexadecimal digits. -/
def codeEscape (n : Nat) : List Char :=
  if n < 0x100 then ['\\', 'x'] ++ hexPadded 2 n
  else if n < 0x10000 then ['\\', 'u'] ++ hexPadded 4 n
  else ['\\', 'U'] ++ hexPadded 8 n

/-- A character as it is written between the quotes. -/
def quotedChar (quote c : Char) : List Char :=
  let n := c.toNat
  if c == quote || c == '\\' then ['\\', c]
  else if c == '\t' then ['\\', 't']
  else if c == '\n' then ['\\', 'n']
  else if c == '\r' then ['\\', 'r']
  else if n == 0x20 || printables.contains n then [c]
  else codeEscape n

/-- A character of a quoted text by ASCII characters alone. -/
def asciiChar (c : Char) : List Char :=
  if c.toNat < 0x80 then [c] else codeEscape c.toNat

/-- The text in quotes. -/
def quoted (s : String) : String :=
  let chars := s.toList
  let quote := quoteFor chars
  String.ofList (quote :: chars.flatMap (quotedChar quote) ++ [quote])

end ScriptReplay.Text
