import ScriptReplay.Literal.Numeral
import ScriptReplay.Literal.Source
import ScriptReplay.Text.CharacterName.Basic

/-!
# Strings in an expression

A string stands between quotes, one or three at each end, behind letters that tell how it is read: as
bytes, without escapes, or with expressions in braces. This module tells whether its escapes can be
read.
-/

namespace ScriptReplay.Literal

/-- A string: how it is read, and what stands between its quotes. -/
structure StringText where
  bytes : Bool
  raw : Bool
  braces : Bool
  content : List Char
  deriving Repr, DecidableEq

namespace StringText

/-- The string that a token spells. -/
def ofToken (text : List Char) : StringText :=
  let letters := (text.takeWhile Char.isAlpha).map Char.toLower
  let quoted := text.dropWhile Char.isAlpha
  let quote := quoted.headD ' '
  let size := if 6 ≤ quoted.length && quoted.take 3 == List.replicate 3 quote then 3 else 1
  { bytes := letters.contains 'b'
    raw := letters.contains 'r'
    braces := letters.contains 'f'
    content := (quoted.drop size).take (quoted.length - 2 * size) }

/-- A character outside ASCII as the escape that its position is counted by. -/
def wideEscape (c : Char) : List Char :=
  '\\' :: 'U' :: Text.hexPadded 8 c.toNat

/-- A text with its characters outside ASCII written as escapes. A backslash before one of them, or at the
end, stands for itself. -/
def widened : List Char → List Char
  | '\\' :: [] => "\\u005c".toList
  | '\\' :: c :: rest =>
    if c.toNat < 0x80 then '\\' :: c :: widened rest
    else "\\u005c".toList ++ wideEscape c ++ widened rest
  | c :: rest => if c.toNat < 0x80 then c :: widened rest else wideEscape c ++ widened rest
  | [] => []

/-- The number that hexadecimal digits spell. -/
def hexValue (digits : List Char) : Nat :=
  digits.foldl (fun n c =>
    n * 16 + (if c.isDigit then c.toNat - 48 else if 'a' ≤ c then c.toNat - 87 else c.toNat - 55)) 0

/-- What an escape spells by number: how many digits it has. -/
def digitCount? (letter : Char) : Option Nat :=
  if letter == 'x' then some 2 else if letter == 'u' then some 4
  else if letter == 'U' then some 8 else none

/-- How an escape by number is written. -/
def escapeForm (letter : Char) (count : Nat) : String :=
  String.ofList ('\\' :: letter :: List.replicate count 'X')

/-- How many characters belong to the escape with a letter and the text behind it, or else how many of them
show that it is none, and why. -/
def escapeSize (letter : Char) (text : List Char) : Except (Nat × EscapeReason) Nat :=
  match digitCount? letter with
  | some count =>
    let digits := (text.take count).takeWhile Numeral.isHexDigit
    if digits.length < count then .error (digits.length, .truncated (escapeForm letter count))
    else if 0x110000 ≤ hexValue digits then .error (count, .tooLarge)
    else .ok count
  | none =>
    if letter == 'N' then
      match text with
      | '\x7b' :: rest =>
        let name := rest.takeWhile (· != '\x7d')
        if name.length = rest.length then .error (text.length, .unnamed)
        else if name.isEmpty then .error (1, .unnamed)
        else if (Text.characterNamed? name).isSome then .ok (name.length + 2)
        else .error (name.length + 2, .unknownName)
      | _ => .error (0, .unnamed)
    else .ok 0

/-- The first escape in a text that cannot be read. The given number of characters are passed over before
the search begins, at a position. -/
def escapeErrorFrom (position : Nat) : Nat → List Char → Option ReadError
  | _, [] => none
  | skip + 1, _ :: rest => escapeErrorFrom (position + 1) skip rest
  | 0, c :: rest =>
    match c == '\\', rest with
    | true, letter :: more =>
      match escapeSize letter more with
      | .ok size => escapeErrorFrom (position + 1) (size + 1) rest
      | .error (size, reason) => some (.escape position (position + 2 + size) reason)
    | _, _ => escapeErrorFrom (position + 1) 0 rest

/-- The first escape in a text that cannot be read. -/
def escapeError? (text : List Char) : Option ReadError :=
  escapeErrorFrom 0 0 (widened text)

/-- The first escape in bytes that cannot be read: a byte has two hexadecimal digits. -/
def byteEscapeErrorFrom (position : Nat) : List Char → Option ReadError
  | '\\' :: 'x' :: rest =>
    if ((rest.take 2).takeWhile Numeral.isHexDigit).length = 2 then
      byteEscapeErrorFrom (position + 2) rest
    else some (.byteEscape position)
  | '\\' :: _ :: rest => byteEscapeErrorFrom (position + 2) rest
  | _ :: rest => byteEscapeErrorFrom (position + 1) rest
  | [] => none

/-- What is wrong with a string without expressions in braces. -/
def error? (string : StringText) : Option ReadError :=
  if string.bytes then
    if string.content.any (0x80 ≤ ·.toNat) then some .bytesNotAscii
    else if string.raw then none
    else byteEscapeErrorFrom 0 string.content
  else if string.raw then none
  else escapeError? string.content

end StringText

end ScriptReplay.Literal
