import ScriptReplay.Json.Basic
import ScriptReplay.Text.Numeral
import ScriptReplay.Text.Quoted

/-!
# Written JSON

A JSON value as text, without spaces, the fields of an object in their order. In a string only the
quote, the backslash and the characters below U+0020 are escaped, the latter by their letter if they
have one and otherwise by four lower-case hexadecimal digits; all else stands as it is.
-/

namespace ScriptReplay.Json

/-- A character as it stands in a JSON string. -/
def escapedChar (c : Char) : List Char :=
  if c = '\x22' then ['\\', '\x22']
  else if c = '\\' then ['\\', '\\']
  else if c = '\x08' then ['\\', 'b']
  else if c = '\t' then ['\\', 't']
  else if c = '\n' then ['\\', 'n']
  else if c = '\x0c' then ['\\', 'f']
  else if c = '\r' then ['\\', 'r']
  else if c.toNat < 0x20 then ['\\', 'u'] ++ Text.hexPadded 4 c.toNat
  else [c]

/-- A text as a JSON string. -/
def writeString (s : List Char) : List Char :=
  '\x22' :: s.flatMap escapedChar ++ ['\x22']

mutual

/-- The text of a JSON value. -/
def write : Json → List Char
  | .null => ['n', 'u', 'l', 'l']
  | .bool true => ['t', 'r', 'u', 'e']
  | .bool false => ['f', 'a', 'l', 's', 'e']
  | .num n => Text.integer n
  | .str s => writeString s.toList
  | .arr [] => ['[', ']']
  | .arr (item :: rest) => '[' :: write item ++ writeItems rest
  | .obj [] => ['\x7b', '\x7d']
  | .obj ((key, value) :: rest) =>
    '\x7b' :: writeString key.toList ++ ':' :: write value ++ writeFields rest

/-- The items after the first, and the end of the array. -/
def writeItems : List Json → List Char
  | [] => [']']
  | item :: rest => ',' :: write item ++ writeItems rest

/-- The fields after the first, and the end of the object. -/
def writeFields : List (String × Json) → List Char
  | [] => ['\x7d']
  | (key, value) :: rest =>
    ',' :: writeString key.toList ++ ':' :: write value ++ writeFields rest

end

/-- The text of a JSON value. -/
def text (value : Json) : String :=
  String.ofList value.write

end ScriptReplay.Json
