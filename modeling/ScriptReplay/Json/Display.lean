import ScriptReplay.Json.Basic
import ScriptReplay.Text.Numeral
import ScriptReplay.Text.Quoted

/-!
# Values in messages

How a value is shown inside a message. A text stands as it is; within a list or an object it is
quoted. Truth values and the missing value are written `True`, `False` and `None`.
-/

namespace ScriptReplay.Json

mutual

/-- A value as it is shown inside a list or an object. -/
def shown : Json → List Char
  | .null => ['N', 'o', 'n', 'e']
  | .bool true => ['T', 'r', 'u', 'e']
  | .bool false => ['F', 'a', 'l', 's', 'e']
  | .num n => Text.integer n
  | .str s => (Text.quoted s).toList
  | .arr [] => ['[', ']']
  | .arr (item :: rest) => '[' :: shown item ++ shownItems rest ++ [']']
  | .obj [] => ['\x7b', '\x7d']
  | .obj ((key, value) :: rest) =>
    '\x7b' :: (Text.quoted key).toList ++ ':' :: ' ' :: shown value ++ shownFields rest ++ ['\x7d']

/-- The items after the first, each behind a comma. -/
def shownItems : List Json → List Char
  | [] => []
  | item :: rest => ',' :: ' ' :: shown item ++ shownItems rest

/-- The fields after the first, each behind a comma. -/
def shownFields : List (String × Json) → List Char
  | [] => []
  | (key, value) :: rest =>
    ',' :: ' ' :: (Text.quoted key).toList ++ ':' :: ' ' :: shown value ++ shownFields rest

end

/-- A value as a message shows it. -/
def display : Json → String
  | .str s => s
  | value => String.ofList value.shown

/-- Several values as a message shows them together, in parentheses. -/
def displayTuple : List Json → String
  | [] => "()"
  | [value] => String.ofList ('(' :: value.shown ++ [',', ')'])
  | value :: rest => String.ofList ('(' :: value.shown ++ shownItems rest ++ [')'])

/-- The name of a value's kind in a message. -/
def kindName : Json → String
  | .null => "NoneType"
  | .bool _ => "bool"
  | .num _ => "int"
  | .str _ => "str"
  | .arr _ => "list"
  | .obj _ => "dict"

end ScriptReplay.Json
