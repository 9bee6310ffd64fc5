/-!
# White space

Three notions of space at the ends of a text. `isBlank` is Unicode white space and decides whether a
statement is empty; `isMargin` is what surrounds a script line, the control characters and the
space; `trim` removes either from both ends.
-/

namespace ScriptReplay.Text

/-- Unicode white space, the four information separators included. -/
def isBlank (c : Char) : Bool :=
  let n := c.toNat
  (0x09 ≤ n && n ≤ 0x0d) || (0x1c ≤ n && n ≤ 0x20) || n == 0x85 || n == 0xa0 || n == 0x1680 ||
    (0x2000 ≤ n && n ≤ 0x200a) || n == 0x2028 || n == 0x2029 || n == 0x202f || n == 0x205f ||
    n == 0x3000

/-- The characters that surround the text of a script line: U+0000 to the space. -/
def isMargin (c : Char) : Bool :=
  c.toNat ≤ 0x20

/-- The text without the characters of the class at its end. -/
def trimEnd (class? : Char → Bool) (s : List Char) : List Char :=
  s.foldr (fun c rest => if rest.isEmpty && class? c then [] else c :: rest) []

/-- The text without the characters of the class at either end. -/
def trim (class? : Char → Bool) (s : List Char) : List Char :=
  trimEnd class? (s.dropWhile class?)

/-- The text without the Unicode white space around it. -/
def strip (s : String) : String :=
  String.ofList (trim isBlank s.toList)

/-- A text that holds white space only. -/
def blank (s : String) : Bool :=
  s.toList.all isBlank

end ScriptReplay.Text
