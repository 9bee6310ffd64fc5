/-!
# Lines of a text

Two ways to cut a text into lines. A script *file* breaks at CR, LF and the pair CRLF only
(`fileLines`); a script given as *text* also breaks at the other vertical separators of Unicode
(`textLines`). In both a break at the very end adds no empty line.

`Terminator` and `unlines` go the other way: lines written out, each with an ending of its own.
-/

namespace ScriptReplay.Text

/-- Puts a character in front of the first piece. -/
def consHead (c : Char) : List (List Char) → List (List Char)
  | [] => [[c]]
  | piece :: rest => (c :: piece) :: rest

/-- The pieces between line breaks, where CRLF is one break. -/
def filePieces : List Char → List (List Char)
  | [] => [[]]
  | '\r' :: '\n' :: rest => [] :: filePieces rest
  | c :: rest => if c = '\r' ∨ c = '\n' then [] :: filePieces rest else consHead c (filePieces rest)

/-- Drops the last piece if it is empty. -/
def dropEmptyLast : List (List Char) → List (List Char)
  | [] => []
  | [piece] => if piece.isEmpty then [] else [piece]
  | piece :: next :: rest => piece :: dropEmptyLast (next :: rest)

/-- The lines of a script file: CR, LF and CRLF end a line, nothing else does. -/
def fileLines (s : List Char) : List (List Char) :=
  dropEmptyLast (filePieces s)

/-- The characters that end a line of a text: the vertical controls, the information separators
down to the record separator, next line, and the line and paragraph separators. -/
def isLineBreak (c : Char) : Bool :=
  let n := c.toNat
  (0x0a ≤ n && n ≤ 0x0d) || (0x1c ≤ n && n ≤ 0x1e) || n == 0x85 || n == 0x2028 || n == 0x2029

/-- The lines of a text, broken at every Unicode line break; CRLF is one break. -/
def textLines : List Char → List (List Char)
  | [] => []
  | '\r' :: '\n' :: rest => [] :: textLines rest
  | c :: rest => if isLineBreak c then [] :: textLines rest else consHead c (textLines rest)

/-- The three ways to end a line of a script file. -/
inductive Terminator
  | lf
  | cr
  | crlf
  deriving Repr, DecidableEq

/-- The characters of a line ending. -/
def Terminator.chars : Terminator → List Char
  | .lf => ['\n']
  | .cr => ['\r']
  | .crlf => ['\r', '\n']

/-- Lines written one after another, each with its own ending. -/
def unlines (lines : List (List Char × Terminator)) : List Char :=
  lines.flatMap fun (line, ending) => line ++ ending.chars

end ScriptReplay.Text
