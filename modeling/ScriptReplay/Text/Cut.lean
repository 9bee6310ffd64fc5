import ScriptReplay.Text.LineBreak

/-!
# Cutting a text at a literal

`cut sep s` are the pieces of `s` between the occurrences of `sep`, found from left to right without
overlap. The empty separator occurs before every character and at the end. `fragments` drops the
empty pieces at the end, so a text made only of separators has none.
-/

namespace ScriptReplay.Text

/-- Whether `sep` occurs in the text. -/
def occurs (sep : List Char) : List Char → Bool
  | [] => sep.isEmpty
  | c :: rest => sep.isPrefixOf (c :: rest) || occurs sep rest

/-- The pieces between the occurrences of a non-empty separator, where the first `skip` characters
still belong to an occurrence. -/
def cutAfter (sep : List Char) : Nat → List Char → List (List Char)
  | _, [] => [[]]
  | skip + 1, _ :: rest => cutAfter sep skip rest
  | 0, c :: rest =>
    if sep.isPrefixOf (c :: rest) then [] :: cutAfter sep (sep.length - 1) rest
    else consHead c (cutAfter sep 0 rest)

/-- The pieces between the occurrences of the separator, from left to right without overlap. -/
def cut (sep s : List Char) : List (List Char) :=
  if sep.isEmpty then [] :: s.map ([·]) ++ [[]] else cutAfter sep 0 s

/-- The pieces without the empty ones at the end. -/
def dropEmptyTail (pieces : List (List Char)) : List (List Char) :=
  pieces.foldr (fun piece rest => if rest.isEmpty && piece.isEmpty then [] else piece :: rest) []

/-- The pieces between the occurrences of the separator, without the empty ones at the end. -/
def fragments (sep s : List Char) : List (List Char) :=
  dropEmptyTail (cut sep s)

end ScriptReplay.Text
