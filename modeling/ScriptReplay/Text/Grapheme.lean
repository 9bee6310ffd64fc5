import ScriptReplay.Text.ColumnWidth

/-!
# Columns of a text

How many columns of a terminal a text takes, and how it is cut at a column. Characters that are shown
together are not cut apart: a *grapheme* is a character with the marks behind it and with what a
joiner joins to it. A joiner takes the character behind it into the picture before it, and the picture
sign asks for a picture in two columns. `crop` fits a text to a number of columns and `chop` cuts it
into parts that fit.
-/

namespace ScriptReplay.Text

/-- The character that joins the one behind it to the picture before it. -/
def joiner : Char := '\u200d'

/-- The character that asks for the picture of the one before it. -/
def pictureSign : Char := '\ufe0f'

/-- Whether a character can become wider by the picture sign behind it. -/
def widens (c : Char) : Bool :=
  textPictures.contains c.toNat

/-- The columns of a text, where `last` is the character that a picture sign would be about. -/
def columnsFrom (last : Option Char) : List Char → Nat
  | [] => 0
  | [c] =>
    if c = joiner then 0
    else if c = pictureSign then (if last.any widens then 1 else 0)
    else columnsOf c
  | c :: d :: rest =>
    if c = joiner then columnsFrom last rest
    else if c = pictureSign then
      (if last.any widens then 1 else 0) + columnsFrom none (d :: rest)
    else columnsOf c + columnsFrom (if columnsOf c = 0 then last else some c) (d :: rest)

/-- The columns that a text takes. -/
def columns (s : List Char) : Nat :=
  columnsFrom none s

/-- Characters that are shown together, and the columns they take. -/
structure Grapheme where
  chars : List Char
  columns : Nat
  deriving Repr, DecidableEq

namespace Grapheme

/-- The grapheme with characters added and so many columns more. -/
def extend (grapheme : Grapheme) (chars : List Char) (more : Nat) : Grapheme :=
  ⟨grapheme.chars ++ chars, grapheme.columns + more⟩

/-- The graphemes of a text behind an open one, where `last` is the character that a picture sign
would be about. -/
def splitFrom (last : Option Char) (grapheme : Grapheme) : List Char → List Grapheme
  | [] => [grapheme]
  | [c] =>
    if c = joiner then [grapheme.extend [c] 0]
    else if c = pictureSign then [grapheme.extend [c] (if last.any widens then 1 else 0)]
    else if columnsOf c = 0 then [grapheme.extend [c] 0]
    else [grapheme, ⟨[c], columnsOf c⟩]
  | c :: d :: rest =>
    if c = joiner then splitFrom last (grapheme.extend [c, d] 0) rest
    else if c = pictureSign then
      if last.any widens then splitFrom none (grapheme.extend [c] 1) (d :: rest)
      else splitFrom last (grapheme.extend [c] 0) (d :: rest)
    else if columnsOf c = 0 then splitFrom last (grapheme.extend [c] 0) (d :: rest)
    else grapheme :: splitFrom (some c) ⟨[c], columnsOf c⟩ (d :: rest)

/-- The graphemes of a text. What stands first is one by itself, whatever it is. -/
def split : List Char → List Grapheme
  | [] => []
  | c :: rest => splitFrom (if columnsOf c = 0 then none else some c) ⟨[c], columnsOf c⟩ rest

end Grapheme

/-- The graphemes that fit so many columns. A space stands for the half of a wide one that is left. -/
def cropGraphemes : Nat → List Grapheme → List Char
  | _, [] => []
  | 0, _ => []
  | limit, grapheme :: rest =>
    if grapheme.columns ≤ limit then
      grapheme.chars ++ cropGraphemes (limit - grapheme.columns) rest
    else [' ']

/-- A text filled up with spaces or cut to so many columns. -/
def fit (limit : Nat) (s : List Char) : List Char :=
  let size := columns s
  if size ≤ limit then s ++ List.replicate (limit - size) ' '
  else cropGraphemes limit (Grapheme.split s)

/-- A text cut to so many columns if it takes more. -/
def crop (limit : Nat) (s : List Char) : List Char :=
  if columns s ≤ limit then s else cropGraphemes limit (Grapheme.split s)

/-- The parts of graphemes that fit so many columns, where a part is begun that takes `used` columns. -/
def chopGraphemes (limit used : Nat) (part : List Char) : List Grapheme → List (List Char)
  | [] => if used = 0 then [] else [part]
  | grapheme :: rest =>
    if limit < used + grapheme.columns then
      part :: chopGraphemes limit grapheme.columns grapheme.chars rest
    else chopGraphemes limit (used + grapheme.columns) (part ++ grapheme.chars) rest

/-- A text cut into parts that fit so many columns. -/
def chop (limit : Nat) (s : List Char) : List (List Char) :=
  chopGraphemes limit 0 [] (Grapheme.split s)

end ScriptReplay.Text
