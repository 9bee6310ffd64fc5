import ScriptReplay.Text.Grapheme

/-!
# Marked text

A text in which some stretches have a style. A style does not show in a file, but a text is measured
and cut stretch by stretch when it is printed, so the *runs* between the ends of the stretches matter
where characters are shown together.
-/

namespace ScriptReplay.Console

/-- A stretch of a text, and the name of its style. -/
structure Mark where
  start : Nat
  stop : Nat
  style : List Char := []
  deriving Repr, DecidableEq

namespace Mark

/-- The mark behind so many characters more. -/
def shift (mark : Mark) (count : Nat) : Mark :=
  { mark with start := mark.start + count, stop := mark.stop + count }

/-- What a part of the text has of the mark. -/
def within? (start stop : Nat) (mark : Mark) : Option Mark :=
  let first := max mark.start start
  let last := min mark.stop stop
  if first < last then some { mark with start := first - start, stop := last - start } else none

/-- The mark in a text that is cut behind so many characters. -/
def upTo? (limit : Nat) (mark : Mark) : Option Mark :=
  if mark.start < limit then some { mark with stop := min mark.stop limit } else none

/-- The mark in a text of so many characters that more are added to. It grows if it reaches the end. -/
def grow (size more : Nat) (mark : Mark) : Mark :=
  if size ≤ mark.stop then { mark with stop := mark.stop + more } else mark

end Mark

/-- A text with marks. -/
structure Marked where
  text : List Char
  marks : List Mark := []
  deriving Repr, DecidableEq

namespace Marked

/-- Two texts one after the other. -/
def append (a b : Marked) : Marked :=
  ⟨a.text ++ b.text, a.marks ++ b.marks.map (·.shift a.text.length)⟩

/-- Texts one after another. -/
def join (parts : List Marked) : Marked :=
  parts.foldr append ⟨[], []⟩

/-- A text with one mark over all of it. -/
def whole (text : List Char) : Marked :=
  ⟨text, [⟨0, text.length, []⟩]⟩

/-- The part of a text between two places. -/
def part (marked : Marked) (start stop : Nat) : Marked :=
  ⟨(marked.text.take stop).drop start, marked.marks.filterMap (·.within? start stop)⟩

/-- The parts between places, which are given in order. Without a place the text stays as it is. -/
def divide (marked : Marked) (places : List Nat) : List Marked :=
  if places.isEmpty then [marked]
  else
    ((0 :: places).zip (places ++ [marked.text.length])).map fun (start, stop) =>
      marked.part start stop

/-- Another text in place of this one. Marks end where it ends. -/
def withText (marked : Marked) (text : List Char) : Marked :=
  if text.length < marked.text.length then ⟨text, marked.marks.filterMap (·.upTo? text.length)⟩
  else { marked with text }

/-- The places of a character in a text, where the first character has the given place. -/
def placesOf (c : Char) (place : Nat) : List Char → List Nat
  | [] => []
  | d :: rest => if d = c then place :: placesOf c (place + 1) rest else placesOf c (place + 1) rest

/-- The lines of a text. -/
def lines (marked : Marked) : List Marked :=
  (marked.divide ((placesOf '\n' 0 marked.text).flatMap fun place => [place, place + 1])).filter
    fun line => line.text != ['\n']

/-- A text with spaces added, which belong to the marks that reach its end. -/
def addSpaces (marked : Marked) (count : Nat) : Marked :=
  ⟨marked.text ++ List.replicate count ' ', marked.marks.map (·.grow marked.text.length count)⟩

/-- Parts of a line that end with tabs, with spaces up to the next stop for the tabs, where the columns
before them are given. -/
def fillTabs (stops column : Nat) : List Marked → List Marked
  | [] => []
  | part :: rest =>
    if part.text.getLast? = some '\t' then
      let spaced := part.withText (part.text.dropLast ++ [' '])
      let column := column + Text.columns spaced.text
      let missing := (stops - column % stops) % stops
      spaced.addSpaces missing :: fillTabs stops (column + missing) rest
    else part :: fillTabs stops (column + Text.columns part.text) rest

/-- A line with its tabs filled up to the next stop. -/
def expandTabs (stops : Nat) (line : Marked) : Marked :=
  if line.text.contains '\t' then
    let parts := line.divide ((placesOf '\t' 0 line.text).map (· + 1))
    join (fillTabs stops 0 (parts.filter fun part => !part.text.isEmpty))
  else line

/-- A text cut into pieces at places, which are given in order; `place` is the place of its start. -/
def cutAt (place : Nat) (text : List Char) : List Nat → List (List Char)
  | [] => if text.isEmpty then [] else [text]
  | next :: rest =>
    let piece := text.take (next - place)
    if piece.isEmpty then cutAt place text rest
    else piece :: cutAt next (text.drop (next - place)) rest

/-- The runs of a text: its pieces between the ends of its marks. -/
def runs (marked : Marked) : List (List Char) :=
  cutAt 0 marked.text
    ((marked.marks.flatMap fun mark => [mark.start, mark.stop]).mergeSort fun a b => a ≤ b)

end Marked

end ScriptReplay.Console
