import ScriptReplay.Text.CaseRuns

/-!
# Letter case

Upper and lower case of a text by the full mapping of Unicode, which may turn one character into
several (`ß` into `SS`). Two characters are of one letter when their lower-case forms have the same
upper-case form; `letterMates` lists the characters of one letter.

A capital sigma always becomes the same small letter: no name this library compares holds either of
its two forms, so which of them ends a word cannot be seen.
-/

namespace ScriptReplay.Text

namespace CaseRun

/-- Whether the run moves the code point. -/
def moves (run : CaseRun) (code : Nat) : Bool :=
  run.first ≤ code && code ≤ run.last && (code - run.first) % run.step == 0

/-- Where the run moves a code point. -/
def apply (run : CaseRun) (code : Nat) : Nat :=
  ((code : Int) + run.shift).toNat

/-- The code point that the run moves to `code`, if there is one. -/
def source? (run : CaseRun) (code : Nat) : Option Nat :=
  let before := (code : Int) - run.shift
  if 0 ≤ before && run.moves before.toNat then some before.toNat else none

end CaseRun

/-- The code point in its other case by the runs, or itself. -/
def shiftCase (runs : List CaseRun) (code : Nat) : Nat :=
  match runs.find? (·.moves code) with
  | some run => run.apply code
  | none => code

/-- The upper-case form of a character. -/
def upperChar (c : Char) : List Char :=
  if c.toNat < 0x80 then
    [if 'a' ≤ c && c ≤ 'z' then Char.ofNat (c.toNat - 32) else c]
  else
    match upperExpansions.find? (·.1 == c.toNat) with
    | some (_, codes) => codes.map Char.ofNat
    | none => [Char.ofNat (shiftCase upperRuns c.toNat)]

/-- The first character of the lower-case form of a character. -/
def lowerLetter (c : Char) : Char :=
  if c.toNat < 0x80 then
    if 'A' ≤ c && c ≤ 'Z' then Char.ofNat (c.toNat + 32) else c
  else if c.toNat == 0x130 then 'i'
  else Char.ofNat (shiftCase lowerRuns c.toNat)

/-- The lower-case form of a character. Only the capital I with a dot becomes two characters, the
second being the dot. -/
def lowerChar (c : Char) : List Char :=
  if c.toNat == 0x130 then ['i', Char.ofNat 0x307] else [lowerLetter c]

/-- The upper-case form of a text. -/
def upper (s : List Char) : List Char :=
  s.flatMap upperChar

/-- The lower-case form of a text. -/
def lower (s : List Char) : List Char :=
  s.flatMap lowerChar

/-- The code points that the runs move to `code`. -/
def sources (runs : List CaseRun) (code : Nat) : List Nat :=
  runs.filterMap (·.source? code)

/-- Code points with an upper-case form of several characters that equals this one. -/
def expansionMates (form : List Char) : List Nat :=
  (upperExpansions.filter fun (_, codes) => codes.map Char.ofNat == form).map (·.1)

/-- Every code point of the letter of a character, the character's own among them. -/
def letterMates (c : Char) : List Nat :=
  let small := lowerLetter c
  let form := upperChar small
  let capital : List Nat := match form with
    | [u] => [u.toNat]
    | _ => []
  let asciiSmall : List Nat :=
    capital.filterMap fun n => if 0x41 ≤ n && n ≤ 0x5a then some (n + 32) else none
  let smalls := small.toNat :: capital ++ asciiSmall
    ++ capital.flatMap (sources upperRuns) ++ expansionMates form
  let asciiCapitals : List Nat :=
    smalls.filterMap fun n => if 0x61 ≤ n && n ≤ 0x7a then some (n - 32) else none
  let dotted : List Nat := if small == 'i' || small.toNat == 0x131 then [0x130] else []
  c.toNat :: smalls ++ asciiCapitals ++ smalls.flatMap (sources lowerRuns) ++ dotted

end ScriptReplay.Text
