import ScriptReplay.Log.Moment
import ScriptReplay.Text.Case
import ScriptReplay.Text.Numeral

/-!
# Timestamps

How a moment is written by a pattern. In a pattern a percent sign and a letter stand for a part of
the moment. Between them there may be flags, which fill up a number with spaces, with zeros or not
at all and choose the case of words, then a width, and then one of two modifiers, which some letters
do not take. A place that has no meaning stands for itself.
-/

namespace ScriptReplay.Log

/-- A place in a pattern: how it is filled up, whether its words are put into upper case or change
their case, its width, its modifier and its letter. Without a letter the pattern ended inside it.
The text is the place as it is written. -/
structure TimePlace where
  fill : Option Char := none
  upper : Bool := false
  change : Bool := false
  width : Nat := 0
  modifier : Option Char := none
  letter : Option Char := none
  text : List Char := []
  deriving Repr, DecidableEq

namespace TimePlace

/-- Notes a flag. -/
def flag (place : TimePlace) (c : Char) : TimePlace :=
  if c = '^' then { place with upper := true }
  else if c = '#' then { place with change := true }
  else { place with fill := some c }

/-- Whether a character is a flag. -/
def isFlag (c : Char) : Bool :=
  c == '_' || c == '-' || c == '0' || c == '^' || c == '#'

/-- The place that a text describes behind its percent sign, and what follows it. -/
def ofText (text : List Char) : TimePlace × List Char :=
  let flags := text.takeWhile isFlag
  let rest := text.dropWhile isFlag
  let digits := rest.takeWhile Char.isDigit
  let rest := rest.dropWhile Char.isDigit
  let (modifier, rest) := match rest with
    | 'E' :: rest => (some 'E', rest)
    | 'O' :: rest => (some 'O', rest)
    | _ => (none, rest)
  let place := { flags.foldl flag {} with
    width := digits.foldl (fun (n : Nat) (c : Char) => 10 * n + (c.toNat - '0'.toNat)) 0
    modifier }
  match rest with
  | [] => ({ place with text := '%' :: text }, [])
  | '%' :: after => ({ place with letter := some '%', text := ['%'] }, after)
  | c :: after =>
    ({ place with letter := some c, text := '%' :: text.take (text.length - after.length) }, after)

/-- Whether the letter takes the modifier that stands before it. -/
def takesModifier (place : TimePlace) (letter : Char) : Bool :=
  match place.modifier with
  | none => true
  | some 'E' => "cCxXyYnPpRrsTtuzZ".toList.contains letter
  | some _ => "bhBdeHIkljMmSUVgGWwCynPpRrsTtuzZ".toList.contains letter

/-- A text filled up on the left. -/
def filled (place : TimePlace) (text : List Char) : List Char :=
  List.replicate (place.width - text.length) (if place.fill = some '0' then '0' else ' ') ++ text

/-- A text in upper case, where each character has one that is a single character. -/
def capitals (text : List Char) : List Char :=
  text.map fun c => match Text.upper [c] with
    | [capital] => capital
    | _ => c

/-- Words in the case that the place asks for, if their own way to change case is `changed`. -/
def cased (place : TimePlace) (changed : List Char → List Char) (words : List Char) : List Char :=
  if place.change then changed words else if place.upper then capitals words else words

/-- A number of so many digits at least. -/
def number (place : TimePlace) (digits : Nat) (n : Int) : List Char :=
  let digits := max digits place.width
  let sign := if n < 0 then ['-'] else []
  if place.fill = some '-' then place.filled (Text.integer n)
  else if place.fill = some '_' then
    List.replicate (digits - (Text.integer n).length) ' ' ++ Text.integer n
  else sign ++ Text.decimalPadded (digits - sign.length) n.natAbs

/-- A number that is filled up with spaces unless another way is asked for. -/
def spaced (place : TimePlace) (digits : Nat) (n : Int) : List Char :=
  ({ place with fill := some (place.fill.getD '_') } : TimePlace).number digits n

end TimePlace

namespace Moment

/-- What a letter that stands for one part of a moment puts in its place, if it has a meaning. -/
def part? (moment : Moment) (place : TimePlace) : Char → Option (List Char)
  | 'Y' => some (place.number 1 moment.year)
  | 'C' => some (place.number 1 (moment.year / 100))
  | 'y' => some (place.number 2 (moment.year % 100))
  | 'G' => some (place.number 1 moment.isoWeek.1)
  | 'g' => some (place.number 2 (moment.isoWeek.1 % 100))
  | 'V' => some (place.number 2 moment.isoWeek.2)
  | 'U' => some (place.number 2 (moment.weekFrom 0))
  | 'W' => some (place.number 2 (moment.weekFrom 1))
  | 'm' => some (place.number 2 moment.month)
  | 'd' => some (place.number 2 moment.day)
  | 'e' => some (place.spaced 2 moment.day)
  | 'j' => some (place.number 3 (moment.yearDay + 1))
  | 'H' => some (place.number 2 moment.hour)
  | 'k' => some (place.spaced 2 moment.hour)
  | 'I' => some (place.number 2 moment.clockHour)
  | 'l' => some (place.spaced 2 moment.clockHour)
  | 'M' => some (place.number 2 moment.minute)
  | 'S' => some (place.number 2 moment.second)
  | 's' => some (place.filled (Text.integer moment.seconds))
  | 'w' => some (place.number 1 moment.weekDay)
  | 'u' => some (place.number 1 ((moment.weekDay + 6) % 7 + 1))
  | 'a' => some (place.filled (place.cased TimePlace.capitals (moment.weekDayName.take 3)))
  | 'A' => some (place.filled (place.cased TimePlace.capitals moment.weekDayName))
  | 'b' | 'h' => some (place.filled (place.cased TimePlace.capitals (moment.monthName.take 3)))
  | 'B' => some (place.filled (place.cased TimePlace.capitals moment.monthName))
  | 'p' => some (place.filled (place.cased Text.lower moment.halfDay))
  | 'P' => some (place.filled (Text.lower moment.halfDay))
  | 'Z' => some (place.filled (place.cased Text.lower moment.zone.toList))
  | 'z' => some (place.filled [if moment.ahead < 0 then '-' else '+'] ++
      place.number 4 moment.hoursAndMinutesAhead)
  | 'n' => some (place.filled ['\n'])
  | 't' => some (place.filled ['\t'])
  | '%' => some (place.filled ['%'])
  | _ => none

/-- The letters of the parts that a letter puts together, with what stands between them. -/
def parts? : Char → Option String
  | 'c' => some "a b e H:M:S Y"
  | 'D' | 'x' => some "m/d/y"
  | 'F' => some "Y-m-d"
  | 'R' => some "H:M"
  | 'r' => some "I:M:S p"
  | 'T' | 'X' => some "H:M:S"
  | _ => none

/-- What a place stands for. -/
def written (moment : Moment) (place : TimePlace) : List Char :=
  let meaning := (place.letter.filter place.takesModifier).bind fun letter =>
    match parts? letter with
    | some parts =>
      let text := parts.toList.flatMap fun c => (moment.part? {} c).getD [c]
      some (place.filled (if place.upper then TimePlace.capitals text else text))
    | none => moment.part? place letter
  meaning.getD (place.filled (if place.upper then TimePlace.capitals place.text else place.text))

/-- The pieces of a pattern of which `fuel` bounds the number: characters that stand for themselves,
and places. -/
def piecesWithin : Nat → List Char → List (Char ⊕ TimePlace)
  | 0, _ => []
  | _, [] => []
  | fuel + 1, c :: rest =>
    if c = '%' then
      let (place, after) := TimePlace.ofText rest
      .inr place :: piecesWithin fuel after
    else .inl c :: piecesWithin fuel rest

/-- The pieces of a pattern. -/
def piecesOf (pattern : List Char) : List (Char ⊕ TimePlace) :=
  piecesWithin pattern.length pattern

/-- The least length for which there is no room when a pattern of so many characters is written: the
first of 1024, 2048, 4096, ... that is at least 256 times as large. -/
def roomFor (size : Nat) : Nat :=
  1024 * Nat.pow 2 (if size ≤ 4 then 0 else ((size - 1) / 4).log2 + 1)

/-- A moment written by a pattern. What there is no room for is not written at all. -/
def format (moment : Moment) (pattern : List Char) : List Char :=
  let room := roomFor pattern.length
  let pieces := piecesOf pattern
  let tooWide : Char ⊕ TimePlace → Bool
    | .inl _ => false
    | .inr place => room ≤ place.width
  if pieces.any tooWide then []
  else
    let text := pieces.flatMap fun
      | .inl c => [c]
      | .inr place => moment.written place
    if room ≤ text.length then [] else text

end Moment

/-- Why a time cannot be written: its seconds are too many to count or its year too large, or the
pattern holds a null character. -/
inductive TimeError
  | uncountable
  | noDate
  | yearTooLarge
  | nulInPattern
  deriving Repr, DecidableEq

/-- The words for it. -/
def TimeError.message : TimeError → String
  | .uncountable => "timestamp out of range for platform time_t"
  | .noDate => "[Errno 75] Value too large for defined data type"
  | .yearTooLarge => "signed integer is greater than maximum"
  | .nulInPattern => "embedded null character"

/-- The moment of a time, if it has a date whose year, counted from 1900 and from zero, is a number
of 32 bits. -/
def momentOf [Zone] (time : Time) : Except TimeError Moment :=
  if time.seconds < -Int.pow 2 63 || Int.pow 2 63 ≤ time.seconds then .error .uncountable
  else
    let moment := Moment.ofSeconds time.seconds
    let year := moment.year - 1900
    if year < -Int.pow 2 31 || Int.pow 2 31 ≤ year then .error .noDate
    else if Int.pow 2 31 ≤ moment.year then .error .yearTooLarge
    else .ok moment

/-- The timestamp of a time: by the given pattern, or by date and time with the milliseconds behind
a comma if no pattern is given. -/
def timestamp [Zone] (time : Time) (pattern : Option String) : Except TimeError String := do
  let moment ← momentOf time
  match pattern.filter (!·.isEmpty) with
  | some pattern =>
    if pattern.toList.contains '\x00' then .error .nulInPattern
    else .ok (String.ofList (moment.format pattern.toList))
  | none =>
    .ok (String.ofList (moment.format "%Y-%m-%d %H:%M:%S".toList ++ ',' ::
      (if time.milliseconds < 0 then '-' :: Text.decimalPadded 2 time.milliseconds.natAbs
        else Text.decimalPadded 3 time.milliseconds.toNat)))

end ScriptReplay.Log
