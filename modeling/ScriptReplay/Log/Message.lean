import ScriptReplay.Json.Display
import ScriptReplay.Log.Directive
import ScriptReplay.Text.Rounded

/-!
# Messages put together from arguments

The letter of a place says how its argument is shown: `s`, `r` and `a` take any value, `d`, `i`,
`u`, `o`, `x` and `X` a whole number, `e`, `f` and `g` a number that is written with a decimal
point, and `c` a character or its code. A text without arguments is taken as it is.
-/

namespace ScriptReplay.Log

/-- Why a message cannot be put together. -/
inductive MessageError
  | tooFewArguments
  | tooManyArguments
  | incomplete
  | incompleteKey
  | needsMapping
  | missingKey (key : String)
  | needsNumber (letter : Char) (kind : String)
  | needsWhole (letter : Char) (kind : String)
  | needsReal (kind : String)
  | needsCharacter
  | noCharacter
  | numberTooLarge
  | starNeedsNumber
  | widthTooBig
  | precisionTooBig
  | precisionTooLarge
  | starTooLarge (range : String)
  | textTooLong
  | unsupported (letter : Char) (index : Nat)
  deriving Repr, DecidableEq

/-- The hexadecimal digits of a code point, without zeros in front. -/
def codeDigits (c : Char) : String :=
  String.ofList (Nat.toDigits 16 c.toNat)

/-- The words for it. -/
def MessageError.message : MessageError → String
  | .tooFewArguments => "not enough arguments for format string"
  | .tooManyArguments => "not all arguments converted during string formatting"
  | .incomplete => "incomplete format"
  | .incompleteKey => "incomplete format key"
  | .needsMapping => "format requires a mapping"
  | .missingKey key => Text.quoted key
  | .needsNumber letter kind =>
    "%" ++ letter.toString ++ " format: a real number is required, not " ++ kind
  | .needsWhole letter kind =>
    "%" ++ letter.toString ++ " format: an integer is required, not " ++ kind
  | .needsReal kind => "must be real number, not " ++ kind
  | .needsCharacter => "%c requires int or char"
  | .noCharacter => "%c arg not in range(0x110000)"
  | .numberTooLarge => "int too large to convert to float"
  | .starNeedsNumber => "* wants int"
  | .widthTooBig => "width too big"
  | .precisionTooBig => "precision too big"
  | .precisionTooLarge => "precision too large"
  | .starTooLarge range => "Python int too large to convert to C " ++ range
  | .textTooLong => ""
  | .unsupported letter index =>
    "unsupported format character '"
      ++ (if 31 ≤ letter.toNat && letter.toNat ≤ 126 then letter.toString else "?")
      ++ "' (0x" ++ codeDigits letter ++ ") at index " ++ Text.decimalString index

/-- The arguments of a message: the mapping that keys are looked up in, if there is one, and the
values that are not used yet. -/
structure Supply where
  mapping : Option Fields
  unused : List Json

/-- The arguments as they are supplied. A single object that is not empty is a mapping. -/
def Supply.ofList : List Json → Supply
  | [.obj (field :: fields)] => ⟨some (field :: fields), [.obj (field :: fields)]⟩
  | arguments => ⟨none, arguments⟩

/-- Putting a message together, where arguments are used up. -/
abbrev Filler := StateT Supply (Except MessageError)

/-- The next value. -/
def nextArgument : Filler Json := do
  let supply ← get
  match supply.unused with
  | [] => throw .tooFewArguments
  | value :: rest =>
    set { supply with unused := rest }
    return value

/-- Makes the value of a key the only one left. -/
def selectKey (key : String) : Filler Unit := do
  match (← get).mapping with
  | none => throw .needsMapping
  | some fields =>
    match fields.get? key with
    | none => throw (.missingKey key)
    | some value => set ({ mapping := some fields, unused := [value] } : Supply)

/-- The number that a value is, if it is one. -/
def wholeNumber? : Json → Option Int
  | .num n => some n
  | .bool b => some (if b then 1 else 0)
  | _ => none

/-- The least number that no width reaches. -/
def widthLimit : Nat := Nat.pow 2 63

/-- The least number that no precision reaches. -/
def precisionLimit : Nat := Nat.pow 2 31

/-- The least width for which no memory is found. -/
def memoryLimit : Nat := Nat.pow 2 38

/-- The number of a size below a limit. An error says that a number in the text is too big, and
another that an argument is. -/
def resolveSize (limit : Nat) (tooBig tooLarge : MessageError) :
    Option Size → Filler (Option Int)
  | none => return none
  | some (.fixed n) => if n < limit then return some n else throw tooBig
  | some .fromArgument => do
    match wholeNumber? (← nextArgument) with
    | none => throw .starNeedsNumber
    | some n => if -limit ≤ n && n < limit then return some n else throw tooLarge

/-- How an argument is put in its place: the columns that it fills, on which side, and with what. -/
structure Layout where
  left : Bool
  zeros : Bool
  alternate : Bool
  plus : Bool
  blank : Bool
  columns : Nat
  precision : Option Nat
  deriving Repr, DecidableEq

/-- The layout of a place, given its sizes. A negative width stands for a flag to fill on the right,
and a negative precision for none at all. -/
def Directive.layout (directive : Directive) (width precision : Option Int) : Layout where
  left := directive.flags.contains '-' || width.any (· < 0)
  zeros := directive.flags.contains '0'
  alternate := directive.flags.contains '#'
  plus := directive.flags.contains '+'
  blank := directive.flags.contains ' '
  columns := (width.getD 0).natAbs
  precision := precision.map Int.toNat

namespace Layout

/-- A text filled up to the columns, with zeros between its start and the rest if they are asked
for. -/
def fill (layout : Layout) (zeros : Bool) (start body : List Char) : List Char :=
  let missing := layout.columns - (start.length + body.length)
  if layout.left then start ++ body ++ List.replicate missing ' '
  else if zeros then start ++ List.replicate missing '0' ++ body
  else List.replicate missing ' ' ++ start ++ body

/-- Words, as many of their characters as the precision allows. -/
def words (layout : Layout) (text : List Char) : List Char :=
  layout.fill false [] (match layout.precision with
    | none => text
    | some n => text.take n)

/-- The sign of a number. -/
def sign (layout : Layout) (n : Int) : List Char :=
  if n < 0 then ['-'] else if layout.plus then ['+'] else if layout.blank then [' '] else []

/-- A number from its digits, which stand behind its sign and the mark of their base. -/
def number (layout : Layout) (n : Int) (mark digits : List Char) : List Char :=
  layout.fill layout.zeros (layout.sign n ++ mark) digits

/-- A whole number in a base. The base is marked in the alternate form. -/
def whole (layout : Layout) (letter : Char) (n : Int) : Except MessageError (List Char) :=
  let places := layout.precision.getD 0
  let mark := if layout.alternate then ['0', letter] else []
  if precisionLimit - 4 < places then .error .precisionTooLarge
  else .ok (match letter with
    | 'o' => layout.number n mark (Text.zeroPadded places (Nat.toDigits 8 n.natAbs))
    | 'x' => layout.number n mark (Text.zeroPadded places (Nat.toDigits 16 n.natAbs))
    | 'X' =>
      layout.number n mark
        (Text.zeroPadded places ((Nat.toDigits 16 n.natAbs).map Char.toUpper))
    | _ => layout.number n [] (Text.decimalPadded places n.natAbs))

/-- A number with a decimal point, as far as the binary format of 64 bits keeps it. -/
def real (layout : Layout) (letter : Char) (n : Int) : Except MessageError (List Char) :=
  match Text.nearestDouble? n.natAbs with
  | none => .error .numberTooLarge
  | some m =>
    let places := layout.precision.getD 6
    .ok (layout.number n [] (match letter with
      | 'e' => Text.exponential layout.alternate places m
      | 'E' => (Text.exponential layout.alternate places m).map Char.toUpper
      | 'g' => Text.general layout.alternate places m
      | 'G' => (Text.general layout.alternate places m).map Char.toUpper
      | _ => Text.fixed layout.alternate places m))

/-- A character, given by itself or by its code. -/
def character (layout : Layout) : Json → Except MessageError (List Char)
  | .str s =>
    match s.toList with
    | [c] => .ok (layout.fill false [] [c])
    | _ => .error .needsCharacter
  | value =>
    match wholeNumber? value with
    | none => .error .needsCharacter
    | some n =>
      if n < -widthLimit || widthLimit ≤ n then .error .needsCharacter
      else if n < 0 || 0x110000 ≤ n then .error .noCharacter
      else .ok (layout.fill false [] [Char.ofNat n.toNat])

end Layout

/-- The text that an argument puts in its place. -/
def render (directive : Directive) (letter : Char) (layout : Layout) (value : Json) :
    Except MessageError (List Char) :=
  if letter = 's' then .ok (layout.words value.display.toList)
  else if letter = 'r' then .ok (layout.words value.shown)
  else if letter = 'a' then .ok (layout.words (value.shown.flatMap Text.asciiChar))
  else if letter = 'c' then layout.character value
  else if letter = 'd' || letter = 'i' || letter = 'u' then
    match wholeNumber? value with
    | none => .error (.needsNumber letter value.kindName)
    | some n => layout.whole letter n
  else if letter = 'o' || letter = 'x' || letter = 'X' then
    match wholeNumber? value with
    | none => .error (.needsWhole letter value.kindName)
    | some n => layout.whole letter n
  else if ['e', 'E', 'f', 'F', 'g', 'G'].contains letter then
    match wholeNumber? value with
    | none => .error (.needsReal value.kindName)
    | some n => layout.real letter n
  else .error (.unsupported letter directive.index)

/-- The text of a piece. -/
def fillPiece : Piece → Filler (List Char)
  | .char c => return [c]
  | .openKey => do
    if (← get).mapping.isNone then throw .needsMapping
    throw .incompleteKey
  | .place directive => do
    if let some key := directive.key then selectKey key
    let width ← resolveSize widthLimit .widthTooBig (.starTooLarge "ssize_t") directive.width
    let precision ←
      resolveSize precisionLimit .precisionTooBig (.starTooLarge "int") directive.precision
    match directive.letter with
    | none => throw .incomplete
    | some letter =>
      let value ← nextArgument
      let layout := directive.layout width precision
      if memoryLimit ≤ layout.columns then
        let _ ← render directive letter { layout with columns := 0 } value
        throw .textTooLong
      match render directive letter layout value with
      | .ok text => return text
      | .error error => throw error

/-- The message that a text gives with arguments in its places. -/
def messageOf (text : String) (arguments : List Json) : Except MessageError String :=
  if arguments.isEmpty then .ok text
  else do
    let (parts, supply) ← ((piecesOf text.toList).mapM fillPiece).run (.ofList arguments)
    if supply.mapping.isNone && !supply.unused.isEmpty then throw .tooManyArguments
    return String.ofList parts.flatten

end ScriptReplay.Log
