/-!
# Places for arguments

The text of a message may have places for arguments, each written as a percent sign, a key in
parentheses if the arguments are named, flags, a width, a precision, and the letter that says how
the argument is shown. Two percent signs side by side stand for one. `piecesOf` finds the places.
-/

namespace ScriptReplay.Log

/-- A width or a precision: a number, or the next argument. -/
inductive Size
  | fixed (n : Nat)
  | fromArgument
  deriving Repr, DecidableEq

/-- A place for an argument. Without a letter the text ended inside it. -/
structure Directive where
  key : Option String
  flags : List Char
  width : Option Size
  precision : Option Size
  letter : Option Char
  index : Nat
  deriving Repr, DecidableEq

/-- A piece of a message's text. -/
inductive Piece
  | char (c : Char)
  | place (directive : Directive)
  | openKey
  deriving Repr, DecidableEq

/-- The text up to the parenthesis that closes a key, and what follows it. Parentheses in the key
come in pairs. -/
def keyOf : Nat → List Char → Option (List Char × List Char)
  | _, [] => none
  | depth, c :: rest =>
    if c = ')' then
      match depth with
      | 0 => some ([], rest)
      | depth + 1 => (keyOf depth rest).map fun (key, after) => (c :: key, after)
    else
      (keyOf (if c = '(' then depth + 1 else depth) rest).map fun (key, after) => (c :: key, after)

/-- The number that digits spell. -/
def numberOf (digits : List Char) : Nat :=
  digits.foldl (fun n c => 10 * n + (c.toNat - '0'.toNat)) 0

/-- A size at the start of a text, if there is one, and what follows it. -/
def sizeOf? (text : List Char) : Option Size × List Char :=
  match text with
  | '*' :: rest => (some .fromArgument, rest)
  | _ =>
    match text.takeWhile Char.isDigit with
    | [] => (none, text)
    | digits => (some (.fixed (numberOf digits)), text.dropWhile Char.isDigit)

/-- Whether a character is a flag. -/
def isFlag (c : Char) : Bool :=
  c == '-' || c == '+' || c == ' ' || c == '#' || c == '0'

/-- The place that a text describes behind its percent sign and its key, and what follows it. -/
def directiveOf (size : Nat) (key : Option String) (text : List Char) : Directive × List Char :=
  let flags := text.takeWhile isFlag
  let (width, text) := sizeOf? (text.dropWhile isFlag)
  let (precision, text) := match text with
    | '.' :: rest =>
      let (precision, rest) := sizeOf? rest
      (some (precision.getD (.fixed 0)), rest)
    | _ => (none, text)
  let text := match text with
    | 'h' :: rest | 'l' :: rest | 'L' :: rest => rest
    | _ => text
  match text with
  | [] => (⟨key, flags, width, precision, none, size⟩, [])
  | letter :: rest =>
    (⟨key, flags, width, precision, some letter, size - rest.length - 1⟩, rest)

/-- The pieces of a text, of which `fuel` bounds the number, where `size` is the length of the whole
text. -/
def piecesWithin (size : Nat) : Nat → List Char → List Piece
  | 0, _ => []
  | _, [] => []
  | fuel + 1, '%' :: '%' :: rest => .char '%' :: piecesWithin size fuel rest
  | fuel + 1, '%' :: '(' :: rest =>
    match keyOf 0 rest with
    | none => [.openKey]
    | some (key, after) =>
      let (directive, after) := directiveOf size (some (String.ofList key)) after
      .place directive :: piecesWithin size fuel after
  | fuel + 1, '%' :: rest =>
    let (directive, after) := directiveOf size none rest
    .place directive :: piecesWithin size fuel after
  | fuel + 1, c :: rest => .char c :: piecesWithin size fuel rest

/-- The pieces of a text. -/
def piecesOf (text : List Char) : List Piece :=
  piecesWithin text.length text.length text

end ScriptReplay.Log
