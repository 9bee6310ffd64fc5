import ScriptReplay.Literal.Token
import ScriptReplay.Text.Numeral

/-!
# Numbers in an expression

The longest number at the start of a text. Single underscores may stand between digits, and behind a
number there may be no ASCII character of a name, unless it begins a keyword that can follow a number.
-/

namespace ScriptReplay.Literal

/-- The characters that a name can begin with. All that are not ASCII count until the name is read. -/
def beginsName (c : Char) : Bool :=
  c.isAlpha || c == '_' || 0x80 ≤ c.toNat

/-- The characters that a name can go on with. -/
def continuesName (c : Char) : Bool :=
  beginsName c || c.isDigit

namespace Numeral

/-- The digits of a number with its base. -/
def isHexDigit (c : Char) : Bool :=
  c.isDigit || ('a' ≤ c && c ≤ 'f') || ('A' ≤ c && c ≤ 'F')

/-- What stands before the rest of a run of digits: nothing, a digit, or an underscore. -/
inductive Before
  | nothing
  | digit
  | underscore
  deriving Repr, DecidableEq

/-- What follows a run of digits with single underscores between them, or else the text where a digit is
missing. -/
def afterDigits (isDigit : Char → Bool) : Before → List Char → Except (List Char) (List Char)
  | before, [] => if before = .digit then .ok [] else .error []
  | before, c :: rest =>
    if isDigit c then afterDigits isDigit .digit rest
    else if c == '_' && before ≠ .underscore then afterDigits isDigit .underscore rest
    else if before = .digit then .ok (c :: rest)
    else .error (c :: rest)

/-- What follows a run of decimal digits whose first digit is read. -/
def afterDecimal (text : List Char) : Except TokenError (List Char) :=
  match afterDigits Char.isDigit .digit text with
  | .ok rest => .ok rest
  | .error _ => .error (.number .decimal)

/-- The starts of keywords that may follow a number at once. -/
def followers : List String :=
  ["and", "else", "for", "if", "in", "is", "or", "not"]

/-- A number can end before this text. -/
def ends (form : NumberForm) (rest : List Char) : Except TokenError (List Char) :=
  if followers.any fun word => word.toList.isPrefixOf rest then .ok rest
  else match rest with
    | c :: _ => if continuesName c && c.toNat < 0x80 then .error (.number form) else .ok rest
    | [] => .ok rest

/-- What follows a number of base sixteen, eight or two, of which the letter for the base is read. -/
def afterRadix (form : NumberForm) (isDigit : Char → Bool) (text : List Char) :
    Except TokenError (List Char) :=
  match afterDigits isDigit .nothing text with
  | .ok (c :: rest) =>
    if c.isDigit then .error (.digit c form) else ends form (c :: rest)
  | .ok [] => .ok []
  | .error (c :: _) => .error (if c.isDigit then .digit c form else .number form)
  | .error [] => .error (.number form)

/-- What follows a number that may have a sign of being imaginary here. -/
def afterUnit (text : List Char) : Except TokenError (List Char) :=
  match text with
  | 'j' :: rest | 'J' :: rest => ends .imaginary rest
  | _ => ends .decimal text

/-- What follows a number whose exponent begins with a letter, which may not be there. -/
def afterExponent (text : List Char) : Except TokenError (List Char) :=
  match text with
  | e :: rest =>
    if e == 'e' || e == 'E' then
      match rest with
      | c :: digits =>
        if c == '+' || c == '-' then
          match digits with
          | d :: more =>
            if d.isDigit then do afterUnit (← afterDecimal more) else .error (.number .decimal)
          | [] => .error (.number .decimal)
        else if c.isDigit then do afterUnit (← afterDecimal digits)
        else ends .decimal text
      | [] => ends .decimal text
    else afterUnit text
  | [] => .ok []

/-- What follows a number whose point is read. -/
def afterPoint (text : List Char) : Except TokenError (List Char) :=
  match text with
  | c :: rest => if c.isDigit then do afterExponent (← afterDecimal rest) else afterExponent text
  | [] => .ok []

/-- What follows a decimal number of which the first digit is read. A whole number other than zero
does not begin with a zero. -/
def afterDecimalNumber (first : Char) (text : List Char) : Except TokenError (List Char) := do
  let rest ← afterDecimal text
  let digits := text.take (text.length - rest.length)
  match rest with
  | '.' :: fraction => afterPoint fraction
  | 'e' :: _ | 'E' :: _ => afterExponent rest
  | 'j' :: _ | 'J' :: _ => afterUnit rest
  | _ =>
    if first == '0' && digits.any (fun c => c != '0' && c != '_') then .error .leadingZeros
    else ends .decimal rest

/-- What follows the number at the start of a text that begins with a digit, or with a point and a
digit. -/
def after : List Char → Except TokenError (List Char)
  | '.' :: rest => afterPoint rest
  | '0' :: 'x' :: rest | '0' :: 'X' :: rest => afterRadix .hexadecimal isHexDigit rest
  | '0' :: 'o' :: rest | '0' :: 'O' :: rest => afterRadix .octal (fun c => '0' ≤ c && c ≤ '7') rest
  | '0' :: 'b' :: rest | '0' :: 'B' :: rest => afterRadix .binary (fun c => c == '0' || c == '1') rest
  | c :: rest => afterDecimalNumber c rest
  | [] => .ok []

end Numeral

end ScriptReplay.Literal
