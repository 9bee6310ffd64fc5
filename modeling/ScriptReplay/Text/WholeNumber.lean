import ScriptReplay.Text.Alphanumeric
import ScriptReplay.Text.Numeral

/-!
# Whole numbers in a text

What number digits spell. Digits of any script count; the number of them is limited.
-/

namespace ScriptReplay.Text

/-- The value of a decimal digit of any script. -/
def decimalValue? (c : Char) : Option Nat :=
  if decimalDigits.contains c.toNat then
    some ((c.toNat - decimalDigits.startOfRun c.toNat) % 10)
  else none

/-- The values of decimal digits. A single underscore may stand between two of them. -/
def decimalValues? : List Char → Option (List Nat)
  | [] => none
  | [c] => (decimalValue? c).map ([·])
  | c :: '_' :: rest => return (← decimalValue? c) :: (← decimalValues? rest)
  | c :: rest => return (← decimalValue? c) :: (← decimalValues? rest)

/-- The number whose digits have these values. -/
def ofDigits (digits : List Nat) : Nat :=
  digits.foldl (fun n digit => n * 10 + digit) 0

/-- The greatest number of digits that a number may be written with. -/
def digitLimit : Nat := 4300

/-- The words for a number with too many digits. -/
def tooManyDigits (digits : Nat) : String :=
  "Exceeds the limit (" ++ decimalString digitLimit
    ++ " digits) for integer string conversion: value has " ++ decimalString digits
    ++ " digits; use sys.set_int_max_str_digits() to increase the limit"

/-- Why digits spell no number: there are none, or too many. -/
inductive NumberError
  | noDigits
  | tooLong (digits : Nat)
  deriving Repr, DecidableEq

/-- The words for it. -/
def NumberError.message : NumberError → String
  | .noDigits => "invalid literal for int() with base 10: ''"
  | .tooLong digits => tooManyDigits digits

/-- The number that decimal digits spell. -/
def numberOfDigits (digits : List Char) : Except NumberError Nat :=
  let values := digits.filterMap decimalValue?
  if values.isEmpty then .error .noDigits
  else if digitLimit < values.length then .error (.tooLong values.length)
  else .ok (ofDigits values)

end ScriptReplay.Text
