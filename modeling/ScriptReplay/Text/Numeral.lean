/-!
# Numerals

Numbers in base ten, with a sign where there is one, and in other bases.
-/

namespace ScriptReplay.Text

/-- A natural number in base ten. -/
def decimal (n : Nat) : List Char :=
  Nat.toDigits 10 n

/-- An integer in base ten, with a minus sign below zero. -/
def integer (i : Int) : List Char :=
  if i < 0 then '-' :: decimal i.natAbs else decimal i.natAbs

/-- A natural number in base ten, as a string. -/
def decimalString (n : Nat) : String :=
  String.ofList (decimal n)

/-- An integer in base ten, as a string. -/
def integerString (i : Int) : String :=
  String.ofList (integer i)

/-- Digits with zeros in front, so that there are at least `width`. -/
def zeroPadded (width : Nat) (digits : List Char) : List Char :=
  List.replicate (width - digits.length) '0' ++ digits

/-- A number in base ten with zeros in front, so that it has at least `width` digits. -/
def decimalPadded (width n : Nat) : List Char :=
  zeroPadded width (decimal n)

end ScriptReplay.Text
