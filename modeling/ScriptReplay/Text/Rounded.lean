import ScriptReplay.Text.Numeral

/-!
# Rounded numbers

Whole numbers that are kept or written with a limited number of digits. A quotient is rounded to the
nearest whole number, and a half to the even one. `nearestDouble?` is the number that the binary
format of 64 bits keeps, and `fixed`, `exponential` and `general` write a number with a decimal point.
-/

namespace ScriptReplay.Text

/-- The quotient rounded to the nearest whole number, a half to the even one. -/
def roundDiv (n d : Nat) : Nat :=
  if 2 * (n % d) < d ∨ (2 * (n % d) = d ∧ n / d % 2 = 0) then n / d else n / d + 1

/-- The nearest number that the binary format of 64 bits has, if the number is not too large for it:
its leading 53 binary digits are kept. -/
def nearestDouble? (n : Nat) : Option Nat :=
  let unit := Nat.pow 2 (n.log2 + 1 - 53)
  let nearest := roundDiv n unit * unit
  if nearest < Nat.pow 2 1024 then some nearest else none

/-- The leading `count` digits of a number, rounded, and the power of ten of the first of them. A number
with fewer digits gets zeros behind them. -/
def significant (count n : Nat) : List Char × Nat :=
  let size := (decimal n).length
  if size ≤ count then (decimal n ++ List.replicate (count - size) '0', size - 1)
  else
    let digits := decimal (roundDiv n (Nat.pow 10 (size - count)))
    (digits.take count, size - 1 + (digits.length - count))

/-- A decimal point and the digits behind it. Without digits there is no point, unless it is always
written. -/
def fraction (pointed : Bool) (digits : List Char) : List Char :=
  if digits.isEmpty && !pointed then [] else '.' :: digits

/-- A number with so many places behind the point. -/
def fixed (pointed : Bool) (places n : Nat) : List Char :=
  decimal n ++ fraction pointed (List.replicate places '0')

/-- Digits as a number between one and ten, times a power of ten, which has two digits at least. -/
def scaled (pointed : Bool) (digits : List Char) (power : Nat) : List Char :=
  digits.take 1 ++ fraction pointed (digits.drop 1) ++ 'e' :: '+' :: decimalPadded 2 power

/-- A number as one between one and ten with so many places, times a power of ten. -/
def exponential (pointed : Bool) (places n : Nat) : List Char :=
  let (digits, power) := significant (places + 1) n
  scaled pointed digits power

/-- Digits without the zeros at their end. -/
def dropZeros (digits : List Char) : List Char :=
  (digits.reverse.dropWhile (· == '0')).reverse

/-- A number by its leading `count` digits, with a power of ten if it has more. Zeros behind the point
are left out unless the point is always written. -/
def general (pointed : Bool) (count n : Nat) : List Char :=
  let count := max count 1
  let (digits, power) := significant count n
  let whole := digits.take (power + 1)
  let kept (digits : List Char) := if pointed then digits else dropZeros digits
  if power < count then whole ++ fraction pointed (kept (digits.drop (power + 1)))
  else scaled pointed (digits.take 1 ++ kept (digits.drop 1)) power

end ScriptReplay.Text
