import ScriptReplay.Encoding.Basic

/-!
# Raw escapes

An encoding of one byte per character up to U+00FF, which has an escape for every other character: a
backslash, a letter, and the code point in hexadecimal digits, four behind a small letter and eight
behind a capital one. A backslash is itself one byte, so a text that has an escape in it is not read
as it was written.

A backslash stands for itself, and takes the character behind it with it, where that begins no
escape. The escape of a surrogate is read as the character that stands for what is none, since no
text has surrogates here.
-/

namespace ScriptReplay.Encoding

/-- The value of a hexadecimal digit. -/
def hexValue? (byte : UInt8) : Option Nat :=
  let n := byte.toNat
  if 0x30 ≤ n && n ≤ 0x39 then some (n - 0x30)
  else if 0x61 ≤ n && n ≤ 0x66 then some (n - 0x57)
  else if 0x41 ≤ n && n ≤ 0x46 then some (n - 0x37)
  else none

/-- The number of digits that the letter behind a backslash asks for, where it begins an escape. -/
def escapeDigits? (letter : UInt8) : Option Nat :=
  if letter.toNat = 0x75 then some 4 else if letter.toNat = 0x55 then some 8 else none

/-- What was read of an escape: nothing, the backslash, or the bytes from there on, the number of
digits that are missing, and the code point that those make which are there. -/
inductive EscapeState
  | none
  | backslash
  | digits (read : List UInt8) (missing code : Nat)

/-- The refusal of an escape that breaks off. -/
def brokenEscape (position : Nat) (read : List UInt8) : Error :=
  { codec := "rawunicodeescape"
    reason := if read[1]? = some 0x55 then .truncatedLongEscape else .truncatedEscape
    position := position - read.length
    bytes := read }

/-- The character of an escape; `position` is the one behind it. -/
def escapedChar (position : Nat) (read : List UInt8) (code : Nat) : Except Error Char :=
  if 0x10ffff < code then
    .error ⟨"rawunicodeescape", .escapeOutOfRange, position - read.length, read⟩
  else if 0xd800 ≤ code && code < 0xe000 then .ok (Char.ofNat 0xfffd)
  else .ok (Char.ofNat code)

/-- Reads bytes from a position on. -/
def decodeRawFrom (position : Nat) : EscapeState → List UInt8 → Except Error (List Char)
  | .none, [] => .ok []
  | .backslash, [] => .ok ['\\']
  | .digits read _ _, [] => .error (brokenEscape position read)
  | .none, byte :: rest =>
    if byte.toNat = 0x5c then decodeRawFrom (position + 1) .backslash rest
    else (decodeRawFrom (position + 1) .none rest).map (Char.ofNat byte.toNat :: ·)
  | .backslash, byte :: rest =>
    match escapeDigits? byte with
    | some missing => decodeRawFrom (position + 1) (.digits [0x5c, byte] missing 0) rest
    | none =>
      (decodeRawFrom (position + 1) .none rest).map fun text =>
        '\\' :: Char.ofNat byte.toNat :: text
  | .digits read missing code, byte :: rest =>
    match hexValue? byte with
    | none => .error (brokenEscape position read)
    | some value =>
      let read := read ++ [byte]
      let code := code * 16 + value
      if 1 < missing then decodeRawFrom (position + 1) (.digits read (missing - 1) code) rest
      else
        match escapedChar (position + 1) read code with
        | .error error => .error error
        | .ok c => (decodeRawFrom (position + 1) .none rest).map (c :: ·)

/-- The bytes of a character. -/
def rawBytes (c : Char) : List UInt8 :=
  let n := c.toNat
  let escape (letter : Char) (width : Nat) : List UInt8 :=
    ('\\' :: letter :: Text.hexPadded width n).map fun c => UInt8.ofNat c.toNat
  if n < 0x100 then [UInt8.ofNat n]
  else if n < 0x10000 then escape 'u' 4
  else escape 'U' 8

end ScriptReplay.Encoding
