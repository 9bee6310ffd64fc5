import ScriptReplay.Json.Basic

/-!
# Read JSON

Reads JSON text whose numbers are whole. White space may stand between the tokens; a string may hold
any character except the quote, the backslash and those below U+0020, and any escape, where a pair of
surrogates stands for one character. `read? text` is the value of the whole text.
-/

namespace ScriptReplay.Json

/-- The text from its first character that is not JSON white space. -/
def skipSpace : List Char → List Char
  | [] => []
  | c :: rest => if c = ' ' ∨ c = '\t' ∨ c = '\n' ∨ c = '\r' then skipSpace rest else c :: rest

/-- The value of a hexadecimal digit. -/
def hexValue? (c : Char) : Option Nat :=
  if '0' ≤ c ∧ c ≤ '9' then some (c.toNat - 48)
  else if 'a' ≤ c ∧ c ≤ 'f' then some (c.toNat - 87)
  else if 'A' ≤ c ∧ c ≤ 'F' then some (c.toNat - 55)
  else none

/-- The value of four hexadecimal digits. -/
def hex4? (a b c d : Char) : Option Nat := do
  let a ← hexValue? a
  let b ← hexValue? b
  let c ← hexValue? c
  let d ← hexValue? d
  some (((a * 16 + b) * 16 + c) * 16 + d)

/-- The character of a one-letter escape. -/
def unescape? (c : Char) : Option Char :=
  if c = '\x22' then some '\x22'
  else if c = '\\' then some '\\'
  else if c = '/' then some '/'
  else if c = 'b' then some '\x08'
  else if c = 'f' then some '\x0c'
  else if c = 'n' then some '\n'
  else if c = 'r' then some '\r'
  else if c = 't' then some '\t'
  else none

/-- Puts a character before the text just read. -/
def withChar (c : Char) (read : List Char × List Char) : List Char × List Char :=
  (c :: read.1, read.2)

/-- Reads the rest of a string after its opening quote: its characters and what follows it. -/
def readString? : List Char → Option (List Char × List Char)
  | [] => none
  | '\x22' :: rest => some ([], rest)
  | '\\' :: 'u' :: a :: b :: c :: d :: rest =>
    match hex4? a b c d with
    | none => none
    | some unit =>
      if 0xd800 ≤ unit ∧ unit < 0xdc00 then
        match rest with
        | '\\' :: 'u' :: e :: f :: g :: h :: rest =>
          match hex4? e f g h with
          | none => none
          | some low =>
            if 0xdc00 ≤ low ∧ low < 0xe000 then
              (readString? rest).map
                (withChar (Char.ofNat (0x10000 + (unit - 0xd800) * 0x400 + (low - 0xdc00))))
            else none
        | _ => none
      else if 0xdc00 ≤ unit ∧ unit < 0xe000 then none
      else (readString? rest).map (withChar (Char.ofNat unit))
  | '\\' :: c :: rest =>
    match unescape? c with
    | none => none
    | some d => (readString? rest).map (withChar d)
  | c :: rest =>
    if c = '\\' ∨ c.toNat < 0x20 then none else (readString? rest).map (withChar c)

/-- Reads digits: the number so far continued by them, and what follows. -/
def readDigits : Nat → List Char → Nat × List Char
  | n, [] => (n, [])
  | n, c :: rest => if c.isDigit then readDigits (10 * n + (c.toNat - 48)) rest else (n, c :: rest)

/-- Reads a natural number. -/
def readNat? : List Char → Option (Nat × List Char)
  | [] => none
  | c :: rest => if c.isDigit then some (readDigits 0 (c :: rest)) else none

mutual

/-- Reads a value with at most `depth` steps: the value and what follows it. -/
def readValue? : Nat → List Char → Option (Json × List Char)
  | 0, _ => none
  | depth + 1, s =>
    match skipSpace s with
    | 'n' :: 'u' :: 'l' :: 'l' :: rest => some (.null, rest)
    | 't' :: 'r' :: 'u' :: 'e' :: rest => some (.bool true, rest)
    | 'f' :: 'a' :: 'l' :: 's' :: 'e' :: rest => some (.bool false, rest)
    | '\x22' :: rest => (readString? rest).map fun (cs, rest) => (.str (String.ofList cs), rest)
    | '[' :: rest =>
      match skipSpace rest with
      | ']' :: rest => some (.arr [], rest)
      | rest => (readItems? depth rest).map fun (items, rest) => (.arr items, rest)
    | '\x7b' :: rest =>
      match skipSpace rest with
      | '\x7d' :: rest => some (.obj [], rest)
      | rest => (readFields? depth rest).map fun (fields, rest) => (.obj fields, rest)
    | '-' :: rest => (readNat? rest).map fun (n, rest) => (.num (-(n : Int)), rest)
    | rest => (readNat? rest).map fun (n, rest) => (.num (n : Int), rest)

/-- Reads the items of an array up to its end. -/
def readItems? : Nat → List Char → Option (List Json × List Char)
  | 0, _ => none
  | depth + 1, s =>
    match readValue? depth s with
    | none => none
    | some (item, rest) =>
      match skipSpace rest with
      | ']' :: rest => some ([item], rest)
      | ',' :: rest => (readItems? depth rest).map fun (items, rest) => (item :: items, rest)
      | _ => none

/-- Reads the fields of an object up to its end. -/
def readFields? : Nat → List Char → Option (List (String × Json) × List Char)
  | 0, _ => none
  | depth + 1, s =>
    match skipSpace s with
    | '\x22' :: rest =>
      match readString? rest with
      | none => none
      | some (key, rest) =>
        match skipSpace rest with
        | ':' :: rest =>
          match readValue? depth rest with
          | none => none
          | some (value, rest) =>
            match skipSpace rest with
            | '\x7d' :: rest => some ([(String.ofList key, value)], rest)
            | ',' :: rest =>
              (readFields? depth rest).map fun (fields, rest) =>
                ((String.ofList key, value) :: fields, rest)
            | _ => none
        | _ => none
    | _ => none

end

/-- The value of a whole text, with nothing but white space after it. Every step reads a character,
so twice the length of the text bounds their number. -/
def read? (s : List Char) : Option Json :=
  match readValue? (2 * s.length + 1) s with
  | some (value, rest) => if (skipSpace rest).isEmpty then some value else none
  | none => none

end ScriptReplay.Json
