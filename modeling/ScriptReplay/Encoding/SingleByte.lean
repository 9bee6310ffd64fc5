import ScriptReplay.Encoding.Basic

/-!
# Encodings of one byte per character

ASCII and Latin-1, whose bytes are code points, and Windows-1252, which differs from Latin-1 in the
bytes 0x80 to 0x9f and leaves five of them undefined.
-/

namespace ScriptReplay.Encoding

/-- The code points of the bytes 0x80 to 0x9f in Windows-1252, zero where there is none. -/
def windowsSpecials : List Nat := [
  0x20ac, 0, 0x201a, 0x192, 0x201e, 0x2026, 0x2020, 0x2021, 0x2c6, 0x2030, 0x160, 0x2039, 0x152, 0,
  0x17d, 0, 0, 0x2018, 0x2019, 0x201c, 0x201d, 0x2022, 0x2013, 0x2014, 0x2dc, 0x2122, 0x161, 0x203a,
  0x153, 0, 0x17e, 0x178]

/-- The character of a byte, or why there is none. -/
abbrev ByteReader := UInt8 → Except Reason Char

/-- A byte in ASCII. -/
def asciiChar? : ByteReader := fun byte =>
  if byte.toNat < 0x80 then .ok (Char.ofNat byte.toNat) else .error .notAscii

/-- A byte in Latin-1. -/
def latin1Char? : ByteReader := fun byte =>
  .ok (Char.ofNat byte.toNat)

/-- A byte in Windows-1252. -/
def windowsChar? : ByteReader := fun byte =>
  let n := byte.toNat
  if n < 0x80 || 0xa0 ≤ n then .ok (Char.ofNat n)
  else
    match windowsSpecials[n - 0x80]? with
    | some 0 | none => .error .undefinedByte
    | some code => .ok (Char.ofNat code)

/-- Reads bytes from a position on. -/
def decodeBytesFrom (codec : String) (read : ByteReader) (position : Nat) :
    List UInt8 → Except Error (List Char)
  | [] => .ok []
  | byte :: rest =>
    match read byte with
    | .ok c => (decodeBytesFrom codec read (position + 1) rest).map (c :: ·)
    | .error reason => .error ⟨codec, reason, position, [byte]⟩

/-- The byte of a character in ASCII. -/
def asciiByte? (c : Char) : Option UInt8 :=
  if c.toNat < 0x80 then some (UInt8.ofNat c.toNat) else none

/-- The byte of a character in Latin-1. -/
def latin1Byte? (c : Char) : Option UInt8 :=
  if c.toNat < 0x100 then some (UInt8.ofNat c.toNat) else none

/-- The byte of a character in Windows-1252. -/
def windowsByte? (c : Char) : Option UInt8 :=
  let n := c.toNat
  if n < 0x80 || (0xa0 ≤ n && n < 0x100) then some (UInt8.ofNat n)
  else
    match windowsSpecials.findIdx? (fun code => code == n && code != 0) with
    | some i => some (UInt8.ofNat (0x80 + i))
    | none => none

end ScriptReplay.Encoding
