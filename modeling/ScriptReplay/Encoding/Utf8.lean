import ScriptReplay.Encoding.Basic

/-!
# UTF-8

Characters as one to four bytes. Reading refuses every sequence that writing does not produce:
overlong forms, surrogates and code points past the last one. A refusal names the longest start of a
valid sequence that the bytes have.
-/

namespace ScriptReplay.Encoding

/-- A byte that continues a sequence. -/
def isContinuation (byte : UInt8) : Bool :=
  0x80 ≤ byte.toNat && byte.toNat < 0xc0

/-- The bytes of a character. -/
def utf8Bytes (c : Char) : List UInt8 :=
  let n := c.toNat
  if n < 0x80 then [UInt8.ofNat n]
  else if n < 0x800 then [UInt8.ofNat (0xc0 + n / 0x40), UInt8.ofNat (0x80 + n % 0x40)]
  else if n < 0x10000 then
    [UInt8.ofNat (0xe0 + n / 0x1000), UInt8.ofNat (0x80 + n / 0x40 % 0x40),
      UInt8.ofNat (0x80 + n % 0x40)]
  else
    [UInt8.ofNat (0xf0 + n / 0x40000), UInt8.ofNat (0x80 + n / 0x1000 % 0x40),
      UInt8.ofNat (0x80 + n / 0x40 % 0x40), UInt8.ofNat (0x80 + n % 0x40)]

/-- A text in UTF-8. -/
def encodeUtf8 (s : List Char) : List UInt8 :=
  s.flatMap utf8Bytes

/-- Whether a byte may follow the first byte of a sequence of three or four bytes. After four first
bytes only part of the continuation bytes can. -/
def isSecond (first second : UInt8) : Bool :=
  isContinuation second &&
    !(first.toNat == 0xe0 && second.toNat < 0xa0) &&
    !(first.toNat == 0xed && 0xa0 ≤ second.toNat) &&
    !(first.toNat == 0xf0 && second.toNat < 0x90) &&
    !(first.toNat == 0xf4 && 0x90 ≤ second.toNat)

/-- The six bits of a continuation byte. -/
def low6 (byte : UInt8) : Nat := byte.toNat - 0x80

/-- Reads bytes from a position on. -/
def decodeUtf8From (position : Nat) : List UInt8 → Except Error (List Char)
  | [] => .ok []
  | a :: rest =>
    let fail (reason : Reason) (bytes : List UInt8) : Except Error (List Char) :=
      .error ⟨"utf-8", reason, position, bytes⟩
    if a.toNat < 0x80 then
      (decodeUtf8From (position + 1) rest).map (Char.ofNat a.toNat :: ·)
    else if a.toNat < 0xc2 || 0xf5 ≤ a.toNat then fail .invalidStart [a]
    else if a.toNat < 0xe0 then
      match rest with
      | [] => fail .unexpectedEnd [a]
      | b :: rest =>
        if !isContinuation b then fail .invalidContinuation [a]
        else
          (decodeUtf8From (position + 2) rest).map
            (Char.ofNat ((a.toNat - 0xc0) * 0x40 + low6 b) :: ·)
    else
      match rest with
      | [] => fail .unexpectedEnd [a]
      | b :: rest =>
        if !isSecond a b then fail .invalidContinuation [a]
        else
          match rest with
          | [] => fail .unexpectedEnd [a, b]
          | c :: rest =>
            if !isContinuation c then fail .invalidContinuation [a, b]
            else if a.toNat < 0xf0 then
              (decodeUtf8From (position + 3) rest).map
                (Char.ofNat ((a.toNat - 0xe0) * 0x1000 + low6 b * 0x40 + low6 c) :: ·)
            else
              match rest with
              | [] => fail .unexpectedEnd [a, b, c]
              | d :: rest =>
                if !isContinuation d then fail .invalidContinuation [a, b, c]
                else
                  (decodeUtf8From (position + 4) rest).map
                    (Char.ofNat ((a.toNat - 0xf0) * 0x40000 + low6 b * 0x1000 + low6 c * 0x40
                      + low6 d) :: ·)

/-- The text that bytes in UTF-8 hold. -/
def decodeUtf8 (bytes : List UInt8) : Except Error (List Char) :=
  decodeUtf8From 0 bytes

end ScriptReplay.Encoding
