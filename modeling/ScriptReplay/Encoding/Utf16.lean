import ScriptReplay.Encoding.Basic

/-!
# UTF-16

Characters as one or two units of two bytes. A character past U+FFFF is a pair of units, the first
from the high half and the second from the low half of the surrogates.
-/

namespace ScriptReplay.Encoding

/-- Which byte of a unit comes first. -/
inductive ByteOrder
  | little
  | big
  deriving Repr, DecidableEq

/-- The name of the encoding with a byte order, for messages. -/
def ByteOrder.codec : ByteOrder → String
  | .little => "utf-16-le"
  | .big => "utf-16-be"

/-- The bytes of a unit. -/
def ByteOrder.bytes (order : ByteOrder) (unit : Nat) : List UInt8 :=
  match order with
  | .little => [UInt8.ofNat (unit % 0x100), UInt8.ofNat (unit / 0x100)]
  | .big => [UInt8.ofNat (unit / 0x100), UInt8.ofNat (unit % 0x100)]

/-- The unit of two bytes. -/
def ByteOrder.unit (order : ByteOrder) (first second : UInt8) : Nat :=
  match order with
  | .little => second.toNat * 0x100 + first.toNat
  | .big => first.toNat * 0x100 + second.toNat

/-- The units of a character. -/
def utf16Units (c : Char) : List Nat :=
  let n := c.toNat
  if n < 0x10000 then [n]
  else [0xd800 + (n - 0x10000) / 0x400, 0xdc00 + (n - 0x10000) % 0x400]

/-- A text in UTF-16 without a byte order mark. -/
def encodeUtf16 (order : ByteOrder) (s : List Char) : List UInt8 :=
  s.flatMap fun c => (utf16Units c).flatMap order.bytes

/-- Reads bytes from a position on. -/
def decodeUtf16From (order : ByteOrder) (position : Nat) : List UInt8 → Except Error (List Char)
  | [] => .ok []
  | [a] => .error ⟨order.codec, .truncated, position, [a]⟩
  | a :: b :: rest =>
    let unit := order.unit a b
    if unit < 0xd800 || 0xe000 ≤ unit then
      (decodeUtf16From order (position + 2) rest).map (Char.ofNat unit :: ·)
    else if 0xdc00 ≤ unit then .error ⟨order.codec, .illegalEncoding, position, [a, b]⟩
    else
      match rest with
      | c :: d :: rest =>
        let low := order.unit c d
        if 0xdc00 ≤ low && low < 0xe000 then
          (decodeUtf16From order (position + 4) rest).map
            (Char.ofNat (0x10000 + (unit - 0xd800) * 0x400 + (low - 0xdc00)) :: ·)
        else .error ⟨order.codec, .illegalSurrogate, position, [a, b]⟩
      | short => .error ⟨order.codec, .unexpectedEnd, position, a :: b :: short⟩

/-- The text that bytes in UTF-16 hold; a byte order mark decides the order and is dropped. -/
def decodeUtf16Marked (bytes : List UInt8) : Except Error (List Char) :=
  match bytes with
  | a :: b :: rest =>
    if a.toNat == 0xff && b.toNat == 0xfe then decodeUtf16From .little 2 rest
    else if a.toNat == 0xfe && b.toNat == 0xff then decodeUtf16From .big 2 rest
    else decodeUtf16From .little 0 bytes
  | _ => decodeUtf16From .little 0 bytes

end ScriptReplay.Encoding
