import ScriptReplay.Text.Numeral
import ScriptReplay.Text.Quoted

/-!
# Text encodings

Encodings that a script file may be stored in, the names by which they are known, and why bytes
cannot be read.
-/

namespace ScriptReplay

/-- A text encoding. -/
inductive Encoding
  | utf8
  /-- UTF-8 with a byte order mark in front. -/
  | utf8Marked
  | ascii
  | latin1
  | windows1252
  /-- UTF-16 with a byte order mark in front; without one, the low byte comes first. -/
  | utf16
  | utf16Little
  | utf16Big
  deriving Repr, DecidableEq

namespace Encoding

/-- Why bytes cannot be read. An encoding may have words of its own for it. -/
inductive Reason
  | invalidStart
  | invalidContinuation
  | unexpectedEnd
  | notAscii
  | undefinedByte
  | truncated
  | illegalEncoding
  | illegalSurrogate
  | truncatedEscape
  | truncatedLongEscape
  | escapeOutOfRange
  | other (words : String)
  deriving Repr, DecidableEq

/-- The words for a reason. -/
def Reason.text : Reason → String
  | .invalidStart => "invalid start byte"
  | .invalidContinuation => "invalid continuation byte"
  | .unexpectedEnd => "unexpected end of data"
  | .notAscii => "ordinal not in range(128)"
  | .undefinedByte => "character maps to <undefined>"
  | .truncated => "truncated data"
  | .illegalEncoding => "illegal encoding"
  | .illegalSurrogate => "illegal UTF-16 surrogate"
  | .truncatedEscape => "truncated \\uXXXX escape"
  | .truncatedLongEscape => "truncated \\UXXXXXXXX escape"
  | .escapeOutOfRange => "\\Uxxxxxxxx out of range"
  | .other words => words

/-- Bytes that cannot be read: where they begin and which they are. -/
structure Error where
  codec : String
  reason : Reason
  position : Nat
  bytes : List UInt8
  deriving Repr, DecidableEq

/-- The message for bytes that cannot be read. -/
def Error.message (error : Error) : String :=
  let place := match error.bytes with
    | [byte] =>
      "byte 0x" ++ String.ofList (Text.hexPadded 2 byte.toNat) ++ " in position "
        ++ Text.decimalString error.position
    | bytes =>
      "bytes in position " ++ Text.decimalString error.position ++ "-"
        ++ Text.decimalString (error.position + bytes.length - 1)
  "'" ++ error.codec ++ "' codec can't decode " ++ place ++ ": " ++ error.reason.text

/-- Why there is no text where no bytes are to blame: a name names no text encoding, or the codec
that it names fails as a whole. -/
inductive CodecError
  | unknown (name : String)
  | notText (name : String)
  | holdsNul
  | failed (name words : String)
  deriving Repr, DecidableEq

/-- The message for it. -/
def CodecError.message : CodecError → String
  | .unknown name => "unknown encoding: " ++ name
  | .notText name =>
    "'" ++ name ++ "' is not a text encoding; use codecs.decode() to handle arbitrary codecs"
  | .holdsNul => "embedded null character"
  | .failed name words =>
    "decoding with '" ++ name ++ "' codec failed (UnicodeError: " ++ words ++ ")"

/-- A name with letters in lower case and every run of other characters than letters, digits and
dots as one underscore, none at the start and the end. -/
def normalizeFrom (started gap : Bool) : List Char → List Char
  | [] => []
  | c :: rest =>
    if c.isAlphanum || c == '.' then
      (if gap && started then ['_'] else []) ++ c.toLower :: normalizeFrom true false rest
    else normalizeFrom started true rest

/-- The form in which names of encodings are compared. -/
def normalizeName (name : String) : String :=
  String.ofList (normalizeFrom false false name.toList)

/-- The names of the encodings, in normal form. -/
def names : List (Encoding × List String) := [
  (.utf8, ["utf_8", "utf8", "u8", "utf", "utf8_ucs2", "utf8_ucs4", "cp65001"]),
  (.utf8Marked, ["utf_8_sig"]),
  (.ascii, ["ascii", "us_ascii", "646", "ansi_x3.4_1968", "ansi_x3_4_1968", "ansi_x3.4_1986",
    "cp367", "csascii", "ibm367", "iso646_us", "iso_646.irv_1991", "iso_ir_6", "us"]),
  (.latin1, ["latin_1", "latin1", "iso_8859_1", "iso8859_1", "8859", "cp819", "csisolatin1",
    "ibm819", "iso8859", "iso_8859_1_1987", "iso_ir_100", "l1", "latin"]),
  (.windows1252, ["cp1252", "1252", "windows_1252"]),
  (.utf16, ["utf_16", "utf16", "u16"]),
  (.utf16Little, ["utf_16_le", "utf_16le", "unicodelittleunmarked"]),
  (.utf16Big, ["utf_16_be", "utf_16be", "unicodebigunmarked"])]

/-- Names of encodings of bytes as bytes and of text as text, in normal form. -/
def otherNames : List String := [
  "rot13", "rot_13", "hex", "hex_codec", "base64", "base_64", "base64_codec", "bz2", "bz2_codec",
  "zlib", "zip", "zlib_codec", "quopri", "quopri_codec", "quoted_printable", "quotedprintable",
  "uu", "uu_codec"]

/-- The encoding that a name stands for. -/
def ofName? (name : String) : Except CodecError Encoding :=
  let normal := normalizeName name
  match names.find? fun (_, known) => known.contains normal with
  | some (encoding, _) => .ok encoding
  | none => .error (if otherNames.contains normal then .notText name else .unknown name)

end Encoding

end ScriptReplay
