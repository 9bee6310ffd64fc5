import ScriptReplay.Encoding.RawEscape
import ScriptReplay.Encoding.SingleByte
import ScriptReplay.Encoding.Utf16
import ScriptReplay.Encoding.Utf8

/-!
# Reading and writing encoded text

`decode` is the text that bytes hold in an encoding, and `encode?` the bytes of a text, if the
encoding has all its characters.

A system knows more encodings than these. What it knows is a table of codecs, each found by its
names (`Codecs`), and `decodeNamed` reads with the codec of a name. Nothing about reading a script
depends on which table it is. The one that is there unless another is given (`Codecs.standard`) has
the encodings, the raw escapes, and the codec that refuses everything; to all other names it says
that they are unknown.
-/

namespace ScriptReplay.Encoding

/-- The text that bytes hold. -/
def decode : Encoding → List UInt8 → Except Error (List Char)
  | .utf8, bytes => decodeUtf8 bytes
  | .utf8Marked, bytes =>
    match bytes with
    | 0xef :: 0xbb :: 0xbf :: rest => decodeUtf8 rest
    | _ => decodeUtf8 bytes
  | .ascii, bytes => decodeBytesFrom "ascii" asciiChar? 0 bytes
  | .latin1, bytes => decodeBytesFrom "latin-1" latin1Char? 0 bytes
  | .windows1252, bytes => decodeBytesFrom "charmap" windowsChar? 0 bytes
  | .utf16, bytes => decodeUtf16Marked bytes
  | .utf16Little, bytes => decodeUtf16From .little 0 bytes
  | .utf16Big, bytes => decodeUtf16From .big 0 bytes

/-- The bytes of a text, if the encoding has all its characters. -/
def encode? : Encoding → List Char → Option (List UInt8)
  | .utf8, s => some (encodeUtf8 s)
  | .utf8Marked, s => some (0xef :: 0xbb :: 0xbf :: encodeUtf8 s)
  | .ascii, s => s.mapM asciiByte?
  | .latin1, s => s.mapM latin1Byte?
  | .windows1252, s => s.mapM windowsByte?
  | .utf16, s => some (0xff :: 0xfe :: encodeUtf16 .little s)
  | .utf16Little, s => some (encodeUtf16 .little s)
  | .utf16Big, s => some (encodeUtf16 .big s)

/-- Why bytes could not be read in the encoding of a given name. -/
inductive ReadError
  | codec (error : CodecError)
  | content (error : Error)
  deriving Repr, DecidableEq

/-- What reads bytes as text, and writes texts as bytes if it can. -/
structure Codec where
  read : List UInt8 → Except ReadError (List Char)
  write? : List Char → Option (List UInt8)

/-- The codec that reads with the given reader, whose refusals name the bytes. -/
def Codec.ofReader (read : List UInt8 → Except Error (List Char))
    (write? : List Char → Option (List UInt8)) : Codec where
  read bytes :=
    match read bytes with
    | .error error => .error (.content error)
    | .ok text => .ok text
  write? := write?

/-- The codec of an encoding. -/
def codec (encoding : Encoding) : Codec :=
  .ofReader encoding.decode encoding.encode?

/-- The codec of the raw escapes. -/
def rawEscapes : Codec :=
  .ofReader (decodeRawFrom 0 .none) fun text => some (text.flatMap rawBytes)

/-- The codec that neither reads nor writes anything; `name` is how it was asked for. -/
def undefinedCodec (name : String) : Codec where
  read _ := .error (.codec (.failed name "undefined encoding"))
  write? _ := none

/-- The codecs that a system has, each found by its names. -/
class Codecs where
  find : String → Except CodecError Codec

/-- The codecs of the encodings, the raw escapes, and the codec that refuses everything. -/
instance Codecs.standard : Codecs where
  find name :=
    let normal := normalizeName name
    if normal == "raw_unicode_escape" then .ok rawEscapes
    else if normal == "undefined" then .ok (undefinedCodec name)
    else (ofName? name).map codec

/-- The text that bytes hold in the encoding of a given name. The name is not looked up where there
is nothing to read, but a name with a NUL is never accepted. -/
def decodeNamed [Codecs] (name : String) (bytes : List UInt8) : Except ReadError (List Char) :=
  if name.toList.contains '\x00' then .error (.codec .holdsNul)
  else if bytes.isEmpty then .ok []
  else
    match Codecs.find name with
    | .error error => .error (.codec error)
    | .ok codec => codec.read bytes

end ScriptReplay.Encoding
