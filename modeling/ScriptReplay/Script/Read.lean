import ScriptReplay.Fault
import ScriptReplay.Text.LineBreak

/-!
# Reading script files

The text of a script file, with its line endings as they are, and the lines of that text.
-/

namespace ScriptReplay.Script

open Encoding (Codecs)

/-- The fault of a path that the file system refuses. -/
def refusal (path : String) (error : SystemError) : Fault :=
  match error.reason with
  | .notFound => .report (.missingFile path) (some (.system error))
  | _ => .report (.unreadableFile path (some error.message)) (some (.system error))

/-- The fault of a file whose bytes are no text in the encoding of the given name. Where no bytes
are to blame, because the name names no encoding or its codec fails, that is passed on as it is. -/
def garble (path : String) : Encoding.ReadError → Fault
  | .codec error => .encodingName error
  | .content error =>
    .report (.unreadableFile path (some error.message)) (some (.content error))

/-- The characters of a script file. -/
def readChars [Codecs] (tree : FileTree) (path encoding : String) : Except Fault (List Char) := do
  let place := Path.ofString path
  if FileTree.holdsNul place then throw .nulInPath
  match tree.read place with
  | .error error => throw (refusal path error)
  | .ok bytes =>
    match Encoding.decodeNamed encoding bytes with
    | .error error => throw (garble path error)
    | .ok text => return text

/-- The text of a script file. -/
def readText [Codecs] (tree : FileTree) (path encoding : String) : Except Fault String := do
  return String.ofList (← readChars tree path encoding)

/-- The lines of a script file. -/
def readLines [Codecs] (tree : FileTree) (path encoding : String) : Except Fault (List String) := do
  return (Text.fileLines (← readChars tree path encoding)).map String.ofList

end ScriptReplay.Script
