import ScriptReplay.Config
import ScriptReplay.Digest
import ScriptReplay.Script.Basic
import ScriptReplay.Script.Read
import ScriptReplay.Splitter.Notices

/-!
# Loading scripts

`load` reads a script file and splits it. `select` finds the script files of a directory that match
a glob, in the order of their names, which is the order in which scripts are replayed; `loadAll`
loads them one after another and ends at the first that cannot be loaded.
-/

namespace ScriptReplay.Script

open Encoding (Codecs)

/-- A script as it was loaded, with what was said meanwhile. -/
structure Loaded where
  script : Script
  notices : List Log.Notice

/-- The checksum of a script's text: the MD5 digest of its UTF-8 form. -/
def checksumOf (text : List Char) : String :=
  Digest.hex (Digest.md5 (Encoding.encodeUtf8 text))

/-- The note that a script was loaded. -/
def loadNotice (script : Script) : Log.Notice :=
  { logger := Log.partName "loader"
    level := .debug
    message := "Loaded " ++ Text.decimalString script.size ++ " statements from " ++ script.path }

/-- The script that a text gives, under a path it was read from. -/
def ofText (config : Config) (path : String) (text : List Char) : Script :=
  { path := path
    database := config.database
    statements := (config.splitter (some .forScript)).split
      ((Text.fileLines text).map String.ofList)
    checksum := checksumOf text }

/-- What is said when a text is split and taken for a script. -/
def noticesOfText (config : Config) (path : String) (text : List Char) : List Log.Notice :=
  (config.splitter (some .forScript)).notices ((Text.fileLines text).map String.ofList)
    ++ [loadNotice (ofText config path text)]

/-- Reads and splits a script file. -/
def load [Codecs] (tree : FileTree) (config : Config) (path : String) : Except Fault Loaded := do
  let text ← readChars tree path config.encoding
  return ⟨ofText config path text, noticesOfText config path text⟩

/-- The script in a file. -/
def ofFile [Codecs] (tree : FileTree) (config : Config) (path : String) : Except Fault Script := do
  return (← load tree config path).script

/-- The statements of a script file. -/
def statementsOfFile [Codecs] (tree : FileTree) (database : Database) (path encoding : String) :
    Except Fault (List String) := do
  return (← ofFile tree { database, encoding } path).statements

/-- The glob that selects the scripts of a directory unless another is asked for. -/
def defaultGlob : String := "*.sql"

/-- Whether a path leads to a file. -/
def isFile (tree : FileTree) (path : Path) : Except Fault Bool :=
  match tree.entry? path with
  | .ok (some (.file _)) => .ok true
  | .ok _ => .ok false
  | .error error => .error (.system error)

/-- Puts paths into the order of their names, where paths of one name keep their order. -/
def sortByName (paths : List Path) : List Path :=
  paths.mergeSort fun a b => !decide (b.name < a.name)

/-- The script files below a directory that a glob selects, in the order of their names. -/
def select (tree : FileTree) (directory glob : String) : Except Fault (List Path) := do
  let base := Path.ofString directory
  match tree.entry? base with
  | .error error => throw (.system error)
  | .ok (some .directory) =>
    match Glob.ofString? glob with
    | .error error => throw (.glob error)
    | .ok glob =>
      match glob.select tree base with
      | .error error => throw (.system error)
      | .ok paths => return sortByName (← paths.filterM (isFile tree))
  | .ok _ => throw (.report (.missingFile base.toString) none)

/-- The scripts of a directory that a glob selects, in the order of their file names. -/
def loadAll [Codecs] (tree : FileTree) (config : Config) (directory glob : String) :
    Except Fault (List Script) := do
  (← select tree directory glob).mapM fun path => ofFile tree config path.toString

end ScriptReplay.Script
