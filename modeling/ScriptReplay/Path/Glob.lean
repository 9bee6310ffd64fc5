import ScriptReplay.Path.Tree

/-!
# Globs

A glob selects paths below a directory. Its components are names, patterns of names with `*`, `?` and
sets in brackets, and `**` for the directory and all directories below. A glob that ends with a slash
selects directories only.
-/

namespace ScriptReplay.Glob

/-- Why a text is no glob. -/
inductive Error
  | empty
  | absolute
  | partialDoubleStar
  | noComponent
  | onlySlash
  deriving Repr, DecidableEq

/-- The message for a text that is no glob. -/
def Error.message : Error → String
  | .empty => "Unacceptable pattern: ''"
  | .absolute => "Non-relative patterns are unsupported"
  | .partialDoubleStar => "Invalid pattern: '**' can only be an entire path component"
  | .noComponent => "tuple index out of range"
  | .onlySlash => "'_TerminatingSelector' object has no attribute 'select_from'"

/-- What a set of characters in brackets lists. -/
inductive SetItem
  | single (c : Char)
  | range (low high : Char)
  deriving Repr, DecidableEq

/-- A part of a pattern of names. -/
inductive Part
  | literal (c : Char)
  | anyOne
  | anyText
  | set (negated : Bool) (items : List SetItem)
  deriving Repr, DecidableEq

/-- The hyphen-separated chunks of a set's text. A hyphen makes a range only if there is a character
on both sides that no other range uses. -/
def chunks (current : List Char) : Nat → List Char → List (List Char)
  | _, [] => [current]
  | held + 1, c :: rest => chunks (current ++ [c]) held rest
  | 0, c :: rest =>
    if c = '-' then current :: chunks [] 2 rest else chunks (current ++ [c]) 0 rest

/-- Puts a hyphen that ends the text back into the last chunk. -/
def mendLast : List (List Char) → List (List Char)
  | [] => []
  | [chunk] => [chunk]
  | [chunk, []] => [chunk ++ ['-']]
  | chunk :: rest => chunk :: mendLast rest

/-- Joins chunks whose range would be empty, dropping the two characters of that range. -/
def dropEmptyRanges : List (List Char) → List (List Char)
  | [] => []
  | chunk :: rest =>
    match dropEmptyRanges rest with
    | [] => [chunk]
    | next :: others =>
      match chunk.getLast?, next.head? with
      | some low, some high =>
        if high < low then (chunk.dropLast ++ next.tail) :: others else chunk :: next :: others
      | _, _ => chunk :: next :: others

/-- A character of a set's text, or the hyphen between two chunks. -/
inductive SetToken
  | char (c : Char)
  | hyphen
  deriving Repr, DecidableEq

/-- The chunks as one sequence. -/
def joinChunks : List (List Char) → List SetToken
  | [] => []
  | [chunk] => chunk.map .char
  | chunk :: rest => chunk.map .char ++ .hyphen :: joinChunks rest

/-- The items of a set. -/
def itemsOf : List SetToken → List SetItem
  | [] => []
  | .char low :: .hyphen :: .char high :: rest => .range low high :: itemsOf rest
  | .char c :: rest => .single c :: itemsOf rest
  | .hyphen :: rest => .single '-' :: itemsOf rest

/-- The set that a text in brackets lists. A set that lists nothing matches no character, and its
negation every one. -/
def setOf (text : List Char) : Part :=
  let tokens :=
    if text.contains '-' then
      joinChunks (dropEmptyRanges (mendLast (chunks [] (if text.head? == some '!' then 2 else 1) text)))
    else text.map .char
  match tokens with
  | .char '!' :: rest => .set true (itemsOf rest)
  | tokens => .set false (itemsOf tokens)

/-- The text up to the bracket that closes a set, and what follows it. A closing bracket that comes
first, or first behind an exclamation mark, belongs to the set. -/
def untilBracket (text : List Char) : Option (List Char × List Char) :=
  let (start, rest) := match text with
    | '!' :: ']' :: rest => (['!', ']'], rest)
    | '!' :: rest => (['!'], rest)
    | ']' :: rest => ([']'], rest)
    | rest => ([], rest)
  match rest.dropWhile (· ≠ ']') with
  | [] => none
  | _ :: after => some (start ++ rest.takeWhile (· ≠ ']'), after)

/-- The parts of a pattern of names, of which `fuel` bounds the number. -/
def partsWithin : Nat → List Char → List Part
  | 0, _ => []
  | _, [] => []
  | fuel + 1, '*' :: rest => .anyText :: partsWithin fuel rest
  | fuel + 1, '?' :: rest => .anyOne :: partsWithin fuel rest
  | fuel + 1, '[' :: rest =>
    match untilBracket rest with
    | none => .literal '[' :: partsWithin fuel rest
    | some (set, after) => setOf set :: partsWithin fuel after
  | fuel + 1, c :: rest => .literal c :: partsWithin fuel rest

/-- The parts of a pattern of names. -/
def partsOf (pattern : List Char) : List Part :=
  partsWithin pattern.length pattern

/-- Whether a set lists a character. -/
def SetItem.holds (c : Char) : SetItem → Bool
  | .single d => c == d
  | .range low high => low ≤ c && c ≤ high

/-- Whether some way to match the rest of a name succeeds after any number of its characters. -/
def afterAnyText (rest : List Char → Bool) : List Char → Bool
  | [] => rest []
  | c :: cs => rest (c :: cs) || afterAnyText rest cs

/-- Whether a pattern matches a whole name. -/
def matchesName : List Part → List Char → Bool
  | [], name => name.isEmpty
  | .anyText :: parts, name => afterAnyText (matchesName parts) name
  | .literal c :: parts, d :: name => c == d && matchesName parts name
  | .anyOne :: parts, _ :: name => matchesName parts name
  | .set negated items :: parts, d :: name =>
    items.any (·.holds d) != negated && matchesName parts name
  | _ :: _, [] => false

/-- A component of a glob. -/
inductive Component
  | name (name : String)
  | wildcard (parts : List Part)
  | everywhere
  deriving Repr, DecidableEq

/-- Whether two stars stand side by side in a text. -/
def holdsDoubleStar : List Char → Bool
  | '*' :: '*' :: _ => true
  | _ :: rest => holdsDoubleStar rest
  | [] => false

/-- The component that a text between slashes gives. -/
def componentOf (text : String) : Except Error Component :=
  let chars := text.toList
  if chars == ['*', '*'] then .ok .everywhere
  else if holdsDoubleStar chars then .error .partialDoubleStar
  else if chars.any fun c => c == '*' || c == '?' || c == '[' then .ok (.wildcard (partsOf chars))
  else .ok (.name text)

end Glob

/-- A glob: its components, and whether it selects directories only. -/
structure Glob where
  components : List Glob.Component
  directoriesOnly : Bool
  deriving Repr, DecidableEq

namespace Glob

/-- The glob that a text spells. -/
def ofString? (text : String) : Except Error Glob :=
  if text.isEmpty then .error .empty
  else
    let path := Path.ofString text
    if path.root ≠ .relative then .error .absolute
    else
      let slash := text.toList.getLast? == some '/'
      match path.parts.mapM componentOf with
      | .error error => .error error
      | .ok [] => .error (if slash then .onlySlash else .noComponent)
      | .ok components => .ok ⟨components, slash⟩

/-- Joins what a selection gives for each of several paths. -/
def gather (select : Path → Except SystemError (List Path)) (paths : List Path) :
    Except SystemError (List Path) := do
  return (← paths.mapM select).flatten

/-- The paths that components select below a directory. Before the last component, and at it if only
directories count, a name has to lead to a directory. -/
def selectFrom (tree : FileTree) (directoriesOnly : Bool) :
    List Component → Path → Except SystemError (List Path)
  | [], path => .ok [path]
  | .name name :: rest, path => do
    let next := path.child name
    match ← tree.entry? next with
    | none => return []
    | some .directory => selectFrom tree directoriesOnly rest next
    | some (.file _) =>
      if directoriesOnly || !rest.isEmpty then return []
      else selectFrom tree directoriesOnly rest next
  | .wildcard parts :: rest, path => do
    let found := ((tree.names path).filter fun name => matchesName parts name.toList).map path.child
    let kept ← found.filterM fun next => do
      match ← tree.entry? next with
      | some .directory => return true
      | _ => return !(directoriesOnly || !rest.isEmpty)
    gather (selectFrom tree directoriesOnly rest) kept
  | .everywhere :: rest, path => do
    let places := path :: (tree.directoriesBelow path).map fun names =>
      { path with parts := path.parts ++ names }
    return (← gather (selectFrom tree directoriesOnly rest) places).eraseDups

/-- The paths that a glob selects below a directory. -/
def select (glob : Glob) (tree : FileTree) (directory : Path) : Except SystemError (List Path) :=
  selectFrom tree glob.directoriesOnly glob.components directory

end ScriptReplay.Glob
