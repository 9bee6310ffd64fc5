import ScriptReplay.Pattern.Basic
import ScriptReplay.Pattern.Error

/-!
# Reading a pattern token by token

The text of a pattern is a list of tokens: single characters and a backslash with the character
after it. `Source` is what is left of it, together with what has been learnt about its groups.
`Reader` is a step of reading, which may fail. A backslash that ends the text is a fault as soon as
it comes into view.
-/

namespace ScriptReplay.Pattern

/-- A token of a pattern's text. -/
inductive Token
  | char (c : Char)
  | escape (c : Char)
  | dangling
  deriving Repr, DecidableEq

namespace Token

/-- The token as it is written. -/
def text : Token → List Char
  | .char c => [c]
  | .escape c => ['\\', c]
  | .dangling => ['\\']

/-- The number of characters of a token. -/
def width (token : Token) : Nat := token.text.length

/-- The tokens of a text. -/
def ofText : List Char → List Token
  | [] => []
  | ['\\'] => [.dangling]
  | '\\' :: c :: rest => .escape c :: ofText rest
  | c :: rest => .char c :: ofText rest

end Token

/-- A pattern's text from some position on, and the groups met before it. -/
structure Source where
  rest : List Token
  position : Nat := 0
  /-- The mode that holds for the whole pattern. -/
  mode : Mode := {}
  /-- The whole pattern was asked to know Unicode, and so must not be asked to know ASCII only. -/
  unicode : Bool := false
  /-- The whole pattern was asked to be a template, which may hold no repetitions. -/
  template : Bool := false
  /-- The index of the next group. -/
  groups : Nat := 1
  names : List (String × Nat) := []
  /-- The closed groups with their widths. -/
  closed : List (Nat × (Nat × Nat)) := []
  /-- Inside a look-behind: the index that its first group would get. -/
  lookBehind : Option Nat := none
  /-- Groups that conditionals asked for by number, each with the first place. -/
  conditions : List (Nat × Nat) := []

/-- A step of reading a pattern. -/
abbrev Reader := StateT Source (Except Fault)

namespace Reader

/-- Fails for a cause at a position. -/
def failAt {α : Type} (cause : Cause) (position : Nat) : Reader α :=
  throw (.invalid ⟨cause, some position⟩)

/-- The position of the token in view. -/
def position : Reader Nat := do
  return (← get).position

/-- Fails for a cause at the position of the token in view. -/
def fail {α : Type} (cause : Cause) : Reader α := do
  failAt cause (← position)

/-- The token in view. -/
def peek : Reader (Option Token) := do
  return (← get).rest.head?

/-- Goes on to the next token. -/
def advance : Reader Unit := do
  let source ← get
  match source.rest with
  | [] => pure ()
  | token :: rest =>
    let position := source.position + token.width
    match rest with
    | .dangling :: _ => failAt .danglingEscape position
    | _ => set { source with rest := rest, position := position }

/-- Takes the token in view. -/
def next? : Reader (Option Token) := do
  let token ← peek
  advance
  return token

/-- Takes the token in view if it is the given character. -/
def accept (c : Char) : Reader Bool := do
  if (← peek) == some (.char c) then
    advance
    return true
  else
    return false

/-- Takes at most so many characters of a class. -/
def takeChars (class? : Char → Bool) : Nat → Reader (List Char)
  | 0 => return []
  | limit + 1 => do
    match ← peek with
    | some (.char c) =>
      if class? c then
        advance
        return c :: (← takeChars class? limit)
      else
        return []
    | _ => return []

/-- The number of tokens left. -/
def left : Reader Nat := do
  return (← get).rest.length

/-- The text up to a terminator, which is taken too; `what` names it if it is missing. -/
def takeNameFrom (terminator : Char) (what : String) (soFar : List Char) : Nat → Reader (List Char)
  | 0 =>
    if soFar.isEmpty then fail (.missingName what)
    else do failAt (.unterminatedName terminator) ((← position) - soFar.length)
  | limit + 1 => do
    match ← next? with
    | none => takeNameFrom terminator what soFar 0
    | some token =>
      if token == .char terminator then
        if soFar.isEmpty then failAt (.missingName what) ((← position) - 1)
        else return soFar
      else
        takeNameFrom terminator what (soFar ++ token.text) limit

/-- The text up to a terminator, which is taken too; `what` names it if it is missing. -/
def takeName (terminator : Char) (what : String) : Reader (List Char) := do
  takeNameFrom terminator what [] ((← left) + 1)

/-- Whether the group is closed. -/
def isClosed (index : Nat) : Reader Bool := do
  let source ← get
  return index < source.groups && (source.closed.lookup index).isSome

/-- Refuses a reference from inside a look-behind to a group that it opened itself or that is not
closed. -/
def checkLookBehind (index : Nat) : Reader Unit := do
  match (← get).lookBehind with
  | none => pure ()
  | some first =>
    if !(← isClosed index) then fail .openGroup
    else if first ≤ index then fail .groupOfSameLookBehind
    else pure ()

/-- Opens a group and gives its index. A name may be used once. -/
def openGroup (name : Option String) : Reader Nat := do
  let source ← get
  let index := source.groups
  match name with
  | none => set { source with groups := index + 1 }
  | some name =>
    match source.names.lookup name with
    | some first =>
      failAt (.redefinedGroup name index first) (source.position - (name.length + 1))
    | none =>
      set { source with groups := index + 1, names := (name, index) :: source.names }
  return index

/-- Closes a group, whose body has the given width. -/
def closeGroup (index : Nat) (width : Nat × Nat) : Reader Unit :=
  modify fun source => { source with closed := (index, width) :: source.closed }

/-- The width of a closed group. -/
def groupWidth (index : Nat) : Reader (Nat × Nat) := do
  return ((← get).closed.lookup index).getD (0, 0)

end Reader

end ScriptReplay.Pattern
