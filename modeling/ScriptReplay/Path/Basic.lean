/-!
# Paths

A path is a root, which is empty for a relative path, and the names below it. Empty names and names
that are a single dot say nothing and are dropped when a text is read; a name of two dots is kept.
-/

namespace ScriptReplay

/-- Where a path begins. -/
inductive Path.Root
  | relative
  | slash
  | doubleSlash
  deriving Repr, DecidableEq

/-- A path in its normal form. -/
structure Path where
  root : Path.Root
  parts : List String
  deriving Repr, DecidableEq

namespace Path

/-- The parts of a text between slashes. -/
def splitSlashes : List Char → List (List Char)
  | [] => [[]]
  | c :: rest =>
    if c = '/' then [] :: splitSlashes rest
    else
      match splitSlashes rest with
      | [] => [[c]]
      | part :: parts => (c :: part) :: parts

/-- The root that a text begins with. Two slashes at the start are a root of their own, three or
more are the same as one. -/
def rootOf : List Char → Root
  | '/' :: '/' :: '/' :: _ => .slash
  | '/' :: '/' :: _ => .doubleSlash
  | '/' :: _ => .slash
  | _ => .relative

/-- The path that a text names. -/
def ofString (text : String) : Path :=
  let chars := text.toList
  ⟨rootOf chars,
    ((splitSlashes chars).filter fun part => !(part.isEmpty || part == ['.'])).map String.ofList⟩

/-- The text of a path's root. -/
def Root.text : Root → String
  | .relative => ""
  | .slash => "/"
  | .doubleSlash => "//"

/-- The text of a path; the empty relative path is a dot. -/
def toString (path : Path) : String :=
  let text := path.root.text ++ "/".intercalate path.parts
  if text.isEmpty then "." else text

/-- The last name of a path, empty if there is none. -/
def name (path : Path) : String :=
  path.parts.getLast?.getD ""

/-- A text that can stand between slashes and is kept when a path is read. -/
def IsName (name : String) : Prop :=
  name ≠ "" ∧ name ≠ "." ∧ '/' ∉ name.toList

instance : DecidablePred IsName := fun _ => inferInstanceAs (Decidable (_ ∧ _ ∧ _))

/-- The path of an entry of a directory. -/
def child (path : Path) (name : String) : Path :=
  { path with parts := path.parts ++ [name] }

end Path

end ScriptReplay
