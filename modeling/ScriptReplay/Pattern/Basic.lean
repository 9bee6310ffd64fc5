/-!
# Patterns

The language in which a delimiter line is described: characters and sets of characters, sequences,
alternatives, repetitions, groups with references to them, and assertions about the place of the
match. A pattern is a tree of `Node`s; the letters that switch its way of comparing are already
resolved into the `Mode` of each node.
-/

namespace ScriptReplay.Pattern

/-- A class of characters with a letter of its own in the language. -/
inductive Category
  | digit
  | space
  | word
  deriving Repr, DecidableEq

/-- What a set of characters lists. Characters are given by code point, which may be one that no
character has. -/
inductive SetItem
  | single (code : Nat)
  | range (low high : Nat)
  | category (kind : Category) (negated : Bool)
  deriving Repr, DecidableEq

/-- How a part of a pattern reads and compares. -/
structure Mode where
  /-- Letters are compared without regard to case. -/
  ignoreCase : Bool := false
  /-- Categories and case know ASCII only. -/
  ascii : Bool := false
  /-- The dot matches a line feed too. -/
  dotAll : Bool := false
  /-- Line anchors hold at every line feed. -/
  multiline : Bool := false
  /-- White space and comments in the pattern are skipped. -/
  verbose : Bool := false
  deriving Repr, DecidableEq

/-- A condition on the place of a match. -/
inductive Anchor
  | lineStart
  | lineEnd
  | textStart
  | textEnd
  | boundary
  | noBoundary
  deriving Repr, DecidableEq

/-- Which number of rounds a repetition tries first, and whether it goes back on it. -/
inductive Greed
  | greedy
  | lazy
  | possessive
  deriving Repr, DecidableEq

/-- A pattern. -/
inductive Node
  | empty
  | char (mode : Mode) (negated : Bool) (items : List SetItem)
  | any (mode : Mode)
  | anchor (mode : Mode) (kind : Anchor)
  | cat (first second : Node)
  | alt (first second : Node)
  | group (index : Nat) (body : Node)
  | atomic (body : Node)
  | repeated (low : Nat) (high : Option Nat) (greed : Greed) (body : Node)
  | backref (mode : Mode) (index : Nat) (width : Nat × Nat)
  | look (behind negated : Bool) (body : Node)
  | conditional (index : Nat) (yes no : Node)
  deriving Repr, DecidableEq

/-- The first count that no repetition may reach, and the greatest width of a look-behind. -/
def repetitionLimit : Nat := 4294967295

/-- The width that stands for any number of characters. -/
def unboundedWidth : Nat := 18446744073709551616

namespace Node

/-- The least and greatest number of characters a pattern can match. -/
def width : Node → Nat × Nat
  | .empty | .anchor .. | .look .. => (0, 0)
  | .char .. | .any .. => (1, 1)
  | .cat a b => (a.width.1 + b.width.1, a.width.2 + b.width.2)
  | .alt a b => (min a.width.1 b.width.1, max a.width.2 b.width.2)
  | .group _ body | .atomic body => body.width
  | .repeated low high _ body =>
    let most := match high with
      | some high => body.width.2 * high
      | none => if body.width.2 = 0 then 0 else unboundedWidth
    (body.width.1 * low, most)
  | .backref _ _ w => w
  | .conditional _ yes no => (min yes.width.1 no.width.1, max yes.width.2 no.width.2)

/-- Whether every match has the same number of characters, as far as widths are told apart. -/
def fixedWidth (node : Node) : Bool :=
  min node.width.1 unboundedWidth == min node.width.2 unboundedWidth

/-- A sequence of patterns. -/
def ofSequence : List Node → Node
  | [] => .empty
  | [node] => node
  | node :: rest => .cat node (ofSequence rest)

end Node

end ScriptReplay.Pattern
