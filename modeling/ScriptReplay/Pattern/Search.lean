import ScriptReplay.Pattern.Matcher

/-!
# Searching for a pattern

All places of a text that a pattern matches, from left to right without overlap, and what its groups
capture there.
-/

namespace ScriptReplay.Pattern

namespace Node

/-- The places where matches end, from a place on, with the groups captured in each. Every step goes at
least one character on, so `fuel` need not be more than their number. -/
def matchesFrom (node : Node) : Nat → Cursor → List Cursor
  | 0, _ => []
  | fuel + 1, cursor =>
    match node.run { cursor with captures := [] } some with
    | some next =>
      if next.after.length < cursor.after.length then next :: node.matchesFrom fuel next
      else if cursor.after.isEmpty then [next]
      else next :: node.matchesFrom fuel (cursor.forward 1)
    | none =>
      if cursor.after.isEmpty then [] else node.matchesFrom fuel (cursor.forward 1)

/-- The stretches of a text that are captured by the groups of a pattern wherever it matches: the
place where each starts and the one where it stops. -/
def stretches (node : Node) (text : List Char) : List (Nat × Nat) :=
  (node.matchesFrom (text.length + 1) ⟨[], text, []⟩).flatMap fun cursor =>
    (cursor.captures.map fun (_, capture) =>
      (capture.start, capture.start + capture.text.length)).filter fun (start, stop) =>
        start < stop

end Node

end ScriptReplay.Pattern
