import Mathlib.Data.List.Infix
import ScriptReplay.Delimiter
import ScriptReplay.Proofs.Text.Pieces
import ScriptReplay.Proofs.Text.UpperCase

/-!
# The semicolon as a delimiter

The standard delimiter in plain terms: it matches the line of one semicolon, occurs in the lines
that hold a semicolon, and cuts a line at each of them.
-/

namespace ScriptReplay.Delimiter

variable {line : List Char}

theorem literal_standard : standard.literal = [';'] := by decide

theorem matchesWhole_standard_iff {text : List Char} :
    standard.node.matchesWhole text = true ↔ text = [';'] := by
  match text with
  | [] => decide
  | c :: rest =>
    have hsemicolon : c.toNat = 59 ↔ c = ';' := Char.toNat_inj (d := ';')
    simp only [standard, Pattern.Node.matchesWhole, Pattern.Node.run, Pattern.SetItem.holdsIn,
      Pattern.SetItem.holds, Pattern.Cursor.forward, List.any_cons, List.any_nil, List.cons.injEq]
    by_cases hc : c = ';' <;> by_cases hrest : rest = [] <;> simp [hsemicolon, hc, hrest]

theorem isLine_standard_iff : standard.isLine line = true ↔ line = [';'] := by
  rw [isLine, matchesWhole_standard_iff, Text.upper_eq_singleton_iff (by decide) (by decide)]

theorem occursIn_standard_iff : standard.occursIn line = true ↔ ';' ∈ line := by
  rw [occursIn, literal_standard, Text.occurs_iff, List.singleton_infix_iff]

theorem isLine_standard_eq_false (h : line ≠ [';']) : standard.isLine line = false := by
  rw [← Bool.not_eq_true, isLine_standard_iff]
  exact h

theorem occursIn_standard_eq_false (h : ';' ∉ line) : standard.occursIn line = false := by
  rw [← Bool.not_eq_true, occursIn_standard_iff]
  exact h

theorem fragments_standard : standard.fragments line = Text.dropEmptyTail (line.splitOn ';') := by
  rw [fragments, literal_standard, Text.fragments, Text.cut_singleton]

end ScriptReplay.Delimiter
