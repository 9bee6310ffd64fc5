import ScriptReplay.Proofs.Text.Pieces

/-!
# Taking a literal out of a text

`without sep s` is the text without the occurrences of `sep`, found from left to right without
overlap. The fragments of a text put together again are the text without its separators
(`flatten_fragments`), whatever the separator is.
-/

namespace ScriptReplay.Text

/-- The text without the occurrences of `sep`, found from left to right without overlap. An empty
literal takes nothing out. -/
def without (sep : List Char) : List Char → List Char
  | [] => []
  | c :: rest =>
    if sep ≠ [] ∧ sep <+: c :: rest then without sep ((c :: rest).drop sep.length)
    else c :: without sep rest
termination_by s => s.length
decreasing_by
  · next h =>
    have hpos : 0 < sep.length := List.length_pos_iff.2 h.1
    simp only [List.length_drop, List.length_cons]
    omega
  · exact Nat.lt_succ_self _

variable {sep s : List Char}

theorem without_cons {c : Char} (h : ¬ (sep ≠ [] ∧ sep <+: c :: s)) :
    without sep (c :: s) = c :: without sep s := by
  rw [without, if_neg h]

theorem without_nil_left (s : List Char) : without [] s = s := by
  induction s with
  | nil => rw [without]
  | cons c s ih => rw [without_cons (by simp), ih]

theorem flatten_consHead (c : Char) (pieces : List (List Char)) :
    (consHead c pieces).flatten = c :: pieces.flatten := by
  cases pieces <;> rfl

theorem flatten_cut (sep s : List Char) : (cut sep s).flatten = without sep s := by
  by_cases hsep : sep = []
  · subst hsep
    rw [without_nil_left]
    simp [cut, ← List.flatMap_def]
  · fun_induction without sep s with
    | case1 => rw [cut_nil hsep]; rfl
    | case2 c rest h ih =>
      obtain ⟨tail, htail⟩ := h.2
      rw [← htail, List.drop_left] at ih
      rw [← htail, cut_append hsep, List.flatten_cons, List.nil_append, ih, List.drop_left]
    | case3 c rest h ih =>
      rw [cut_cons_of_not_begins hsep fun hprefix => h ⟨hsep, hprefix⟩, flatten_consHead, ih]

theorem flatten_dropEmptyTail (pieces : List (List Char)) :
    (dropEmptyTail pieces).flatten = pieces.flatten := by
  induction pieces with
  | nil => rfl
  | cons piece pieces ih =>
    rw [dropEmptyTail_cons, List.flatten_cons, ← ih]
    split
    · next h =>
      rw [Bool.and_eq_true, List.isEmpty_iff, List.isEmpty_iff] at h
      rw [h.1, h.2]
      rfl
    · rw [List.flatten_cons]

/-- The fragments of a text hold all of it but the separators. -/
theorem flatten_fragments (sep s : List Char) : (fragments sep s).flatten = without sep s := by
  rw [fragments, flatten_dropEmptyTail, flatten_cut]

end ScriptReplay.Text
