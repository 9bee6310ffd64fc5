import Mathlib.Data.List.TakeWhile
import ScriptReplay.Proofs.Text.Margin

/-!
# Ink

The *ink* of a text is what is left of it without white space. A text broken into lines keeps its
ink (`Broken.ink_eq`): only white space at the ends of lines may be cut.
-/

namespace ScriptReplay.Text

variable {s t text output : List Char}

/-! ## Characters that are no white space -/

/-- The characters of a text that are no white space. -/
def ink (s : List Char) : List Char :=
  s.filter (!isBlank ·)

@[simp] theorem ink_append (s t : List Char) : ink (s ++ t) = ink s ++ ink t :=
  List.filter_append s t

theorem ink_cons_of_blank {c : Char} (h : isBlank c = true) (s : List Char) :
    ink (c :: s) = ink s := by
  simp [ink, h]

theorem ink_flatMap {α : Type} (list : List α) (f : α → List Char) :
    ink (list.flatMap f) = list.flatMap fun a => ink (f a) :=
  List.filter_flatMap

theorem ink_eq_nil_iff : ink s = [] ↔ ∀ c ∈ s, isBlank c = true := by
  simp [ink]

theorem ink_sublist (h : s.Sublist t) : (ink s).Sublist (ink t) :=
  h.filter _

/-! ## Breaking a text into lines -/

/-- How a text is broken into lines: each line ends with a line break, and white space may be cut at
the end of a line. -/
inductive Broken : List Char → List Char → Prop
  | nil : Broken [] []
  | line (words gap kept : List Char) {text output : List Char} (hgap : ∀ c ∈ gap, isBlank c = true)
      (hkept : ∀ c ∈ kept, isBlank c = true) (hlength : kept.length ≤ gap.length)
      (rest : Broken text output) : Broken (words ++ gap ++ text) (words ++ kept ++ '\n' :: output)

theorem Broken.ink_eq (h : Broken text output) : ink output = ink text := by
  induction h with
  | nil => rfl
  | line words gap kept hgap hkept _ _ ih =>
    rw [ink_append, ink_append, ink_append, ink_append, ink_cons_of_blank (by decide),
      ink_eq_nil_iff.2 hgap, ink_eq_nil_iff.2 hkept, ih]

theorem Broken.append {more moreOutput : List Char} (h : Broken text output)
    (hmore : Broken more moreOutput) : Broken (text ++ more) (output ++ moreOutput) := by
  induction h with
  | nil => exact hmore
  | line words gap kept hgap hkept hlength _ ih =>
    rw [List.append_assoc, List.append_assoc (words ++ kept), List.cons_append]
    exact .line words gap kept hgap hkept hlength ih

theorem Broken.flatten {pieces : List (List Char)} {f : List Char → List Char}
    (h : ∀ piece ∈ pieces, Broken piece (f piece)) :
    Broken pieces.flatten (pieces.flatMap f) := by
  induction pieces with
  | nil => exact .nil
  | cons piece rest ih =>
    obtain ⟨hpiece, hrest⟩ := List.forall_mem_cons.1 h
    exact hpiece.append (ih hrest)

theorem Broken.eq_nil (h : Broken text output) (hnil : output = []) : text = [] := by
  cases h with
  | nil => rfl
  | line words gap kept _ _ _ _ => simp at hnil

/-- White space behind a text goes to its last line. -/
theorem Broken.append_blank (h : Broken text output) (hne : output ≠ []) {gap : List Char}
    (hgap : ∀ c ∈ gap, isBlank c = true) : Broken (text ++ gap) output := by
  induction h with
  | nil => exact absurd rfl hne
  | @line words gap' kept text output hgap' hkept hlength rest ih =>
    by_cases houtput : output = []
    · obtain rfl := rest.eq_nil houtput
      have hmore : kept.length ≤ (gap' ++ gap).length := by
        rw [List.length_append]
        omega
      have hboth := Broken.line words (gap' ++ gap) kept (List.forall_mem_append.2 ⟨hgap', hgap⟩)
        hkept hmore rest
      rwa [List.append_nil, ← List.append_assoc, ← List.append_nil (words ++ gap')] at hboth
    · rw [List.append_assoc]
      exact .line words gap' kept hgap' hkept hlength (ih houtput)

/-! ## White space at the end -/

theorem exists_trimEnd_eq (s : List Char) :
    ∃ gap, s = trimEnd isBlank s ++ gap ∧ ∀ c ∈ gap, isBlank c = true := by
  induction s with
  | nil => exact ⟨[], rfl, nofun⟩
  | cons c s ih =>
    obtain ⟨gap, hs, hgap⟩ := ih
    rw [trimEnd_cons]
    split
    · next hempty =>
      obtain ⟨hnil, hc⟩ := Bool.and_eq_true_iff.1 hempty
      have hblank := trimEnd_eq_nil_iff.1 (List.isEmpty_iff.1 hnil)
      exact ⟨c :: s, rfl, List.forall_mem_cons.2 ⟨hc, hblank⟩⟩
    · exact ⟨gap, congrArg (c :: ·) hs, hgap⟩

theorem trimEnd_ne_nil (h : ink s ≠ []) : trimEnd isBlank s ≠ [] :=
  fun hnil => h (ink_eq_nil_iff.2 (trimEnd_eq_nil_iff.1 hnil))

theorem trimEnd_append (s : List Char) (h : ink t ≠ []) :
    trimEnd isBlank (s ++ t) = s ++ trimEnd isBlank t := by
  induction s with
  | nil => rfl
  | cons c s ih =>
    have hne : s ++ trimEnd isBlank t ≠ [] :=
      List.append_ne_nil_of_right_ne_nil s (trimEnd_ne_nil h)
    rw [List.cons_append, trimEnd_cons, ih, if_neg]
    · rfl
    · simp [hne]

/-- What is left behind white space begins with a character that is none. -/
theorem dropWhile_isBlank_cases (s : List Char) :
    s.dropWhile isBlank = [] ∨ ∃ c rest, s.dropWhile isBlank = c :: rest ∧ isBlank c = false := by
  induction s with
  | nil => exact .inl rfl
  | cons c s ih =>
    cases hc : isBlank c with
    | true => rwa [List.dropWhile_cons_of_pos hc]
    | false => exact .inr ⟨c, s, List.dropWhile_cons_of_neg (by simp [hc]), hc⟩

theorem ink_ne_nil_of_mem {c : Char} (hmem : c ∈ s) (hc : isBlank c = false) : ink s ≠ [] :=
  fun h => absurd (ink_eq_nil_iff.1 h c hmem) (by simp [hc])

/-- White space at the end is all that trimming takes from a text that begins with words. -/
theorem trim_append_cons (hfirst : ∀ c ∈ s.head?, isBlank c = false) {c : Char}
    (hc : isBlank c = false) (rest : List Char) :
    trim isBlank (s ++ c :: rest) = s ++ c :: trimEnd isBlank rest := by
  have hdrop : (s ++ c :: rest).dropWhile isBlank = s ++ c :: rest := by
    cases s with
    | nil => exact List.dropWhile_cons_of_neg (by simp [hc])
    | cons d s => exact List.dropWhile_cons_of_neg (by simp [hfirst d rfl])
  have hend : trimEnd isBlank (c :: rest) = c :: trimEnd isBlank rest := by
    rw [trimEnd_cons, if_neg (by simp [hc])]
  rw [trim, hdrop, trimEnd_append s (ink_ne_nil_of_mem List.mem_cons_self hc), hend]

end ScriptReplay.Text
