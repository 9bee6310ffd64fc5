import ScriptReplay.Text.Blank

/-!
# Trimming

A text that begins and ends outside the class of characters to be trimmed is left as it is
(`trim_eq_self`), and what stands around it within the class makes no difference
(`trim_append_of_forall`). Nothing is left of a text that lies all within the class (`trim_eq_nil_iff`), so a
text is blank where nothing is left of it without the white space around it (`blank_iff`).
-/

namespace ScriptReplay.Text

variable {p : Char → Bool} {s : List Char}

theorem trimEnd_cons (c : Char) (s : List Char) :
    trimEnd p (c :: s) = if (trimEnd p s).isEmpty && p c then [] else c :: trimEnd p s := rfl

theorem trimEnd_concat_of_eq_false {c : Char} (h : p c = false) :
    trimEnd p (s ++ [c]) = s ++ [c] := by
  induction s with
  | nil => simp [trimEnd, h]
  | cons d s ih => rw [List.cons_append, trimEnd_cons, ih]; simp

theorem trim_eq_self (hfirst : ∀ c ∈ s.head?, p c = false)
    (hlast : ∀ c ∈ s.getLast?, p c = false) : trim p s = s := by
  obtain rfl | ⟨init, c, hs⟩ := List.eq_nil_or_concat s
  · rfl
  · rw [List.concat_eq_append] at hs
    subst hs
    have hdrop : (init ++ [c]).dropWhile p = init ++ [c] := by
      cases init with
      | nil => simp [hfirst c rfl]
      | cons d init => simp [hfirst d rfl]
    rw [trim, hdrop, trimEnd_concat_of_eq_false (hlast c (by simp))]

theorem trimEnd_eq_nil_iff : trimEnd p s = [] ↔ ∀ c ∈ s, p c = true := by
  induction s with
  | nil => simp [trimEnd]
  | cons c s ih =>
    rw [trimEnd_cons, List.forall_mem_cons, ← ih]
    by_cases hrest : trimEnd p s = [] <;> simp [hrest]

theorem trim_eq_nil_iff : trim p s = [] ↔ ∀ c ∈ s, p c = true := by
  rw [trim, trimEnd_eq_nil_iff]
  constructor
  · intro h c hc
    rw [← List.takeWhile_append_dropWhile (p := p) (l := s)] at hc
    rcases List.mem_append.1 hc with htaken | hdropped
    · exact List.all_eq_true.1 List.all_takeWhile c htaken
    · exact h c hdropped
  · intro h c hc
    exact h c (List.dropWhile_subset p hc)

theorem trimEnd_append_of_forall {gap : List Char} (hgap : ∀ c ∈ gap, p c = true) :
    trimEnd p (s ++ gap) = trimEnd p s := by
  induction s with
  | nil => exact trimEnd_eq_nil_iff.2 hgap
  | cons c s ih => rw [List.cons_append, trimEnd_cons, trimEnd_cons, ih]

/-- What stands around a text within the class makes no difference. -/
theorem trim_append_of_forall {before after : List Char} (hbefore : ∀ c ∈ before, p c = true)
    (hafter : ∀ c ∈ after, p c = true) : trim p (before ++ s ++ after) = trim p s := by
  unfold trim
  rw [List.append_assoc, List.dropWhile_append_of_pos hbefore, List.dropWhile_append]
  split
  · next hnothing =>
    rw [List.isEmpty_iff.1 hnothing]
    exact trimEnd_eq_nil_iff.2 fun c hc => hafter c (List.dropWhile_subset p hc)
  · exact trimEnd_append_of_forall hafter

/-- A change of characters that keeps the class commutes with trimming. -/
theorem trim_map {f : Char → Char} (hf : ∀ c, p (f c) = p c) (s : List Char) :
    trim p (s.map f) = (trim p s).map f := by
  have hend : ∀ s : List Char, trimEnd p (s.map f) = (trimEnd p s).map f := by
    intro s
    induction s with
    | nil => rfl
    | cons c s ih =>
      rw [List.map_cons, trimEnd_cons, trimEnd_cons, ih, List.isEmpty_map, hf]
      split <;> rfl
  have hclass : p ∘ f = p := funext hf
  rw [trim, trim, List.dropWhile_map, hclass, hend]

theorem eq_false_of_mem_getLast?_trimEnd : ∀ c ∈ (trimEnd p s).getLast?, p c = false := by
  induction s with
  | nil => simp [trimEnd]
  | cons d s ih =>
    rw [trimEnd_cons]
    by_cases hrest : trimEnd p s = []
    · cases hd : p d <;> simp [hrest, hd]
    · rw [if_neg (by simp [hrest]), List.getLast?_cons_of_ne_nil hrest]
      exact ih

/-- A text that was trimmed ends outside the class. -/
theorem eq_false_of_mem_getLast?_trim : ∀ c ∈ (trim p s).getLast?, p c = false :=
  eq_false_of_mem_getLast?_trimEnd

theorem blank_iff {text : String} : blank text = true ↔ strip text = "" := by
  rw [blank, List.all_eq_true, ← trim_eq_nil_iff, strip, ← String.toList_inj, String.toList_ofList]
  rfl

end ScriptReplay.Text
