import Mathlib.Data.List.Infix
import ScriptReplay.Text.Cut

/-!
# The pieces of a text

* `occurs_iff`: a literal occurs in a text where it is an infix of it.
* `cut_append`, `cut_cons_of_not_begins`: the two ways in which a cut goes on at the start of a
  text.
* `fragments_eq_nil_iff`: the texts without fragments are the repetitions of the separator.
* `cut_singleton`: a cut at a single character is `List.splitOn`.
-/

namespace ScriptReplay.Text

variable {sep s : List Char}

theorem occurs_iff : occurs sep s = true ↔ sep <:+: s := by
  induction s with
  | nil => simp [occurs]
  | cons c s ih => simp [occurs, ih, List.infix_cons_iff]

/-! ## Cutting -/

section Cut

variable (hsep : sep ≠ [])
include hsep

theorem cut_eq_cutAfter (s : List Char) : cut sep s = cutAfter sep 0 s := by
  simp [cut, hsep]

omit hsep in
/-- The characters of an occurrence are passed over. -/
theorem cutAfter_length_append (skipped s : List Char) :
    cutAfter sep skipped.length (skipped ++ s) = cutAfter sep 0 s := by
  induction skipped with
  | nil => rfl
  | cons c skipped ih => exact ih

theorem cut_nil : cut sep [] = [[]] := by
  rw [cut_eq_cutAfter hsep]; rfl

theorem cut_append (s : List Char) : cut sep (sep ++ s) = [] :: cut sep s := by
  rw [cut_eq_cutAfter hsep, cut_eq_cutAfter hsep]
  cases sep with
  | nil => exact absurd rfl hsep
  | cons c rest =>
    have hprefix : (c :: rest).isPrefixOf (c :: (rest ++ s)) = true := by simp
    rw [List.cons_append, cutAfter, if_pos hprefix]
    exact congrArg _ (cutAfter_length_append rest s)

theorem cut_cons_of_not_begins {c : Char} (h : ¬ sep <+: c :: s) :
    cut sep (c :: s) = consHead c (cut sep s) := by
  rw [cut_eq_cutAfter hsep, cut_eq_cutAfter hsep, cutAfter, if_neg]
  simpa using h

theorem cut_replicate (k : Nat) :
    cut sep (List.replicate k sep).flatten = List.replicate (k + 1) [] := by
  induction k with
  | zero => exact cut_nil hsep
  | succ k ih => rw [List.replicate_succ, List.flatten_cons, cut_append hsep, ih]; rfl

/-- Only a repetition of the separator has nothing between the separators. -/
theorem eq_replicate_of_cut {s : List Char} (h : ∀ piece ∈ cut sep s, piece = []) :
    ∃ k, s = (List.replicate k sep).flatten := by
  induction hn : s.length using Nat.strongRecOn generalizing s with
  | _ n ih =>
    cases s with
    | nil => exact ⟨0, rfl⟩
    | cons c rest =>
      by_cases hprefix : sep <+: c :: rest
      · obtain ⟨tail, htail⟩ := hprefix
        have hshort : tail.length < n := by
          have hlength := congrArg List.length htail
          have hpos := List.length_pos_iff.2 hsep
          simp only [List.length_append] at hlength
          omega
        rw [← htail, cut_append hsep] at h
        obtain ⟨k, hk⟩ := ih _ hshort (fun piece hp => h piece (List.mem_cons_of_mem _ hp)) rfl
        exact ⟨k + 1, by rw [← htail, hk, List.replicate_succ, List.flatten_cons]⟩
      · rw [cut_cons_of_not_begins hsep hprefix] at h
        cases hcut : cut sep rest with
        | nil => rw [hcut] at h; exact absurd (h [c] (by simp [consHead])) (by simp)
        | cons piece pieces =>
          rw [hcut] at h
          exact absurd (h (c :: piece) (by simp [consHead])) (by simp)

end Cut

/-! ## Single characters -/

theorem consHead_eq_modifyHead {c : Char} {pieces : List (List Char)} (h : pieces ≠ []) :
    consHead c pieces = pieces.modifyHead (c :: ·) := by
  cases pieces with
  | nil => exact absurd rfl h
  | cons piece pieces => rfl

/-- A cut at a single character. -/
theorem cut_singleton (c : Char) (s : List Char) : cut [c] s = s.splitOn c := by
  have hsep : [c] ≠ [] := List.cons_ne_nil c []
  induction s with
  | nil => exact cut_nil hsep
  | cons d s ih =>
    rw [List.splitOn_cons_eq_if_modifyHead]
    split
    · next h =>
      rw [beq_iff_eq.1 h, ← ih]
      exact cut_append hsep s
    · next h =>
      rw [cut_cons_of_not_begins hsep, ih, consHead_eq_modifyHead (List.splitOn_ne_nil c s)]
      rw [List.cons_prefix_cons]
      exact fun hprefix => h (beq_iff_eq.2 hprefix.1.symm)

/-- No piece holds the character that was cut at. -/
theorem not_mem_of_mem_splitOn {c : Char} {piece : List Char} (h : piece ∈ s.splitOn c) :
    c ∉ piece := by
  induction s generalizing piece with
  | nil =>
    rw [List.splitOn_nil, List.mem_singleton] at h
    simp [h]
  | cons d s ih =>
    rw [List.splitOn_cons_eq_if_modifyHead] at h
    split at h
    · rcases List.mem_cons.1 h with rfl | h
      · simp
      · exact ih h
    · next hne =>
      obtain ⟨first, rest, hpieces⟩ := List.exists_cons_of_ne_nil (List.splitOn_ne_nil c s)
      rw [hpieces] at h ih
      rw [List.modifyHead_cons] at h
      rcases List.mem_cons.1 h with rfl | h
      · have hfirst : c ∉ first := ih (List.mem_cons_self ..)
        have hdc : ¬ d = c := by simpa using hne
        simp [hfirst, Ne.symm hdc]
      · exact ih (List.mem_cons_of_mem _ h)

/-- The pieces have no other characters than the text. -/
theorem subset_of_mem_splitOn {c : Char} {piece : List Char} (h : piece ∈ s.splitOn c) :
    piece ⊆ s := by
  induction s generalizing piece with
  | nil =>
    rw [List.splitOn_nil, List.mem_singleton] at h
    exact h ▸ List.Subset.refl _
  | cons d s ih =>
    rw [List.splitOn_cons_eq_if_modifyHead] at h
    split at h
    · rcases List.mem_cons.1 h with rfl | h
      · exact List.nil_subset _
      · exact List.subset_cons_of_subset _ (ih h)
    · obtain ⟨first, rest, hpieces⟩ := List.exists_cons_of_ne_nil (List.splitOn_ne_nil c s)
      rw [hpieces] at h ih
      rw [List.modifyHead_cons] at h
      rcases List.mem_cons.1 h with rfl | h
      · exact List.cons_subset_cons _ (ih List.mem_cons_self)
      · exact List.subset_cons_of_subset _ (ih (List.mem_cons_of_mem _ h))

/-- Every other character of the text is in one of the pieces. -/
theorem exists_mem_splitOn {c d : Char} (h : d ∈ s) (hne : d ≠ c) :
    ∃ piece ∈ s.splitOn c, d ∈ piece := by
  induction s with
  | nil => cases h
  | cons e s ih =>
    rw [List.splitOn_cons_eq_if_modifyHead]
    obtain ⟨first, rest, hpieces⟩ := List.exists_cons_of_ne_nil (List.splitOn_ne_nil c s)
    rw [hpieces] at ih ⊢
    rcases List.mem_cons.1 h with rfl | h
    · exact ⟨d :: first, by simp [hne], List.mem_cons_self⟩
    · obtain ⟨piece, hpiece, hmem⟩ := ih h
      split
      · exact ⟨piece, List.mem_cons_of_mem _ hpiece, hmem⟩
      · rcases List.mem_cons.1 hpiece with rfl | hpiece
        · exact ⟨e :: piece, List.mem_cons_self, List.mem_cons_of_mem _ hmem⟩
        · exact ⟨piece, List.mem_cons_of_mem _ hpiece, hmem⟩

/-! ## Dropping empty pieces -/

theorem dropEmptyTail_cons (piece : List Char) (pieces : List (List Char)) :
    dropEmptyTail (piece :: pieces) =
      if (dropEmptyTail pieces).isEmpty && piece.isEmpty then []
      else piece :: dropEmptyTail pieces := rfl

theorem dropEmptyTail_eq_nil_iff {pieces : List (List Char)} :
    dropEmptyTail pieces = [] ↔ ∀ piece ∈ pieces, piece = [] := by
  induction pieces with
  | nil => simp [dropEmptyTail]
  | cons piece pieces ih =>
    rw [dropEmptyTail_cons, List.forall_mem_cons, ← ih]
    by_cases h : dropEmptyTail pieces = [] <;> simp [h]

theorem dropEmptyTail_concat {last : List Char} (h : last ≠ []) (pieces : List (List Char)) :
    dropEmptyTail (pieces ++ [last]) = pieces ++ [last] := by
  induction pieces with
  | nil => simp [dropEmptyTail, h]
  | cons piece pieces ih => rw [List.cons_append, dropEmptyTail_cons, ih]; simp

/-- The texts without fragments are the repetitions of the separator. -/
theorem fragments_eq_nil_iff : fragments sep s = [] ↔ ∃ k, s = (List.replicate k sep).flatten := by
  rw [fragments, dropEmptyTail_eq_nil_iff]
  by_cases hsep : sep = []
  · subst hsep
    -- the empty separator stands between any two characters
    cases s with
    | nil => exact iff_of_true (by simp [cut]) ⟨0, rfl⟩
    | cons c s => simp [cut]
  · constructor
    · exact eq_replicate_of_cut hsep
    · rintro ⟨k, rfl⟩ piece hpiece
      rw [cut_replicate hsep] at hpiece
      exact List.eq_of_mem_replicate hpiece

end ScriptReplay.Text
