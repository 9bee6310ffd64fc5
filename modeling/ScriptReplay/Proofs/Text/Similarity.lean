import Mathlib.Data.List.Nodup
import Mathlib.Data.List.Perm.Subperm
import ScriptReplay.Text.Similarity

/-!
# Suggestions

Suggestions are some of the candidates (`suggestions_subperm`), at most three. They are found by the
characters that a candidate and the word have in common, so characters of the word that no candidate
holds may be exchanged for each other (`suggestions_congr`).
-/

namespace ScriptReplay.Text

variable {f : Char → Char} {a s t : List Char} {word other : String} {candidates : List String}

/-! ## What is suggested -/

/-- The suggestions are some of the candidates in another order, none of them more often than
there. -/
theorem suggestions_subperm (word : String) (candidates : List String) :
    (suggestions word candidates).Subperm candidates := by
  let scored := candidates.map fun c => (likeness c.toList word.toList, c)
  let close := scored.filter (·.1.close)
  have htaken : ((close.mergeSort suggestBefore).take 3).Sublist (close.mergeSort suggestBefore) :=
    List.take_sublist 3 _
  have hranked : (close.mergeSort suggestBefore).Perm close := List.mergeSort_perm _ _
  have hclose : close.Sublist scored := List.filter_sublist
  have hscored : scored.map Prod.snd = candidates := by
    rw [List.map_map]
    exact List.map_id' candidates
  have hsome : (suggestions word candidates).Subperm (scored.map Prod.snd) :=
    (htaken.map Prod.snd).subperm.trans
      ((hranked.map Prod.snd).subperm.trans (hclose.map Prod.snd).subperm)
  rwa [hscored] at hsome

theorem length_suggestions_le (word : String) (candidates : List String) :
    (suggestions word candidates).length ≤ 3 := by
  unfold suggestions
  rw [List.length_map]
  exact List.length_take_le 3 _

theorem nodup_suggestions (h : candidates.Nodup) (word : String) :
    (suggestions word candidates).Nodup := by
  obtain ⟨ordered, hperm, hsub⟩ := suggestions_subperm word candidates
  exact hperm.nodup_iff.1 (h.sublist hsub)

/-! ## Characters that no candidate holds -/

/-- The change `f` of characters neither moves a character of the text nor moves another one there. -/
def Spares (f : Char → Char) (s : List Char) : Prop :=
  ∀ c ∈ s, ∀ d, f d = c ↔ d = c

theorem Spares.of_subset (h : Spares f t) (hsub : s ⊆ t) : Spares f s :=
  fun c hc => h c (hsub hc)

theorem Spares.map_eq_iff (h : Spares f s) : t.map f = s ↔ t = s := by
  induction s generalizing t with
  | nil => exact List.map_eq_nil_iff
  | cons c s ih =>
    cases t with
    | nil => simp
    | cons d t =>
      rw [List.map_cons, List.cons.injEq, List.cons.injEq, h c List.mem_cons_self,
        ih (h.of_subset (List.subset_cons_self c s))]

theorem commonLength_map (h : Spares f s) (t : List Char) :
    commonLength s (t.map f) = commonLength s t := by
  induction s generalizing t with
  | nil => cases t <;> rfl
  | cons c s ih =>
    cases t with
    | nil => rfl
    | cons d t =>
      have hhead : (c == f d) = (c == d) := by
        rw [Bool.eq_iff_iff, beq_iff_eq, beq_iff_eq, eq_comm, h c List.mem_cons_self, eq_comm]
      rw [List.map_cons, commonLength, commonLength, hhead,
        ih (h.of_subset (List.subset_cons_self c s))]

theorem suffixesFrom_map (i : Nat) (s : List Char) :
    suffixesFrom i (s.map f) = (suffixesFrom i s).map fun p => (p.1, p.2.map f) := by
  induction s generalizing i with
  | nil => rfl
  | cons c s ih =>
    rw [List.map_cons, suffixesFrom, suffixesFrom, ih, List.map_cons, List.map_cons]

theorem subset_of_mem_suffixesFrom {i j : Nat} (h : (j, t) ∈ suffixesFrom i s) : t ⊆ s := by
  induction s generalizing i with
  | nil =>
    simp only [suffixesFrom, List.mem_singleton, Prod.mk.injEq] at h
    exact h.2 ▸ List.Subset.refl _
  | cons c s ih =>
    rw [suffixesFrom, List.mem_cons, Prod.mk.injEq] at h
    rcases h with ⟨-, rfl⟩ | h
    · exact List.Subset.refl _
    · exact List.subset_cons_of_subset c (ih h)

theorem longestBlock_map (h : Spares f a) (s : List Char) :
    longestBlock a (s.map f) = longestBlock a s := by
  unfold longestBlock
  refine List.foldl_ext _ _ _ fun best start hmem => ?_
  have hspares : Spares f start.2 := h.of_subset (subset_of_mem_suffixesFrom hmem)
  dsimp only
  rw [suffixesFrom_map, List.foldl_map]
  simp only [commonLength_map hspares]

theorem commonWithin_map (depth : Nat) (h : Spares f a) (s : List Char) :
    commonWithin depth a (s.map f) = commonWithin depth a s := by
  induction depth generalizing a s with
  | zero => rfl
  | succ depth ih =>
    unfold commonWithin
    rw [longestBlock_map h]
    simp only [← List.map_take, ← List.map_drop]
    rw [ih (h.of_subset (List.take_subset _ a)), ih (h.of_subset (List.drop_subset _ a))]

theorem likeness_map (h : Spares f a) (s : List Char) : likeness a (s.map f) = likeness a s := by
  rw [likeness, likeness, commonWithin_map a.length h, List.length_map]

/-- Words that differ in characters which no candidate holds have the same suggestions. -/
theorem suggestions_congr (h : ∀ candidate ∈ candidates, Spares f candidate.toList)
    (hsame : word.toList.map f = other.toList.map f) :
    suggestions word candidates = suggestions other candidates := by
  have hscored : (candidates.map fun c => (likeness c.toList word.toList, c)) =
      candidates.map fun c => (likeness c.toList other.toList, c) := by
    refine List.map_congr_left fun candidate hcandidate => ?_
    have hspares := h candidate hcandidate
    rw [← likeness_map hspares word.toList, hsame, likeness_map hspares]
  unfold suggestions
  rw [hscored]

end ScriptReplay.Text
