import Mathlib.Data.List.Forall2
import ScriptReplay.Proofs.Text.Margin
import ScriptReplay.Text.Case

/-!
# Lower case of names

Lower case takes no notice of the case of ASCII letters (`lower_eq_of_sameLetters`), nor does it turn
white space into anything else (`lower_of_blank`).

A capital sigma has two small letters, one of which ends a word. `IsLower` leaves it open which of
the two stands in a lower-case form; a reader to whom both are one letter sees no difference
(`IsLower.map_plainSigma`).
-/

namespace ScriptReplay.Text

variable {s t low : List Char}

theorem lower_cons (c : Char) (s : List Char) : lower (c :: s) = lowerChar c ++ lower s :=
  List.flatMap_cons

theorem lower_append (s t : List Char) : lower (s ++ t) = lower s ++ lower t :=
  List.flatMap_append

/-! ## ASCII letters -/

/-- Texts that differ in the case of ASCII letters only. -/
def SameLetters (s t : List Char) : Prop :=
  List.Forall₂ (fun c d => c.toLower = d.toLower) s t

instance (s t : List Char) : Decidable (SameLetters s t) :=
  inferInstanceAs (Decidable (List.Forall₂ (fun c d : Char => c.toLower = d.toLower) s t))

theorem toLower_eq_self {c : Char} (h : 0x80 ≤ c.toNat) : c.toLower = c := by
  refine dif_neg fun hletter => ?_
  have hlast : c.toNat ≤ 0x5a := UInt32.le_iff_toNat_le.1 hletter.2
  omega

theorem lowerChar_toLower (c : Char) : lowerChar c.toLower = lowerChar c := by
  by_cases h : c.toNat < 0x80
  · have hall : ∀ n < 0x80, lowerChar (Char.ofNat n).toLower = lowerChar (Char.ofNat n) := by
      decide +kernel
    simpa only [Char.ofNat_toNat] using hall c.toNat h
  · rw [toLower_eq_self (Nat.not_lt.1 h)]

theorem lower_eq_of_sameLetters (h : SameLetters s t) : lower s = lower t := by
  induction h with
  | nil => rfl
  | cons hletter _ ih =>
    rw [lower_cons, lower_cons, ← lowerChar_toLower, hletter, lowerChar_toLower, ih]

/-! ## White space -/

/-- The code points of white space. -/
def blankCodes : List Nat :=
  [0x09, 0x0a, 0x0b, 0x0c, 0x0d, 0x1c, 0x1d, 0x1e, 0x1f, 0x20, 0x85, 0xa0, 0x1680, 0x2000, 0x2001,
    0x2002, 0x2003, 0x2004, 0x2005, 0x2006, 0x2007, 0x2008, 0x2009, 0x200a, 0x2028, 0x2029, 0x202f,
    0x205f, 0x3000]

theorem mem_blankCodes {c : Char} (h : isBlank c = true) : c.toNat ∈ blankCodes := by
  simp only [isBlank, Bool.or_eq_true, Bool.and_eq_true, decide_eq_true_eq, beq_iff_eq] at h
  simp only [blankCodes, List.mem_cons, List.not_mem_nil, or_false]
  omega

theorem lowerChar_of_isBlank {c : Char} (h : isBlank c = true) : lowerChar c = [c] := by
  have hall : ∀ n ∈ blankCodes, lowerChar (Char.ofNat n) = [Char.ofNat n] := by decide +kernel
  simpa only [Char.ofNat_toNat] using hall c.toNat (mem_blankCodes h)

theorem lower_of_blank (h : ∀ c ∈ s, isBlank c = true) : lower s = s := by
  induction s with
  | nil => rfl
  | cons c s ih =>
    obtain ⟨hc, hs⟩ := List.forall_mem_cons.1 h
    rw [lower_cons, lowerChar_of_isBlank hc, ih hs]
    rfl

theorem trim_lower_append {before after : List Char} (hbefore : ∀ c ∈ before, isBlank c = true)
    (hafter : ∀ c ∈ after, isBlank c = true) :
    trim isBlank (lower (before ++ s ++ after)) = trim isBlank (lower s) := by
  rw [lower_append, lower_append, lower_of_blank hbefore, lower_of_blank hafter,
    trim_append_of_forall hbefore hafter]

/-! ## The two small sigmas -/

/-- `IsLower s low`: the text `low` is `s` in lower case, where either small letter may stand for a
capital sigma. -/
inductive IsLower : List Char → List Char → Prop
  | nil : IsLower [] []
  | cons {c : Char} {form s low : List Char}
      (first : form = lowerChar c ∨ c = 'Σ' ∧ form = ['ς']) (rest : IsLower s low) :
      IsLower (c :: s) (form ++ low)

theorem isLower_lower (s : List Char) : IsLower s (lower s) := by
  induction s with
  | nil => exact .nil
  | cons c s ih => exact .cons (.inl rfl) ih

/-- At the end of a text a capital sigma may have the small letter that ends a word. -/
theorem isLower_concat_sigma (s : List Char) : IsLower (s ++ ['Σ']) (lower s ++ ['ς']) := by
  induction s with
  | nil =>
    have hlast : IsLower ['Σ'] (['ς'] ++ []) := .cons (.inr ⟨rfl, rfl⟩) .nil
    exact hlast
  | cons c s ih =>
    rw [lower_cons, List.append_assoc]
    exact .cons (.inl rfl) ih

/-- One small sigma in the place of both. -/
def plainSigma (c : Char) : Char :=
  if c = 'ς' then 'σ' else c

theorem IsLower.map_plainSigma (h : IsLower s low) :
    low.map plainSigma = (lower s).map plainSigma := by
  induction h with
  | nil => rfl
  | @cons c form s low first _ ih =>
    have hfirst : form.map plainSigma = (lowerChar c).map plainSigma := by
      rcases first with rfl | ⟨rfl, rfl⟩
      · rfl
      · decide +kernel
    rw [List.map_append, hfirst, ih, lower_cons, List.map_append]

theorem isBlank_plainSigma (c : Char) : isBlank (plainSigma c) = isBlank c := by
  unfold plainSigma
  split
  · next h =>
    rw [h]
    decide
  · rfl

/-- To an ASCII character both are foreign. -/
theorem plainSigma_eq_iff {c d : Char} (h : c.toNat < 0x80) : plainSigma d = c ↔ d = c := by
  have hsmall : 'σ' ≠ c := by
    rintro rfl
    exact absurd h (by decide)
  have hfinal : 'ς' ≠ c := by
    rintro rfl
    exact absurd h (by decide)
  unfold plainSigma
  split
  · next hd => rw [hd]; exact iff_of_false hsmall hfinal
  · rfl

end ScriptReplay.Text
