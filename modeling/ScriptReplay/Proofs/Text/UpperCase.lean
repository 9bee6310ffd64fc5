import ScriptReplay.Text.Case

/-!
# Upper case of single characters

Beyond ASCII, upper case leads to letters only. So an ASCII character that is no letter is the
upper-case form of itself alone (`upperChar_eq_singleton_iff`, `upper_eq_singleton_iff`).
-/

namespace ScriptReplay.Text

/-! ## What the tables hold -/

theorem two_le_length_of_mem_upperExpansions :
    ∀ form ∈ upperExpansions, 2 ≤ form.2.length := by decide

/-- Runs lead out of ASCII, or move one character to a capital ASCII letter. -/
theorem target_of_mem_upperRuns : ∀ run ∈ upperRuns,
    0x80 ≤ run.first + run.shift ∨
      run.first = run.last ∧ 0x41 ≤ run.first + run.shift ∧ run.first + run.shift ≤ 0x5a := by
  decide +kernel

theorem shiftCase_upperRuns {code : Nat} (h : 0x80 ≤ code) :
    0x80 ≤ shiftCase upperRuns code ∨
      0x41 ≤ shiftCase upperRuns code ∧ shiftCase upperRuns code ≤ 0x5a := by
  unfold shiftCase
  split
  · next run hfind =>
    have hmoves := List.find?_some hfind
    have htarget := target_of_mem_upperRuns run (List.mem_of_find?_eq_some hfind)
    simp only [CaseRun.moves, Bool.and_eq_true, decide_eq_true_eq] at hmoves
    simp only [CaseRun.apply]
    omega
  · exact .inl h

/-! ## Upper-case forms -/

theorem upperChar_ne_nil (c : Char) : upperChar c ≠ [] := by
  unfold upperChar
  split
  · simp
  · split
    · next code codes hfind =>
      have hlength : 2 ≤ codes.length :=
        two_le_length_of_mem_upperExpansions _ (List.mem_of_find?_eq_some hfind)
      intro hnil
      rw [List.map_eq_nil_iff.1 hnil] at hlength
      exact absurd hlength (by decide)
    · simp

theorem toNat_ofNat_of_ne_zero {n : Nat} (h : (Char.ofNat n).toNat ≠ 0) :
    (Char.ofNat n).toNat = n := by
  by_cases hvalid : n.isValidChar
  · rw [Char.ofNat, dif_pos hvalid]; rfl
  · rw [Char.ofNat, dif_neg hvalid] at h; exact absurd rfl h

section BelowLetters

variable {d : Char} (hpos : 0 < d.toNat) (hlow : d.toNat < 0x41)
include hpos hlow

/-- A character below the ASCII letters is the upper-case form of itself alone. -/
theorem upperChar_eq_singleton_iff {c : Char} : upperChar c = [d] ↔ c = d := by
  unfold upperChar
  split
  · next hascii =>
    rw [List.cons.injEq]
    constructor
    · rintro ⟨heq, -⟩
      split at heq
      · next hsmall =>
        -- a small letter goes to a capital one, which is not below the letters
        simp only [Bool.and_eq_true, decide_eq_true_eq, Char.le_def, UInt32.le_iff_toNat_le]
          at hsmall
        have hcode := toNat_ofNat_of_ne_zero (n := c.toNat - 32) (by rw [heq]; omega)
        rw [heq] at hcode
        have ha : 'a'.val.toNat = 97 := rfl
        have hc : c.toNat = c.val.toNat := rfl
        omega
      · exact heq
    · rintro rfl
      rw [if_neg]
      · exact ⟨rfl, rfl⟩
      · simp only [Bool.and_eq_true, decide_eq_true_eq, Char.le_def, UInt32.le_iff_toNat_le]
        have ha : 'a'.val.toNat = 97 := rfl
        have hc : c.toNat = c.val.toNat := rfl
        omega
  · next hbeyond =>
    have hne : c ≠ d := by rintro rfl; omega
    refine iff_of_false (fun heq => ?_) hne
    split at heq
    · next code codes hfind =>
      have hlength : 2 ≤ codes.length :=
        two_le_length_of_mem_upperExpansions _ (List.mem_of_find?_eq_some hfind)
      rw [← List.length_map (f := Char.ofNat), heq, List.length_singleton] at hlength
      exact absurd hlength (by decide)
    · have hchar : Char.ofNat (shiftCase upperRuns c.toNat) = d := (List.cons.inj heq).1
      have hcode := toNat_ofNat_of_ne_zero (by rw [hchar]; omega)
      have htarget := shiftCase_upperRuns (Nat.not_lt.1 hbeyond)
      rw [hchar] at hcode
      omega

theorem upper_eq_singleton_iff {s : List Char} : upper s = [d] ↔ s = [d] := by
  constructor
  · intro h
    cases s with
    | nil => cases h
    | cons c s =>
      rw [upper, List.flatMap_cons] at h
      cases s with
      | nil =>
        rw [List.flatMap_nil, List.append_nil] at h
        rw [(upperChar_eq_singleton_iff hpos hlow).1 h]
      | cons c' s =>
        -- every character contributes, so there is but one
        have hlength := congrArg List.length h
        have hfirst := List.length_pos_iff.2 (upperChar_ne_nil c)
        have hsecond := List.length_pos_iff.2 (upperChar_ne_nil c')
        simp only [List.length_append, List.flatMap_cons, List.length_singleton] at hlength
        omega
  · rintro rfl
    rw [upper, List.flatMap_singleton]
    exact (upperChar_eq_singleton_iff hpos hlow).2 rfl

end BelowLetters

end ScriptReplay.Text
