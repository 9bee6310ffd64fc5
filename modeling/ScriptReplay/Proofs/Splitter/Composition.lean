import ScriptReplay.Proofs.Splitter.DelimiterLine
import ScriptReplay.Proofs.Splitter.KeptLines

/-!
# Scripts put one behind the other

States that hold the same text and hide the delimiter alike read on in the same way (`Alike`). So a
script that ends with a complete statement can be put before any other, and the two are split apart
(`split_append_of_ends`).
-/

namespace ScriptReplay.Splitter

variable {splitter : Splitter} {state other : State} {line : List Char}

/-! ## States that read on in the same way -/

/-- States with the same pending text in which the delimiter is hidden alike. -/
structure Alike (splitter : Splitter) (state other : State) : Prop where
  pending : state.pending = other.pending
  hides : splitter.hides state.dollarLines = splitter.hides other.dollarLines

/-- A line in dollar signs hides the delimiter, or shows it again. -/
theorem hides_dollarsWith (splitter : Splitter) (state : State) (line : List Char) :
    splitter.hides (splitter.dollarsWith state line) =
      (splitter.hides state.dollarLines ^^
        (splitter.database.usesDollarQuoting && isDollarLine line)) := by
  unfold hides dollarsWith
  cases splitter.database.usesDollarQuoting with
  | false => rfl
  | true =>
    cases isDollarLine line with
    | false => simp
    | true =>
      rcases Nat.mod_two_eq_zero_or_one state.dollarLines with h | h
      · simp [h, Nat.add_mod]
      · simp [h, Nat.add_mod]

theorem Alike.hides_dollarsWith (h : Alike splitter state other) (line : List Char) :
    splitter.hides (splitter.dollarsWith state line) =
      splitter.hides (splitter.dollarsWith other line) := by
  rw [Splitter.hides_dollarsWith, Splitter.hides_dollarsWith, h.hides]

/-- States that are alike complete the same statements with a line, and are alike behind it. -/
theorem Alike.step (h : Alike splitter state other) (line : List Char) :
    (splitter.step state line).1 = (splitter.step other line).1 ∧
      Alike splitter (splitter.step state line).2 (splitter.step other line).2 := by
  have hdollars := h.hides_dollarsWith (trimmed line)
  have htreatment := treatment_step splitter state line
  generalize splitter.step state line = taken at htreatment ⊢
  cases htreatment with
  | skipped hskip =>
    rw [step_skip hskip]
    exact ⟨rfl, h⟩
  | closing hkept hcloses hpending =>
    rw [step_close hkept hcloses (h.pending ▸ hpending), h.pending]
    exact ⟨rfl, rfl, hdollars⟩
  | cutting hkept hstays hoccurs hseen =>
    rw [step_cut hkept (h.pending ▸ hstays) hoccurs (hdollars ▸ hseen), h.pending]
    exact ⟨rfl, rfl, hdollars⟩
  | continuing hkept hstays hunseen =>
    rw [step_continue hkept (h.pending ▸ hstays) (hdollars ▸ hunseen), h.pending]
    exact ⟨rfl, rfl, hdollars⟩

theorem Alike.flush (h : Alike splitter state other) : state.flush = other.flush := by
  rw [State.flush, State.flush, h.pending]

theorem Alike.splitFrom (h : Alike splitter state other) (lines : List (List Char)) :
    splitter.splitFrom state lines = splitter.splitFrom other lines := by
  induction lines generalizing state other with
  | nil => exact h.flush
  | cons line rest ih =>
    obtain ⟨hdone, hnext⟩ := h.step line
    rw [splitFrom_cons, splitFrom_cons, hdone, ih hnext]

/-! ## Scripts that leave nothing behind -/

/-- A script that leaves a state like that of the start is split apart from what is behind it. -/
theorem split_append_of_alike {before : List String}
    (h : Alike splitter (splitter.stateAfter before) {}) (after : List String) :
    splitter.split (before ++ after) = splitter.split before ++ splitter.split after := by
  calc splitter.split (before ++ after)
      = splitter.completed before ++ splitter.resume (splitter.stateAfter before) after :=
        split_append before after
    _ = splitter.split before ++ splitter.split after := by
        rw [split_eq_completed h.pending, resume, h.splitFrom]
        rfl

/-- Outside of dollar signs and with nothing pending, the splitter is as it was at the start. -/
theorem Counts.alike_start {dollars : Nat} (h : Counts splitter state dollars)
    (hpending : state.pending = []) (hshown : isHidden splitter.database dollars = false) :
    Alike splitter state {} := by
  have hstart : splitter.hides 0 = false := by simp [Splitter.hides]
  exact ⟨hpending, (h.hides.trans hshown).trans hstart.symm⟩

/-- Nothing is pending behind a line that is cut at a delimiter at its end. -/
theorem cutLine_snd_of_suffix {delimiter : Delimiter} (hends : delimiter.literal <:+ line)
    (h : delimiter.fragments line ≠ []) (pending : List Char) :
    (cutLine delimiter line pending).2 = [] := by
  obtain ⟨first, rest, hfragments⟩ := List.exists_cons_of_ne_nil h
  rw [cutLine, hfragments]
  dsimp only
  rw [if_pos (List.isSuffixOf_iff_suffix.2 hends)]

/-- Nothing is pending behind a line that ends with the literal delimiter and is more than
delimiters, or is a line of the delimiter's pattern. -/
theorem pending_step_of_ends (hkept : isSkipped (trimmed line) = false)
    (hends : splitter.delimiter.literal <:+ trimmed line)
    (hcompletes : splitter.delimiter.fragments (trimmed line) ≠ [] ∨
      splitter.delimiter.isLine (trimmed line) = true)
    (hseen : splitter.hides (splitter.dollarsWith state (trimmed line)) = false) :
    (splitter.step state line).2.pending = [] := by
  have hoccurs : splitter.delimiter.occursIn (trimmed line) = true :=
    Text.occurs_iff.2 hends.isInfix
  have htreatment := treatment_step splitter state line
  generalize splitter.step state line = taken at htreatment ⊢
  cases htreatment with
  | skipped hskip =>
    rw [hkept] at hskip
    cases hskip
  | closing => rfl
  | cutting _ hstays =>
    by_cases hfragments : splitter.delimiter.fragments (trimmed line) = []
    · -- a line of delimiters alone leaves what is pending, and here nothing is
      have hline := hcompletes.resolve_left (not_not_intro hfragments)
      have hpending : state.pending = [] := hstays.resolve_left (by simp [hline])
      rw [cutLine_eq_of_fragments_eq_nil hfragments]
      exact hpending
    · exact cutLine_snd_of_suffix hends hfragments _
  | continuing _ _ hunseen =>
    rw [hoccurs, hseen] at hunseen
    simp at hunseen

/-- Only the last kept line of a script decides what is pending behind it. -/
theorem pending_feed_of_ends {lines : List (List Char)} {last : List Char}
    (hlast : (keptLines lines).getLast? = some last)
    (hends : splitter.delimiter.literal <:+ last)
    (hcompletes : splitter.delimiter.fragments last ≠ [] ∨ splitter.delimiter.isLine last = true)
    (hseen : splitter.hides (splitter.feed {} lines).2.dollarLines = false) :
    (splitter.feed {} lines).2.pending = [] := by
  induction lines using List.reverseRecOn with
  | nil => rfl
  | append_singleton init line ih =>
    rw [keptLines_append, keptLines_cons] at hlast
    rw [feed_append, feed_cons] at hseen ⊢
    cases hkept : isSkipped (trimmed line) with
    | true =>
      rw [hkept, if_pos rfl, keptLines_nil, List.append_nil] at hlast
      rw [step_skip hkept] at hseen ⊢
      exact ih hlast hseen
    | false =>
      rw [hkept, if_neg (by simp), List.getLast?_append_of_ne_nil _ (List.cons_ne_nil _ _)] at hlast
      obtain rfl : trimmed line = last := Option.some.inj hlast
      have hcount : (splitter.step (splitter.feed {} init).2 line).2.dollarLines =
          splitter.dollarsWith (splitter.feed {} init).2 (trimmed line) := step_dollarLines hkept
      exact pending_step_of_ends hkept hends hcompletes (hcount ▸ hseen)

/-- A script whose last line that counts ends a statement, outside of dollar signs, is split apart
from whatever is put behind it. -/
theorem split_append_of_ends (splitter : Splitter) (before after : List String) {last : List Char}
    (hlast : (keptLines (before.map String.toList)).getLast? = some last)
    (hends : splitter.delimiter.literal <:+ last)
    (hcompletes : splitter.delimiter.fragments last ≠ [] ∨ splitter.delimiter.isLine last = true)
    (hbalanced : splitter.database = .postgresql →
      dollarCount (before.map String.toList) % 2 = 0) :
    splitter.split (before ++ after) = splitter.split before ++ splitter.split after := by
  have hcount : Counts splitter (splitter.stateAfter before)
      (dollarCount (before.map String.toList)) := counts_feed splitter _
  have hshown := isHidden_eq_false hbalanced
  have hpending : (splitter.stateAfter before).pending = [] :=
    pending_feed_of_ends hlast hends hcompletes (hcount.hides.trans hshown)
  exact split_append_of_alike (hcount.alike_start hpending hshown) after

/-- A script that ends behind a function body, and one that begins with dollar signs. -/
theorem split_append_of_ends_function_body :
    (keptLines (["DO", "$$", "a; b", "$$", "LANGUAGE c;", "-- d"].map String.toList)).getLast? =
        some "LANGUAGE c;".toList ∧
      Delimiter.standard.literal <:+ "LANGUAGE c;".toList ∧
      Delimiter.standard.fragments "LANGUAGE c;".toList ≠ [] ∧
      dollarCount (["DO", "$$", "a; b", "$$", "LANGUAGE c;", "-- d"].map String.toList) % 2 = 0 ∧
      Splitter.split { database := .postgresql }
          (["DO", "$$", "a; b", "$$", "LANGUAGE c;", "-- d"] ++ ["$$", "e;"]) =
        ["DO $$ a; b $$  LANGUAGE c"] ++ ["$$ e; "] := by
  have hlast : (keptLines
      (["DO", "$$", "a; b", "$$", "LANGUAGE c;", "-- d"].map String.toList)).getLast? =
        some "LANGUAGE c;".toList := by decide
  have hends : Delimiter.standard.literal <:+ "LANGUAGE c;".toList := by decide
  have hfragments : Delimiter.standard.fragments "LANGUAGE c;".toList ≠ [] := by decide
  have hbalanced : dollarCount
      (["DO", "$$", "a; b", "$$", "LANGUAGE c;", "-- d"].map String.toList) % 2 = 0 := by decide
  refine ⟨hlast, hends, hfragments, hbalanced, ?_⟩
  rw [split_append_of_ends { database := .postgresql } _ _ hlast hends (.inl hfragments)
    fun _ => hbalanced]
  decide

end ScriptReplay.Splitter
