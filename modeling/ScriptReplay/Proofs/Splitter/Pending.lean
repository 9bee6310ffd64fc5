import ScriptReplay.Proofs.Delimiter.Fragments
import ScriptReplay.Proofs.Splitter.Composition
import ScriptReplay.Proofs.Splitter.Conservation

/-!
# Pending text is never blank

Whatever the delimiter is, either nothing is pending or the pending text holds a character above
U+0020 (`Visible`). One line keeps this (`visible_pending_step`): a line that is put behind the
pending text is trimmed and not empty, and what a cut leaves over is the end of such a line
(`cutLine_snd_cases`). So a script keeps it, and whether something is pending says whether there is
text that no statement has yet (`pending_eq_nil_or_visible`).
-/

namespace ScriptReplay

namespace Text

variable {sep s : List Char} {pieces : List (List Char)} {trailing : Nat}

/-! ## The end of a text -/

/-- The text holds a character above U+0020. -/
def Visible (s : List Char) : Prop :=
  ∃ c ∈ s, 0x20 < c.toNat

theorem Visible.ne_nil (h : Visible s) : s ≠ [] := by
  rintro rfl
  obtain ⟨c, hc, -⟩ := h
  cases hc

theorem isMargin_eq_false_iff {c : Char} : isMargin c = false ↔ 0x20 < c.toNat := by
  simp [isMargin]

/-- A trimmed text is visible to its very end. -/
theorem visible_of_suffix_trim {last : List Char} (hne : last ≠ [])
    (hlast : last <:+ trim isMargin s) : Visible last := by
  have hend : last.getLast hne ∈ (trim isMargin s).getLast? := by
    rw [hlast.getLast hne]
    exact List.getLast?_eq_some_getLast _
  exact ⟨last.getLast hne, List.getLast_mem hne,
    isMargin_eq_false_iff.1 (eq_false_of_mem_getLast?_trim _ hend)⟩

theorem suffix_intercalate {last : List Char} (h : last ∈ pieces.getLast?) :
    last <:+ sep.intercalate pieces := by
  induction pieces with
  | nil => cases h
  | cons piece pieces ih =>
    by_cases hpieces : pieces = []
    · subst hpieces
      obtain rfl : piece = last := by simpa using h
      simp
    · rw [List.getLast?_cons_of_ne_nil hpieces] at h
      rw [List.intercalate_cons_of_ne_nil hpieces]
      exact (ih h).trans (List.suffix_append _ _)

/-- A text that does not end with the separator ends with its last piece. -/
theorem Fragmented.suffix_of_mem_getLast? (h : Fragmented sep s pieces trailing)
    (hends : ¬ sep <:+ s) {last : List Char} (hlast : last ∈ pieces.getLast?) : last <:+ s := by
  have htrailing : trailing = 0 := by
    by_contra hmore
    obtain ⟨k, rfl⟩ := Nat.exists_eq_succ_of_ne_zero hmore
    apply hends
    rw [h.text_eq, List.replicate_succ', List.flatten_concat, ← List.append_assoc]
    exact List.suffix_append _ _
  have htext : s = sep.intercalate pieces := by simpa [htrailing] using h.text_eq
  rw [htext]
  exact suffix_intercalate hlast

end Text

namespace Splitter

open Text (Visible)

variable {splitter : Splitter} {state : State} {line : List Char}

/-! ## One line -/

/-- What a cut leaves pending: what was pending before, nothing, or the end of the line. -/
theorem cutLine_snd_cases (delimiter : Delimiter) (line pending : List Char) :
    (cutLine delimiter line pending).2 = pending ∨ (cutLine delimiter line pending).2 = [] ∨
      (cutLine delimiter line pending).2 ≠ [] ∧ (cutLine delimiter line pending).2 <:+ line := by
  by_cases hfragments : delimiter.fragments line = []
  · exact .inl (congrArg Prod.snd (cutLine_eq_of_fragments_eq_nil hfragments))
  refine .inr ?_
  by_cases hends : delimiter.literal <:+ line
  · exact .inl (cutLine_snd_of_suffix hends hfragments pending)
  · -- the empty literal is an end of every line, so this one is not empty
    have hliteral : delimiter.literal ≠ [] := by
      intro hnil
      exact hends (hnil ▸ List.nil_suffix)
    obtain ⟨pieces, trailing, hpieces⟩ := Text.exists_fragmented hliteral line
    have hcut : delimiter.fragments line = pieces := hpieces.fragments_eq hliteral
    obtain ⟨first, rest, hsplit⟩ := List.exists_cons_of_ne_nil hfragments
    have hpending : (cutLine delimiter line pending).2 = rest.getLast?.getD [] := by
      unfold cutLine
      rw [hsplit]
      dsimp only
      rw [if_neg (mt List.isSuffixOf_iff_suffix.1 hends)]
    rw [hpending]
    rcases List.eq_nil_or_concat rest with rfl | ⟨init, last, hrest⟩
    · exact .inl rfl
    · rw [List.concat_eq_append] at hrest
      have hlast : last ∈ pieces.getLast? := by
        rw [← hcut, hsplit, hrest, ← List.cons_append]
        exact List.getLast?_concat
      rw [hrest, List.getLast?_concat]
      exact .inr ⟨hpieces.last_ne_nil last hlast, hpieces.suffix_of_mem_getLast? hends hlast⟩

/-- Nothing is pending, or text with a visible character is. -/
def PendingVisible (state : State) : Prop :=
  state.pending = [] ∨ Visible state.pending

theorem visible_trimmed (hkept : isSkipped (trimmed line) = false) : Visible (trimmed line) :=
  Text.visible_of_suffix_trim (ne_nil_of_not_isSkipped hkept) List.suffix_rfl

theorem visible_pending_step (splitter : Splitter) (h : PendingVisible state) (line : List Char) :
    PendingVisible (splitter.step state line).2 := by
  have htreatment := treatment_step splitter state line
  generalize splitter.step state line = taken at htreatment ⊢
  cases htreatment with
  | skipped => exact h
  | closing => exact .inl rfl
  | cutting =>
    rcases cutLine_snd_cases splitter.delimiter (trimmed line) state.pending with
      hkeeps | hnothing | ⟨hne, hend⟩
    · rw [PendingVisible, hkeeps]
      exact h
    · exact .inl hnothing
    · exact .inr (Text.visible_of_suffix_trim hne hend)
  | continuing hkept =>
    obtain ⟨c, hc, hvisible⟩ := visible_trimmed hkept
    exact .inr ⟨c, by simp [hc], hvisible⟩

theorem visible_pending_feed (splitter : Splitter) (h : PendingVisible state)
    (lines : List (List Char)) : PendingVisible (splitter.feed state lines).2 := by
  induction lines generalizing state with
  | nil => exact h
  | cons line rest ih => exact ih (visible_pending_step splitter h line)

theorem visible_pending_stateAfter (splitter : Splitter) (lines : List String) :
    PendingVisible (splitter.stateAfter lines) :=
  visible_pending_feed splitter (.inl rfl) _

theorem PendingVisible.visible (h : PendingVisible state) (hpending : state.pending ≠ []) :
    Visible state.pending :=
  h.resolve_left hpending

/-! ## Unfinished text -/

/-- The lines of a script have added visible text that is in none of the statements it has completed:
the text `rest`, behind the text of all of these. -/
def Unfinished (splitter : Splitter) (lines : List String) (rest : List Char) : Prop :=
  Visible rest ∧ unspaced (splitter.contributions [] (lines.map String.toList)) =
    unspaced ((splitter.completed lines).flatMap String.toList) ++ rest

/-- The text of the lines is that of the completed statements and what is pending. -/
theorem unspaced_contributions (splitter : Splitter) (lines : List String) :
    unspaced (splitter.contributions [] (lines.map String.toList)) =
      unspaced ((splitter.completed lines).flatMap String.toList) ++
        unspaced (splitter.stateAfter lines).pending := by
  have hdone : (splitter.completed lines).flatMap String.toList =
      (splitter.feed {} (lines.map String.toList)).1.flatten := by
    rw [completed, List.flatMap_map]
    simp [List.flatMap_def]
  rw [hdone, ← unspaced_append]
  exact (unspaced_feed splitter [] (lines.map String.toList)).symm

theorem visible_unspaced {text : List Char} (h : Visible text) : Visible (unspaced text) := by
  obtain ⟨c, hc, hvisible⟩ := h
  refine ⟨c, List.mem_filter.2 ⟨hc, bne_iff_ne.2 ?_⟩, hvisible⟩
  rintro rfl
  exact absurd hvisible (by decide)

/-- Something is pending exactly where there is unfinished text. -/
theorem pending_ne_nil_iff_exists_unfinished (splitter : Splitter) (lines : List String) :
    (splitter.stateAfter lines).pending ≠ [] ↔ ∃ rest, Unfinished splitter lines rest := by
  have htext := unspaced_contributions splitter lines
  constructor
  · intro hpending
    have hvisible := (visible_pending_stateAfter splitter lines).visible hpending
    exact ⟨_, visible_unspaced hvisible, htext⟩
  · rintro ⟨rest, hvisible, hrest⟩ hpending
    rw [hrest, hpending] at htext
    exact hvisible.ne_nil (List.append_cancel_left htext)

/-! ## Whole scripts -/

/-- Behind any lines nothing is pending, or the pending text is visible. So what a line of the
delimiter closes is visible, and so is what is completed where a script ends; and something is
pending exactly where visible text of the lines is in no statement yet. -/
theorem pending_eq_nil_or_visible (splitter : Splitter) (lines : List String) :
    ((splitter.stateAfter lines).pending = [] ∨ Visible (splitter.stateAfter lines).pending) ∧
      (∀ line : String, isSkipped (trimmed line.toList) = false →
        splitter.delimiter.isLine (trimmed line.toList) = true →
        (splitter.stateAfter lines).pending ≠ [] →
          ∃ closed, (splitter.step (splitter.stateAfter lines) line.toList).1 = [closed] ∧
            Visible closed) ∧
      (∀ statement ∈ (splitter.stateAfter lines).flush, Visible statement) ∧
      ((splitter.stateAfter lines).pending ≠ [] ↔ ∃ rest, Unfinished splitter lines rest) := by
  have hvisible := visible_pending_stateAfter splitter lines
  refine ⟨hvisible, fun line hkept hline hpending => ?_, fun statement hstatement => ?_,
    pending_ne_nil_iff_exists_unfinished splitter lines⟩
  · rw [step_close hkept hline hpending]
    exact ⟨_, rfl, hvisible.visible hpending⟩
  · by_cases hpending : (splitter.stateAfter lines).pending = []
    · rw [flush_of_pending_eq_nil hpending] at hstatement
      cases hstatement
    · rw [flush_of_pending_ne_nil hpending, List.mem_singleton] at hstatement
      exact hstatement ▸ hvisible.visible hpending

/-- What is left over of a line that is cut begins with a space, but is not blank. -/
theorem pending_eq_nil_or_visible_leftover :
    let splitter : Splitter := { delimiter := semicolonOrGo }
    (splitter.stateAfter ["a; b"]).pending = [' ', 'b'] ∧
      (∃ closed, (splitter.step (splitter.stateAfter ["a; b"]) "go".toList).1 = [closed] ∧
        Visible closed) ∧
      ∃ rest, Unfinished splitter ["a; b"] rest := by
  intro splitter
  have hpending : (splitter.stateAfter ["a; b"]).pending = [' ', 'b'] := by decide
  have hne : (splitter.stateAfter ["a; b"]).pending ≠ [] := by
    rw [hpending]
    exact List.cons_ne_nil _ _
  obtain ⟨-, hcloses, -, hunfinished⟩ := pending_eq_nil_or_visible splitter ["a; b"]
  exact ⟨hpending, hcloses "go" (by decide) (by decide) hne, hunfinished.1 hne⟩

end Splitter

end ScriptReplay
