import ScriptReplay.Proofs.Splitter.KeptLines
import ScriptReplay.Proofs.Text.Removal

/-!
# Conservation of text

Each line of a script adds a text of its own to the statements (`contribution`): a line that is
skipped or closes a statement adds nothing, a line that is cut adds what stands between its
delimiters, any other line adds all of itself. The statements of a script put together are these
texts put together in the order of the lines (`unspaced_flatten_split`), up to spaces: nothing is
lost, doubled or moved, whatever the delimiter is.

One step keeps the account: what it completes and leaves pending is what was pending and the text
of its line (`unspaced_step`).
-/

namespace ScriptReplay.Splitter

/-- A text without its spaces. -/
def unspaced (text : List Char) : List Char :=
  text.filter (· != ' ')

/-- The text that a line adds to the statements behind the lines before it. -/
def contribution (splitter : Splitter) (before : List (List Char)) (line : List Char) : List Char :=
  if isSkipped (trimmed line) then []
  else if splitter.delimiter.isLine (trimmed line) = true ∧
      (splitter.feed {} before).2.pending ≠ [] then []
  else if splitter.delimiter.occursIn (trimmed line) = true ∧
      isHidden splitter.database (dollarCount (before ++ [line])) = false then
    Text.without splitter.delimiter.literal (trimmed line)
  else trimmed line

/-- The texts that lines add one after another behind the lines before them. -/
def contributions (splitter : Splitter) : List (List Char) → List (List Char) → List Char
  | _, [] => []
  | before, line :: rest =>
    splitter.contribution before line ++ splitter.contributions (before ++ [line]) rest

variable {splitter : Splitter} {line : List Char}

@[simp] theorem unspaced_append (first second : List Char) :
    unspaced (first ++ second) = unspaced first ++ unspaced second :=
  List.filter_append ..

@[simp] theorem unspaced_space_cons (text : List Char) : unspaced (' ' :: text) = unspaced text :=
  rfl

/-! ## One line -/

/-- A cut moves all of a line but its delimiters. -/
theorem unspaced_cutLine (delimiter : Delimiter) (line pending : List Char) :
    unspaced ((cutLine delimiter line pending).1.flatten ++ (cutLine delimiter line pending).2) =
      unspaced (pending ++ Text.without delimiter.literal line) := by
  rw [← Text.flatten_fragments]
  change _ = unspaced (pending ++ (delimiter.fragments line).flatten)
  unfold cutLine
  cases delimiter.fragments line with
  | nil => simp
  | cons first rest =>
    dsimp only
    split
    · simp
    · have hrest : rest.dropLast.flatten ++ rest.getLast?.getD [] = rest.flatten := by
        obtain rfl | ⟨init, last, hconcat⟩ := List.eq_nil_or_concat rest
        · rfl
        · rw [hconcat, List.concat_eq_append]
          simp
      simp [← hrest]

/-- The splitter hides the delimiter on a line where the count up to it says so. -/
theorem hides_dollarsWith_feed (hkept : isSkipped (trimmed line) = false)
    (before : List (List Char)) :
    splitter.hides (splitter.dollarsWith (splitter.feed {} before).2 (trimmed line)) =
      isHidden splitter.database (dollarCount (before ++ [line])) := by
  have hhides := (counts_feed splitter (before ++ [line])).hides
  rwa [feed_append, feed_cons, feed_nil, step_dollarLines hkept] at hhides

theorem not_closes {delimiter : Delimiter} {line pending : List Char}
    (h : delimiter.isLine line = false ∨ pending = []) :
    ¬ (delimiter.isLine line = true ∧ pending ≠ []) := by
  rintro ⟨hline, hpending⟩
  rcases h with hopen | hempty
  · rw [hline] at hopen
    cases hopen
  · exact hpending hempty

/-- What a line completes and leaves pending is what was pending and the text of the line. -/
theorem unspaced_step (splitter : Splitter) (before : List (List Char)) (line : List Char) :
    unspaced ((splitter.step (splitter.feed {} before).2 line).1.flatten ++
        (splitter.step (splitter.feed {} before).2 line).2.pending) =
      unspaced ((splitter.feed {} before).2.pending ++ splitter.contribution before line) := by
  have htreatment := treatment_step splitter (splitter.feed {} before).2 line
  generalize splitter.step (splitter.feed {} before).2 line = taken at htreatment ⊢
  unfold contribution
  cases htreatment with
  | skipped hskip => simp [hskip]
  | closing hkept hcloses hpending => simp [hkept, hcloses, hpending]
  | cutting hkept hstays hoccurs hseen =>
    rw [hides_dollarsWith_feed hkept] at hseen
    rw [if_neg (by simp [hkept]), if_neg (not_closes hstays), if_pos ⟨hoccurs, hseen⟩]
    exact unspaced_cutLine ..
  | continuing hkept hstays hunseen =>
    rw [hides_dollarsWith_feed hkept] at hunseen
    have huncut : ¬ (splitter.delimiter.occursIn (trimmed line) = true ∧
        isHidden splitter.database (dollarCount (before ++ [line])) = false) := by
      rintro ⟨hoccurs, hseen⟩
      simp [hoccurs, hseen] at hunseen
    rw [if_neg (by simp [hkept]), if_neg (not_closes hstays), if_neg huncut]
    simp [unspaced]

/-! ## Whole scripts -/

/-- What lines complete and leave pending is what was pending and the texts of the lines. -/
theorem unspaced_feed (splitter : Splitter) (before lines : List (List Char)) :
    unspaced ((splitter.feed (splitter.feed {} before).2 lines).1.flatten ++
        (splitter.feed (splitter.feed {} before).2 lines).2.pending) =
      unspaced ((splitter.feed {} before).2.pending ++ splitter.contributions before lines) := by
  induction lines generalizing before with
  | nil => simp [feed_nil, contributions]
  | cons line rest ih =>
    have hstep := unspaced_step splitter before line
    have hrest := ih (before ++ [line])
    rw [feed_append, feed_cons, feed_nil] at hrest
    rw [feed_cons, contributions]
    simp only [List.flatten_append, List.append_assoc, unspaced_append] at hstep hrest ⊢
    rw [hrest, ← List.append_assoc, hstep, List.append_assoc]

theorem flatten_flush (state : State) : state.flush.flatten = state.pending := by
  cases h : state.pending with
  | nil =>
    rw [flush_of_pending_eq_nil h]
    rfl
  | cons c rest =>
    rw [flush_of_pending_ne_nil (by simp [h]), h]
    simp

/-- The statements of a script hold the texts of its lines in their order, up to spaces: nothing is
lost, doubled or moved to another place. -/
theorem unspaced_flatten_split (splitter : Splitter) (lines : List String) :
    unspaced ((splitter.split lines).flatMap String.toList) =
      unspaced (splitter.contributions [] (lines.map String.toList)) := by
  have hchars : (splitter.split lines).flatMap String.toList =
      (splitter.splitChars (lines.map String.toList)).flatten := by
    rw [split, List.flatMap_map]
    simp [List.flatMap_def]
  have hfeed := unspaced_feed splitter [] (lines.map String.toList)
  rw [hchars, splitChars_eq_splitFrom, splitFrom, List.flatten_append, flatten_flush]
  exact hfeed

end ScriptReplay.Splitter
