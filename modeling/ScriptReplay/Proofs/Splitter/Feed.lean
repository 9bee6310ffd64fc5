import ScriptReplay.Splitter.Basic

/-!
# Reading a script in two parts

What a step does, one equation for each way to treat a line (`step_skip`, `step_close`, `step_cut`,
`step_continue`) and one case for each (`treatment_step`), and how the statements of a script are
put together from those of its parts: `splitFrom` are the statements that follow when reading goes
on from a state, and `splitChars_append` cuts a script anywhere.
-/

namespace ScriptReplay.Splitter

variable {splitter : Splitter} {state : State} {line : List Char}

/-- A line as the splitter reads it. -/
abbrev trimmed (line : List Char) : List Char := Text.trim Text.isMargin line

theorem ne_nil_of_not_isSkipped (h : isSkipped line = false) : line ≠ [] := by
  rintro rfl
  cases h

/-! ## One step -/

section Step

theorem step_skip (h : isSkipped (trimmed line) = true) :
    splitter.step state line = ([], state) := by
  simp only [step, h, ↓reduceIte]

variable (hkept : isSkipped (trimmed line) = false)
include hkept

theorem step_close (hline : splitter.delimiter.isLine (trimmed line) = true)
    (hpending : state.pending ≠ []) : splitter.step state line =
      ([state.pending], ⟨[], splitter.dollarsWith state (trimmed line)⟩) := by
  simp [step, hkept, hline, hpending]

variable (hopen : splitter.delimiter.isLine (trimmed line) = false ∨ state.pending = [])
include hopen

theorem step_cut (hoccurs : splitter.delimiter.occursIn (trimmed line) = true)
    (hseen : splitter.hides (splitter.dollarsWith state (trimmed line)) = false) :
    splitter.step state line =
      ((cutLine splitter.delimiter (trimmed line) state.pending).1,
        ⟨(cutLine splitter.delimiter (trimmed line) state.pending).2,
          splitter.dollarsWith state (trimmed line)⟩) := by
  have hclose : (splitter.delimiter.isLine (trimmed line) && !state.pending.isEmpty) = false := by
    rcases hopen with h | h <;> simp [h]
  simp [step, hkept, hclose, hoccurs, hseen]

theorem step_continue (hunseen : splitter.delimiter.occursIn (trimmed line) = false ∨
      splitter.hides (splitter.dollarsWith state (trimmed line)) = true) :
    splitter.step state line =
      ([],
        ⟨state.pending ++ trimmed line ++ [' '], splitter.dollarsWith state (trimmed line)⟩) := by
  have hclose : (splitter.delimiter.isLine (trimmed line) && !state.pending.isEmpty) = false := by
    rcases hopen with h | h <;> simp [h]
  have hcut : (splitter.delimiter.occursIn (trimmed line) &&
      !splitter.hides (splitter.dollarsWith state (trimmed line))) = false := by
    rcases hunseen with h | h <;> simp [h]
  simp [step, hkept, hclose, hcut]

end Step

/-- The four ways to treat a line, each with what it makes of it: the line is skipped, it closes
what is pending, it is cut, or it is put behind what is pending. -/
inductive Treatment (splitter : Splitter) (state : State) (line : List Char) :
    List (List Char) × State → Prop
  | skipped (skip : isSkipped (trimmed line) = true) :
      Treatment splitter state line ([], state)
  | closing (kept : isSkipped (trimmed line) = false)
      (closes : splitter.delimiter.isLine (trimmed line) = true) (pending : state.pending ≠ []) :
      Treatment splitter state line
        ([state.pending], ⟨[], splitter.dollarsWith state (trimmed line)⟩)
  | cutting (kept : isSkipped (trimmed line) = false)
      (stays : splitter.delimiter.isLine (trimmed line) = false ∨ state.pending = [])
      (occurs : splitter.delimiter.occursIn (trimmed line) = true)
      (seen : splitter.hides (splitter.dollarsWith state (trimmed line)) = false) :
      Treatment splitter state line
        ((cutLine splitter.delimiter (trimmed line) state.pending).1,
          ⟨(cutLine splitter.delimiter (trimmed line) state.pending).2,
            splitter.dollarsWith state (trimmed line)⟩)
  | continuing (kept : isSkipped (trimmed line) = false)
      (stays : splitter.delimiter.isLine (trimmed line) = false ∨ state.pending = [])
      (unseen : splitter.delimiter.occursIn (trimmed line) = false ∨
        splitter.hides (splitter.dollarsWith state (trimmed line)) = true) :
      Treatment splitter state line
        ([], ⟨state.pending ++ trimmed line ++ [' '], splitter.dollarsWith state (trimmed line)⟩)

/-- A step treats its line in one of the four ways. -/
theorem treatment_step (splitter : Splitter) (state : State) (line : List Char) :
    Treatment splitter state line (splitter.step state line) := by
  cases hkept : isSkipped (trimmed line) with
  | true =>
    rw [step_skip hkept]
    exact .skipped hkept
  | false =>
    by_cases hclose : splitter.delimiter.isLine (trimmed line) = true ∧ state.pending ≠ []
    · rw [step_close hkept hclose.1 hclose.2]
      exact .closing hkept hclose.1 hclose.2
    · have hstays : splitter.delimiter.isLine (trimmed line) = false ∨ state.pending = [] := by
        rw [Classical.not_and_iff_not_or_not, Classical.not_not, Bool.not_eq_true] at hclose
        exact hclose
      by_cases hcut : splitter.delimiter.occursIn (trimmed line) = true ∧
          splitter.hides (splitter.dollarsWith state (trimmed line)) = false
      · rw [step_cut hkept hstays hcut.1 hcut.2]
        exact .cutting hkept hstays hcut.1 hcut.2
      · have hunseen : splitter.delimiter.occursIn (trimmed line) = false ∨
            splitter.hides (splitter.dollarsWith state (trimmed line)) = true := by
          rw [Classical.not_and_iff_not_or_not, Bool.not_eq_true, Bool.not_eq_false] at hcut
          exact hcut
        rw [step_continue hkept hstays hunseen]
        exact .continuing hkept hstays hunseen

theorem feed_nil (state : State) : splitter.feed state [] = ([], state) := rfl

theorem feed_cons (state : State) (line : List Char) (rest : List (List Char)) :
    splitter.feed state (line :: rest) =
      ((splitter.step state line).1 ++ (splitter.feed (splitter.step state line).2 rest).1,
        (splitter.feed (splitter.step state line).2 rest).2) := rfl

/-! ## Lines in dollar signs -/

theorem step_dollarLines (hkept : isSkipped (trimmed line) = false) :
    (splitter.step state line).2.dollarLines = splitter.dollarsWith state (trimmed line) := by
  simp only [step, hkept, Bool.false_eq_true, ↓reduceIte]
  split
  · rfl
  · split <;> rfl

theorem dollarsWith_of_not_isDollarLine (h : isDollarLine line = false) :
    splitter.dollarsWith state line = state.dollarLines := by
  simp [dollarsWith, h]

section NoDollarQuoting

variable (hquoting : splitter.database.usesDollarQuoting = false)
include hquoting

theorem dollarsWith_of_not_usesDollarQuoting :
    splitter.dollarsWith state line = state.dollarLines := by
  simp [dollarsWith, hquoting]

theorem hides_of_not_usesDollarQuoting (dollars : Nat) : splitter.hides dollars = false := by
  simp [hides, hquoting]

/-- Where dollar signs do not quote, no lines are counted. -/
theorem feed_dollarLines (state : State) (lines : List (List Char)) :
    (splitter.feed state lines).2.dollarLines = state.dollarLines := by
  induction lines generalizing state with
  | nil => rfl
  | cons line rest ih =>
    rw [feed_cons, ih]
    cases hkept : isSkipped (trimmed line)
    · rw [step_dollarLines hkept, dollarsWith_of_not_usesDollarQuoting hquoting]
    · rw [step_skip hkept]

end NoDollarQuoting

/-! ## Runs -/

theorem feed_append (state : State) (before after : List (List Char)) :
    splitter.feed state (before ++ after) =
      ((splitter.feed state before).1 ++ (splitter.feed (splitter.feed state before).2 after).1,
        (splitter.feed (splitter.feed state before).2 after).2) := by
  induction before generalizing state with
  | nil => rfl
  | cons line before ih => simp [feed_cons, ih]

/-- The statements that follow when reading goes on from a state. -/
def splitFrom (splitter : Splitter) (state : State) (lines : List (List Char)) :
    List (List Char) :=
  (splitter.feed state lines).1 ++ (splitter.feed state lines).2.flush

theorem splitChars_eq_splitFrom (lines : List (List Char)) :
    splitter.splitChars lines = splitter.splitFrom {} lines := rfl

theorem splitFrom_nil (state : State) : splitter.splitFrom state [] = state.flush := rfl

theorem splitFrom_cons (state : State) (line : List Char) (rest : List (List Char)) :
    splitter.splitFrom state (line :: rest) =
      (splitter.step state line).1 ++ splitter.splitFrom (splitter.step state line).2 rest := by
  simp [splitFrom, feed_cons]

/-- A script can be read in two parts. -/
theorem splitChars_append (before after : List (List Char)) :
    splitter.splitChars (before ++ after) =
      (splitter.feed {} before).1 ++ splitter.splitFrom (splitter.feed {} before).2 after := by
  simp [splitChars_eq_splitFrom, splitFrom, feed_append]

theorem flush_of_pending_eq_nil (h : state.pending = []) : state.flush = [] := by
  simp [State.flush, h]

theorem flush_of_pending_ne_nil (h : state.pending ≠ []) : state.flush = [state.pending] := by
  simp [State.flush, h]

/-! ## Scripts given as strings -/

/-- The statements that a script completes before its end. -/
def completed (splitter : Splitter) (lines : List String) : List String :=
  (splitter.feed {} (lines.map String.toList)).1.map String.ofList

/-- The state of the splitter after a script. -/
def stateAfter (splitter : Splitter) (lines : List String) : State :=
  (splitter.feed {} (lines.map String.toList)).2

/-- The statements that follow when reading goes on from a state. -/
def resume (splitter : Splitter) (state : State) (lines : List String) : List String :=
  (splitter.splitFrom state (lines.map String.toList)).map String.ofList

theorem split_append (before after : List String) :
    splitter.split (before ++ after) =
      splitter.completed before ++ splitter.resume (splitter.stateAfter before) after := by
  rw [split, List.map_append, splitChars_append, List.map_append]
  rfl

theorem resume_cons (state : State) (line : String) (rest : List String) :
    splitter.resume state (line :: rest) =
      (splitter.step state line.toList).1.map String.ofList ++
        splitter.resume (splitter.step state line.toList).2 rest := by
  rw [resume, List.map_cons, splitFrom_cons, List.map_append]
  rfl

theorem resume_nil (state : State) : splitter.resume state [] = state.flush.map String.ofList := rfl

theorem split_eq_completed {lines : List String} (h : (splitter.stateAfter lines).pending = []) :
    splitter.split lines = splitter.completed lines := by
  have happend := @split_append splitter lines []
  rwa [List.append_nil, resume_nil, flush_of_pending_eq_nil h, List.map_nil, List.append_nil]
    at happend

theorem split_eq_completed_append {lines : List String}
    (h : (splitter.stateAfter lines).pending ≠ []) :
    splitter.split lines =
      splitter.completed lines ++ [String.ofList (splitter.stateAfter lines).pending] := by
  have happend := @split_append splitter lines []
  rwa [List.append_nil, resume_nil, flush_of_pending_ne_nil h, List.map_singleton] at happend

/-- Where the first part leaves the splitter as it found it, the second is read as if it came
first. -/
theorem split_append_of_stateAfter_eq {before : List String} (h : splitter.stateAfter before = {})
    (after : List String) :
    splitter.split (before ++ after) = splitter.split before ++ splitter.split after := by
  rw [split_append, split_eq_completed (by rw [h]), h]
  rfl

end ScriptReplay.Splitter
