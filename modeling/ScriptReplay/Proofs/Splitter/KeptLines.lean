import ScriptReplay.Proofs.Splitter.Feed

/-!
# The lines that count

The lines of a script that belong to statements, and the number of lines in dollar signs up to each
of them. On PostgreSQL the delimiter is hidden on the lines where that number is odd.
-/

namespace ScriptReplay.Splitter

/-- The lines of a script that belong to statements, trimmed. -/
def keptLines (lines : List (List Char)) : List (List Char) :=
  (lines.map trimmed).filter fun line => !isSkipped line

/-- Lines with the number of lines in dollar signs up to and including each, where so many stood
before them. -/
def numbered : Nat → List (List Char) → List (List Char × Nat)
  | _, [] => []
  | dollars, line :: rest =>
    (line, dollars + if isDollarLine line then 1 else 0) ::
      numbered (dollars + if isDollarLine line then 1 else 0) rest

/-- The number of kept lines in dollar signs. -/
def dollarCount (lines : List (List Char)) : Nat :=
  (keptLines lines).countP isDollarLine

/-- Whether the delimiter is hidden on a line up to which so many lines stand in dollar signs. -/
def isHidden (database : Database) (dollars : Nat) : Bool :=
  database == .postgresql && dollars % 2 == 1

variable {splitter : Splitter} {state : State} {line : List Char} {dollars : Nat}

theorem keptLines_nil : keptLines [] = [] := rfl

theorem keptLines_cons (line : List Char) (rest : List (List Char)) :
    keptLines (line :: rest) =
      if isSkipped (trimmed line) then keptLines rest else trimmed line :: keptLines rest := by
  unfold keptLines
  rw [List.map_cons, List.filter_cons]
  cases isSkipped (trimmed line) <;> rfl

theorem keptLines_append (before after : List (List Char)) :
    keptLines (before ++ after) = keptLines before ++ keptLines after := by
  simp [keptLines]

theorem dollarCount_cons_of_skipped (hskipped : isSkipped (trimmed line) = true)
    (rest : List (List Char)) : dollarCount (line :: rest) = dollarCount rest := by
  rw [dollarCount, keptLines_cons, if_pos hskipped]
  rfl

theorem dollarCount_cons_of_kept (hkept : isSkipped (trimmed line) = false)
    (rest : List (List Char)) :
    dollarCount (line :: rest) =
      (if isDollarLine (trimmed line) then 1 else 0) + dollarCount rest := by
  rw [dollarCount, keptLines_cons, if_neg (by simp [hkept]), List.countP_cons, Nat.add_comm]
  rfl

theorem numbered_cons (dollars : Nat) (line : List Char) (rest : List (List Char)) :
    numbered dollars (line :: rest) =
      (line, dollars + if isDollarLine line then 1 else 0) ::
        numbered (dollars + if isDollarLine line then 1 else 0) rest := rfl

/-- Trimmed lines that are not skipped are the kept ones. -/
theorem keptLines_eq_self {lines : List (List Char)}
    (htrimmed : ∀ line ∈ lines, trimmed line = line)
    (hkept : ∀ line ∈ lines, isSkipped line = false) : keptLines lines = lines := by
  rw [keptLines, List.map_congr_left htrimmed, List.map_id']
  exact List.filter_eq_self.2 fun line hline => by simp [hkept line hline]

theorem isHidden_eq_false {database : Database} (h : database = .postgresql → dollars % 2 = 0) :
    isHidden database dollars = false := by
  unfold isHidden
  by_cases hdatabase : database = .postgresql
  · simp [h hdatabase]
  · simp [hdatabase]

theorem numbered_append (dollars : Nat) (before after : List (List Char)) :
    numbered dollars (before ++ after) =
      numbered dollars before ++ numbered (dollars + before.countP isDollarLine) after := by
  induction before generalizing dollars with
  | nil => rfl
  | cons line before ih =>
    rw [List.cons_append, numbered_cons, numbered_cons, ih, List.countP_cons, List.cons_append,
      Nat.add_assoc, Nat.add_comm (List.countP _ _)]

/-- A line in dollar signs has one at either end and no line feed between them. -/
theorem isDollarLine_iff :
    isDollarLine line = true ↔ ∃ middle, line = '$' :: (middle ++ ['$']) ∧ '\n' ∉ middle := by
  constructor
  · intro h
    unfold isDollarLine at h
    split at h
    · next rest =>
      split at h
      · next reversed hreversed =>
        refine ⟨reversed.reverse, ?_, by simpa using h⟩
        rw [← List.reverse_cons, ← hreversed, List.reverse_reverse]
      · cases h
    · cases h
  · rintro ⟨middle, rfl, hmiddle⟩
    simp [isDollarLine, hmiddle]

/-- The splitter counts as `numbered` does wherever the count matters. -/
def Counts (splitter : Splitter) (state : State) (dollars : Nat) : Prop :=
  splitter.database.usesDollarQuoting = true → state.dollarLines = dollars

theorem Counts.dollarsWith_eq (h : Counts splitter state dollars) (line : List Char)
    (hquoting : splitter.database.usesDollarQuoting = true) :
    splitter.dollarsWith state line = dollars + if isDollarLine line then 1 else 0 := by
  rw [dollarsWith, hquoting, Bool.true_and, h hquoting]
  cases isDollarLine line <;> rfl

theorem Counts.step (h : Counts splitter state dollars)
    (hkept : isSkipped (trimmed line) = false) :
    Counts splitter (splitter.step state line).2
      (dollars + if isDollarLine (trimmed line) then 1 else 0) := by
  intro hquoting
  rw [step_dollarLines hkept]
  exact h.dollarsWith_eq _ hquoting

theorem Counts.feed (h : Counts splitter state dollars) (lines : List (List Char)) :
    Counts splitter (splitter.feed state lines).2 (dollars + dollarCount lines) := by
  induction lines generalizing state dollars with
  | nil => exact h
  | cons line rest ih =>
    rw [feed_cons]
    cases hkept : isSkipped (trimmed line) with
    | true =>
      rw [step_skip hkept, dollarCount_cons_of_skipped hkept]
      exact ih h
    | false =>
      rw [dollarCount_cons_of_kept hkept, ← Nat.add_assoc]
      exact ih (h.step hkept)

/-- Behind a script the splitter has counted its kept lines in dollar signs. -/
theorem counts_feed (splitter : Splitter) (lines : List (List Char)) :
    Counts splitter (splitter.feed {} lines).2 (dollarCount lines) := by
  have hstart : Counts splitter {} 0 := fun _ => rfl
  have hend := hstart.feed lines
  rwa [Nat.zero_add] at hend

theorem Counts.hides (h : Counts splitter state dollars) :
    splitter.hides state.dollarLines = isHidden splitter.database dollars := by
  cases hquoting : splitter.database.usesDollarQuoting
  · rw [hides_of_not_usesDollarQuoting hquoting]
    unfold Database.usesDollarQuoting at hquoting
    rw [isHidden, hquoting, Bool.false_and]
  · rw [h hquoting]
    rfl

/-- The splitter hides the delimiter on a line where the number up to it says so. -/
theorem Counts.hides_dollarsWith (h : Counts splitter state dollars) (line : List Char) :
    splitter.hides (splitter.dollarsWith state line) =
      isHidden splitter.database (dollars + if isDollarLine line then 1 else 0) := by
  have hnext : Counts splitter ⟨[], splitter.dollarsWith state line⟩
      (dollars + if isDollarLine line then 1 else 0) := h.dollarsWith_eq line
  exact hnext.hides

end ScriptReplay.Splitter
