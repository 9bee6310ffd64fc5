import ScriptReplay.Proofs.Delimiter.Standard
import ScriptReplay.Proofs.Splitter.Composition

/-!
# Statements written out and read again

A statement is given by its lines. It is written with a semicolon behind its last line, and reading
what was written gives it back in one piece (`split_written`): its lines in their order, with a
space behind each but the last and one before the last. On PostgreSQL the lines between dollar signs
may hold semicolons, and come back as they are.

The lines before the last only become pending (`feed_continuing`), the last completes the statement
(`step_concat_semicolon`), and the splitter is then as it was at the start (`feed_written`).
-/

namespace ScriptReplay.Splitter

/-- The lines of a statement, of which there is at least one. -/
structure Statement where
  init : List String
  last : String

/-- A line that does not end a statement, with the number of lines in dollar signs up to it: it
shows no semicolon, and hides none that is alone on it. -/
def GoesOn (database : Database) (line : List Char × Nat) : Prop :=
  if isHidden database line.2 then line.1 ≠ [';'] else ';' ∉ line.1

instance (database : Database) (line : List Char × Nat) : Decidable (GoesOn database line) :=
  inferInstanceAs (Decidable (if isHidden database line.2 then line.1 ≠ [';'] else ';' ∉ line.1))

namespace Statement

/-- All lines of a statement. -/
def lines (statement : Statement) : List (List Char) :=
  (statement.init ++ [statement.last]).map String.toList

/-- The lines of a statement as they are written, with a semicolon at the end. -/
def written (statement : Statement) : List String :=
  statement.init ++ [statement.last ++ ";"]

/-- The text of a statement that was read. -/
def text (statement : Statement) : String :=
  String.join (statement.init.map (· ++ " ")) ++ " " ++ statement.last

/-- A statement that can be written and read again: its lines are trimmed, are kept, and do not end
it; and on PostgreSQL what its dollar signs open is closed before the last line. -/
structure Readable (database : Database) (statement : Statement) : Prop where
  begins : ∀ line ∈ statement.lines, ∀ c ∈ line.head?, 0x20 < c.toNat
  ends : ∀ line ∈ statement.lines, ∀ c ∈ line.getLast?, 0x20 < c.toNat
  kept : ∀ line ∈ statement.lines, isSkipped line = false
  goesOn : ∀ line ∈ numbered 0 statement.lines, GoesOn database line
  balanced : database = .postgresql → statement.lines.countP isDollarLine % 2 = 0
  undollared : database = .postgresql → isDollarLine statement.last.toList = false

end Statement

variable {splitter : Splitter} {state : State} {line : List Char} {dollars : Nat}

/-! ## The lines before the last -/

theorem GoesOn.ne_semicolon {database : Database} (h : GoesOn database (line, dollars)) :
    line ≠ [';'] := by
  unfold GoesOn at h
  split at h
  · exact h
  · rintro rfl
    exact h (List.mem_singleton_self _)

theorem GoesOn.not_mem_or_isHidden {database : Database} (h : GoesOn database (line, dollars)) :
    ';' ∉ line ∨ isHidden database dollars = true := by
  unfold GoesOn at h
  split at h
  · next hhidden => exact .inr hhidden
  · exact .inl h

section Standard

variable (hstandard : splitter.delimiter = .standard)
include hstandard

/-- A line that goes on with a statement only becomes pending. -/
theorem step_continuing (htrimmed : trimmed line = line) (hkept : isSkipped line = false)
    (hcount : Counts splitter state dollars)
    (hline : GoesOn splitter.database (line, dollars + if isDollarLine line then 1 else 0)) :
    splitter.step state line =
      ([], ⟨state.pending ++ line ++ [' '], splitter.dollarsWith state line⟩) := by
  have hstays : splitter.delimiter.isLine line = false := by
    rw [hstandard]
    exact Delimiter.isLine_standard_eq_false hline.ne_semicolon
  have hunseen : splitter.delimiter.occursIn line = false ∨
      splitter.hides (splitter.dollarsWith state line) = true := by
    rw [hcount.hides_dollarsWith, hstandard]
    exact hline.not_mem_or_isHidden.imp_left Delimiter.occursIn_standard_eq_false
  rw [← htrimmed] at hkept hstays hunseen
  rw [step_continue hkept (.inl hstays) hunseen, htrimmed]

/-- Lines that go on with a statement only become pending. -/
theorem feed_continuing {lines : List (List Char)} (htrimmed : ∀ line ∈ lines, trimmed line = line)
    (hkept : ∀ line ∈ lines, isSkipped line = false) (hcount : Counts splitter state dollars)
    (hlines : ∀ line ∈ numbered dollars lines, GoesOn splitter.database line) :
    (splitter.feed state lines).1 = [] ∧
      (splitter.feed state lines).2.pending = state.pending ++ lines.flatMap (· ++ [' ']) := by
  induction lines generalizing state dollars with
  | nil => simp [feed_nil]
  | cons line rest ih =>
    rw [numbered_cons] at hlines
    rw [List.forall_mem_cons] at htrimmed hkept hlines
    have hkept' : isSkipped (trimmed line) = false := htrimmed.1.symm ▸ hkept.1
    have hnext := hcount.step hkept'
    rw [htrimmed.1] at hnext
    obtain ⟨hdone, hpending⟩ := ih htrimmed.2 hkept.2 hnext hlines.2
    rw [feed_cons, hdone, hpending,
      step_continuing hstandard htrimmed.1 hkept.1 hcount hlines.1]
    simp

end Standard

/-! ## The last line -/

/-- Nothing that makes a line be skipped ends in a semicolon. -/
theorem getLast?_ne_semicolon {text : List Char} (h : text ∈ schemaLine :: commentMarks) :
    text.getLast? ≠ some ';' := by
  revert text
  decide

theorem isSkipped_concat_semicolon (h : isSkipped line = false) :
    isSkipped (line ++ [';']) = false := by
  simp only [isSkipped, Bool.or_eq_false_iff] at h ⊢
  refine ⟨⟨by simp, ?_⟩, ?_⟩
  · rw [List.any_eq_false] at h ⊢
    intro mark hmark hprefix
    rw [List.isPrefixOf_iff_prefix, List.prefix_concat_iff] at hprefix
    rcases hprefix with rfl | hprefix
    · exact getLast?_ne_semicolon (List.mem_cons_of_mem _ hmark) (List.getLast?_concat ..)
    · exact h.1.2 mark hmark (List.isPrefixOf_iff_prefix.2 hprefix)
  · rw [beq_eq_false_iff_ne]
    intro hschema
    have hlast : (line ++ [';']).getLast? = some ';' := List.getLast?_concat ..
    rw [hschema] at hlast
    exact getLast?_ne_semicolon List.mem_cons_self hlast

theorem isDollarLine_concat_semicolon (line : List Char) :
    isDollarLine (line ++ [';']) = false := by
  rw [← Bool.not_eq_true, isDollarLine_iff]
  rintro ⟨middle, heq, -⟩
  have hlast := congrArg List.getLast? heq
  rw [List.getLast?_concat, ← List.cons_append, List.getLast?_concat] at hlast
  cases hlast

theorem fragments_standard_concat_semicolon (hne : line ≠ []) (hfree : ';' ∉ line) :
    Delimiter.standard.fragments (line ++ [';']) = [line] := by
  have hpieces : (line ++ [';']).splitOn ';' = [line, []] := by
    have hsplit : ([';'].intercalate [line, []]).splitOn ';' = [line, []] :=
      List.splitOn_intercalate ';' (by simp [hfree]) (by simp)
    simpa [List.intercalate_cons_cons] using hsplit
  rw [Delimiter.fragments_standard, hpieces]
  simp [Text.dropEmptyTail, hne]

/-- A line with a semicolon at its end completes a statement, where the semicolon is shown. -/
theorem step_concat_semicolon (hstandard : splitter.delimiter = .standard)
    (hfirst : ∀ c ∈ line.head?, 0x20 < c.toNat) (hkept : isSkipped line = false)
    (hfree : ';' ∉ line) (hseen : splitter.hides state.dollarLines = false) :
    splitter.step state (line ++ [';']) =
      ([state.pending ++ ' ' :: line], ⟨[], state.dollarLines⟩) := by
  have hne : line ≠ [] := ne_nil_of_not_isSkipped hkept
  have htrimmed : trimmed (line ++ [';']) = line ++ [';'] := by
    refine trimmed_eq_self ?_ ?_
    · rwa [List.head?_append_of_ne_nil _ hne]
    · rw [List.getLast?_concat]
      rintro _ ⟨⟩
      decide
  have hkept' : isSkipped (line ++ [';']) = false := isSkipped_concat_semicolon hkept
  have hstays : splitter.delimiter.isLine (line ++ [';']) = false := by
    rw [hstandard]
    exact Delimiter.isLine_standard_eq_false (by simpa using hne)
  have hoccurs : splitter.delimiter.occursIn (line ++ [';']) = true := by
    rw [hstandard, Delimiter.occursIn_standard_iff]
    simp
  have hcount : splitter.dollarsWith state (line ++ [';']) = state.dollarLines :=
    dollarsWith_of_not_isDollarLine (isDollarLine_concat_semicolon line)
  have hcut : cutLine .standard (line ++ [';']) state.pending =
      ([state.pending ++ ' ' :: line], []) := by
    rw [cutLine, fragments_standard_concat_semicolon hne hfree, Delimiter.literal_standard]
    simp
  rw [← hcount] at hseen
  rw [← htrimmed] at hkept' hstays hoccurs hseen
  rw [step_cut hkept' (.inl hstays) hoccurs hseen, htrimmed, hcount, hstandard, hcut]

/-! ## Whole statements -/

namespace Statement

variable {database : Database} {statement : Statement}

theorem lines_eq (statement : Statement) :
    statement.lines = statement.init.map String.toList ++ [statement.last.toList] := by
  simp [lines]

theorem map_toList_written (statement : Statement) :
    statement.written.map String.toList =
      statement.init.map String.toList ++ [statement.last.toList ++ [';']] := by
  simp [written]

theorem toList_text (statement : Statement) :
    statement.text.toList =
      (statement.init.map String.toList).flatMap (· ++ [' ']) ++ ' ' :: statement.last.toList := by
  simp [text, List.flatMap_map]

/-- What dollar signs open is closed before the last line. -/
theorem Readable.isHidden_init (h : statement.Readable database) :
    isHidden database ((statement.init.map String.toList).countP isDollarLine) = false := by
  refine isHidden_eq_false fun hdatabase => ?_
  have hbalanced := h.balanced hdatabase
  rwa [lines_eq, List.countP_append, List.countP_singleton,
    if_neg (by simp [h.undollared hdatabase]), Nat.add_zero] at hbalanced

/-- The last line shows its semicolons, so it has none. -/
theorem Readable.not_mem_last (h : statement.Readable database) :
    ';' ∉ statement.last.toList := by
  have hmem : (statement.last.toList, statement.lines.countP isDollarLine) ∈
      numbered 0 statement.lines := by
    rw [lines_eq, numbered_append, numbered_cons, List.countP_append, List.countP_singleton]
    simp
  have hshown : isHidden database (statement.lines.countP isDollarLine) = false :=
    isHidden_eq_false h.balanced
  exact (h.goesOn _ hmem).not_mem_or_isHidden.resolve_right (by simp [hshown])

end Statement

/-- Reading a statement that was written completes it, and leaves the splitter as it was. -/
theorem feed_written (hstandard : splitter.delimiter = .standard) {statement : Statement}
    (h : statement.Readable splitter.database) :
    (splitter.feed {} (statement.written.map String.toList)).1 = [statement.text.toList] ∧
      Alike splitter (splitter.feed {} (statement.written.map String.toList)).2 {} := by
  have hinit : ∀ line ∈ statement.init.map String.toList, line ∈ statement.lines := by
    intro line hline
    rw [statement.lines_eq]
    exact List.mem_append_left _ hline
  have hlast : statement.last.toList ∈ statement.lines := by
    rw [statement.lines_eq]
    exact List.mem_append_right _ (List.mem_singleton_self _)
  have htrimmed : ∀ line ∈ statement.init.map String.toList, trimmed line = line :=
    fun line hline => trimmed_eq_self (h.begins line (hinit line hline))
      (h.ends line (hinit line hline))
  have hkept : ∀ line ∈ statement.init.map String.toList, isSkipped line = false :=
    fun line hline => h.kept line (hinit line hline)
  have hgoesOn : ∀ line ∈ numbered 0 (statement.init.map String.toList),
      GoesOn splitter.database line := by
    intro line hline
    refine h.goesOn line ?_
    rw [statement.lines_eq, numbered_append]
    exact List.mem_append_left _ hline
  have hstart : Counts splitter {} 0 := fun _ => rfl
  obtain ⟨hdone, hpending⟩ := feed_continuing hstandard htrimmed hkept hstart hgoesOn
  have hcount := counts_feed splitter (statement.init.map String.toList)
  rw [dollarCount, keptLines_eq_self htrimmed hkept] at hcount
  have hstep := step_concat_semicolon hstandard (h.begins _ hlast) (h.kept _ hlast) h.not_mem_last
    (hcount.hides.trans h.isHidden_init)
  rw [statement.map_toList_written, feed_append, feed_cons, feed_nil, hstep, hdone, hpending,
    statement.toList_text]
  have hcount' : Counts splitter
      ⟨[], (splitter.feed {} (statement.init.map String.toList)).2.dollarLines⟩
      ((statement.init.map String.toList).countP isDollarLine) := hcount
  exact ⟨rfl, hcount'.alike_start rfl h.isHidden_init⟩

/-- Statements written one after another are read as they are: one for each, in their order, with
their lines joined by spaces. -/
theorem split_written (database : Database) (statements : List Statement)
    (h : ∀ statement ∈ statements, statement.Readable database) :
    Splitter.split { database } (statements.flatMap Statement.written) =
      statements.map Statement.text := by
  induction statements with
  | nil => rfl
  | cons statement rest ih =>
    rw [List.forall_mem_cons] at h
    obtain ⟨hdone, halike⟩ := @feed_written { database } rfl statement h.1
    rw [List.flatMap_cons, split_append_of_alike halike, ih h.2, split_eq_completed halike.pending,
      completed, hdone]
    simp

/-- A function body with semicolons of its own. -/
def functionBody : Statement := ⟨["DO", "$$", "a; b;", "$$"], "LANGUAGE c"⟩

/-- A function body stays in its statement as it is. -/
theorem split_written_functionBody :
    (∀ statement ∈ [functionBody, ⟨[], "SELECT 1"⟩], statement.Readable .postgresql) ∧
      Splitter.split { database := .postgresql }
          ["DO", "$$", "a; b;", "$$", "LANGUAGE c;", "SELECT 1;"] =
        ["DO $$ a; b; $$  LANGUAGE c", " SELECT 1"] := by
  have hreadable : ∀ statement ∈ [functionBody, ⟨[], "SELECT 1"⟩],
      statement.Readable .postgresql := by
    rw [List.forall_mem_cons, List.forall_mem_singleton]
    constructor
    · exact ⟨by simp [Statement.lines, functionBody], by simp [Statement.lines, functionBody],
        by decide, by decide, by decide, by decide⟩
    · exact ⟨by simp [Statement.lines], by simp [Statement.lines],
        by decide, by decide, by decide, by decide⟩
  have hread := split_written .postgresql [functionBody, ⟨[], "SELECT 1"⟩] hreadable
  have hlines : [functionBody, ⟨[], "SELECT 1"⟩].flatMap Statement.written =
      ["DO", "$$", "a; b;", "$$", "LANGUAGE c;", "SELECT 1;"] := by decide
  have htexts : [functionBody, ⟨[], "SELECT 1"⟩].map Statement.text =
      ["DO $$ a; b; $$  LANGUAGE c", " SELECT 1"] := by decide
  rw [hlines, htexts] at hread
  exact ⟨hreadable, hread⟩

end ScriptReplay.Splitter
