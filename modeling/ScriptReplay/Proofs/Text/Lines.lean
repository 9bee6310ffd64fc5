import ScriptReplay.Text.LineBreak

/-!
# The lines of a text and of a file

One equation of `fileLines` for each way in which a text begins: with CRLF, with another line break,
or with a character of a line. From them follow

* `textLines_eq_fileLines`: where only CR and LF can break a line, a text has the lines of a file;
* `nonEmpty_fileLines_unlines`: lines written one after another with any endings are read again, up
  to empty ones. A line ended by CR and an empty one ended by LF are read as one, since together
  their endings are CRLF.
-/

namespace ScriptReplay.Text

variable {c : Char} {rest line : List Char}

/-- The characters besides CR and LF at which a text is broken into lines. -/
def otherBreaks : List Char :=
  ['\x0b', '\x0c', '\x1c', '\x1d', '\x1e', '\x85', '\u2028', '\u2029']

/-- A text that is one line of a file. -/
def Unbroken (line : List Char) : Prop :=
  '\r' ∉ line ∧ '\n' ∉ line

instance (line : List Char) : Decidable (Unbroken line) :=
  inferInstanceAs (Decidable ('\r' ∉ line ∧ '\n' ∉ line))

theorem unbroken_cons : Unbroken (c :: line) ↔ (c ≠ '\r' ∧ c ≠ '\n') ∧ Unbroken line := by
  simp only [Unbroken, List.mem_cons, not_or, Ne, eq_comm (a := c)]
  exact and_and_and_comm

/-! ## How the lines of a file begin -/

theorem consHead_ne_nil (c : Char) (pieces : List (List Char)) : consHead c pieces ≠ [] := by
  cases pieces <;> simp [consHead]

theorem filePieces_ne_nil (s : List Char) : filePieces s ≠ [] := by
  fun_cases filePieces s with
  | case1 => simp
  | case2 => simp
  | case3 => simp
  | case4 => exact consHead_ne_nil _ _

theorem dropEmptyLast_cons {pieces : List (List Char)} (h : pieces ≠ []) (piece : List Char) :
    dropEmptyLast (piece :: pieces) = piece :: dropEmptyLast pieces := by
  cases pieces with
  | nil => exact absurd rfl h
  | cons next rest => rfl

theorem dropEmptyLast_consHead {pieces : List (List Char)} (h : pieces ≠ []) (c : Char) :
    dropEmptyLast (consHead c pieces) = consHead c (dropEmptyLast pieces) := by
  cases pieces with
  | nil => exact absurd rfl h
  | cons piece rest =>
    cases rest with
    | nil => cases piece <;> rfl
    | cons next rest => rfl

theorem fileLines_crlf (rest : List Char) :
    fileLines ('\r' :: '\n' :: rest) = [] :: fileLines rest :=
  dropEmptyLast_cons (filePieces_ne_nil rest) []

theorem fileLines_break (hpair : ∀ tail, c = '\r' → rest = '\n' :: tail → False)
    (hbreak : c = '\r' ∨ c = '\n') : fileLines (c :: rest) = [] :: fileLines rest := by
  have hpieces : filePieces (c :: rest) = [] :: filePieces rest := by
    rw [filePieces.eq_3 c rest hpair, if_pos hbreak]
  rw [fileLines, hpieces, dropEmptyLast_cons (filePieces_ne_nil rest)]
  rfl

theorem fileLines_cons (hcr : c ≠ '\r') (hlf : c ≠ '\n') (rest : List Char) :
    fileLines (c :: rest) = consHead c (fileLines rest) := by
  have hpieces : filePieces (c :: rest) = consHead c (filePieces rest) := by
    rw [filePieces.eq_3 c rest fun _ hc => absurd hc hcr, if_neg (by simp [hcr, hlf])]
  rw [fileLines, hpieces, dropEmptyLast_consHead (filePieces_ne_nil rest)]
  rfl

/-! ## The two ways to cut a text into lines -/

theorem isLineBreak_iff (c : Char) :
    isLineBreak c = true ↔ (c = '\r' ∨ c = '\n') ∨ c ∈ otherBreaks := by
  simp only [isLineBreak, otherBreaks, List.mem_cons, List.not_mem_nil, or_false,
    Bool.or_eq_true, Bool.and_eq_true, decide_eq_true_eq, beq_iff_eq, ← Char.toNat_inj]
  simp only [Char.reduceToNat]
  omega

/-- Where only CR and LF can break a line, a text has the lines of a file. -/
theorem textLines_eq_fileLines {s : List Char} (h : ∀ c ∈ s, c ∉ otherBreaks) :
    textLines s = fileLines s := by
  fun_induction textLines s with
  | case1 => rfl
  | case2 rest ih => rw [fileLines_crlf, ih fun c hc => h c (by simp [hc])]
  | case3 c rest hpair hbreak ih =>
    rw [List.forall_mem_cons] at h
    have hfile : c = '\r' ∨ c = '\n' := ((isLineBreak_iff c).1 hbreak).resolve_right h.1
    rw [fileLines_break hpair hfile, ih h.2]
  | case4 c rest _ hplain ih =>
    rw [List.forall_mem_cons] at h
    have hfile : ¬ (c = '\r' ∨ c = '\n') := fun hc => hplain ((isLineBreak_iff c).2 (.inl hc))
    rw [not_or] at hfile
    rw [fileLines_cons hfile.1 hfile.2, ih h.2]

/-! ## Lines written with any endings -/

/-- The lines that are not empty. -/
def nonEmpty (lines : List (List Char)) : List (List Char) :=
  lines.filter (!·.isEmpty)

theorem nonEmpty_cons_nil (lines : List (List Char)) : nonEmpty ([] :: lines) = nonEmpty lines :=
  rfl

theorem nonEmpty_cons_congr {lines more : List (List Char)} (h : nonEmpty lines = nonEmpty more)
    (line : List Char) : nonEmpty (line :: lines) = nonEmpty (line :: more) := by
  unfold nonEmpty at h ⊢
  rw [List.filter_cons, List.filter_cons, h]

/-- A line is put in front of whatever the first line of the rest is. -/
theorem fileLines_append (hline : Unbroken line) {first : List Char} {lines : List (List Char)}
    (h : fileLines rest = first :: lines) :
    fileLines (line ++ rest) = (line ++ first) :: lines := by
  induction line with
  | nil => exact h
  | cons c line ih =>
    obtain ⟨⟨hcr, hlf⟩, hrest⟩ := unbroken_cons.1 hline
    rw [List.cons_append, fileLines_cons hcr hlf, ih hrest]
    rfl

/-- A line without an ending is the last, and is none if it is empty. -/
theorem fileLines_of_unbroken (hline : Unbroken line) :
    fileLines line = if line.isEmpty then [] else [line] := by
  induction line with
  | nil => rfl
  | cons c line ih =>
    obtain ⟨⟨hcr, hlf⟩, hrest⟩ := unbroken_cons.1 hline
    rw [fileLines_cons hcr hlf, ih hrest]
    cases line <;> rfl

/-- A line ending ends one line. Up to empty lines it makes no difference to what is behind it. -/
theorem fileLines_terminator (ending : Terminator) (rest : List Char) :
    ∃ lines, fileLines (ending.chars ++ rest) = [] :: lines ∧
      nonEmpty lines = nonEmpty (fileLines rest) := by
  cases ending with
  | lf => exact ⟨_, fileLines_break (by simp) (.inr rfl), rfl⟩
  | crlf => exact ⟨_, fileLines_crlf rest, rfl⟩
  | cr =>
    by_cases hpair : ∃ tail, rest = '\n' :: tail
    · -- together with the ending of an empty line behind it, a CR is one ending
      obtain ⟨tail, rfl⟩ := hpair
      refine ⟨_, fileLines_crlf tail, ?_⟩
      rw [fileLines_break (by simp) (.inr rfl), nonEmpty_cons_nil]
    · exact ⟨_, fileLines_break (fun tail _ hrest => hpair ⟨tail, hrest⟩) (.inl rfl), rfl⟩

/-- Lines that are written with any endings, and a last line without one, are the lines of the file
up to empty ones. -/
theorem nonEmpty_fileLines_unlines {lines : List (List Char × Terminator)} {last : List Char}
    (hlines : ∀ line ∈ lines, Unbroken line.1) (hlast : Unbroken last) :
    nonEmpty (fileLines (unlines lines ++ last)) = nonEmpty (lines.map Prod.fst ++ [last]) := by
  induction lines with
  | nil =>
    rw [unlines, List.flatMap_nil, List.nil_append, fileLines_of_unbroken hlast]
    cases last with
    | nil => rfl
    | cons c last => rfl
  | cons line lines ih =>
    rw [List.forall_mem_cons] at hlines
    obtain ⟨more, hmore, hsame⟩ := fileLines_terminator line.2 (unlines lines ++ last)
    have hfile : fileLines (unlines (line :: lines) ++ last) = line.1 :: more := by
      have hfirst := fileLines_append hlines.1 hmore
      rwa [List.append_nil, ← List.append_assoc, ← List.append_assoc] at hfirst
    rw [hfile, List.map_cons, List.cons_append]
    exact nonEmpty_cons_congr (hsame.trans (ih hlines.2)) line.1

end ScriptReplay.Text
