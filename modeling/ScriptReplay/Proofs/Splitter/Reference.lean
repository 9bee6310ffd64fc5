import ScriptReplay.Proofs.Delimiter.Standard
import ScriptReplay.Proofs.Splitter.DelimiterLine
import ScriptReplay.Proofs.Splitter.KeptLines

/-!
# Splitting as cutting one text

What the statements of a script are, said without lines and without a pending statement: the kept
lines are put together into one text, and that text is cut at every semicolon that is not hidden
(`referencePieces`). `squeezed_split_eq_squeezed_referencePieces` compares this with what the
splitter does, up to spaces.

The reading of a script from a state is compared with the cuts of the text that is left, whose first
piece begins with what is pending (`cuts`).
-/

namespace ScriptReplay.Splitter

/-- Pieces without spaces in them, as far as anything is left of them. -/
def squeezed (pieces : List (List Char)) : List (List Char) :=
  (pieces.map (·.filter (· != ' '))).filter (!·.isEmpty)

/-- The text of numbered lines, each character with whether the delimiter is hidden there. -/
def shaded (database : Database) (lines : List (List Char × Nat)) : List (Char × Bool) :=
  lines.flatMap fun (line, dollars) => line.map fun c => (c, isHidden database dollars)

/-- A semicolon that is not hidden. -/
def isBoundary : Char × Bool → Bool
  | (c, hidden) => c == ';' && !hidden

/-- The pieces of a script's text between the semicolons that are not hidden. -/
def referencePieces (database : Database) (lines : List (List Char)) : List (List Char) :=
  ((shaded database (numbered 0 (keptLines lines))).splitOnP isBoundary).map (·.map Prod.fst)

/-! ## Squeezing -/

theorem squeezed_append (pieces more : List (List Char)) :
    squeezed (pieces ++ more) = squeezed pieces ++ squeezed more := by
  simp [squeezed]

theorem squeezed_cons (piece : List Char) (pieces : List (List Char)) :
    squeezed (piece :: pieces) = squeezed [piece] ++ squeezed pieces :=
  squeezed_append [piece] pieces

theorem squeezed_singleton_nil : squeezed [[]] = [] := rfl

theorem squeezed_dropEmptyTail (pieces : List (List Char)) :
    squeezed (Text.dropEmptyTail pieces) = squeezed pieces := by
  induction pieces with
  | nil => rfl
  | cons piece pieces ih =>
    rw [Text.dropEmptyTail_cons, squeezed_cons piece pieces, ← ih]
    split
    · next h =>
      rw [Bool.and_eq_true, List.isEmpty_iff, List.isEmpty_iff] at h
      rw [h.1, h.2]
      rfl
    · exact squeezed_cons piece _

/-! ## Cuts of a text that has begun before -/

/-- The pieces of a text between the boundaries, where the first piece has begun before the text. -/
def cuts (pending : List Char) (text : List (Char × Bool)) : List (List Char) :=
  ((text.splitOnP isBoundary).map (·.map Prod.fst)).modifyHead (pending ++ ·)

variable {pending line : List Char} {text : List (Char × Bool)}

theorem exists_splitOnP_eq_cons (text : List (Char × Bool)) :
    ∃ first rest, text.splitOnP isBoundary = first :: rest :=
  List.exists_cons_of_ne_nil (List.splitOnP_ne_nil isBoundary text)

theorem cuts_nil : cuts pending [] = [pending] := by
  simp [cuts]

theorem cuts_boundary {c : Char × Bool} (h : isBoundary c = true) :
    cuts pending (c :: text) = pending :: cuts [] text := by
  obtain ⟨first, rest, hpieces⟩ := exists_splitOnP_eq_cons text
  simp [cuts, List.splitOnP_cons_eq_if_modifyHead, h, hpieces]

theorem cuts_cons {c : Char × Bool} (h : isBoundary c = false) :
    cuts pending (c :: text) = cuts (pending ++ [c.1]) text := by
  obtain ⟨first, rest, hpieces⟩ := exists_splitOnP_eq_cons text
  simp [cuts, List.splitOnP_cons_eq_if_modifyHead, h, hpieces]

/-- A line without boundaries goes on with the piece that is pending. -/
theorem cuts_append {hidden : Bool} (h : ∀ c ∈ line, isBoundary (c, hidden) = false) :
    cuts pending (line.map (fun c => (c, hidden)) ++ text) = cuts (pending ++ line) text := by
  induction line generalizing pending with
  | nil => simp
  | cons c line ih =>
    rw [List.forall_mem_cons] at h
    rw [List.map_cons, List.cons_append, cuts_cons h.1, ih h.2, List.append_assoc]
    rfl

theorem isBoundary_of_hidden (c : Char) : isBoundary (c, true) = false := by
  simp [isBoundary]

theorem isBoundary_of_ne {c : Char} (h : c ≠ ';') : isBoundary (c, false) = false := by
  simp [isBoundary, h]

/-- A line that is cut at its semicolons closes a piece at each of them. -/
theorem cuts_intercalate (pending : List Char) (text : List (Char × Bool))
    {first last : List Char} {middle : List (List Char)}
    (h : ∀ piece ∈ first :: (middle ++ [last]), ';' ∉ piece) :
    cuts pending
        (([';'].intercalate (first :: (middle ++ [last]))).map (fun c => (c, false)) ++ text) =
      (pending ++ first) :: middle ++ cuts last text := by
  have hfree {piece : List Char} (hpiece : ';' ∉ piece) :
      ∀ c ∈ piece, isBoundary (c, false) = false := fun c hc =>
    isBoundary_of_ne (ne_of_mem_of_not_mem hc hpiece)
  rw [List.forall_mem_cons] at h
  induction middle generalizing pending first with
  | nil =>
    have hlast : ';' ∉ last := h.2 last (by simp)
    simp only [List.nil_append, List.intercalate_cons_cons, List.intercalate_singleton,
      List.map_append, List.append_assoc, List.map_cons, List.cons_append]
    rw [cuts_append (hfree h.1), cuts_boundary rfl, cuts_append (hfree hlast), List.nil_append]
  | cons piece middle ih =>
    rw [List.cons_append, List.forall_mem_cons] at h
    simp only [List.cons_append, List.intercalate_cons_cons, List.map_append, List.append_assoc,
      List.map_cons, List.nil_append]
    rw [cuts_append (hfree h.1), cuts_boundary rfl, ih [] h.2, List.nil_append, List.cons_append]

/-- Spaces in the pending piece do not matter. -/
theorem squeezed_cuts_congr {other : List Char}
    (h : pending.filter (· != ' ') = other.filter (· != ' ')) :
    squeezed (cuts pending text) = squeezed (cuts other text) := by
  obtain ⟨first, rest, hpieces⟩ := exists_splitOnP_eq_cons text
  simp only [squeezed, cuts, hpieces, List.map_cons, List.modifyHead_cons, List.filter_append, h]

/-! ## A line that is cut -/

section Cut

variable {first last : List Char} {middle : List (List Char)}

theorem exists_splitOn_eq (h : ';' ∈ line) :
    ∃ first middle last, line.splitOn ';' = first :: (middle ++ [last]) := by
  obtain ⟨first, rest, hpieces⟩ := List.exists_cons_of_ne_nil (List.splitOn_ne_nil ';' line)
  obtain rfl | ⟨middle, last, hrest⟩ := List.eq_nil_or_concat rest
  · have hline : [';'].intercalate (line.splitOn ';') = line := List.intercalate_splitOn ';'
    rw [hpieces, List.intercalate_singleton] at hline
    have hfirst : ';' ∉ first := Text.not_mem_of_mem_splitOn (hpieces ▸ List.mem_singleton_self _)
    exact absurd (hline ▸ h) hfirst
  · rw [List.concat_eq_append] at hrest
    exact ⟨first, middle, last, hrest ▸ hpieces⟩

theorem exists_intercalate_eq_append (first last : List Char) (middle : List (List Char)) :
    ∃ init, [';'].intercalate (first :: (middle ++ [last])) = init ++ ';' :: last := by
  induction middle generalizing first with
  | nil => exact ⟨first, by simp [List.intercalate_cons_cons]⟩
  | cons piece middle ih =>
    obtain ⟨init, hinit⟩ := ih piece
    exact ⟨first ++ ';' :: init, by simp [List.intercalate_cons_cons, hinit]⟩

variable (hpieces : line.splitOn ';' = first :: (middle ++ [last]))
include hpieces

/-- A line ends in a semicolon where its last piece is empty. -/
theorem isSuffixOf_iff_of_splitOn : [';'].isSuffixOf line = true ↔ last = [] := by
  obtain ⟨init, hinit⟩ := exists_intercalate_eq_append first last middle
  have hline : [';'].intercalate (line.splitOn ';') = line := List.intercalate_splitOn ';'
  rw [hpieces, hinit] at hline
  have hmem : last ∈ line.splitOn ';' := by rw [hpieces]; simp
  have hlast : ';' ∉ last := Text.not_mem_of_mem_splitOn hmem
  rw [List.isSuffixOf_iff_suffix, List.singleton_suffix_iff_getLast?_eq_some, ← hline,
    List.getLast?_append_of_ne_nil _ (List.cons_ne_nil _ _)]
  constructor
  · intro h
    cases last with
    | nil => rfl
    | cons c cs =>
      rw [List.getLast?_cons_cons] at h
      exact absurd (List.mem_of_getLast? h) hlast
  · rintro rfl
    rfl

/-- The standard delimiter cuts a line into its pieces, up to empty ones. -/
theorem cutLine_standard (pending : List Char) (hne : Delimiter.standard.fragments line ≠ []) :
    ∃ done, cutLine .standard line pending = ((pending ++ ' ' :: first) :: done, last) ∧
      squeezed done = squeezed middle := by
  have hfragments : Delimiter.standard.fragments line =
      first :: Text.dropEmptyTail (middle ++ [last]) := by
    rw [Delimiter.fragments_standard, hpieces, Text.dropEmptyTail_cons] at hne ⊢
    exact if_neg fun h => hne (if_pos h)
  have hsuffix := isSuffixOf_iff_of_splitOn hpieces
  rw [← Delimiter.literal_standard] at hsuffix
  simp only [cutLine, hfragments]
  by_cases hlast : last = []
  · rw [if_pos (hsuffix.2 hlast), hlast]
    refine ⟨_, rfl, ?_⟩
    rw [squeezed_dropEmptyTail, squeezed_append, squeezed_singleton_nil, List.append_nil]
  · rw [if_neg (mt hsuffix.1 hlast), Text.dropEmptyTail_concat hlast]
    exact ⟨middle, by simp, rfl⟩

end Cut

/-! ## One line -/

section Line

variable {splitter : Splitter} {state : State} {line : List Char}

variable
  (hstandard : splitter.delimiter = .standard) (hkept : isSkipped (trimmed line) = false)
include hstandard hkept

/-- A line without a semicolon in sight goes on with the piece that is pending. -/
theorem squeezed_step_continue {hidden : Bool} (hline : trimmed line ≠ [';'])
    (hunseen : ';' ∉ trimmed line ∨
      splitter.hides (splitter.dollarsWith state (trimmed line)) = true)
    (hbound : ∀ c ∈ trimmed line, isBoundary (c, hidden) = false) :
    squeezed (splitter.step state line).1 ++
        squeezed (cuts (splitter.step state line).2.pending text) =
      squeezed (cuts state.pending ((trimmed line).map (fun c => (c, hidden)) ++ text)) := by
  have hstays : splitter.delimiter.isLine (trimmed line) = false := by
    rw [hstandard]
    exact Delimiter.isLine_standard_eq_false hline
  have hoccurs : splitter.delimiter.occursIn (trimmed line) = false ∨
      splitter.hides (splitter.dollarsWith state (trimmed line)) = true := by
    rw [hstandard]
    exact hunseen.imp_left Delimiter.occursIn_standard_eq_false
  rw [step_continue hkept (.inl hstays) hoccurs, cuts_append hbound]
  exact squeezed_cuts_congr (by simp)

/-- A line of one semicolon closes the piece that is pending. -/
theorem squeezed_step_semicolon (hline : trimmed line = [';'])
    (hseen : splitter.hides (splitter.dollarsWith state (trimmed line)) = false) :
    squeezed (splitter.step state line).1 ++
        squeezed (cuts (splitter.step state line).2.pending text) =
      squeezed (cuts state.pending ((trimmed line).map (fun c => (c, false)) ++ text)) := by
  have hcloses : splitter.delimiter.isLine (trimmed line) = true := by
    rw [hstandard, Delimiter.isLine_standard_iff]
    exact hline
  have hboundary : cuts state.pending ((trimmed line).map (fun c => (c, false)) ++ text) =
      state.pending :: cuts [] text := by
    rw [hline]
    exact cuts_boundary rfl
  rw [hboundary, squeezed_cons]
  by_cases hpending : state.pending = []
  · have hliteral : trimmed line = (List.replicate 1 splitter.delimiter.literal).flatten := by
      rw [hline, hstandard, Delimiter.literal_standard]
      rfl
    rw [step_replicate hkept (.inr hpending) hseen hliteral, hpending]
    rfl
  · rw [step_close hkept hcloses hpending]

/-- A line with semicolons and more in it is cut at each of them. -/
theorem squeezed_step_cut (hline : trimmed line ≠ [';']) (hmem : ';' ∈ trimmed line)
    (hmore : ¬ (2 ≤ (trimmed line).length ∧ ∀ c ∈ trimmed line, c = ';'))
    (hseen : splitter.hides (splitter.dollarsWith state (trimmed line)) = false) :
    squeezed (splitter.step state line).1 ++
        squeezed (cuts (splitter.step state line).2.pending text) =
      squeezed (cuts state.pending ((trimmed line).map (fun c => (c, false)) ++ text)) := by
  have hstays : splitter.delimiter.isLine (trimmed line) = false := by
    rw [hstandard]
    exact Delimiter.isLine_standard_eq_false hline
  have hoccurs : splitter.delimiter.occursIn (trimmed line) = true := by
    rw [hstandard, Delimiter.occursIn_standard_iff]
    exact hmem
  have hfragments : Delimiter.standard.fragments (trimmed line) ≠ [] := by
    intro hnil
    obtain ⟨k, hk⟩ := Text.fragments_eq_nil_iff.1 hnil
    rw [Delimiter.literal_standard, List.flatten_replicate_singleton] at hk
    rw [hk] at hmore hline hmem
    have hk1 : k ≠ 1 := by rintro rfl; exact hline rfl
    have hk0 : k ≠ 0 := by rintro rfl; cases hmem
    exact hmore ⟨by rw [List.length_replicate]; omega, fun c hc => List.eq_of_mem_replicate hc⟩
  obtain ⟨first, middle, last, hpieces⟩ := exists_splitOn_eq hmem
  obtain ⟨done, hcut, hdone⟩ := cutLine_standard hpieces state.pending hfragments
  have htext := cuts_intercalate state.pending text
    (fun piece hpiece => Text.not_mem_of_mem_splitOn (hpieces ▸ hpiece))
  rw [← hpieces, List.intercalate_splitOn] at htext
  rw [step_cut hkept (.inl hstays) hoccurs hseen, hstandard, hcut, htext, List.cons_append,
    squeezed_cons, squeezed_cons (state.pending ++ first), squeezed_append, hdone,
    List.append_assoc]
  simp [squeezed]

end Line

/-! ## Whole scripts -/

theorem shaded_cons (database : Database) (line : List Char) (dollars : Nat)
    (rest : List (List Char × Nat)) :
    shaded database ((line, dollars) :: rest) =
      line.map (fun c => (c, isHidden database dollars)) ++ shaded database rest := rfl

/-- The lines for which the splitter agrees with the reference. No line that shows its semicolons
consists of two or more of them and nothing else, and no line that hides them is one alone. -/
structure Regular (database : Database) (lines : List (List Char × Nat)) : Prop where
  visible : ∀ line ∈ lines, isHidden database line.2 = false →
    ¬ (2 ≤ line.1.length ∧ ∀ c ∈ line.1, c = ';')
  hidden : ∀ line ∈ lines, isHidden database line.2 = true → line.1 ≠ [';']

theorem Regular.tail {database : Database} {line : List Char × Nat}
    {rest : List (List Char × Nat)} (h : Regular database (line :: rest)) :
    Regular database rest :=
  ⟨fun l hl => h.visible l (List.mem_cons_of_mem _ hl),
    fun l hl => h.hidden l (List.mem_cons_of_mem _ hl)⟩

theorem regular_iff_all (database : Database) (lines : List (List Char × Nat)) :
    Regular database lines ↔ (lines.all fun line =>
      if isHidden database line.2 then line.1 != [';']
      else !(decide (2 ≤ line.1.length) && line.1.all (· == ';'))) = true := by
  rw [List.all_eq_true]
  have hline (line : List Char × Nat) :
      (if isHidden database line.2 then line.1 != [';']
        else !(decide (2 ≤ line.1.length) && line.1.all (· == ';'))) = true ↔
      (isHidden database line.2 = false → ¬ (2 ≤ line.1.length ∧ ∀ c ∈ line.1, c = ';')) ∧
        (isHidden database line.2 = true → line.1 ≠ [';']) := by
    cases isHidden database line.2 with
    | true => simp
    | false =>
      simp only [Bool.false_eq_true, if_false, forall_const, false_implies, and_true,
        Bool.not_eq_true', ← Bool.not_eq_true, Bool.and_eq_true, decide_eq_true_eq,
        List.all_eq_true, beq_iff_eq]
  constructor
  · intro h line hmem
    exact (hline line).2 ⟨h.visible line hmem, h.hidden line hmem⟩
  · intro h
    exact ⟨fun line hmem => ((hline line).1 (h line hmem)).1,
      fun line hmem => ((hline line).1 (h line hmem)).2⟩

instance (database : Database) (lines : List (List Char × Nat)) :
    Decidable (Regular database lines) :=
  decidable_of_iff _ (regular_iff_all database lines).symm

/-- Reading on from a state gives the cuts of the text that is left. -/
theorem squeezed_splitFrom {splitter : Splitter} (hstandard : splitter.delimiter = .standard)
    (lines : List (List Char)) {state : State} {dollars : Nat}
    (hcount : Counts splitter state dollars)
    (hregular : Regular splitter.database (numbered dollars (keptLines lines))) :
    squeezed (splitter.splitFrom state lines) =
      squeezed (cuts state.pending
        (shaded splitter.database (numbered dollars (keptLines lines)))) := by
  induction lines generalizing state dollars with
  | nil =>
    rw [splitFrom_nil,
      show shaded splitter.database (numbered dollars (keptLines [])) = [] from rfl, cuts_nil]
    cases hpending : state.pending with
    | nil => rw [flush_of_pending_eq_nil hpending]; rfl
    | cons c rest => rw [flush_of_pending_ne_nil (by simp [hpending]), hpending]
  | cons line rest ih =>
    rw [splitFrom_cons, keptLines_cons]
    rw [keptLines_cons] at hregular
    cases hkept : isSkipped (trimmed line)
    · rw [hkept] at hregular
      simp only [Bool.false_eq_true, ↓reduceIte, numbered_cons, shaded_cons] at hregular ⊢
      have hnext := hcount.step hkept
      have hhides := hcount.hides_dollarsWith (trimmed line)
      rw [squeezed_append, ih hnext hregular.tail]
      have hvisible := hregular.visible _ (List.mem_cons_self ..)
      have hhidden := hregular.hidden _ (List.mem_cons_self ..)
      cases hhere : isHidden splitter.database
        (dollars + if isDollarLine (trimmed line) then 1 else 0)
      · rw [hhere] at hhides
        by_cases hline : trimmed line = [';']
        · exact squeezed_step_semicolon hstandard hkept hline hhides
        · by_cases hmem : ';' ∈ trimmed line
          · exact squeezed_step_cut hstandard hkept hline hmem (hvisible hhere) hhides
          · exact squeezed_step_continue hstandard hkept hline (.inl hmem) fun c hc =>
              isBoundary_of_ne (ne_of_mem_of_not_mem hc hmem)
      · rw [hhere] at hhides
        exact squeezed_step_continue hstandard hkept (hhidden hhere) (.inr hhides) fun c _ =>
          isBoundary_of_hidden c
    · rw [step_skip hkept, List.nil_append]
      rw [hkept] at hregular
      exact ih hcount hregular

/-- The statements of a script are, up to spaces, the pieces of its text between the semicolons that
no lines in dollar signs hide: every such semicolon ends a statement, nothing else does, and no text
is lost, doubled or moved to another statement. -/
theorem squeezed_split_eq_squeezed_referencePieces (database : Database) (lines : List String)
    (hregular : Regular database (numbered 0 (keptLines (lines.map String.toList)))) :
    squeezed ((Splitter.split { database } lines).map String.toList) =
      squeezed (referencePieces database (lines.map String.toList)) := by
  have hstandard : ({ database } : Splitter).delimiter = .standard := rfl
  have hcount : Counts { database } {} 0 := fun _ => rfl
  have hsplit := squeezed_splitFrom hstandard (lines.map String.toList) hcount hregular
  have hchars : (Splitter.split { database } lines).map String.toList =
      ({ database } : Splitter).splitFrom {} (lines.map String.toList) := by
    rw [split, List.map_map, splitChars_eq_splitFrom]
    simp [Function.comp_def]
  rw [hchars, hsplit, referencePieces]
  obtain ⟨first, rest, hpieces⟩ := exists_splitOnP_eq_cons
    (shaded database (numbered 0 (keptLines (lines.map String.toList))))
  simp [cuts, hpieces]

/-- A script with a semicolon inside dollar signs, several on a line, and a comment. -/
theorem squeezed_split_function_body :
    Regular .postgresql (numbered 0 (keptLines (List.map String.toList
      ["DO", "$$", "a; b;", "$$", "-- c;", ";", " d ; ; e", "f"]))) ∧
    squeezed ((Splitter.split { database := .postgresql }
      ["DO", "$$", "a; b;", "$$", "-- c;", ";", " d ; ; e", "f"]).map String.toList) =
      ["DO$$a;b;$$".toList, "d".toList, "ef".toList] := by
  have hregular : Regular .postgresql (numbered 0 (keptLines (List.map String.toList
      ["DO", "$$", "a; b;", "$$", "-- c;", ";", " d ; ; e", "f"]))) := by decide
  refine ⟨hregular, ?_⟩
  rw [squeezed_split_eq_squeezed_referencePieces _ _ hregular]
  decide

end ScriptReplay.Splitter
