import ScriptReplay.Delimiter
import ScriptReplay.Proofs.Text.Pieces

/-!
# The fragments of a line

A line is read from left to right and cut at each delimiter that is met, so delimiters do not
overlap and each is the first behind the one before it. `Text.Fragmented` says so of pieces and a
text without any word on how the pieces are found. `fragments_eq_iff_fragmented`: there is exactly
one list of pieces that fits a line, and it is the one that cutting gives.
-/

namespace ScriptReplay.Text

variable {sep piece s : List Char} {pieces : List (List Char)} {trailing : Nat}

/-! ## The first separator -/

/-- The separator behind a piece is the first that is met: it occurs nowhere else, not even across
the end of the piece. -/
def MetBehind (sep piece : List Char) : Prop :=
  ∀ before after, piece ++ sep = before ++ sep ++ after → before = piece

theorem metBehind_nil : MetBehind sep [] := by
  intro before after h
  have hlength := congrArg List.length h
  simp only [List.nil_append, List.length_append] at hlength
  apply List.eq_nil_of_length_eq_zero
  omega

theorem metBehind_cons_iff {c : Char} :
    MetBehind sep (c :: piece) ↔ ¬ sep <+: c :: (piece ++ sep) ∧ MetBehind sep piece := by
  constructor
  · intro h
    refine ⟨?_, fun before after hmet => ?_⟩
    · rintro ⟨after, hmet⟩
      exact absurd (h [] after (by simp [hmet])) (List.cons_ne_nil c piece).symm
    · exact (List.cons.inj (h (c :: before) after (by simp [hmet]))).2
  · rintro ⟨hfirst, hlater⟩ before after hmet
    cases before with
    | nil => exact absurd ⟨after, by simpa using hmet.symm⟩ hfirst
    | cons d before =>
      simp only [List.cons_append, List.cons.injEq] at hmet
      obtain ⟨rfl, hmet⟩ := hmet
      rw [hlater before after hmet]

/-- A piece that the separator is met behind does not hold it. -/
theorem MetBehind.not_infix (hsep : sep ≠ []) (h : MetBehind sep piece) : ¬ sep <:+: piece := by
  rintro ⟨before, after, rfl⟩
  have hbefore := congrArg List.length (h before (after ++ sep) (by simp))
  have hpos := List.length_pos_iff.2 hsep
  simp only [List.length_append] at hbefore
  omega

/-- A text that holds the separator can be read up to the first one. -/
theorem exists_metBehind (h : sep <:+: s) :
    ∃ piece rest, s = piece ++ (sep ++ rest) ∧ MetBehind sep piece := by
  induction s with
  | nil =>
    obtain rfl := List.infix_nil.1 h
    exact ⟨[], [], rfl, metBehind_nil⟩
  | cons c s ih =>
    by_cases hprefix : sep <+: c :: s
    · obtain ⟨rest, hrest⟩ := hprefix
      exact ⟨[], rest, hrest.symm, metBehind_nil⟩
    · have hlater : sep <:+: s := (List.infix_cons_iff.1 h).resolve_left hprefix
      obtain ⟨piece, rest, rfl, hmet⟩ := ih hlater
      refine ⟨c :: piece, rest, rfl, metBehind_cons_iff.2 ⟨fun hfirst => ?_, hmet⟩⟩
      apply hprefix
      rw [← List.append_assoc, ← List.cons_append]
      exact hfirst.trans (List.prefix_append _ rest)

/-! ## Pieces of a text -/

/-- A text as pieces with one separator between any two of them and some more behind the last, which
is not empty. No piece holds the separator, and each separator is the first that is met behind the
one before it. -/
structure Fragmented (sep s : List Char) (pieces : List (List Char)) (trailing : Nat) : Prop where
  text_eq : s = sep.intercalate pieces ++ (List.replicate trailing sep).flatten
  last_ne_nil : ∀ piece ∈ pieces.getLast?, piece ≠ []
  not_infix : ∀ piece ∈ pieces, ¬ sep <:+: piece
  metBehind : ∀ piece ∈ if trailing = 0 then pieces.dropLast else pieces, MetBehind sep piece

theorem fragmented_nil (trailing : Nat) :
    Fragmented sep (List.replicate trailing sep).flatten [] trailing where
  text_eq := by simp
  last_ne_nil := by simp
  not_infix := by simp
  metBehind := by simp

theorem fragmented_singleton (hne : piece ≠ []) (hfree : ¬ sep <:+: piece)
    (hmet : trailing ≠ 0 → MetBehind sep piece) :
    Fragmented sep (piece ++ (List.replicate trailing sep).flatten) [piece] trailing where
  text_eq := by simp
  last_ne_nil := by simp [hne]
  not_infix := by simp [hfree]
  metBehind := by
    by_cases htrailing : trailing = 0
    · simp [htrailing]
    · simpa [htrailing] using hmet htrailing

/-- One more piece in front of others. -/
theorem Fragmented.cons (h : Fragmented sep s pieces trailing) (hpieces : pieces ≠ [])
    (hfree : ¬ sep <:+: piece) (hmet : MetBehind sep piece) :
    Fragmented sep (piece ++ (sep ++ s)) (piece :: pieces) trailing where
  text_eq := by
    rw [h.text_eq, List.intercalate_cons_of_ne_nil hpieces]
    simp
  last_ne_nil := by
    rw [List.getLast?_cons_of_ne_nil hpieces]
    exact h.last_ne_nil
  not_infix := List.forall_mem_cons.2 ⟨hfree, h.not_infix⟩
  metBehind := by
    have hlater := h.metBehind
    by_cases htrailing : trailing = 0
    · simp only [htrailing, if_true] at hlater ⊢
      rw [List.dropLast_cons_of_ne_nil hpieces]
      exact List.forall_mem_cons.2 ⟨hmet, hlater⟩
    · simp only [htrailing, if_false] at hlater ⊢
      exact List.forall_mem_cons.2 ⟨hmet, hlater⟩

/-- Every text can be read so. -/
theorem exists_fragmented (hsep : sep ≠ []) (s : List Char) :
    ∃ pieces trailing, Fragmented sep s pieces trailing := by
  induction hlength : s.length using Nat.strongRecOn generalizing s with
  | _ n ih =>
    by_cases hholds : sep <:+: s
    · obtain ⟨piece, rest, rfl, hmet⟩ := exists_metBehind hholds
      have hshort : rest.length < n := by
        have hpos := List.length_pos_iff.2 hsep
        simp only [List.length_append] at hlength
        omega
      obtain ⟨pieces, trailing, hrest⟩ := ih rest.length hshort rest rfl
      have hfree := hmet.not_infix hsep
      by_cases hpieces : pieces = []
      · -- what is behind the first separator are separators only
        subst hpieces
        have htext : sep ++ rest = (List.replicate (trailing + 1) sep).flatten := by
          rw [hrest.text_eq]
          simp [List.replicate_succ]
        by_cases hpiece : piece = []
        · exact ⟨[], trailing + 1, by rw [hpiece, htext]; exact fragmented_nil _⟩
        · exact ⟨[piece], trailing + 1, by
            rw [htext]; exact fragmented_singleton hpiece hfree fun _ => hmet⟩
      · exact ⟨piece :: pieces, trailing, hrest.cons hpieces hfree hmet⟩
    · by_cases hs : s = []
      · exact ⟨[], 0, by rw [hs]; exact fragmented_nil 0⟩
      · have hwhole : Fragmented sep (s ++ (List.replicate 0 sep).flatten) [s] 0 :=
          fragmented_singleton hs hholds fun h => absurd rfl h
        exact ⟨[s], 0, by simpa using hwhole⟩

/-! ## Cutting finds the pieces -/

section Cut

variable (hsep : sep ≠ [])
include hsep

/-- A cut goes on behind the first separator. -/
theorem cut_of_metBehind (hmet : MetBehind sep piece) (s : List Char) :
    cut sep (piece ++ (sep ++ s)) = piece :: cut sep s := by
  induction piece with
  | nil => exact cut_append hsep s
  | cons c piece ih =>
    obtain ⟨hfirst, hlater⟩ := metBehind_cons_iff.1 hmet
    have hnot : ¬ sep <+: c :: (piece ++ (sep ++ s)) := by
      intro hprefix
      apply hfirst
      rw [← List.append_assoc, ← List.cons_append] at hprefix
      refine List.prefix_of_prefix_length_le hprefix (List.prefix_append _ s) ?_
      simp only [List.length_cons, List.length_append]
      omega
    rw [List.cons_append, cut_cons_of_not_begins hsep hnot, ih hlater]
    rfl

/-- A text that does not hold the separator is not cut. -/
theorem cut_of_not_infix (h : ¬ sep <:+: s) : cut sep s = [s] := by
  induction s with
  | nil => exact cut_nil hsep
  | cons c s ih =>
    rw [List.infix_cons_iff, not_or] at h
    rw [cut_cons_of_not_begins hsep h.1, ih h.2]
    rfl

omit hsep in
theorem dropEmptyTail_append_replicate (pieces : List (List Char)) (k : Nat) :
    dropEmptyTail (pieces ++ List.replicate k []) = dropEmptyTail pieces := by
  induction pieces with
  | nil =>
    have hempty : dropEmptyTail (List.replicate k []) = [] :=
      dropEmptyTail_eq_nil_iff.2 fun piece hpiece => List.eq_of_mem_replicate hpiece
    rw [List.nil_append, hempty]
    rfl
  | cons piece pieces ih => rw [List.cons_append, dropEmptyTail_cons, dropEmptyTail_cons, ih]

/-- What is cut off a text behind its last piece are empty pieces. -/
theorem Fragmented.exists_cut_eq (h : Fragmented sep s pieces trailing) :
    ∃ k, cut sep s = pieces ++ List.replicate k [] := by
  obtain ⟨rfl, -, hfree, hmet⟩ := h
  induction pieces with
  | nil => exact ⟨trailing + 1, by simpa using cut_replicate hsep trailing⟩
  | cons piece pieces ih =>
    have hpiece : ¬ sep <:+: piece := hfree piece List.mem_cons_self
    by_cases hpieces : pieces = []
    · subst hpieces
      cases trailing with
      | zero => exact ⟨0, by simpa using cut_of_not_infix hsep hpiece⟩
      | succ trailing =>
        have hbehind : MetBehind sep piece := by simpa using hmet
        refine ⟨trailing + 1, ?_⟩
        rw [List.intercalate_singleton, List.replicate_succ, List.flatten_cons,
          cut_of_metBehind hsep hbehind, cut_replicate hsep]
        rfl
    · have hbehind : MetBehind sep piece := by
        apply hmet piece
        split
        · rw [List.dropLast_cons_of_ne_nil hpieces]
          exact List.mem_cons_self
        · exact List.mem_cons_self
      obtain ⟨k, hk⟩ := ih (fun p hp => hfree p (List.mem_cons_of_mem _ hp)) fun p hp => by
        apply hmet p
        split at hp
        · next htrailing =>
          rw [if_pos htrailing, List.dropLast_cons_of_ne_nil hpieces]
          exact List.mem_cons_of_mem _ hp
        · next htrailing =>
          rw [if_neg htrailing]
          exact List.mem_cons_of_mem _ hp
      refine ⟨k, ?_⟩
      rw [List.intercalate_cons_of_ne_nil hpieces, List.append_assoc, List.append_assoc,
        cut_of_metBehind hsep hbehind, hk]
      rfl

theorem Fragmented.fragments_eq (h : Fragmented sep s pieces trailing) :
    fragments sep s = pieces := by
  obtain ⟨k, hk⟩ := h.exists_cut_eq hsep
  rw [fragments, hk, dropEmptyTail_append_replicate]
  rcases List.eq_nil_or_concat pieces with rfl | ⟨init, last, rfl⟩
  · rfl
  · rw [List.concat_eq_append]
    exact dropEmptyTail_concat (h.last_ne_nil last (by simp)) init

end Cut

end ScriptReplay.Text

namespace ScriptReplay.Delimiter

/-- The fragments of a line are the one list of pieces of which the line can be put together with
the literal, each literal being the first that is met. Putting them together again loses the literals
at the end and nothing else, and only the repetitions of the literal have no fragments. -/
theorem fragments_eq_iff_fragmented (delimiter : Delimiter) (hliteral : delimiter.literal ≠ [])
    (line : List Char) :
    (∀ pieces, delimiter.fragments line = pieces ↔
      ∃ trailing, Text.Fragmented delimiter.literal line pieces trailing) ∧
    delimiter.fragments (delimiter.literal.intercalate (delimiter.fragments line)) =
      delimiter.fragments line ∧
    (delimiter.fragments line = [] ↔
      ∃ k, line = (List.replicate k delimiter.literal).flatten) := by
  obtain ⟨pieces, trailing, hpieces⟩ := Text.exists_fragmented hliteral line
  have hfragments : delimiter.fragments line = pieces := hpieces.fragments_eq hliteral
  have hbare : Text.Fragmented delimiter.literal (delimiter.literal.intercalate pieces) pieces 0 :=
    { text_eq := by simp
      last_ne_nil := hpieces.last_ne_nil
      not_infix := hpieces.not_infix
      metBehind := by
        intro piece hpiece
        apply hpieces.metBehind piece
        rw [if_pos rfl] at hpiece
        split
        · exact hpiece
        · exact List.dropLast_subset _ hpiece }
  rw [hfragments]
  refine ⟨fun other => ⟨?_, ?_⟩, hbare.fragments_eq hliteral, ?_⟩
  · rintro rfl
    exact ⟨trailing, hpieces⟩
  · rintro ⟨more, hother⟩
    rw [← hfragments]
    exact hother.fragments_eq hliteral
  · rw [← hfragments]
    exact Text.fragments_eq_nil_iff

/-- Two semicolons, which overlap themselves. -/
def twoSemicolons : Delimiter where
  pattern := ";;"
  node := .cat (.char {} false [.single 59]) (.char {} false [.single 59])
  spelled := rfl

/-- Of three semicolons in a row the first two are the delimiter, and the third is text. -/
theorem fragments_eq_iff_fragmented_overlapping :
    twoSemicolons.literal ≠ [] ∧
      ∃ trailing, Text.Fragmented twoSemicolons.literal ";;;a;;;;".toList [[], [';', 'a']]
        trailing := by
  have hliteral : twoSemicolons.literal ≠ [] := by decide
  refine ⟨hliteral, ?_⟩
  exact ((twoSemicolons.fragments_eq_iff_fragmented hliteral ";;;a;;;;".toList).1 _).1 (by decide)

end ScriptReplay.Delimiter
