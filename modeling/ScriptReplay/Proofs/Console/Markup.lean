import ScriptReplay.Console.Markup
import ScriptReplay.Proofs.Console.Emoji
import ScriptReplay.Proofs.Result
import ScriptReplay.Proofs.Text.Ink

/-!
# What markup shows

* `tagAt?_append_closing`: a closing tag behind a text is no part of a tag that begins in the text.
* `piecesWithin_of_untagged`, `untagged_or_count_lt`: a text without tags is plain to its end, and
  any other text loses a bracket or a backslash.
* `unescape_of_not_infix`, `count_unescape_lt`: the same for backslashes before brackets.
* `text_markedOf`, `count_shownOf_le`: what is shown is the plain text of the pieces, in which
  brackets, backslashes and colons do not become more.
-/

namespace ScriptReplay.Console

open ScriptReplay.Text (isBlank ink)

variable {s t : List Char}

namespace Markup

/-! ## Tags -/

section Tags

/-- The tag that closes the style opened last. -/
def closing : List Char :=
  ['[', '/', ']']

theorem contentAt?_eq_some {content after : List Char} (h : contentAt? s = some (content, after)) :
    s = content ++ ']' :: after ∧ '[' ∉ content := by
  cases s with
  | nil => cases h
  | cons c rest =>
    unfold contentAt? at h
    dsimp only at h
    split at h
    · next more hmore =>
      split at h <;> cases h
      next hbegins =>
      refine ⟨?_, ?_⟩
      · rw [List.cons_append, ← hmore, List.takeWhile_append_dropWhile]
      · intro hmem
        rcases List.mem_cons.1 hmem with rfl | hmem
        · exact absurd hbegins (by decide)
        · have hstop := List.mem_takeWhile_imp hmem
          exact absurd hstop (by decide)
    · cases h

/-- What stops a scan of a text also stops the scan of a longer one. -/
theorem scan_append {p : Char → Bool} (h : s.dropWhile p ≠ []) (t : List Char) :
    (s ++ t).takeWhile p = s.takeWhile p ∧ (s ++ t).dropWhile p = s.dropWhile p ++ t := by
  have hlength := congrArg List.length (List.takeWhile_append_dropWhile (p := p) (l := s))
  rw [List.length_append] at hlength
  have hpos := List.length_pos_iff.2 h
  rw [List.takeWhile_append, if_neg (by omega), List.dropWhile_append, if_neg (by simpa using h)]
  exact ⟨rfl, rfl⟩

/-- A closing tag behind a text is no part of a tag that begins in the text. -/
theorem contentAt?_append_closing (s : List Char) :
    contentAt? (s ++ closing) =
      (contentAt? s).map fun (content, after) => (content, after ++ closing) := by
  cases s with
  | nil => rfl
  | cons c rest =>
    rw [List.cons_append, contentAt?, contentAt?]
    cases hstop : rest.dropWhile fun d => d != ']' && d != '[' with
    | nil =>
      have hmore : (rest ++ closing).dropWhile (fun d => d != ']' && d != '[') = closing := by
        rw [List.dropWhile_append, hstop]
        rfl
      rw [hmore]
      rfl
    | cons d more =>
      obtain ⟨hinner, hmore⟩ := scan_append (by rw [hstop]; exact List.cons_ne_nil _ _) closing
      rw [hinner, hmore, hstop]
      by_cases hd : d = ']'
      · subst hd
        change (if beginsTag c = true then some (_, more ++ closing) else none) =
          (if beginsTag c = true then some (_, more) else none).map _
        split <;> rfl
      · rw [List.cons_append]
        split
        · next heq => exact absurd (List.cons.inj heq).1 hd
        · split
          · next heq => exact absurd (List.cons.inj heq).1 hd
          · rfl

theorem tagAt?_eq_some {escapes : Nat} {content after : List Char}
    (h : tagAt? s = some (escapes, content, after)) :
    s = List.replicate escapes '\\' ++ '[' :: content ++ ']' :: after ∧ '[' ∉ content := by
  unfold tagAt? at h
  split at h
  · next rest hrest =>
    obtain ⟨⟨found, more⟩, hcontent, heq⟩ := Option.map_eq_some_iff.1 h
    cases heq
    obtain ⟨hsplit, hbracket⟩ := contentAt?_eq_some hcontent
    have hescapes : s.takeWhile (· == '\\') =
        List.replicate (s.takeWhile (· == '\\')).length '\\' :=
      List.eq_replicate_length.2 fun c hc => by simpa using List.mem_takeWhile_imp hc
    refine ⟨?_, hbracket⟩
    rw [← hescapes, List.append_assoc, List.cons_append, ← hsplit, ← hrest,
      List.takeWhile_append_dropWhile]
  · cases h

/-- A closing tag behind a text that is not made of backslashes is no part of a tag that begins in
the text. -/
theorem tagAt?_append_closing (h : s.dropWhile (· == '\\') ≠ []) :
    tagAt? (s ++ closing) = (tagAt? s).map fun (escapes, content, after) =>
      (escapes, content, after ++ closing) := by
  obtain ⟨hescapes, hrest⟩ := scan_append h closing
  obtain ⟨c, rest, hs⟩ := List.exists_cons_of_ne_nil h
  rw [tagAt?, tagAt?, hescapes, hrest, hs]
  by_cases hc : c = '['
  · subst hc
    change (contentAt? (rest ++ closing)).map _ = ((contentAt? rest).map _).map _
    rw [contentAt?_append_closing, Option.map_map, Option.map_map]
    rfl
  · rw [List.cons_append]
    split
    · next heq => exact absurd (List.cons.inj heq).1 hc
    · split
      · next heq => exact absurd (List.cons.inj heq).1 hc
      · rfl

theorem tagAt?_replicate_append_closing (escapes : Nat) :
    tagAt? (List.replicate escapes '\\' ++ closing) = some (escapes, ['/'], []) := by
  have hall : ∀ c ∈ List.replicate escapes '\\', (c == '\\') = true := fun c hc => by
    rw [List.eq_of_mem_replicate hc]
    rfl
  have hescapes : (List.replicate escapes '\\' ++ closing).takeWhile (· == '\\') =
      List.replicate escapes '\\' := by
    rw [List.takeWhile_append_of_pos hall]
    exact List.append_nil _
  have hrest : (List.replicate escapes '\\' ++ closing).dropWhile (· == '\\') = closing := by
    rw [List.dropWhile_append_of_pos hall]
    rfl
  rw [tagAt?, hescapes, hrest, List.length_replicate]
  rfl

end Tags

/-! ## Pieces -/

section Pieces

/-- The plain text of a piece. -/
def Piece.plainText : Piece → List Char
  | .plain text => text
  | .tag _ _ => []

/-- The plain text of pieces. -/
def plainTextOf (pieces : List Piece) : List Char :=
  pieces.flatMap Piece.plainText

@[simp] theorem plainTextOf_plainPiece (s : List Char) : plainTextOf (plainPiece s) = s := by
  unfold plainPiece
  split
  · next h => rw [List.isEmpty_iff.1 h]; rfl
  · exact List.append_nil s

@[simp] theorem plainTextOf_append (before after : List Piece) :
    plainTextOf (before ++ after) = plainTextOf before ++ plainTextOf after :=
  List.flatMap_append

theorem piecesWithin_nil (fuel position : Nat) (before : List Char) :
    piecesWithin fuel position before [] = plainPiece before.reverse := by
  cases fuel <;> rfl

/-- What stands for a tag in the pieces, if so many backslashes stand before it. -/
def tagPiece (position escapes : Nat) (content : List Char) : Piece :=
  if escapes % 2 = 1 then .plain ('[' :: content ++ [']']) else .tag (position + escapes) content

theorem plainText_tagPiece_sublist (position escapes : Nat) (content : List Char) :
    (tagPiece position escapes content).plainText.Sublist ('[' :: content ++ [']']) := by
  unfold tagPiece
  split
  · exact .refl _
  · exact List.nil_sublist _

/-- How the pieces of a text go on: a character is put to the plain text before it, or a tag begins
there, which backslashes may make plain. -/
theorem piecesWithin_cons (fuel position : Nat) (before : List Char) (c : Char) (s : List Char) :
    (tagAt? (c :: s) = none ∧ piecesWithin (fuel + 1) position before (c :: s) =
        piecesWithin fuel (position + 1) (c :: before) s) ∨
      ∃ escapes content after, tagAt? (c :: s) = some (escapes, content, after) ∧
        piecesWithin (fuel + 1) position before (c :: s) =
          plainPiece before.reverse ++ plainPiece (List.replicate (escapes / 2) '\\') ++
            tagPiece position escapes content ::
              piecesWithin fuel (position + escapes + content.length + 2) [] after := by
  rw [piecesWithin]
  cases htag : tagAt? (c :: s) with
  | none => exact .inl ⟨rfl, rfl⟩
  | some tag =>
    obtain ⟨escapes, content, after⟩ := tag
    exact .inr ⟨escapes, content, after, rfl, rfl⟩

theorem plainTextOf_tag (before : List Char) (position escapes : Nat) (content : List Char)
    (rest : List Piece) :
    plainTextOf (plainPiece before.reverse ++ plainPiece (List.replicate (escapes / 2) '\\') ++
        tagPiece position escapes content :: rest) =
      before.reverse ++ (List.replicate (escapes / 2) '\\' ++
        ((tagPiece position escapes content).plainText ++ plainTextOf rest)) := by
  rw [plainTextOf_append, plainTextOf_append, plainTextOf_plainPiece, plainTextOf_plainPiece,
    List.append_assoc]
  rfl

/-- The plain text has nothing that the text does not have. -/
theorem plainTextOf_piecesWithin_sublist (fuel position : Nat) (before s : List Char) :
    (plainTextOf (piecesWithin fuel position before s)).Sublist (before.reverse ++ s) := by
  induction fuel generalizing position before s with
  | zero =>
    rw [piecesWithin, plainTextOf_plainPiece]
    exact List.sublist_append_left _ _
  | succ fuel ih =>
    cases s with
    | nil =>
      rw [piecesWithin_nil, plainTextOf_plainPiece]
      exact List.sublist_append_left _ _
    | cons c s =>
      rcases piecesWithin_cons fuel position before c s with
        ⟨-, h⟩ | ⟨escapes, content, after, htag, h⟩
      · have hrest := ih (position + 1) (c :: before) s
        rw [List.reverse_cons, List.append_assoc] at hrest
        rwa [h]
      · have hescapes : (List.replicate (escapes / 2) '\\').Sublist (List.replicate escapes '\\') :=
          (List.replicate_sublist_replicate _).2 (Nat.div_le_self _ _)
        have hrest := ih (position + escapes + content.length + 2) [] after
        rw [h, plainTextOf_tag, (tagAt?_eq_some htag).1, List.append_assoc,
          List.append_cons _ ']' after]
        refine .append_left (.append hescapes ?_) _
        exact (plainText_tagPiece_sublist _ _ _).append hrest

end Pieces

/-! ## Texts without tags -/

section Untagged

/-- No tag begins in the text, and none behind it is made plain. -/
structure Untagged (s : List Char) : Prop where
  noTag : ∀ rest, rest <:+ s → tagAt? rest = none
  endsPlain : s.getLast? ≠ some '\\'

theorem Untagged.of_suffix (h : Untagged t) (hsuffix : s <:+ t) : Untagged s where
  noTag rest hrest := h.noTag rest (hrest.trans hsuffix)
  endsPlain hlast := by
    obtain ⟨before, rfl⟩ := hsuffix
    refine h.endsPlain ?_
    rw [List.getLast?_append, hlast]
    rfl

theorem Untagged.tagAt?_append_closing {c : Char} (h : Untagged (c :: s)) :
    tagAt? (c :: s ++ closing) = none := by
  have hne : (c :: s).dropWhile (· == '\\') ≠ [] := by
    intro hnil
    have hlast := List.dropWhile_eq_nil_iff.1 hnil _ (List.getLast_mem (List.cons_ne_nil c s))
    refine h.endsPlain ?_
    rw [List.getLast?_eq_some_getLast (List.cons_ne_nil c s), beq_iff_eq.1 hlast]
  rw [Markup.tagAt?_append_closing hne, h.noTag _ (List.suffix_refl _)]
  rfl

/-- A text without tags is one piece of plain text before the tag that closes it. -/
theorem piecesWithin_of_untagged (h : Untagged s) {fuel : Nat} (hfuel : s.length < fuel)
    (position : Nat) (before : List Char) :
    piecesWithin fuel position before (s ++ closing) =
      plainPiece (before.reverse ++ s) ++ [.tag (position + s.length) ['/']] := by
  induction s generalizing fuel position before with
  | nil =>
    obtain ⟨fuel, rfl⟩ := Nat.exists_eq_succ_of_ne_zero (Nat.ne_of_gt hfuel)
    have hclosing : tagAt? closing = some (0, ['/'], []) := tagAt?_replicate_append_closing 0
    rcases piecesWithin_cons fuel position before '[' ['/', ']'] with
      ⟨hnone, -⟩ | ⟨escapes, content, after, htag, heq⟩
    · cases hclosing.symm.trans hnone
    · cases hclosing.symm.trans htag
      rw [List.nil_append, closing, heq, List.append_nil, piecesWithin_nil]
      simp [plainPiece, tagPiece]
  | cons c s ih =>
    obtain ⟨fuel, rfl⟩ := Nat.exists_eq_succ_of_ne_zero (Nat.ne_of_gt (Nat.zero_lt_of_lt hfuel))
    rcases piecesWithin_cons fuel position before c (s ++ closing) with
      ⟨-, heq⟩ | ⟨escapes, content, after, htag, -⟩
    · have htail := h.of_suffix (List.suffix_cons c s)
      rw [List.cons_append, heq, ih htail (Nat.lt_of_succ_lt_succ hfuel), List.reverse_cons,
        List.append_assoc, List.length_cons, Nat.add_assoc, Nat.add_comm 1]
      rfl
    · have hnone := h.tagAt?_append_closing
      rw [List.cons_append, htag] at hnone
      cases hnone

theorem count_plainTextOf_le (c : Char) (fuel position : Nat) (before s : List Char) :
    (plainTextOf (piecesWithin fuel position before s)).count c ≤ before.count c + s.count c := by
  have h := (plainTextOf_piecesWithin_sublist fuel position before s).count_le c
  rwa [List.count_append, List.count_reverse] at h

theorem tagAt?_of_append_closing (h : tagAt? (s ++ closing) = none) :
    tagAt? s = none ∧ s.dropWhile (· == '\\') ≠ [] := by
  by_cases hall : s.dropWhile (· == '\\') = []
  · have hs : s = List.replicate s.length '\\' :=
      List.eq_replicate_length.2 fun c hc => beq_iff_eq.1 (List.dropWhile_eq_nil_iff.1 hall c hc)
    rw [hs, tagAt?_replicate_append_closing] at h
    cases h
  · rw [tagAt?_append_closing hall] at h
    exact ⟨Option.map_eq_none_iff.1 h, hall⟩

theorem Untagged.cons {c : Char} (h : Untagged s) (hc : tagAt? (c :: s ++ closing) = none) :
    Untagged (c :: s) := by
  obtain ⟨hnone, hne⟩ := tagAt?_of_append_closing hc
  refine ⟨fun rest hrest => ?_, ?_⟩
  · rcases List.suffix_cons_iff.1 hrest with rfl | hrest
    · exact hnone
    · exact h.noTag rest hrest
  · cases s with
    | nil =>
      intro hlast
      cases hlast
      exact hne rfl
    | cons d s => exact h.endsPlain

theorem untagged_nil : Untagged [] where
  noTag rest hrest := by
    rw [List.suffix_nil.1 hrest]
    rfl
  endsPlain := nofun

theorem tagAt?_cons_of_ne {c : Char} (h : c ≠ '\\' ∧ c ≠ '[') (s : List Char) :
    tagAt? (c :: s) = none := by
  unfold tagAt?
  rw [List.dropWhile_cons_of_neg (by simpa using h.1)]
  split
  · next heq => exact absurd (List.cons.inj heq).1 h.2
  · rfl

theorem Untagged.append (h : Untagged t) (hbackslash : '\\' ∉ s) (hbracket : '[' ∉ s) :
    Untagged (s ++ t) := by
  induction s with
  | nil => exact h
  | cons c s ih =>
    rw [List.mem_cons, not_or] at hbackslash hbracket
    have hc : c ≠ '\\' ∧ c ≠ '[' := ⟨Ne.symm hbackslash.1, Ne.symm hbracket.1⟩
    exact (ih hbackslash.2 hbracket.2).cons (tagAt?_cons_of_ne hc _)

/-- Of the backslashes before a tag half are lost. -/
theorem count_backslash_lt {escapes : Nat} (position : Nat) (before content after : List Char)
    {rest : List Piece}
    (hlost : escapes / 2 + (plainTextOf rest).count '\\' < escapes + after.count '\\') :
    (plainTextOf (plainPiece before.reverse ++ plainPiece (List.replicate (escapes / 2) '\\') ++
        tagPiece position escapes content :: rest)).count '\\' <
      before.count '\\' +
        (List.replicate escapes '\\' ++ '[' :: content ++ ']' :: after).count '\\' := by
  have htag := (plainText_tagPiece_sublist position escapes content).count_le '\\'
  rw [plainTextOf_tag]
  simp only [List.count_append, List.count_cons, List.count_replicate, List.count_reverse,
    List.count_nil] at htag ⊢
  simp at htag ⊢
  omega

/-- A tag that is none of the plain text takes its bracket along. -/
theorem count_bracket_lt {escapes : Nat} (hescapes : escapes % 2 ≠ 1) (position : Nat)
    (before content after : List Char) {rest : List Piece}
    (hrest : (plainTextOf rest).count '[' ≤ after.count '[') :
    (plainTextOf (plainPiece before.reverse ++ plainPiece (List.replicate (escapes / 2) '\\') ++
        tagPiece position escapes content :: rest)).count '[' <
      before.count '[' +
        (List.replicate escapes '\\' ++ '[' :: content ++ ']' :: after).count '[' := by
  have htag : (tagPiece position escapes content).plainText = [] := by
    rw [tagPiece, if_neg hescapes]
    rfl
  rw [plainTextOf_tag, htag]
  simp only [List.count_append, List.count_cons, List.count_replicate, List.count_reverse,
    List.count_nil]
  simp
  omega

/-- A text with a tag in it loses a bracket or a backslash. -/
theorem untagged_or_count_lt {fuel : Nat} (hfuel : s.length < fuel) (position : Nat)
    (before : List Char) :
    Untagged s ∨
      (plainTextOf (piecesWithin fuel position before (s ++ closing))).count '[' <
        before.count '[' + s.count '[' ∨
      (plainTextOf (piecesWithin fuel position before (s ++ closing))).count '\\' <
        before.count '\\' + s.count '\\' := by
  induction fuel generalizing position before s with
  | zero => exact absurd hfuel (Nat.not_lt_zero _)
  | succ fuel ih =>
    cases s with
    | nil => exact .inl untagged_nil
    | cons c s =>
      rcases piecesWithin_cons fuel position before c (s ++ closing) with
        ⟨hnone, heq⟩ | ⟨escapes, content, after, htag, heq⟩
      · -- The character is plain: what the rest loses is lost.
        rw [List.cons_append, heq]
        have hcount : ∀ d : Char, (c :: before).count d + s.count d =
            before.count d + (c :: s).count d := by
          intro d
          rw [List.count_cons, List.count_cons]
          omega
        rcases ih (Nat.lt_of_succ_lt_succ hfuel) (position + 1) (c :: before) with
          hs | hbracket | hbackslash
        · exact .inl (hs.cons hnone)
        · exact .inr (.inl (hcount '[' ▸ hbracket))
        · exact .inr (.inr (hcount '\\' ▸ hbackslash))
      rw [List.cons_append, heq]
      by_cases hall : (c :: s).dropWhile (· == '\\') = []
      · -- The backslashes before the tag that closes the text are all of it.
        have hs : c :: s = List.replicate (s.length + 1) '\\' :=
          List.eq_replicate_length.2 fun d hd =>
            beq_iff_eq.1 (List.dropWhile_eq_nil_iff.1 hall d hd)
        rw [← List.cons_append, hs, tagAt?_replicate_append_closing] at htag
        cases htag
        rw [hs]
        have hnone := count_plainTextOf_le '\\' fuel (position + (s.length + 1) + 1 + 2) [] []
        refine .inr (.inr (Nat.lt_of_lt_of_le (count_backslash_lt position before ['/'] [] ?_) ?_))
        · exact Nat.add_lt_add_of_lt_of_le (Nat.div_lt_self (Nat.succ_pos _) (by decide)) hnone
        · simp
      · rw [← List.cons_append, tagAt?_append_closing hall] at htag
        obtain ⟨⟨count, inner, rest⟩, hfound, heqs⟩ := Option.map_eq_some_iff.1 htag
        cases heqs
        obtain ⟨hs, -⟩ := tagAt?_eq_some hfound
        have hlength := congrArg List.length hs
        rw [hs]
        generalize position + escapes + content.length + 2 = place
        have hbackslash := count_plainTextOf_le '\\' fuel place [] (rest ++ closing)
        have hclosing : (rest ++ closing).count '\\' = rest.count '\\' := by
          rw [List.count_append]
          rfl
        rw [hclosing, List.count_nil, Nat.zero_add] at hbackslash
        by_cases hodd : escapes % 2 = 1
        · -- The tag is made plain, by a backslash that is lost.
          refine .inr (.inr (count_backslash_lt position before content rest ?_))
          omega
        · have hrest : rest.length < fuel := by
            simp only [List.length_append, List.length_cons, List.length_replicate] at hlength hfuel
            omega
          rcases ih hrest place [] with huntagged | hbracket | hfewer
          · rw [piecesWithin_of_untagged huntagged hrest]
            refine .inr (.inl (count_bracket_lt hodd position before content rest ?_))
            rw [plainTextOf_append, plainTextOf_plainPiece]
            exact Nat.le_of_eq (congrArg (List.count '[') (List.append_nil rest))
          · refine .inr (.inl (count_bracket_lt hodd position before content rest ?_))
            rw [List.count_nil] at hbracket
            omega
          · refine .inr (.inr (count_backslash_lt position before content rest ?_))
            rw [List.count_nil] at hfewer
            omega

end Untagged

/-! ## Escapes -/

section Escapes

theorem unescape_sublist (s : List Char) : (unescape s).Sublist s := by
  fun_induction unescape s with
  | case1 rest ih => exact .cons _ (.cons_cons _ ih)
  | case2 c rest _ ih => exact .cons_cons _ ih
  | case3 => exact .refl _

theorem unescape_of_not_infix (h : ¬ ['\\', '['] <:+: s) : unescape s = s := by
  fun_induction unescape s with
  | case1 rest ih => exact absurd (List.prefix_append ['\\', '['] rest).isInfix h
  | case2 c rest _ ih => exact congrArg (c :: ·) (ih fun hrest => h (List.infix_cons hrest))
  | case3 => rfl

theorem not_infix_append (hs : '\\' ∉ s) (h : ¬ ['\\', '['] <:+: t) :
    ¬ ['\\', '['] <:+: s ++ t := by
  induction s with
  | nil => exact h
  | cons c s ih =>
    rw [List.mem_cons, not_or] at hs
    intro hbefore
    rcases List.infix_cons_iff.1 hbefore with hprefix | hrest
    · exact hs.1 (List.cons_prefix_cons.1 hprefix).1
    · exact ih hs.2 hrest

theorem count_unescape_lt (h : ['\\', '['] <:+: s) :
    (unescape s).count '\\' < s.count '\\' := by
  fun_induction unescape s with
  | case1 rest ih =>
    have hle := (unescape_sublist rest).count_le '\\'
    simp only [List.count_cons]
    simp
    omega
  | case2 c rest hc ih =>
    rcases List.infix_cons_iff.1 h with hprefix | hrest
    · obtain ⟨more, hmore⟩ := hprefix
      obtain ⟨rfl, rfl⟩ := List.cons.inj hmore
      exact absurd rfl (hc more rfl)
    · rw [List.count_cons, List.count_cons]
      exact Nat.add_lt_add_right (ih hrest) _
  | case3 => simp at h

end Escapes

/-! ## Shown texts -/

section Shown

theorem count_shown_le {c : Char} (hc : isUnmarked c = false) (s : List Char) :
    (shown s).count c ≤ s.count c :=
  (List.filter_sublist.count_le c).trans <|
    (count_withPictures_le hc _).trans ((unescape_sublist s).count_le c)

/-- The text that pieces show. -/
def shownOf (pieces : List Piece) : List Char :=
  pieces.flatMap fun piece => shown piece.plainText

theorem count_shownOf_le {c : Char} (hc : isUnmarked c = false) (pieces : List Piece) :
    (shownOf pieces).count c ≤ (plainTextOf pieces).count c := by
  induction pieces with
  | nil => exact Nat.le_refl _
  | cons piece rest ih =>
    rw [shownOf, plainTextOf, List.flatMap_cons, List.flatMap_cons, List.count_append,
      List.count_append]
    exact Nat.add_le_add (count_shown_le hc _) ih

theorem text_close {draft next : Draft} {tag : OpenTag} (h : draft.close tag = .ok next) :
    next.text = draft.text := by
  obtain ⟨mark, -, h⟩ := bind_eq_ok.1 h
  cases h
  rfl

theorem text_applyTag {draft next : Draft} {position : Nat} {content : List Char}
    (h : draft.applyTag position content = .ok next) : next.text = draft.text := by
  unfold Draft.applyTag at h
  split at h
  · dsimp only at h
    split at h
    · split at h
      · cases h
      · exact text_close h
    · obtain ⟨name, -, h⟩ := bind_eq_ok.1 h
      split at h
      · cases h
      · exact text_close h
  · obtain ⟨name, -, h⟩ := bind_eq_ok.1 h
    cases h
    rfl

theorem text_add {draft next : Draft} {pieces : List Piece} (h : draft.add pieces = .ok next) :
    next.text.reverse = draft.text.reverse ++ shownOf pieces := by
  induction pieces generalizing draft with
  | nil =>
    cases h
    exact (List.append_nil _).symm
  | cons piece rest ih =>
    cases piece with
    | plain text =>
      rw [ih h, List.reverse_append, List.reverse_reverse, List.append_assoc]
      rfl
    | tag position content =>
      obtain ⟨tagged, htagged, h⟩ := bind_eq_ok.1 h
      rw [ih h, text_applyTag htagged]
      rfl

/-- Tags change nothing in what is shown but that they are not. -/
theorem text_markedOf {markup : List Char} {marked : Marked} (h : markedOf markup = .ok marked) :
    marked.text = shownOf (piecesOf markup) := by
  obtain ⟨draft, hdraft, h⟩ := bind_eq_ok.1 h
  cases h
  exact text_add hdraft

end Shown

end Markup

end ScriptReplay.Console
