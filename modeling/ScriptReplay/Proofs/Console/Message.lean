import Mathlib.Data.List.Infix
import ScriptReplay.Proofs.Console.Layout
import ScriptReplay.Proofs.Console.Markup

/-!
# Messages

A message in one style is printed with all its ink exactly if it is plain (`ink_message_iff`): none
of it is markup, the name of a picture, or a control character that the console hides.
-/

namespace ScriptReplay.Console

open ScriptReplay.Text (isBlank ink Broken Unjoined)
open Markup (Untagged closing isHidden shown unescape shownOf piecesOf plainTextOf piecesWithin)

variable {s : List Char}

/-! ## Plain texts -/

section Plain

/-- A text that is no markup: no tag begins in it and it does not end with a backslash, no backslash
stands before a bracket, there is no name of a picture in it, and neither a bell nor a backspace. -/
structure Plain (s : List Char) : Prop extends Untagged s where
  noEscape : ¬ ['\\', '['] <:+: s
  noPicture : withPictures s = s
  noBell : '\x07' ∉ s
  noBackspace : '\x08' ∉ s

instance : DecidablePred Plain := fun s =>
  decidable_of_iff ((∀ rest ∈ s.tails, Markup.tagAt? rest = none) ∧ s.getLast? ≠ some '\\' ∧
      ¬ ['\\', '['] <:+: s ∧ withPictures s = s ∧ '\x07' ∉ s ∧ '\x08' ∉ s)
    ⟨fun ⟨htag, hlast, hescape, hpicture, hbell, hbackspace⟩ =>
      ⟨⟨fun rest hrest => htag rest ((List.mem_tails _ _).2 hrest), hlast⟩, hescape, hpicture,
        hbell, hbackspace⟩,
    fun h => ⟨fun rest hrest => h.noTag rest ((List.mem_tails _ _).1 hrest), h.endsPlain,
      h.noEscape, h.noPicture, h.noBell, h.noBackspace⟩⟩

/-- A text in which no white space is hidden or filled up. -/
def Steady (s : List Char) : Prop :=
  ∀ c ∈ s, c ≠ '\t' ∧ isHidden c = false

instance : DecidablePred Steady :=
  List.decidableBAll fun c : Char => c ≠ '\t' ∧ isHidden c = false

/-- Characters that mean nothing in markup and are shown. -/
structure Inert (s : List Char) : Prop where
  noBackslash : '\\' ∉ s
  noBracket : '[' ∉ s
  noBell : '\x07' ∉ s
  noBackspace : '\x08' ∉ s

/-- A text without backslashes, brackets and names of pictures may stand before another. -/
theorem plain_append_iff {label : List Char} (hlabel : Inert label)
    (hpictures : withPictures (label ++ s) = label ++ withPictures s) :
    Plain (label ++ s) ↔ Plain s := by
  have hsuffix : s <:+ label ++ s := List.suffix_append label s
  constructor
  · intro h
    refine ⟨h.toUntagged.of_suffix hsuffix, fun hescape => ?_, ?_,
      fun hmem => h.noBell (hsuffix.subset hmem), fun hmem => h.noBackspace (hsuffix.subset hmem)⟩
    · exact h.noEscape (hescape.trans hsuffix.isInfix)
    · exact List.append_cancel_left (hpictures.symm.trans h.noPicture)
  · intro h
    refine ⟨h.toUntagged.append hlabel.noBackslash hlabel.noBracket,
      Markup.not_infix_append hlabel.noBackslash h.noEscape, ?_, ?_, ?_⟩
    · rw [hpictures, h.noPicture]
    · exact fun hmem => (List.mem_append.1 hmem).elim hlabel.noBell h.noBell
    · exact fun hmem => (List.mem_append.1 hmem).elim hlabel.noBackspace h.noBackspace

theorem shown_eq_filter (h : Plain s) : shown s = s.filter (!isHidden ·) := by
  rw [shown, Markup.unescape_of_not_infix h.noEscape, h.noPicture]

theorem shown_eq_self (h : Plain s) (hsteady : Steady s) : shown s = s := by
  rw [shown_eq_filter h, List.filter_eq_self]
  intro c hc
  rw [(hsteady c hc).2]
  rfl

theorem isBlank_of_isHidden {c : Char} (h : isHidden c = true) (hbell : c ≠ '\x07')
    (hbackspace : c ≠ '\x08') : isBlank c = true := by
  have hnotSeven : c.toNat ≠ 7 := fun heq => hbell (Char.toNat_inj.1 heq)
  have hnotEight : c.toNat ≠ 8 := fun heq => hbackspace (Char.toNat_inj.1 heq)
  simp only [isHidden, Bool.or_eq_true, beq_iff_eq, Bool.and_eq_true, decide_eq_true_eq] at h
  simp only [isBlank, Bool.or_eq_true, Bool.and_eq_true, decide_eq_true_eq, beq_iff_eq]
  omega

/-- What is hidden of a plain text is white space. -/
theorem ink_shown (h : Plain s) : ink (shown s) = ink s := by
  rw [shown_eq_filter h, ink, ink, List.filter_filter]
  refine List.filter_congr fun c hc => ?_
  by_cases hhidden : isHidden c = true
  · have hbell : c ≠ '\x07' := fun heq => h.noBell (heq ▸ hc)
    have hbackspace : c ≠ '\x08' := fun heq => h.noBackspace (heq ▸ hc)
    simp [isBlank_of_isHidden hhidden hbell hbackspace]
  · simp [hhidden]

/-- A text without tags that is shown with all its ink is plain. -/
theorem plain_of_ink_sublist (h : Untagged s) (hink : (ink s).Sublist (ink (shown s))) :
    Plain s := by
  have hcount : ∀ c, isBlank c = false → s.count c ≤ (shown s).count c := by
    intro c hc
    have hle := hink.count_le c
    rwa [ink, ink, List.count_filter (by simpa using hc), List.count_filter (by simpa using hc)]
      at hle
  have hescape : ¬ ['\\', '['] <:+: s := by
    intro hbefore
    have hlost := Markup.count_unescape_lt hbefore
    have hpictures := count_withPictures_le (c := '\\') (by decide) (unescape s)
    have hshown : (shown s).count '\\' ≤ (withPictures (unescape s)).count '\\' :=
      List.filter_sublist.count_le _
    have hkept := hcount '\\' (by decide)
    omega
  have hpicture : withPictures s = s := by
    refine (withPictures_eq_or_count_lt s).resolve_right fun hlost => ?_
    have hshown : (shown s).count ':' ≤ (withPictures s).count ':' := by
      rw [shown, Markup.unescape_of_not_infix hescape]
      exact List.filter_sublist.count_le _
    have hkept := hcount ':' (by decide)
    omega
  have hshown : ∀ c, isBlank c = false → isHidden c = true → c ∉ s := by
    intro c hblank hhidden hc
    have hmem : c ∈ shown s :=
      List.count_pos_iff.1 (Nat.lt_of_lt_of_le (List.count_pos_iff.2 hc) (hcount c hblank))
    have hseen := (List.mem_filter.1 hmem).2
    rw [hhidden] at hseen
    cases hseen
  exact ⟨h, hescape, hpicture, hshown _ (by decide) (by decide), hshown _ (by decide) (by decide)⟩

end Plain

/-! ## Messages in a style -/

section Message

/-- A text with tags around it that make it red. -/
def inRed (s : List Char) : List Char :=
  ['[', 'r', 'e', 'd', ']'] ++ (s ++ closing)

theorem piecesOf_inRed (s : List Char) :
    piecesOf (inRed s) =
      .tag 0 ['r', 'e', 'd'] :: piecesWithin (s.length + 7) 5 [] (s ++ closing) := by
  have hlength : (inRed s).length = s.length + 7 + 1 := by
    simp [inRed, closing]
  have hred : Markup.tagAt? (inRed s) = some (0, ['r', 'e', 'd'], s ++ closing) := rfl
  rw [piecesOf, hlength]
  rcases Markup.piecesWithin_cons (s.length + 7) 0 [] '['
    ('r' :: 'e' :: 'd' :: ']' :: (s ++ closing)) with
    ⟨hnone, -⟩ | ⟨escapes, content, after, htag, heq⟩
  · cases hred.symm.trans hnone
  · cases hred.symm.trans htag
    exact heq

theorem add_plainPiece (draft : Markup.Draft) (s : List Char) (rest : List Markup.Piece) :
    draft.add (Markup.plainPiece s ++ rest) =
      ({ draft with text := (shown s).reverse ++ draft.text } : Markup.Draft).add rest := by
  cases s <;> rfl

/-- A text without tags is shown in one style. -/
theorem markedOf_inRed (h : Untagged s) :
    ∃ stop, markedOf (inRed s) = .ok ⟨shown s, [⟨0, stop, ['r', 'e', 'd']⟩]⟩ := by
  have hred : ({} : Markup.Draft).applyTag 0 ['r', 'e', 'd'] =
      .ok { opened := [⟨0, ['r', 'e', 'd'], none⟩] } := rfl
  have hclosed : ({ text := (shown s).reverse, opened := [⟨0, ['r', 'e', 'd'], none⟩] } :
      Markup.Draft).applyTag (5 + s.length) ['/'] =
        .ok { text := (shown s).reverse,
              closed := [⟨0, (shown s).reverse.length, ['r', 'e', 'd']⟩] } := rfl
  have hdraft : ({} : Markup.Draft).add (piecesOf (inRed s)) =
      .ok { text := (shown s).reverse,
            closed := [⟨0, (shown s).reverse.length, ['r', 'e', 'd']⟩] } := by
    rw [piecesOf_inRed, Markup.piecesWithin_of_untagged h (by omega), Markup.Draft.add, hred]
    change ({ opened := [⟨0, ['r', 'e', 'd'], none⟩] } : Markup.Draft).add
      (Markup.plainPiece s ++ [.tag (5 + s.length) ['/']]) = _
    rw [add_plainPiece, List.append_nil, Markup.Draft.add, hclosed]
    rfl
  refine ⟨(shown s).reverse.length, ?_⟩
  rw [markedOf, hdraft]
  change Except.ok _ = _
  rw [Markup.Draft.finish, List.reverse_reverse]
  exact congrArg (fun marks => Except.ok (Marked.mk (shown s) marks)) (List.mergeSort_singleton _)

theorem fineStyle_red : FineStyle ['r', 'e', 'd'] :=
  ⟨some { color := some "red" }, rfl⟩

theorem fineStyle_nil : FineStyle [] :=
  ⟨_, rfl⟩

theorem styledBy_highlightsOf (s : List Char) : ∀ mark ∈ highlightsOf s, FineStyle mark.style := by
  unfold highlightsOf
  split
  · intro mark hmark
    obtain ⟨node, -, hmark⟩ := List.mem_flatMap.1 hmark
    obtain ⟨span, -, rfl⟩ := List.mem_map.1 hmark
    exact fineStyle_nil
  · exact nofun

/-- A text without tags is printed as it is shown. -/
theorem message_inRed (h : Untagged s) :
    ∃ marks, message (inRed s) = .ok (String.ofList (textOutput ⟨shown s, marks⟩)) := by
  obtain ⟨stop, hmarked⟩ := markedOf_inRed h
  refine ⟨highlightsOf (shown s) ++ [⟨0, stop, ['r', 'e', 'd']⟩], ?_⟩
  have hstyled : Marked.StyledBy FineStyle
      ⟨shown s, highlightsOf (shown s) ++ [⟨0, stop, ['r', 'e', 'd']⟩]⟩ :=
    List.forall_mem_append.2
      ⟨styledBy_highlightsOf (shown s), List.forall_mem_singleton.2 fineStyle_red⟩
  exact bind_eq_ok.2 ⟨_, bind_eq_ok.2 ⟨_, hmarked, rfl⟩, printText_of_styledBy hstyled⟩

theorem unjoined_shown (h : Plain s) (hunjoined : Unjoined s) : Unjoined (shown s) := by
  rw [shown_eq_filter h]
  exact hunjoined.of_subset List.filter_sublist.subset

/-- A plain message is printed with all its ink. -/
theorem exists_message_eq (h : Plain s) (hunjoined : Unjoined s) :
    ∃ output, message (inRed s) = .ok output ∧ ink output.toList = ink s ∧
      (Steady s → Broken s output.toList) := by
  obtain ⟨marks, hmessage⟩ := message_inRed h.toUntagged
  have hshown := unjoined_shown h hunjoined
  refine ⟨_, hmessage, ?_, fun hsteady => ?_⟩ <;> rw [String.toList_ofList]
  · rw [ink_textOutput hshown, ink_shown h]
  · have hself := shown_eq_self h hsteady
    rw [hself] at hshown ⊢
    have htabs : '\t' ∉ s := fun hmem => (hsteady _ hmem).1 rfl
    exact @broken_textOutput ⟨s, marks⟩ hshown htabs

/-- Only plain messages are printed with all their ink. -/
theorem plain_of_message_eq_ok {output : String} (h : message (inRed s) = .ok output)
    (hink : ink output.toList = ink s) : Plain s := by
  obtain ⟨marked, hmarked, hprint⟩ := bind_eq_ok.1 h
  obtain ⟨text, htext, hmarks⟩ := bind_eq_ok.1 hmarked
  cases hmarks
  have hsublist : (ink s).Sublist (ink text.text) := by
    rw [← hink, toList_of_printText_eq_ok hprint]
    exact ink_textOutput_sublist _
  have hkept : ∀ c, isBlank c = false → isUnmarked c = false →
      s.count c ≤ (plainTextOf (piecesWithin (s.length + 7) 5 [] (s ++ closing))).count c := by
    intro c hblank hmark
    have hcount := hsublist.count_le c
    rw [ink, ink, List.count_filter (by simpa using hblank),
      List.count_filter (by simpa using hblank)] at hcount
    have hshown := Markup.count_shownOf_le hmark (piecesOf (inRed s))
    rw [← Markup.text_markedOf htext, piecesOf_inRed] at hshown
    exact hcount.trans hshown
  have huntagged : Untagged s := by
    have hbracket := hkept '[' (by decide) (by decide)
    have hbackslash := hkept '\\' (by decide) (by decide)
    have hfuel : s.length < s.length + 7 := Nat.lt_add_of_pos_right (by decide)
    refine (Markup.untagged_or_count_lt hfuel 5 []).resolve_right fun hlost => ?_
    rw [List.count_nil, List.count_nil] at hlost
    omega
  refine plain_of_ink_sublist huntagged ?_
  obtain ⟨stop, hplain⟩ := markedOf_inRed huntagged
  cases htext.symm.trans hplain
  exact hsublist

/-- A message is printed with all its ink exactly if it is plain. -/
theorem ink_message_iff (hunjoined : Unjoined s) :
    (∃ output, message (inRed s) = .ok output ∧ ink output.toList = ink s) ↔ Plain s := by
  constructor
  · rintro ⟨output, hmessage, hink⟩
    exact plain_of_message_eq_ok hmessage hink
  · intro h
    obtain ⟨output, hmessage, hink, -⟩ := exists_message_eq h hunjoined
    exact ⟨output, hmessage, hink⟩

end Message

end ScriptReplay.Console
