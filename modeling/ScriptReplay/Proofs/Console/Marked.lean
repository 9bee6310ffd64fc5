import Mathlib.Data.List.Infix
import ScriptReplay.Console.Wrap
import ScriptReplay.Proofs.Text.Columns
import ScriptReplay.Proofs.Text.Ink

/-!
# Parts of a marked text

* `flatMap_text_divide`: the parts between places hold the whole text.
* `map_text_divide`: a text that is divided where its pieces end falls into these pieces.
* `flatten_runs`: the runs hold the whole text.
* `ink_expandTabs`: filling up tabs changes white space only.
* `StyledBy`: no style comes up in a part that the text does not have.
-/

namespace ScriptReplay.Console

open ScriptReplay.Text (ink isBlank Unjoined)

namespace Marked

variable {marked line : Marked} {text : List Char}

/-! ## Division -/

section Divide

/-- The text behind a place, in two parts. -/
theorem drop_take_append_drop {start stop : Nat} (h : start ≤ stop) (text : List Char) :
    (text.take stop).drop start ++ text.drop stop = text.drop start := by
  have hstop : text.drop stop = (text.drop start).drop (stop - start) := by
    rw [List.drop_drop, Nat.add_sub_cancel' h]
  rw [List.drop_take, hstop, List.take_append_drop]

theorem flatMap_slices (text : List Char) {start : Nat} {places : List Nat}
    (h : (start :: places).IsChain (· ≤ ·)) :
    ((start :: places).zip (places ++ [text.length])).flatMap
      (fun span => (text.take span.2).drop span.1) = text.drop start := by
  induction places generalizing start with
  | nil => simp
  | cons next places ih =>
    obtain ⟨hle, hrest⟩ := List.isChain_cons_cons.1 h
    rw [List.cons_append, List.zip_cons_cons, List.flatMap_cons, ih hrest,
      drop_take_append_drop hle]

theorem map_text_divide_of_ne_nil {places : List Nat} (h : places ≠ []) (marked : Marked) :
    (marked.divide places).map (·.text) =
      ((0 :: places).zip (places ++ [marked.text.length])).map
        fun span => (marked.text.take span.2).drop span.1 := by
  rw [divide, if_neg (by simpa using h), List.map_map]
  rfl

/-- The parts between places hold the whole text. -/
theorem flatMap_text_divide {places : List Nat} (h : (0 :: places).IsChain (· ≤ ·))
    (marked : Marked) : (marked.divide places).flatMap (·.text) = marked.text := by
  by_cases hplaces : places = []
  · rw [hplaces, divide]
    exact List.append_nil _
  · rw [List.flatMap_def, map_text_divide_of_ne_nil hplaces, ← List.flatMap_def, flatMap_slices _ h]
    rfl

/-- A text that is divided where its pieces end falls into these pieces. -/
theorem map_slices (before : List Char) {pieces : List (List Char)} (h : pieces ≠ []) :
    ((before.length :: endsOf before.length (pieces.dropLast.map List.length)).zip
        (endsOf before.length (pieces.dropLast.map List.length)
          ++ [(before ++ pieces.flatten).length])).map
      (fun span => ((before ++ pieces.flatten).take span.2).drop span.1) = pieces := by
  induction pieces generalizing before with
  | nil => exact absurd rfl h
  | cons piece rest ih =>
    cases rest with
    | nil =>
      change [((before ++ [piece].flatten).take (before ++ [piece].flatten).length).drop
        before.length] = [piece]
      rw [List.take_length, List.drop_left, List.flatten_singleton]
    | cons next rest =>
      have hrest := ih (before ++ piece) (List.cons_ne_nil _ _)
      rw [List.append_assoc, List.length_append] at hrest
      rw [List.dropLast_cons_of_ne_nil (List.cons_ne_nil _ _), List.map_cons, endsOf,
        List.cons_append, List.zip_cons_cons, List.map_cons, List.flatten_cons, hrest]
      refine congrArg (· :: _) ?_
      rw [← List.append_assoc, ← List.length_append, List.take_left, List.drop_left]

theorem map_text_divide {pieces : List (List Char)} (h : pieces ≠ [])
    (htext : marked.text = pieces.flatten) :
    (marked.divide (endsOf 0 (pieces.dropLast.map List.length))).map (·.text) = pieces := by
  by_cases hplaces : endsOf 0 (pieces.dropLast.map List.length) = []
  · obtain ⟨piece, hpiece⟩ : ∃ piece, pieces = [piece] := by
      match pieces, h with
      | [piece], _ => exact ⟨piece, rfl⟩
      | _ :: _ :: _, _ => simp [endsOf] at hplaces
    rw [hplaces, hpiece, ← List.flatten_singleton (l := piece), ← hpiece, ← htext]
    rfl
  · rw [map_text_divide_of_ne_nil hplaces, htext]
    exact map_slices [] h

end Divide

/-! ## Places -/

section Places

variable {c : Char} {start place : Nat}

theorem isChain_endsOf (start : Nat) (sizes : List Nat) :
    (start :: endsOf start sizes).IsChain (· ≤ ·) := by
  induction sizes generalizing start with
  | nil => exact .singleton _
  | cons size sizes ih => exact .cons_cons (Nat.le_add_right _ _) (ih _)

theorem isChain_behind_placesOf (h : start ≤ place) (text : List Char) :
    (start :: (placesOf c place text).map (· + 1)).IsChain (· ≤ ·) := by
  induction text generalizing start place with
  | nil => exact .singleton _
  | cons d text ih =>
    rw [placesOf]
    split
    · exact .cons_cons (Nat.le_succ_of_le h) (ih (Nat.le_refl _))
    · exact ih (Nat.le_succ_of_le h)

theorem isChain_around_placesOf (h : start ≤ place) (text : List Char) :
    (start :: (placesOf c place text).flatMap fun place => [place, place + 1]).IsChain (· ≤ ·) := by
  induction text generalizing start place with
  | nil => exact .singleton _
  | cons d text ih =>
    rw [placesOf]
    split
    · exact .cons_cons h (.cons_cons (Nat.le_succ _) (ih (Nat.le_refl _)))
    · exact ih (Nat.le_succ_of_le h)

end Places

/-! ## Lines -/

section Lines

/-- The parts that a text is divided into at its line breaks, the line breaks included. -/
def lineParts (marked : Marked) : List Marked :=
  marked.divide ((placesOf '\n' 0 marked.text).flatMap fun place => [place, place + 1])

theorem lines_eq (marked : Marked) :
    marked.lines = marked.lineParts.filter fun line => line.text != ['\n'] := rfl

theorem flatMap_text_lineParts (marked : Marked) :
    marked.lineParts.flatMap (·.text) = marked.text :=
  flatMap_text_divide (isChain_around_placesOf (Nat.le_refl 0) _) marked

theorem exists_placesOf_eq {c : Char} {place next : Nat} {rest : List Nat}
    (h : placesOf c place text = next :: rest) :
    ∃ count, next = place + count ∧ c ∉ text.take count := by
  induction text generalizing place with
  | nil => cases h
  | cons d text ih =>
    rw [placesOf] at h
    split at h
    · cases h
      exact ⟨0, rfl, nofun⟩
    · next hd =>
      obtain ⟨count, hnext, hnot⟩ := ih h
      refine ⟨count + 1, by omega, ?_⟩
      rw [List.take_succ_cons, List.mem_cons, not_or]
      exact ⟨fun heq => hd heq.symm, hnot⟩

theorem not_mem_of_placesOf_eq_nil {c : Char} {place : Nat} (h : placesOf c place text = []) :
    c ∉ text := by
  induction text generalizing place with
  | nil => exact nofun
  | cons d text ih =>
    rw [placesOf] at h
    split at h
    · cases h
    · next hd => exact mt List.mem_cons.1 (not_or.2 ⟨fun heq => hd heq.symm, ih h⟩)

/-- The first part is a line, not a line break. -/
theorem exists_lineParts_eq (marked : Marked) :
    ∃ first rest, marked.lineParts = first :: rest ∧ '\n' ∉ first.text := by
  unfold lineParts
  cases hplaces : placesOf '\n' 0 marked.text with
  | nil => exact ⟨marked, [], rfl, not_mem_of_placesOf_eq_nil hplaces⟩
  | cons next rest =>
    obtain ⟨count, hnext, hnot⟩ := exists_placesOf_eq hplaces
    rw [Nat.zero_add] at hnext
    exact ⟨marked.part 0 next, _, rfl, hnext ▸ hnot⟩

end Lines

/-! ## Runs -/

section Runs

theorem flatten_cutAt (place : Nat) (text : List Char) (places : List Nat) :
    (cutAt place text places).flatten = text := by
  induction places generalizing place text with
  | nil => cases text <;> simp [cutAt]
  | cons next places ih =>
    rw [cutAt]
    split
    · exact ih place text
    · rw [List.flatten_cons, ih, List.take_append_drop]

/-- The runs hold the whole text. -/
theorem flatten_runs (marked : Marked) : marked.runs.flatten = marked.text :=
  flatten_cutAt _ _ _

end Runs

/-! ## Tabs -/

section Tabs

variable {stops column : Nat}

@[simp] theorem text_withText (marked : Marked) (text : List Char) :
    (marked.withText text).text = text := by
  unfold withText
  split <;> rfl

@[simp] theorem text_addSpaces (marked : Marked) (count : Nat) :
    (marked.addSpaces count).text = marked.text ++ List.replicate count ' ' := rfl

@[simp] theorem text_join (parts : List Marked) : (join parts).text = parts.flatMap (·.text) := by
  induction parts with
  | nil => rfl
  | cons part rest ih =>
    rw [List.flatMap_cons, ← ih]
    rfl

theorem ink_replicate_space (count : Nat) : ink (List.replicate count ' ') = [] :=
  Text.ink_eq_nil_iff.2 fun c hc => by
    rw [List.eq_of_mem_replicate hc]
    decide

theorem ink_fillTabs (stops column : Nat) (parts : List Marked) :
    ink ((fillTabs stops column parts).flatMap (·.text)) = ink (parts.flatMap (·.text)) := by
  induction parts generalizing column with
  | nil => rfl
  | cons part rest ih =>
    rw [fillTabs]
    split
    · next hlast =>
      obtain ⟨init, hinit⟩ := List.getLast?_eq_some_iff.1 hlast
      have hspace : ink [' '] = ink ['\t'] := rfl
      rw [List.flatMap_cons, List.flatMap_cons, Text.ink_append, Text.ink_append, ih,
        text_addSpaces, text_withText, Text.ink_append, ink_replicate_space, List.append_nil, hinit,
        List.dropLast_concat, Text.ink_append, Text.ink_append, hspace]
    · rw [List.flatMap_cons, List.flatMap_cons, Text.ink_append, Text.ink_append, ih]

theorem flatMap_text_filter (parts : List Marked) :
    (parts.filter fun part => !part.text.isEmpty).flatMap (·.text) = parts.flatMap (·.text) := by
  induction parts with
  | nil => rfl
  | cons part rest ih =>
    rw [List.filter_cons]
    split
    · rw [List.flatMap_cons, ih, List.flatMap_cons]
    · next hempty =>
      have hnil : part.text = [] := by simpa using hempty
      rw [ih, List.flatMap_cons, hnil, List.nil_append]

/-- The parts of a line that end with its tabs. -/
theorem flatMap_text_tabParts (line : Marked) :
    ((line.divide ((placesOf '\t' 0 line.text).map (· + 1))).filter
      fun part => !part.text.isEmpty).flatMap (·.text) = line.text := by
  rw [flatMap_text_filter, flatMap_text_divide (isChain_behind_placesOf (Nat.le_refl 0) _)]

/-- Filling up tabs changes white space only. -/
theorem ink_expandTabs (stops : Nat) (line : Marked) :
    ink (line.expandTabs stops).text = ink line.text := by
  unfold expandTabs
  split
  · rw [text_join, ink_fillTabs, flatMap_text_tabParts]
  · rfl

theorem expandTabs_of_not_mem (stops : Nat) (h : '\t' ∉ line.text) :
    line.expandTabs stops = line := by
  rw [expandTabs, if_neg (by simpa using h)]

theorem unjoined_fillTabs (stops column : Nat) {parts : List Marked}
    (h : ∀ part ∈ parts, Unjoined part.text) :
    ∀ part ∈ fillTabs stops column parts, Unjoined part.text := by
  induction parts generalizing column with
  | nil => exact nofun
  | cons part rest ih =>
    obtain ⟨hpart, hrest⟩ := List.forall_mem_cons.1 h
    rw [fillTabs]
    split
    · refine List.forall_mem_cons.2 ⟨?_, ih _ hrest⟩
      have hspace : ∀ c : Char, c = ' ' → c ≠ Text.joiner ∧ c ≠ Text.pictureSign := by
        rintro c rfl
        decide
      rw [text_addSpaces, text_withText]
      refine .append (.append (hpart.of_subset (List.dropLast_subset _)) ?_) ?_
      · exact fun c hc => hspace c (List.mem_singleton.1 hc)
      · exact fun c hc => hspace c (List.eq_of_mem_replicate hc)
    · exact List.forall_mem_cons.2 ⟨hpart, ih _ hrest⟩

theorem unjoined_expandTabs (stops : Nat) (h : Unjoined line.text) :
    Unjoined (line.expandTabs stops).text := by
  unfold expandTabs
  split
  · rw [text_join]
    intro c hc
    obtain ⟨part, hpart, hc⟩ := List.mem_flatMap.1 hc
    refine unjoined_fillTabs stops 0 (fun other hother => ?_) part hpart c hc
    refine h.of_subset fun d hd => ?_
    rw [← flatMap_text_tabParts line]
    exact List.mem_flatMap.2 ⟨other, hother, hd⟩
  · exact h

end Tabs

/-! ## Styles -/

section Styles

variable {p : List Char → Prop}

/-- All styles of a text are of a kind. -/
def StyledBy (p : List Char → Prop) (marked : Marked) : Prop :=
  ∀ mark ∈ marked.marks, p mark.style

theorem StyledBy.filterMap {marks : List Mark} (h : ∀ mark ∈ marks, p mark.style)
    {f : Mark → Option Mark} (hf : ∀ mark cut, f mark = some cut → cut.style = mark.style) :
    ∀ mark ∈ marks.filterMap f, p mark.style := by
  intro cut hcut
  obtain ⟨mark, hmark, heq⟩ := List.mem_filterMap.1 hcut
  rw [hf mark cut heq]
  exact h mark hmark

theorem style_within? {start stop : Nat} {mark cut : Mark}
    (h : mark.within? start stop = some cut) : cut.style = mark.style := by
  simp only [Mark.within?] at h
  split at h <;> cases h
  rfl

theorem style_upTo? {limit : Nat} {mark cut : Mark} (h : mark.upTo? limit = some cut) :
    cut.style = mark.style := by
  simp only [Mark.upTo?] at h
  split at h <;> cases h
  rfl

theorem style_grow (size more : Nat) (mark : Mark) : (mark.grow size more).style = mark.style := by
  unfold Mark.grow
  split <;> rfl

theorem StyledBy.part (h : marked.StyledBy p) (start stop : Nat) :
    (marked.part start stop).StyledBy p :=
  StyledBy.filterMap h fun _ _ => style_within?

theorem StyledBy.withText (h : marked.StyledBy p) (text : List Char) :
    (marked.withText text).StyledBy p := by
  unfold Marked.withText
  split
  · exact StyledBy.filterMap h fun _ _ => style_upTo?
  · exact h

theorem StyledBy.divide (h : marked.StyledBy p) (places : List Nat) :
    ∀ part ∈ marked.divide places, part.StyledBy p := by
  unfold Marked.divide
  split
  · exact List.forall_mem_singleton.2 h
  · intro part hpart
    obtain ⟨span, -, rfl⟩ := List.mem_map.1 hpart
    exact h.part _ _

theorem StyledBy.lines (h : marked.StyledBy p) : ∀ line ∈ marked.lines, line.StyledBy p :=
  fun line hline => h.divide _ line (List.mem_filter.1 hline).1

theorem StyledBy.addSpaces (h : marked.StyledBy p) (count : Nat) :
    (marked.addSpaces count).StyledBy p := by
  intro mark hmark
  obtain ⟨before, hbefore, rfl⟩ := List.mem_map.1 hmark
  rw [style_grow]
  exact h before hbefore

theorem StyledBy.join {parts : List Marked} (h : ∀ part ∈ parts, part.StyledBy p) :
    (join parts).StyledBy p := by
  induction parts with
  | nil => exact nofun
  | cons part rest ih =>
    obtain ⟨hpart, hrest⟩ := List.forall_mem_cons.1 h
    refine List.forall_mem_append.2 ⟨hpart, fun mark hmark => ?_⟩
    obtain ⟨before, hbefore, rfl⟩ := List.mem_map.1 hmark
    exact ih hrest before hbefore

theorem StyledBy.fillTabs (stops column : Nat) {parts : List Marked}
    (h : ∀ part ∈ parts, part.StyledBy p) :
    ∀ part ∈ fillTabs stops column parts, part.StyledBy p := by
  induction parts generalizing column with
  | nil => exact nofun
  | cons part rest ih =>
    obtain ⟨hpart, hrest⟩ := List.forall_mem_cons.1 h
    rw [Marked.fillTabs]
    split
    · exact List.forall_mem_cons.2 ⟨(hpart.withText _).addSpaces _, ih _ hrest⟩
    · exact List.forall_mem_cons.2 ⟨hpart, ih _ hrest⟩

theorem StyledBy.expandTabs (h : line.StyledBy p) (stops : Nat) :
    (line.expandTabs stops).StyledBy p := by
  unfold Marked.expandTabs
  split
  · exact .join (.fillTabs stops 0 fun part hpart => h.divide _ part (List.mem_filter.1 hpart).1)
  · exact h

end Styles

end Marked

end ScriptReplay.Console
