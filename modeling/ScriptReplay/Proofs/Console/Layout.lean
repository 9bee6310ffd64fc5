import Mathlib.Data.List.Flatten
import ScriptReplay.Console.Page
import ScriptReplay.Proofs.Console.Marked
import ScriptReplay.Proofs.Result
import ScriptReplay.Proofs.Text.Pieces

/-!
# Texts as they are laid out

* `flatten_wordsWithin`, `fillLines_spec`: the words hold the whole line, and so do the lines that
  they are put into, each of which fits.
* `broken_lineOutput`: a line comes out broken between its words.
* `ink_textOutput_sublist`: nothing is printed that the text does not have.
* `ink_textOutput`, `broken_textOutput`: where all characters are measured by themselves, the whole
  text is printed, and its lines are only broken if it has no tabs.
-/

namespace ScriptReplay.Console

open ScriptReplay.Text (isBlank trimEnd ink Broken Unjoined columnsOfEach)

variable {s t output : List Char} {limit : Nat} {line text : Marked}

/-! ## Words -/

section Words

theorem dropWhile_isBlank_of_ink_eq_nil (h : ink s = []) : s.dropWhile isBlank = [] :=
  List.dropWhile_eq_nil_iff.2 (Text.ink_eq_nil_iff.1 h)

theorem wordsWithin_of_blank (fuel : Nat) (h : ink s = []) : wordsWithin fuel s = [] := by
  cases fuel with
  | zero => rfl
  | succ fuel =>
    rw [wordsWithin, dropWhile_isBlank_of_ink_eq_nil h]
    rfl

/-- A text with ink in it begins with a word, and what follows is empty or has ink in it, too. -/
theorem exists_wordsWithin_eq (fuel : Nat) (h : ink s ≠ []) :
    ∃ word rest, s = word ++ rest ∧ ink word ≠ [] ∧ (ink rest = [] → rest = []) ∧
      wordsWithin (fuel + 1) s = word :: wordsWithin fuel rest := by
  rcases Text.dropWhile_isBlank_cases s with hnil | ⟨c, more, hmore, hc⟩
  · exact absurd (Text.ink_eq_nil_iff.2 (List.dropWhile_eq_nil_iff.1 hnil)) h
  · have hword : (c :: more).takeWhile (!isBlank ·) = c :: more.takeWhile (!isBlank ·) :=
      List.takeWhile_cons_of_pos (by simp [hc])
    refine ⟨s.takeWhile isBlank ++ (c :: more).takeWhile (!isBlank ·)
        ++ ((c :: more).dropWhile (!isBlank ·)).takeWhile isBlank,
      ((c :: more).dropWhile (!isBlank ·)).dropWhile isBlank, ?_, ?_, ?_, ?_⟩
    · rw [List.append_assoc, List.append_assoc, List.takeWhile_append_dropWhile,
        List.takeWhile_append_dropWhile, ← hmore, List.takeWhile_append_dropWhile]
    · rw [hword]
      exact Text.ink_ne_nil_of_mem (by simp) hc
    · intro hink
      rcases Text.dropWhile_isBlank_cases ((c :: more).dropWhile (!isBlank ·)) with
        hnil | ⟨d, rest, hrest, hd⟩
      · exact hnil
      · rw [hrest] at hink
        exact absurd hink (Text.ink_ne_nil_of_mem List.mem_cons_self hd)
    · rw [wordsWithin, hmore, hword]
      rfl

theorem length_lt_of_append {word rest : List Char} (h : s = word ++ rest) (hword : ink word ≠ []) :
    rest.length < s.length := by
  have hpos : 0 < word.length := by
    refine List.length_pos_iff.2 fun hnil => hword ?_
    rw [hnil]
    rfl
  rw [h, List.length_append]
  omega

/-- The words of a text hold all of it, if there is any ink in it. -/
theorem flatten_wordsWithin {fuel : Nat} (hfuel : s.length ≤ fuel) (h : ink s ≠ []) :
    (wordsWithin fuel s).flatten = s := by
  induction fuel generalizing s with
  | zero =>
    obtain rfl := List.length_eq_zero_iff.1 (Nat.le_zero.1 hfuel)
    exact absurd rfl h
  | succ fuel ih =>
    obtain ⟨word, rest, hs, hword, hrest, hwords⟩ := exists_wordsWithin_eq fuel h
    have hlength := length_lt_of_append hs hword
    rw [hwords, List.flatten_cons]
    by_cases hink : ink rest = []
    · rw [wordsWithin_of_blank fuel hink, hs, hrest hink]
      rfl
    · rw [ih (by omega) hink, ← hs]

theorem ink_ne_nil_of_mem_wordsWithin {fuel : Nat} :
    ∀ word ∈ wordsWithin fuel s, ink word ≠ [] := by
  induction fuel generalizing s with
  | zero => exact nofun
  | succ fuel ih =>
    by_cases h : ink s = []
    · rw [wordsWithin_of_blank _ h]
      exact nofun
    · obtain ⟨word, rest, -, hword, -, hwords⟩ := exists_wordsWithin_eq fuel h
      rw [hwords]
      exact List.forall_mem_cons.2 ⟨hword, ih⟩

end Words

/-! ## Lines filled with words -/

section Fill

/-- A line that fits, up to white space at its end. -/
def Fits (limit : Nat) (line : List Char) : Prop :=
  columnsOfEach (trimEnd isBlank line) ≤ limit

theorem fits_of_columns_le (h : columnsOfEach s ≤ limit) : Fits limit s := by
  obtain ⟨gap, hs, -⟩ := Text.exists_trimEnd_eq s
  rw [hs, Text.columnsOfEach_append] at h
  exact Nat.le_trans (Nat.le_add_right _ _) h

theorem fits_of_blank (h : ink s = []) : Fits limit s := by
  rw [Fits, Text.trimEnd_eq_nil_iff.2 (Text.ink_eq_nil_iff.1 h)]
  exact Nat.zero_le _

/-- White space is measured by itself. -/
theorem unjoined_of_blank (h : ∀ c ∈ s, isBlank c = true) : Unjoined s := by
  refine fun c hc => ⟨?_, ?_⟩ <;> rintro rfl <;> exact absurd (h _ hc) (by decide)

theorem unjoined_trimEnd (h : Unjoined s) : Unjoined (trimEnd isBlank s) := by
  obtain ⟨gap, hs, -⟩ := Text.exists_trimEnd_eq s
  rw [hs] at h
  exact h.of_append.1

/-- A word that is wider than a line is cut into parts that fit. -/
theorem exists_chop_eq (hlimit : 2 ≤ limit) {word : List Char} (hword : Unjoined word)
    (hwide : limit < columnsOfEach (trimEnd isBlank word)) :
    ∃ parts last, Text.chop limit word = parts ++ [last] ∧ parts.flatten ++ last = word ∧
      (∀ part ∈ parts, Fits limit part) ∧ Fits limit last ∧ Unjoined last := by
  obtain ⟨gap, hgap, -⟩ := Text.exists_trimEnd_eq word
  have hcount := congrArg columnsOfEach hgap
  rw [Text.columnsOfEach_append] at hcount
  have hcolumns := Text.columns_eq hword
  have hflatten := Text.flatten_chop hword hlimit (by omega)
  have hnarrow := Text.columns_le_of_mem_chop hword hlimit
  obtain hnil | ⟨parts, last, hchop⟩ := (Text.chop limit word).eq_nil_or_concat
  · rw [hnil] at hflatten
    rw [← hflatten] at hwide
    exact absurd hwide (Nat.not_lt_zero limit)
  · rw [List.concat_eq_append] at hchop
    rw [hchop] at hflatten hnarrow
    rw [List.flatten_append, List.flatten_singleton] at hflatten
    have hfits : ∀ part ∈ parts ++ [last], Fits limit part :=
      fun part hpart => fits_of_columns_le (hnarrow part hpart)
    refine ⟨parts, last, hchop, hflatten, (List.forall_mem_append.1 hfits).1,
      hfits last (List.mem_append_right _ List.mem_cons_self), ?_⟩
    rw [← hflatten] at hword
    exact hword.of_append.2

/-- The line begun stands before others unless it is empty. -/
theorem opened_spec {current : List Char} (hcurrent : Fits limit current)
    {lines : List (List Char)} (hlines : ∀ line ∈ lines, Fits limit line) :
    (if current.isEmpty then lines else current :: lines).flatten = current ++ lines.flatten ∧
      ∀ line ∈ (if current.isEmpty then lines else current :: lines), Fits limit line := by
  split
  · next hempty =>
    rw [List.isEmpty_iff.1 hempty]
    exact ⟨rfl, hlines⟩
  · exact ⟨rfl, List.forall_mem_cons.2 ⟨hcurrent, hlines⟩⟩

/-- The lines hold the line begun and all words, and every line fits. -/
theorem fillLines_spec (hlimit : 2 ≤ limit) {words : List (List Char)}
    (hwords : ∀ word ∈ words, Unjoined word ∧ ink word ≠ []) {current : List Char}
    (hcurrent : Fits limit current) {used : Nat} (hused : used = columnsOfEach current) :
    (fillLines limit current used words).flatten = current ++ words.flatten ∧
      fillLines limit current used words ≠ [] ∧
      ∀ line ∈ fillLines limit current used words, Fits limit line := by
  induction words generalizing current used with
  | nil => exact ⟨rfl, List.cons_ne_nil _ _, List.forall_mem_singleton.2 hcurrent⟩
  | cons word rest ih =>
    obtain ⟨⟨hword, hink⟩, hrest⟩ := List.forall_mem_cons.1 hwords
    have hsize := Text.columns_eq (unjoined_trimEnd hword)
    have hcolumns := Text.columns_eq hword
    rw [fillLines]
    split
    · next hfits =>
      -- The word goes behind what the line has already.
      have hlonger : Fits limit (current ++ word) := by
        rw [Fits, Text.trimEnd_append current hink, Text.columnsOfEach_append]
        omega
      have hmore : used + Text.columns word = columnsOfEach (current ++ word) := by
        rw [Text.columnsOfEach_append, hused, hcolumns]
      have hlines := ih hrest hlonger hmore
      rwa [List.append_assoc] at hlines
    · split
      · next hwide =>
        -- The word is cut, and its last part begins the next line.
        obtain ⟨parts, last, hchop, hflatten, hparts, hlast, hunjoined⟩ :=
          exists_chop_eq hlimit hword (hsize ▸ hwide)
        obtain ⟨hlines, hne, hfit⟩ := ih hrest hlast (Text.columns_eq hunjoined)
        obtain ⟨hopened, hopenedFit⟩ := opened_spec hcurrent hparts
        simp only [hchop, List.getLast?_concat, Option.getD_some, List.dropLast_concat]
        refine ⟨?_, List.append_ne_nil_of_right_ne_nil _ hne,
          List.forall_mem_append.2 ⟨hopenedFit, hfit⟩⟩
        rw [List.flatten_append, hopened, hlines, List.flatten_cons, ← hflatten]
        simp only [List.append_assoc]
      · next hnarrow =>
        -- The word begins the next line.
        have hfits : Fits limit word := by
          rw [Fits]
          omega
        obtain ⟨hlines, hne, hfit⟩ := ih hrest hfits hcolumns
        refine ⟨?_, List.cons_ne_nil _ _, List.forall_mem_cons.2 ⟨hcurrent, hfit⟩⟩
        rw [List.flatten_cons, hlines, List.flatten_cons]

/-- The parts that a line is divided into hold the line, and each of them fits. -/
theorem exists_pieces (hlimit : 2 ≤ limit) (h : Unjoined line.text) :
    ∃ pieces, (line.divide (breaksOf limit line.text)).map (·.text) = pieces ∧ pieces ≠ [] ∧
      pieces.flatten = line.text ∧ ∀ piece ∈ pieces, Fits limit piece := by
  by_cases hink : ink line.text = []
  · refine ⟨[line.text], ?_, List.cons_ne_nil _ _, List.flatten_singleton,
      List.forall_mem_singleton.2 (fits_of_blank hink)⟩
    rw [breaksOf, words, wordsWithin_of_blank _ hink]
    rfl
  · have hwords := flatten_wordsWithin (Nat.le_refl _) hink
    have hall : ∀ word ∈ words line.text, Unjoined word ∧ ink word ≠ [] := by
      refine fun word hword =>
        ⟨h.of_subset fun c hc => ?_, ink_ne_nil_of_mem_wordsWithin word hword⟩
      rw [← hwords]
      exact List.mem_flatten.2 ⟨word, hword, hc⟩
    have hbegun : Fits limit [] := Nat.zero_le _
    obtain ⟨hflatten, hne, hfit⟩ := fillLines_spec hlimit hall hbegun rfl
    have hpieces : (fillLines limit [] 0 (words line.text)).flatten = line.text :=
      hflatten.trans hwords
    exact ⟨_, Marked.map_text_divide hne hpieces.symm, hne, hpieces, hfit⟩

end Fill

/-! ## Lines of the console -/

section Line

/-- A part of a line as it is cut to the columns of the console. -/
def cutLine (limit : Nat) (s : List Char) : List Char :=
  let blanks := s.length - (trimEnd isBlank s).length
  Text.crop limit (s.take (s.length - min blanks (s.length - limit)))

theorem map_text_wrapLine (limit : Nat) (line : Marked) :
    (wrapLine limit line).map (·.text) =
      ((line.divide (breaksOf limit line.text)).map (·.text)).map (cutLine limit) := by
  rw [wrapLine, List.map_map, List.map_map]
  refine List.map_congr_left fun part _ => ?_
  simp [cutLine, dropOverhang]

theorem ink_cropGraphemes_sublist (limit : Nat) (graphemes : List Text.Grapheme) :
    (ink (Text.cropGraphemes limit graphemes)).Sublist
      (ink (graphemes.flatMap Text.Grapheme.chars)) := by
  induction graphemes generalizing limit with
  | nil => cases limit <;> exact .refl _
  | cons grapheme rest ih =>
    cases limit with
    | zero => exact List.nil_sublist _
    | succ limit =>
      simp only [Text.cropGraphemes]
      split
      · rw [List.flatMap_cons, Text.ink_append, Text.ink_append]
        exact (ih _).append_left _
      · exact List.nil_sublist _

theorem ink_crop_sublist (limit : Nat) (s : List Char) :
    (ink (Text.crop limit s)).Sublist (ink s) := by
  unfold Text.crop
  split
  · exact .refl _
  · have h := ink_cropGraphemes_sublist limit (Text.Grapheme.split s)
    rwa [Text.Grapheme.flatMap_chars_split] at h

theorem ink_fit_sublist (limit : Nat) (s : List Char) :
    (ink (Text.fit limit s)).Sublist (ink s) := by
  unfold Text.fit
  dsimp only
  split
  · rw [Text.ink_append, Marked.ink_replicate_space, List.append_nil]
  · have h := ink_cropGraphemes_sublist limit (Text.Grapheme.split s)
    rwa [Text.Grapheme.flatMap_chars_split] at h

theorem ink_cutLine_sublist (limit : Nat) (s : List Char) :
    (ink (cutLine limit s)).Sublist (ink s) :=
  (ink_crop_sublist _ _).trans (Text.ink_sublist (List.take_sublist _ _))

theorem ink_wrapLine_sublist (limit : Nat) (line : Marked) :
    ((wrapLine limit line).flatMap fun part => ink part.text).Sublist (ink line.text) := by
  have hdivide : (line.divide (breaksOf limit line.text)).flatMap (fun part => ink part.text) =
      ink line.text := by
    rw [breaksOf, ← Text.ink_flatMap _ fun part : Marked => part.text,
      Marked.flatMap_text_divide (Marked.isChain_endsOf 0 _)]
  rw [← hdivide, ← List.flatMap_map (fun part : Marked => part.text) ink, map_text_wrapLine,
    List.map_map, List.flatMap_map]
  exact List.Sublist.flatMap_right _ fun part _ => ink_cutLine_sublist limit part.text

/-- White space at the end that a line has no room for is cut. -/
theorem exists_take_eq (limit : Nat) (words gap : List Char) :
    ∃ count, (words ++ gap).take ((words ++ gap).length - min gap.length
      ((words ++ gap).length - limit)) = words ++ gap.take count := by
  refine ⟨(words ++ gap).length - min gap.length ((words ++ gap).length - limit) - words.length, ?_⟩
  have hle : words.length ≤
      (words ++ gap).length - min gap.length ((words ++ gap).length - limit) := by
    rw [List.length_append]
    omega
  rw [List.take_append, List.take_of_length_le hle]

/-- A part that fits is cut at most in the white space at its end. -/
theorem exists_cutLine_eq (hlimit : 2 ≤ limit) (h : Unjoined s) (hfits : Fits limit s) :
    ∃ gap kept, s = trimEnd isBlank s ++ gap ∧ cutLine limit s = trimEnd isBlank s ++ kept ∧
      (∀ c ∈ gap, isBlank c = true) ∧ (∀ c ∈ kept, isBlank c = true) ∧
      kept.length ≤ gap.length := by
  obtain ⟨gap, hgap, hblank⟩ := Text.exists_trimEnd_eq s
  have hblanks : s.length - (trimEnd isBlank s).length = gap.length := by
    have hlength := congrArg List.length hgap
    rw [List.length_append] at hlength
    omega
  obtain ⟨count, hcount⟩ := exists_take_eq limit (trimEnd isBlank s) gap
  rw [← hgap, ← hblanks] at hcount
  have hunjoined : Unjoined (trimEnd isBlank s ++ gap.take count) :=
    hcount ▸ h.of_subset (List.take_subset _ _)
  obtain ⟨kept, hkept, hkeptBlank, hlength⟩ := Text.crop_append hunjoined hlimit hfits
    fun c hc => hblank c (List.take_subset _ _ hc)
  refine ⟨gap, kept, hgap, ?_, hblank, hkeptBlank, ?_⟩
  · rw [← hkept, ← hcount]
    rfl
  · rw [List.length_take] at hlength
    omega

theorem broken_cutLine (hlimit : 2 ≤ limit) (h : Unjoined s) (hfits : Fits limit s) :
    Broken s (cutLine limit s ++ ['\n']) := by
  obtain ⟨gap, kept, hgap, hcut, hblank, hkept, hlength⟩ := exists_cutLine_eq hlimit h hfits
  have hline := Broken.line (trimEnd isBlank s) gap kept hblank hkept hlength .nil
  rwa [← hgap, List.append_nil, ← hcut] at hline

theorem unjoined_cutLine (hlimit : 2 ≤ limit) (h : Unjoined s) (hfits : Fits limit s) :
    Unjoined (cutLine limit s) := by
  obtain ⟨gap, kept, -, hcut, -, hkept, -⟩ := exists_cutLine_eq hlimit h hfits
  rw [hcut]
  exact (unjoined_trimEnd h).append (unjoined_of_blank hkept)

theorem columnsOfEach_cutLine_le (hlimit : 2 ≤ limit) (h : Unjoined s) :
    columnsOfEach (cutLine limit s) ≤ limit :=
  Text.columnsOfEach_crop_le (h.of_subset (List.take_subset _ _)) hlimit

theorem foldl_columns_eq {runs : List (List Char)} (h : Unjoined runs.flatten) (total : Nat) :
    runs.foldl (fun total run => total + Text.columns run) total =
      total + columnsOfEach runs.flatten := by
  induction runs generalizing total with
  | nil => rfl
  | cons run runs ih =>
    rw [List.flatten_cons] at h ⊢
    obtain ⟨hrun, hruns⟩ := h.of_append
    rw [List.foldl_cons, ih hruns, Text.columns_eq hrun, Text.columnsOfEach_append, Nat.add_assoc]

theorem columnsOfRuns_eq {runs : List (List Char)} (h : Unjoined runs.flatten) :
    columnsOfRuns runs = columnsOfEach runs.flatten :=
  (foldl_columns_eq h 0).trans (Nat.zero_add _)

theorem ink_cropRuns_sublist (limit used : Nat) (runs : List (List Char)) :
    (ink (cropRuns limit used runs).flatten).Sublist (ink runs.flatten) := by
  induction runs generalizing used with
  | nil => exact .refl _
  | cons run runs ih =>
    rw [cropRuns, List.flatten_cons, Text.ink_append]
    split
    · rw [List.flatten_cons, Text.ink_append]
      exact (ih _).append_left _
    · rw [List.flatten_singleton]
      exact (ink_fit_sublist _ _).trans (List.sublist_append_left _ _)

/-- A line of the console as it is shown, run by run. -/
def shownLine (line : Marked) : List Char :=
  (limitRuns width line.runs).flatten

theorem ink_shownLine_sublist (line : Marked) : (ink (shownLine line)).Sublist (ink line.text) := by
  rw [← Marked.flatten_runs line, shownLine, limitRuns]
  split
  · exact ink_cropRuns_sublist _ _ _
  · exact .refl _

theorem shownLine_eq (h : Unjoined line.text) (hfits : columnsOfEach line.text ≤ width) :
    shownLine line = line.text := by
  have hruns := Marked.flatten_runs line
  have hcolumns := columnsOfRuns_eq (hruns.symm ▸ h)
  rw [hruns] at hcolumns
  rw [shownLine, limitRuns, if_neg (by omega), hruns]

/-- What is printed for a line of text. -/
def lineOutput (line : Marked) : List Char :=
  (wrapLine width line).flatMap fun part => shownLine part ++ ['\n']

theorem ink_lineOutput_sublist (line : Marked) :
    (ink (lineOutput line)).Sublist (ink line.text) := by
  rw [lineOutput, Text.ink_flatMap]
  refine .trans (List.Sublist.flatMap_right _ fun part _ => ?_) (ink_wrapLine_sublist width line)
  rw [Text.ink_append]
  exact (List.append_nil _).symm ▸ ink_shownLine_sublist part

/-- A line comes out broken between its words. -/
theorem broken_lineOutput (h : Unjoined line.text) :
    Broken line.text (lineOutput line) ∧ lineOutput line ≠ [] := by
  have hwidth : 2 ≤ width := by decide
  obtain ⟨pieces, hparts, hne, hflatten, hfits⟩ := exists_pieces hwidth h
  have hunjoined : ∀ piece ∈ pieces, Unjoined piece := fun piece hpiece =>
    h.of_subset fun c hc => hflatten ▸ List.mem_flatten.2 ⟨piece, hpiece, hc⟩
  have houtput : lineOutput line = pieces.flatMap fun piece => cutLine width piece ++ ['\n'] := by
    have hshown : ∀ part ∈ wrapLine width line, shownLine part ++ ['\n'] = part.text ++ ['\n'] := by
      intro part hpart
      have htext : part.text ∈ (wrapLine width line).map (·.text) := List.mem_map_of_mem hpart
      rw [map_text_wrapLine, hparts] at htext
      obtain ⟨piece, hpiece, heq⟩ := List.mem_map.1 htext
      refine congrArg (· ++ ['\n']) (shownLine_eq ?_ ?_) <;> rw [← heq]
      · exact unjoined_cutLine hwidth (hunjoined piece hpiece) (hfits piece hpiece)
      · exact columnsOfEach_cutLine_le hwidth (hunjoined piece hpiece)
    rw [lineOutput, List.flatMap_congr hshown, ← hparts,
      ← List.flatMap_map (fun part : Marked => part.text) (· ++ ['\n']), map_text_wrapLine,
      List.flatMap_map]
  rw [houtput, ← hflatten]
  refine ⟨.flatten fun piece hpiece => broken_cutLine hwidth (hunjoined piece hpiece)
    (hfits piece hpiece), ?_⟩
  obtain ⟨piece, rest, rfl⟩ := List.exists_cons_of_ne_nil hne
  simp

end Line

/-! ## Printed texts -/

section Print

/-- The lines of a text as they are laid out. -/
def laidOut (text : Marked) : List Marked :=
  text.lines.flatMap fun line => wrapLine width (line.expandTabs messageStops)

/-- What is printed for a text. -/
def textOutput (text : Marked) : List Char :=
  text.lines.flatMap fun line => lineOutput (line.expandTabs messageStops)

theorem printText_eq (text : Marked) :
    printText text = (checkStyles (laidOut text)).map fun _ => String.ofList (textOutput text) := by
  have houtput : ((laidOut text).map shownLine).flatMap (· ++ ['\n']) = textOutput text := by
    rw [laidOut, List.map_flatMap, List.flatMap_assoc]
    refine List.flatMap_congr fun line _ => ?_
    rw [List.flatMap_map]
    rfl
  rw [← houtput]
  change (checkStyles (laidOut text) >>= fun _ => pure (printed ((laidOut text).map shownLine))) = _
  cases checkStyles (laidOut text) <;> rfl

/-- Styles whose colors are numbers where they are written as such. -/
def FineStyle (style : List Char) : Prop :=
  ∃ name, StyleName.ofName? style = .ok name

theorem styledBy_laidOut {p : List Char → Prop} (h : text.StyledBy p) :
    ∀ line ∈ laidOut text, line.StyledBy p := by
  intro line hline
  obtain ⟨whole, hwhole, hline⟩ := List.mem_flatMap.1 hline
  obtain ⟨part, hpart, rfl⟩ := List.mem_map.1 hline
  have hstyled := ((h.lines whole hwhole).expandTabs messageStops).divide _ part hpart
  exact (hstyled.withText _).withText _

theorem checkStyles_eq_ok {lines : List Marked} (h : ∀ line ∈ lines, line.StyledBy FineStyle) :
    checkStyles lines = .ok () := by
  have hmarks : ∀ mark ∈ lines.flatMap (·.marks), FineStyle mark.style := by
    intro mark hmark
    obtain ⟨line, hline, hmark⟩ := List.mem_flatMap.1 hmark
    exact h line hline mark hmark
  unfold checkStyles
  generalize lines.flatMap (·.marks) = marks at hmarks ⊢
  induction marks with
  | nil => rfl
  | cons mark marks ih =>
    obtain ⟨⟨name, hname⟩, hrest⟩ := List.forall_mem_cons.1 hmarks
    rw [List.forM_eq_forM, List.forM_cons, hname]
    exact ih hrest

/-- A text with fine styles is printed. -/
theorem printText_of_styledBy (h : text.StyledBy FineStyle) :
    printText text = .ok (String.ofList (textOutput text)) := by
  rw [printText_eq, checkStyles_eq_ok (styledBy_laidOut h)]
  rfl

theorem toList_of_printText_eq_ok {result : String} (h : printText text = .ok result) :
    result.toList = textOutput text := by
  rw [printText_eq] at h
  cases hstyles : checkStyles (laidOut text) with
  | error error => rw [hstyles] at h; cases h
  | ok _ =>
    rw [hstyles] at h
    cases h
    exact String.toList_ofList

theorem ink_textOutput_sublist (text : Marked) :
    (ink (textOutput text)).Sublist (ink text.text) := by
  rw [← Marked.flatMap_text_lineParts text, textOutput, Text.ink_flatMap, Text.ink_flatMap,
    Marked.lines_eq]
  refine .trans (List.Sublist.flatMap_right _ fun line _ => ?_)
    (List.Sublist.flatMap List.filter_sublist _)
  rw [← Marked.ink_expandTabs messageStops line]
  exact ink_lineOutput_sublist _

theorem unjoined_lineParts (h : Unjoined text.text) :
    ∀ line ∈ text.lineParts, Unjoined line.text := by
  rw [← Marked.flatMap_text_lineParts text] at h
  exact fun line hline => h.of_subset fun c hc => List.mem_flatMap.2 ⟨line, hline, hc⟩

theorem ink_textOutput (h : Unjoined text.text) : ink (textOutput text) = ink text.text := by
  have hlines : ∀ line ∈ text.lines,
      ink (lineOutput (line.expandTabs messageStops)) = ink line.text := by
    intro line hline
    have hunjoined := unjoined_lineParts h line (List.mem_filter.1 hline).1
    rw [(broken_lineOutput (Marked.unjoined_expandTabs _ hunjoined)).1.ink_eq,
      Marked.ink_expandTabs]
  have hbreaks : ∀ parts : List Marked,
      (parts.filter fun line => line.text != ['\n']).flatMap (fun line => ink line.text) =
        parts.flatMap fun line => ink line.text := by
    intro parts
    induction parts with
    | nil => rfl
    | cons part rest ih =>
      rw [List.filter_cons, List.flatMap_cons]
      split
      · rw [List.flatMap_cons, ih]
      · next hbreak =>
        have htext : part.text = ['\n'] := by simpa using hbreak
        rw [ih, htext]
        rfl
  rw [textOutput, Text.ink_flatMap, List.flatMap_congr hlines, Marked.lines_eq, hbreaks,
    ← Text.ink_flatMap _ fun part : Marked => part.text, Marked.flatMap_text_lineParts]

/-- A line break that ends a line is the one behind the output of the line. -/
theorem broken_append_lines (hbroken : Broken s output) (hne : output ≠ []) {parts : List Marked}
    (h : ∀ line ∈ parts, Broken line.text (lineOutput (line.expandTabs messageStops)) ∧
      lineOutput (line.expandTabs messageStops) ≠ []) :
    Broken (s ++ parts.flatMap (·.text))
      (output ++ (parts.filter fun line => line.text != ['\n']).flatMap fun line =>
        lineOutput (line.expandTabs messageStops)) := by
  induction parts generalizing s output with
  | nil => simpa using hbroken
  | cons part rest ih =>
    obtain ⟨⟨hpart, -⟩, hrest⟩ := List.forall_mem_cons.1 h
    rw [List.flatMap_cons, ← List.append_assoc, List.filter_cons]
    split
    · rw [List.flatMap_cons, ← List.append_assoc]
      exact ih (hbroken.append hpart) (List.append_ne_nil_of_left_ne_nil hne _) hrest
    · next hbreak =>
      have htext : part.text = ['\n'] := by simpa using hbreak
      refine ih (hbroken.append_blank hne ?_) hne hrest
      rw [htext]
      exact List.forall_mem_singleton.2 (by decide)

theorem broken_textOutput (h : Unjoined text.text) (htabs : '\t' ∉ text.text) :
    Broken text.text (textOutput text) := by
  have hlines : ∀ line ∈ text.lineParts,
      Broken line.text (lineOutput (line.expandTabs messageStops)) ∧
        lineOutput (line.expandTabs messageStops) ≠ [] := by
    intro line hline
    have hnone : '\t' ∉ line.text := by
      rw [← Marked.flatMap_text_lineParts text] at htabs
      exact fun hmem => htabs (List.mem_flatMap.2 ⟨line, hline, hmem⟩)
    rw [Marked.expandTabs_of_not_mem _ hnone]
    exact broken_lineOutput (unjoined_lineParts h line hline)
  obtain ⟨first, rest, hparts, hfirst⟩ := Marked.exists_lineParts_eq text
  have hkept : first.text ≠ ['\n'] := by
    intro heq
    rw [heq] at hfirst
    exact hfirst List.mem_cons_self
  rw [← Marked.flatMap_text_lineParts text, textOutput, Marked.lines_eq]
  rw [hparts] at hlines ⊢
  obtain ⟨⟨hbroken, hne⟩, hrest⟩ := List.forall_mem_cons.1 hlines
  rw [List.filter_cons_of_pos (by simpa using hkept), List.flatMap_cons, List.flatMap_cons]
  exact broken_append_lines hbroken hne hrest

end Print

end ScriptReplay.Console
