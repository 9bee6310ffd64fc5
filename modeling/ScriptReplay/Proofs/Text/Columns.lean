import ScriptReplay.Proofs.Text.Margin
import ScriptReplay.Text.Grapheme

/-!
# Cutting a text at columns

* `columns_eq`: where nothing is joined, the columns of a text are those of its characters.
* `flatMap_chars_split`: graphemes hold all characters of their text, in order.
* `crop_append`: a text that fits stays when it is cropped, and of white space behind it at most as
  much white space is left.
* `flatten_chop`, `columns_le_of_mem_chop`: a text is chopped into parts that fit.
-/

namespace ScriptReplay.Text

variable {s t : List Char} {limit : Nat}

/-! ## Columns -/

section Columns

/-- No character of the text changes how another one is measured. -/
def Unjoined (s : List Char) : Prop :=
  ∀ c ∈ s, c ≠ joiner ∧ c ≠ pictureSign

instance : DecidablePred Unjoined :=
  List.decidableBAll fun c : Char => c ≠ joiner ∧ c ≠ pictureSign

theorem Unjoined.append (hs : Unjoined s) (ht : Unjoined t) : Unjoined (s ++ t) :=
  List.forall_mem_append.2 ⟨hs, ht⟩

theorem Unjoined.of_subset (ht : Unjoined t) (h : s ⊆ t) : Unjoined s :=
  fun c hc => ht c (h hc)

theorem Unjoined.of_append (h : Unjoined (s ++ t)) : Unjoined s ∧ Unjoined t :=
  List.forall_mem_append.1 h

theorem columnsOf_le_two (c : Char) : columnsOf c ≤ 2 := by
  unfold columnsOf
  repeat' split
  all_goals decide

/-- The columns of a text in which every character is measured by itself. -/
def columnsOfEach : List Char → Nat
  | [] => 0
  | c :: s => columnsOf c + columnsOfEach s

@[simp] theorem columnsOfEach_nil : columnsOfEach [] = 0 := rfl

@[simp] theorem columnsOfEach_cons (c : Char) (s : List Char) :
    columnsOfEach (c :: s) = columnsOf c + columnsOfEach s := rfl

@[simp] theorem columnsOfEach_append (s t : List Char) :
    columnsOfEach (s ++ t) = columnsOfEach s + columnsOfEach t := by
  induction s with
  | nil => exact (Nat.zero_add _).symm
  | cons c s ih => rw [List.cons_append, columnsOfEach_cons, columnsOfEach_cons, ih, Nat.add_assoc]

theorem columnsFrom_eq (h : Unjoined s) (last : Option Char) :
    columnsFrom last s = columnsOfEach s := by
  induction s generalizing last with
  | nil => rfl
  | cons c s ih =>
    obtain ⟨⟨hjoiner, hsign⟩, hs⟩ := List.forall_mem_cons.1 h
    cases s with
    | nil => rw [columnsFrom, if_neg hjoiner, if_neg hsign]; rfl
    | cons d s => rw [columnsFrom, if_neg hjoiner, if_neg hsign, ih hs]; rfl

/-- Where nothing is joined, the columns of a text are those of its characters. -/
theorem columns_eq (h : Unjoined s) : columns s = columnsOfEach s :=
  columnsFrom_eq h none

end Columns

/-! ## Graphemes -/

namespace Grapheme

/-- The columns of a grapheme are those of its characters, and at most two. -/
structure Measured (grapheme : Grapheme) : Prop where
  columns_eq : grapheme.columns = columnsOfEach grapheme.chars
  le_two : grapheme.columns ≤ 2

theorem measured_singleton (c : Char) : Measured ⟨[c], columnsOf c⟩ :=
  ⟨rfl, columnsOf_le_two c⟩

theorem Measured.extend {grapheme : Grapheme} (h : grapheme.Measured) {c : Char}
    (hc : columnsOf c = 0) : (grapheme.extend [c] 0).Measured where
  columns_eq := by simp [Grapheme.extend, h.columns_eq, hc]
  le_two := h.le_two

theorem flatMap_chars_splitFrom (last : Option Char) (grapheme : Grapheme) (s : List Char) :
    (splitFrom last grapheme s).flatMap chars = grapheme.chars ++ s := by
  fun_induction splitFrom last grapheme s <;> simp_all [Grapheme.extend]

/-- Graphemes hold all characters of their text, in order. -/
theorem flatMap_chars_split (s : List Char) : (split s).flatMap chars = s := by
  cases s with
  | nil => rfl
  | cons c s => exact flatMap_chars_splitFrom _ _ s

theorem splitFrom_cons {c : Char} (h : Unjoined (c :: s)) (last : Option Char)
    (grapheme : Grapheme) :
    splitFrom last grapheme (c :: s) =
      if columnsOf c = 0 then splitFrom last (grapheme.extend [c] 0) s
      else grapheme :: splitFrom (some c) ⟨[c], columnsOf c⟩ s := by
  obtain ⟨⟨hjoiner, hsign⟩, -⟩ := List.forall_mem_cons.1 h
  cases s <;> simp [splitFrom, hjoiner, hsign]

theorem measured_splitFrom (h : Unjoined s) {grapheme : Grapheme} (hgrapheme : grapheme.Measured)
    (last : Option Char) : ∀ other ∈ splitFrom last grapheme s, other.Measured := by
  induction s generalizing grapheme last with
  | nil => exact List.forall_mem_singleton.2 hgrapheme
  | cons c s ih =>
    have hs := (List.forall_mem_cons.1 h).2
    rw [splitFrom_cons h]
    split
    · next hc => exact ih hs (hgrapheme.extend hc) last
    · exact List.forall_mem_cons.2 ⟨hgrapheme, ih hs (measured_singleton c) (some c)⟩

theorem measured_split (h : Unjoined s) : ∀ grapheme ∈ split s, grapheme.Measured := by
  cases s with
  | nil => exact nofun
  | cons c s => exact measured_splitFrom (List.forall_mem_cons.1 h).2 (measured_singleton c) _

end Grapheme

/-! ## Cropping -/

section Crop

/-- The characters of a text up to a column, each measured by itself. A character without a column
stays with the one before it, and a space stands for the half of a wide one. -/
def cropEach : Nat → List Char → List Char
  | _, [] => []
  | limit, c :: s =>
    if columnsOf c = 0 then c :: cropEach limit s
    else if limit = 0 then []
    else if columnsOf c ≤ limit then c :: cropEach (limit - columnsOf c) s
    else [' ']

/-- The first grapheme has the columns of the one that is open. -/
theorem exists_splitFrom_eq (h : Unjoined s) (last : Option Char) (grapheme : Grapheme) :
    ∃ first rest, Grapheme.splitFrom last grapheme s = first :: rest ∧
      first.columns = grapheme.columns := by
  induction s generalizing last grapheme with
  | nil => exact ⟨grapheme, [], rfl, rfl⟩
  | cons c s ih =>
    rw [Grapheme.splitFrom_cons h]
    split
    · exact ih (List.forall_mem_cons.1 h).2 last (grapheme.extend [c] 0)
    · exact ⟨grapheme, _, rfl, rfl⟩

theorem cropGraphemes_cons {grapheme : Grapheme} (hlimit : 0 < limit)
    (h : grapheme.columns ≤ limit) (rest : List Grapheme) :
    cropGraphemes limit (grapheme :: rest) =
      grapheme.chars ++ cropGraphemes (limit - grapheme.columns) rest := by
  obtain ⟨limit, rfl⟩ : ∃ n, limit = n + 1 := ⟨limit - 1, by omega⟩
  rw [cropGraphemes, if_pos h]
  nofun

theorem cropGraphemes_zero (graphemes : List Grapheme) : cropGraphemes 0 graphemes = [] := by
  cases graphemes <;> rfl

theorem cropGraphemes_splitFrom (h : Unjoined s) {grapheme : Grapheme} (hlimit : 0 < limit)
    (hgrapheme : grapheme.columns ≤ limit) (last : Option Char) :
    cropGraphemes limit (Grapheme.splitFrom last grapheme s) =
      grapheme.chars ++ cropEach (limit - grapheme.columns) s := by
  induction s generalizing grapheme limit last with
  | nil =>
    rw [Grapheme.splitFrom, cropGraphemes_cons hlimit hgrapheme]
    rfl
  | cons c s ih =>
    have hs := (List.forall_mem_cons.1 h).2
    rw [Grapheme.splitFrom_cons h, cropEach]
    by_cases hc : columnsOf c = 0
    · have hextended : (grapheme.extend [c] 0).columns ≤ limit := hgrapheme
      rw [if_pos hc, if_pos hc, ih hs hlimit hextended]
      simp [Grapheme.extend]
    rw [if_neg hc, if_neg hc, cropGraphemes_cons hlimit hgrapheme]
    refine congrArg _ ?_
    by_cases hrest : limit - grapheme.columns = 0
    · rw [if_pos hrest, hrest, cropGraphemes_zero]
    rw [if_neg hrest]
    by_cases hfits : columnsOf c ≤ limit - grapheme.columns
    · rw [if_pos hfits, ih hs (Nat.pos_of_ne_zero hrest) hfits]
      rfl
    · obtain ⟨first, rest, hsplit, hcolumns⟩ :=
        exists_splitFrom_eq hs (some c) ⟨[c], columnsOf c⟩
      obtain ⟨n, hn⟩ : ∃ n, limit - grapheme.columns = n + 1 := Nat.exists_eq_succ_of_ne_zero hrest
      have htoo : ¬ first.columns ≤ n + 1 := by rw [hcolumns, ← hn]; exact hfits
      rw [if_neg hfits, hsplit, hn, cropGraphemes, if_neg htoo]
      nofun

theorem cropEach_append (h : columnsOfEach s ≤ limit) (t : List Char) :
    cropEach limit (s ++ t) = s ++ cropEach (limit - columnsOfEach s) t := by
  induction s generalizing limit with
  | nil => rfl
  | cons c s ih =>
    rw [columnsOfEach_cons] at h ⊢
    rw [List.cons_append, cropEach]
    by_cases hc : columnsOf c = 0
    · rw [if_pos hc, ih (by omega), hc, Nat.zero_add]
      rfl
    · rw [if_neg hc, if_neg (by omega), if_pos (by omega), ih (by omega), Nat.sub_sub]
      rfl

theorem crop_eq (h : Unjoined s) (hlimit : 2 ≤ limit) : crop limit s = cropEach limit s := by
  unfold crop
  rw [columns_eq h]
  split
  · next hfits =>
    have hall := cropEach_append hfits []
    rw [List.append_nil] at hall
    rw [hall]
    exact (List.append_nil s).symm
  · cases s with
    | nil => rfl
    | cons c s =>
      have hc : columnsOf c ≤ limit := Nat.le_trans (columnsOf_le_two c) hlimit
      have hfirst : (⟨[c], columnsOf c⟩ : Grapheme).columns ≤ limit := hc
      have hsplit := cropGraphemes_splitFrom (List.forall_mem_cons.1 h).2 (by omega) hfirst
        (if columnsOf c = 0 then none else some c)
      rw [Grapheme.split, hsplit, cropEach]
      by_cases hzero : columnsOf c = 0
      · rw [if_pos hzero, hzero]
        rfl
      · rw [if_neg hzero, if_neg (by omega), if_pos (by omega)]
        rfl

theorem isBlank_of_mem_cropEach (h : ∀ c ∈ s, isBlank c = true) :
    ∀ c ∈ cropEach limit s, isBlank c = true := by
  induction s generalizing limit with
  | nil => exact nofun
  | cons c s ih =>
    obtain ⟨hc, hs⟩ := List.forall_mem_cons.1 h
    unfold cropEach
    split
    · exact List.forall_mem_cons.2 ⟨hc, ih hs⟩
    · split
      · exact nofun
      · split
        · exact List.forall_mem_cons.2 ⟨hc, ih hs⟩
        · exact List.forall_mem_singleton.2 (by decide)

theorem length_cropEach_le (limit : Nat) (s : List Char) :
    (cropEach limit s).length ≤ s.length := by
  induction s generalizing limit with
  | nil => exact Nat.le_refl _
  | cons c s ih =>
    unfold cropEach
    repeat' split
    · exact Nat.succ_le_succ (ih limit)
    · exact Nat.zero_le _
    · exact Nat.succ_le_succ (ih _)
    · exact Nat.succ_le_succ (Nat.zero_le _)

theorem columnsOfEach_cropEach_le (limit : Nat) (s : List Char) :
    columnsOfEach (cropEach limit s) ≤ limit := by
  induction s generalizing limit with
  | nil => exact Nat.zero_le _
  | cons c s ih =>
    have hspace : columnsOf ' ' = 1 := by decide
    unfold cropEach
    split
    · next hc =>
      rw [columnsOfEach_cons, hc, Nat.zero_add]
      exact ih limit
    · split
      · exact Nat.zero_le _
      · split
        · have hrest := ih (limit - columnsOf c)
          rw [columnsOfEach_cons]
          omega
        · rw [columnsOfEach_cons, hspace, columnsOfEach_nil]
          omega

/-- A text that is cropped fits. -/
theorem columnsOfEach_crop_le (h : Unjoined s) (hlimit : 2 ≤ limit) :
    columnsOfEach (crop limit s) ≤ limit := by
  rw [crop_eq h hlimit]
  exact columnsOfEach_cropEach_le limit s

/-- A text that fits stays when it is cropped, and of white space behind it at most as much white
space is left. -/
theorem crop_append (h : Unjoined (s ++ t)) (hlimit : 2 ≤ limit) (hfits : columnsOfEach s ≤ limit)
    (hblank : ∀ c ∈ t, isBlank c = true) :
    ∃ kept, crop limit (s ++ t) = s ++ kept ∧ (∀ c ∈ kept, isBlank c = true) ∧
      kept.length ≤ t.length := by
  refine ⟨cropEach (limit - columnsOfEach s) t, ?_, isBlank_of_mem_cropEach hblank,
    length_cropEach_le _ _⟩
  rw [crop_eq h hlimit, cropEach_append hfits]

end Crop

/-! ## Chopping -/

section Chop

/-- The columns of graphemes one after another. -/
def columnsOfGraphemes : List Grapheme → Nat
  | [] => 0
  | grapheme :: rest => grapheme.columns + columnsOfGraphemes rest

theorem columnsOfEach_flatMap_chars {graphemes : List Grapheme}
    (h : ∀ grapheme ∈ graphemes, grapheme.Measured) :
    columnsOfEach (graphemes.flatMap Grapheme.chars) = columnsOfGraphemes graphemes := by
  induction graphemes with
  | nil => rfl
  | cons grapheme rest ih =>
    obtain ⟨hfirst, hrest⟩ := List.forall_mem_cons.1 h
    rw [List.flatMap_cons, columnsOfEach_append, ih hrest, ← hfirst.columns_eq]
    rfl

/-- The parts hold all characters of the graphemes, if anything in them takes a column. -/
theorem flatten_chopGraphemes {graphemes : List Grapheme} {used : Nat} {part : List Char}
    (hgraphemes : ∀ grapheme ∈ graphemes, grapheme.columns ≤ limit) (hused : used ≤ limit)
    (hpos : 0 < used + columnsOfGraphemes graphemes) :
    (chopGraphemes limit used part graphemes).flatten =
      part ++ graphemes.flatMap Grapheme.chars := by
  induction graphemes generalizing used part with
  | nil =>
    have hused : used ≠ 0 := Nat.ne_of_gt hpos
    rw [chopGraphemes, if_neg hused, List.flatten_singleton]
    exact (List.append_nil part).symm
  | cons grapheme rest ih =>
    obtain ⟨hfirst, hrest⟩ := List.forall_mem_cons.1 hgraphemes
    rw [columnsOfGraphemes] at hpos
    rw [List.flatMap_cons, chopGraphemes]
    split
    · -- What does not fit behind the part takes a column, so the part it begins is not dropped.
      rw [List.flatten_cons, ih hrest hfirst (by omega)]
    · rw [ih hrest (by omega) (by omega), List.append_assoc]

theorem columns_le_of_mem_chopGraphemes {graphemes : List Grapheme} {used : Nat} {part : List Char}
    (hlimit : 2 ≤ limit) (hgraphemes : ∀ grapheme ∈ graphemes, grapheme.Measured)
    (hpart : columnsOfEach part = used) (hused : used ≤ limit) :
    ∀ other ∈ chopGraphemes limit used part graphemes, columnsOfEach other ≤ limit := by
  induction graphemes generalizing used part with
  | nil =>
    unfold chopGraphemes
    split
    · exact nofun
    · exact List.forall_mem_singleton.2 (by omega)
  | cons grapheme rest ih =>
    obtain ⟨hfirst, hrest⟩ := List.forall_mem_cons.1 hgraphemes
    have htwo := hfirst.le_two
    unfold chopGraphemes
    split
    · refine List.forall_mem_cons.2 ⟨by omega, ih hrest hfirst.columns_eq.symm (by omega)⟩
    · refine ih hrest ?_ (by omega)
      rw [columnsOfEach_append, hpart, hfirst.columns_eq]

theorem flatten_chop (h : Unjoined s) (hlimit : 2 ≤ limit) (hpos : 0 < columns s) :
    (chop limit s).flatten = s := by
  have hmeasured := Grapheme.measured_split h
  have hfits : ∀ grapheme ∈ Grapheme.split s, grapheme.columns ≤ limit :=
    fun grapheme hmem => Nat.le_trans (hmeasured grapheme hmem).le_two hlimit
  have hcolumns := columnsOfEach_flatMap_chars hmeasured
  rw [Grapheme.flatMap_chars_split, ← columns_eq h] at hcolumns
  rw [chop, flatten_chopGraphemes hfits (Nat.zero_le _) (by omega), Grapheme.flatMap_chars_split]
  rfl

theorem columns_le_of_mem_chop (h : Unjoined s) (hlimit : 2 ≤ limit) :
    ∀ part ∈ chop limit s, columnsOfEach part ≤ limit :=
  columns_le_of_mem_chopGraphemes hlimit (Grapheme.measured_split h) rfl (Nat.zero_le _)

end Chop

end ScriptReplay.Text
