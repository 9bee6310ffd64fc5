import ScriptReplay.Proofs.Delimiter.Standard
import ScriptReplay.Proofs.Splitter.Feed
import ScriptReplay.Proofs.Text.Margin
import ScriptReplay.Proofs.Text.Pieces

/-!
# Lines that only end a statement

Two kinds of lines are meant to end the pending statement and to leave nothing of themselves: the
lines that the delimiter's pattern matches as a whole, and the repetitions of its literal.

* `split_append_delimiterLine`: a line that the pattern matches closes what is pending. With nothing
  pending it is dropped exactly when it is a repetition of the literal and the literal is seen.
* `split_append_repeatedLiteral`: a repetition of the literal never becomes text. It ends the
  pending statement exactly where the pattern matches it as a whole.
-/

namespace ScriptReplay.Splitter

variable {splitter : Splitter} {state : State} {line : List Char}

/-! ## One line -/

theorem cutLine_eq_of_fragments_eq_nil {delimiter : Delimiter} {pending : List Char}
    (h : delimiter.fragments line = []) : cutLine delimiter line pending = ([], pending) := by
  rw [cutLine, h]

theorem cutLine_fst_ne_nil {delimiter : Delimiter} {pending : List Char}
    (h : delimiter.fragments line ≠ []) : (cutLine delimiter line pending).1 ≠ [] := by
  unfold cutLine
  split
  · next hnil => exact absurd hnil h
  · dsimp only
    split <;> simp

theorem occursIn_replicate {delimiter : Delimiter} {k : Nat}
    (hne : (List.replicate k delimiter.literal).flatten ≠ []) :
    delimiter.occursIn (List.replicate k delimiter.literal).flatten = true := by
  cases k with
  | zero => exact absurd rfl hne
  | succ k =>
    rw [Delimiter.occursIn, Text.occurs_iff, List.replicate_succ, List.flatten_cons]
    exact (List.prefix_append _ _).isInfix

/-- A repetition of the literal that does not close leaves what is pending as it is. -/
theorem step_replicate {k : Nat} (hkept : isSkipped (trimmed line) = false)
    (hopen : splitter.delimiter.isLine (trimmed line) = false ∨ state.pending = [])
    (hseen : splitter.hides (splitter.dollarsWith state (trimmed line)) = false)
    (hline : trimmed line = (List.replicate k splitter.delimiter.literal).flatten) :
    splitter.step state line =
      ([], ⟨state.pending, splitter.dollarsWith state (trimmed line)⟩) := by
  have hoccurs : splitter.delimiter.occursIn (trimmed line) = true := by
    rw [hline]
    exact occursIn_replicate (hline ▸ ne_nil_of_not_isSkipped hkept)
  have hcut : cutLine splitter.delimiter (trimmed line) state.pending = ([], state.pending) :=
    cutLine_eq_of_fragments_eq_nil (Text.fragments_eq_nil_iff.2 ⟨k, hline⟩)
  rw [step_cut hkept hopen hoccurs hseen, hcut]

/-- A line that neither closes nor is a repetition of a literal that is seen leaves text behind. -/
theorem step_leaves_text (hkept : isSkipped (trimmed line) = false) (hpending : state.pending = [])
    (htext : splitter.hides (splitter.dollarsWith state (trimmed line)) = true ∨
      ∀ k, trimmed line ≠ (List.replicate k splitter.delimiter.literal).flatten) :
    (splitter.step state line).1 ++ (splitter.step state line).2.flush ≠ [] := by
  have htreatment := treatment_step splitter state line
  generalize splitter.step state line = taken at htreatment ⊢
  cases htreatment with
  | skipped hskip =>
    rw [hkept] at hskip
    cases hskip
  | closing _ _ hne => exact absurd hpending hne
  | cutting _ _ _ hseen =>
    have hfragments : splitter.delimiter.fragments (trimmed line) ≠ [] := by
      intro hnil
      obtain ⟨k, hk⟩ := Text.fragments_eq_nil_iff.1 hnil
      exact htext.elim (fun hhides => by simp [hseen] at hhides) fun hother => hother k hk
    exact List.append_ne_nil_of_left_ne_nil (cutLine_fst_ne_nil hfragments) _
  | continuing =>
    rw [flush_of_pending_ne_nil (by simp)]
    simp

/-! ## Lines that the pattern matches -/

/-- A line that the delimiter's pattern matches closes what is pending and adds nothing to it. With
nothing pending it is dropped exactly when it is a repetition of the literal and no line in dollar
signs hides the literal; any other such line becomes text of a statement. -/
theorem split_append_delimiterLine (splitter : Splitter) (before : List String) (line : String)
    (hkept : isSkipped (trimmed line.toList) = false)
    (hdollar : isDollarLine (trimmed line.toList) = false)
    (hline : splitter.delimiter.isLine (trimmed line.toList) = true) :
    ((splitter.stateAfter before).pending ≠ [] → ∀ after,
      splitter.split (before ++ line :: after) =
        splitter.completed before ++ String.ofList (splitter.stateAfter before).pending ::
          splitter.resume { splitter.stateAfter before with pending := [] } after) ∧
    ((splitter.stateAfter before).pending = [] →
      ((∀ after, splitter.split (before ++ line :: after) = splitter.split (before ++ after)) ↔
        splitter.hides (splitter.stateAfter before).dollarLines = false ∧
          ∃ k, trimmed line.toList =
            (List.replicate k splitter.delimiter.literal).flatten)) := by
  have hcount : splitter.dollarsWith (splitter.stateAfter before) (trimmed line.toList) =
      (splitter.stateAfter before).dollarLines := dollarsWith_of_not_isDollarLine hdollar
  refine ⟨fun hpending after => ?_, fun hpending => ⟨fun hdropped => ?_, ?_⟩⟩
  · rw [split_append, resume_cons, step_close hkept hline hpending, hcount]
    rfl
  · -- the script that ends with the line already tells
    have hend := hdropped []
    rw [List.append_nil, split_eq_completed hpending, split_append, resume_cons, resume_nil,
      List.append_right_eq_self, ← List.map_append, List.map_eq_nil_iff] at hend
    by_contra hnot
    refine step_leaves_text hkept hpending ?_ hend
    rw [hcount]
    by_cases hseen : splitter.hides (splitter.stateAfter before).dollarLines = true
    · exact .inl hseen
    · exact .inr fun k hk => hnot ⟨by simpa using hseen, k, hk⟩
  · rintro ⟨hseen, k, hk⟩ after
    rw [split_append, split_append, resume_cons,
      step_replicate hkept (.inr hpending) (by rw [hcount]; exact hseen) hk, hcount]
    rfl

/-- The semicolon inside lines, and `GO` alone on a line. -/
def semicolonOrGo : Delimiter where
  pattern := ";|GO"
  node := .alt (.char {} false [.single 59])
    (.cat (.char {} false [.single 71]) (.char {} false [.single 79]))
  spelled := by
    have hspelled : (Pattern.parse? ";|GO".toList).toOption = some
        (.alt (.char {} false [.single 59])
          (.cat (.char {} false [.single 71]) (.char {} false [.single 79]))) := by decide +kernel
    cases hparse : Pattern.parse? ";|GO".toList with
    | error fault => rw [hparse] at hspelled; cases hspelled
    | ok node => rw [hparse] at hspelled; exact congrArg _ (Option.some.inj hspelled)

/-- `go` closes a statement that is pending. With nothing pending it is not dropped. -/
theorem split_append_delimiterLine_go :
    (∀ after, Splitter.split { delimiter := semicolonOrGo } (["SELECT 1"] ++ "go" :: after) =
      ["SELECT 1 "] ++ Splitter.split { delimiter := semicolonOrGo } after) ∧
    ¬ ∀ after, Splitter.split { delimiter := semicolonOrGo } ([] ++ "go" :: after) =
      Splitter.split { delimiter := semicolonOrGo } ([] ++ after) := by
  have hpending := split_append_delimiterLine { delimiter := semicolonOrGo } ["SELECT 1"] "go"
    (by decide) (by decide) (by decide)
  have hnothing := split_append_delimiterLine { delimiter := semicolonOrGo } [] "go"
    (by decide) (by decide) (by decide)
  refine ⟨hpending.1 (by decide), ?_⟩
  rw [hnothing.2 rfl]
  rintro ⟨-, k, hk⟩
  have hmem : 'g' ∈ (List.replicate k semicolonOrGo.literal).flatten := by
    rw [← hk]
    decide
  obtain ⟨sep, hsep, hg⟩ := List.mem_flatten.1 hmem
  rw [List.eq_of_mem_replicate hsep] at hg
  exact absurd hg (by decide)

/-- A line that the pattern matches is not always dropped when nothing is pending. -/
theorem not_forall_delimiterLine_dropped :
    ¬ ∀ (splitter : Splitter) (before after : List String) (line : String),
      isSkipped (trimmed line.toList) = false → isDollarLine (trimmed line.toList) = false →
      splitter.delimiter.isLine (trimmed line.toList) = true →
      (splitter.stateAfter before).pending = [] →
      splitter.split (before ++ line :: after) = splitter.split (before ++ after) := fun h =>
  absurd (h { delimiter := semicolonOrGo } [] [] "GO" (by decide) (by decide) (by decide) rfl)
    (by decide)

/-! ## Repetitions of the literal -/

theorem usesDollarQuoting_eq_false {database : Database} (h : database ≠ .postgresql) :
    database.usesDollarQuoting = false := by
  simpa [Database.usesDollarQuoting] using h

theorem trimmed_eq_self {sep : List Char} (hfirst : ∀ c ∈ sep.head?, 0x20 < c.toNat)
    (hlast : ∀ c ∈ sep.getLast?, 0x20 < c.toNat) : trimmed sep = sep :=
  Text.trim_eq_self (fun c hc => by simpa [Text.isMargin] using hfirst c hc)
    (fun c hc => by simpa [Text.isMargin] using hlast c hc)

theorem trimmed_replicate {sep : List Char} (hfirst : ∀ c ∈ sep.head?, 0x20 < c.toNat)
    (hlast : ∀ c ∈ sep.getLast?, 0x20 < c.toNat) (k : Nat) :
    trimmed (List.replicate k sep).flatten = (List.replicate k sep).flatten := by
  by_cases hsep : sep = []
  · subst hsep
    rw [List.flatten_replicate_nil]
    rfl
  · apply trimmed_eq_self
    · cases k with
      | zero => simp
      | succ k =>
        rw [List.replicate_succ, List.flatten_cons, List.head?_append_of_ne_nil _ hsep]
        exact hfirst
    · cases k with
      | zero => simp
      | succ k =>
        rw [List.replicate_succ', List.flatten_append, List.flatten_singleton,
          List.getLast?_append_of_ne_nil _ hsep]
        exact hlast

/-- A repetition of the literal never becomes text. Where the pattern matches it as a whole, or
nothing is pending, the parts around it are split apart; otherwise the pending statement goes on as
if the line were not there. -/
theorem split_append_repeatedLiteral (splitter : Splitter)
    (hdatabase : splitter.database ≠ .postgresql)
    (hfirst : ∀ c ∈ splitter.delimiter.literal.head?, 0x20 < c.toNat)
    (hlast : ∀ c ∈ splitter.delimiter.literal.getLast?, 0x20 < c.toNat)
    (k : Nat) (line : String)
    (hline : line.toList = (List.replicate k splitter.delimiter.literal).flatten)
    (hkept : isSkipped line.toList = false) (before after : List String) :
    (splitter.delimiter.isLine line.toList = true ∨ (splitter.stateAfter before).pending = [] →
      splitter.split (before ++ line :: after) = splitter.split before ++ splitter.split after) ∧
    (splitter.delimiter.isLine line.toList = false →
      splitter.split (before ++ line :: after) = splitter.split (before ++ after)) := by
  have hquoting := usesDollarQuoting_eq_false hdatabase
  have htrim : trimmed line.toList = line.toList := by
    rw [hline]
    exact trimmed_replicate hfirst hlast k
  have hcount : (splitter.stateAfter before).dollarLines = 0 :=
    feed_dollarLines hquoting {} (before.map String.toList)
  rw [← htrim] at hkept hline
  have hdropped (hopen : splitter.delimiter.isLine (trimmed line.toList) = false ∨
        (splitter.stateAfter before).pending = []) :
      splitter.split (before ++ line :: after) = splitter.split (before ++ after) := by
    rw [split_append, split_append, resume_cons,
      step_replicate hkept hopen (hides_of_not_usesDollarQuoting hquoting _) hline,
      dollarsWith_of_not_usesDollarQuoting hquoting]
    rfl
  rw [← htrim]
  refine ⟨fun hends => ?_, fun hopen => hdropped (.inl hopen)⟩
  by_cases hpending : (splitter.stateAfter before).pending = []
  · have hfresh : splitter.stateAfter before = {} := by
      rw [State.mk.injEq]
      exact ⟨hpending, hcount⟩
    rw [hdropped (.inr hpending), split_append_of_stateAfter_eq hfresh]
  · have hcloses := hends.resolve_right hpending
    rw [split_append, resume_cons, step_close hkept hcloses hpending,
      dollarsWith_of_not_usesDollarQuoting hquoting, hcount, split_eq_completed_append hpending,
      List.append_assoc]
    rfl

/-- Both ends of the standard literal are printed. -/
theorem printed_literal_standard :
    (∀ c ∈ Delimiter.standard.literal.head?, 0x20 < c.toNat) ∧
      ∀ c ∈ Delimiter.standard.literal.getLast?, 0x20 < c.toNat := by
  rw [Delimiter.literal_standard]
  constructor
  · rintro _ ⟨⟩
    decide
  · rintro _ ⟨⟩
    decide

/-- One semicolon ends the pending statement, two do not. -/
theorem split_append_repeatedLiteral_semicolons :
    (∀ before after : List String,
      Splitter.split {} (before ++ ";" :: after) =
        Splitter.split {} before ++ Splitter.split {} after) ∧
    (∀ before after : List String,
      Splitter.split {} (before ++ ";;" :: after) = Splitter.split {} (before ++ after)) :=
  ⟨fun before after => (split_append_repeatedLiteral {} (by decide) printed_literal_standard.1
      printed_literal_standard.2 1 ";" rfl rfl before after).1 (.inl (by decide)),
    fun before after => (split_append_repeatedLiteral {} (by decide) printed_literal_standard.1
      printed_literal_standard.2 2 ";;" rfl rfl before after).2 (by decide)⟩

/-- A repetition of the literal does not always end the pending statement. -/
theorem not_forall_repeatedLiteral_ends :
    ¬ ∀ (splitter : Splitter) (before after : List String) (line : String) (k : Nat),
      splitter.database ≠ .postgresql → splitter.delimiter.literal ≠ [] →
      (∀ c ∈ splitter.delimiter.literal.head?, 0x20 < c.toNat) →
      (∀ c ∈ splitter.delimiter.literal.getLast?, 0x20 < c.toNat) → 1 ≤ k →
      line.toList = (List.replicate k splitter.delimiter.literal).flatten →
      isSkipped line.toList = false →
      splitter.split (before ++ line :: after) = splitter.split before ++ splitter.split after :=
  fun h => absurd (h {} ["SELECT 1"] ["SELECT 2"] ";;" 2 (by decide) (by decide)
    printed_literal_standard.1 printed_literal_standard.2 (by decide) rfl rfl) (by decide)

end ScriptReplay.Splitter
