import ScriptReplay.Proofs.Splitter.KeptLines
import ScriptReplay.Proofs.Text.Pieces
import ScriptReplay.Splitter.Notices

/-!
# What dollar signs make a difference to

The database system decides only whether lines in dollar signs can hide the delimiter. Where no line
holds a delimiter that they would hide, a script has the same statements for every system
(`split_eq_of_shown`), however many lines in dollar signs it has and whether or not their number is
even.

The number of kept lines in dollar signs is reported where it is odd and the system is PostgreSQL
(`warnings_notices`).
-/

namespace ScriptReplay.Splitter

variable {first second : Splitter} {state other : State} {line : List Char} {dollars : Nat}

/-! ## Two systems side by side -/

/-- A numbered line on which no delimiter would be hidden, whatever the database system is. -/
def Shown (delimiter : Delimiter) (line : List Char × Nat) : Prop :=
  line.2 % 2 = 1 → ¬ delimiter.literal <:+: line.1

instance (delimiter : Delimiter) (line : List Char × Nat) : Decidable (Shown delimiter line) :=
  inferInstanceAs (Decidable (line.2 % 2 = 1 → ¬ delimiter.literal <:+: line.1))

theorem Shown.isHidden_eq_false {delimiter : Delimiter} (h : Shown delimiter (line, dollars))
    (hoccurs : delimiter.occursIn line = true) (database : Database) :
    isHidden database dollars = false := by
  refine Splitter.isHidden_eq_false fun _ => ?_
  rcases Nat.mod_two_eq_zero_or_one dollars with heven | hodd
  · exact heven
  · exact absurd (Text.occurs_iff.1 hoccurs) (h hodd)

/-- On a line where no delimiter would be hidden, the splitter sees the delimiter. -/
theorem Counts.hides_eq_false_of_shown {splitter : Splitter} (h : Counts splitter state dollars)
    (hshown : Shown splitter.delimiter (line, dollars + if isDollarLine line then 1 else 0))
    (hoccurs : splitter.delimiter.occursIn line = true) :
    splitter.hides (splitter.dollarsWith state line) = false := by
  rw [h.hides_dollarsWith]
  exact hshown.isHidden_eq_false hoccurs splitter.database

section SideBySide

variable (hdelimiter : first.delimiter = second.delimiter)
include hdelimiter

/-- Two splitters with the same text pending do the same with a line on which their delimiter would
not be hidden. -/
theorem step_eq_of_shown (hpending : state.pending = other.pending)
    (hfirst : Counts first state dollars) (hsecond : Counts second other dollars)
    (hshown : Shown second.delimiter
      (trimmed line, dollars + if isDollarLine (trimmed line) then 1 else 0)) :
    (first.step state line).1 = (second.step other line).1 ∧
      (first.step state line).2.pending = (second.step other line).2.pending := by
  have htreatment := treatment_step first state line
  generalize first.step state line = taken at htreatment ⊢
  cases htreatment with
  | skipped hskip =>
    rw [step_skip hskip]
    exact ⟨rfl, hpending⟩
  | closing hkept hcloses hne =>
    rw [hdelimiter] at hcloses
    rw [hpending] at hne ⊢
    rw [step_close hkept hcloses hne]
    exact ⟨rfl, rfl⟩
  | cutting hkept hstays hoccurs hseen =>
    rw [hdelimiter] at hstays hoccurs ⊢
    rw [hpending] at hstays ⊢
    rw [step_cut hkept hstays hoccurs (hsecond.hides_eq_false_of_shown hshown hoccurs)]
    exact ⟨rfl, rfl⟩
  | continuing hkept hstays hunseen =>
    have habsent : second.delimiter.occursIn (trimmed line) = false := by
      rcases hunseen with habsent | hhidden
      · exact hdelimiter ▸ habsent
      · by_contra hoccurs
        rw [Bool.not_eq_false, ← hdelimiter] at hoccurs
        rw [← hdelimiter] at hshown
        rw [hfirst.hides_eq_false_of_shown hshown hoccurs] at hhidden
        cases hhidden
    rw [hdelimiter] at hstays
    rw [hpending] at hstays ⊢
    rw [step_continue hkept hstays (.inl habsent)]
    exact ⟨rfl, rfl⟩

/-- Two splitters with the same text pending read on in the same way, as long as their delimiter
would not be hidden. -/
theorem splitFrom_eq_of_shown (lines : List (List Char)) (hpending : state.pending = other.pending)
    (hfirst : Counts first state dollars) (hsecond : Counts second other dollars)
    (hshown : ∀ line ∈ numbered dollars (keptLines lines), Shown second.delimiter line) :
    first.splitFrom state lines = second.splitFrom other lines := by
  induction lines generalizing state other dollars with
  | nil => rw [splitFrom_nil, splitFrom_nil, State.flush, State.flush, hpending]
  | cons line rest ih =>
    rw [keptLines_cons] at hshown
    rw [splitFrom_cons, splitFrom_cons]
    cases hkept : isSkipped (trimmed line) with
    | true =>
      rw [hkept, if_pos rfl] at hshown
      rw [step_skip hkept, step_skip hkept, ih hpending hfirst hsecond hshown]
    | false =>
      rw [hkept, if_neg (by simp), numbered_cons, List.forall_mem_cons] at hshown
      obtain ⟨hdone, hnext⟩ := step_eq_of_shown hdelimiter hpending hfirst hsecond hshown.1
      rw [hdone, ih hnext (hfirst.step hkept) (hsecond.step hkept) hshown.2]

theorem split_eq_of_shown (lines : List String)
    (hshown : ∀ line ∈ numbered 0 (keptLines (lines.map String.toList)),
      Shown second.delimiter line) : first.split lines = second.split lines := by
  have hfirst : Counts first {} 0 := fun _ => rfl
  have hsecond : Counts second {} 0 := fun _ => rfl
  rw [split, split, splitChars_eq_splitFrom, splitChars_eq_splitFrom,
    splitFrom_eq_of_shown hdelimiter _ rfl hfirst hsecond hshown]

end SideBySide

/-! ## The warning -/

/-- The warning about a script that has an odd number of lines in dollar signs. -/
def oddDollarsNotice (dollars : Nat) : Log.Notice :=
  { logger := "sqlscript.splitter"
    level := .warning
    message := "Script ended inside a dollar-quoted block after "
      ++ Text.decimalString dollars ++ " dollar-quote lines"
    extra := some [("dollar_quote_lines", .num dollars)] }

theorem hides_dollarLines (splitter : Splitter) (lines : List (List Char)) :
    splitter.hides (splitter.dollarLines lines) =
      isHidden splitter.database (dollarCount lines) :=
  (counts_feed splitter lines).hides

/-- The number in the warning is the number of kept lines in dollar signs. -/
theorem openBlockWarning_dollarLines (splitter : Splitter) (lines : List (List Char)) :
    splitter.openBlockWarning (splitter.dollarLines lines) =
      if isHidden splitter.database (dollarCount lines) then [oddDollarsNotice (dollarCount lines)]
      else [] := by
  unfold openBlockWarning
  rw [hides_dollarLines]
  split
  · next hhidden =>
    have hquoting : splitter.database.usesDollarQuoting = true :=
      (Bool.and_eq_true_iff.1 hhidden).1
    rw [dollarLines, counts_feed splitter lines hquoting]
    rfl
  · rfl

theorem warnings_notices (splitter : Splitter) (lines : List String) :
    (splitter.notices lines).filter (·.level == .warning) =
      if splitter.database = .postgresql ∧ dollarCount (lines.map String.toList) % 2 = 1 then
        [oddDollarsNotice (dollarCount (lines.map String.toList))]
      else [] := by
  have hiff : isHidden splitter.database (dollarCount (lines.map String.toList)) = true ↔
      splitter.database = .postgresql ∧ dollarCount (lines.map String.toList) % 2 = 1 := by
    simp [isHidden]
  have hcount (count : Nat) : ((splitter.countNotice count).level == .warning) = false := rfl
  unfold notices
  dsimp only
  rw [openBlockWarning_dollarLines, if_congr hiff rfl rfl, List.filter_append,
    List.filter_cons_of_neg (by simp [hcount]), List.filter_nil, List.append_nil]
  split
  · rfl
  · rfl

/-! ## Both -/

/-- Lines in dollar signs make a difference to the statements of a script only where they hide a
delimiter. And they are warned about exactly where the system is PostgreSQL and their number, which
is told, is odd. -/
theorem dollarQuoting_matters_where_hiding (delimiter : Delimiter) (lines : List String) :
    ((∀ line ∈ numbered 0 (keptLines (lines.map String.toList)), Shown delimiter line) →
      ∀ database, Splitter.split { database := .postgresql, delimiter } lines =
        Splitter.split { database, delimiter } lines) ∧
    ∀ database, (Splitter.notices { database, delimiter } lines).filter (·.level == .warning) =
      if database = .postgresql ∧ dollarCount (lines.map String.toList) % 2 = 1 then
        [oddDollarsNotice (dollarCount (lines.map String.toList))]
      else [] := by
  refine ⟨fun hshown database => ?_, fun database => warnings_notices { database, delimiter } lines⟩
  have hdelimiter : ({ database := .postgresql, delimiter } : Splitter).delimiter =
      ({ database, delimiter } : Splitter).delimiter := rfl
  exact split_eq_of_shown hdelimiter lines hshown

/-- The semicolon inside lines, and two dollar signs alone on a line. -/
def semicolonOrDollars : Delimiter where
  pattern := ";|[$][$]"
  node := .alt (.char {} false [.single 59])
    (.cat (.char {} false [.single 36]) (.char {} false [.single 36]))
  spelled := by
    have hspelled : (Pattern.parse? ";|[$][$]".toList).toOption = some
        (.alt (.char {} false [.single 59])
          (.cat (.char {} false [.single 36]) (.char {} false [.single 36]))) := by decide +kernel
    cases hparse : Pattern.parse? ";|[$][$]".toList with
    | error fault => rw [hparse] at hspelled; cases hspelled
    | ok node => rw [hparse] at hspelled; exact congrArg _ (Option.some.inj hspelled)

/-- A script in which two dollar signs close a statement, and the last line in dollar signs stands
alone. -/
theorem dollarQuoting_matters_where_hiding_unbalanced :
    (∀ line ∈ numbered 0 (keptLines (["a; b", "$$", "c", "$ d $", "e;", "$x$"].map String.toList)),
        Shown semicolonOrDollars line) ∧
      Splitter.split { database := .postgresql, delimiter := semicolonOrDollars }
          ["a; b", "$$", "c", "$ d $", "e;", "$x$"] = [" a", " b", "c $ d $  e", "$x$ "] ∧
      (Splitter.notices { database := .postgresql, delimiter := semicolonOrDollars }
          ["a; b", "$$", "c", "$ d $", "e;", "$x$"]).filter (·.level == .warning) =
        [oddDollarsNotice 3] := by
  have hshown : ∀ line ∈
      numbered 0 (keptLines (["a; b", "$$", "c", "$ d $", "e;", "$x$"].map String.toList)),
      Shown semicolonOrDollars line := by decide
  have hmatters := dollarQuoting_matters_where_hiding semicolonOrDollars
    ["a; b", "$$", "c", "$ d $", "e;", "$x$"]
  refine ⟨hshown, ?_, ?_⟩
  · rw [hmatters.1 hshown .generic]
    decide
  · rw [hmatters.2 .postgresql]
    rfl

end ScriptReplay.Splitter
