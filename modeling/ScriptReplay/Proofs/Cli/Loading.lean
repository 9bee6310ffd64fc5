import ScriptReplay.Cli.Run
import ScriptReplay.Proofs.Result

/-!
# The script that a request asks for

A request has no script if its settings make no sense or if the file cannot be loaded
(`Cli.loadFor_eq_error`). Settings make no sense because of the name of the database or because of
the pattern of the delimiter (`Config.ofNames_eq_error`).
-/

namespace ScriptReplay

/-! ## Settings -/

namespace Config

variable {database encoding pattern : String} {found : Database} {asked : Option String}
  {config : Config} {fault : Fault}

theorem ofNames_of_unknown {report : Report} (h : Database.resolve database = .error report) :
    ofNames database encoding asked = .error (.report report none) := by
  unfold ofNames
  rw [h]
  rfl

/-- Neither no pattern nor the one of no characters asks for a delimiter. -/
theorem ofNames_of_no_pattern (h : Database.resolve database = .ok found)
    (hasked : asked = none ∨ asked = some "") :
    ofNames database encoding asked = .ok { database := found, encoding } := by
  unfold ofNames
  rw [h]
  rcases hasked with rfl | rfl <;> rfl

theorem ofNames_of_pattern (h : Database.resolve database = .ok found) (hne : pattern ≠ "") :
    ofNames database encoding (some pattern) = do
      let delimiter ← Delimiter.ofPattern pattern
      return { database := found, encoding, delimiter := some delimiter } := by
  have hempty : pattern.isEmpty = false := by simpa using hne
  unfold ofNames
  rw [h]
  simp only [pure_bind, hempty, Bool.false_eq_true, if_false]

/-- Settings make no sense because of the name of the database or because of the pattern. -/
theorem ofNames_eq_error (h : ofNames database encoding (some pattern) = .error fault) :
    (∃ report, Database.resolve database = .error report ∧ fault = .report report none) ∨
      Delimiter.ofPattern pattern = .error fault := by
  cases hdatabase : Database.resolve database with
  | error report =>
    rw [ofNames_of_unknown hdatabase] at h
    exact .inl ⟨report, rfl, (Except.error.inj h).symm⟩
  | ok found =>
    by_cases hne : pattern = ""
    · rw [ofNames_of_no_pattern hdatabase (.inr (congrArg some hne))] at h
      cases h
    · rw [ofNames_of_pattern hdatabase hne] at h
      exact .inr (bind_pure_eq_error.1 h)

/-- Settings are for files in the encoding that was named. -/
theorem encoding_of_ofNames (h : ofNames database encoding asked = .ok config) :
    config.encoding = encoding := by
  cases hdatabase : Database.resolve database with
  | error report =>
    rw [ofNames_of_unknown hdatabase] at h
    cases h
  | ok found =>
    by_cases hasked : asked = none ∨ asked = some ""
    · rw [ofNames_of_no_pattern hdatabase hasked] at h
      cases h
      rfl
    · obtain ⟨hnone, hempty⟩ := not_or.1 hasked
      obtain ⟨pattern, rfl⟩ := Option.ne_none_iff_exists'.1 hnone
      rw [ofNames_of_pattern hdatabase fun hne => hempty (congrArg some hne)] at h
      obtain ⟨delimiter, -, h⟩ := bind_eq_ok.1 h
      cases h
      rfl

end Config

/-! ## Requests -/

namespace Cli

variable {tree : FileTree} {request : Request} {fault : Fault}

theorem loadFor_of_ofNames [Encoding.Codecs]
    (h : Config.ofNames request.database request.encoding request.delimiter = .error fault) :
    loadFor tree request = .error fault := by
  unfold loadFor
  rw [h]
  rfl

/-- A request has no script because of its settings or because of the file. -/
theorem loadFor_eq_error [Encoding.Codecs] (h : loadFor tree request = .error fault) :
    Config.ofNames request.database request.encoding request.delimiter = .error fault ∨
      ∃ config,
        Config.ofNames request.database request.encoding request.delimiter = .ok config ∧
          Script.load tree config (Path.ofString request.path).toString = .error fault :=
  bind_eq_error.1 h

theorem run_of_loadFor [Encoding.Codecs] [Log.Zone] {time : Log.Time} {arguments : List String}
    (hread : read arguments = .ok request) (hload : loadFor tree request = .error fault) :
    run time tree arguments = fail fault := by
  unfold run answer
  rw [hread]
  dsimp only
  rw [hload]

end Cli

end ScriptReplay
