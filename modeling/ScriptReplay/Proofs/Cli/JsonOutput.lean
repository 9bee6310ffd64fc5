import ScriptReplay.Cli.Run
import ScriptReplay.Proofs.Cli.Options
import ScriptReplay.Proofs.Json.RoundTrip

/-!
# The statements of a script as JSON

A request for JSON puts one line on the output stream, which reads as the statements of the script
(`run_json`). The log of a verbose run goes to the error stream, so the line stays as it is.
-/

namespace ScriptReplay.Cli

section Run

variable [Encoding.Codecs] [Log.Zone] {time : Log.Time} {tree : FileTree}
  {arguments : List String} {request : Request} {loaded : Script.Loaded}

theorem answer_json (hjson : request.json = true) (hload : loadFor tree request = .ok loaded) :
    answer time tree request =
      { output := jsonLine loaded.script
        errors := (registryFor time request.logging).writeNotices loaded.notices
        ending := .exit 0 } := by
  unfold answer
  simp only [hload, hjson, if_true]

/-- The logging has no say in what is loaded, so it has none in what is put out. -/
theorem answer_withLogging (hjson : request.json = true) (hload : loadFor tree request = .ok loaded)
    (logging : Logging) :
    (answer time tree (request.withLogging logging)).output = (answer time tree request).output ∧
      (answer time tree (request.withLogging logging)).ending = .exit 0 := by
  have hotherJson : (request.withLogging logging).json = true := hjson
  have hotherLoad : loadFor tree (request.withLogging logging) = .ok loaded := hload
  rw [answer_json hjson hload, answer_json hotherJson hotherLoad]
  exact ⟨rfl, rfl⟩

theorem run_of_read (hread : read arguments = .ok request) :
    run time tree arguments = answer time tree request := by
  unfold run
  rw [hread]

/-- Where a script that is asked for as JSON can be loaded, the run ends well, with one line of
output that reads as the list of the statements and nothing else. Options in front that ask for a
verbose log, in whatever format, are taken and change neither the output nor the end. -/
theorem run_json (time : Log.Time) (tree : FileTree) (hread : read arguments = .ok request)
    (hjson : request.json = true) (hload : loadFor tree request = .ok loaded) :
    (run time tree arguments).ending = .exit 0 ∧
      (∃ line, (run time tree arguments).output = line ++ "\n" ∧ Json.NoControl line.toList ∧
        Json.read? line.toList = some (Json.ofStrings loaded.script.statements)) ∧
      ∀ flags, AsksVerbose flags →
        (∃ logging, logging.verbose = true ∧
          read (flags ++ arguments) = .ok (request.withLogging logging)) ∧
        (run time tree (flags ++ arguments)).output = (run time tree arguments).output ∧
        (run time tree (flags ++ arguments)).ending = .exit 0 := by
  have hline : (Json.ofStrings loaded.script.statements).text.toList =
      (Json.ofStrings loaded.script.statements).write := String.toList_ofList
  rw [run_of_read hread]
  refine ⟨?_, ⟨(Json.ofStrings loaded.script.statements).text, ?_, ?_, ?_⟩, ?_⟩
  · rw [answer_json hjson hload]
  · rw [answer_json hjson hload, jsonLine]
  · rw [hline]
    exact Json.noControl_write _
  · rw [hline]
    exact Json.read?_write _
  · intro flags hflags
    obtain ⟨logging, hverbose, hflagged⟩ := hflags.read_append hread
    refine ⟨⟨logging, hverbose, hflagged⟩, ?_⟩
    rw [run_of_read hflagged]
    exact answer_withLogging hjson hload logging

end Run

/-- A script whose statement holds a quote, a backslash, a control character and a letter of two
bytes. -/
theorem run_json_escapes :
    let tree : FileTree := { entries := [(["a.sql"], .file [34, 92, 1, 195, 169, 59])] }
    let arguments := jsonArguments "a.sql" "pg" "utf-8" none
    (∃ line, (run {} tree arguments).output = line ++ "\n" ∧ Json.NoControl line.toList ∧
      Json.read? line.toList = some (Json.ofStrings [" \"\\\x01é"])) ∧
      (run {} tree (["--verbose", "--log-format", "structured"] ++ arguments)).output =
        (run {} tree arguments).output := by
  intro tree arguments
  let request : Request := ⟨⟨false, "simple"⟩, "a.sql", "pg", none, "utf-8", true⟩
  have hread : read arguments = .ok request := read_jsonArguments (by decide) "pg" "utf-8" none
  have hstatements : (loadFor tree request).toOption.map (·.script.statements) =
      some [" \"\\\x01é"] := by
    decide +kernel
  cases hload : loadFor tree request with
  | error fault =>
    rw [hload] at hstatements
    cases hstatements
  | ok loaded =>
    rw [hload] at hstatements
    have hloaded : loaded.script.statements = [" \"\\\x01é"] := Option.some.inj hstatements
    obtain ⟨-, hline, hverbose⟩ := run_json {} tree hread rfl hload
    rw [hloaded] at hline
    exact ⟨hline, (hverbose _ (asksVerbose_logFormat (by decide))).2.1⟩

end ScriptReplay.Cli
