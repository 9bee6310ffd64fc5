import ScriptReplay.Proofs.Cli.Loading
import ScriptReplay.Proofs.Console.Message

/-!
# Reports of errors

When a script cannot be loaded and the fault is a report, its message is put into markup. So it is
printed as it stands only if it is plain (`run_report`). A tag in it vanishes, or it ends the run
with an error of its own, and backslashes before brackets, names of pictures and control characters
do not stay either.
-/

namespace ScriptReplay.Cli

open ScriptReplay.Text (ink Broken Unjoined)
open ScriptReplay.Console (Plain Steady inRed)
open ScriptReplay.Console.Markup (Untagged)

variable {time : Log.Time} {tree : FileTree} {arguments : List String} {request : Request}
  {report : Report} {origin : Option Origin}

/-- A run that ends as one with an error should, and prints the message, up to white space. -/
def Reports (outcome : Outcome) (message : String) : Prop :=
  outcome.ending = .exit 1 ∧ ink outcome.output.toList = ink ("Error: " ++ message).toList

theorem toList_error (message : String) :
    ("Error: " ++ message).toList = ['E', 'r', 'r', 'o', 'r', ':', ' '] ++ message.toList :=
  String.toList_append

theorem toList_markup (message : String) :
    ("[red]Error: " ++ message ++ "[/]").toList = inRed ("Error: " ++ message).toList := by
  rw [toList_error, String.toList_append, String.toList_append]
  simp [inRed, Console.Markup.closing]

theorem untagged_error {message : String} (h : Untagged message.toList) :
    Untagged ("Error: " ++ message).toList := by
  rw [toList_error]
  exact h.append (by decide) (by decide)

theorem plain_error_iff (message : String) :
    Plain ("Error: " ++ message).toList ↔ Plain message.toList := by
  rw [toList_error]
  exact Console.plain_append_iff ⟨by decide, by decide, by decide, by decide⟩ rfl

theorem unjoined_error {message : String} (h : Unjoined message.toList) :
    Unjoined ("Error: " ++ message).toList := by
  rw [toList_error]
  exact .append (by decide) h

theorem steady_error {message : String} (h : Steady message.toList) :
    Steady ("Error: " ++ message).toList := by
  have hlabel : Steady ['E', 'r', 'r', 'o', 'r', ':', ' '] := by decide
  rw [toList_error]
  exact List.forall_mem_append.2 ⟨hlabel, h⟩

theorem run_of_report [Encoding.Codecs] [Log.Zone] (time : Log.Time)
    (hread : read arguments = .ok request)
    (hload : loadFor tree request = .error (.report report origin)) :
    run time tree arguments = fail (.report report origin) :=
  run_of_loadFor hread hload

section Fail

theorem fail_of_message_eq_ok {output : String}
    (h : Console.message (inRed ("Error: " ++ report.message).toList) = .ok output) :
    fail (.report report origin) = { output, ending := .exit 1 } := by
  unfold fail
  dsimp only
  rw [toList_markup, h]

theorem fail_of_message_eq_error {error : Console.MarkupError}
    (h : Console.message (inRed ("Error: " ++ report.message).toList) = .error error) :
    fail (.report report origin) = { ending := .markup error } := by
  unfold fail
  dsimp only
  rw [toList_markup, h]

theorem plain_of_reports (h : Reports (fail (.report report origin)) report.message) :
    Plain report.message.toList := by
  obtain ⟨hending, hink⟩ := h
  cases hmessage : Console.message (inRed ("Error: " ++ report.message).toList) with
  | ok output =>
    rw [fail_of_message_eq_ok hmessage] at hink
    exact (plain_error_iff _).1 (Console.plain_of_message_eq_ok hmessage hink)
  | error error =>
    rw [fail_of_message_eq_error hmessage] at hending
    cases hending

end Fail

/-- Where a script that is asked for cannot be loaded and the fault is a report, the run writes
nothing to the error stream and ends with exit code 1 or with an error in the markup, the former if
no tag is in the message. It prints the message only if the message is plain, and it prints a plain
message whose characters are measured by themselves. If there are neither tabs nor hidden characters
in it, the lines are only broken. -/
theorem run_report [Encoding.Codecs] [Log.Zone] (time : Log.Time)
    (hread : read arguments = .ok request)
    (hload : loadFor tree request = .error (.report report origin)) :
    ((run time tree arguments).errors = "" ∧
        ((run time tree arguments).ending = .exit 1 ∨
          ∃ error, (run time tree arguments).ending = .markup error)) ∧
      (Untagged report.message.toList → (run time tree arguments).ending = .exit 1) ∧
      (Reports (run time tree arguments) report.message → Plain report.message.toList) ∧
      (Plain report.message.toList → Unjoined report.message.toList →
        Reports (run time tree arguments) report.message ∧
          (Steady report.message.toList → Broken ("Error: " ++ report.message).toList
              (run time tree arguments).output.toList)) := by
  rw [run_of_report time hread hload]
  refine ⟨?_, fun huntagged => ?_, plain_of_reports, fun hplain hunjoined => ?_⟩
  · cases hmessage : Console.message (inRed ("Error: " ++ report.message).toList) with
    | ok output =>
      rw [fail_of_message_eq_ok hmessage]
      exact ⟨rfl, .inl rfl⟩
    | error error =>
      rw [fail_of_message_eq_error hmessage]
      exact ⟨rfl, .inr ⟨error, rfl⟩⟩
  · obtain ⟨marks, hmessage⟩ := Console.message_inRed (untagged_error huntagged)
    rw [fail_of_message_eq_ok hmessage]
  · obtain ⟨output, hmessage, hink, hbroken⟩ :=
      Console.exists_message_eq ((plain_error_iff _).2 hplain) (unjoined_error hunjoined)
    rw [fail_of_message_eq_ok hmessage]
    exact ⟨⟨rfl, hink⟩, fun hsteady => hbroken (steady_error hsteady)⟩

/-- The message of a report, if there is one instead of a result. -/
def reported? {α : Type} : Except Fault α → Option String
  | .error (.report report _) => some report.message
  | _ => none

theorem exists_of_reported? {α : Type} {result : Except Fault α} {message : String}
    (h : reported? result = some message) :
    ∃ report origin, result = .error (.report report origin) ∧ report.message = message := by
  unfold reported? at h
  split at h
  · next report origin => exact ⟨report, origin, rfl, Option.some.inj h⟩
  · cases h

/-- A file that does not exist, with a plain name. -/
theorem run_report_missingFile :
    ∃ request report origin, read ["split", "a.sql"] = .ok request ∧
      loadFor {} request = .error (.report report origin) ∧
      report.message = "SQL script file not found: a.sql" ∧
      Reports (run {} {} ["split", "a.sql"]) report.message ∧
      Broken ("Error: " ++ report.message).toList (run {} {} ["split", "a.sql"]).output.toList := by
  let request : Request := ⟨⟨false, "simple"⟩, "a.sql", "generic", none, "utf-8", false⟩
  have hread : read ["split", "a.sql"] = .ok request := rfl
  have hreported : reported? (loadFor {} request) = some "SQL script file not found: a.sql" := by
    decide +kernel
  obtain ⟨report, origin, hload, hmessage⟩ := exists_of_reported? hreported
  obtain ⟨-, -, -, hplain⟩ := run_report {} hread hload
  obtain ⟨hreports, hbroken⟩ := hplain (by rw [hmessage]; decide) (by rw [hmessage]; decide)
  exact ⟨request, report, origin, hread, hload, hmessage, hreports,
    hbroken (by rw [hmessage]; decide)⟩

/-- The name of a file is enough to keep a report from being printed: in the name of this one stands
a tag that closes nothing. -/
theorem not_forall_reports :
    ¬ ∀ (time : Log.Time) (tree : FileTree) (arguments : List String) (request : Request)
      (report : Report) (origin : Option Origin), read arguments = .ok request →
        loadFor tree request = .error (.report report origin) →
          Reports (run time tree arguments) report.message := by
  intro h
  let request : Request := ⟨⟨false, "simple"⟩, "a[/x].sql", "generic", none, "utf-8", false⟩
  have hread : read ["split", "a[/x].sql"] = .ok request := rfl
  have hreported : reported? (loadFor {} request) =
      some "SQL script file not found: a[/x].sql" := by
    decide +kernel
  obtain ⟨report, origin, hload, hmessage⟩ := exists_of_reported? hreported
  have hreports := h {} {} ["split", "a[/x].sql"] request report origin hread hload
  rw [run_of_report {} hread hload] at hreports
  have hplain := plain_of_reports hreports
  rw [hmessage] at hplain
  exact absurd hplain (by decide)

end ScriptReplay.Cli
