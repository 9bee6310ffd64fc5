import ScriptReplay.Proofs.Replay.Atomicity

/-!
# Correlation ids

Records are stamped with the correlation id in force. While the statements of a script are executed
this is the file name of the script; before and behind it is the id that the caller had set.

* `Action.Logs`: an action puts the id back and only adds to the log. Every way of putting actions
  together keeps this, so it holds whatever fails and however it fails.
* `Job.passages` cuts what is logged for a job into passages, by what was done meanwhile.
* `correlation_of_errand` says under which id the records of each passage stand, for any job after
  any others.
-/

namespace ScriptReplay

namespace Action

variable {α β : Type}

/-- What is logged while an action is done. -/
def logged (action : Action α) (world : World) : List Log.Record :=
  (action.outcome world).2.records.drop world.records.length

/-- An action leaves the correlation id as it found it and only adds to the log, and what it adds is
allowed under that id. -/
def Logs (Allowed : Option String → Log.Record → Prop) (action : Action α) : Prop :=
  ∀ world, ∃ made,
    (action.outcome world).2.records = world.records ++ made ∧
    (action.outcome world).2.correlation = world.correlation ∧
    ∀ record ∈ made, Allowed world.correlation record

section Logs

variable {Allowed : Option String → Log.Record → Prop} {action : Action α}

theorem Logs.records_eq (h : Logs Allowed action) (world : World) :
    (action.outcome world).2.records = world.records ++ action.logged world := by
  obtain ⟨made, hrecords, -, -⟩ := h world
  rw [logged, hrecords, List.drop_left]

theorem Logs.correlation_eq (h : Logs Allowed action) (world : World) :
    (action.outcome world).2.correlation = world.correlation := by
  obtain ⟨-, -, hcorrelation, -⟩ := h world
  exact hcorrelation

theorem Logs.allowed (h : Logs Allowed action) (world : World) :
    ∀ record ∈ action.logged world, Allowed world.correlation record := by
  obtain ⟨made, hrecords, -, hmade⟩ := h world
  rw [logged, hrecords, List.drop_left]
  exact hmade

/-- An action that logs nothing and does not touch the correlation id. -/
theorem Logs.of_silent (hrecords : ∀ world, (action.outcome world).2.records = world.records)
    (hcorrelation : ∀ world, (action.outcome world).2.correlation = world.correlation) :
    Logs Allowed action := fun world =>
  ⟨[], by rw [hrecords, List.append_nil], hcorrelation world, List.forall_mem_nil _⟩

theorem Logs.pure (a : α) : Logs Allowed (Pure.pure a : Action α) :=
  .of_silent (fun _ => rfl) fun _ => rfl

theorem Logs.throw (fault : Fault) : Logs Allowed (throw fault : Action α) :=
  .of_silent (fun _ => rfl) fun _ => rfl

theorem Logs.lift (result : Except Fault α) : Logs Allowed (Action.lift result) :=
  .of_silent (fun _ => rfl) fun _ => rfl

theorem logs_request (connection : Connection) (call : Call) :
    Logs Allowed (request connection call) :=
  .of_silent (fun world => by rw [outcome_request]; rfl) fun world => by rw [outcome_request]; rfl

theorem logs_log {notice : Log.Notice} (h : ∀ id, Allowed id (notice.stamp id)) :
    Logs Allowed (log notice) := fun world =>
  ⟨[notice.stamp world.correlation], rfl, rfl, List.forall_mem_singleton.2 (h _)⟩

/-- What is logged by two runs, where the second begins in the world that the first left behind. -/
theorem Logs.followed {second : Action β} (h : Logs Allowed action) (hsecond : Logs Allowed second)
    (world : World) : ∃ made,
      (second.outcome (action.outcome world).2).2.records = world.records ++ made ∧
      (second.outcome (action.outcome world).2).2.correlation = world.correlation ∧
      ∀ record ∈ made, Allowed world.correlation record := by
  obtain ⟨first, hrecords, hcorrelation, hfirst⟩ := h world
  obtain ⟨more, hrecords', hcorrelation', hmore⟩ := hsecond (action.outcome world).2
  rw [hcorrelation] at hcorrelation' hmore
  rw [hrecords, List.append_assoc] at hrecords'
  exact ⟨first ++ more, hrecords', hcorrelation', List.forall_mem_append.2 ⟨hfirst, hmore⟩⟩

theorem Logs.bind {next : α → Action β} (h : Logs Allowed action)
    (hnext : ∀ a, Logs Allowed (next a)) : Logs Allowed (action >>= next) := by
  intro world
  rw [outcome_bind]
  rcases hrun : action.outcome world with ⟨fault | a, after⟩
  · have hfailed := h world
    rwa [hrun] at hfailed
  · have hboth := h.followed (hnext a) world
    rwa [hrun] at hboth

theorem Logs.tryCatch {handler : Fault → Action α} (h : Logs Allowed action)
    (hhandler : ∀ fault, Logs Allowed (handler fault)) :
    Logs Allowed (MonadExcept.tryCatch action handler) := by
  intro world
  rw [outcome_tryCatch]
  rcases hrun : action.outcome world with ⟨fault | a, after⟩
  · have hboth := h.followed (hhandler fault) world
    rwa [hrun] at hboth
  · have hdone := h world
    rwa [hrun] at hdone

theorem Logs.tryFinally {finalizer : Action β} (h : Logs Allowed action)
    (hfinalizer : Logs Allowed finalizer) :
    Logs Allowed (tryFinally action finalizer) := by
  intro world
  have hboth := h.followed hfinalizer world
  rw [outcome_tryFinally]
  rcases hrun : action.outcome world with ⟨result, after⟩
  rw [hrun] at hboth
  dsimp only at hboth ⊢
  rcases hend : finalizer.outcome after with ⟨_ | _, final⟩
  · rwa [hend] at hboth
  · rwa [hend] at hboth

theorem Logs.mapM {f : α → Action β} (h : ∀ a, Logs Allowed (f a)) (list : List α) :
    Logs Allowed (list.mapM f) := by
  induction list with
  | nil => exact .pure []
  | cons a rest ih =>
    rw [List.mapM_cons]
    exact (h a).bind fun b => ih.bind fun bs => .pure (b :: bs)

end Logs

end Action

/-! ## What the parts of the library log -/

/-- A record of the runner, stamped with the id in force. -/
def OfRunner (id : Option String) (record : Log.Record) : Prop :=
  record.correlation = id ∧ record.logger = Log.partName "runner"

/-- A record of loading, stamped with the id in force. -/
def OfLoading (id : Option String) (record : Log.Record) : Prop :=
  record.correlation = id ∧ record.logger ∈ [Log.partName "loader", Log.partName "splitter"]

theorem Splitter.logger_of_mem_notices {splitter : Splitter} {lines : List String}
    {notice : Log.Notice} (h : notice ∈ splitter.notices lines) :
    notice.logger = Log.partName "splitter" := by
  unfold notices openBlockWarning at h
  rcases List.mem_append.1 h with hwarning | hcount
  · split at hwarning
    · rw [List.mem_singleton.1 hwarning]
    · cases hwarning
  · rw [List.mem_singleton.1 hcount]
    rfl

theorem Script.logger_of_mem_notices [Encoding.Codecs] {tree : FileTree} {config : Config}
    {path : String} {loaded : Loaded} (h : load tree config path = .ok loaded) {notice : Log.Notice}
    (hmem : notice ∈ loaded.notices) :
    notice.logger ∈ [Log.partName "loader", Log.partName "splitter"] := by
  unfold load at h
  cases htext : readChars tree path config.encoding with
  | error fault =>
    rw [htext] at h
    cases h
  | ok text =>
    rw [htext] at h
    have hnotices : noticesOfText config path text = loaded.notices :=
      congrArg Loaded.notices (Except.ok.inj h)
    rw [← hnotices, noticesOfText] at hmem
    rcases List.mem_append.1 hmem with hsplit | hload
    · rw [Splitter.logger_of_mem_notices hsplit]
      exact List.mem_cons_of_mem _ (List.mem_singleton_self _)
    · rw [List.mem_singleton.1 hload]
      exact List.mem_cons_self

namespace Action

theorem logs_load [Encoding.Codecs] (tree : FileTree) (config : Config) (path : String) :
    Logs OfLoading (load tree config path) := by
  intro world
  rw [outcome_load]
  cases hload : Script.load tree config path with
  | error fault => exact ⟨[], (List.append_nil _).symm, rfl, List.forall_mem_nil _⟩
  | ok loaded =>
    refine ⟨loaded.notices.map (·.stamp world.correlation), rfl, rfl, ?_⟩
    intro record hmem
    obtain ⟨notice, hnotice, rfl⟩ := List.mem_map.1 hmem
    exact ⟨rfl, Script.logger_of_mem_notices hload hnotice⟩

theorem logs_loadAll [Encoding.Codecs] (tree : FileTree) (config : Config)
    (directory glob : String) :
    Logs OfLoading (loadAll tree config directory glob) := by
  refine (Logs.lift (Script.select tree directory glob)).bind fun paths => ?_
  have hload : ∀ path : Path, Logs OfLoading (load tree config path.toString) :=
    fun path => logs_load tree config path.toString
  exact Logs.mapM hload paths

end Action

namespace Runner

open ScriptReplay.Action

variable (runner : Runner) (path : Option String)

theorem logs_rollback : Logs OfRunner runner.rollback := by
  unfold rollback unlessAborted
  split
  · exact .pure ()
  · refine (logs_request _ _).tryCatch fun fault => ?_
    split
    · split
      · exact .throw _
      · exact .pure ()
    · exact .throw _

theorem logs_executeStatement (index : Nat) (statement : String) :
    Logs OfRunner (runner.executeStatement path index statement) := by
  unfold executeStatement
  refine (logs_request _ _).tryCatch fun fault => ?_
  split
  · next failure =>
    split
    · exact .throw _
    · have hnotice : ∀ id, OfRunner id ((failureNotice index path failure).stamp id) :=
        fun id => ⟨rfl, rfl⟩
      exact (logs_log hnotice).bind fun _ => (runner.logs_rollback).bind fun _ => .throw _
  · exact .throw _

theorem logs_executeFrom (index : Nat) (statements : List String) :
    Logs OfRunner (runner.executeFrom path index statements) := by
  induction statements generalizing index with
  | nil => exact .pure 0
  | cons statement rest ih =>
    unfold executeFrom
    split
    · exact ih (index + 1)
    · exact (runner.logs_executeStatement path index statement).bind fun _ =>
        (ih (index + 1)).bind fun count => .pure (count + 1)

theorem logs_executeStatements (statements : List String) :
    Logs OfRunner (runner.executeStatements statements path) := by
  unfold executeStatements
  refine (logs_request _ _).bind fun _ => ?_
  refine ((runner.logs_executeFrom path 0 statements).tryFinally (logs_request _ _)).bind
    fun count => ?_
  split
  · exact .pure count
  · exact (logs_request _ _).bind fun _ => .pure count

/-- What is logged while the statements of a script are executed is stamped with its name, and the
id before it is put back. -/
theorem logs_executeLoaded (script : Script) :
    Logs (fun _ => OfRunner (some script.name)) (runner.executeLoaded script) := by
  intro world
  unfold executeLoaded
  rw [outcome_withCorrelation]
  obtain ⟨made, hrecords, -, hmade⟩ :=
    runner.logs_executeStatements (some script.path) script.statements
      { world with correlation := some script.name }
  exact ⟨made, hrecords, rfl, hmade⟩

end Runner

/-! ## The passages of a log -/

/-- What was logged while one thing was done. The script is given where its statements were executed
meanwhile. -/
structure Passage where
  script : Option Script
  records : List Log.Record

/-- How the records of a passage are stamped: with the name of the script whose statements were
executed, all of them by the runner, and else with the id of the caller. -/
def Passage.Labelled (id : Option String) (passage : Passage) : Prop :=
  match passage.script with
  | none => ∀ record ∈ passage.records, record.correlation = id
  | some script => ∀ record ∈ passage.records, OfRunner (some script.name) record

/-- The passage of an action, and those of what is done with its result. -/
def passagesFrom {α : Type} (script : Option Script) (action : Action α)
    (next : α → World → List Passage) (world : World) : List Passage :=
  ⟨script, action.logged world⟩ ::
    match action.outcome world with
    | (.ok a, after) => next a after
    | (.error _, _) => []

namespace Runner

open ScriptReplay.Action

variable (runner : Runner)

/-- The passages of scripts that are executed one after another. -/
def passagesEach : List Script → World → List Passage
  | [] => fun _ => []
  | script :: rest =>
    passagesFrom (some script) (runner.executeLoaded script) fun _ => passagesEach rest

/-- What a runner does for a job. -/
def perform [Encoding.Codecs] (tree : FileTree) : Job → Action Nat
  | .statements statements path => runner.executeStatements statements path
  | .script path => runner.executeScript tree path
  | .directory directory glob => runner.executeDirectory tree directory glob

/-- The passages of what is logged for a job: scripts are loaded, their statements are executed, and
a script that was asked for by its path is reported behind them. -/
def passages [Encoding.Codecs] (tree : FileTree) : Job → World → List Passage
  | .statements statements path =>
    passagesFrom none (runner.executeStatements statements path) fun _ _ => []
  | .script path =>
    passagesFrom none (load tree runner.config path) fun script =>
      passagesFrom (some script) (runner.executeLoaded script) fun count =>
        passagesFrom none (log (successNotice script.path count)) fun _ _ => []
  | .directory directory glob =>
    passagesFrom none (loadAll tree runner.config directory glob) runner.passagesEach

end Runner

/-- What an action logs are these passages, each with the stamps it has to have, and the action puts
the correlation id back. -/
def Narrates {α : Type} (action : Action α) (passages : World → List Passage) : Prop :=
  ∀ world,
    (action.outcome world).2.correlation = world.correlation ∧
    (action.outcome world).2.records = world.records ++ (passages world).flatMap Passage.records ∧
    ∀ passage ∈ passages world, passage.Labelled world.correlation

section Narrates

open ScriptReplay.Action

variable {α β : Type}

theorem narrates_pure (a : α) : Narrates (pure a : Action α) fun _ => [] := fun _ =>
  ⟨rfl, (List.append_nil _).symm, List.forall_mem_nil _⟩

/-- A passage goes before those of what follows it. -/
theorem narrates_bind {Allowed : Option String → Log.Record → Prop} {action : Action α}
    {next : α → Action β} {passages : α → World → List Passage} {script : Option Script}
    (h : Logs Allowed action)
    (hlabelled : ∀ id records, (∀ record ∈ records, Allowed id record) →
      Passage.Labelled id ⟨script, records⟩)
    (hnext : ∀ a, Narrates (next a) (passages a)) :
    Narrates (action >>= next) (passagesFrom script action passages) := by
  intro world
  have hrecords := h.records_eq world
  have hcorrelation := h.correlation_eq world
  have hfirst := hlabelled world.correlation _ (h.allowed world)
  unfold passagesFrom
  rw [outcome_bind, List.flatMap_cons, List.forall_mem_cons, ← List.append_assoc, ← hrecords]
  rcases hrun : action.outcome world with ⟨fault | a, after⟩
  · rw [hrun] at hcorrelation
    exact ⟨hcorrelation, (List.append_nil _).symm, hfirst, List.forall_mem_nil _⟩
  · rw [hrun] at hcorrelation
    obtain ⟨hcorrelation', hrecords', hrest⟩ := hnext a after
    rw [hcorrelation] at hcorrelation' hrest
    exact ⟨hcorrelation', hrecords', hfirst, hrest⟩

/-- Where nothing follows, there is one passage. -/
theorem narrates_only {Allowed : Option String → Log.Record → Prop} {action : Action α}
    {script : Option Script} (h : Logs Allowed action)
    (hlabelled : ∀ id records, (∀ record ∈ records, Allowed id record) →
      Passage.Labelled id ⟨script, records⟩) :
    Narrates action (passagesFrom script action fun _ _ => []) := by
  have hbind : Narrates (action >>= fun a => (pure a : Action α))
      (passagesFrom script action fun _ _ => []) := narrates_bind h hlabelled narrates_pure
  rwa [bind_pure] at hbind

/-- Passages without a script have the id of the caller. -/
theorem labelled_none {Allowed : Option String → Log.Record → Prop}
    (h : ∀ id record, Allowed id record → record.correlation = id) (id : Option String)
    (records : List Log.Record) (hrecords : ∀ record ∈ records, Allowed id record) :
    Passage.Labelled id ⟨none, records⟩ :=
  fun record hmem => h id record (hrecords record hmem)

theorem narrates_executeEach (runner : Runner) (scripts : List Script) :
    Narrates (runner.executeEach scripts) (runner.passagesEach scripts) := by
  induction scripts with
  | nil => exact narrates_pure 0
  | cons script rest ih =>
    refine narrates_bind (runner.logs_executeLoaded script) (fun _ _ h => h) fun count => ?_
    -- the sum at the end of the rest logs nothing
    intro world
    have hrest := ih world
    rw [outcome_bind]
    rcases hrun : (runner.executeEach rest).outcome world with ⟨fault | total, after⟩
    · rwa [hrun] at hrest
    · rwa [hrun] at hrest

theorem narrates_perform [Encoding.Codecs] (runner : Runner) (tree : FileTree) (job : Job) :
    Narrates (runner.perform tree job) (runner.passages tree job) := by
  cases job with
  | statements statements path =>
    exact narrates_only (runner.logs_executeStatements path statements)
      (labelled_none fun _ _ h => h.1)
  | script path =>
    refine narrates_bind (logs_load tree runner.config path) (labelled_none fun _ _ h => h.1)
      fun script => ?_
    refine narrates_bind (runner.logs_executeLoaded script) (fun _ _ h => h) fun count => ?_
    have hnotice : ∀ id, OfRunner id ((Runner.successNotice script.path count).stamp id) :=
      fun id => ⟨rfl, rfl⟩
    exact narrates_only (logs_log hnotice) (labelled_none fun _ _ h => h.1)
  | directory directory glob =>
    exact narrates_bind (logs_loadAll tree runner.config directory glob)
      (labelled_none fun _ _ h => h.1) (narrates_executeEach runner)

end Narrates

/-! ## Jobs one after another -/

/-- A job, the runner that does it, and the files it finds. -/
structure Errand where
  runner : Runner
  job : Job
  tree : FileTree := {}

namespace Errand

/-- What is done for an errand. -/
def action [Encoding.Codecs] (errand : Errand) : Action Nat :=
  errand.runner.perform errand.tree errand.job

/-- The passages of what is logged for an errand. -/
def passages [Encoding.Codecs] (errand : Errand) : World → List Passage :=
  errand.runner.passages errand.tree errand.job

/-- The world after errands that are done one after another, whatever they come to. -/
def worldAfter [Encoding.Codecs] : List Errand → World → World
  | [], world => world
  | errand :: rest, world => worldAfter rest (errand.action.outcome world).2

theorem correlation_worldAfter [Encoding.Codecs] (errands : List Errand) (world : World) :
    (worldAfter errands world).correlation = world.correlation := by
  induction errands generalizing world with
  | nil => rfl
  | cons errand rest ih =>
    obtain ⟨hcorrelation, -, -⟩ := narrates_perform errand.runner errand.tree errand.job world
    exact (ih _).trans hcorrelation

end Errand

/-- A record of the loader or the splitter is in no passage of a script, so it has the id of the
caller. -/
theorem Passage.Labelled.of_logger {id : Option String} {passage : Passage}
    (h : passage.Labelled id) {record : Log.Record} (hmem : record ∈ passage.records)
    (hlogger : record.logger ∈ [Log.partName "loader", Log.partName "splitter"]) :
    record.correlation = id := by
  obtain ⟨script, records⟩ := passage
  cases script with
  | none => exact h record hmem
  | some script =>
    obtain ⟨-, hrunner⟩ := h record hmem
    rw [hrunner] at hlogger
    exact absurd hlogger (by decide)

/-- Whatever was done before and whatever an errand comes to, it leaves the correlation id as it was
at the very start. All that it logs lies in its passages: where the statements of a script are
executed, every record has the file name of the script; everywhere else, and so in every record of
the loader and the splitter, it is the id of the caller. -/
theorem correlation_of_errand [Encoding.Codecs] (earlier : List Errand) (errand : Errand)
    (world : World) :
    let before := Errand.worldAfter earlier world
    let after := (errand.action.outcome before).2
    before.correlation = world.correlation ∧ after.correlation = world.correlation ∧
      after.records = before.records ++ (errand.passages before).flatMap Passage.records ∧
      (∀ passage ∈ errand.passages before, passage.Labelled world.correlation) ∧
      ∀ passage ∈ errand.passages before, ∀ record ∈ passage.records,
        record.logger ∈ [Log.partName "loader", Log.partName "splitter"] →
          record.correlation = world.correlation := by
  intro before after
  have hbefore : before.correlation = world.correlation :=
    Errand.correlation_worldAfter earlier world
  obtain ⟨hcorrelation, hrecords, hlabelled⟩ :=
    narrates_perform errand.runner errand.tree errand.job before
  rw [hbefore] at hcorrelation hlabelled
  refine ⟨hbefore, hcorrelation, hrecords, hlabelled, ?_⟩
  intro passage hpassage record hmem hlogger
  exact (hlabelled passage hpassage).of_logger hmem hlogger

/-- A statement fails under an id that the caller had set: only the record of the failure has the
name of the script, which was loaded before and is not reported behind it. -/
example :
    let runner : Runner :=
      { connection := ⟨fun _ call => if call = .execute "B" then some ⟨"no", false⟩ else none⟩ }
    let tree : FileTree := { entries := [(["1.sql"], .file [65, 59, 66, 59])] }
    (Errand.passages ⟨runner, .script "1.sql", tree⟩ { correlation := some "outer" }).map
      (fun passage => (passage.script.map Script.name,
        passage.records.map fun record => (record.logger, record.correlation))) =
      [(none, [("sqlscript.splitter", some "outer"), ("sqlscript.loader", some "outer")]),
        (some "1.sql", [("sqlscript.runner", some "1.sql")])] := by
  decide +kernel

end ScriptReplay
