import ScriptReplay.Proofs.Replay.Protocol

/-!
# Replaying a directory

A directory is loaded as a whole before the first of its scripts is executed, while scripts that are
executed one by one are loaded in between. The connection sees no difference.

* `Action.Agree`: actions that come to the same for a connection. Loading agrees with what is loaded
  (`agree_loadAll`), and executing a file agrees with executing the script in it
  (`agree_executeScript`).
* `executeEach_done_or_stopped`: scripts go through one after another, up to the first that fails.
* `executeDirectory_refines_executeScripts` puts the two together.
-/

namespace ScriptReplay

namespace Action

variable {α β : Type}

/-- What an action comes to as a connection sees it: its result, and all exchanges made by then. -/
def dialogue (action : Action α) (world : World) : Except Fault α × List Exchange :=
  ((action.outcome world).1, (action.outcome world).2.exchanges)

/-- Actions that come to the same for a connection, whatever was logged before them and under which
correlation id they are done. -/
def Agree (first second : Action α) : Prop :=
  ∀ world other, world.exchanges = other.exchanges → first.dialogue world = second.dialogue other

theorem dialogue_pure (a : α) (world : World) :
    (pure a : Action α).dialogue world = (.ok a, world.exchanges) := rfl

section Bind

variable {action : Action α} {world : World} {exchanges : List Exchange}

theorem dialogue_bind_of_ok {a : α} (h : action.dialogue world = (.ok a, exchanges))
    (next : α → Action β) : ∃ after, after.exchanges = exchanges ∧
      (action >>= next).dialogue world = (next a).dialogue after := by
  unfold dialogue at h ⊢
  obtain ⟨hresult, hexchanges⟩ := Prod.mk.inj h
  rw [outcome_bind]
  generalize action.outcome world = ended at hresult hexchanges
  obtain ⟨result, after⟩ := ended
  subst hresult
  exact ⟨after, hexchanges, rfl⟩

theorem dialogue_bind_of_error {fault : Fault}
    (h : action.dialogue world = (.error fault, exchanges)) (next : α → Action β) :
    (action >>= next).dialogue world = (.error fault, exchanges) := by
  unfold dialogue at h ⊢
  obtain ⟨hresult, hexchanges⟩ := Prod.mk.inj h
  rw [outcome_bind]
  generalize action.outcome world = ended at hresult hexchanges
  obtain ⟨result, after⟩ := ended
  subst hresult
  exact congrArg (Prod.mk _) hexchanges

end Bind

section Agree

theorem Agree.symm {first second : Action α} (h : Agree first second) : Agree second first :=
  fun world other heq => (h other world heq.symm).symm

theorem Agree.pure (a : α) : Agree (Pure.pure a) (Pure.pure a) :=
  fun _ _ h => congrArg (Prod.mk (Except.ok a)) h

theorem Agree.lift (result : Except Fault α) : Agree (Action.lift result) (Action.lift result) :=
  fun _ _ h => congrArg (Prod.mk result) h

theorem Agree.bind {first second : Action α} {next other : α → Action β}
    (h : Agree first second) (hnext : ∀ a, Agree (next a) (other a)) :
    Agree (first >>= next) (second >>= other) := by
  intro world world' heq
  rcases hfirst : first.dialogue world with ⟨fault | a, exchanges⟩
  · have hsecond := (h world world' heq).symm.trans hfirst
    rw [dialogue_bind_of_error hfirst, dialogue_bind_of_error hsecond]
  · have hsecond := (h world world' heq).symm.trans hfirst
    obtain ⟨after, rfl, hbind⟩ := dialogue_bind_of_ok hfirst next
    obtain ⟨after', hafter, hbind'⟩ := dialogue_bind_of_ok hsecond other
    rw [hbind, hbind']
    exact hnext a after after' hafter.symm

/-- What changes neither the result nor the exchanges may follow. -/
theorem Agree.followed {action : Action α} {next : α → Action α} (h : Agree action action)
    (hnext : ∀ a, Agree (Pure.pure a) (next a)) : Agree action (action >>= next) := by
  have hbind := h.bind hnext
  rwa [bind_pure] at hbind

theorem lift_bind (result : Except Fault α) (next : α → Except Fault β) :
    Action.lift (result >>= next) = Action.lift result >>= fun a => Action.lift (next a) := by
  cases result <;> rfl

theorem Agree.mapM {f : α → Action β} {g : α → Except Fault β}
    (h : ∀ a, Agree (f a) (Action.lift (g a))) (list : List α) :
    Agree (list.mapM f) (Action.lift (list.mapM g)) := by
  induction list with
  | nil => exact .pure []
  | cons a rest ih =>
    rw [List.mapM_cons, List.mapM_cons, lift_bind]
    refine (h a).bind fun b => ?_
    rw [lift_bind]
    exact ih.bind fun bs => .pure (b :: bs)

/-- Loading a file comes to no more than the script in it. -/
theorem agree_load [Encoding.Codecs] (tree : FileTree) (config : Config) (path : String) :
    Agree (load tree config path) (Action.lift (Script.ofFile tree config path)) := by
  intro world other h
  unfold dialogue Script.ofFile
  rw [outcome_load]
  cases Script.load tree config path with
  | error fault => exact congrArg (Prod.mk (Except.error fault)) h
  | ok loaded => exact congrArg (Prod.mk (Except.ok loaded.script)) h

theorem agree_loadAll [Encoding.Codecs] (tree : FileTree) (config : Config)
    (directory glob : String) :
    Agree (loadAll tree config directory glob)
      (Action.lift (Script.loadAll tree config directory glob)) := by
  unfold loadAll Script.loadAll
  rw [lift_bind]
  exact (Agree.lift _).bind fun paths => .mapM (fun path => agree_load tree config _) paths

end Agree

end Action

/-! ## Loading the scripts of a directory -/

section Loading

variable {α β ε : Type} {f : α → Except ε β}

theorem exists_of_mem_mapM {list : List α} {bs : List β} (h : list.mapM f = .ok bs) {b : β}
    (hmem : b ∈ bs) : ∃ a, f a = .ok b := by
  induction list generalizing bs with
  | nil =>
    cases h
    cases hmem
  | cons a rest ih =>
    rw [List.mapM_cons] at h
    cases hfirst : f a with
    | error fault => simp [hfirst, bind, Except.bind] at h
    | ok first =>
      cases hrest : rest.mapM f with
      | error fault => simp [hfirst, hrest, bind, Except.bind] at h
      | ok later =>
        simp only [hfirst, hrest, bind, Except.bind, pure, Except.pure, Except.ok.injEq] at h
        subst h
        rcases List.mem_cons.1 hmem with rfl | hlater
        · exact ⟨a, hfirst⟩
        · exact ih hrest hlater

/-- If one element fails, the first that fails decides. -/
theorem mapM_eq_first_error {list : List α} {a : α} (hmem : a ∈ list) (h : ∀ b, f a ≠ .ok b) :
    ∃ earlier first later fault, list = earlier ++ first :: later ∧
      (∀ a ∈ earlier, ∃ b, f a = .ok b) ∧ f first = .error fault ∧
      list.mapM f = .error fault := by
  induction list with
  | nil => cases hmem
  | cons head rest ih =>
    rw [List.mapM_cons]
    cases hhead : f head with
    | error fault => exact ⟨[], head, rest, fault, rfl, List.forall_mem_nil _, hhead, rfl⟩
    | ok value =>
      have hrest : a ∈ rest := by
        rcases List.mem_cons.1 hmem with rfl | hrest
        · exact absurd hhead (h value)
        · exact hrest
      obtain ⟨earlier, first, later, fault, rfl, hearlier, hfirst, hfault⟩ := ih hrest
      refine ⟨head :: earlier, first, later, fault, rfl, ?_, hfirst, ?_⟩
      · exact List.forall_mem_cons.2 ⟨⟨value, hhead⟩, hearlier⟩
      · rw [hfault]
        rfl

end Loading

theorem Script.path_of_ofFile [Encoding.Codecs] {tree : FileTree} {config : Config} {path : String}
    {script : Script} (h : ofFile tree config path = .ok script) : script.path = path := by
  unfold ofFile load at h
  cases htext : readChars tree path config.encoding with
  | error fault =>
    rw [htext] at h
    cases h
  | ok text =>
    rw [htext] at h
    cases h
    rfl

/-- The scripts of a directory are the files that its glob selects, in the order of their names. -/
theorem Script.select_eq_ok {tree : FileTree} {directory glob : String} {pattern : Glob}
    {found files : List Path}
    (hdirectory : tree.entry? (Path.ofString directory) = .ok (some .directory))
    (hglob : Glob.ofString? glob = .ok pattern)
    (hfound : pattern.select tree (Path.ofString directory) = .ok found)
    (hfiles : found.filterM (isFile tree) = .ok files) :
    select tree directory glob = .ok (sortByName files) := by
  unfold select
  simp only [hdirectory, hglob, hfound, hfiles]
  rfl

theorem Script.loadAll_of_select [Encoding.Codecs] {tree : FileTree} {directory glob : String}
    {paths : List Path} (h : select tree directory glob = .ok paths) (config : Config) :
    loadAll tree config directory glob =
      paths.mapM fun path => ofFile tree config path.toString := by
  unfold loadAll
  rw [h]
  rfl

/-- The scripts of a directory can be loaded again by their paths. -/
theorem Script.ofFile_path_of_loadAll [Encoding.Codecs] {tree : FileTree} {config : Config}
    {directory glob : String} {scripts : List Script}
    (h : loadAll tree config directory glob = .ok scripts) :
    ∀ script ∈ scripts, ofFile tree config script.path = .ok script := by
  intro script hmem
  cases hpaths : select tree directory glob with
  | error fault =>
    unfold loadAll at h
    rw [hpaths] at h
    cases h
  | ok paths =>
    rw [loadAll_of_select hpaths] at h
    obtain ⟨path, hpath⟩ := exists_of_mem_mapM h hmem
    rwa [path_of_ofFile hpath]

/-! ## Replays that go through -/

/-- The requests of a replay of statements in which nothing is refused. The last is a commit, unless
the connection commits on its own. -/
def completed (autocommit : Bool) (statements : List String) : List Exchange :=
  (.cursor :: (statements.map .execute ++ .close :: if autocommit then [] else [.commit])).map
    (⟨·, none⟩)

/-- The requests for scripts of which each goes through. -/
def completedEach (autocommit : Bool) (scripts : List Script) : List Exchange :=
  scripts.flatMap fun script => completed autocommit (nonBlank script.statements)

theorem Executes.calls_eq {statements : List String} {executed : List Exchange}
    (h : Executes statements executed none) :
    executed.map Exchange.call = statements.map .execute := by
  generalize hrefusal : (none : Option Failure) = refusal at h
  induction h with
  | done => rfl
  | refused => cases hrefusal
  | accepted statement _ ih => exact congrArg (Call.execute statement :: ·) (ih hrefusal)

/-- Requests that were not refused are known by their calls. -/
theorem eq_map_calls {made : List Exchange} (h : ∀ exchange ∈ made, exchange.failure = none) :
    made = (made.map Exchange.call).map (⟨·, none⟩) := by
  rw [List.map_map]
  refine (List.map_id' made).symm.trans (List.map_congr_left fun exchange hmem => ?_)
  exact congrArg (Exchange.mk exchange.call) (h exchange hmem)

theorem Protocol.eq_completed {autocommit : Bool} {statements : List String}
    {made : List Exchange} (h : Protocol autocommit statements made)
    (hmade : ∀ exchange ∈ made, exchange.failure = none) :
    made = completed autocommit statements := by
  refine (eq_map_calls hmade).trans (congrArg (List.map _) ?_)
  cases h with
  | unopened failure => simp at hmade
  | opened executes undoes commits =>
    simp only [List.forall_mem_cons, List.forall_mem_append] at hmade
    obtain ⟨-, ⟨hexecuted, -⟩, rfl, -⟩ := hmade
    obtain rfl := executes.forall_failure_eq_none_iff.1 hexecuted
    simp only [List.map_cons, List.map_append, executes.calls_eq, undoes, commits]
    cases autocommit <;> simp

namespace Runner

open ScriptReplay.Action

/-- Executes script files one after another and adds up the numbers of their statements. -/
def executeScripts [Encoding.Codecs] (runner : Runner) (tree : FileTree) : List String → Action Nat
  | [] => return 0
  | path :: rest => do
    let count ← runner.executeScript tree path
    return count + (← runner.executeScripts tree rest)

/-! ## One script -/

section One

variable (runner : Runner) (script : Script) (world : World)

/-- A replay looks at nothing but the exchanges made before it. -/
theorem dialogue_executeStatements (statements : List String) (path : Option String) :
    (runner.executeStatements statements path).dialogue world =
      let cursor := runner.connection.ask world.exchanges .cursor
      let opened := world.exchanges ++ [cursor]
      match cursor.failure with
      | some failure => (.error (.connection failure), opened)
      | none =>
        (runner.verdict path opened statements,
          opened ++ (runner.transcript opened statements).exchanges) := by
  unfold dialogue
  dsimp only
  cases hopened : (runner.connection.ask world.exchanges .cursor).failure with
  | some failure =>
    rw [outcome_executeStatements_of_refused world statements hopened]
    rfl
  | none =>
    rw [outcome_executeStatements world statements hopened]
    rfl

theorem dialogue_executeLoaded :
    (runner.executeLoaded script).dialogue world =
      (runner.executeStatements script.statements (some script.path)).dialogue
        { world with correlation := some script.name } := by
  unfold dialogue executeLoaded
  rw [outcome_withCorrelation]

theorem agree_executeLoaded :
    Agree (runner.executeLoaded script) (runner.executeLoaded script) := by
  intro world other h
  rw [dialogue_executeLoaded, dialogue_executeLoaded, dialogue_executeStatements,
    dialogue_executeStatements]
  dsimp only
  rw [h]

/-- A script goes through, or some request for it was refused. -/
theorem executeLoaded_done_or_failed :
    (runner.executeLoaded script).dialogue world =
        (.ok (nonBlank script.statements).length,
          world.exchanges ++ completed runner.autocommit (nonBlank script.statements)) ∨
      ∃ fault made,
        (runner.executeLoaded script).dialogue world = (.error fault, world.exchanges ++ made) ∧
        Protocol runner.autocommit (nonBlank script.statements) made ∧
        ∃ exchange ∈ made, exchange.failure ≠ none := by
  rw [dialogue_executeLoaded, dialogue_executeStatements]
  dsimp only
  rw [← counted_eq_nonBlank]
  cases hopened : (runner.connection.ask world.exchanges .cursor).failure with
  | some failure =>
    have hcursor : runner.connection.ask world.exchanges .cursor = ⟨.cursor, some failure⟩ :=
      congrArg (Exchange.mk .cursor) hopened
    rw [hcursor]
    exact .inr ⟨_, _, rfl, .unopened failure, _, List.mem_singleton_self _, by simp⟩
  | none =>
    have hcursor : runner.connection.ask world.exchanges .cursor = ⟨.cursor, none⟩ :=
      congrArg (Exchange.mk .cursor) hopened
    rw [hcursor]
    dsimp only
    have hprotocol := runner.protocol_transcript (world.exchanges ++ [⟨.cursor, none⟩])
      script.statements
    have hok := runner.verdict_eq_ok_iff (world.exchanges ++ [⟨.cursor, none⟩]) script.statements
      (some script.path)
    generalize runner.transcript (world.exchanges ++ [⟨.cursor, none⟩]) script.statements =
      transcript at hprotocol hok ⊢
    rw [List.append_assoc, List.singleton_append]
    cases hverdict : runner.verdict (some script.path) (world.exchanges ++ [⟨.cursor, none⟩])
        script.statements with
    | ok count =>
      obtain ⟨rfl, hmade⟩ := (hok count).1 hverdict
      left
      rw [hprotocol.eq_completed (List.forall_mem_cons.2 ⟨rfl, hmade⟩)]
    | error fault =>
      -- had no request been refused, the replay would have returned
      refine .inr ⟨fault, _, rfl, hprotocol, ?_⟩
      refine Classical.byContradiction fun hnone => ?_
      have hmade : ∀ exchange ∈ ⟨.cursor, none⟩ :: transcript.exchanges,
          exchange.failure = none :=
        fun exchange hmem => Classical.byContradiction fun h => hnone ⟨exchange, hmem, h⟩
      rw [(hok _).2 ⟨rfl, (List.forall_mem_cons.1 hmade).2⟩] at hverdict
      cases hverdict

/-- Executing a file comes to what the execution of the script in it comes to. -/
theorem agree_executeScript [Encoding.Codecs] {tree : FileTree} {path : String}
    (hload : Script.ofFile tree runner.config path = .ok script) :
    Agree (runner.executeLoaded script) (runner.executeScript tree path) := by
  have hloaded := agree_load tree runner.config path
  rw [hload] at hloaded
  have hlogged : ∀ loaded, Agree (runner.executeLoaded loaded) (do
      let count ← runner.executeLoaded loaded
      log (successNotice loaded.path count)
      return count) := fun loaded =>
    (runner.agree_executeLoaded loaded).followed fun count _ _ h =>
      congrArg (Prod.mk (Except.ok count)) h
  exact hloaded.symm.bind hlogged

end One

/-! ## Many scripts -/

section Many

variable (runner : Runner)

theorem agree_executeEach (scripts : List Script) :
    Agree (runner.executeEach scripts) (runner.executeEach scripts) := by
  induction scripts with
  | nil => exact .pure 0
  | cons script rest ih =>
    exact (runner.agree_executeLoaded script).bind fun count => ih.bind fun total => .pure _

/-- Scripts come to what the files come to that they were loaded from. -/
theorem agree_executeScripts [Encoding.Codecs] {tree : FileTree} {scripts : List Script}
    (hload : ∀ script ∈ scripts, Script.ofFile tree runner.config script.path = .ok script) :
    Agree (runner.executeEach scripts) (runner.executeScripts tree (scripts.map Script.path)) := by
  induction scripts with
  | nil => exact .pure 0
  | cons script rest ih =>
    obtain ⟨hfirst, hrest⟩ := List.forall_mem_cons.1 hload
    exact (runner.agree_executeScript script hfirst).bind fun count =>
      (ih hrest).bind fun total => .pure _

theorem agree_executeDirectory [Encoding.Codecs] (tree : FileTree) (directory glob : String) :
    Agree (runner.executeDirectory tree directory glob)
      (lift (Script.loadAll tree runner.config directory glob) >>= runner.executeEach) :=
  (agree_loadAll tree runner.config directory glob).bind runner.agree_executeEach

/-- Scripts were replayed up to one that failed: those before it went through, and nothing was asked
for those behind it. -/
def Stopped (autocommit : Bool) (scripts : List Script) (made : List Exchange) : Prop :=
  ∃ earlier failed later last,
    scripts = earlier ++ failed :: later ∧ made = completedEach autocommit earlier ++ last ∧
    Protocol autocommit (nonBlank failed.statements) last ∧
    ∃ exchange ∈ last, exchange.failure ≠ none

theorem Stopped.cons {autocommit : Bool} {scripts : List Script} {made : List Exchange}
    (script : Script) (h : Stopped autocommit scripts made) :
    Stopped autocommit (script :: scripts)
      (completed autocommit (nonBlank script.statements) ++ made) := by
  obtain ⟨earlier, failed, later, last, rfl, rfl, hlast⟩ := h
  exact ⟨script :: earlier, failed, later, last, rfl, (List.append_assoc ..).symm, hlast⟩

/-- All scripts go through, or they are replayed up to one that fails. -/
theorem executeEach_done_or_stopped (scripts : List Script) (world : World) :
    (runner.executeEach scripts).dialogue world =
        (.ok (scripts.flatMap fun script => nonBlank script.statements).length,
          world.exchanges ++ completedEach runner.autocommit scripts) ∨
      ∃ fault made,
        (runner.executeEach scripts).dialogue world = (.error fault, world.exchanges ++ made) ∧
        Stopped runner.autocommit scripts made := by
  induction scripts generalizing world with
  | nil => exact .inl (congrArg (Prod.mk _) (List.append_nil _).symm)
  | cons script rest ih =>
    unfold executeEach
    have hscript := runner.executeLoaded_done_or_failed script world
    rcases hscript with hdone | ⟨fault, made, hfailed, hlast⟩
    · -- the rest begins behind the exchanges of the script, and adds its count at the end
      obtain ⟨after, hafter, hbind⟩ := dialogue_bind_of_ok hdone
        fun count => do return count + (← runner.executeEach rest)
      rw [hbind]
      rcases ih after with hrest | ⟨fault, made, hrest, hstopped⟩
      · obtain ⟨final, hfinal, hlast⟩ := dialogue_bind_of_ok hrest
          fun total => pure ((nonBlank script.statements).length + total)
        left
        rw [hlast, dialogue_pure, hfinal, hafter, List.append_assoc, List.flatMap_cons,
          List.length_append]
        rfl
      · right
        refine ⟨fault, _, ?_, hstopped.cons script⟩
        rw [dialogue_bind_of_error hrest, hafter, List.append_assoc]
    · exact .inr ⟨fault, made, dialogue_bind_of_error hfailed _, [], script, rest, made, rfl, rfl,
        hlast⟩

end Many

/-! ## A directory -/

/-- A directory comes to what the files of its scripts come to one after another, up to the first
that fails: the scripts before that one went through, each with its own commit, and nothing was
asked for those behind it. If a file cannot be loaded, nothing is asked for at all. -/
theorem executeDirectory_refines_executeScripts [Encoding.Codecs] (runner : Runner)
    (tree : FileTree) (directory glob : String) (world : World) :
    (∀ scripts, Script.loadAll tree runner.config directory glob = .ok scripts →
      (runner.executeDirectory tree directory glob).dialogue world =
          (runner.executeScripts tree (scripts.map Script.path)).dialogue world ∧
        ((runner.executeDirectory tree directory glob).dialogue world =
            (.ok (scripts.flatMap fun script => nonBlank script.statements).length,
              world.exchanges ++ completedEach runner.autocommit scripts) ∨
          ∃ fault made,
            (runner.executeDirectory tree directory glob).dialogue world =
              (.error fault, world.exchanges ++ made) ∧
            Stopped runner.autocommit scripts made)) ∧
    ∀ paths, Script.select tree directory glob = .ok paths →
      ∀ path ∈ paths,
        (∀ script, Script.ofFile tree runner.config path.toString ≠ .ok script) →
        ∃ earlier first later fault,
          paths = earlier ++ first :: later ∧
          (∀ path ∈ earlier, ∃ script,
            Script.ofFile tree runner.config path.toString = .ok script) ∧
          Script.ofFile tree runner.config first.toString = .error fault ∧
          (runner.executeDirectory tree directory glob).dialogue world =
            (.error fault, world.exchanges) := by
  have hdirectory :=
    runner.agree_executeDirectory tree directory glob world world rfl
  constructor
  · intro scripts hload
    have hfiles := runner.agree_executeScripts (Script.ofFile_path_of_loadAll hload)
    rw [hload] at hdirectory
    have heach : (runner.executeDirectory tree directory glob).dialogue world =
        (runner.executeEach scripts).dialogue world := hdirectory
    rw [heach]
    exact ⟨hfiles world world rfl, runner.executeEach_done_or_stopped scripts world⟩
  · intro paths hselect path hmem hpath
    obtain ⟨earlier, first, later, fault, hpaths, hearlier, hfirst, hfault⟩ :=
      mapM_eq_first_error (f := fun path : Path => Script.ofFile tree runner.config path.toString)
        hmem hpath
    rw [Script.loadAll_of_select hselect, hfault] at hdirectory
    exact ⟨earlier, first, later, fault, hpaths, hearlier, hfirst, hdirectory⟩

/-- Three scripts, the last of which is not in ASCII. -/
def threeScripts : FileTree :=
  { entries := [("1.sql", "A;"), ("2.sql", "B;"), ("3.sql", "é;")].map fun file =>
      ([file.1], .file (Encoding.encodeUtf8 file.2.toList)) }

/-- The paths of the three scripts. -/
def threePaths : List Path :=
  [⟨.relative, ["1.sql"]⟩, ⟨.relative, ["2.sql"]⟩, ⟨.relative, ["3.sql"]⟩]

theorem select_threeScripts : Script.select threeScripts "." "*.sql" = .ok threePaths := by
  have hsorted : Script.sortByName threePaths = threePaths :=
    List.mergeSort_of_pairwise (by decide +kernel)
  rw [← hsorted]
  have hglob : Glob.ofString? "*.sql" =
      .ok ⟨[.wildcard (Glob.partsOf "*.sql".toList)], false⟩ := rfl
  have hfound : Glob.select ⟨[.wildcard (Glob.partsOf "*.sql".toList)], false⟩ threeScripts
      (Path.ofString ".") = .ok threePaths := rfl
  exact Script.select_eq_ok rfl hglob hfound rfl

/-- A connection that refuses one statement. -/
def refusing (statement : String) : Connection where
  answer _ call := if call = .execute statement then some ⟨"no", false⟩ else none

/-- Where the second of three scripts is refused, the first has its commit and the third is not
begun. Read as ASCII, no script is begun. -/
theorem executeDirectory_refines_executeScripts_refusing :
    (∃ scripts, Script.loadAll threeScripts {} "." "*.sql" = .ok scripts ∧
        scripts.map Script.path = ["1.sql", "2.sql", "3.sql"] ∧
        (executeDirectory { connection := refusing " B" } threeScripts "." "*.sql").dialogue {} =
          (executeScripts { connection := refusing " B" } threeScripts
            (scripts.map Script.path)).dialogue {}) ∧
      ((executeScripts { connection := refusing " B" } threeScripts
          ["1.sql", "2.sql", "3.sql"]).dialogue {}).2 =
        completed false [" A"] ++ [⟨.cursor, none⟩, ⟨.execute " B", some ⟨"no", false⟩⟩,
          ⟨.rollback, none⟩, ⟨.close, none⟩] ∧
      ∃ fault,
        (executeDirectory { connection := refusing " B", config := { encoding := "ascii" } }
          threeScripts "." "*.sql").dialogue {} = (.error fault, []) := by
  refine ⟨?_, by decide +kernel, ?_⟩
  · have hpaths : (threePaths.mapM fun path =>
          Script.ofFile threeScripts {} path.toString).toOption.map (List.map Script.path) =
        some ["1.sql", "2.sql", "3.sql"] := by decide +kernel
    rw [← Script.loadAll_of_select select_threeScripts] at hpaths
    cases hscripts : Script.loadAll threeScripts {} "." "*.sql" with
    | error fault =>
      rw [hscripts] at hpaths
      cases hpaths
    | ok scripts =>
      rw [hscripts] at hpaths
      have hrun := executeDirectory_refines_executeScripts { connection := refusing " B" }
        threeScripts "." "*.sql" {}
      exact ⟨scripts, rfl, Option.some.inj hpaths, (hrun.1 scripts hscripts).1⟩
  · have hascii : (Script.ofFile threeScripts { encoding := "ascii" } "3.sql").toOption = none := by
      decide +kernel
    have hbroken : ∀ script,
        Script.ofFile threeScripts { encoding := "ascii" } "3.sql" ≠ .ok script := by
      intro script hscript
      rw [hscript] at hascii
      cases hascii
    have hrun := executeDirectory_refines_executeScripts
      { connection := refusing " B", config := { encoding := "ascii" } } threeScripts "." "*.sql" {}
    obtain ⟨_, _, _, fault, _, _, _, hnothing⟩ :=
      hrun.2 threePaths select_threeScripts ⟨.relative, ["3.sql"]⟩ (by decide) hbroken
    exact ⟨fault, hnothing⟩

end Runner

end ScriptReplay
