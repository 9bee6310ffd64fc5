import ScriptReplay.Proofs.Replay.Ledger

/-!
# Atomicity of scripts

A caller asks for one replay after another on one connection, and goes on whatever they come to.
What is durable in the end is what the scripts that returned have executed, exactly if whatever an
attempt leaves pending is rolled back before another attempt returns.

Only a refused statement whose failure does not abort is answered with a rollback. A failure that
aborts, a cursor that cannot be closed and a commit that is refused leave pending what was executed
before them.
-/

namespace ScriptReplay

/-- What a caller may ask of a runner. -/
inductive Job
  | statements (statements : List String) (path : Option String)
  | script (path : String)
  | directory (directory glob : String)

/-- A job, the files it finds, and how they are read. -/
structure Order where
  job : Job
  config : Config := {}
  tree : FileTree := {}

open ScriptReplay.Action

namespace Order

/-- The runner for an order on a connection that does not commit on its own. -/
def runner (order : Order) (connection : Connection) : Runner :=
  { connection, config := order.config }

/-- What is done for an order. -/
def action [Encoding.Codecs] (order : Order) (connection : Connection) : Action Nat :=
  match order.job with
  | .statements statements path => (order.runner connection).executeStatements statements path
  | .script path => (order.runner connection).executeScript order.tree path
  | .directory directory glob =>
    (order.runner connection).executeDirectory order.tree directory glob

end Order

/-- The attempts made at scripts one after another, up to the first that does not return. -/
def Runner.attempts (runner : Runner) : List Script → World → List Attempt
  | [], _ => []
  | script :: rest, world =>
    Attempt.of (runner.executeLoaded script) script.statements world ::
      match (runner.executeLoaded script).outcome world with
      | (.ok _, after) => runner.attempts rest after
      | (.error _, _) => []

theorem Runner.attempts_singleton (runner : Runner) (script : Script) (world : World) :
    runner.attempts [script] world =
      [Attempt.of (runner.executeLoaded script) script.statements world] := by
  unfold attempts
  rcases (runner.executeLoaded script).outcome world with ⟨_ | _, _⟩ <;> rfl

/-- The attempts made at what was loaded. What cannot be loaded is not attempted. -/
def attemptsOnceLoaded {α : Type} (loader : Action α) (attempts : α → World → List Attempt)
    (world : World) : List Attempt :=
  match loader.outcome world with
  | (.ok a, loaded) => attempts a loaded
  | (.error _, _) => []

namespace Order

/-- The attempts made for an order. -/
def attempts [Encoding.Codecs] (order : Order) (connection : Connection) (world : World) :
    List Attempt :=
  let runner := order.runner connection
  match order.job with
  | .statements statements path =>
    [Attempt.of (runner.executeStatements statements path) statements world]
  | .script path =>
    attemptsOnceLoaded (load order.tree order.config path)
      (fun script => runner.attempts [script]) world
  | .directory directory glob =>
    attemptsOnceLoaded (loadAll order.tree order.config directory glob) runner.attempts world

/-- The world after orders that are carried out one after another, whatever they come to. -/
def worldAfter [Encoding.Codecs] (connection : Connection) : List Order → World → World
  | [], world => world
  | order :: rest, world =>
    worldAfter connection rest ((order.action connection).outcome world).2

/-- The attempts made for orders that are carried out one after another. -/
def allAttempts [Encoding.Codecs] (connection : Connection) : List Order → World → List Attempt
  | [], _ => []
  | order :: rest, world =>
    order.attempts connection world ++
      allAttempts connection rest ((order.action connection).outcome world).2

end Order

/-- The statements of the attempts that returned. -/
def returnedStatements (attempts : List Attempt) : List String :=
  (attempts.filter Attempt.returned).flatMap fun attempt => counted attempt.statements

/-- Whether an attempt executed a statement that it neither committed nor rolled back. -/
def Attempt.leavesPending (attempt : Attempt) : Bool :=
  !attempt.returned && !rolledBack attempt.exchanges && !(accepted attempt.exchanges).isEmpty

/-- Whatever an attempt leaves pending is rolled back before another attempt returns. -/
def Recovers (attempts : List Attempt) : Prop :=
  ∀ earlier left between back later, attempts = earlier ++ left :: (between ++ back :: later) →
    left.leavesPending = true → back.returned = true →
    ∃ attempt ∈ between, rolledBack attempt.exchanges = true

/-! ## The ledger of a run -/

section Run

variable {connection : Connection}

theorem Ledger.of_executeLoaded {runner : Runner} (hauto : runner.autocommit = false)
    (hrollback : ∀ history, runner.connection.answer history .rollback = none) (script : Script)
    (world : World) :
    of ((runner.executeLoaded script).outcome world).2.exchanges =
      (of world.exchanges).settle
        (Attempt.of (runner.executeLoaded script) script.statements world) := by
  unfold Runner.executeLoaded Attempt.of
  rw [outcome_withCorrelation]
  exact of_executeStatements hauto hrollback script.statements
    { world with correlation := some script.name }

theorem Ledger.of_executeEach {runner : Runner} (hauto : runner.autocommit = false)
    (hrollback : ∀ history, runner.connection.answer history .rollback = none)
    (scripts : List Script) (world : World) :
    of ((runner.executeEach scripts).outcome world).2.exchanges =
      (runner.attempts scripts world).foldl settle (of world.exchanges) := by
  induction scripts generalizing world with
  | nil => rfl
  | cons script rest ih =>
    have hstep := of_executeLoaded hauto hrollback script world
    unfold Runner.executeEach Runner.attempts
    rw [outcome_bind, List.foldl_cons, ← hstep]
    rcases (runner.executeLoaded script).outcome world with ⟨_ | count, after⟩
    · rfl
    · dsimp only
      rw [exchanges_bind_of_offline fun _ => Offline.pure _, ih]

/-- What is loaded first makes no difference to the ledger. -/
theorem Ledger.of_bind_offline {α : Type} {loader : Action α} (hloader : Offline loader)
    {next : α → Action Nat} {attempts : α → World → List Attempt}
    (hnext : ∀ a world, of ((next a).outcome world).2.exchanges =
      (attempts a world).foldl settle (of world.exchanges)) (world : World) :
    of ((loader >>= next).outcome world).2.exchanges =
      (attemptsOnceLoaded loader attempts world).foldl settle (of world.exchanges) := by
  have hloaded := hloader world
  unfold attemptsOnceLoaded
  rw [outcome_bind]
  rcases hrun : loader.outcome world with ⟨_ | a, loaded⟩
  · rw [← hloaded, hrun]
    rfl
  · rw [← hloaded, hrun]
    exact hnext a loaded

/-- The ledger after an order is settled by the attempts made for it. -/
theorem Ledger.of_action [Encoding.Codecs]
    (hrollback : ∀ history, connection.answer history .rollback = none)
    (order : Order) (world : World) :
    of ((order.action connection).outcome world).2.exchanges =
      (order.attempts connection world).foldl settle (of world.exchanges) := by
  obtain ⟨job, config, tree⟩ := order
  have hrunner : ∀ history,
      ({ connection, config } : Runner).connection.answer history .rollback = none := hrollback
  cases job with
  | statements statements path => exact of_executeStatements rfl hrunner statements world
  | script path =>
    refine of_bind_offline (offline_load tree config path) (fun script loaded => ?_) world
    rw [exchanges_bind_of_offline fun _ => (offline_log _).bind fun _ => Offline.pure _,
      Runner.attempts_singleton]
    exact of_executeLoaded rfl hrunner script loaded
  | directory directory glob =>
    exact of_bind_offline (offline_loadAll tree config directory glob)
      (of_executeEach rfl hrunner) world

theorem Ledger.of_worldAfter [Encoding.Codecs]
    (hrollback : ∀ history, connection.answer history .rollback = none)
    (orders : List Order) (world : World) :
    of (Order.worldAfter connection orders world).exchanges =
      (Order.allAttempts connection orders world).foldl settle (of world.exchanges) := by
  induction orders generalizing world with
  | nil => rfl
  | cons order rest ih =>
    unfold Order.worldAfter Order.allAttempts
    rw [ih, of_action hrollback, List.foldl_append]

end Run

/-! ## Attempts that leave something pending -/

section Recovery

variable {ledger : Ledger} {attempt : Attempt} {attempts : List Attempt}

theorem returnedStatements_cons (attempt : Attempt) (rest : List Attempt) :
    returnedStatements (attempt :: rest) =
      (if attempt.returned then counted attempt.statements else []) ++ returnedStatements rest := by
  unfold returnedStatements
  cases h : attempt.returned <;> simp [h]

/-- An attempt that returns makes durable what was pending, and its statements. -/
theorem Ledger.settle_of_returned (h : attempt.returned = true) :
    ledger.settle attempt =
      { pending := []
        durable := ledger.durable ++ ledger.pending ++ counted attempt.statements } := by
  simp [settle, h]

theorem Ledger.durable_settle_of_not_returned (h : attempt.returned = false) :
    (ledger.settle attempt).durable = ledger.durable := by
  unfold settle
  cases rolledBack attempt.exchanges <;> simp [h]

/-- At least the statements of the attempts that returned become durable. -/
theorem Ledger.length_durable_foldl_settle (attempts : List Attempt) (ledger : Ledger) :
    ledger.durable.length + (returnedStatements attempts).length ≤
      (attempts.foldl settle ledger).durable.length := by
  induction attempts generalizing ledger with
  | nil => simp [returnedStatements]
  | cons attempt rest ih =>
    have hrest := ih (ledger.settle attempt)
    rw [List.foldl_cons, returnedStatements_cons]
    cases h : attempt.returned with
    | true =>
      rw [settle_of_returned h] at hrest ⊢
      simp only [List.length_append, if_true] at hrest ⊢
      omega
    | false =>
      rw [durable_settle_of_not_returned h] at hrest
      simpa using hrest

/-- Each attempt that returns begins with nothing pending. -/
def Ledger.CommitsOwn : Ledger → List Attempt → Prop
  | _, [] => True
  | ledger, attempt :: rest =>
    (attempt.returned = true → ledger.pending = []) ∧ CommitsOwn (ledger.settle attempt) rest

theorem Ledger.CommitsOwn.of_append {earlier later : List Attempt}
    (h : CommitsOwn ledger (earlier ++ later)) :
    CommitsOwn (earlier.foldl settle ledger) later := by
  induction earlier generalizing ledger with
  | nil => exact h
  | cons attempt rest ih => exact ih h.2

/-- The statements that returned are all that becomes durable, exactly if each attempt that returns
begins with nothing pending. -/
theorem Ledger.durable_foldl_settle_iff (attempts : List Attempt) (ledger : Ledger) :
    (attempts.foldl settle ledger).durable = ledger.durable ++ returnedStatements attempts ↔
      CommitsOwn ledger attempts := by
  induction attempts generalizing ledger with
  | nil => simp [returnedStatements, CommitsOwn]
  | cons attempt rest ih =>
    rw [List.foldl_cons, returnedStatements_cons, CommitsOwn, ← ih]
    cases h : attempt.returned with
    | false => simp [durable_settle_of_not_returned h]
    | true =>
      rw [settle_of_returned h]
      simp only [if_true, forall_const]
      constructor
      · intro heq
        -- Nothing is lost on the way, so the lengths leave no room for what was pending.
        have hlength := length_durable_foldl_settle rest (ledger.settle attempt)
        rw [settle_of_returned h, heq] at hlength
        simp only [List.length_append] at hlength
        have hpending : ledger.pending = [] := List.length_eq_zero_iff.1 (by omega)
        refine ⟨hpending, ?_⟩
        rw [heq, hpending]
        simp
      · rintro ⟨hpending, heq⟩
        rw [heq, hpending]
        simp

/-- An attempt that is not rolled back and does not return keeps what was pending. -/
theorem Ledger.pending_settle_of_kept (hreturned : attempt.returned = false)
    (hback : rolledBack attempt.exchanges = false) :
    (ledger.settle attempt).pending = ledger.pending ++ accepted attempt.exchanges := by
  simp [settle, hreturned, hback]

/-- What is pending stays so until it is rolled back or committed. -/
theorem Ledger.CommitsOwn.exists_rolledBack {between later : List Attempt} {back : Attempt}
    (h : CommitsOwn ledger (between ++ back :: later)) (hpending : ledger.pending ≠ [])
    (hreturned : back.returned = true) :
    ∃ attempt ∈ between, rolledBack attempt.exchanges = true := by
  induction between generalizing ledger with
  | nil => exact absurd (h.1 hreturned) hpending
  | cons attempt rest ih =>
    cases hback : rolledBack attempt.exchanges with
    | true => exact ⟨attempt, List.mem_cons_self, hback⟩
    | false =>
      have hfailed : attempt.returned = false :=
        Bool.eq_false_iff.2 fun hattempt => hpending (h.1 hattempt)
      have hkept : (ledger.settle attempt).pending ≠ [] := by
        rw [pending_settle_of_kept hfailed hback]
        exact List.append_ne_nil_of_left_ne_nil hpending _
      obtain ⟨found, hmem, hfound⟩ := ih h.2 hkept
      exact ⟨found, List.mem_cons_of_mem attempt hmem, hfound⟩

theorem Ledger.pending_settle_ne_nil (h : attempt.leavesPending = true) :
    (ledger.settle attempt).pending ≠ [] := by
  simp only [Attempt.leavesPending, Bool.and_eq_true, Bool.not_eq_true'] at h
  obtain ⟨⟨hreturned, hback⟩, haccepted⟩ := h
  rw [pending_settle_of_kept hreturned hback]
  exact List.append_ne_nil_of_right_ne_nil _ (by simpa using haccepted)

theorem recovers_of_commitsOwn (h : Ledger.CommitsOwn {} attempts) : Recovers attempts := by
  rintro earlier left between back later rfl hleft hback
  have hafter := h.of_append.2
  exact hafter.exists_rolledBack (Ledger.pending_settle_ne_nil hleft) hback

/-- Some attempt has left something pending, and none has been rolled back since. -/
def HasLeftover (attempts : List Attempt) : Prop :=
  ∃ earlier left since, attempts = earlier ++ left :: since ∧ left.leavesPending = true ∧
    ∀ attempt ∈ since, rolledBack attempt.exchanges = false

/-- What is pending after one more attempt was left by it, or was pending before. -/
theorem hasLeftover_concat {earlier : List Attempt}
    (hsource : ledger.pending ≠ [] → HasLeftover earlier)
    (hpending : (ledger.settle attempt).pending ≠ []) : HasLeftover (earlier ++ [attempt]) := by
  have hreturned : attempt.returned = false :=
    Bool.eq_false_iff.2 fun h => hpending (by rw [Ledger.settle_of_returned h])
  have hback : rolledBack attempt.exchanges = false :=
    Bool.eq_false_iff.2 fun h => hpending (by simp [Ledger.settle, hreturned, h])
  by_cases hbefore : ledger.pending = []
  · refine ⟨earlier, attempt, [], rfl, ?_, by simp⟩
    rw [Ledger.pending_settle_of_kept hreturned hback, hbefore, List.nil_append] at hpending
    simpa [Attempt.leavesPending, hreturned, hback] using hpending
  · obtain ⟨before, left, since, rfl, hleft, hsince⟩ := hsource hbefore
    refine ⟨before, left, since ++ [attempt], by simp, hleft, ?_⟩
    simpa [or_imp, forall_and, hback] using hsince

theorem commitsOwn_of_recovers {earlier : List Attempt} (h : Recovers (earlier ++ attempts))
    (hsource : ledger.pending ≠ [] → HasLeftover earlier) : ledger.CommitsOwn attempts := by
  induction attempts generalizing ledger earlier with
  | nil => trivial
  | cons attempt rest ih =>
    refine ⟨fun hreturned => Classical.byContradiction fun hpending => ?_,
      ih (by simpa using h) (hasLeftover_concat hsource)⟩
    obtain ⟨before, left, since, rfl, hleft, hsince⟩ := hsource hpending
    obtain ⟨found, hmem, hfound⟩ :=
      h before left since attempt rest (by simp) hleft hreturned
    rw [hsince found hmem] at hfound
    cases hfound

end Recovery

/-! ## Atomicity -/

/-- What becomes durable, over all runs: the statements of the attempts that returned and nothing
else, exactly if whatever an attempt leaves pending is rolled back before another returns. -/
theorem durable_worldAfter_eq_iff_recovers [Encoding.Codecs] (connection : Connection)
    (orders : List Order) (world : World)
    (hrollback : ∀ history, connection.answer history .rollback = none)
    (hworld : Ledger.of world.exchanges = {}) :
    (Ledger.of (Order.worldAfter connection orders world).exchanges).durable =
        returnedStatements (Order.allAttempts connection orders world) ↔
      Recovers (Order.allAttempts connection orders world) := by
  have hiff := Ledger.durable_foldl_settle_iff (Order.allAttempts connection orders world) {}
  rw [Ledger.of_worldAfter hrollback, hworld]
  rw [List.nil_append] at hiff
  rw [hiff]
  constructor
  · exact recovers_of_commitsOwn
  · intro h
    have hall : Recovers ([] ++ Order.allAttempts connection orders world) := h
    exact commitsOwn_of_recovers hall fun hpending => absurd rfl hpending

/-- A connection that refuses to close the cursor behind its first statement, and refuses one
statement whenever it is asked for it. -/
def unreliable : Connection where
  answer history call :=
    if call = .close ∧ history.length = 2 then some ⟨"cl", false⟩
    else if call = .execute "C" then some ⟨"no", false⟩
    else none

/-- What the first attempt leaves pending is rolled back by the second, so the third commits its own
statement only. -/
theorem durable_worldAfter_unreliable :
    (∀ history, unreliable.answer history .rollback = none) ∧
      (Ledger.of (Order.worldAfter unreliable
        [⟨.statements ["A"] none, {}, {}⟩, ⟨.statements ["C"] none, {}, {}⟩,
          ⟨.statements ["B"] none, {}, {}⟩] {}).exchanges).durable = ["B"] ∧
      Recovers (Order.allAttempts unreliable
        [⟨.statements ["A"] none, {}, {}⟩, ⟨.statements ["C"] none, {}, {}⟩,
          ⟨.statements ["B"] none, {}, {}⟩] {}) := by
  have hrollback : ∀ history, unreliable.answer history .rollback = none := fun _ => rfl
  have hiff := durable_worldAfter_eq_iff_recovers unreliable
    [⟨.statements ["A"] none, {}, {}⟩, ⟨.statements ["C"] none, {}, {}⟩,
      ⟨.statements ["B"] none, {}, {}⟩] {} hrollback rfl
  exact ⟨hrollback, by decide +kernel, hiff.1 (by decide +kernel)⟩

/-- The statement of a failed attempt becomes durable behind the next attempt that returns, where
the cursor of the first could not be closed. -/
theorem not_forall_durable_eq_returned :
    ¬ ∀ (connection : Connection) (orders : List Order) (world : World),
      (∀ history, connection.answer history .rollback = none) →
      Ledger.of world.exchanges = {} →
      (Ledger.of (Order.worldAfter connection orders world).exchanges).durable =
        returnedStatements (Order.allAttempts connection orders world) := by
  intro h
  have hfailed := h unreliable
    [⟨.statements ["A"] none, {}, {}⟩, ⟨.statements ["B"] none, {}, {}⟩] {} (fun _ => rfl) rfl
  revert hfailed
  decide +kernel

end ScriptReplay
