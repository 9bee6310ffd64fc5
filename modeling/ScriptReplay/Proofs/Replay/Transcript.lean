import ScriptReplay.Proofs.Replay.Outcome
import ScriptReplay.Replay.Runner

/-!
# What a replay asks of the connection

`Runner.transcript` says which requests a runner makes for a list of statements, in their order and
with their answers, without running anything:

* the statements that are not blank, up to the first that is refused;
* a rollback behind a refused statement, unless its failure aborts or the connection commits on its
  own;
* the close of the cursor;
* a commit, if no statement was refused and the cursor was closed.

`outcome_executeStatements` says that the runner does just that.
-/

namespace ScriptReplay

/-- A statement that a connection refused, and its place among the statements. -/
structure Refusal where
  index : Nat
  statement : String
  failure : Failure

/-- The requests for the execution of statements, the first of which stands at an index, and the
refusal that ended them, if one did. -/
def Connection.executions (connection : Connection) :
    List Exchange → Nat → List String → List Exchange × Option Refusal
  | _, _, [] => ([], none)
  | history, index, statement :: rest =>
    if Text.blank statement then connection.executions history (index + 1) rest
    else
      let asked := connection.ask history (.execute statement)
      match asked.failure with
      | some failure => ([asked], some ⟨index, statement, failure⟩)
      | none =>
        let later := connection.executions (history ++ [asked]) (index + 1) rest
        (asked :: later.1, later.2)

/-- The statements that are executed: those that are not blank. -/
def counted (statements : List String) : List String :=
  statements.filter fun statement => !Text.blank statement

theorem counted_cons_of_blank {statement : String} (h : Text.blank statement = true)
    (rest : List String) : counted (statement :: rest) = counted rest := by
  simp [counted, h]

theorem counted_cons_of_not_blank {statement : String} (h : Text.blank statement = false)
    (rest : List String) : counted (statement :: rest) = statement :: counted rest := by
  simp [counted, h]

/-- Statements are executed in their order, up to the first that is refused: the requests, and the
failure of the last of them, if it failed. -/
inductive Executes : List String → List Exchange → Option Failure → Prop
  | done : Executes [] [] none
  | refused (statement : String) (rest : List String) (failure : Failure) :
      Executes (statement :: rest) [⟨.execute statement, some failure⟩] (some failure)
  | accepted {rest : List String} {later : List Exchange} {refusal : Option Failure}
      (statement : String) (next : Executes rest later refusal) :
      Executes (statement :: rest) (⟨.execute statement, none⟩ :: later) refusal

/-- The statements that are not blank are executed. -/
theorem executes_executions (connection : Connection) (history : List Exchange) (index : Nat)
    (statements : List String) :
    Executes (counted statements) (connection.executions history index statements).1
      ((connection.executions history index statements).2.map Refusal.failure) := by
  induction statements generalizing history index with
  | nil => exact .done
  | cons statement rest ih =>
    unfold Connection.executions
    cases hblank : Text.blank statement with
    | true =>
      rw [counted_cons_of_blank hblank, if_pos rfl]
      exact ih history (index + 1)
    | false =>
      rw [counted_cons_of_not_blank hblank, if_neg (by simp)]
      have hasked : connection.ask history (.execute statement) =
          ⟨.execute statement, (connection.ask history (.execute statement)).failure⟩ := rfl
      cases hanswer : (connection.ask history (.execute statement)).failure with
      | some failure =>
        rw [hanswer] at hasked
        rw [hasked]
        exact .refused statement (counted rest) failure
      | none =>
        rw [hanswer] at hasked
        rw [hasked]
        exact .accepted statement (ih _ (index + 1))

namespace Executes

variable {statements : List String} {executed : List Exchange} {refusal : Option Failure}

/-- Nothing but statements is executed. -/
theorem call_eq (h : Executes statements executed refusal) {exchange : Exchange}
    (hmem : exchange ∈ executed) : ∃ statement, exchange.call = .execute statement := by
  induction h with
  | done => cases hmem
  | refused statement rest failure =>
    rw [List.mem_singleton] at hmem
    exact ⟨statement, by rw [hmem]⟩
  | accepted statement _ ih =>
    rcases List.mem_cons.1 hmem with rfl | hlater
    · exact ⟨statement, rfl⟩
    · exact ih hlater

theorem forall_failure_eq_none_iff (h : Executes statements executed refusal) :
    (∀ exchange ∈ executed, exchange.failure = none) ↔ refusal = none := by
  induction h with
  | done => simp
  | refused => simp
  | accepted statement _ ih => rw [List.forall_mem_cons, ih]; simp

end Executes

/-- What a replay asks of the connection once it has a cursor. -/
structure Transcript where
  executed : List Exchange
  refusal : Option Refusal
  undone : List Exchange
  closed : Exchange
  committed : List Exchange

/-- The requests of a replay with a cursor, in their order. -/
def Transcript.exchanges (transcript : Transcript) : List Exchange :=
  transcript.executed ++ transcript.undone ++ transcript.closed :: transcript.committed

namespace Runner

open ScriptReplay.Action

variable (runner : Runner) (path : Option String) (history : List Exchange)

/-- The request to roll back, where the connection does not commit on its own. -/
def rollbacks : List Exchange :=
  if runner.autocommit then [] else [runner.connection.ask history .rollback]

/-- The request to commit, where the connection does not commit on its own. -/
def commits : List Exchange :=
  if runner.autocommit then [] else [runner.connection.ask history .commit]

/-- The failure to roll back that is not passed over: one that aborts. -/
def rollbackAbort : Option Failure :=
  (runner.rollbacks history).findSome? fun exchange => exchange.failure.filter Failure.aborts

/-- What is asked behind a refused statement. -/
def undoing : Option Refusal → List Exchange
  | none => []
  | some refusal => if refusal.failure.aborts then [] else runner.rollbacks history

/-- The fault that a refused statement ends a replay with, where the cursor can be closed. -/
def refusalFault (refusal : Refusal) : Fault :=
  if refusal.failure.aborts then .connection refusal.failure
  else
    match runner.rollbackAbort history with
    | some failure => .connection failure
    | none =>
      .report (.failedStatement refusal.statement refusal.index path)
        (some (.failure refusal.failure))

/-- What is logged about a refused statement. -/
def refusalNotices : Option Refusal → List Log.Notice
  | none => []
  | some refusal =>
    if refusal.failure.aborts then []
    else [failureNotice refusal.index path refusal.failure]

/-- The requests of a replay of statements that has a cursor. -/
def transcript (statements : List String) : Transcript :=
  let run := runner.connection.executions history 0 statements
  let undone := runner.undoing (history ++ run.1) run.2
  let closed := runner.connection.ask (history ++ run.1 ++ undone) .close
  { executed := run.1
    refusal := run.2
    undone
    closed
    committed :=
      if run.2.isNone && closed.failure.isNone then
        runner.commits (history ++ run.1 ++ undone ++ [closed])
      else [] }

/-- How a replay of statements that has a cursor ends. -/
def verdict (statements : List String) : Except Fault Nat :=
  let transcript := runner.transcript history statements
  match transcript.closed.failure with
  | some failure => .error (.connection failure)
  | none =>
    match transcript.refusal with
    | some refusal => .error (runner.refusalFault path (history ++ transcript.executed) refusal)
    | none =>
      match transcript.committed.findSome? Exchange.failure with
      | some failure => .error (.connection failure)
      | none => .ok (counted statements).length

/-- No replay returns when a statement was refused. -/
theorem isOk_verdict_of_refused {statements : List String} {refusal : Refusal}
    (h : (runner.connection.executions history 0 statements).2 = some refusal) :
    (runner.verdict path history statements).isOk = false := by
  have hrefusal : (runner.transcript history statements).refusal = some refusal := h
  simp only [verdict, hrefusal]
  cases (runner.transcript history statements).closed.failure <;> rfl

/-! ## Executing the statements -/

section Executing

variable {runner path} (world : World)

/-- A rollback fails only by a failure that aborts. -/
theorem outcome_rollback :
    runner.rollback.outcome world =
      (match runner.rollbackAbort world.exchanges with
        | some failure => .error (.connection failure)
        | none => .ok (),
        world.exchanged (runner.rollbacks world.exchanges)) := by
  unfold rollback rollbackAbort rollbacks
  cases runner.autocommit with
  | true => simp
  | false =>
    simp only [Bool.false_eq_true, if_false, unlessAborted, outcome_tryCatch, outcome_request]
    cases hanswer : runner.connection.answer world.exchanges .rollback with
    | none => simp [Connection.ask, hanswer]
    | some failure =>
      cases haborts : failure.aborts <;>
        simp [Connection.ask, hanswer, haborts, Option.filter_some]

theorem outcome_executeStatement (index : Nat) (statement : String) :
    (runner.executeStatement path index statement).outcome world =
      let asked := runner.connection.ask world.exchanges (.execute statement)
      let after := world.exchanged [asked]
      match asked.failure with
      | none => (.ok (), after)
      | some failure =>
        let refusal : Refusal := ⟨index, statement, failure⟩
        (.error (runner.refusalFault path after.exchanges refusal),
          (after.exchanged (runner.undoing after.exchanges (some refusal))).noted
            (refusalNotices path (some refusal))) := by
  unfold executeStatement
  rw [outcome_tryCatch, outcome_request]
  simp only [Connection.ask]
  cases hanswer : runner.connection.answer world.exchanges (.execute statement) with
  | none => rfl
  | some failure =>
    cases haborts : failure.aborts with
    | true => simp [refusalFault, refusalNotices, undoing, haborts]
    | false =>
      dsimp only
      simp only [haborts, Bool.false_eq_true, if_false, outcome_bind, outcome_log, outcome_rollback]
      simp only [refusalFault, refusalNotices, undoing, haborts, Bool.false_eq_true, if_false,
        World.exchanges_noted, World.noted_exchanged]
      cases runner.rollbackAbort _ <;> rfl

theorem outcome_executeFrom (index : Nat) (statements : List String) :
    (runner.executeFrom path index statements).outcome world =
      let run := runner.connection.executions world.exchanges index statements
      let after := world.exchanged run.1
      match run.2 with
      | none => (.ok (counted statements).length, after)
      | some refusal =>
        (.error (runner.refusalFault path after.exchanges refusal),
          (after.exchanged (runner.undoing after.exchanges (some refusal))).noted
            (refusalNotices path (some refusal))) := by
  induction statements generalizing index world with
  | nil => simp [executeFrom, Connection.executions, counted]
  | cons statement rest ih =>
    unfold executeFrom Connection.executions
    cases hblank : Text.blank statement with
    | true =>
      simp only [if_true, ih, counted_cons_of_blank hblank]
    | false =>
      simp only [Bool.false_eq_true, if_false, outcome_bind, outcome_executeStatement]
      cases hanswer : (runner.connection.ask world.exchanges (.execute statement)).failure with
      | some failure => rfl
      | none =>
        simp only [ih, World.exchanges_exchanged, counted_cons_of_not_blank hblank,
          List.length_cons]
        cases (runner.connection.executions _ (index + 1) rest).2 with
        | none => simp
        | some refusal => simp

end Executing

/-! ## A whole replay -/

section Whole

variable {runner path} (world : World) (statements : List String)

/-- A replay whose cursor is refused asks for nothing more. -/
theorem outcome_executeStatements_of_refused {failure : Failure}
    (h : (runner.connection.ask world.exchanges .cursor).failure = some failure) :
    (runner.executeStatements statements path).outcome world =
      (.error (.connection failure),
        world.exchanged [runner.connection.ask world.exchanges .cursor]) := by
  have hanswer : runner.connection.answer world.exchanges .cursor = some failure := h
  unfold executeStatements
  rw [outcome_bind, outcome_request, hanswer]

theorem outcome_commit (count : Nat) :
    (if runner.autocommit = true then pure count
      else do
        request runner.connection .commit
        pure count : Action Nat).outcome world =
      (match (runner.commits world.exchanges).findSome? Exchange.failure with
        | some failure => .error (.connection failure)
        | none => .ok count,
        world.exchanged (runner.commits world.exchanges)) := by
  unfold commits
  cases runner.autocommit with
  | true => simp
  | false =>
    simp only [Bool.false_eq_true, if_false, outcome_bind, outcome_request]
    cases hanswer : runner.connection.answer world.exchanges .commit <;>
      simp [Connection.ask, hanswer]

/-- A replay that has a cursor does what its transcript says. -/
theorem outcome_executeStatements
    (h : (runner.connection.ask world.exchanges .cursor).failure = none) :
    (runner.executeStatements statements path).outcome world =
      let opened := world.exchanged [runner.connection.ask world.exchanges .cursor]
      let transcript := runner.transcript opened.exchanges statements
      (runner.verdict path opened.exchanges statements,
        (opened.exchanged transcript.exchanges).noted
          (refusalNotices path transcript.refusal)) := by
  have hanswer : runner.connection.answer world.exchanges .cursor = none := h
  unfold executeStatements
  rw [outcome_bind, outcome_request, hanswer]
  generalize world.exchanged [runner.connection.ask world.exchanges .cursor] = opened
  dsimp only
  rw [outcome_bind, outcome_tryFinally, outcome_executeFrom]
  unfold verdict transcript
  rcases runner.connection.executions opened.exchanges 0 statements with ⟨executed, refusal⟩
  cases refusal with
  | none =>
    dsimp only [undoing]
    rw [outcome_request]
    rw [World.exchanges_exchanged, World.exchanged_exchanged]
    cases hclosed : runner.connection.answer (opened.exchanges ++ executed) .close with
    | some failure =>
      simp [Transcript.exchanges, Connection.ask, refusalNotices, hclosed]
    | none =>
      dsimp only
      rw [outcome_commit]
      simp [Transcript.exchanges, Connection.ask, refusalNotices, hclosed]
  | some refusal =>
    dsimp only
    rw [outcome_request]
    simp only [World.exchanges_exchanged, World.exchanges_noted, World.exchanged_exchanged,
      World.noted_exchanged]
    generalize runner.undoing (opened.exchanges ++ executed) (some refusal) = undone
    rw [List.append_assoc]
    cases hclosed : runner.connection.answer (opened.exchanges ++ (executed ++ undone)) .close with
    | some failure =>
      simp [Transcript.exchanges, Connection.ask, hclosed]
    | none =>
      simp [Transcript.exchanges, Connection.ask, hclosed]

end Whole

end Runner

end ScriptReplay
