import ScriptReplay.Proofs.Replay.Protocol

/-!
# How a failed statement is reported

A statement that fails is to be reported as such, with its place and the failure it met. The report
is made behind a rollback, whose own failure is passed over, but before the cursor is closed: the
failure of the close takes the place of the report. So the report comes out exactly where the cursor
can be closed (`outcome_of_refusesStatement`).
-/

namespace ScriptReplay

/-- The requests for statements that are all executed. -/
def executedAll (statements : List String) : List Exchange :=
  (counted statements).map fun statement => ⟨.execute statement, none⟩

theorem executedAll_cons_of_blank {statement : String} (h : Text.blank statement = true)
    (rest : List String) : executedAll (statement :: rest) = executedAll rest := by
  rw [executedAll, counted_cons_of_blank h, executedAll]

theorem executedAll_cons_of_not_blank {statement : String} (h : Text.blank statement = false)
    (rest : List String) :
    executedAll (statement :: rest) = ⟨.execute statement, none⟩ :: executedAll rest := by
  rw [executedAll, counted_cons_of_not_blank h, List.map_cons, executedAll]

/-- The connection executes the statements before the refused one and refuses that one, when it is
asked for them behind a history. -/
structure RefusesStatement (connection : Connection) (history : List Exchange)
    (statements : List String) (refusal : Refusal) : Prop where
  statement_at : statements[refusal.index]? = some refusal.statement
  not_blank : Text.blank refusal.statement = false
  answered : Answered connection history
    (executedAll (statements.take refusal.index) ++
      [⟨.execute refusal.statement, some refusal.failure⟩])

/-- The report of a refused statement, made from the failure that it met. -/
def Refusal.report (refusal : Refusal) (path : Option String) : Fault :=
  .report (.failedStatement refusal.statement refusal.index path) (some (.failure refusal.failure))

/-! ## The executions up to the refused statement -/

/-- The executions end with the refused statement, wherever the first statement is counted to
stand. -/
theorem executions_of_answered {connection : Connection} {statement : String} {failure : Failure}
    {statements : List String} {index : Nat} (hfound : statements[index]? = some statement)
    (hblank : Text.blank statement = false) {history : List Exchange}
    (hanswered : Answered connection history
      (executedAll (statements.take index) ++ [⟨.execute statement, some failure⟩]))
    (start : Nat) :
    connection.executions history start statements =
      (executedAll (statements.take index) ++ [⟨.execute statement, some failure⟩],
        some ⟨start + index, statement, failure⟩) := by
  induction statements generalizing index history start with
  | nil => cases hfound
  | cons first rest ih =>
    unfold Connection.executions
    cases index with
    | zero =>
      obtain rfl : first = statement := by simpa using hfound
      have hasked : connection.ask history (.execute first) = ⟨.execute first, some failure⟩ :=
        hanswered.1.symm
      rw [if_neg (by simp [hblank]), hasked]
      rfl
    | succ index =>
      rw [List.getElem?_cons_succ] at hfound
      rw [List.take_succ_cons] at hanswered ⊢
      cases hfirst : Text.blank first with
      | true =>
        rw [executedAll_cons_of_blank hfirst] at hanswered ⊢
        rw [if_pos rfl, ih hfound hanswered, Nat.add_right_comm, Nat.add_assoc]
      | false =>
        rw [executedAll_cons_of_not_blank hfirst] at hanswered ⊢
        obtain ⟨hasked, hlater⟩ := hanswered
        rw [if_neg (by simp), ← hasked]
        dsimp only
        rw [ih hfound hlater, Nat.add_right_comm, Nat.add_assoc]
        rfl

theorem RefusesStatement.executions_eq {connection : Connection} {history : List Exchange}
    {statements : List String} {refusal : Refusal}
    (h : RefusesStatement connection history statements refusal) :
    connection.executions history 0 statements =
      (executedAll (statements.take refusal.index) ++
        [⟨.execute refusal.statement, some refusal.failure⟩], some refusal) := by
  rw [executions_of_answered h.statement_at h.not_blank h.answered 0, Nat.zero_add]

/-! ## The report -/

namespace Runner

open ScriptReplay.Action

variable {refusal : Refusal}

/-- A rollback is asked for behind a failure that does not abort. -/
theorem undoing_of_ordinary (runner : Runner) (history : List Exchange)
    (h : refusal.failure.aborts = false) :
    runner.undoing history (some refusal) = runner.rollbacks history := by
  simp [undoing, h]

/-- A failure that does not abort is reported, if the rollback behind it does not abort either. -/
theorem refusalFault_of_ordinary (runner : Runner) (path : Option String) (history : List Exchange)
    (h : refusal.failure.aborts = false) (hrollback : ∀ failure,
      runner.connection.answer history .rollback = some failure → failure.aborts = false) :
    runner.refusalFault path history refusal = refusal.report path := by
  have habort : runner.rollbackAbort history = none := by
    unfold rollbackAbort rollbacks
    cases runner.autocommit with
    | true => rfl
    | false =>
      cases hanswer : runner.connection.answer history .rollback with
      | none => simp [Connection.ask, hanswer]
      | some failure => simp [Connection.ask, hanswer, hrollback failure hanswer]
  simp [refusalFault, h, habort, Refusal.report]

/-- What is asked for where a statement is refused: a rollback behind the executions, and the close
of the cursor. -/
theorem transcript_of_refused (runner : Runner) {history executed : List Exchange}
    {statements : List String}
    (hrun : runner.connection.executions history 0 statements = (executed, some refusal))
    (hordinary : refusal.failure.aborts = false) :
    runner.transcript history statements =
      let undone := runner.rollbacks (history ++ executed)
      { executed, refusal := some refusal, undone
        closed := runner.connection.ask (history ++ executed ++ undone) .close
        committed := [] } := by
  unfold transcript
  rw [hrun, ← runner.undoing_of_ordinary _ hordinary]
  rfl

/-- A replay in which a statement is refused ends with the failure to close the cursor, or with the
report where it is closed. -/
theorem verdict_of_refused (runner : Runner) (path : Option String)
    {history executed : List Exchange} {statements : List String}
    (hrun : runner.connection.executions history 0 statements = (executed, some refusal))
    (hordinary : refusal.failure.aborts = false)
    (hrollback : ∀ history failure,
      runner.connection.answer history .rollback = some failure → failure.aborts = false) :
    runner.verdict path history statements =
      .error (match (runner.transcript history statements).closed.failure with
        | none => refusal.report path
        | some failure => .connection failure) := by
  have hfault : runner.refusalFault path (history ++ executed) refusal = refusal.report path :=
    runner.refusalFault_of_ordinary path _ hordinary (hrollback _)
  unfold verdict
  rw [runner.transcript_of_refused hrun hordinary]
  dsimp only [Connection.ask]
  rw [hfault]
  generalize runner.connection.answer _ Call.close = closing
  cases closing with
  | none => rfl
  | some failure => rfl

end Runner

/-- A statement that fails without aborting is rolled back, unless the connection commits on its
own, and the cursor is closed. The statement is reported, with its place and its failure, if the
cursor can be closed, whatever the rollback came to. If it cannot, the failure to close comes out
and the report is lost. -/
theorem outcome_of_refusesStatement (runner : Runner) (statements : List String)
    (path : Option String) (world : World) (refusal : Refusal)
    (hcursor : runner.connection.answer world.exchanges .cursor = none)
    (hrefused : RefusesStatement runner.connection (world.exchanges ++ [⟨.cursor, none⟩]) statements
      refusal)
    (hordinary : refusal.failure.aborts = false)
    (hrollback : ∀ history failure,
      runner.connection.answer history .rollback = some failure → failure.aborts = false) :
    ∃ undone closing,
      (Action.outcome (runner.executeStatements statements path) world).2.exchanges =
        world.exchanges ++ ⟨.cursor, none⟩ :: (executedAll (statements.take refusal.index) ++
          ⟨.execute refusal.statement, some refusal.failure⟩ :: (undone ++ [⟨.close, closing⟩])) ∧
      undone.map Exchange.call = (if runner.autocommit then [] else [.rollback]) ∧
      (Action.outcome (runner.executeStatements statements path) world).1 =
        .error (match closing with
          | none => refusal.report path
          | some failure => .connection failure) := by
  have hopened : runner.connection.ask world.exchanges .cursor = ⟨.cursor, none⟩ :=
    congrArg (Exchange.mk .cursor) hcursor
  rw [Runner.outcome_executeStatements world statements hcursor, hopened]
  dsimp only
  rw [World.exchanges_noted, World.exchanges_exchanged, World.exchanges_exchanged]
  have htranscript := runner.transcript_of_refused hrefused.executions_eq hordinary
  have hverdict := runner.verdict_of_refused path hrefused.executions_eq hordinary hrollback
  generalize runner.transcript (world.exchanges ++ [⟨.cursor, none⟩]) statements = transcript
    at htranscript hverdict ⊢
  refine ⟨transcript.undone, transcript.closed.failure, ?_, ?_, hverdict⟩
  · rw [htranscript]
    simp only [Transcript.exchanges, Connection.ask, List.append_assoc, List.cons_append,
      List.nil_append]
  · rw [htranscript]
    exact runner.calls_unless_autocommit _ .rollback

/-- A connection that is lost at a statement: it refuses the statement and whatever is asked of it
behind that, except that it may let the cursor be closed. -/
def lostAt (statement : String) (closes : Bool) : Connection where
  answer _ call :=
    if call = .execute statement ∨ call = .rollback ∨ call = .close ∧ closes = false then
      some ⟨"lost", false⟩
    else none

theorem aborts_of_lostAt {statement : String} {closes : Bool} (history : List Exchange)
    (call : Call) (failure : Failure)
    (h : (lostAt statement closes).answer history call = some failure) :
    failure.aborts = false := by
  unfold lostAt at h
  dsimp only at h
  split at h
  · cases h
    rfl
  · cases h

/-- A statement is reported with its place among all statements, blank ones too, although the
rollback behind it is refused. -/
theorem outcome_of_refusesStatement_lost :
    RefusesStatement (lostAt "B" true) [⟨.cursor, none⟩] ["A", " ", "B", "C"]
        ⟨2, "B", ⟨"lost", false⟩⟩ ∧
      (Action.outcome (Runner.executeStatements { connection := lostAt "B" true }
          ["A", " ", "B", "C"] (some "a.sql")) {}).1 =
        .error (.report (.failedStatement "B" 2 (some "a.sql"))
          (some (.failure ⟨"lost", false⟩))) := by
  have hrefuses : RefusesStatement (lostAt "B" true) [⟨.cursor, none⟩] ["A", " ", "B", "C"]
      ⟨2, "B", ⟨"lost", false⟩⟩ := ⟨rfl, by decide, rfl, rfl, trivial⟩
  obtain ⟨undone, closing, hmade, -, hends⟩ :=
    outcome_of_refusesStatement { connection := lostAt "B" true } ["A", " ", "B", "C"]
      (some "a.sql") {} ⟨2, "B", ⟨"lost", false⟩⟩ rfl hrefuses rfl
      fun history => aborts_of_lostAt history .rollback
  have hclosed : closing = none := by
    have hlast : (Action.outcome (Runner.executeStatements { connection := lostAt "B" true }
        ["A", " ", "B", "C"] (some "a.sql")) {}).2.exchanges.getLast? = some ⟨.close, none⟩ := rfl
    rw [hmade] at hlast
    simpa [List.getLast?_cons, List.getLast?_append] using hlast
  subst hclosed
  exact ⟨hrefuses, hends⟩

/-- A statement that fails is not always reported: where no failure aborts, but the cursor cannot be
closed behind it, the failure to close comes out. -/
theorem not_forall_failedStatement_reported :
    ¬ ∀ (runner : Runner) (statements : List String) (path : Option String) (world : World)
      (refusal : Refusal),
      (∀ history call failure,
        runner.connection.answer history call = some failure → failure.aborts = false) →
      runner.connection.answer world.exchanges .cursor = none →
      RefusesStatement runner.connection (world.exchanges ++ [⟨.cursor, none⟩]) statements
        refusal →
      (Action.outcome (runner.executeStatements statements path) world).1 =
        .error (refusal.report path) := by
  intro h
  have hrefuses : RefusesStatement (lostAt "A" false) [⟨.cursor, none⟩] ["A"]
      ⟨0, "A", ⟨"lost", false⟩⟩ := ⟨rfl, by decide, rfl, trivial⟩
  have hreported := h { connection := lostAt "A" false } ["A"] none {} ⟨0, "A", ⟨"lost", false⟩⟩
    aborts_of_lostAt rfl hrefuses
  have hlost : (Action.outcome (Runner.executeStatements { connection := lostAt "A" false }
      ["A"] none) {}).1 = .error (.connection ⟨"lost", false⟩) := rfl
  rw [hlost] at hreported
  cases hreported

end ScriptReplay
