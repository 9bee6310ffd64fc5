import ScriptReplay.Proofs.Replay.Transcript

/-!
# What is pending and what is durable

A database keeps the statements that were executed since the last commit or rollback apart from
those that were committed. Both are a function of the exchanges made so far; a request that is
refused changes neither.

* `Ledger.after_of_quiet`: without a commit or a rollback, statements only become pending.
* `Ledger.of_executeStatements`: an attempt at a list of statements makes durable what was pending
  when it returns, leaves nothing pending when it is rolled back, and else leaves pending what it
  has executed.
-/

namespace ScriptReplay

/-- The statements that wait for a commit, and those that were committed. -/
structure Ledger where
  pending : List String := []
  durable : List String := []

/-- The statements that the connection executed. -/
def accepted (exchanges : List Exchange) : List String :=
  exchanges.filterMap fun exchange =>
    match exchange with
    | ⟨.execute statement, none⟩ => some statement
    | _ => none

@[simp] theorem accepted_nil : accepted [] = [] := rfl

@[simp] theorem accepted_append (first second : List Exchange) :
    accepted (first ++ second) = accepted first ++ accepted second :=
  List.filterMap_append

theorem accepted_cons (exchange : Exchange) (rest : List Exchange) :
    accepted (exchange :: rest) = accepted [exchange] ++ accepted rest :=
  accepted_append [exchange] rest

/-- Where nothing was refused, all statements were executed. -/
theorem Executes.accepted_eq {statements : List String} {executed : List Exchange}
    (h : Executes statements executed none) : ScriptReplay.accepted executed = statements := by
  generalize hrefusal : (none : Option Failure) = refusal at h
  induction h with
  | done => rfl
  | refused => cases hrefusal
  | accepted statement _ ih =>
    rw [accepted_cons, ih hrefusal]
    rfl

/-- Whether the connection was rolled back. -/
def rolledBack (exchanges : List Exchange) : Bool :=
  exchanges.any fun exchange => exchange.call == .rollback && exchange.failure.isNone

/-- An attempt at a list of statements: the exchanges made in it, and whether it returned. -/
structure Attempt where
  statements : List String
  exchanges : List Exchange
  returned : Bool

/-- The attempt that an action makes at statements. -/
def Attempt.of (action : Action Nat) (statements : List String) (world : World) : Attempt :=
  { statements
    exchanges := (action.outcome world).2.exchanges.drop world.exchanges.length
    returned := (action.outcome world).1.isOk }

namespace Ledger

/-- The ledger after one more exchange. -/
def record (ledger : Ledger) : Exchange → Ledger
  | ⟨.execute statement, none⟩ => { ledger with pending := ledger.pending ++ [statement] }
  | ⟨.commit, none⟩ => { pending := [], durable := ledger.durable ++ ledger.pending }
  | ⟨.rollback, none⟩ => { ledger with pending := [] }
  | _ => ledger

/-- The ledger after some more exchanges. -/
def after (ledger : Ledger) (exchanges : List Exchange) : Ledger :=
  exchanges.foldl record ledger

/-- The ledger of a database that had nothing in it when the first of the exchanges was made. -/
def of (exchanges : List Exchange) : Ledger :=
  after {} exchanges

/-- The ledger after an attempt, by how the attempt ended. -/
def settle (ledger : Ledger) (attempt : Attempt) : Ledger :=
  if attempt.returned then
    { pending := []
      durable := ledger.durable ++ ledger.pending ++ counted attempt.statements }
  else if rolledBack attempt.exchanges then { ledger with pending := [] }
  else { ledger with pending := ledger.pending ++ accepted attempt.exchanges }

/-! ## Exchanges -/

section Exchanges

variable (ledger : Ledger) {exchanges : List Exchange}

theorem after_append (first second : List Exchange) :
    ledger.after (first ++ second) = (ledger.after first).after second :=
  List.foldl_append

@[simp] theorem after_nil : ledger.after [] = ledger := rfl

@[simp] theorem after_cons (exchange : Exchange) (rest : List Exchange) :
    ledger.after (exchange :: rest) = (ledger.record exchange).after rest := rfl

theorem of_append (first second : List Exchange) :
    of (first ++ second) = (of first).after second :=
  after_append {} first second

/-- An exchange that neither commits nor rolls back. -/
def Quiet (exchange : Exchange) : Prop :=
  exchange.failure = none → exchange.call ≠ .commit ∧ exchange.call ≠ .rollback

theorem record_of_quiet {exchange : Exchange} (h : Quiet exchange) :
    ledger.record exchange =
      { ledger with pending := ledger.pending ++ accepted [exchange] } := by
  rcases exchange with ⟨call, _ | failure⟩
  · obtain ⟨hcommit, hrollback⟩ := h rfl
    cases call with
    | commit => exact absurd rfl hcommit
    | rollback => exact absurd rfl hrollback
    | execute statement => rfl
    | cursor => simp [record, accepted]
    | close => simp [record, accepted]
  · simp [record, accepted]

theorem after_of_quiet (h : ∀ exchange ∈ exchanges, Quiet exchange) :
    ledger.after exchanges =
      { ledger with pending := ledger.pending ++ accepted exchanges } := by
  induction exchanges generalizing ledger with
  | nil => simp [accepted]
  | cons exchange rest ih =>
    rw [after_cons, record_of_quiet ledger (h exchange List.mem_cons_self),
      ih _ fun e he => h e (List.mem_cons_of_mem exchange he)]
    simp only [List.append_assoc, ← accepted_cons]

theorem rolledBack_of_quiet (h : ∀ exchange ∈ exchanges, Quiet exchange) :
    rolledBack exchanges = false := by
  unfold rolledBack
  rw [List.any_eq_false]
  rintro ⟨call, failure⟩ hmem hback
  simp only [Bool.and_eq_true, beq_iff_eq, Option.isNone_iff_eq_none] at hback
  exact (h _ hmem hback.2).2 hback.1

end Exchanges

/-! ## Attempts -/

/-- The three ways in which an attempt ends: it returns behind a commit, it fails behind a rollback,
or it fails with neither. -/
inductive Ending (attempt : Attempt) : Prop
  | committed (quiet : List Exchange)
      (exchanges_eq : attempt.exchanges = quiet ++ [⟨.commit, none⟩])
      (quiet_mem : ∀ exchange ∈ quiet, Quiet exchange)
      (accepted_eq : accepted quiet = counted attempt.statements)
      (returned_eq : attempt.returned = true)
  | undone (quiet : List Exchange) (closed : Option Failure)
      (exchanges_eq : attempt.exchanges = quiet ++ [⟨.rollback, none⟩, ⟨.close, closed⟩])
      (quiet_mem : ∀ exchange ∈ quiet, Quiet exchange)
      (returned_eq : attempt.returned = false)
  | leftOpen (quiet_mem : ∀ exchange ∈ attempt.exchanges, Quiet exchange)
      (returned_eq : attempt.returned = false)

namespace Ending

variable {attempt : Attempt}

/-- However an attempt ends, it settles the ledger. -/
theorem after_eq (h : Ending attempt) (ledger : Ledger) :
    ledger.after attempt.exchanges = ledger.settle attempt := by
  cases h with
  | committed quiet hexchanges hquiet haccepted hreturned =>
    rw [hexchanges, after_append, after_of_quiet ledger hquiet, haccepted]
    simp [settle, record, hreturned]
  | undone quiet closed hexchanges hquiet hreturned =>
    have hback : rolledBack attempt.exchanges = true := by simp [rolledBack, hexchanges]
    rw [hexchanges, after_append, after_of_quiet ledger hquiet]
    simp [settle, record, hreturned, hback]
  | leftOpen hquiet hreturned =>
    rw [after_of_quiet ledger hquiet]
    simp [settle, hreturned, rolledBack_of_quiet hquiet]

/-- The cursor that an attempt starts with makes no difference. -/
theorem cons_cursor {statements : List String} {exchanges : List Exchange} {returned : Bool}
    (h : Ending ⟨statements, exchanges, returned⟩) (failure : Option Failure) :
    Ending ⟨statements, ⟨.cursor, failure⟩ :: exchanges, returned⟩ := by
  have hcursor : Quiet ⟨.cursor, failure⟩ := by simp [Quiet]
  have hnothing : accepted [⟨.cursor, failure⟩] = [] := rfl
  cases h with
  | committed quiet hexchanges hquiet haccepted hreturned =>
    refine .committed (⟨.cursor, failure⟩ :: quiet) (congrArg _ hexchanges)
      (List.forall_mem_cons.2 ⟨hcursor, hquiet⟩) ?_ hreturned
    rw [accepted_cons, hnothing, List.nil_append, haccepted]
  | undone quiet closed hexchanges hquiet hreturned =>
    exact .undone (⟨.cursor, failure⟩ :: quiet) closed (congrArg _ hexchanges)
      (List.forall_mem_cons.2 ⟨hcursor, hquiet⟩) hreturned
  | leftOpen hquiet hreturned =>
    exact .leftOpen (List.forall_mem_cons.2 ⟨hcursor, hquiet⟩) hreturned

end Ending

section Attempts

variable {runner : Runner} {path : Option String}

theorem quiet_close (failure : Option Failure) : Quiet ⟨.close, failure⟩ := by
  simp [Quiet]

theorem quiet_of_refused (call : Call) (failure : Failure) : Quiet ⟨call, some failure⟩ := by
  simp [Quiet]

theorem quiet_of_executes {statements : List String} {executed : List Exchange}
    {refusal : Option Failure} (h : Executes statements executed refusal) {exchange : Exchange}
    (hmem : exchange ∈ executed) : Quiet exchange := by
  intro _
  obtain ⟨statement, hcall⟩ := h.call_eq hmem
  simp [hcall]

section Transcript

variable {history executed : List Exchange} {statements : List String}

/-- Where no statement was refused, the end is up to the close of the cursor and the commit. -/
theorem ending_of_completed (path : Option String) (hauto : runner.autocommit = false)
    (hrun : runner.connection.executions history 0 statements = (executed, none))
    (hquiet : ∀ exchange ∈ executed, Quiet exchange)
    (haccepted : accepted executed = counted statements) :
    Ending ⟨statements, (runner.transcript history statements).exchanges,
      (runner.verdict path history statements).isOk⟩ := by
  unfold Runner.verdict Runner.transcript Transcript.exchanges
  simp only [hrun, Runner.undoing, Connection.ask, List.append_nil]
  cases hclosed : runner.connection.answer (history ++ executed) .close with
  | some failure =>
    refine .leftOpen ?_ rfl
    simpa [or_imp, forall_and, quiet_close] using hquiet
  | none =>
    simp only [Runner.commits, Connection.ask, hauto]
    cases hcommit : runner.connection.answer (history ++ executed ++ [⟨.close, none⟩]) .commit with
    | some failure =>
      refine .leftOpen ?_ rfl
      simpa [or_imp, forall_and, quiet_close, quiet_of_refused] using hquiet
    | none =>
      refine .committed (executed ++ [⟨.close, none⟩]) (by simp) ?_ ?_ rfl
      · simpa [or_imp, forall_and, quiet_close] using hquiet
      · rw [accepted_append, haccepted]
        exact List.append_nil _

/-- Where a statement was refused, the end is up to the way in which it was. -/
theorem ending_of_refused (path : Option String) (hauto : runner.autocommit = false)
    (hrollback : ∀ history, runner.connection.answer history .rollback = none) {refusal : Refusal}
    (hrun : runner.connection.executions history 0 statements = (executed, some refusal))
    (hquiet : ∀ exchange ∈ executed, Quiet exchange) :
    Ending ⟨statements, (runner.transcript history statements).exchanges,
      (runner.verdict path history statements).isOk⟩ := by
  have hrefusal : (runner.connection.executions history 0 statements).2 = some refusal := by
    rw [hrun]
  have hfailed := runner.isOk_verdict_of_refused path history hrefusal
  have hexchanges : (runner.transcript history statements).exchanges =
      executed ++ runner.undoing (history ++ executed) (some refusal) ++
        [runner.connection.ask
          (history ++ executed ++ runner.undoing (history ++ executed) (some refusal)) .close] := by
    simp [Runner.transcript, Transcript.exchanges, hrun]
  cases haborts : refusal.failure.aborts with
  | true =>
    refine .leftOpen ?_ hfailed
    simpa [hexchanges, Runner.undoing, Connection.ask, haborts, or_imp, forall_and, quiet_close]
      using hquiet
  | false =>
    refine .undone executed
      (runner.connection.answer (history ++ executed ++ [⟨.rollback, none⟩]) .close) ?_ hquiet
      hfailed
    simp [hexchanges, Runner.undoing, Runner.rollbacks, Connection.ask, haborts, hrollback, hauto]

theorem ending_transcript (path : Option String) (hauto : runner.autocommit = false)
    (hrollback : ∀ history, runner.connection.answer history .rollback = none)
    (history : List Exchange) (statements : List String) :
    Ending ⟨statements, (runner.transcript history statements).exchanges,
      (runner.verdict path history statements).isOk⟩ := by
  have hexecutes := executes_executions runner.connection history 0 statements
  rcases hrun : runner.connection.executions history 0 statements with ⟨executed, _ | refusal⟩
  · rw [hrun] at hexecutes
    exact ending_of_completed path hauto hrun (fun _ => quiet_of_executes hexecutes)
      hexecutes.accepted_eq
  · rw [hrun] at hexecutes
    exact ending_of_refused path hauto hrollback hrun fun _ => quiet_of_executes hexecutes

end Transcript

/-- An attempt settles the ledger by how it ends. -/
theorem of_executeStatements (hauto : runner.autocommit = false)
    (hrollback : ∀ history, runner.connection.answer history .rollback = none)
    (statements : List String) (world : World) :
    of ((runner.executeStatements statements path).outcome world).2.exchanges =
      (of world.exchanges).settle
        (Attempt.of (runner.executeStatements statements path) statements world) := by
  unfold Attempt.of
  cases hopened : (runner.connection.ask world.exchanges .cursor).failure with
  | some failure =>
    have hending : Ending ⟨statements, [], false⟩ := .leftOpen (by simp) rfl
    rw [Runner.outcome_executeStatements_of_refused world statements hopened,
      World.exchanges_exchanged, of_append, List.drop_left]
    exact (hending.cons_cursor _).after_eq _
  | none =>
    have hending := ending_transcript path hauto hrollback
      (world.exchanges ++ [runner.connection.ask world.exchanges .cursor]) statements
    rw [Runner.outcome_executeStatements world statements hopened]
    simp only [World.exchanges_noted, World.exchanges_exchanged, List.append_assoc,
      of_append world.exchanges, List.drop_left]
    exact (hending.cons_cursor _).after_eq _

end Attempts

end Ledger

end ScriptReplay
