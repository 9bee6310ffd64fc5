import ScriptReplay.Proofs.Replay.Ledger
import ScriptReplay.Proofs.Text.Margin

/-!
# The protocol of a replay

In what order a runner makes its requests, said of the requests and their answers alone
(`Protocol`): a cursor is opened; the statements that are not blank are executed up to the first
that is refused; behind a refusal that does not abort comes a rollback; the cursor is closed; and a
commit comes last, if nothing was refused.

`executeStatements_protocol` says that every replay keeps to the protocol, whatever the connection
answers, and returns exactly if no request was refused.
-/

namespace ScriptReplay

/-- The requests that are made for statements. A rollback is asked for behind a refusal that does
not abort, a commit where nothing was refused, and neither if the connection commits on its own. -/
inductive Protocol (autocommit : Bool) (statements : List String) : List Exchange → Prop
  | unopened (failure : Failure) : Protocol autocommit statements [⟨.cursor, some failure⟩]
  | opened {executed undone committed : List Exchange} {refusal closing : Option Failure}
      (executes : Executes statements executed refusal)
      (undoes : undone.map Exchange.call =
        if refusal.any (!·.aborts) && !autocommit then [.rollback] else [])
      (commits : committed.map Exchange.call =
        if refusal.isNone && closing.isNone && !autocommit then [.commit] else []) :
      Protocol autocommit statements
        (⟨.cursor, none⟩ :: (executed ++ undone ++ ⟨.close, closing⟩ :: committed))

/-- Each request was answered as the connection answers it behind all that went before. -/
def Answered (connection : Connection) : List Exchange → List Exchange → Prop
  | _, [] => True
  | history, exchange :: rest =>
    exchange = connection.ask history exchange.call ∧
      Answered connection (history ++ [exchange]) rest

/-- The statements of which something is left without the white space around them. -/
def nonBlank (statements : List String) : List String :=
  statements.filter fun statement => Text.strip statement ≠ ""

theorem counted_eq_nonBlank (statements : List String) :
    counted statements = nonBlank statements := by
  unfold counted nonBlank
  congr 1
  funext statement
  rw [Bool.eq_iff_iff, decide_eq_true_iff, Bool.not_eq_true', ← Bool.not_eq_true, Text.blank_iff]

/-! ## What follows from the protocol -/

section Protocol

variable {autocommit : Bool} {statements : List String} {made executed : List Exchange}
  {refusal : Option Failure}

theorem Executes.not_mem_calls (h : Executes statements executed refusal) {call : Call}
    (hcall : ∀ statement, call ≠ .execute statement) : call ∉ executed.map Exchange.call := by
  intro hmem
  obtain ⟨exchange, hexchange, rfl⟩ := List.mem_map.1 hmem
  obtain ⟨statement, hstatement⟩ := h.call_eq hexchange
  exact hcall statement hstatement

section Opened

variable {undone committed : List Exchange} {closing : Option Failure}
  (executes : Executes statements executed refusal)
  (undoes : undone.map Exchange.call =
    if refusal.any (!·.aborts) && !autocommit then [.rollback] else [])
  (commits : committed.map Exchange.call =
    if refusal.isNone && closing.isNone && !autocommit then [.commit] else [])
include executes undoes commits

theorem rollback_mem_calls_iff :
    Call.rollback ∈ (⟨.cursor, none⟩ ::
        (executed ++ undone ++ ⟨.close, closing⟩ :: committed)).map Exchange.call ↔
      (refusal.any (!·.aborts) && !autocommit) = true := by
  have hexecuted : Call.rollback ∉ executed.map Exchange.call := executes.not_mem_calls (by simp)
  simp only [List.map_cons, List.map_append, List.mem_cons, List.mem_append, undoes, commits,
    List.mem_ite_nil_right, hexecuted]
  simp

theorem commit_mem_calls_iff :
    Call.commit ∈ (⟨.cursor, none⟩ ::
        (executed ++ undone ++ ⟨.close, closing⟩ :: committed)).map Exchange.call ↔
      (refusal.isNone && closing.isNone && !autocommit) = true := by
  have hexecuted : Call.commit ∉ executed.map Exchange.call := executes.not_mem_calls (by simp)
  simp only [List.map_cons, List.map_append, List.mem_cons, List.mem_append, undoes, commits,
    List.mem_ite_nil_right, hexecuted]
  simp

end Opened

/-- No replay both commits and rolls back. -/
theorem Protocol.not_commit_and_rollback (h : Protocol autocommit statements made) :
    ¬ (Call.commit ∈ made.map Exchange.call ∧ Call.rollback ∈ made.map Exchange.call) := by
  cases h with
  | unopened failure => simp
  | opened executes undoes commits =>
    rw [commit_mem_calls_iff executes undoes commits,
      rollback_mem_calls_iff executes undoes commits]
    rintro ⟨hcommit, hrollback⟩
    simp only [Bool.and_eq_true, Option.isNone_iff_eq_none] at hcommit
    rw [hcommit.1.1] at hrollback
    cases hrollback

theorem accepted_eq_nil {exchanges : List Exchange}
    (h : ∀ statement, Call.execute statement ∉ exchanges.map Exchange.call) :
    accepted exchanges = [] := by
  rw [accepted, List.filterMap_eq_nil_iff]
  rintro ⟨call, failure⟩ hmem
  have hcall := List.mem_map_of_mem (f := Exchange.call) hmem
  cases call with
  | execute statement => exact absurd hcall (h statement)
  | _ => rfl

/-- A replay commits only when it has executed all statements. -/
theorem Protocol.accepted_of_commit (h : Protocol autocommit statements made)
    (hcommit : Call.commit ∈ made.map Exchange.call) : accepted made = statements := by
  cases h with
  | unopened failure => simp at hcommit
  | @opened executed undone committed refusal closing executes undoes commits =>
    rw [commit_mem_calls_iff executes undoes commits] at hcommit
    rw [hcommit] at commits
    simp only [Bool.and_eq_true, Option.isNone_iff_eq_none] at hcommit
    obtain rfl : refusal = none := hcommit.1.1
    have hundone : undone = [] := List.map_eq_nil_iff.1 undoes
    have hrest : accepted (⟨.close, closing⟩ :: committed) = [] :=
      accepted_eq_nil fun statement => by simp [commits]
    rw [accepted_cons, accepted_append, hundone, List.append_nil, executes.accepted_eq, hrest,
      List.append_nil]
    rfl

end Protocol

/-! ## Replays keep to the protocol -/

section Answered

variable {connection : Connection}

theorem answered_append {history first second : List Exchange} :
    Answered connection history (first ++ second) ↔
      Answered connection history first ∧ Answered connection (history ++ first) second := by
  induction first generalizing history with
  | nil => simp [Answered]
  | cons exchange first ih =>
    rw [List.cons_append, Answered, Answered, ih, and_assoc, List.append_assoc]
    rfl

theorem answered_ask (connection : Connection) (history : List Exchange) (call : Call) :
    Answered connection history [connection.ask history call] := ⟨rfl, trivial⟩

theorem answered_executions (connection : Connection) (history : List Exchange) (index : Nat)
    (statements : List String) :
    Answered connection history (connection.executions history index statements).1 := by
  induction statements generalizing history index with
  | nil => trivial
  | cons statement rest ih =>
    unfold Connection.executions
    split
    · exact ih history (index + 1)
    · dsimp only
      split
      · exact answered_ask connection history _
      · exact ⟨rfl, ih _ (index + 1)⟩

end Answered

namespace Runner

variable (runner : Runner) (history : List Exchange) (statements : List String)

/-- What is asked for unless the connection commits on its own. -/
theorem calls_unless_autocommit (call : Call) :
    (if runner.autocommit then [] else [runner.connection.ask history call]).map Exchange.call =
      if runner.autocommit then [] else [call] := by
  cases runner.autocommit <;> rfl

theorem answered_unless_autocommit (call : Call) :
    Answered runner.connection history
      (if runner.autocommit then [] else [runner.connection.ask history call]) := by
  split
  · trivial
  · exact answered_ask runner.connection history call

theorem calls_undoing (refusal : Option Refusal) :
    (runner.undoing history refusal).map Exchange.call =
      if (refusal.map Refusal.failure).any (!·.aborts) && !runner.autocommit then [.rollback]
      else [] := by
  cases refusal with
  | none => rfl
  | some refusal =>
    cases haborts : refusal.failure.aborts with
    | true => simp [undoing, haborts]
    | false =>
      have hundoing : runner.undoing history (some refusal) = runner.rollbacks history := by
        simp [undoing, haborts]
      rw [hundoing]
      refine (runner.calls_unless_autocommit history .rollback).trans ?_
      cases runner.autocommit <;> simp [haborts]

theorem answered_undoing (refusal : Option Refusal) :
    Answered runner.connection history (runner.undoing history refusal) := by
  unfold undoing
  split
  · trivial
  · split
    · trivial
    · exact runner.answered_unless_autocommit history .rollback

theorem calls_committing (settled : Bool) :
    (if settled then runner.commits history else []).map Exchange.call =
      if settled && !runner.autocommit then [.commit] else [] := by
  cases settled with
  | false => rfl
  | true =>
    refine (runner.calls_unless_autocommit history .commit).trans ?_
    cases runner.autocommit <;> rfl

theorem answered_committing (settled : Bool) :
    Answered runner.connection history (if settled then runner.commits history else []) := by
  split
  · exact runner.answered_unless_autocommit history .commit
  · trivial

theorem protocol_transcript :
    Protocol runner.autocommit (counted statements)
      (⟨.cursor, none⟩ :: (runner.transcript history statements).exchanges) := by
  refine .opened (executes_executions runner.connection history 0 statements)
    (runner.calls_undoing _ _) ?_
  rw [Option.isNone_map]
  exact runner.calls_committing _ _

theorem answered_transcript :
    Answered runner.connection history (runner.transcript history statements).exchanges := by
  unfold Transcript.exchanges transcript
  rw [answered_append, answered_append]
  refine ⟨⟨answered_executions .., runner.answered_undoing ..⟩, ?_⟩
  dsimp only
  rw [← List.append_assoc]
  exact ⟨rfl, runner.answered_committing ..⟩

/-- No statement was refused where every request was answered. -/
theorem refusal_transcript_eq_none_iff :
    (runner.transcript history statements).refusal = none ↔
      ∀ exchange ∈ (runner.transcript history statements).executed, exchange.failure = none := by
  have hexecutes := executes_executions runner.connection history 0 statements
  exact (hexecutes.forall_failure_eq_none_iff.trans Option.map_eq_none_iff).symm

/-- A replay that has a cursor returns exactly if no request was refused. -/
theorem verdict_eq_ok_iff (path : Option String) (count : Nat) :
    runner.verdict path history statements = .ok count ↔
      count = (counted statements).length ∧
        ∀ exchange ∈ (runner.transcript history statements).exchanges,
          exchange.failure = none := by
  have hexecuted := runner.refusal_transcript_eq_none_iff history statements
  have hundone : (runner.transcript history statements).refusal = none →
      (runner.transcript history statements).undone = [] := by
    intro hrefusal
    exact congrArg (runner.undoing _) hrefusal
  unfold verdict Transcript.exchanges
  dsimp only
  generalize runner.transcript history statements = transcript at hexecuted hundone ⊢
  simp only [List.forall_mem_append, List.forall_mem_cons, ← hexecuted]
  cases hclosed : transcript.closed.failure with
  | some failure => simp
  | none =>
    cases hrefusal : transcript.refusal with
    | some refusal => simp
    | none =>
      rw [hundone hrefusal]
      cases hcommitted : transcript.committed.findSome? Exchange.failure with
      | some failure =>
        obtain ⟨exchange, hmem, hfailure⟩ := List.exists_of_findSome?_eq_some hcommitted
        refine iff_of_false (by simp) fun hall => ?_
        rw [hall.2.2.2 exchange hmem] at hfailure
        cases hfailure
      | none =>
        rw [List.findSome?_eq_none_iff] at hcommitted
        constructor
        · intro hcount
          cases hcount
          exact ⟨rfl, ⟨rfl, List.forall_mem_nil _⟩, rfl, hcommitted⟩
        · rintro ⟨rfl, -⟩
          rfl

end Runner

/-- Every replay keeps to the protocol, whatever the connection answers: so it never both commits
and rolls back, and commits only when it has executed all statements that are not blank. It returns
their number, exactly if no request was refused. -/
theorem executeStatements_protocol (runner : Runner) (statements : List String)
    (path : Option String) (world : World) :
    ∃ made,
      (Action.outcome (runner.executeStatements statements path) world).2.exchanges =
        world.exchanges ++ made ∧
      Answered runner.connection world.exchanges made ∧
      Protocol runner.autocommit (nonBlank statements) made ∧
      ¬ (Call.commit ∈ made.map Exchange.call ∧ Call.rollback ∈ made.map Exchange.call) ∧
      (Call.commit ∈ made.map Exchange.call → accepted made = nonBlank statements) ∧
      ∀ count,
        (Action.outcome (runner.executeStatements statements path) world).1 = .ok count ↔
          count = (nonBlank statements).length ∧ ∀ exchange ∈ made, exchange.failure = none := by
  rw [← counted_eq_nonBlank]
  cases hopened : (runner.connection.ask world.exchanges .cursor).failure with
  | some failure =>
    have hcursor : runner.connection.ask world.exchanges .cursor = ⟨.cursor, some failure⟩ :=
      congrArg (Exchange.mk .cursor) hopened
    have hprotocol : Protocol runner.autocommit (counted statements)
        [runner.connection.ask world.exchanges .cursor] := hcursor ▸ .unopened failure
    rw [Runner.outcome_executeStatements_of_refused world statements hopened]
    refine ⟨[runner.connection.ask world.exchanges .cursor], World.exchanges_exchanged ..,
      answered_ask .., hprotocol, hprotocol.not_commit_and_rollback,
      hprotocol.accepted_of_commit, fun count => ?_⟩
    simp [hopened]
  | none =>
    have hcursor : runner.connection.ask world.exchanges .cursor = ⟨.cursor, none⟩ :=
      congrArg (Exchange.mk .cursor) hopened
    rw [Runner.outcome_executeStatements world statements hopened, hcursor]
    dsimp only
    rw [World.exchanges_noted, World.exchanges_exchanged, World.exchanges_exchanged]
    have hprotocol := runner.protocol_transcript (world.exchanges ++ [⟨.cursor, none⟩]) statements
    have hanswered := runner.answered_transcript (world.exchanges ++ [⟨.cursor, none⟩]) statements
    refine ⟨_, List.append_assoc .., ⟨hcursor.symm, hanswered⟩, hprotocol,
      hprotocol.not_commit_and_rollback, hprotocol.accepted_of_commit, fun count => ?_⟩
    rw [Runner.verdict_eq_ok_iff, List.singleton_append, List.forall_mem_cons]
    simp only [true_and]

end ScriptReplay
