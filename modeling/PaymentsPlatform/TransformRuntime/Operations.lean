import PaymentsPlatform.TransformRuntime.Board

/-!
# What each operation does to the board

One lemma for each operation on batches: when it succeeds, which row it
selected, under which guards, what it answers and which revision of the board
it makes.  No later module unfolds an operation.
-/

namespace PaymentsPlatform.TransformRuntime

open Relational PostgresDurableQueue

section Board

variable (db : Database)

theorem board_event_of_ne_run (runId : String) (executionId : Option String)
    (eventType : EventType) (metadata : Metadata) (notRun : ∀ status, eventType ≠ .run status) :
    (db.event runId executionId eventType metadata).board = db.board := by
  cases eventType with
  | run status => exact absurd rfl (notRun status)
  | _ => simp [Database.board, Database.event, ExecutionEvent.closure?]

@[simp]
theorem board_event_batch (runId : String) (executionId : Option String) (status : Status)
    (metadata : Metadata) :
    (db.event runId executionId (.batch status) metadata).board = db.board :=
  board_event_of_ne_run db _ _ _ _ (by simp)

@[simp]
theorem board_updateAttempt (executionId : String) (attempt : Nat) (status : Status)
    (now : Timestamp) :
    (db.updateAttempt executionId attempt status now).board =
      { db.board with
        attempts := db.board.attempts.update
          (fun row => row.batchExecutionId = executionId ∧ row.attempt = attempt)
          (BatchAttempt.withStatus status now) (BatchAttempt.withStatus_key status now) } := rfl

theorem board_closeRun (runId : String) (status : Status) (now : Timestamp)
    (metadata : Metadata) :
    (db.closeRun runId status now metadata).board = db.board.closeRun runId status now := by
  unfold Database.closeRun Board.closeRun
  by_cases isOpen : db.transformRuns.rows.any (Database.runOpen runId) = true
  · have boardOpen : db.board.runs.rows.any (Database.runOpen runId) = true := isOpen
    rw [if_pos isOpen, if_pos boardOpen]
    simp [Database.board, Database.event, ExecutionEvent.closure?]
  · have boardClosed : ¬ (db.board.runs.rows.any (Database.runOpen runId) = true) := isOpen
    rw [if_neg isOpen, if_neg boardClosed, Table.update_of_unmet]
    intro run stored
    simpa using fun opened => isOpen (List.any_eq_true.mpr ⟨run, stored, opened⟩)

theorem board_terminalizeParentFailure (now : Timestamp) (row : BatchExecution)
    (status : Status) (failureClass : Option String) :
    (terminalizeParentFailure db now row status failureClass).board =
      if status ∈ Status.closing then db.board.closeRun row.transformRunId status now
      else db.board := by
  unfold terminalizeParentFailure
  by_cases closes : status ∈ Status.closing
  · simp [closes, board_closeRun]
  · simp [closes]

variable {db} {condition : BatchExecution → Bool} {assign : BatchExecution → BatchExecution}
  {keyKept : ∀ row, (assign row).batchExecutionId = row.batchExecutionId} {row : BatchExecution}

theorem board_updateExecutions (stored : row ∈ db.batchExecutions) (met : condition row = true)
    (keyed : ∀ other, condition other = true → other.batchExecutionId = row.batchExecutionId)
    (now : Timestamp) :
    (db.updateExecutions condition assign keyKept).board =
      db.board.rewrite (assign row) none now := by
  simp only [Database.updateExecutions,
    Table.update_eq_replace stored met (fun other _ => keyed other)]
  rfl

theorem board_updateExecutions_attempt (stored : row ∈ db.batchExecutions)
    (met : condition row = true)
    (keyed : ∀ other, condition other = true → other.batchExecutionId = row.batchExecutionId)
    (sameAttempt : (assign row).attempt = row.attempt) (status : Status) (now : Timestamp) :
    ((db.updateExecutions condition assign keyKept).updateAttempt row.batchExecutionId
        row.attempt status now).board =
      db.board.rewrite (assign row) (some status) now := by
  rw [board_updateAttempt, board_updateExecutions stored met keyed now]
  simp only [Board.rewrite, keyKept, sameAttempt]

end Board

section Ledger

open PostgresTransformLedger

variable {db next : Database}

theorem createRun_ok {caller key uuid : String} {mode : ExecutionMode}
    {contractDigest planDigest : Digest} {accepted : Timestamp} {row : TransformRun}
    (created : createRun db caller key mode contractDigest planDigest uuid accepted =
      .ok (row, next)) :
    next = db ∨
      row = admittedRun caller key mode contractDigest planDigest uuid accepted ∧
        (∀ run ∈ db.transformRuns, run.status ∈ Status.terminal) ∧
        (∀ run ∈ db.transformRuns, run.transformRunId ≠ "tr_" ++ uuid) ∧
        next.board = db.board.admitRun row := by
  unfold createRun at created
  split at created
  next prior found =>
    split at created
    next differs => simp at created
    next same =>
      simp only [Except.ok.injEq, Prod.mk.injEq] at created
      exact .inl created.2.symm
  next fresh =>
    split at created
    next active => simp at created
    next idle =>
      obtain ⟨rfl, transformRuns, inserted, rfl⟩ := Database.admitRun_ok created
      have facts := Table.insert?_eq_some.mp inserted
      refine .inr ⟨rfl, by simpa [Table.mem_rows] using idle, facts.1, ?_⟩
      rw [board_event_of_ne_run _ _ _ _ _ (by simp)]
      simp only [Database.board, Board.admitRun, Table.push_of_insert inserted]

theorem createRun_blocked {run : TransformRun} (stored : run ∈ db.transformRuns)
    (isOpen : run.status ∉ Status.terminal) {caller key : String}
    (fresh : ∀ other ∈ db.transformRuns,
      ¬ (other.callerIdentity = caller ∧ other.idempotencyKey = key))
    (mode : ExecutionMode) (contractDigest planDigest : Digest) (uuid : String)
    (accepted : Timestamp) :
    createRun db caller key mode contractDigest planDigest uuid accepted =
      .error (.ledgerError "one active transform run is already admitted") := by
  have unused : db.transformRuns.rows.find? (fun other =>
      decide (other.callerIdentity = caller ∧ other.idempotencyKey = key)) = none :=
    List.find?_eq_none.mpr fun other otherStored => by simpa using fresh other otherStored
  have active : (db.transformRuns.rows.any fun other =>
      decide (other.status ∉ Status.terminal)) = true :=
    List.any_eq_true.mpr ⟨run, stored, decide_eq_true isOpen⟩
  unfold createRun
  rw [unused]
  exact if_pos active

theorem createRun_admits (idle : ∀ run ∈ db.transformRuns, run.status ∈ Status.terminal)
    {caller key uuid : String}
    (freshKey : ∀ run ∈ db.transformRuns,
      ¬ (run.callerIdentity = caller ∧ run.idempotencyKey = key))
    (freshId : ∀ run ∈ db.transformRuns, run.transformRunId ≠ "tr_" ++ uuid)
    (mode : ExecutionMode) (contractDigest planDigest : Digest) (accepted : Timestamp) :
    ∃ next, createRun db caller key mode contractDigest planDigest uuid accepted =
      .ok (admittedRun caller key mode contractDigest planDigest uuid accepted, next) := by
  have unused : db.transformRuns.rows.find? (fun run =>
      decide (run.callerIdentity = caller ∧ run.idempotencyKey = key)) = none :=
    List.find?_eq_none.mpr fun run stored => by simpa using freshKey run stored
  have inactive : ¬ ((db.transformRuns.rows.any fun run =>
      decide (run.status ∉ Status.terminal)) = true) := by
    simpa [Table.mem_rows] using idle
  let row := admittedRun caller key mode contractDigest planDigest uuid accepted
  have clear : ∀ run ∈ db.transformRuns, Database.runConflict .postgres row run = false :=
    fun run stored => decide_eq_false fun conflict => conflict.elim (freshKey run stored)
      fun bothOpen => bothOpen.2.1 (idle run stored)
  obtain ⟨transformRuns, inserted⟩ : ∃ transformRuns,
      db.transformRuns.insert? (Database.runConflict .postgres row) row = some transformRuns :=
    Table.insert?_isSome freshId clear
  unfold createRun
  rw [unused]
  exact ⟨_, (if_neg inactive).trans (Database.admitRun_of_insert inserted)⟩

theorem succeeded_iff_passed {runId batchId : String} :
    db.succeeded runId batchId = true ↔ db.board.Passed runId batchId := by
  constructor
  · intro passed
    obtain ⟨row, stored, met⟩ := List.any_eq_true.mp passed
    exact ⟨row, stored, of_decide_eq_true met⟩
  · rintro ⟨row, stored, met⟩
    exact List.any_eq_true.mpr ⟨row, stored, decide_eq_true met⟩

theorem submitBatch_ok {runId caller key uuid : String} {batch : ExecutionBatch}
    {fingerprint : Digest} {accepted : Timestamp} {row : BatchExecution}
    (submitted : submitBatch db runId caller key batch fingerprint uuid accepted =
      .ok (row, next)) :
    next = db ∨
      row = admittedBatch runId caller key batch fingerprint uuid accepted ∧
        (∃ run ∈ db.transformRuns, run.transformRunId = runId ∧ run.callerIdentity = caller) ∧
        (∀ stored ∈ db.batchExecutions,
          ¬ (stored.callerIdentity = caller ∧ stored.idempotencyKey = key)) ∧
        (∀ stored ∈ db.batchExecutions, stored.transformRunId = runId →
          stored.batchId = batch.batchId → stored.status ∈ Status.terminal) ∧
        (∀ prerequisite ∈ batch.prerequisiteBatches, db.board.Passed runId prerequisite) ∧
        (∀ stored ∈ db.batchExecutions, stored.batchExecutionId ≠ "be_" ++ uuid) ∧
        (∀ attempt ∈ db.batchAttempts, attempt.key ≠ ("be_" ++ uuid, 1)) ∧
        next.board = db.board.admitBatch row := by
  unfold submitBatch at submitted
  split at submitted
  next absent => simp at submitted
  next run runFound =>
    split at submitted
    next prior priorFound =>
      split at submitted
      next differs => simp at submitted
      next same =>
        simp only [Except.ok.injEq, Prod.mk.injEq] at submitted
        exact .inl submitted.2.symm
    next freshKey =>
      split at submitted
      next active activeFound =>
        simp only [Except.ok.injEq, Prod.mk.injEq] at submitted
        exact .inl submitted.2.symm
      next noneActive =>
        split at submitted
        next complete =>
          obtain ⟨rfl, batchExecutions, batchAttempts, inserted, attempted, rfl⟩ :=
            Database.admitBatch_ok submitted
          have facts := Table.insert?_eq_some.mp inserted
          have attemptFacts := Table.insert?_eq_some.mp attempted
          have runMet := List.find?_some runFound
          refine .inr ⟨rfl, ⟨run, List.mem_of_find?_eq_some runFound, by simpa using runMet⟩,
            by simpa [Table.mem_rows] using List.find?_eq_none.mp freshKey, ?_, ?_, facts.1,
            attemptFacts.1, ?_⟩
          · intro stored present sameRun sameBatch
            have notActive := List.find?_eq_none.mp noneActive stored present
            simpa [activeExecution, sameRun, sameBatch] using notActive
          · intro prerequisite listed
            exact succeeded_iff_passed.mp (List.all_eq_true.mp complete prerequisite listed)
          · rw [board_event_of_ne_run _ _ _ _ _ (by simp)]
            simp only [Database.board, Board.admitBatch, Board.firstAttempt,
              Table.push_of_insert inserted, Table.push_of_insert attempted]
        next incomplete => simp at submitted

/-- A batch with a fresh key, no active execution and complete prerequisites is admitted. -/
theorem submitBatch_admits {runId caller key uuid : String} {batch : ExecutionBatch}
    (parent : ∃ run ∈ db.transformRuns, run.transformRunId = runId ∧ run.callerIdentity = caller)
    (freshKey : ∀ row ∈ db.batchExecutions,
      ¬ (row.callerIdentity = caller ∧ row.idempotencyKey = key))
    (noneActive : ∀ row ∈ db.batchExecutions, row.transformRunId = runId →
      row.status ∈ Status.terminal)
    (passed : ∀ prerequisite ∈ batch.prerequisiteBatches,
      db.succeeded runId prerequisite = true)
    (freshId : ∀ row ∈ db.batchExecutions, row.batchExecutionId ≠ "be_" ++ uuid)
    (freshAttempt : ∀ attempt ∈ db.batchAttempts, attempt.key ≠ ("be_" ++ uuid, 1))
    (fingerprint : Digest) (accepted : Timestamp) :
    ∃ next, submitBatch db runId caller key batch fingerprint uuid accepted =
        .ok (admittedBatch runId caller key batch fingerprint uuid accepted, next) ∧
      next.board =
        db.board.admitBatch (admittedBatch runId caller key batch fingerprint uuid accepted) := by
  obtain ⟨run, runStored, sameRun, sameCaller⟩ := parent
  let row := admittedBatch runId caller key batch fingerprint uuid accepted
  have clear : ∀ stored ∈ db.batchExecutions,
      Database.executionConflict .postgres row stored = false :=
    fun stored present => decide_eq_false fun conflict => conflict.elim (freshKey stored present)
      fun bothOpen => bothOpen.2.2.2.1 (noneActive stored present bothOpen.2.1)
  obtain ⟨batchExecutions, inserted⟩ : ∃ batchExecutions,
      db.batchExecutions.insert? (Database.executionConflict .postgres row) row =
        some batchExecutions :=
    Table.insert?_isSome freshId clear
  obtain ⟨batchAttempts, attempted⟩ : ∃ batchAttempts,
      db.batchAttempts.insert? (fun _ => false) (Board.firstAttempt row) = some batchAttempts :=
    Table.insert?_isSome freshAttempt fun _ _ => rfl
  have submitted : submitBatch db runId caller key batch fingerprint uuid accepted =
      db.admitBatch .postgres row := by
    have runFound : (db.transformRuns.rows.find? fun run =>
        decide (run.transformRunId = runId ∧ run.callerIdentity = caller)).isSome := by
      rw [List.find?_isSome]
      exact ⟨run, runStored, decide_eq_true ⟨sameRun, sameCaller⟩⟩
    have keyUnused : (db.batchExecutions.rows.find? fun row =>
        decide (row.callerIdentity = caller ∧ row.idempotencyKey = key)) = none :=
      List.find?_eq_none.mpr fun stored present => by simpa using freshKey stored present
    have inactive : db.batchExecutions.rows.find? (activeExecution runId batch.batchId) = none :=
      List.find?_eq_none.mpr fun stored present active =>
        (of_decide_eq_true active).2.2 (noneActive stored present (of_decide_eq_true active).1)
    obtain ⟨found, foundRun⟩ := Option.isSome_iff_exists.mp runFound
    unfold submitBatch
    rw [foundRun, keyUnused, inactive]
    exact if_pos (List.all_eq_true.mpr passed)
  rw [submitted, Database.admitBatch_of_insert inserted attempted]
  refine ⟨_, rfl, ?_⟩
  rw [board_event_of_ne_run _ _ _ _ _ (by simp)]
  simp only [Database.board, Board.admitBatch, Table.push_of_insert inserted,
    Table.push_of_insert attempted, row]

theorem transition_ok {executionId : String} {state : Status} {testStatus : Option TestStatus}
    {failureClass : Option String} {timestamp : Timestamp} {out : BatchExecution}
    (moved : transition db executionId state testStatus failureClass timestamp = .ok (out, next)) :
    ∃ row ∈ db.batchExecutions, row.batchExecutionId = executionId ∧
      state ∈ row.status.transitions ∧
      out = transitioned row state testStatus failureClass timestamp row ∧
      next.board = db.board.revise ⟨out, none, state ∈ Status.closing, timestamp⟩ := by
  unfold transition at moved
  split at moved
  next absent => simp at moved
  next row found =>
    obtain ⟨stored, rfl⟩ := Table.lookup_eq_some.mp found
    split at moved
    next forbidden => simp at moved
    next allowed =>
      simp only [Except.ok.injEq, Prod.mk.injEq] at moved
      obtain ⟨rfl, rfl⟩ := moved
      refine ⟨row, stored, rfl, by simpa using allowed, rfl, ?_⟩
      by_cases closes : state ∈ Status.closing
      · simp only [closes, if_true, board_closeRun, board_event_batch]
        rw [board_updateExecutions stored ?met ?keyed timestamp]
        case met => simp
        case keyed => simp
        simp [Board.revise, transitioned]
      · simp only [closes, if_false, board_event_batch]
        rw [board_updateExecutions stored ?met ?keyed timestamp]
        case met => simp
        case keyed => simp
        simp [Board.revise]

end Ledger

section Queue

variable {db next : Database} {now : Timestamp} {eid worker token : String}

theorem claim_cases (db : Database) (now : Timestamp) (worker token : String)
    (leaseSeconds : Int) (locked : List String) :
    claim db now worker token leaseSeconds locked = (none, db) ∨
      ∃ row ∈ db.batchExecutions, row.status = .queued ∧ row.cancelRequested = false ∧
        row.batchExecutionId ∉ locked ∧
        (claim db now worker token leaseSeconds locked).1 =
          some (row.leasedTo worker token leaseSeconds now) ∧
        (claim db now worker token leaseSeconds locked).2.board =
          db.board.revise ⟨row.leasedTo worker token leaseSeconds now, some .running, false,
            now⟩ := by
  unfold claim
  simp only
  split
  next empty => exact .inl rfl
  next row chosen =>
    obtain ⟨stored, met⟩ := List.mem_filter.mp (firstBy_mem chosen)
    obtain ⟨isQueued, notCancelled, unlocked⟩ := of_decide_eq_true met
    split
    next absent => exact .inl rfl
    next other found =>
      have otherMet := List.find?_some found
      have otherKey := (of_decide_eq_true otherMet).1
      have same := Table.eq_of_key_eq (List.mem_of_find?_eq_some found) stored otherKey
      subst other
      refine .inr ⟨row, stored, isQueued, notCancelled, unlocked, rfl, ?_⟩
      rw [board_event_of_ne_run _ _ _ _ _ (by simp),
        board_updateExecutions_attempt stored ?met ?keyed rfl]
      case met => exact otherMet
      case keyed => exact fun _ held => (of_decide_eq_true held).1
      rfl

theorem recordNessieBranch_ok {branch out : String}
    (recorded : recordNessieBranch db now eid worker token branch = .ok (out, next)) :
    ∃ row ∈ db.batchExecutions, row.batchExecutionId = eid ∧ row.ownedBy worker token ∧
      leaseLive row.leaseExpiresAt now ∧
      next.board = db.board.revise ⟨row.onBranch branch, none, false, now⟩ := by
  unfold recordNessieBranch at recorded
  split at recorded
  next absent => simp at recorded
  next row found =>
    split at recorded
    next lost => simp at recorded
    next owned =>
      split at recorded
      next conflict => simp at recorded
      next agreed =>
        simp only at recorded
        split at recorded
        next live =>
          simp only [Except.ok.injEq, Prod.mk.injEq] at recorded
          obtain ⟨other, stored, met⟩ := List.any_eq_true.mp live
          obtain ⟨sameId, guarded⟩ := of_decide_eq_true met
          subst sameId
          refine ⟨other, stored, rfl, guarded.1, guarded.2.1, ?_⟩
          rw [← recorded.2, board_updateExecutions stored met
            (fun _ held => (of_decide_eq_true held).1) now]
          rfl
        next stale => simp at recorded

theorem heartbeat_cases (db : Database) (now : Timestamp) (eid worker token : String)
    (leaseSeconds : Int) :
    heartbeat db now eid worker token leaseSeconds = (false, db) ∨
      ∃ row ∈ db.batchExecutions, row.batchExecutionId = eid ∧ row.ownedBy worker token ∧
        leaseLive row.leaseExpiresAt now ∧
        (heartbeat db now eid worker token leaseSeconds).1 = true ∧
        (heartbeat db now eid worker token leaseSeconds).2.board =
          db.board.revise ⟨row.renewed leaseSeconds now, none, false, now⟩ := by
  unfold heartbeat
  simp only
  by_cases live : db.batchExecutions.rows.any (fun stored => decide (stored.batchExecutionId = eid ∧
      stored.ownedBy worker token ∧ leaseLive stored.leaseExpiresAt now)) = true
  · obtain ⟨row, stored, met⟩ := List.any_eq_true.mp live
    obtain ⟨sameId, guarded⟩ := of_decide_eq_true met
    subst sameId
    refine .inr ⟨row, stored, rfl, guarded.1, guarded.2, live, ?_⟩
    rw [board_updateExecutions stored ?met ?keyed now]
    case met => exact met
    case keyed => exact fun _ held => (of_decide_eq_true held).1
    rfl
  · left
    have unmet := List.any_eq_false.mp (Bool.eq_false_iff.mpr live)
    simp only [Database.updateExecutions, Bool.eq_false_iff.mpr live]
    rw [Table.update_of_unmet (fun row stored => by simpa using unmet row stored)]

theorem requestCancel_ok {out : BatchExecution}
    (requested : requestCancel db now eid = .ok (out, next)) :
    ∃ row ∈ db.batchExecutions, row.batchExecutionId = eid ∧
      ((row.status ∈ Status.terminal ∧ next = db) ∨
        (row.status ∈ [Status.admitted, Status.queued] ∧
          next.board = db.board.revise ⟨row.cancelledByOperator now, none, true, now⟩) ∨
        (row.status ∉ Status.terminal ∧ row.status ∉ [Status.admitted, Status.queued] ∧
          next.board = db.board.revise ⟨row.flagged now, none, false, now⟩)) := by
  unfold requestCancel at requested
  split at requested
  next absent => simp at requested
  next row found =>
    obtain ⟨stored, rfl⟩ := Table.lookup_eq_some.mp found
    refine ⟨row, stored, rfl, ?_⟩
    split at requested
    next ended =>
      simp only [Except.ok.injEq, Prod.mk.injEq] at requested
      exact .inl ⟨ended, requested.2.symm⟩
    next isOpen =>
      split at requested
      next waiting =>
        simp only [Except.ok.injEq, Prod.mk.injEq] at requested
        refine .inr (.inl ⟨waiting, ?_⟩)
        rw [← requested.2, board_terminalizeParentFailure, board_event_batch,
          board_updateExecutions stored ?met ?keyed now]
        case met => simp
        case keyed => simp
        rfl
      next underWay =>
        simp only [Except.ok.injEq, Prod.mk.injEq] at requested
        refine .inr (.inr ⟨isOpen, underWay, ?_⟩)
        rw [← requested.2, board_event_of_ne_run _ _ _ _ _ (by simp),
          board_updateExecutions stored ?met ?keyed now]
        case met => simp
        case keyed => simp
        rfl

theorem finish_ok {status : Status} {testStatus : Option TestStatus}
    {failureClass : Option String} {out : BatchExecution}
    (finished : finish db now eid worker token status testStatus failureClass =
      .ok (out, next)) :
    ∃ row ∈ db.batchExecutions, row.batchExecutionId = eid ∧ status ∈ Status.terminal ∧
      row.ownedBy worker token ∧ leaseLive row.leaseExpiresAt now ∧
      next.board = db.board.revise ⟨row.settled status testStatus failureClass now, some status,
        status ∈ Status.closing, now⟩ := by
  unfold finish at finished
  split at finished
  next notTerminal => simp at finished
  next ends =>
    split at finished
    next absent => simp at finished
    next row found =>
      obtain ⟨stored, rfl⟩ := Table.lookup_eq_some.mp found
      split at finished
      next lost => simp at finished
      next owned =>
        simp only at finished
        split at finished
        next stale => simp at finished
        next other otherFound =>
          simp only [Except.ok.injEq, Prod.mk.injEq] at finished
          have met := List.find?_some otherFound
          obtain ⟨sameId, guarded⟩ := of_decide_eq_true met
          have same := Table.eq_of_key_eq (List.mem_of_find?_eq_some otherFound) stored sameId
          subst other
          refine ⟨row, stored, rfl, by simpa using ends, guarded.1, guarded.2, ?_⟩
          rw [← finished.2, board_terminalizeParentFailure, board_event_batch,
            board_updateExecutions_attempt stored ?met ?keyed rfl]
          case met => exact met
          case keyed => exact fun _ held => (of_decide_eq_true held).1
          simp only [Board.revise, decide_eq_true_eq]
          rfl

theorem orphanIfOwned_cases (db : Database) (now : Timestamp)
    (eid worker token failureClass : String) :
    orphanIfOwned db now eid worker token failureClass = (false, db) ∨
      ∃ row ∈ db.batchExecutions, row.batchExecutionId = eid ∧ row.ownedBy worker token ∧
        (orphanIfOwned db now eid worker token failureClass).2.board =
          db.board.revise ⟨row.orphanedWith failureClass now, some .orphaned, true, now⟩ := by
  unfold orphanIfOwned
  split
  next absent => exact .inl rfl
  next row found =>
    have stored : row ∈ db.batchExecutions := List.mem_of_find?_eq_some found
    have met := List.find?_some found
    obtain ⟨sameId, owned⟩ := of_decide_eq_true met
    subst sameId
    refine .inr ⟨row, stored, rfl, owned, ?_⟩
    rw [board_terminalizeParentFailure, board_event_batch,
      board_updateExecutions_attempt stored ?met ?keyed rfl]
    case met => simpa using ⟨owned.1, owned.2.1⟩
    case keyed => exact fun _ held => (of_decide_eq_true held).1
    rfl

theorem rejectPrerequisiteIfOwned_cases (db : Database) (now : Timestamp)
    (eid worker token failureClass : String) :
    rejectPrerequisiteIfOwned db now eid worker token failureClass = (false, db) ∨
      ∃ row ∈ db.batchExecutions, row.batchExecutionId = eid ∧ row.ownedBy worker token ∧
        (rejectPrerequisiteIfOwned db now eid worker token failureClass).2.board =
          db.board.revise ⟨row.orphanedWith failureClass now, some .orphaned, false, now⟩ := by
  unfold rejectPrerequisiteIfOwned
  split
  next absent => exact .inl rfl
  next row found =>
    have stored : row ∈ db.batchExecutions := List.mem_of_find?_eq_some found
    have met := List.find?_some found
    obtain ⟨sameId, owned⟩ := of_decide_eq_true met
    subst sameId
    refine .inr ⟨row, stored, rfl, owned, ?_⟩
    rw [board_event_batch, board_updateExecutions_attempt stored ?met ?keyed rfl]
    case met => simp
    case keyed => simp
    rfl

/-- The move by which `reconcile_expired` orphans one row. -/
def expiry (now : Timestamp) (row : BatchExecution) : Move :=
  .revise ⟨row.orphanedWith leaseExpiredFailure now, some .orphaned, true, now⟩

theorem orphanExpired_board {row : BatchExecution} (stored : row ∈ db.batchExecutions) :
    (orphanExpired now db row).board = db.board.apply (expiry now row) := by
  unfold orphanExpired
  rw [board_terminalizeParentFailure, board_event_batch,
    board_updateExecutions_attempt stored ?met ?keyed rfl]
  case met => simp
  case keyed => simp
  rfl

end Queue

section Requests

variable {db : Database} {request : Request}

theorem requestCancel_waiting {row : BatchExecution} (stored : row ∈ db.batchExecutions)
    (waiting : row.status ∈ [Status.admitted, Status.queued])
    (called : request.call = .queue (.requestCancel row.batchExecutionId)) :
    (step db request).board =
      db.board.revise ⟨row.cancelledByOperator request.now, none, true, request.now⟩ := by
  have isOpen : row.status ∉ Status.terminal :=
    (Revises.cancel called waiting).selected_open
  have found := Table.lookup_key stored
  cases requested : requestCancel db request.now row.batchExecutionId with
  | error failure => simp [requestCancel, found, isOpen, waiting] at requested
  | ok answer =>
      obtain ⟨out, next⟩ := answer
      obtain ⟨other, otherStored, sameId, cases⟩ := requestCancel_ok requested
      obtain rfl := Table.eq_of_key_eq otherStored stored sameId
      have performed : perform db request = .ok (.batch out, next) := by
        simp [perform, performQueue, called, requested, Except.map]
      rw [step_of_ok performed]
      rcases cases with ⟨ended, -⟩ | ⟨-, revised⟩ | ⟨-, underWay, -⟩
      · exact absurd ended isOpen
      · exact revised
      · exact absurd waiting underWay

theorem transition_allowed {row : BatchExecution} {state : Status}
    {testStatus : Option TestStatus} {failureClass : Option String} {timestamp : Timestamp}
    (stored : row ∈ db.batchExecutions) (allowed : state ∈ row.status.transitions)
    (called : request.call = .ledger
      (.transition row.batchExecutionId state testStatus failureClass timestamp)) :
    (step db request).board =
      db.board.revise ⟨transitioned row state testStatus failureClass timestamp row, none,
        state ∈ Status.closing, timestamp⟩ := by
  have found := Table.lookup_key stored
  cases moved : PostgresTransformLedger.transition db row.batchExecutionId state testStatus
      failureClass timestamp with
  | error failure => simp [PostgresTransformLedger.transition, found, allowed] at moved
  | ok answer =>
      obtain ⟨out, next⟩ := answer
      obtain ⟨other, otherStored, sameId, -, answered, revised⟩ := transition_ok moved
      obtain rfl := Table.eq_of_key_eq otherStored stored sameId
      have performed : perform db request = .ok (.ledger (.batch out), next) := by
        simp only [perform, PostgresTransformLedger.perform, called, moved, Except.map]
      rw [step_of_ok performed, revised, answered]

end Requests

end PaymentsPlatform.TransformRuntime
