import PaymentsPlatform.TransformRuntime.Schema

/-!
# The two transform ledgers

`PostgresTransformLedger` is the deployed ledger and `TransformLedger` its
SQLite twin for isolated tests.  Each operation is one transaction: it returns
its row and the committed database, or raises and leaves nothing behind.

`uuid4().hex` and the application clock `now()` are arguments, so that the two
ledgers can be driven with the same generated values.  What psycopg refuses to
bind never gets here: the operations are about the texts that it takes.
-/

namespace PaymentsPlatform.TransformRuntime

open Relational

/-- A call of the ledger contract. -/
inductive LedgerCall where
  | createRun (caller key : String) (mode : ExecutionMode) (contractDigest planDigest : Digest)
      (uuid : String) (accepted : Timestamp)
  | submitBatch (runId caller key : String) (batch : ExecutionBatch) (fingerprint : Digest)
      (uuid : String) (accepted : Timestamp)
  | submitProtectedBootstrap (runId caller key : String) (operation : ProtectedBootstrapOperation)
      (uuid : String) (accepted : Timestamp)
  | queueProtectedBootstrap (executionId : String) (timestamp : Timestamp)
  | transition (executionId : String) (state : Status) (testStatus : Option TestStatus)
      (failureClass : Option String) (timestamp : Timestamp)

/-- The row a ledger call returns. -/
inductive LedgerReply where
  | run (row : TransformRun)
  | batch (row : BatchExecution)
  | bootstrap (row : ProtectedBootstrapExecution)
  deriving DecidableEq

/-! ## Admission, written alike in both ledgers -/

def admittedRun (caller key : String) (mode : ExecutionMode) (contractDigest planDigest : Digest)
    (uuid : String) (accepted : Timestamp) : TransformRun where
  transformRunId := "tr_" ++ uuid
  callerIdentity := caller
  idempotencyKey := key
  executionMode := mode
  contractDigest := contractDigest
  planDigest := planDigest
  status := .admitted
  acceptedAt := accepted
  heartbeatAt := accepted

def admittedBatch (runId caller key : String) (batch : ExecutionBatch) (fingerprint : Digest)
    (uuid : String) (accepted : Timestamp) : BatchExecution where
  batchExecutionId := "be_" ++ uuid
  transformRunId := runId
  callerIdentity := caller
  idempotencyKey := key
  batchId := batch.batchId
  authority := batch.authority
  modelFingerprint := fingerprint
  status := .admitted
  acceptedAt := accepted
  startedAt := none
  finishedAt := none
  attempt := 1
  testStatus := none
  failureClass := none
  heartbeatAt := accepted
  cancelRequested := false
  leaseOwner := none
  leaseToken := none
  leaseExpiresAt := none
  cancelRequestedAt := none
  nessieBranch := none

def admittedBootstrap (runId caller key : String) (operation : ProtectedBootstrapOperation)
    (uuid : String) (accepted : Timestamp) : ProtectedBootstrapExecution where
  bootstrapExecutionId := "be_" ++ uuid
  transformRunId := runId
  callerIdentity := caller
  idempotencyKey := key
  operationId := operation.operationId
  operationVersion := operation.version
  authority := operation.authority
  status := .admitted
  publicationState := .notStarted
  nessieBranch := "transform_" ++ runId
  acceptedAt := accepted
  startedAt := none
  finishedAt := none
  failureClass := none
  heartbeatAt := accepted
  leaseOwner := none
  leaseToken := none
  leaseExpiresAt := none
  cancelRequested := false

namespace Database

def admitRun (backend : Backend) (db : Database) (row : TransformRun) :
    Except Failure (TransformRun × Database) :=
  match db.insertRun backend row with
  | .error failure => .error failure
  | .ok inserted =>
      .ok (row, inserted.event row.transformRunId none .runAdmitted
        [("caller", .text row.callerIdentity)])

def admitBatch (backend : Backend) (db : Database) (row : BatchExecution) :
    Except Failure (BatchExecution × Database) :=
  match db.insertExecution backend row with
  | .error failure => .error failure
  | .ok inserted =>
      match inserted.insertAttempt ⟨row.batchExecutionId, row.attempt, .admitted, row.acceptedAt⟩ with
      | .error failure => .error failure
      | .ok attempted =>
          .ok (row, attempted.event row.transformRunId (some row.batchExecutionId) .batchAdmitted
            [("authority", .text row.authority.text), ("batch_id", .text row.batchId)])

def admitBootstrap (backend : Backend) (db : Database) (row : ProtectedBootstrapExecution) :
    Except Failure (ProtectedBootstrapExecution × Database) :=
  match db.insertBootstrap backend row with
  | .error failure => .error failure
  | .ok inserted =>
      .ok (row, inserted.event row.transformRunId (some row.bootstrapExecutionId)
        .protectedBootstrapAdmitted
        [("authority", .text row.authority.text), ("operation_id", .text row.operationId),
          ("operation_version", .number row.operationVersion)])

theorem admitRun_ok {backend : Backend} {db next : Database} {row out : TransformRun}
    (admitted : db.admitRun backend row = .ok (out, next)) :
    out = row ∧
      ∃ transformRuns,
        db.transformRuns.insert? (runConflict backend row) row = some transformRuns ∧
        next = { db with transformRuns }.event row.transformRunId none .runAdmitted
          [("caller", .text row.callerIdentity)] := by
  unfold admitRun insertRun at admitted
  cases inserted : db.transformRuns.insert? (runConflict backend row) row with
  | none => simp [inserted] at admitted
  | some transformRuns =>
      simp only [inserted, Except.ok.injEq, Prod.mk.injEq] at admitted
      exact ⟨admitted.1.symm, transformRuns, rfl, admitted.2.symm⟩

theorem admitRun_of_insert {backend : Backend} {db : Database} {row : TransformRun}
    {transformRuns : Table TransformRun.transformRunId}
    (inserted : db.transformRuns.insert? (runConflict backend row) row = some transformRuns) :
    db.admitRun backend row = .ok (row, { db with transformRuns }.event row.transformRunId none
      .runAdmitted [("caller", .text row.callerIdentity)]) := by
  simp only [admitRun, insertRun, inserted]

theorem admitBatch_ok {backend : Backend} {db next : Database} {row out : BatchExecution}
    (admitted : db.admitBatch backend row = .ok (out, next)) :
    out = row ∧
      ∃ batchExecutions batchAttempts,
        db.batchExecutions.insert? (executionConflict backend row) row = some batchExecutions ∧
        db.batchAttempts.insert? (fun _ => false)
          ⟨row.batchExecutionId, row.attempt, .admitted, row.acceptedAt⟩ = some batchAttempts ∧
        next = { db with batchExecutions, batchAttempts }.event row.transformRunId
          (some row.batchExecutionId) .batchAdmitted
          [("authority", .text row.authority.text), ("batch_id", .text row.batchId)] := by
  unfold admitBatch insertExecution insertAttempt at admitted
  cases inserted : db.batchExecutions.insert? (executionConflict backend row) row with
  | none => simp [inserted] at admitted
  | some batchExecutions =>
      simp only [inserted] at admitted
      cases attempted : db.batchAttempts.insert? (fun _ => false)
          ⟨row.batchExecutionId, row.attempt, .admitted, row.acceptedAt⟩ with
      | none => simp [attempted] at admitted
      | some batchAttempts =>
          simp only [attempted, Except.ok.injEq, Prod.mk.injEq] at admitted
          exact ⟨admitted.1.symm, batchExecutions, batchAttempts, rfl, rfl, admitted.2.symm⟩

theorem admitBatch_of_insert {backend : Backend} {db : Database} {row : BatchExecution}
    {batchExecutions : Table BatchExecution.batchExecutionId}
    {batchAttempts : Table BatchAttempt.key}
    (inserted : db.batchExecutions.insert? (executionConflict backend row) row =
      some batchExecutions)
    (attempted : db.batchAttempts.insert? (fun _ => false)
      ⟨row.batchExecutionId, row.attempt, .admitted, row.acceptedAt⟩ = some batchAttempts) :
    db.admitBatch backend row = .ok (row, { db with batchExecutions, batchAttempts }.event
      row.transformRunId (some row.batchExecutionId) .batchAdmitted
      [("authority", .text row.authority.text), ("batch_id", .text row.batchId)]) := by
  simp only [admitBatch, insertExecution, insertAttempt, inserted, attempted]

theorem admitBootstrap_ok {backend : Backend} {db next : Database}
    {row out : ProtectedBootstrapExecution}
    (admitted : db.admitBootstrap backend row = .ok (out, next)) :
    out = row ∧
      ∃ protectedBootstrapExecutions,
        db.protectedBootstrapExecutions.insert? (bootstrapConflict row) row =
          some protectedBootstrapExecutions ∧
        next = { db with protectedBootstrapExecutions }.event row.transformRunId
          (some row.bootstrapExecutionId) .protectedBootstrapAdmitted
          [("authority", .text row.authority.text), ("operation_id", .text row.operationId),
            ("operation_version", .number row.operationVersion)] := by
  unfold admitBootstrap insertBootstrap at admitted
  by_cases checked : bootstrapChecked backend row = true
  · rw [if_pos checked] at admitted
    cases inserted : db.protectedBootstrapExecutions.insert? (bootstrapConflict row) row with
    | none => simp [inserted] at admitted
    | some protectedBootstrapExecutions =>
        simp only [inserted, Except.ok.injEq, Prod.mk.injEq] at admitted
        exact ⟨admitted.1.symm, protectedBootstrapExecutions, rfl, admitted.2.symm⟩
  · simp [checked] at admitted

end Database

/-- The columns `transition` assigns.  `started_at` is computed from the row
that was selected before the update. -/
def transitioned (selected : BatchExecution) (state : Status) (testStatus : Option TestStatus)
    (failureClass : Option String) (timestamp : Timestamp) (row : BatchExecution) :
    BatchExecution :=
  { row with
    status := state
    startedAt := if state = .running then some timestamp else selected.startedAt
    finishedAt := if state ∈ Status.terminal then some timestamp else none
    testStatus := testStatus
    failureClass := failureClass
    heartbeatAt := timestamp }

@[simp]
theorem transitioned_status (selected row : BatchExecution) (state : Status)
    (testStatus : Option TestStatus) (failureClass : Option String) (timestamp : Timestamp) :
    (transitioned selected state testStatus failureClass timestamp row).status = state := rfl

@[simp]
theorem transitioned_batchExecutionId (selected : BatchExecution) (state : Status)
    (testStatus : Option TestStatus) (failureClass : Option String) (timestamp : Timestamp)
    (row : BatchExecution) :
    (transitioned selected state testStatus failureClass timestamp row).batchExecutionId =
      row.batchExecutionId := rfl

/-- The columns `queue_protected_bootstrap` assigns. -/
def ProtectedBootstrapExecution.queuedAt (timestamp : Timestamp)
    (row : ProtectedBootstrapExecution) : ProtectedBootstrapExecution :=
  { row with status := .queued, heartbeatAt := timestamp }

@[simp]
theorem ProtectedBootstrapExecution.queuedAt_bootstrapExecutionId (timestamp : Timestamp)
    (row : ProtectedBootstrapExecution) :
    (row.queuedAt timestamp).bootstrapExecutionId = row.bootstrapExecutionId := rfl

/-- A batch of the run that is still under way. -/
def activeExecution (runId batchId : String) (row : BatchExecution) : Bool :=
  row.transformRunId = runId ∧ row.batchId = batchId ∧ row.status ∉ Status.terminal

/-- The bootstrap branches of the two ledgers differ only in their schema. -/
def submitProtectedBootstrap (backend : Backend) (db : Database) (runId caller key : String)
    (operation : ProtectedBootstrapOperation) (uuid : String) (accepted : Timestamp) :
    Except Failure (ProtectedBootstrapExecution × Database) :=
  match db.transformRuns.lookup runId with
  | none => .error (.ledgerError "transform run not found")
  | some _ =>
      match db.protectedBootstrapExecutions.rows.find? (fun row =>
          row.callerIdentity = caller ∧ row.idempotencyKey = key) with
      | some prior =>
          if (prior.transformRunId, prior.operationId, prior.operationVersion, prior.authority) ≠
              (runId, operation.operationId, operation.version, operation.authority) then
            .error (.ledgerError "idempotency key reused with different semantics")
          else
            .ok (prior, db)
      | none =>
          if db.protectedBootstrapExecutions.rows.any (fun row =>
              row.transformRunId = runId ∧ row.operationId = operation.operationId ∧
                row.operationVersion = operation.version) then
            .error (.ledgerError "protected bootstrap was already admitted")
          else if db.succeeded runId operation.prerequisiteBatch then
            db.admitBootstrap backend (admittedBootstrap runId caller key operation uuid accepted)
          else
            .error (.ledgerError "durable bootstrap prerequisite is incomplete")

namespace PostgresTransformLedger

def createRun (db : Database) (caller key : String) (mode : ExecutionMode)
    (contractDigest planDigest : Digest) (uuid : String) (accepted : Timestamp) :
    Except Failure (TransformRun × Database) :=
  match db.transformRuns.rows.find? (fun run =>
      run.callerIdentity = caller ∧ run.idempotencyKey = key) with
  | some row =>
      if (row.executionMode, row.contractDigest, row.planDigest) ≠
          (mode, contractDigest, planDigest) then
        .error (.ledgerError "idempotency key reused with different semantics")
      else
        .ok (row, db)
  | none =>
      if db.transformRuns.rows.any (fun run => run.status ∉ Status.terminal) then
        .error (.ledgerError "one active transform run is already admitted")
      else
        db.admitRun .postgres
          (admittedRun caller key mode contractDigest planDigest uuid accepted)

def submitBatch (db : Database) (runId caller key : String) (batch : ExecutionBatch)
    (fingerprint : Digest) (uuid : String) (accepted : Timestamp) :
    Except Failure (BatchExecution × Database) :=
  match db.transformRuns.rows.find? (fun run =>
      run.transformRunId = runId ∧ run.callerIdentity = caller) with
  | none => .error (.ledgerError "transform run not found")
  | some _ =>
      match db.batchExecutions.rows.find? (fun row =>
          row.callerIdentity = caller ∧ row.idempotencyKey = key) with
      | some prior =>
          if prior.transformRunId ≠ runId ∨ prior.batchId ≠ batch.batchId ∨
              prior.modelFingerprint ≠ fingerprint then
            .error (.ledgerError "idempotency key reused with different semantics")
          else
            .ok (prior, db)
      | none =>
          match db.batchExecutions.rows.find? (activeExecution runId batch.batchId) with
          | some active => .ok (active, db)
          | none =>
              if batch.prerequisiteBatches.all (db.succeeded runId) then
                db.admitBatch .postgres
                  (admittedBatch runId caller key batch fingerprint uuid accepted)
              else
                .error (.ledgerError "durable batch prerequisite is incomplete")

def submitProtectedBootstrap (db : Database) (runId caller key : String)
    (operation : ProtectedBootstrapOperation) (uuid : String) (accepted : Timestamp) :
    Except Failure (ProtectedBootstrapExecution × Database) :=
  TransformRuntime.submitProtectedBootstrap .postgres db runId caller key operation uuid accepted

def queueProtectedBootstrap (db : Database) (executionId : String) (timestamp : Timestamp) :
    Except Failure (ProtectedBootstrapExecution × Database) :=
  let condition := fun row : ProtectedBootstrapExecution =>
    decide (row.bootstrapExecutionId = executionId ∧ row.status = .admitted)
  match db.protectedBootstrapExecutions.rows.find? condition with
  | none => .error (.ledgerError "invalid protected bootstrap state transition")
  | some row => .ok (row.queuedAt timestamp,
      db.updateBootstraps condition (ProtectedBootstrapExecution.queuedAt timestamp)
        (ProtectedBootstrapExecution.queuedAt_bootstrapExecutionId timestamp))

def transition (db : Database) (executionId : String) (state : Status)
    (testStatus : Option TestStatus) (failureClass : Option String) (timestamp : Timestamp) :
    Except Failure (BatchExecution × Database) :=
  match db.batchExecutions.lookup executionId with
  | none => .error (.ledgerError "invalid batch state transition")
  | some row =>
      if state ∉ row.status.transitions then
        .error (.ledgerError "invalid batch state transition")
      else
        let updated := (db.updateExecutions (fun stored => stored.batchExecutionId = executionId)
          (transitioned row state testStatus failureClass timestamp)
          (transitioned_batchExecutionId row state testStatus failureClass timestamp)).event
            row.transformRunId (some executionId) (.batch state)
            [("failure_class", .ofOption failureClass)]
        let closed :=
          if state ∈ Status.closing then
            updated.closeRun row.transformRunId state timestamp
              [("batch_execution_id", .text executionId), ("failure_class", .ofOption failureClass)]
          else
            updated
        .ok (transitioned row state testStatus failureClass timestamp row, closed)

def perform (db : Database) : LedgerCall → Except Failure (LedgerReply × Database)
  | .createRun caller key mode contractDigest planDigest uuid accepted =>
      (createRun db caller key mode contractDigest planDigest uuid accepted).map
        fun (row, db) => (.run row, db)
  | .submitBatch runId caller key batch fingerprint uuid accepted =>
      (submitBatch db runId caller key batch fingerprint uuid accepted).map
        fun (row, db) => (.batch row, db)
  | .submitProtectedBootstrap runId caller key operation uuid accepted =>
      (submitProtectedBootstrap db runId caller key operation uuid accepted).map
        fun (row, db) => (.bootstrap row, db)
  | .queueProtectedBootstrap executionId timestamp =>
      (queueProtectedBootstrap db executionId timestamp).map
        fun (row, db) => (.bootstrap row, db)
  | .transition executionId state testStatus failureClass timestamp =>
      (transition db executionId state testStatus failureClass timestamp).map
        fun (row, db) => (.batch row, db)

end PostgresTransformLedger

namespace TransformLedger

/-- The active check of the twin does not count `ORPHANED` as terminal. -/
def createRun (db : Database) (caller key : String) (mode : ExecutionMode)
    (contractDigest planDigest : Digest) (uuid : String) (accepted : Timestamp) :
    Except Failure (TransformRun × Database) :=
  match db.transformRuns.rows.find? (fun run =>
      run.callerIdentity = caller ∧ run.idempotencyKey = key) with
  | some row =>
      if (row.executionMode, row.contractDigest, row.planDigest) ≠
          (mode, contractDigest, planDigest) then
        .error (.ledgerError "idempotency key reused with different semantics")
      else
        .ok (row, db)
  | none =>
      if db.transformRuns.rows.any (fun run =>
          run.status ∉ [Status.succeeded, Status.failed, Status.cancelled]) then
        .error (.ledgerError "one active transform run is already admitted")
      else
        db.admitRun .sqlite
          (admittedRun caller key mode contractDigest planDigest uuid accepted)

/-- When a batch is still under way the twin selects again without the status
condition, so it returns the first row of the run and batch. -/
def submitBatch (db : Database) (runId caller key : String) (batch : ExecutionBatch)
    (fingerprint : Digest) (uuid : String) (accepted : Timestamp) :
    Except Failure (BatchExecution × Database) :=
  match db.transformRuns.rows.find? (fun run =>
      run.transformRunId = runId ∧ run.callerIdentity = caller) with
  | none => .error (.ledgerError "transform run not found")
  | some _ =>
      match db.batchExecutions.rows.find? (fun row =>
          row.callerIdentity = caller ∧ row.idempotencyKey = key) with
      | some prior =>
          if prior.transformRunId ≠ runId ∨ prior.batchId ≠ batch.batchId ∨
              prior.modelFingerprint ≠ fingerprint then
            .error (.ledgerError "idempotency key reused with different semantics")
          else
            .ok (prior, db)
      | none =>
          match db.batchExecutions.rows.find? (activeExecution runId batch.batchId) with
          | some active =>
              .ok ((db.batchExecutions.rows.find? (fun row =>
                row.transformRunId = runId ∧ row.batchId = batch.batchId)).getD active, db)
          | none =>
              if batch.prerequisiteBatches.all (db.succeeded runId) then
                db.admitBatch .sqlite
                  (admittedBatch runId caller key batch fingerprint uuid accepted)
              else
                .error (.ledgerError "durable batch prerequisite is incomplete")

def submitProtectedBootstrap (db : Database) (runId caller key : String)
    (operation : ProtectedBootstrapOperation) (uuid : String) (accepted : Timestamp) :
    Except Failure (ProtectedBootstrapExecution × Database) :=
  TransformRuntime.submitProtectedBootstrap .sqlite db runId caller key operation uuid accepted

def queueProtectedBootstrap (db : Database) (executionId : String) (timestamp : Timestamp) :
    Except Failure (ProtectedBootstrapExecution × Database) :=
  match db.protectedBootstrapExecutions.lookup executionId with
  | none => .error (.ledgerError "invalid protected bootstrap state transition")
  | some row =>
      if row.status ≠ .admitted then
        .error (.ledgerError "invalid protected bootstrap state transition")
      else
        .ok (row.queuedAt timestamp, db.updateBootstraps
          (fun stored => stored.bootstrapExecutionId = executionId)
          (ProtectedBootstrapExecution.queuedAt timestamp)
          (ProtectedBootstrapExecution.queuedAt_bootstrapExecutionId timestamp))

/-- The twin writes the `RUN_` event whether or not the run was still open. -/
def transition (db : Database) (executionId : String) (state : Status)
    (testStatus : Option TestStatus) (failureClass : Option String) (timestamp : Timestamp) :
    Except Failure (BatchExecution × Database) :=
  match db.batchExecutions.lookup executionId with
  | none => .error (.ledgerError "invalid batch state transition")
  | some row =>
      if state ∉ row.status.transitions then
        .error (.ledgerError "invalid batch state transition")
      else
        let updated := (db.updateExecutions (fun stored => stored.batchExecutionId = executionId)
          (transitioned row state testStatus failureClass timestamp)
          (transitioned_batchExecutionId row state testStatus failureClass timestamp)).event
            row.transformRunId (some executionId) (.batch state)
            [("failure_class", .ofOption failureClass)]
        let closed :=
          if state ∈ Status.closing then
            let transformRuns := updated.transformRuns.update (Database.runOpen row.transformRunId)
              (TransformRun.withStatus state timestamp)
              (TransformRun.withStatus_transformRunId state timestamp)
            { updated with transformRuns }.event row.transformRunId none (.run state)
              [("batch_execution_id", .text executionId), ("failure_class", .ofOption failureClass)]
          else
            updated
        .ok (transitioned row state testStatus failureClass timestamp row, closed)

def perform (db : Database) : LedgerCall → Except Failure (LedgerReply × Database)
  | .createRun caller key mode contractDigest planDigest uuid accepted =>
      (createRun db caller key mode contractDigest planDigest uuid accepted).map
        fun (row, db) => (.run row, db)
  | .submitBatch runId caller key batch fingerprint uuid accepted =>
      (submitBatch db runId caller key batch fingerprint uuid accepted).map
        fun (row, db) => (.batch row, db)
  | .submitProtectedBootstrap runId caller key operation uuid accepted =>
      (submitProtectedBootstrap db runId caller key operation uuid accepted).map
        fun (row, db) => (.bootstrap row, db)
  | .queueProtectedBootstrap executionId timestamp =>
      (queueProtectedBootstrap db executionId timestamp).map
        fun (row, db) => (.bootstrap row, db)
  | .transition executionId state testStatus failureClass timestamp =>
      (transition db executionId state testStatus failureClass timestamp).map
        fun (row, db) => (.batch row, db)

end TransformLedger

end PaymentsPlatform.TransformRuntime
