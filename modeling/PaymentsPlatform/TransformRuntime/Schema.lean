import PaymentsPlatform.Library.Table

/-!
# The transform control-plane database

The tables of `transform_runtime/migrations` with the columns that the ledgers
and the durable queue read or write.  `schema.sqlite.sql` declares the same
columns, so both ledgers work on the one `Database`; what differs between the
two schemas is which constraints an `INSERT` enforces (`Backend`).

Event ids and event times are generated and never read back, and the four
publication columns of migration 003 are never written: they are left out.
-/

namespace PaymentsPlatform.TransformRuntime

open Relational

/-- Microseconds since the epoch. -/
abbrev Timestamp := Int

/-- The value of `%s*interval '1 second'`. -/
def seconds (count : Int) : Timestamp := count * 1000000

/-- One vocabulary serves runs, batches, attempts and bootstraps;
`reconcileQueued` occurs on bootstraps only. -/
inductive Status where
  | admitted
  | queued
  | running
  | testing
  | succeeded
  | failed
  | cancelled
  | orphaned
  | reconcileQueued
  deriving DecidableEq, Repr

namespace Status

/-- `TERMINAL`. -/
def terminal : List Status := [succeeded, failed, cancelled, orphaned]

/-- `ACTIVE`. -/
def active : List Status := [running, testing]

/-- The statuses with which a batch closes its run. -/
def closing : List Status := [failed, cancelled, orphaned]

/-- `TRANSITIONS`. -/
def transitions : Status → List Status
  | admitted => [queued, cancelled]
  | queued => [running, cancelled, orphaned]
  | running => [testing, failed, cancelled, orphaned]
  | testing => [succeeded, failed, cancelled, orphaned]
  | _ => []

theorem terminal_of_closing {status : Status} (closes : status ∈ closing) :
    status ∈ terminal := by
  cases status <;> simp_all [closing, terminal]

theorem not_terminal_of_active {status : Status} (isActive : status ∈ active) :
    status ∉ terminal := by
  cases status <;> simp_all [active, terminal]

theorem not_terminal_of_transition {status next : Status} (allowed : next ∈ transitions status) :
    status ∉ terminal := by
  cases status <;> simp_all [transitions, terminal]

end Status

inductive TestStatus where
  | passed
  | notRun
  deriving DecidableEq, Repr

inductive ExecutionMode where
  | snapshot
  | incremental
  | cdcIncremental
  deriving DecidableEq, Repr

/-- `APPROVED_AUTHORITIES`. -/
inductive Authority where
  | mlPredictionTransform
  | ordinaryTransform
  | restrictedIdentityTransform
  deriving DecidableEq, Repr

def Authority.text : Authority → String
  | mlPredictionTransform => "ml_prediction_transform"
  | ordinaryTransform => "ordinary_transform"
  | restrictedIdentityTransform => "restricted_identity_transform"

/-- A SHA-256 hex digest, the value of a `char(64)` column. -/
structure Digest where
  hex : String
  length_eq : hex.length = 64
  deriving DecidableEq

/-- The digest of concrete runs. -/
def Digest.zero : Digest where
  hex := "0000000000000000000000000000000000000000000000000000000000000000"
  length_eq := by decide

/-- The part of an `ExecutionBatch` that admission reads. -/
structure ExecutionBatch where
  batchId : String
  authority : Authority
  prerequisiteBatches : List String
  deriving DecidableEq

/-- The part of a `ProtectedBootstrapOperation` that admission reads. -/
structure ProtectedBootstrapOperation where
  operationId : String
  version : Int
  authority : Authority
  prerequisiteBatch : String
  deriving DecidableEq

structure TransformRun where
  transformRunId : String
  callerIdentity : String
  idempotencyKey : String
  executionMode : ExecutionMode
  contractDigest : Digest
  planDigest : Digest
  status : Status
  acceptedAt : Timestamp
  heartbeatAt : Timestamp
  deriving DecidableEq

structure BatchExecution where
  batchExecutionId : String
  transformRunId : String
  callerIdentity : String
  idempotencyKey : String
  batchId : String
  authority : Authority
  modelFingerprint : Digest
  status : Status
  acceptedAt : Timestamp
  startedAt : Option Timestamp
  finishedAt : Option Timestamp
  attempt : Nat
  testStatus : Option TestStatus
  failureClass : Option String
  heartbeatAt : Timestamp
  cancelRequested : Bool
  leaseOwner : Option String
  leaseToken : Option String
  leaseExpiresAt : Option Timestamp
  cancelRequestedAt : Option Timestamp
  nessieBranch : Option String
  deriving DecidableEq

structure BatchAttempt where
  batchExecutionId : String
  attempt : Nat
  status : Status
  heartbeatAt : Timestamp
  deriving DecidableEq

/-- `UNIQUE(batch_execution_id,attempt)`. -/
def BatchAttempt.key (row : BatchAttempt) : String × Nat := (row.batchExecutionId, row.attempt)

/-- The columns that the updates of `transform_runs` assign. -/
def TransformRun.withStatus (status : Status) (now : Timestamp) (row : TransformRun) :
    TransformRun :=
  { row with status, heartbeatAt := now }

@[simp]
theorem TransformRun.withStatus_status (status : Status) (now : Timestamp) (row : TransformRun) :
    (row.withStatus status now).status = status := rfl

@[simp]
theorem TransformRun.withStatus_transformRunId (status : Status) (now : Timestamp)
    (row : TransformRun) :
    (row.withStatus status now).transformRunId = row.transformRunId := rfl

/-- The columns that the updates of `batch_attempts` assign. -/
def BatchAttempt.withStatus (status : Status) (now : Timestamp) (row : BatchAttempt) :
    BatchAttempt :=
  { row with status, heartbeatAt := now }

@[simp]
theorem BatchAttempt.withStatus_status (status : Status) (now : Timestamp) (row : BatchAttempt) :
    (row.withStatus status now).status = status := rfl

@[simp]
theorem BatchAttempt.withStatus_key (status : Status) (now : Timestamp) (row : BatchAttempt) :
    (row.withStatus status now).key = row.key := rfl

/-- `event_type`.  A batch event is named after the status reached, a run
event after it with `RUN_` in front. -/
inductive EventType where
  | runAdmitted
  | batchAdmitted
  | protectedBootstrapAdmitted
  | claimed
  | cancelRequested
  | batch (status : Status)
  | run (status : Status)
  deriving DecidableEq

inductive MetadataValue where
  | null
  | text (value : String)
  | number (value : Int)
  deriving DecidableEq

def MetadataValue.ofOption : Option String → MetadataValue
  | none => null
  | some value => text value

/-- `metadata_json`, keys in the sorted order in which it is dumped. -/
abbrev Metadata := List (String × MetadataValue)

structure ExecutionEvent where
  transformRunId : String
  batchExecutionId : Option String
  eventType : EventType
  metadata : Metadata
  deriving DecidableEq

inductive PublicationState where
  | notStarted
  | buildingStaging
  | reconciling
  | reconciliationRequired
  | published
  deriving DecidableEq, Repr

structure ProtectedBootstrapExecution where
  bootstrapExecutionId : String
  transformRunId : String
  callerIdentity : String
  idempotencyKey : String
  operationId : String
  operationVersion : Int
  authority : Authority
  status : Status
  publicationState : PublicationState
  nessieBranch : String
  acceptedAt : Timestamp
  startedAt : Option Timestamp
  finishedAt : Option Timestamp
  failureClass : Option String
  heartbeatAt : Timestamp
  leaseOwner : Option String
  leaseToken : Option String
  leaseExpiresAt : Option Timestamp
  cancelRequested : Bool
  deriving DecidableEq

@[ext]
structure Database where
  transformRuns : Table TransformRun.transformRunId
  batchExecutions : Table BatchExecution.batchExecutionId
  batchAttempts : Table BatchAttempt.key
  executionEvents : List ExecutionEvent
  protectedBootstrapExecutions : Table ProtectedBootstrapExecution.bootstrapExecutionId
  deriving DecidableEq

/-- The migrated database before the first call. -/
def Database.empty : Database := ⟨.empty, .empty, .empty, [], .empty⟩

/-- What a call raises.  A failed call is rolled back, so it carries no
database. -/
inductive Failure where
  | ledgerError (message : String)
  | durableQueueError (message : String)
  | leaseLost (message : String)
  | integrityError (table : String)
  deriving DecidableEq

/-- Whose schema an `INSERT` is checked against. -/
inductive Backend where
  | sqlite
  | postgres
  deriving DecidableEq

namespace Database

/-- `_event`. -/
def event (db : Database) (runId : String) (executionId : Option String)
    (eventType : EventType) (metadata : Metadata) : Database :=
  { db with executionEvents := db.executionEvents ++ [⟨runId, executionId, eventType, metadata⟩] }

/-- The unique constraints of `transform_runs` besides the key.  Only the
Postgres schema has the partial index `one_active_transform_run`. -/
def runConflict (backend : Backend) (row stored : TransformRun) : Bool :=
  (stored.callerIdentity = row.callerIdentity ∧ stored.idempotencyKey = row.idempotencyKey) ∨
    (backend = .postgres ∧ stored.status ∉ Status.terminal ∧ row.status ∉ Status.terminal)

/-- `INSERT INTO transform_runs`. -/
def insertRun (backend : Backend) (db : Database) (row : TransformRun) : Except Failure Database :=
  match db.transformRuns.insert? (runConflict backend row) row with
  | none => .error (.integrityError "transform_runs")
  | some transformRuns => .ok { db with transformRuns }

/-- The unique constraints of `batch_executions` besides the key.  Only the
Postgres schema has the partial index `one_active_batch`. -/
def executionConflict (backend : Backend) (row stored : BatchExecution) : Bool :=
  (stored.callerIdentity = row.callerIdentity ∧ stored.idempotencyKey = row.idempotencyKey) ∨
    (backend = .postgres ∧ stored.transformRunId = row.transformRunId ∧
      stored.batchId = row.batchId ∧ stored.status ∉ Status.terminal ∧
      row.status ∉ Status.terminal)

/-- `INSERT INTO batch_executions`. -/
def insertExecution (backend : Backend) (db : Database) (row : BatchExecution) :
    Except Failure Database :=
  match db.batchExecutions.insert? (executionConflict backend row) row with
  | none => .error (.integrityError "batch_executions")
  | some batchExecutions => .ok { db with batchExecutions }

/-- `INSERT INTO batch_attempts`. -/
def insertAttempt (db : Database) (row : BatchAttempt) : Except Failure Database :=
  match db.batchAttempts.insert? (fun _ => false) row with
  | none => .error (.integrityError "batch_attempts")
  | some batchAttempts => .ok { db with batchAttempts }

/-- The unique constraints of `protected_bootstrap_executions` besides the key. -/
def bootstrapConflict (row stored : ProtectedBootstrapExecution) : Bool :=
  (stored.callerIdentity = row.callerIdentity ∧ stored.idempotencyKey = row.idempotencyKey) ∨
    (stored.transformRunId = row.transformRunId ∧ stored.operationId = row.operationId ∧
      stored.operationVersion = row.operationVersion)

/-- The column types and `CHECK` constraints that an inserted bootstrap can fail.  The two
`CHECK`s on generated ids hold by construction. -/
def bootstrapChecked : Backend → ProtectedBootstrapExecution → Bool
  | .sqlite, row => -9223372036854775808 ≤ row.operationVersion ∧
      row.operationVersion ≤ 9223372036854775807
  | .postgres, row => 0 < row.operationVersion ∧ row.operationVersion ≤ 2147483647 ∧
      row.authority = .restrictedIdentityTransform

/-- `INSERT INTO protected_bootstrap_executions`. -/
def insertBootstrap (backend : Backend) (db : Database) (row : ProtectedBootstrapExecution) :
    Except Failure Database :=
  if bootstrapChecked backend row then
    match db.protectedBootstrapExecutions.insert? (bootstrapConflict row) row with
    | none => .error (.integrityError "protected_bootstrap_executions")
    | some protectedBootstrapExecutions => .ok { db with protectedBootstrapExecutions }
  else
    .error (.integrityError "protected_bootstrap_executions")

/-- `UPDATE batch_executions SET … WHERE …`. -/
def updateExecutions (db : Database) (condition : BatchExecution → Bool)
    (assign : BatchExecution → BatchExecution)
    (keyKept : ∀ row, (assign row).batchExecutionId = row.batchExecutionId) : Database :=
  { db with batchExecutions := db.batchExecutions.update condition assign keyKept }

/-- `UPDATE batch_attempts SET status, heartbeat_at WHERE batch_execution_id AND attempt`. -/
def updateAttempt (db : Database) (executionId : String) (attempt : Nat) (status : Status)
    (now : Timestamp) : Database :=
  { db with
    batchAttempts := db.batchAttempts.update
      (fun row => row.batchExecutionId = executionId ∧ row.attempt = attempt)
      (BatchAttempt.withStatus status now) (BatchAttempt.withStatus_key status now) }

/-- `UPDATE protected_bootstrap_executions SET … WHERE …`. -/
def updateBootstraps (db : Database) (condition : ProtectedBootstrapExecution → Bool)
    (assign : ProtectedBootstrapExecution → ProtectedBootstrapExecution)
    (keyKept : ∀ row, (assign row).bootstrapExecutionId = row.bootstrapExecutionId) :
    Database :=
  { db with
    protectedBootstrapExecutions :=
      db.protectedBootstrapExecutions.update condition assign keyKept }

/-- The run with this id, while it is not terminal. -/
def runOpen (runId : String) (run : TransformRun) : Bool :=
  run.transformRunId = runId ∧ run.status ∉ Status.terminal

/-- `UPDATE transform_runs SET status … WHERE … AND status NOT IN (terminal)
RETURNING`, followed by the `RUN_` event when a row was returned. -/
def closeRun (db : Database) (runId : String) (status : Status) (now : Timestamp)
    (metadata : Metadata) : Database :=
  if db.transformRuns.rows.any (runOpen runId) then
    let transformRuns := db.transformRuns.update (runOpen runId)
      (TransformRun.withStatus status now) (TransformRun.withStatus_transformRunId status now)
    { db with transformRuns }.event runId none (.run status) metadata
  else
    db

/-- `SELECT 1 … WHERE transform_run_id AND batch_id AND status='SUCCEEDED' AND
test_status='PASSED'`. -/
def succeeded (db : Database) (runId batchId : String) : Bool :=
  db.batchExecutions.rows.any fun row =>
    row.transformRunId = runId ∧ row.batchId = batchId ∧ row.status = .succeeded ∧
      row.testStatus = some .passed

end Database

end PaymentsPlatform.TransformRuntime
