import PaymentsPlatform.TransformRuntime.BootstrapOperations

/-!
# One contract, two ledgers

`PostgresTransformLedger` promises the externally visible contract of
`TransformLedger`.  A caller sees whether a call is accepted and the row it
returns; a reader of `execution_events` sees the sequence of events.  Driven
by the same calls on empty stores the two ledgers stay in the same state until
one of the calls that `Diverges` lists, and show the difference there.  The
operations differ on some calls (`Differs`), and psycopg refuses to bind a text
with U+0000, which SQLite stores.
-/

namespace PaymentsPlatform.TransformRuntime

open Relational

/-- Type, run and execution of an event. -/
def ExecutionEvent.signature (event : ExecutionEvent) : EventType × String × Option String :=
  (event.eventType, event.transformRunId, event.batchExecutionId)

/-- What is seen of a call: the row, unless it was rejected, and the events so far. -/
structure Observation where
  reply : Option LedgerReply
  events : List (EventType × String × Option String)
  deriving DecidableEq

/-- The row and the committed database, unless the call was rejected. -/
abbrev Outcome := Option (LedgerReply × Database)

def Outcome.committed (db : Database) (outcome : Outcome) : Database :=
  (outcome.map Prod.snd).getD db

def Outcome.observation (db : Database) (outcome : Outcome) : Observation where
  reply := outcome.map Prod.fst
  events := (outcome.committed db).executionEvents.map ExecutionEvent.signature

namespace PostgresTransformLedger

def outcome (db : Database) (call : LedgerCall) : Outcome := (perform db call).toOption

/-- The texts that a call binds to its statements, besides those that it finds stored. -/
def newTexts (db : Database) : LedgerCall → List String
  | .createRun caller key _ contractDigest planDigest uuid _ =>
      if db.transformRuns.rows.any fun run =>
          run.callerIdentity = caller ∧ run.idempotencyKey = key then []
      else [caller, key, "tr_" ++ uuid, contractDigest.hex, planDigest.hex]
  | .submitBatch runId caller key batch fingerprint uuid _ =>
      if db.batchExecutions.rows.any fun row =>
          row.callerIdentity = caller ∧ row.idempotencyKey = key then []
      else if db.batchExecutions.rows.any (activeExecution runId batch.batchId) then [key]
      else [key, batch.batchId, "be_" ++ uuid, fingerprint.hex]
  | .submitProtectedBootstrap _ caller key operation uuid _ =>
      if db.protectedBootstrapExecutions.rows.any fun row =>
          row.callerIdentity = caller ∧ row.idempotencyKey = key then []
      else [caller, key, operation.operationId, "be_" ++ uuid]
  | .queueProtectedBootstrap _ _ => []
  | .transition _ _ _ failureClass _ => failureClass.toList

/-- psycopg refuses a text with U+0000 before it sends the statement. -/
def refused (db : Database) (call : LedgerCall) : Bool :=
  (newTexts db call).any fun text => text.toList.contains (Char.ofNat 0)

/-- The outcome of a call through psycopg. -/
def sent (db : Database) (call : LedgerCall) : Outcome :=
  if refused db call then none else outcome db call

def step (db : Database) (call : LedgerCall) : Database := (sent db call).committed db

def observed (db : Database) (call : LedgerCall) : Observation := (sent db call).observation db

end PostgresTransformLedger

namespace TransformLedger

def outcome (db : Database) (call : LedgerCall) : Outcome := (perform db call).toOption

def step (db : Database) (call : LedgerCall) : Database := (outcome db call).committed db

def observed (db : Database) (call : LedgerCall) : Observation := (outcome db call).observation db

end TransformLedger

/-- Started on empty stores, the two ledgers show the same at every call. -/
def SharedContract (calls : List LedgerCall) : Prop :=
  Machine.Alike PostgresTransformLedger.step TransformLedger.step
    PostgresTransformLedger.observed TransformLedger.observed .empty .empty calls

/-- The first execution of a batch in a run. -/
def oldestExecution (db : Database) (runId batchId : String) : Option BatchExecution :=
  db.batchExecutions.rows.find? fun row => row.transformRunId = runId ∧ row.batchId = batchId

/-- The calls on which the operations differ. -/
def Differs (db : Database) : LedgerCall → Prop
  -- a new run after an orphaned one: the twin takes the orphaned run for active
  | .createRun caller key _ _ _ uuid _ =>
      (∀ run ∈ db.transformRuns, ¬ (run.callerIdentity = caller ∧ run.idempotencyKey = key)) ∧
        (∀ run ∈ db.transformRuns, run.status ∈ Status.terminal) ∧
        (∃ run ∈ db.transformRuns, run.status = .orphaned) ∧
        ∀ run ∈ db.transformRuns, run.transformRunId ≠ "tr_" ++ uuid
  -- a batch under way that ended once before: the twin returns the ended execution
  | .submitBatch runId caller key batch _ _ _ =>
      (∃ run ∈ db.transformRuns, run.transformRunId = runId ∧ run.callerIdentity = caller) ∧
        (∀ row ∈ db.batchExecutions,
          ¬ (row.callerIdentity = caller ∧ row.idempotencyKey = key)) ∧
        (∃ row ∈ db.batchExecutions, activeExecution runId batch.batchId row = true) ∧
        ∃ oldest ∈ oldestExecution db runId batch.batchId, oldest.status ∈ Status.terminal
  -- an operation that only the Postgres schema refuses
  | .submitProtectedBootstrap runId caller key operation uuid accepted =>
      (∃ run ∈ db.transformRuns, run.transformRunId = runId) ∧
        (∀ row ∈ db.protectedBootstrapExecutions,
          ¬ (row.callerIdentity = caller ∧ row.idempotencyKey = key)) ∧
        (∀ row ∈ db.protectedBootstrapExecutions, ¬ (row.transformRunId = runId ∧
          row.operationId = operation.operationId ∧ row.operationVersion = operation.version)) ∧
        db.succeeded runId operation.prerequisiteBatch = true ∧
        (∀ row ∈ db.protectedBootstrapExecutions, row.bootstrapExecutionId ≠ "be_" ++ uuid) ∧
        Database.bootstrapChecked .sqlite
          (admittedBootstrap runId caller key operation uuid accepted) = true ∧
        Database.bootstrapChecked .postgres
          (admittedBootstrap runId caller key operation uuid accepted) = false
  | .queueProtectedBootstrap _ _ => False
  -- a batch that fails in a run already closed: the twin reports the run once more
  | .transition executionId state _ _ _ =>
      ∃ row ∈ db.batchExecutions, row.batchExecutionId = executionId ∧
        state ∈ row.status.transitions ∧ state ∈ Status.closing ∧
        ∀ run ∈ db.transformRuns, Database.runOpen row.transformRunId run = false

/-- The calls that SQLite takes, whatever is new in their texts. -/
def TwinTakes (db : Database) : LedgerCall → Prop
  | .createRun _ _ _ _ _ uuid _ =>
      (∀ run ∈ db.transformRuns, run.status ∈ [Status.succeeded, Status.failed, Status.cancelled]) ∧
        ∀ run ∈ db.transformRuns, run.transformRunId ≠ "tr_" ++ uuid
  | .submitBatch runId caller _ batch _ uuid _ =>
      (∃ run ∈ db.transformRuns, run.transformRunId = runId ∧ run.callerIdentity = caller) ∧
        ((∃ row ∈ db.batchExecutions, activeExecution runId batch.batchId row = true) ∨
          batch.prerequisiteBatches.all (db.succeeded runId) = true ∧
            (∀ row ∈ db.batchExecutions, row.batchExecutionId ≠ "be_" ++ uuid) ∧
            ∀ attempt ∈ db.batchAttempts, attempt.key ≠ ("be_" ++ uuid, 1))
  | .submitProtectedBootstrap runId caller key operation uuid accepted =>
      (∃ run ∈ db.transformRuns, run.transformRunId = runId) ∧
        (∀ row ∈ db.protectedBootstrapExecutions, ¬ (row.transformRunId = runId ∧
          row.operationId = operation.operationId ∧ row.operationVersion = operation.version)) ∧
        db.succeeded runId operation.prerequisiteBatch = true ∧
        (∀ row ∈ db.protectedBootstrapExecutions, row.bootstrapExecutionId ≠ "be_" ++ uuid) ∧
        Database.bootstrapChecked .sqlite
          (admittedBootstrap runId caller key operation uuid accepted) = true
  | .queueProtectedBootstrap _ _ => False
  | .transition executionId state _ _ _ =>
      ∃ row ∈ db.batchExecutions, row.batchExecutionId = executionId ∧
        state ∈ row.status.transitions

/-- The calls on which the ledgers part. -/
def Diverges (db : Database) (call : LedgerCall) : Prop :=
  if PostgresTransformLedger.refused db call then TwinTakes db call else Differs db call

section Outcomes

variable {db : Database}

theorem toOption_map {α β : Type} (result : Except Failure α) (f : α → β) :
    (result.map f).toOption = result.toOption.map f := by
  cases result <;> rfl

theorem admitRun_alike {row : TransformRun}
    (closed : ∀ run ∈ db.transformRuns, run.status ∈ Status.terminal) :
    db.admitRun .postgres row = db.admitRun .sqlite row := by
  have inserted : db.transformRuns.insert? (Database.runConflict .postgres row) row =
      db.transformRuns.insert? (Database.runConflict .sqlite row) row := by
    refine Table.insert?_congr fun run stored => ?_
    simp [Database.runConflict, closed run stored]
  simp only [Database.admitRun, Database.insertRun, inserted]

theorem admitBatch_alike {row : BatchExecution}
    (ended : ∀ other ∈ db.batchExecutions, other.transformRunId = row.transformRunId →
      other.batchId = row.batchId → other.status ∈ Status.terminal) :
    db.admitBatch .postgres row = db.admitBatch .sqlite row := by
  have inserted : db.batchExecutions.insert? (Database.executionConflict .postgres row) row =
      db.batchExecutions.insert? (Database.executionConflict .sqlite row) row := by
    refine Table.insert?_congr fun other stored => ?_
    have alike := ended other stored
    by_cases sameRun : other.transformRunId = row.transformRunId <;>
      by_cases sameBatch : other.batchId = row.batchId <;>
        simp_all [Database.executionConflict]
  simp only [Database.admitBatch, Database.insertExecution, inserted]

theorem countsActive_iff {status : Status} :
    status ∉ [Status.succeeded, Status.failed, Status.cancelled] ↔
      status ∉ Status.terminal ∨ status = .orphaned := by
  cases status <;> simp [Status.terminal]

theorem observed_ne_of_reply {call : LedgerCall}
    (apart : (PostgresTransformLedger.outcome db call).map Prod.fst ≠
      (TransformLedger.outcome db call).map Prod.fst) :
    (PostgresTransformLedger.outcome db call).observation db ≠ TransformLedger.observed db call :=
  fun same => apart (congrArg Observation.reply same)

end Outcomes

section CreateRun

variable {db : Database} {caller key uuid : String} {mode : ExecutionMode}
  {contractDigest planDigest : Digest} {accepted : Timestamp}

theorem twin_createRun_blocked
    (fresh : ∀ run ∈ db.transformRuns,
      ¬ (run.callerIdentity = caller ∧ run.idempotencyKey = key))
    {run : TransformRun} (stored : run ∈ db.transformRuns)
    (countsActive : run.status ∉ Status.terminal ∨ run.status = .orphaned) :
    TransformLedger.createRun db caller key mode contractDigest planDigest uuid accepted =
      .error (.ledgerError "one active transform run is already admitted") := by
  have unused : db.transformRuns.rows.find? (fun other =>
      decide (other.callerIdentity = caller ∧ other.idempotencyKey = key)) = none :=
    List.find?_eq_none.mpr fun other otherStored => by simpa using fresh other otherStored
  have active : (db.transformRuns.rows.any fun other =>
      decide (other.status ∉ [Status.succeeded, Status.failed, Status.cancelled])) = true :=
    List.any_eq_true.mpr ⟨run, stored, decide_eq_true (countsActive_iff.mpr countsActive)⟩
  unfold TransformLedger.createRun
  rw [unused]
  exact if_pos active

theorem createRun_apart
    (differs : Differs db (.createRun caller key mode contractDigest planDigest uuid accepted)) :
    (PostgresTransformLedger.outcome db
        (.createRun caller key mode contractDigest planDigest uuid accepted)).observation db ≠
      TransformLedger.observed db
        (.createRun caller key mode contractDigest planDigest uuid accepted) := by
  obtain ⟨freshKey, closed, ⟨run, stored, orphaned⟩, freshId⟩ := differs
  obtain ⟨next, admitted⟩ :=
    createRun_admits closed freshKey freshId mode contractDigest planDigest accepted
  refine observed_ne_of_reply ?_
  simp only [PostgresTransformLedger.outcome, TransformLedger.outcome,
    PostgresTransformLedger.perform, TransformLedger.perform, admitted,
    twin_createRun_blocked freshKey stored (.inr orphaned)]
  exact Option.some_ne_none _

theorem createRun_alike
    (agrees : ¬ Differs db
      (.createRun caller key mode contractDigest planDigest uuid accepted)) :
    (PostgresTransformLedger.createRun db caller key mode contractDigest planDigest uuid
        accepted).toOption =
      (TransformLedger.createRun db caller key mode contractDigest planDigest uuid
        accepted).toOption := by
  cases prior : db.transformRuns.rows.find? (fun run =>
      run.callerIdentity = caller ∧ run.idempotencyKey = key) with
  | some row => simp only [PostgresTransformLedger.createRun, TransformLedger.createRun, prior]
  | none =>
      have freshKey : ∀ run ∈ db.transformRuns,
          ¬ (run.callerIdentity = caller ∧ run.idempotencyKey = key) := fun run stored => by
        simpa using List.find?_eq_none.mp prior run stored
      by_cases closed : ∀ run ∈ db.transformRuns, run.status ∈ Status.terminal
      · have idle : ¬ ((db.transformRuns.rows.any fun run =>
            decide (run.status ∉ Status.terminal)) = true) := by
          simpa [Table.mem_rows] using closed
        by_cases orphaned : ∃ run ∈ db.transformRuns, run.status = .orphaned
        · -- the twin refuses the run, and Postgres its id
          obtain ⟨run, stored, isOrphaned⟩ := orphaned
          rw [twin_createRun_blocked freshKey stored (.inr isOrphaned)]
          simp only [PostgresTransformLedger.createRun, prior, if_neg idle]
          cases admitted : db.admitRun .postgres
              (admittedRun caller key mode contractDigest planDigest uuid accepted) with
          | error failure => rfl
          | ok answer =>
              obtain ⟨-, runs, inserted, -⟩ := Database.admitRun_ok admitted
              have freshId := (Table.insert?_eq_some.mp inserted).1
              exact absurd ⟨freshKey, closed, ⟨run, stored, isOrphaned⟩, freshId⟩ agrees
        · have twinIdle : ¬ ((db.transformRuns.rows.any fun run =>
              decide (run.status ∉ [Status.succeeded, Status.failed, Status.cancelled])) =
                true) := by
            intro active
            obtain ⟨run, stored, met⟩ := List.any_eq_true.mp active
            rcases countsActive_iff.mp (of_decide_eq_true met) with isOpen | isOrphaned
            · exact isOpen (closed run stored)
            · exact orphaned ⟨run, stored, isOrphaned⟩
          simp only [PostgresTransformLedger.createRun, TransformLedger.createRun, prior,
            if_neg idle, if_neg twinIdle, admitRun_alike closed]
      · push Not at closed
        obtain ⟨run, stored, isOpen⟩ := closed
        rw [createRun_blocked stored isOpen freshKey,
          twin_createRun_blocked freshKey stored (.inl isOpen)]

end CreateRun

section SubmitBatch

variable {db : Database} {runId caller key uuid : String} {batch : ExecutionBatch}
  {fingerprint : Digest} {accepted : Timestamp}

theorem oldestExecution_of_active {active : BatchExecution} {batchId : String}
    (found : db.batchExecutions.rows.find? (activeExecution runId batchId) = some active) :
    ∃ oldest, oldestExecution db runId batchId = some oldest ∧
      (oldest = active ∨ oldest.status ∈ Status.terminal) := by
  have isActive := List.find?_some found
  have met := of_decide_eq_true isActive
  have some_oldest : (oldestExecution db runId batchId).isSome := by
    rw [oldestExecution, List.find?_isSome]
    exact ⟨active, List.mem_of_find?_eq_some found, decide_eq_true ⟨met.1, met.2.1⟩⟩
  obtain ⟨oldest, first⟩ := Option.isSome_iff_exists.mp some_oldest
  refine ⟨oldest, first, ?_⟩
  by_cases ended : oldest.status ∈ Status.terminal
  · exact .inr ended
  · left
    obtain ⟨oldestMet, front, back, split, earlier⟩ := List.find?_eq_some_iff_append.mp first
    obtain ⟨sameRun, sameBatch⟩ := of_decide_eq_true oldestMet
    -- nothing before the oldest is of this batch, so nothing before it is under way
    have foundOldest : db.batchExecutions.rows.find? (activeExecution runId batchId) =
        some oldest := by
      refine List.find?_eq_some_iff_append.mpr
        ⟨decide_eq_true ⟨sameRun, sameBatch, ended⟩, front, back, split, fun row listed => ?_⟩
      have other := earlier row listed
      simp only [Bool.not_eq_true', decide_eq_false_iff_not] at other ⊢
      exact decide_eq_false fun isActive => other ⟨isActive.1, isActive.2.1⟩
    exact Option.some.inj (foundOldest.symm.trans found)

theorem submitBatch_apart
    (differs : Differs db
      (.submitBatch runId caller key batch fingerprint uuid accepted)) :
    (PostgresTransformLedger.outcome db
        (.submitBatch runId caller key batch fingerprint uuid accepted)).observation db ≠
      TransformLedger.observed db
        (.submitBatch runId caller key batch fingerprint uuid accepted) := by
  obtain ⟨⟨run, runStored, sameRun⟩, freshKey, ⟨row, stored, isActive⟩, oldest, first, ended⟩ :=
    differs
  have known : (db.transformRuns.rows.find? fun run =>
      decide (run.transformRunId = runId ∧ run.callerIdentity = caller)).isSome :=
    List.find?_isSome.mpr ⟨run, runStored, decide_eq_true sameRun⟩
  obtain ⟨run, runFound⟩ := Option.isSome_iff_exists.mp known
  have unused : db.batchExecutions.rows.find? (fun other =>
      decide (other.callerIdentity = caller ∧ other.idempotencyKey = key)) = none :=
    List.find?_eq_none.mpr fun other otherStored => by simpa using freshKey other otherStored
  have underWay : (db.batchExecutions.rows.find? (activeExecution runId batch.batchId)).isSome :=
    List.find?_isSome.mpr ⟨row, stored, isActive⟩
  obtain ⟨active, found⟩ := Option.isSome_iff_exists.mp underWay
  have activeMet := List.find?_some found
  refine observed_ne_of_reply fun same => ?_
  simp only [PostgresTransformLedger.outcome, TransformLedger.outcome,
    PostgresTransformLedger.perform, TransformLedger.perform, PostgresTransformLedger.submitBatch,
    TransformLedger.submitBatch, runFound, unused, found] at same
  injection same with same
  injection same with same
  have sameRow : active = (oldestExecution db runId batch.batchId).getD active := same
  rw [Option.mem_def.mp first, Option.getD_some] at sameRow
  exact (of_decide_eq_true activeMet).2.2 (sameRow ▸ ended)

theorem submitBatch_alike
    (agrees : ¬ Differs db
      (.submitBatch runId caller key batch fingerprint uuid accepted)) :
    PostgresTransformLedger.submitBatch db runId caller key batch fingerprint uuid accepted =
      TransformLedger.submitBatch db runId caller key batch fingerprint uuid accepted := by
  unfold PostgresTransformLedger.submitBatch TransformLedger.submitBatch
  split
  next => rfl
  next run runFound =>
    split
    next => rfl
    next freshKey =>
      split
      next active found =>
        obtain ⟨oldest, first, outcome⟩ := oldestExecution_of_active found
        rcases outcome with rfl | ended
        · unfold oldestExecution at first
          rw [first, Option.getD_some]
        · have runMet := List.find?_some runFound
          refine absurd ⟨⟨run, List.mem_of_find?_eq_some runFound, of_decide_eq_true runMet⟩,
            fun row stored => ?_, ⟨active, List.mem_of_find?_eq_some found, List.find?_some found⟩,
            oldest, first, ended⟩ agrees
          simpa using List.find?_eq_none.mp freshKey row stored
      next idle =>
        rw [admitBatch_alike fun other stored sameRun sameBatch => ?_]
        have inactive := List.find?_eq_none.mp idle other stored
        simp only [activeExecution, decide_eq_true_eq] at inactive
        by_contra isOpen
        exact inactive ⟨sameRun, sameBatch, isOpen⟩

end SubmitBatch

section Bootstrap

variable {db : Database} {runId caller key uuid : String}
  {operation : ProtectedBootstrapOperation} {accepted : Timestamp}

theorem submitProtectedBootstrap_reaches
    (known : ∃ run ∈ db.transformRuns, run.transformRunId = runId)
    (freshKey : ∀ row ∈ db.protectedBootstrapExecutions,
      ¬ (row.callerIdentity = caller ∧ row.idempotencyKey = key))
    (freshOperation : ∀ row ∈ db.protectedBootstrapExecutions, ¬ (row.transformRunId = runId ∧
      row.operationId = operation.operationId ∧ row.operationVersion = operation.version))
    (passed : db.succeeded runId operation.prerequisiteBatch = true)
    (uuid : String) (accepted : Timestamp) (backend : Backend) :
    submitProtectedBootstrap backend db runId caller key operation uuid accepted =
      db.admitBootstrap backend (admittedBootstrap runId caller key operation uuid accepted) := by
  obtain ⟨run, runStored, rfl⟩ := known
  have unused : db.protectedBootstrapExecutions.rows.find? (fun row =>
      decide (row.callerIdentity = caller ∧ row.idempotencyKey = key)) = none :=
    List.find?_eq_none.mpr fun row stored => by simpa using freshKey row stored
  have unadmitted : ¬ ((db.protectedBootstrapExecutions.rows.any fun row =>
      decide (row.transformRunId = run.transformRunId ∧
        row.operationId = operation.operationId ∧
        row.operationVersion = operation.version)) = true) := by
    rw [List.any_eq_true]
    rintro ⟨row, stored, met⟩
    exact freshOperation row stored (of_decide_eq_true met)
  simp only [submitProtectedBootstrap, Table.lookup_key runStored, unused, if_neg unadmitted, passed,
    if_true]

theorem submitProtectedBootstrap_cases (db : Database) (runId caller key : String)
    (operation : ProtectedBootstrapOperation) (uuid : String) (accepted : Timestamp) :
    (∃ answer, ∀ backend, submitProtectedBootstrap backend db runId caller key operation uuid
        accepted = answer) ∨
      ((∃ run ∈ db.transformRuns, run.transformRunId = runId) ∧
        (∀ row ∈ db.protectedBootstrapExecutions,
          ¬ (row.callerIdentity = caller ∧ row.idempotencyKey = key)) ∧
        (∀ row ∈ db.protectedBootstrapExecutions, ¬ (row.transformRunId = runId ∧
          row.operationId = operation.operationId ∧ row.operationVersion = operation.version)) ∧
        db.succeeded runId operation.prerequisiteBatch = true) := by
  unfold submitProtectedBootstrap
  split
  next => exact .inl ⟨_, fun _ => rfl⟩
  next run runFound =>
    split
    next prior priorFound => exact .inl ⟨_, fun _ => rfl⟩
    next freshKey =>
      split
      next => exact .inl ⟨_, fun _ => rfl⟩
      next freshOperation =>
        split
        next passed =>
          have freeOperation := List.any_eq_false.mp (Bool.eq_false_iff.mpr freshOperation)
          exact .inr ⟨⟨run, Table.lookup_eq_some.mp runFound⟩,
            fun row stored => by simpa using List.find?_eq_none.mp freshKey row stored,
            fun row stored => by simpa using freeOperation row stored, passed⟩
        next => exact .inl ⟨_, fun _ => rfl⟩

theorem bootstrapChecked_sqlite_of_postgres {row : ProtectedBootstrapExecution}
    (checked : Database.bootstrapChecked .postgres row = true) :
    Database.bootstrapChecked .sqlite row = true := by
  obtain ⟨positive, small, -⟩ := of_decide_eq_true checked
  exact decide_eq_true ⟨by omega, by omega⟩

theorem admitBootstrap_of_unchecked {backend : Backend} {row : ProtectedBootstrapExecution}
    (unchecked : Database.bootstrapChecked backend row = false) :
    db.admitBootstrap backend row =
      .error (.integrityError "protected_bootstrap_executions") := by
  simp [Database.admitBootstrap, Database.insertBootstrap, unchecked]

theorem admitBootstrap_of_checked {backend : Backend} {row : ProtectedBootstrapExecution}
    (checked : Database.bootstrapChecked backend row = true)
    {protectedBootstrapExecutions : Table ProtectedBootstrapExecution.bootstrapExecutionId}
    (inserted : db.protectedBootstrapExecutions.insert? (Database.bootstrapConflict row) row =
      some protectedBootstrapExecutions) :
    ∃ next, db.admitBootstrap backend row = .ok (row, next) := by
  simp only [Database.admitBootstrap, Database.insertBootstrap, checked, if_true, inserted]
  exact ⟨_, rfl⟩

theorem submitProtectedBootstrap_apart
    (differs : Differs db
      (.submitProtectedBootstrap runId caller key operation uuid accepted)) :
    (PostgresTransformLedger.outcome db
        (.submitProtectedBootstrap runId caller key operation uuid accepted)).observation db ≠
      TransformLedger.observed db
        (.submitProtectedBootstrap runId caller key operation uuid accepted) := by
  obtain ⟨known, freshKey, freshOperation, passed, freshId, binds, unchecked⟩ := differs
  have reached := submitProtectedBootstrap_reaches known freshKey freshOperation passed uuid accepted
  have clear : ∀ row ∈ db.protectedBootstrapExecutions, Database.bootstrapConflict
      (admittedBootstrap runId caller key operation uuid accepted) row = false :=
    fun row stored => decide_eq_false fun conflict =>
      conflict.elim (freshKey row stored) (freshOperation row stored)
  obtain ⟨rows, inserted⟩ : ∃ rows, db.protectedBootstrapExecutions.insert?
      (Database.bootstrapConflict (admittedBootstrap runId caller key operation uuid accepted))
      (admittedBootstrap runId caller key operation uuid accepted) = some rows :=
    Table.insert?_isSome freshId clear
  obtain ⟨next, admitted⟩ := admitBootstrap_of_checked binds inserted
  refine observed_ne_of_reply ?_
  simp only [PostgresTransformLedger.outcome, TransformLedger.outcome,
    PostgresTransformLedger.perform, TransformLedger.perform,
    PostgresTransformLedger.submitProtectedBootstrap, TransformLedger.submitProtectedBootstrap,
    reached, admitBootstrap_of_unchecked unchecked, admitted]
  exact (Option.some_ne_none _).symm

theorem submitProtectedBootstrap_alike
    (agrees : ¬ Differs db
      (.submitProtectedBootstrap runId caller key operation uuid accepted)) :
    (PostgresTransformLedger.submitProtectedBootstrap db runId caller key operation uuid
        accepted).toOption =
      (TransformLedger.submitProtectedBootstrap db runId caller key operation uuid
        accepted).toOption := by
  unfold PostgresTransformLedger.submitProtectedBootstrap TransformLedger.submitProtectedBootstrap
  rcases submitProtectedBootstrap_cases db runId caller key operation uuid accepted with
    ⟨answer, same⟩ | ⟨known, freshKey, freshOperation, passed⟩
  · rw [same, same]
  · rw [submitProtectedBootstrap_reaches known freshKey freshOperation passed,
      submitProtectedBootstrap_reaches known freshKey freshOperation passed]
    cases checked : Database.bootstrapChecked .postgres
        (admittedBootstrap runId caller key operation uuid accepted) with
    | true =>
        have binds := bootstrapChecked_sqlite_of_postgres checked
        simp only [Database.admitBootstrap, Database.insertBootstrap, checked, binds]
    | false =>
        rw [admitBootstrap_of_unchecked checked]
        cases admitted : db.admitBootstrap .sqlite
            (admittedBootstrap runId caller key operation uuid accepted) with
        | error failure => rfl
        | ok answer =>
            obtain ⟨-, rows, inserted, -⟩ := Database.admitBootstrap_ok admitted
            cases binds : Database.bootstrapChecked .sqlite
                (admittedBootstrap runId caller key operation uuid accepted) with
            | false => simp [admitBootstrap_of_unchecked binds] at admitted
            | true =>
                exact absurd ⟨known, freshKey, freshOperation, passed,
                  (Table.insert?_eq_some.mp inserted).1, binds, checked⟩ agrees

theorem queueProtectedBootstrap_alike (executionId : String) (timestamp : Timestamp) :
    PostgresTransformLedger.queueProtectedBootstrap db executionId timestamp =
      TransformLedger.queueProtectedBootstrap db executionId timestamp := by
  unfold PostgresTransformLedger.queueProtectedBootstrap TransformLedger.queueProtectedBootstrap
  simp only
  cases known : db.protectedBootstrapExecutions.lookup executionId with
  | none =>
      have absent := Table.lookup_eq_none.mp known
      have unmet : db.protectedBootstrapExecutions.rows.find? (fun row =>
          decide (row.bootstrapExecutionId = executionId ∧ row.status = .admitted)) = none :=
        List.find?_eq_none.mpr fun row stored => by simp [absent row stored]
      rw [unmet]
  | some row =>
      obtain ⟨stored, rfl⟩ := Table.lookup_eq_some.mp known
      by_cases isAdmitted : row.status = .admitted
      · have met : decide (row.bootstrapExecutionId = row.bootstrapExecutionId ∧
            row.status = .admitted) = true := decide_eq_true ⟨rfl, isAdmitted⟩
        have found : (db.protectedBootstrapExecutions.rows.find? fun other =>
            decide (other.bootstrapExecutionId = row.bootstrapExecutionId ∧
              other.status = .admitted)).isSome := List.find?_isSome.mpr ⟨row, stored, met⟩
        obtain ⟨other, found⟩ := Option.isSome_iff_exists.mp found
        have otherMet := List.find?_some found
        have same := Table.eq_of_key_eq (List.mem_of_find?_eq_some found) stored
          (of_decide_eq_true otherMet).1
        subst other
        rw [found]
        simp only [isAdmitted, ne_eq, not_true_eq_false, if_false]
        rw [updateBootstraps_eq_rewrite stored ?met ?keyed,
          updateBootstraps_eq_rewrite stored ?metAlone ?keyedAlone]
        case met => exact met
        case keyed => exact fun _ held => (of_decide_eq_true held).1
        case metAlone => simp
        case keyedAlone => simp
      · have unmet : db.protectedBootstrapExecutions.rows.find? (fun other =>
            decide (other.bootstrapExecutionId = row.bootstrapExecutionId ∧
              other.status = .admitted)) = none := by
          refine List.find?_eq_none.mpr fun other otherStored met => ?_
          obtain ⟨sameId, otherAdmitted⟩ := of_decide_eq_true met
          exact isAdmitted (Table.eq_of_key_eq otherStored stored sameId ▸ otherAdmitted)
        rw [unmet]
        simp only [ne_eq, isAdmitted, not_false_eq_true, if_true]

end Bootstrap

section Transition

variable {db : Database} {executionId : String} {state : Status} {testStatus : Option TestStatus}
  {failureClass : Option String} {timestamp : Timestamp}

theorem closeRun_of_open {runId : String} {status : Status} {now : Timestamp}
    {metadata : Metadata} (isOpen : db.transformRuns.rows.any (Database.runOpen runId) = true) :
    db.closeRun runId status now metadata =
      { db with
        transformRuns := db.transformRuns.update (Database.runOpen runId)
          (TransformRun.withStatus status now)
          (TransformRun.withStatus_transformRunId status now) }.event runId none (.run status)
        metadata := by
  simp only [Database.closeRun, isOpen, if_true]

theorem transition_alike
    (agrees : ¬ Differs db (.transition executionId state testStatus failureClass timestamp)) :
    PostgresTransformLedger.transition db executionId state testStatus failureClass timestamp =
      TransformLedger.transition db executionId state testStatus failureClass timestamp := by
  unfold PostgresTransformLedger.transition TransformLedger.transition
  split
  next => rfl
  next row found =>
    obtain ⟨stored, rfl⟩ := Table.lookup_eq_some.mp found
    split
    next => rfl
    next allowed =>
      simp only
      by_cases closes : state ∈ Status.closing
      · have isOpen : db.transformRuns.rows.any (Database.runOpen row.transformRunId) = true := by
          by_contra closed
          refine agrees ⟨row, stored, rfl, not_not.mp allowed, closes, fun run runStored => ?_⟩
          exact Bool.eq_false_iff.mpr fun runIsOpen =>
            closed (List.any_eq_true.mpr ⟨run, runStored, runIsOpen⟩)
        rw [if_pos closes, if_pos closes, closeRun_of_open]
        exact isOpen
      · rw [if_neg closes, if_neg closes]

theorem transition_apart
    (differs : Differs db (.transition executionId state testStatus failureClass timestamp)) :
    (PostgresTransformLedger.outcome db
        (.transition executionId state testStatus failureClass timestamp)).observation db ≠
      TransformLedger.observed db
        (.transition executionId state testStatus failureClass timestamp) := by
  obtain ⟨row, stored, rfl, allowed, closes, closed⟩ := differs
  have shut : ¬ (db.transformRuns.rows.any (Database.runOpen row.transformRunId) = true) := by
    rw [List.any_eq_true]
    rintro ⟨run, runStored, isOpen⟩
    rw [closed run runStored] at isOpen
    contradiction
  -- the twin has written one event more
  intro same
  have lengths := congrArg List.length (congrArg Observation.events same)
  simp [TransformLedger.observed,
    PostgresTransformLedger.outcome, TransformLedger.outcome, Outcome.observation,
    Outcome.committed, PostgresTransformLedger.perform, TransformLedger.perform,
    PostgresTransformLedger.transition, TransformLedger.transition, Table.lookup_key stored,
    allowed, closes, Except.map, Except.toOption, Database.event, Database.closeRun,
    Database.updateExecutions, shut] at lengths

end Transition

theorem outcome_alike {db : Database} {call : LedgerCall} (agrees : ¬ Differs db call) :
    PostgresTransformLedger.outcome db call = TransformLedger.outcome db call := by
  unfold PostgresTransformLedger.outcome TransformLedger.outcome
  cases call with
  | createRun caller key mode contractDigest planDigest uuid accepted =>
      simp only [PostgresTransformLedger.perform, TransformLedger.perform, toOption_map,
        createRun_alike agrees]
  | submitBatch runId caller key batch fingerprint uuid accepted =>
      simp only [PostgresTransformLedger.perform, TransformLedger.perform,
        submitBatch_alike agrees]
  | submitProtectedBootstrap runId caller key operation uuid accepted =>
      simp only [PostgresTransformLedger.perform, TransformLedger.perform, toOption_map,
        submitProtectedBootstrap_alike agrees]
  | queueProtectedBootstrap executionId timestamp =>
      simp only [PostgresTransformLedger.perform, TransformLedger.perform,
        queueProtectedBootstrap_alike]
  | transition executionId state testStatus failureClass timestamp =>
      simp only [PostgresTransformLedger.perform, TransformLedger.perform,
        transition_alike agrees]

theorem outcome_apart {db : Database} {call : LedgerCall} (differs : Differs db call) :
    (PostgresTransformLedger.outcome db call).observation db ≠ TransformLedger.observed db call := by
  cases call with
  | createRun => exact createRun_apart differs
  | submitBatch => exact submitBatch_apart differs
  | submitProtectedBootstrap => exact submitProtectedBootstrap_apart differs
  | queueProtectedBootstrap => exact differs.elim
  | transition => exact transition_apart differs

/-! ## Texts that only SQLite takes -/

section Refused

variable {db : Database}

theorem fresh_of_refused {Row : Type} {rows : List Row} {known : Row → Prop} [DecidablePred known]
    {texts : List String}
    (refused : ((if rows.any fun row => known row then [] else texts).any fun text =>
      text.toList.contains (Char.ofNat 0)) = true) :
    (∀ row ∈ rows, ¬ known row) ∧ rows.find? (fun row => known row) = none := by
  split at refused
  next => cases refused
  next unknown =>
    have fresh : ∀ row ∈ rows, ¬ known row := fun row stored same =>
      unknown (List.any_eq_true.mpr ⟨row, stored, decide_eq_true same⟩)
    exact ⟨fresh, List.find?_eq_none.mpr fun row stored => by simpa using fresh row stored⟩

theorem twin_createRun_takes {caller key uuid : String} {mode : ExecutionMode}
    {contractDigest planDigest : Digest} {accepted : Timestamp}
    (refused : PostgresTransformLedger.refused db
      (.createRun caller key mode contractDigest planDigest uuid accepted) = true) :
    (∃ answer, TransformLedger.createRun db caller key mode contractDigest planDigest uuid accepted =
        .ok answer) ↔
      TwinTakes db (.createRun caller key mode contractDigest planDigest uuid accepted) := by
  obtain ⟨freshKey, unused⟩ := @fresh_of_refused TransformRun _
    (fun run => run.callerIdentity = caller ∧ run.idempotencyKey = key) _ _ refused
  unfold TransformLedger.createRun
  rw [unused]
  dsimp only
  split
  next active =>
    refine iff_of_false (by simp) fun takes => ?_
    obtain ⟨run, stored, isActive⟩ := List.any_eq_true.mp active
    exact of_decide_eq_true isActive (takes.1 run stored)
  next idle =>
    have closed : ∀ run ∈ db.transformRuns,
        run.status ∈ [Status.succeeded, Status.failed, Status.cancelled] := fun run stored =>
      by_contra fun isActive => idle (List.any_eq_true.mpr ⟨run, stored, decide_eq_true isActive⟩)
    constructor
    · rintro ⟨answer, admitted⟩
      obtain ⟨-, runs, inserted, -⟩ := Database.admitRun_ok admitted
      exact ⟨closed, (Table.insert?_eq_some.mp inserted).1⟩
    · rintro ⟨-, freshId⟩
      have clear : ∀ run ∈ db.transformRuns, Database.runConflict .sqlite
          (admittedRun caller key mode contractDigest planDigest uuid accepted) run = false :=
        fun run stored => decide_eq_false fun conflict =>
          conflict.elim (freshKey run stored) fun onlyPostgres => nomatch onlyPostgres.1
      obtain ⟨runs, inserted⟩ : ∃ runs, db.transformRuns.insert? _
          (admittedRun caller key mode contractDigest planDigest uuid accepted) = some runs :=
        Table.insert?_isSome freshId clear
      exact ⟨_, Database.admitRun_of_insert inserted⟩

theorem twin_submitBatch_takes {runId caller key uuid : String} {batch : ExecutionBatch}
    {fingerprint : Digest} {accepted : Timestamp}
    (refused : PostgresTransformLedger.refused db
      (.submitBatch runId caller key batch fingerprint uuid accepted) = true) :
    (∃ answer, TransformLedger.submitBatch db runId caller key batch fingerprint uuid accepted =
        .ok answer) ↔
      TwinTakes db (.submitBatch runId caller key batch fingerprint uuid accepted) := by
  obtain ⟨freshKey, unused⟩ := @fresh_of_refused BatchExecution _
    (fun row => row.callerIdentity = caller ∧ row.idempotencyKey = key) _ _ refused
  unfold TransformLedger.submitBatch
  split
  next missing =>
    refine iff_of_false (by simp) fun takes => ?_
    obtain ⟨run, stored, same⟩ := takes.1
    exact List.find?_eq_none.mp missing run stored (decide_eq_true same)
  next run runFound =>
    have met := List.find?_some runFound
    have known : ∃ run ∈ db.transformRuns,
        run.transformRunId = runId ∧ run.callerIdentity = caller :=
      ⟨run, List.mem_of_find?_eq_some runFound, of_decide_eq_true met⟩
    rw [unused]
    dsimp only
    split
    next active found =>
      exact iff_of_true ⟨_, rfl⟩
        ⟨known, .inl ⟨active, List.mem_of_find?_eq_some found, List.find?_some found⟩⟩
    next idle =>
      have inactive : ¬ ∃ row ∈ db.batchExecutions,
          activeExecution runId batch.batchId row = true := by
        rintro ⟨row, stored, isActive⟩
        exact List.find?_eq_none.mp idle row stored isActive
      split
      next passed =>
        constructor
        · rintro ⟨answer, admitted⟩
          obtain ⟨-, executions, attempts, inserted, attempted, -⟩ := Database.admitBatch_ok admitted
          exact ⟨known, .inr ⟨passed, (Table.insert?_eq_some.mp inserted).1,
            (Table.insert?_eq_some.mp attempted).1⟩⟩
        · rintro ⟨-, isActive | ⟨-, freshId, freshAttempt⟩⟩
          · exact absurd isActive inactive
          · have clear : ∀ row ∈ db.batchExecutions, Database.executionConflict .sqlite
                (admittedBatch runId caller key batch fingerprint uuid accepted) row = false :=
              fun row stored => decide_eq_false fun conflict =>
                conflict.elim (freshKey row stored) fun onlyPostgres => nomatch onlyPostgres.1
            obtain ⟨executions, inserted⟩ : ∃ executions,
                db.batchExecutions.insert? _ (admittedBatch runId caller key batch fingerprint uuid
                  accepted) = some executions :=
              Table.insert?_isSome freshId clear
            obtain ⟨attempts, attempted⟩ : ∃ attempts, db.batchAttempts.insert? (fun _ => false)
                ⟨"be_" ++ uuid, 1, .admitted, accepted⟩ = some attempts :=
              Table.insert?_isSome freshAttempt fun _ _ => rfl
            exact ⟨_, Database.admitBatch_of_insert inserted attempted⟩
      next incomplete =>
        refine iff_of_false (by simp) ?_
        rintro ⟨-, isActive | ⟨passed, -⟩⟩
        · exact inactive isActive
        · exact incomplete passed

theorem twin_submitProtectedBootstrap_takes {runId caller key uuid : String}
    {operation : ProtectedBootstrapOperation} {accepted : Timestamp}
    (refused : PostgresTransformLedger.refused db
      (.submitProtectedBootstrap runId caller key operation uuid accepted) = true) :
    (∃ answer, TransformLedger.submitProtectedBootstrap db runId caller key operation uuid accepted =
        .ok answer) ↔
      TwinTakes db (.submitProtectedBootstrap runId caller key operation uuid accepted) := by
  obtain ⟨freshKey, unused⟩ := @fresh_of_refused ProtectedBootstrapExecution _
    (fun row => row.callerIdentity = caller ∧ row.idempotencyKey = key) _ _ refused
  constructor
  · rintro ⟨⟨out, next⟩, submitted⟩
    unfold TransformLedger.submitProtectedBootstrap submitProtectedBootstrap at submitted
    split at submitted
    next => cases submitted
    next run runFound =>
      rw [unused] at submitted
      dsimp only at submitted
      split at submitted
      next => cases submitted
      next freshOperation =>
        split at submitted
        next passed =>
          obtain ⟨-, rows, inserted, -⟩ := Database.admitBootstrap_ok submitted
          refine ⟨⟨run, Table.lookup_eq_some.mp runFound⟩, fun row stored same => ?_, passed,
            (Table.insert?_eq_some.mp inserted).1, ?_⟩
          · exact freshOperation (List.any_eq_true.mpr ⟨row, stored, decide_eq_true same⟩)
          · by_contra unchecked
            rw [admitBootstrap_of_unchecked (Bool.not_eq_true _ ▸ unchecked)] at submitted
            cases submitted
        next => cases submitted
  · rintro ⟨known, freshOperation, passed, freshId, checked⟩
    have clear : ∀ row ∈ db.protectedBootstrapExecutions, Database.bootstrapConflict
        (admittedBootstrap runId caller key operation uuid accepted) row = false :=
      fun row stored => decide_eq_false fun conflict =>
        conflict.elim (freshKey row stored) (freshOperation row stored)
    obtain ⟨rows, inserted⟩ : ∃ rows, db.protectedBootstrapExecutions.insert? _
        (admittedBootstrap runId caller key operation uuid accepted) = some rows :=
      Table.insert?_isSome freshId clear
    obtain ⟨next, admitted⟩ := admitBootstrap_of_checked checked inserted
    exact ⟨_, (submitProtectedBootstrap_reaches known freshKey freshOperation passed uuid accepted
      .sqlite).trans admitted⟩

theorem twin_transition_takes {executionId : String} {state : Status}
    {testStatus : Option TestStatus} {failureClass : Option String} {timestamp : Timestamp} :
    (∃ answer, TransformLedger.transition db executionId state testStatus failureClass timestamp =
        .ok answer) ↔
      TwinTakes db (.transition executionId state testStatus failureClass timestamp) := by
  unfold TransformLedger.transition
  split
  next missing =>
    refine iff_of_false (by simp) ?_
    rintro ⟨row, stored, rfl, -⟩
    exact Table.lookup_eq_none.mp missing row stored rfl
  next row found =>
    obtain ⟨stored, rfl⟩ := Table.lookup_eq_some.mp found
    split
    next forbidden =>
      refine iff_of_false (by simp) ?_
      rintro ⟨other, otherStored, same, allowed⟩
      exact forbidden (Table.eq_of_key_eq otherStored stored same ▸ allowed)
    next allowed => exact iff_of_true ⟨_, rfl⟩ ⟨row, stored, rfl, not_not.mp allowed⟩

theorem twin_outcome_isSome {call : LedgerCall}
    (refused : PostgresTransformLedger.refused db call = true) :
    (TransformLedger.outcome db call).isSome ↔ TwinTakes db call := by
  have taken {α : Type} (result : Except Failure α) :
      result.toOption.isSome ↔ ∃ answer, result = .ok answer := by
    cases result <;> simp [Except.toOption]
  cases call with
  | createRun =>
      rw [← twin_createRun_takes refused, ← taken]
      simp [TransformLedger.outcome, TransformLedger.perform, toOption_map]
  | submitBatch =>
      rw [← twin_submitBatch_takes refused, ← taken]
      simp [TransformLedger.outcome, TransformLedger.perform, toOption_map]
  | submitProtectedBootstrap =>
      rw [← twin_submitProtectedBootstrap_takes refused, ← taken]
      simp [TransformLedger.outcome, TransformLedger.perform, toOption_map]
  | queueProtectedBootstrap => cases refused
  | transition =>
      rw [← twin_transition_takes, ← taken]
      simp [TransformLedger.outcome, TransformLedger.perform, toOption_map]

end Refused

theorem sent_alike {db : Database} {call : LedgerCall} (agrees : ¬ Diverges db call) :
    PostgresTransformLedger.sent db call = TransformLedger.outcome db call := by
  unfold Diverges at agrees
  unfold PostgresTransformLedger.sent
  split
  next refused =>
    rw [if_pos refused, ← twin_outcome_isSome refused, Option.not_isSome_iff_eq_none] at agrees
    exact agrees.symm
  next taken =>
    rw [if_neg taken] at agrees
    exact outcome_alike agrees

theorem observed_apart {db : Database} {call : LedgerCall} (diverges : Diverges db call) :
    PostgresTransformLedger.observed db call ≠ TransformLedger.observed db call := by
  unfold Diverges at diverges
  unfold PostgresTransformLedger.observed PostgresTransformLedger.sent
  split at diverges
  next refused =>
    rw [if_pos refused]
    obtain ⟨answer, taken⟩ :=
      Option.isSome_iff_exists.mp ((twin_outcome_isSome refused).mpr diverges)
    intro same
    have replies := congrArg Observation.reply same
    simp [TransformLedger.observed, Outcome.observation, taken] at replies
  next taken =>
    rw [if_neg taken]
    exact outcome_apart diverges

/-- The two ledgers implement one contract exactly as long as no call makes them part. -/
theorem contract_shared_iff (calls : List LedgerCall) :
    SharedContract calls ↔
      Machine.Along PostgresTransformLedger.step (fun db call => ¬ Diverges db call) .empty
        calls := by
  refine Machine.alike_iff_along _ _ _ _ (fun db call => ⟨fun same diverges => ?_, fun agrees => ?_⟩)
    (fun db call agrees => ?_) Database.empty calls
  · exact observed_apart diverges same
  · simp only [PostgresTransformLedger.observed, TransformLedger.observed, sent_alike agrees]
  · simp only [PostgresTransformLedger.step, TransformLedger.step, sent_alike agrees]

/-- A run is orphaned and the next one created. -/
def runAfterOrphan : List LedgerCall :=
  [.createRun "airflow" "run-1" .snapshot .zero .zero "1" 0,
    .submitBatch "tr_1" "airflow" "batch-1" ⟨"C4_ML_01", .mlPredictionTransform, []⟩ .zero "a" 1,
    .transition "be_a" .queued none none 2,
    .transition "be_a" .orphaned none none 3,
    .createRun "airflow" "run-2" .snapshot .zero .zero "2" 4]

theorem runAfterOrphan_not_shared : ¬ SharedContract runAfterOrphan := by
  intro shared
  have same := shared (runAfterOrphan.take 4) _ [] rfl
  revert same
  decide +kernel

end PaymentsPlatform.TransformRuntime
