import PaymentsPlatform.TransformRuntime.ControlPlane

/-!
# The board

The board is what the control plane says about the work of a run: the runs,
their executions with the attempts, the protected bootstraps, and the `RUN_`
events, in order.  A request changes it by moves of five kinds.  `Revises` and
`BootstrapRevises` list every way in which a request rewrites one execution or
one bootstrap, with its guards and companion writes; what later modules say
about steps is read off these lists, never off the operations.
-/

namespace PaymentsPlatform.TransformRuntime

open Relational PostgresDurableQueue

structure Board where
  runs : Table TransformRun.transformRunId
  executions : Table BatchExecution.batchExecutionId
  attempts : Table BatchAttempt.key
  bootstraps : Table ProtectedBootstrapExecution.bootstrapExecutionId
  closures : List (String × Status)

/-- The run and status named by a `RUN_` event. -/
def ExecutionEvent.closure? (event : ExecutionEvent) : Option (String × Status) :=
  match event.eventType with
  | .run status => some (event.transformRunId, status)
  | _ => none

def Database.board (db : Database) : Board where
  runs := db.transformRuns
  executions := db.batchExecutions
  attempts := db.batchAttempts
  bootstraps := db.protectedBootstrapExecutions
  closures := db.executionEvents.filterMap ExecutionEvent.closure?

@[simp]
theorem Database.board_runs (db : Database) : db.board.runs = db.transformRuns := rfl

@[simp]
theorem Database.board_executions (db : Database) : db.board.executions = db.batchExecutions := rfl

@[simp]
theorem Database.board_attempts (db : Database) : db.board.attempts = db.batchAttempts := rfl

/-- One execution rewritten: the new row, the status written to its attempt
if any, and whether its run is closed with the row's status. -/
structure Revision where
  revised : BatchExecution
  attemptStatus : Option Status
  closes : Bool
  now : Timestamp

inductive Move where
  | admitRun (row : TransformRun)
  | admitBatch (row : BatchExecution)
  | revise (revision : Revision)
  | admitBootstrap (row : ProtectedBootstrapExecution)
  | reviseBootstrap (row : ProtectedBootstrapExecution)

namespace Board

def admitRun (board : Board) (row : TransformRun) : Board :=
  { board with runs := board.runs.push row }

/-- The attempt admitted together with an execution. -/
def firstAttempt (row : BatchExecution) : BatchAttempt :=
  ⟨row.batchExecutionId, row.attempt, .admitted, row.acceptedAt⟩

def admitBatch (board : Board) (row : BatchExecution) : Board :=
  { board with
    executions := board.executions.push row
    attempts := board.attempts.push (firstAttempt row) }

/-- The open run with this id takes the status; nothing happens to others. -/
def closeRun (board : Board) (runId : String) (status : Status) (now : Timestamp) : Board :=
  { board with
    runs := board.runs.update (Database.runOpen runId)
      (TransformRun.withStatus status now) (TransformRun.withStatus_transformRunId status now)
    closures :=
      if board.runs.rows.any (Database.runOpen runId) then board.closures ++ [(runId, status)]
      else board.closures }

/-- Rewrite an execution and, when given, the status of its attempt. -/
def rewrite (board : Board) (row : BatchExecution) (attemptStatus : Option Status)
    (now : Timestamp) : Board :=
  { board with
    executions := board.executions.replace row
    attempts :=
      match attemptStatus with
      | none => board.attempts
      | some status => board.attempts.update
          (fun attempt => attempt.batchExecutionId = row.batchExecutionId ∧
            attempt.attempt = row.attempt)
          (BatchAttempt.withStatus status now) (BatchAttempt.withStatus_key status now) }

def revise (board : Board) (revision : Revision) : Board :=
  let rewritten := board.rewrite revision.revised revision.attemptStatus revision.now
  if revision.closes then
    rewritten.closeRun revision.revised.transformRunId revision.revised.status revision.now
  else
    rewritten

def admitBootstrap (board : Board) (row : ProtectedBootstrapExecution) : Board :=
  { board with bootstraps := board.bootstraps.push row }

def reviseBootstrap (board : Board) (row : ProtectedBootstrapExecution) : Board :=
  { board with bootstraps := board.bootstraps.replace row }

def apply (board : Board) : Move → Board
  | .admitRun row => board.admitRun row
  | .admitBatch row => board.admitBatch row
  | .revise revision => board.revise revision
  | .admitBootstrap row => board.admitBootstrap row
  | .reviseBootstrap row => board.reviseBootstrap row

section Columns

variable (board : Board) (revision : Revision)

@[simp]
theorem revise_executions :
    (board.revise revision).executions = board.executions.replace revision.revised := by
  unfold revise
  by_cases closes : revision.closes = true <;> simp [closes, rewrite, closeRun]

theorem revise_runs : (board.revise revision).runs =
    if revision.closes then board.runs.update (Database.runOpen revision.revised.transformRunId)
      (TransformRun.withStatus revision.revised.status revision.now)
      (TransformRun.withStatus_transformRunId revision.revised.status revision.now)
    else board.runs := by
  unfold revise
  by_cases closes : revision.closes = true <;> simp [closes, rewrite, closeRun]

theorem revise_closures : (board.revise revision).closures =
    if revision.closes = true ∧
        board.runs.rows.any (Database.runOpen revision.revised.transformRunId) = true then
      board.closures ++ [(revision.revised.transformRunId, revision.revised.status)]
    else board.closures := by
  unfold revise
  by_cases closes : revision.closes = true <;> simp [closes, rewrite, closeRun]

@[simp]
theorem revise_bootstraps : (board.revise revision).bootstraps = board.bootstraps := by
  unfold revise
  by_cases closes : revision.closes = true <;> simp [closes, rewrite, closeRun]

theorem revise_attempts : (board.revise revision).attempts =
    (board.rewrite revision.revised revision.attemptStatus revision.now).attempts := by
  unfold revise
  by_cases closes : revision.closes = true <;> simp [closes, rewrite, closeRun]

end Columns

/-- The batch has passed in this run. -/
def Passed (board : Board) (runId batchId : String) : Prop :=
  ∃ row ∈ board.executions, row.transformRunId = runId ∧ row.batchId = batchId ∧
    row.status = .succeeded ∧ row.testStatus = some .passed

end Board

/-- The ways in which a request rewrites an execution. -/
inductive Revises (request : Request) (row : BatchExecution) : Revision → Prop
  | transition {state testStatus failureClass timestamp} :
      request.call = .ledger
        (.transition row.batchExecutionId state testStatus failureClass timestamp) →
      state ∈ row.status.transitions →
      Revises request row ⟨transitioned row state testStatus failureClass timestamp row, none,
        state ∈ Status.closing, timestamp⟩
  | claim {worker token leaseSeconds locked} :
      request.call = .queue (.claim worker token leaseSeconds locked) →
      row.status = .queued →
      row.cancelRequested = false →
      row.batchExecutionId ∉ locked →
      Revises request row ⟨row.leasedTo worker token leaseSeconds request.now, some .running,
        false, request.now⟩
  | recordNessieBranch {worker token branch} :
      request.call = .queue (.recordNessieBranch row.batchExecutionId worker token branch) →
      row.ownedBy worker token →
      leaseLive row.leaseExpiresAt request.now →
      Revises request row ⟨row.onBranch branch, none, false, request.now⟩
  | heartbeat {worker token leaseSeconds} :
      request.call = .queue (.heartbeat row.batchExecutionId worker token leaseSeconds) →
      row.ownedBy worker token →
      leaseLive row.leaseExpiresAt request.now →
      Revises request row ⟨row.renewed leaseSeconds request.now, none, false, request.now⟩
  | cancel :
      request.call = .queue (.requestCancel row.batchExecutionId) →
      row.status ∈ [Status.admitted, Status.queued] →
      Revises request row ⟨row.cancelledByOperator request.now, none, true, request.now⟩
  | flag :
      request.call = .queue (.requestCancel row.batchExecutionId) →
      row.status ∉ Status.terminal →
      row.status ∉ [Status.admitted, Status.queued] →
      Revises request row ⟨row.flagged request.now, none, false, request.now⟩
  | finish {worker token status testStatus failureClass} :
      request.call = .queue
        (.finish row.batchExecutionId worker token status testStatus failureClass) →
      status ∈ Status.terminal →
      row.ownedBy worker token →
      leaseLive row.leaseExpiresAt request.now →
      Revises request row ⟨row.settled status testStatus failureClass request.now, some status,
        status ∈ Status.closing, request.now⟩
  | orphan {worker token failureClass} :
      request.call = .queue (.orphanIfOwned row.batchExecutionId worker token failureClass) →
      row.ownedBy worker token →
      Revises request row ⟨row.orphanedWith failureClass request.now, some .orphaned, true,
        request.now⟩
  | reject {worker token failureClass} :
      request.call = .queue
        (.rejectPrerequisiteIfOwned row.batchExecutionId worker token failureClass) →
      row.ownedBy worker token →
      Revises request row ⟨row.orphanedWith failureClass request.now, some .orphaned, false,
        request.now⟩
  | expire {locked} :
      request.call = .queue (.reconcileExpired locked) →
      row.status ∈ Status.active →
      leaseExpired row.leaseExpiresAt request.now →
      row.batchExecutionId ∉ locked →
      Revises request row ⟨row.orphanedWith leaseExpiredFailure request.now, some .orphaned, true,
        request.now⟩

/-- The ways in which a request rewrites a bootstrap. -/
inductive BootstrapRevises (request : Request) (row : ProtectedBootstrapExecution) :
    ProtectedBootstrapExecution → Prop
  | queue {timestamp} :
      request.call = .ledger (.queueProtectedBootstrap row.bootstrapExecutionId timestamp) →
      row.status = .admitted →
      BootstrapRevises request row (row.queuedAt timestamp)
  | claim {worker token leaseSeconds locked} :
      request.call = .bootstrap (.claim worker token leaseSeconds locked) →
      row.status ∈ ProtectedBootstrapExecution.claimable →
      row.cancelRequested = false →
      row.bootstrapExecutionId ∉ locked →
      BootstrapRevises request row (row.leasedTo (row.status = .reconcileQueued) worker token
        leaseSeconds request.now)
  | heartbeat {worker token leaseSeconds} :
      request.call = .bootstrap
        (.heartbeat row.bootstrapExecutionId worker token leaseSeconds) →
      row.ownedBy worker token →
      leaseLive row.leaseExpiresAt request.now →
      BootstrapRevises request row (row.renewed leaseSeconds request.now)
  | cancel :
      request.call = .bootstrap (.requestCancel row.bootstrapExecutionId) →
      row.status ∈ [Status.admitted, Status.queued] →
      BootstrapRevises request row (row.cancelledByOperator request.now)
  | flag :
      request.call = .bootstrap (.requestCancel row.bootstrapExecutionId) →
      row.status ∉ Status.terminal →
      row.status ∉ [Status.admitted, Status.queued] →
      BootstrapRevises request row row.flagged
  | requeue :
      request.call = .bootstrap (.requestReconcile row.bootstrapExecutionId) →
      row.status ∈ [Status.orphaned, Status.failed] →
      row.publicationState = .reconciliationRequired →
      BootstrapRevises request row (row.requeued request.now)
  | finish {worker token status publicationState failureClass} :
      request.call = .bootstrap
        (.finish row.bootstrapExecutionId worker token status publicationState failureClass) →
      status ∈ Status.terminal →
      row.ownedBy worker token →
      BootstrapRevises request row
        (row.finished status publicationState failureClass request.now)
  | expire {locked} :
      request.call = .bootstrap (.reconcileExpired locked) →
      row.status = .running →
      leaseExpired row.leaseExpiresAt request.now →
      row.bootstrapExecutionId ∉ locked →
      BootstrapRevises request row (row.orphanedExpired request.now)

/-- The moves a request may make on a board. -/
inductive Lawful (request : Request) (board : Board) : Move → Prop
  | admitRun {caller key mode contractDigest planDigest uuid accepted} :
      request.call = .ledger
        (.createRun caller key mode contractDigest planDigest uuid accepted) →
      (∀ run ∈ board.runs, run.status ∈ Status.terminal) →
      (∀ run ∈ board.runs, run.transformRunId ≠ "tr_" ++ uuid) →
      Lawful request board
        (.admitRun (admittedRun caller key mode contractDigest planDigest uuid accepted))
  | admitBatch {runId caller key batch fingerprint uuid accepted} :
      request.call = .ledger (.submitBatch runId caller key batch fingerprint uuid accepted) →
      (∃ run ∈ board.runs, run.transformRunId = runId ∧ run.callerIdentity = caller) →
      (∀ row ∈ board.executions, ¬ (row.callerIdentity = caller ∧ row.idempotencyKey = key)) →
      (∀ row ∈ board.executions, row.transformRunId = runId → row.batchId = batch.batchId →
        row.status ∈ Status.terminal) →
      (∀ prerequisite ∈ batch.prerequisiteBatches, board.Passed runId prerequisite) →
      (∀ row ∈ board.executions, row.batchExecutionId ≠ "be_" ++ uuid) →
      (∀ attempt ∈ board.attempts, attempt.key ≠ ("be_" ++ uuid, 1)) →
      Lawful request board
        (.admitBatch (admittedBatch runId caller key batch fingerprint uuid accepted))
  | revise {row revision} :
      row ∈ board.executions →
      Revises request row revision →
      Lawful request board (.revise revision)
  | admitBootstrap {runId caller key operation uuid accepted} :
      request.call = .ledger
        (.submitProtectedBootstrap runId caller key operation uuid accepted) →
      (∃ run ∈ board.runs, run.transformRunId = runId) →
      (∀ row ∈ board.bootstraps, ¬ (row.callerIdentity = caller ∧ row.idempotencyKey = key)) →
      (∀ row ∈ board.bootstraps, ¬ (row.transformRunId = runId ∧
        row.operationId = operation.operationId ∧ row.operationVersion = operation.version)) →
      board.Passed runId operation.prerequisiteBatch →
      (∀ row ∈ board.bootstraps, row.bootstrapExecutionId ≠ "be_" ++ uuid) →
      Lawful request board
        (.admitBootstrap (admittedBootstrap runId caller key operation uuid accepted))
  | reviseBootstrap {row revised} :
      row ∈ board.bootstraps →
      BootstrapRevises request row revised →
      Lawful request board (.reviseBootstrap revised)

/-! ## What a revision can and cannot change -/

/-- The columns of an execution that no request rewrites. -/
structure BatchExecution.SameIdentity (row revised : BatchExecution) : Prop where
  batchExecutionId : revised.batchExecutionId = row.batchExecutionId
  transformRunId : revised.transformRunId = row.transformRunId
  callerIdentity : revised.callerIdentity = row.callerIdentity
  idempotencyKey : revised.idempotencyKey = row.idempotencyKey
  batchId : revised.batchId = row.batchId
  modelFingerprint : revised.modelFingerprint = row.modelFingerprint
  attempt : revised.attempt = row.attempt

/-- How far a batch has come.  Every terminal status is last. -/
def Status.rank : Status → Nat
  | admitted => 0
  | queued => 1
  | running => 2
  | testing => 3
  | _ => 4

theorem Status.rank_le_of_transition {status next : Status}
    (allowed : next ∈ status.transitions) : status.rank < next.rank := by
  cases status <;> cases next <;> simp_all [Status.transitions, Status.rank]

theorem Status.rank_le_four (status : Status) : status.rank ≤ 4 := by
  cases status <;> simp [Status.rank]

theorem Status.rank_terminal {status : Status} (isTerminal : status ∈ Status.terminal) :
    status.rank = 4 := by
  cases status <;> simp_all [Status.terminal, Status.rank]

namespace Revises

variable {request : Request} {row : BatchExecution} {revision : Revision}

theorem sameIdentity (revises : Revises request row revision) :
    row.SameIdentity revision.revised := by
  cases revises <;> exact ⟨rfl, rfl, rfl, rfl, rfl, rfl, rfl⟩

theorem selected_open (revises : Revises request row revision) : row.status ∉ Status.terminal := by
  cases revises with
  | transition _ allowed => exact Status.not_terminal_of_transition allowed
  | claim _ isQueued _ _ => simp [isQueued, Status.terminal]
  | recordNessieBranch _ owned _ => exact Status.not_terminal_of_active owned.2.2
  | heartbeat _ owned _ => exact Status.not_terminal_of_active owned.2.2
  | cancel _ waiting =>
      intro isTerminal
      have last := Status.rank_terminal isTerminal
      rcases (by simpa using waiting : row.status = .admitted ∨ row.status = .queued) with
        same | same <;> simp [same, Status.rank] at last
  | flag _ isOpen _ => exact isOpen
  | finish _ _ owned _ => exact Status.not_terminal_of_active owned.2.2
  | orphan _ owned => exact Status.not_terminal_of_active owned.2.2
  | reject _ owned => exact Status.not_terminal_of_active owned.2.2
  | expire _ isActive _ _ => exact Status.not_terminal_of_active isActive

theorem rank_le (revises : Revises request row revision) :
    row.status.rank ≤ revision.revised.status.rank := by
  cases revises with
  | transition _ allowed => exact le_of_lt (Status.rank_le_of_transition allowed)
  | claim _ isQueued _ _ => simp [isQueued, Status.rank]
  | recordNessieBranch _ _ _ | heartbeat _ _ _ | flag _ _ _ => exact le_refl _
  | finish _ ends _ _ => simpa [Status.rank_terminal ends] using row.status.rank_le_four
  | cancel _ _ | orphan _ _ | reject _ _ | expire _ _ _ _ => exact row.status.rank_le_four

theorem closing_of_closes (revises : Revises request row revision)
    (closes : revision.closes = true) : revision.revised.status ∈ Status.closing := by
  cases revises with
  | transition _ _ => simpa using closes
  | finish _ _ _ _ => simpa using closes
  | cancel _ _ | orphan _ _ | expire _ _ _ _ => simp [Status.closing]
  | claim _ _ _ _ | recordNessieBranch _ _ _ | heartbeat _ _ _ | flag _ _ _ | reject _ _ =>
      simp at closes

theorem closes_of_closing (revises : Revises request row revision)
    (closing : revision.revised.status ∈ Status.closing)
    (notReject : ∀ eid worker token failureClass,
      request.call ≠ .queue (.rejectPrerequisiteIfOwned eid worker token failureClass)) :
    revision.closes = true := by
  have opened : row.status ∉ Status.closing := fun closed =>
    revises.selected_open (Status.terminal_of_closing closed)
  cases revises with
  | transition _ _ => simpa using closing
  | finish _ _ _ _ => simpa using closing
  | cancel _ _ | orphan _ _ | expire _ _ _ _ => rfl
  | claim _ _ _ _ => simp [Status.closing] at closing
  | recordNessieBranch _ _ _ | heartbeat _ _ _ | flag _ _ _ => exact absurd closing opened
  | reject called _ => exact absurd called (notReject _ _ _ _)

end Revises

theorem BootstrapRevises.bootstrapExecutionId_eq {request : Request}
    {row revised : ProtectedBootstrapExecution} (revises : BootstrapRevises request row revised) :
    revised.bootstrapExecutionId = row.bootstrapExecutionId := by
  cases revises <;> rfl

end PaymentsPlatform.TransformRuntime
