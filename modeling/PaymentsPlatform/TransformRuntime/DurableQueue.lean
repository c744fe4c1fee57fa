import Mathlib.Data.Prod.Lex
import Mathlib.Data.String.Basic
import PaymentsPlatform.TransformRuntime.Schema

/-!
# The durable queue

`PostgresDurableQueue`, batches first and protected bootstraps after them.
Every operation is one transaction at one reading `now` of the database clock.

`FOR UPDATE SKIP LOCKED` passes over the rows that another transaction holds
at that moment; `locked` lists their ids.  A comparison with a `NULL` column
is not true, so an absent lease neither is live nor has expired.
-/

namespace PaymentsPlatform.TransformRuntime

open Relational

/-- `lease_expires_at>=clock_timestamp()`. -/
def leaseLive (expiresAt : Option Timestamp) (now : Timestamp) : Prop :=
  ∃ expires ∈ expiresAt, now ≤ expires

instance (expiresAt : Option Timestamp) (now : Timestamp) : Decidable (leaseLive expiresAt now) :=
  match expiresAt with
  | none => .isFalse (by simp [leaseLive])
  | some expires => decidable_of_iff (now ≤ expires) (by simp [leaseLive])

/-- `lease_expires_at IS NOT NULL AND lease_expires_at<clock_timestamp()`. -/
def leaseExpired (expiresAt : Option Timestamp) (now : Timestamp) : Prop :=
  ∃ expires ∈ expiresAt, expires < now

instance (expiresAt : Option Timestamp) (now : Timestamp) :
    Decidable (leaseExpired expiresAt now) :=
  match expiresAt with
  | none => .isFalse (by simp [leaseExpired])
  | some expires => decidable_of_iff (expires < now) (by simp [leaseExpired])

namespace BatchExecution

/-- `lease_owner=%s AND lease_token=%s AND status IN ('RUNNING','TESTING')`. -/
def ownedBy (row : BatchExecution) (worker token : String) : Prop :=
  row.leaseOwner = some worker ∧ row.leaseToken = some token ∧ row.status ∈ Status.active

instance (row : BatchExecution) (worker token : String) : Decidable (row.ownedBy worker token) :=
  inferInstanceAs (Decidable (_ ∧ _ ∧ _))

/-- `ORDER BY accepted_at,batch_execution_id`. -/
def earlier (row other : BatchExecution) : Bool :=
  row.acceptedAt < other.acceptedAt ∨
    (row.acceptedAt = other.acceptedAt ∧ row.batchExecutionId < other.batchExecutionId)

/-- The columns `claim` assigns. -/
def leasedTo (worker token : String) (leaseSeconds : Int) (now : Timestamp)
    (row : BatchExecution) : BatchExecution :=
  { row with
    status := .running
    startedAt := some (row.startedAt.getD now)
    heartbeatAt := now
    leaseOwner := some worker
    leaseToken := some token
    leaseExpiresAt := some (now + seconds leaseSeconds) }

/-- The columns `heartbeat` assigns. -/
def renewed (leaseSeconds : Int) (now : Timestamp) (row : BatchExecution) : BatchExecution :=
  { row with heartbeatAt := now, leaseExpiresAt := some (now + seconds leaseSeconds) }

/-- The columns `record_nessie_branch` assigns. -/
def onBranch (branch : String) (row : BatchExecution) : BatchExecution :=
  { row with nessieBranch := some branch }

/-- The columns `request_cancel` assigns to a batch under way. -/
def flagged (now : Timestamp) (row : BatchExecution) : BatchExecution :=
  { row with
    cancelRequested := true
    cancelRequestedAt := some (row.cancelRequestedAt.getD now) }

/-- The columns by which a batch ends; the lease is released. -/
def settled (status : Status) (testStatus : Option TestStatus) (failureClass : Option String)
    (now : Timestamp) (row : BatchExecution) : BatchExecution :=
  { row with
    status := status
    finishedAt := some now
    heartbeatAt := now
    leaseOwner := none
    leaseToken := none
    leaseExpiresAt := none
    testStatus := testStatus
    failureClass := failureClass }

/-- The `ORPHANED` updates leave `test_status` as it is. -/
def orphanedWith (failureClass : String) (now : Timestamp) (row : BatchExecution) :
    BatchExecution :=
  row.settled .orphaned row.testStatus (some failureClass) now

/-- The columns `request_cancel` assigns to a batch no worker has claimed. -/
def cancelledByOperator (now : Timestamp) (row : BatchExecution) : BatchExecution :=
  (row.flagged now).settled .cancelled row.testStatus (some "OPERATOR_CANCELLED") now

section Columns

@[simp]
theorem leasedTo_status (worker token : String) (leaseSeconds : Int) (now : Timestamp)
    (row : BatchExecution) :
    (row.leasedTo worker token leaseSeconds now).status = .running := rfl

@[simp]
theorem leasedTo_batchExecutionId (worker token : String) (leaseSeconds : Int) (now : Timestamp)
    (row : BatchExecution) :
    (row.leasedTo worker token leaseSeconds now).batchExecutionId = row.batchExecutionId := rfl

@[simp]
theorem renewed_status (leaseSeconds : Int) (now : Timestamp) (row : BatchExecution) :
    (row.renewed leaseSeconds now).status = row.status := rfl

@[simp]
theorem renewed_batchExecutionId (leaseSeconds : Int) (now : Timestamp) (row : BatchExecution) :
    (row.renewed leaseSeconds now).batchExecutionId = row.batchExecutionId := rfl

@[simp]
theorem onBranch_status (branch : String) (row : BatchExecution) :
    (row.onBranch branch).status = row.status := rfl

@[simp]
theorem onBranch_batchExecutionId (branch : String) (row : BatchExecution) :
    (row.onBranch branch).batchExecutionId = row.batchExecutionId := rfl

@[simp]
theorem flagged_status (now : Timestamp) (row : BatchExecution) :
    (row.flagged now).status = row.status := rfl

@[simp]
theorem flagged_batchExecutionId (now : Timestamp) (row : BatchExecution) :
    (row.flagged now).batchExecutionId = row.batchExecutionId := rfl

@[simp]
theorem settled_status (status : Status) (testStatus : Option TestStatus)
    (failureClass : Option String) (now : Timestamp) (row : BatchExecution) :
    (row.settled status testStatus failureClass now).status = status := rfl

@[simp]
theorem settled_batchExecutionId (status : Status) (testStatus : Option TestStatus)
    (failureClass : Option String) (now : Timestamp) (row : BatchExecution) :
    (row.settled status testStatus failureClass now).batchExecutionId = row.batchExecutionId := rfl

@[simp]
theorem orphanedWith_status (failureClass : String) (now : Timestamp) (row : BatchExecution) :
    (row.orphanedWith failureClass now).status = .orphaned := rfl

@[simp]
theorem orphanedWith_batchExecutionId (failureClass : String) (now : Timestamp)
    (row : BatchExecution) :
    (row.orphanedWith failureClass now).batchExecutionId = row.batchExecutionId := rfl

@[simp]
theorem cancelledByOperator_status (now : Timestamp) (row : BatchExecution) :
    (row.cancelledByOperator now).status = .cancelled := rfl

@[simp]
theorem cancelledByOperator_batchExecutionId (now : Timestamp) (row : BatchExecution) :
    (row.cancelledByOperator now).batchExecutionId = row.batchExecutionId := rfl

end Columns

end BatchExecution

namespace ProtectedBootstrapExecution

/-- `lease_owner=%s AND lease_token=%s AND status='RUNNING'`. -/
def ownedBy (row : ProtectedBootstrapExecution) (worker token : String) : Prop :=
  row.leaseOwner = some worker ∧ row.leaseToken = some token ∧ row.status = .running

instance (row : ProtectedBootstrapExecution) (worker token : String) :
    Decidable (row.ownedBy worker token) :=
  inferInstanceAs (Decidable (_ ∧ _ ∧ _))

/-- The statuses from which a bootstrap is claimed. -/
def claimable : List Status := [.queued, .reconcileQueued]

/-- The columns `claim_protected_bootstrap` assigns. -/
def leasedTo (reconciliationOnly : Bool) (worker token : String) (leaseSeconds : Int)
    (now : Timestamp) (row : ProtectedBootstrapExecution) : ProtectedBootstrapExecution :=
  { row with
    status := .running
    publicationState := if reconciliationOnly then .reconciling else .buildingStaging
    startedAt := some (row.startedAt.getD now)
    heartbeatAt := now
    leaseOwner := some worker
    leaseToken := some token
    leaseExpiresAt := some (now + seconds leaseSeconds) }

/-- The columns `heartbeat_protected_bootstrap` assigns. -/
def renewed (leaseSeconds : Int) (now : Timestamp) (row : ProtectedBootstrapExecution) :
    ProtectedBootstrapExecution :=
  { row with heartbeatAt := now, leaseExpiresAt := some (now + seconds leaseSeconds) }

/-- The columns `request_cancel_protected_bootstrap` assigns before a first claim. -/
def cancelledByOperator (now : Timestamp) (row : ProtectedBootstrapExecution) :
    ProtectedBootstrapExecution :=
  { row with
    cancelRequested := true
    status := .cancelled
    publicationState := .notStarted
    finishedAt := some now
    heartbeatAt := now
    failureClass := some "OPERATOR_CANCELLED" }

/-- The columns it assigns otherwise. -/
def flagged (row : ProtectedBootstrapExecution) : ProtectedBootstrapExecution :=
  { row with cancelRequested := true, publicationState := .reconciliationRequired }

/-- The columns `request_reconcile_protected_bootstrap` assigns. -/
def requeued (now : Timestamp) (row : ProtectedBootstrapExecution) :
    ProtectedBootstrapExecution :=
  { row with
    status := .reconcileQueued
    cancelRequested := false
    failureClass := none
    heartbeatAt := now }

/-- The columns `finish_protected_bootstrap` assigns; the lease is released. -/
def finished (status : Status) (publicationState : PublicationState)
    (failureClass : Option String) (now : Timestamp) (row : ProtectedBootstrapExecution) :
    ProtectedBootstrapExecution :=
  { row with
    status := status
    publicationState := publicationState
    failureClass := failureClass
    finishedAt := some now
    heartbeatAt := now
    leaseOwner := none
    leaseToken := none
    leaseExpiresAt := none }

/-- The columns `reconcile_expired_protected_bootstraps` assigns. -/
def orphanedExpired (now : Timestamp) (row : ProtectedBootstrapExecution) :
    ProtectedBootstrapExecution :=
  row.finished .orphaned .reconciliationRequired
    (some "WORKER_LEASE_EXPIRED_REQUIRES_RECONCILIATION") now

section Columns

@[simp]
theorem leasedTo_status (reconciliationOnly : Bool) (worker token : String) (leaseSeconds : Int)
    (now : Timestamp) (row : ProtectedBootstrapExecution) :
    (row.leasedTo reconciliationOnly worker token leaseSeconds now).status = .running := rfl

@[simp]
theorem leasedTo_bootstrapExecutionId (reconciliationOnly : Bool) (worker token : String)
    (leaseSeconds : Int) (now : Timestamp) (row : ProtectedBootstrapExecution) :
    (row.leasedTo reconciliationOnly worker token leaseSeconds now).bootstrapExecutionId =
      row.bootstrapExecutionId := rfl

@[simp]
theorem renewed_status (leaseSeconds : Int) (now : Timestamp) (row : ProtectedBootstrapExecution) :
    (row.renewed leaseSeconds now).status = row.status := rfl

@[simp]
theorem renewed_bootstrapExecutionId (leaseSeconds : Int) (now : Timestamp)
    (row : ProtectedBootstrapExecution) :
    (row.renewed leaseSeconds now).bootstrapExecutionId = row.bootstrapExecutionId := rfl

@[simp]
theorem cancelledByOperator_status (now : Timestamp) (row : ProtectedBootstrapExecution) :
    (row.cancelledByOperator now).status = .cancelled := rfl

@[simp]
theorem cancelledByOperator_bootstrapExecutionId (now : Timestamp)
    (row : ProtectedBootstrapExecution) :
    (row.cancelledByOperator now).bootstrapExecutionId = row.bootstrapExecutionId := rfl

@[simp]
theorem flagged_status (row : ProtectedBootstrapExecution) :
    row.flagged.status = row.status := rfl

@[simp]
theorem flagged_bootstrapExecutionId (row : ProtectedBootstrapExecution) :
    row.flagged.bootstrapExecutionId = row.bootstrapExecutionId := rfl

@[simp]
theorem requeued_status (now : Timestamp) (row : ProtectedBootstrapExecution) :
    (row.requeued now).status = .reconcileQueued := rfl

@[simp]
theorem requeued_bootstrapExecutionId (now : Timestamp) (row : ProtectedBootstrapExecution) :
    (row.requeued now).bootstrapExecutionId = row.bootstrapExecutionId := rfl

@[simp]
theorem finished_status (status : Status) (publicationState : PublicationState)
    (failureClass : Option String) (now : Timestamp) (row : ProtectedBootstrapExecution) :
    (row.finished status publicationState failureClass now).status = status := rfl

@[simp]
theorem finished_bootstrapExecutionId (status : Status) (publicationState : PublicationState)
    (failureClass : Option String) (now : Timestamp) (row : ProtectedBootstrapExecution) :
    (row.finished status publicationState failureClass now).bootstrapExecutionId =
      row.bootstrapExecutionId := rfl

@[simp]
theorem orphanedExpired_status (now : Timestamp) (row : ProtectedBootstrapExecution) :
    (row.orphanedExpired now).status = .orphaned := rfl

@[simp]
theorem orphanedExpired_bootstrapExecutionId (now : Timestamp) (row : ProtectedBootstrapExecution) :
    (row.orphanedExpired now).bootstrapExecutionId = row.bootstrapExecutionId := rfl

end Columns

end ProtectedBootstrapExecution

namespace PostgresDurableQueue

/-- `_terminalize_parent_failure`. -/
def terminalizeParentFailure (db : Database) (now : Timestamp) (row : BatchExecution)
    (status : Status) (failureClass : Option String) : Database :=
  if status ∉ Status.closing then
    db
  else
    db.closeRun row.transformRunId status now
      (("batch_execution_id", .text row.batchExecutionId) ::
        match failureClass with
        | none => []
        | some failure => [("failure_class", .text failure)])

/-! ## Batches -/

def claim (db : Database) (now : Timestamp) (worker token : String) (leaseSeconds : Int)
    (locked : List String) : Option BatchExecution × Database :=
  let candidates := db.batchExecutions.rows.filter fun row =>
    row.status = .queued ∧ row.cancelRequested = false ∧ row.batchExecutionId ∉ locked
  match firstBy BatchExecution.earlier candidates with
  | none => (none, db)
  | some row =>
      let condition := fun stored : BatchExecution =>
        decide (stored.batchExecutionId = row.batchExecutionId ∧ stored.status = .queued)
      match db.batchExecutions.rows.find? condition with
      | none => (none, db)
      | some stored =>
          (some (stored.leasedTo worker token leaseSeconds now),
            ((db.updateExecutions condition
                (BatchExecution.leasedTo worker token leaseSeconds now)
                (BatchExecution.leasedTo_batchExecutionId worker token leaseSeconds
                  now)).updateAttempt
              row.batchExecutionId row.attempt .running now).event
                row.transformRunId (some row.batchExecutionId) .claimed
                [("lease_token", .text token), ("worker_id", .text worker)])

def recordNessieBranch (db : Database) (now : Timestamp) (eid worker token branch : String) :
    Except Failure (String × Database) :=
  match db.batchExecutions.lookup eid with
  | none => .error (.leaseLost "worker lease lost")
  | some row =>
      if ¬ row.ownedBy worker token then
        .error (.leaseLost "worker lease lost")
      else if ∃ persisted ∈ row.nessieBranch, persisted ≠ branch then
        .error (.durableQueueError "Nessie branch conflicts with persisted branch")
      else
        let condition := fun stored : BatchExecution =>
          decide (stored.batchExecutionId = eid ∧ stored.ownedBy worker token ∧
            leaseLive stored.leaseExpiresAt now ∧
            (stored.nessieBranch = none ∨ stored.nessieBranch = some branch))
        if db.batchExecutions.rows.any condition then
          .ok (branch, db.updateExecutions condition (BatchExecution.onBranch branch)
            (BatchExecution.onBranch_batchExecutionId branch))
        else
          .error (.leaseLost "worker lease lost")

def heartbeat (db : Database) (now : Timestamp) (eid worker token : String)
    (leaseSeconds : Int) : Bool × Database :=
  let condition := fun stored : BatchExecution =>
    decide (stored.batchExecutionId = eid ∧ stored.ownedBy worker token ∧
      leaseLive stored.leaseExpiresAt now)
  (db.batchExecutions.rows.any condition,
    db.updateExecutions condition (BatchExecution.renewed leaseSeconds now)
      (BatchExecution.renewed_batchExecutionId leaseSeconds now))

def cancelRequested (db : Database) (eid worker token : String) : Except Failure Bool :=
  match db.batchExecutions.rows.find? (fun row =>
      row.batchExecutionId = eid ∧ row.ownedBy worker token) with
  | none => .error (.leaseLost "worker lease lost")
  | some row => .ok row.cancelRequested

def requestCancel (db : Database) (now : Timestamp) (eid : String) :
    Except Failure (BatchExecution × Database) :=
  match db.batchExecutions.lookup eid with
  | none => .error (.durableQueueError "batch execution not found")
  | some row =>
      if row.status ∈ Status.terminal then
        .ok (row, db)
      else if row.status ∈ [Status.admitted, Status.queued] then
        .ok (row.cancelledByOperator now, terminalizeParentFailure
          ((db.updateExecutions (fun stored => stored.batchExecutionId = eid)
            (BatchExecution.cancelledByOperator now)
            (BatchExecution.cancelledByOperator_batchExecutionId now)).event
              row.transformRunId (some eid) (.batch .cancelled) [])
          now row .cancelled (some "OPERATOR_CANCELLED"))
      else
        .ok (row.flagged now,
          (db.updateExecutions (fun stored => stored.batchExecutionId = eid)
            (BatchExecution.flagged now) (BatchExecution.flagged_batchExecutionId now)).event
              row.transformRunId (some eid) .cancelRequested [])

def finish (db : Database) (now : Timestamp) (eid worker token : String) (status : Status)
    (testStatus : Option TestStatus) (failureClass : Option String) :
    Except Failure (BatchExecution × Database) :=
  if status ∉ Status.terminal then
    .error (.durableQueueError "terminal status required")
  else
    match db.batchExecutions.lookup eid with
    | none => .error (.leaseLost "worker lease lost")
    | some row =>
        if ¬ row.ownedBy worker token then
          .error (.leaseLost "worker lease lost")
        else
          let condition := fun stored : BatchExecution =>
            decide (stored.batchExecutionId = eid ∧ stored.ownedBy worker token ∧
              leaseLive stored.leaseExpiresAt now)
          match db.batchExecutions.rows.find? condition with
          | none => .error (.leaseLost "worker lease lost")
          | some stored =>
              .ok (stored.settled status testStatus failureClass now, terminalizeParentFailure
                (((db.updateExecutions condition
                    (BatchExecution.settled status testStatus failureClass now)
                    (BatchExecution.settled_batchExecutionId status testStatus failureClass
                      now)).updateAttempt
                  eid row.attempt status now).event row.transformRunId (some eid) (.batch status)
                    [("failure_class", .ofOption failureClass)])
                now row status failureClass)

def orphanIfOwned (db : Database) (now : Timestamp) (eid worker token failureClass : String) :
    Bool × Database :=
  match db.batchExecutions.rows.find? (fun row =>
      row.batchExecutionId = eid ∧ row.ownedBy worker token) with
  | none => (false, db)
  | some row =>
      (true, terminalizeParentFailure
        (((db.updateExecutions (fun stored => stored.batchExecutionId = eid ∧
              stored.leaseOwner = some worker ∧ stored.leaseToken = some token)
            (BatchExecution.orphanedWith failureClass now)
            (BatchExecution.orphanedWith_batchExecutionId failureClass now)).updateAttempt
              eid row.attempt .orphaned now).event row.transformRunId (some eid)
                (.batch .orphaned) [("failure_class", .text failureClass)])
        now row .orphaned (some failureClass))

/-- Terminalizes only the attempted batch: the run stays usable. -/
def rejectPrerequisiteIfOwned (db : Database) (now : Timestamp)
    (eid worker token failureClass : String) : Bool × Database :=
  match db.batchExecutions.rows.find? (fun row =>
      row.batchExecutionId = eid ∧ row.ownedBy worker token) with
  | none => (false, db)
  | some row =>
      (true, ((db.updateExecutions (fun stored => stored.batchExecutionId = eid)
          (BatchExecution.orphanedWith failureClass now)
          (BatchExecution.orphanedWith_batchExecutionId failureClass now)).updateAttempt
            eid row.attempt .orphaned now).event row.transformRunId (some eid)
              (.batch .orphaned) [("failure_class", .text failureClass)])

def leaseExpiredFailure : String := "WORKER_LEASE_EXPIRED_REQUIRES_RECONCILIATION"

/-- The rows `reconcile_expired` selects. -/
def expiredExecutions (db : Database) (now : Timestamp) (locked : List String) :
    List BatchExecution :=
  db.batchExecutions.rows.filter fun row =>
    row.status ∈ Status.active ∧ leaseExpired row.leaseExpiresAt now ∧
      row.batchExecutionId ∉ locked

/-- The body of the loop of `reconcile_expired`. -/
def orphanExpired (now : Timestamp) (db : Database) (row : BatchExecution) : Database :=
  terminalizeParentFailure
    (((db.updateExecutions (fun stored => stored.batchExecutionId = row.batchExecutionId)
        (BatchExecution.orphanedWith leaseExpiredFailure now)
        (BatchExecution.orphanedWith_batchExecutionId leaseExpiredFailure now)).updateAttempt
          row.batchExecutionId row.attempt .orphaned now).event row.transformRunId
            (some row.batchExecutionId) (.batch .orphaned)
            [("failure_class", .text leaseExpiredFailure)])
    now row .orphaned (some leaseExpiredFailure)

def reconcileExpired (db : Database) (now : Timestamp) (locked : List String) :
    List String × Database :=
  let rows := expiredExecutions db now locked
  (rows.map BatchExecution.batchExecutionId, rows.foldl (orphanExpired now) db)

/-! ## Protected bootstraps -/

/-- `claim_protected_bootstrap` answers with the row and `reconciliation_only`. -/
def claimProtectedBootstrap (db : Database) (now : Timestamp) (worker token : String)
    (leaseSeconds : Int) (locked : List String) :
    Option (ProtectedBootstrapExecution × Bool) × Database :=
  let candidates := db.protectedBootstrapExecutions.rows.filter fun row =>
    row.status ∈ ProtectedBootstrapExecution.claimable ∧ row.cancelRequested = false ∧
      row.bootstrapExecutionId ∉ locked
  match firstBy (fun best row => best.acceptedAt < row.acceptedAt) candidates with
  | none => (none, db)
  | some row =>
      let reconciliationOnly := decide (row.status = .reconcileQueued)
      let condition := fun stored : ProtectedBootstrapExecution =>
        decide (stored.bootstrapExecutionId = row.bootstrapExecutionId ∧
          stored.status ∈ ProtectedBootstrapExecution.claimable)
      match db.protectedBootstrapExecutions.rows.find? condition with
      | none => (none, db)
      | some stored =>
          (some (stored.leasedTo reconciliationOnly worker token leaseSeconds now,
              reconciliationOnly),
            db.updateBootstraps condition
              (ProtectedBootstrapExecution.leasedTo reconciliationOnly worker token
                leaseSeconds now)
              (ProtectedBootstrapExecution.leasedTo_bootstrapExecutionId reconciliationOnly
                worker token leaseSeconds now))

def heartbeatProtectedBootstrap (db : Database) (now : Timestamp) (eid worker token : String)
    (leaseSeconds : Int) : Bool × Database :=
  let condition := fun stored : ProtectedBootstrapExecution =>
    decide (stored.bootstrapExecutionId = eid ∧ stored.ownedBy worker token ∧
      leaseLive stored.leaseExpiresAt now)
  (db.protectedBootstrapExecutions.rows.any condition,
    db.updateBootstraps condition (ProtectedBootstrapExecution.renewed leaseSeconds now)
      (ProtectedBootstrapExecution.renewed_bootstrapExecutionId leaseSeconds now))

def cancelRequestedProtectedBootstrap (db : Database) (eid worker token : String) :
    Except Failure Bool :=
  match db.protectedBootstrapExecutions.rows.find? (fun row =>
      row.bootstrapExecutionId = eid ∧ row.ownedBy worker token) with
  | none => .error (.leaseLost "worker lease lost")
  | some row => .ok row.cancelRequested

def requestCancelProtectedBootstrap (db : Database) (now : Timestamp) (eid : String) :
    Except Failure (ProtectedBootstrapExecution × Database) :=
  match db.protectedBootstrapExecutions.lookup eid with
  | none => .error (.durableQueueError "protected bootstrap execution not found")
  | some row =>
      if row.status ∈ Status.terminal then
        .ok (row, db)
      else if row.status ∈ [Status.admitted, Status.queued] then
        .ok (row.cancelledByOperator now,
          db.updateBootstraps (fun stored => stored.bootstrapExecutionId = eid)
            (ProtectedBootstrapExecution.cancelledByOperator now)
            (ProtectedBootstrapExecution.cancelledByOperator_bootstrapExecutionId now))
      else
        .ok (row.flagged,
          db.updateBootstraps (fun stored => stored.bootstrapExecutionId = eid)
            ProtectedBootstrapExecution.flagged
            ProtectedBootstrapExecution.flagged_bootstrapExecutionId)

def requestReconcileProtectedBootstrap (db : Database) (now : Timestamp) (eid : String) :
    Except Failure (ProtectedBootstrapExecution × Database) :=
  match db.protectedBootstrapExecutions.lookup eid with
  | none => .error (.durableQueueError "protected bootstrap execution not found")
  | some row =>
      if row.status ∉ [Status.orphaned, Status.failed] ∨
          row.publicationState ≠ .reconciliationRequired then
        .error (.durableQueueError "protected bootstrap does not require reconciliation")
      else
        .ok (row.requeued now,
          db.updateBootstraps (fun stored => stored.bootstrapExecutionId = eid)
            (ProtectedBootstrapExecution.requeued now)
            (ProtectedBootstrapExecution.requeued_bootstrapExecutionId now))

/-- Unlike `finish`, neither the select nor the update reads
`lease_expires_at`. -/
def finishProtectedBootstrap (db : Database) (now : Timestamp) (eid worker token : String)
    (status : Status) (publicationState : PublicationState) (failureClass : Option String) :
    Except Failure (ProtectedBootstrapExecution × Database) :=
  if status ∉ Status.terminal then
    .error (.durableQueueError "terminal status required")
  else
    match db.protectedBootstrapExecutions.lookup eid with
    | none => .error (.leaseLost "worker lease lost")
    | some row =>
        if ¬ row.ownedBy worker token then
          .error (.leaseLost "worker lease lost")
        else
          let condition := fun stored : ProtectedBootstrapExecution =>
            decide (stored.bootstrapExecutionId = eid ∧ stored.leaseOwner = some worker ∧
              stored.leaseToken = some token)
          match db.protectedBootstrapExecutions.rows.find? condition with
          | none => .error (.leaseLost "worker lease lost")
          | some stored =>
              .ok (stored.finished status publicationState failureClass now,
                db.updateBootstraps condition
                  (ProtectedBootstrapExecution.finished status publicationState failureClass now)
                  (ProtectedBootstrapExecution.finished_bootstrapExecutionId status
                    publicationState failureClass now))

/-- The rows `reconcile_expired_protected_bootstraps` selects. -/
def expiredBootstraps (db : Database) (now : Timestamp) (locked : List String) :
    List ProtectedBootstrapExecution :=
  db.protectedBootstrapExecutions.rows.filter fun row =>
    row.status = .running ∧ leaseExpired row.leaseExpiresAt now ∧
      row.bootstrapExecutionId ∉ locked

/-- The body of its loop. -/
def orphanExpiredBootstrap (now : Timestamp) (db : Database)
    (row : ProtectedBootstrapExecution) : Database :=
  db.updateBootstraps (fun stored => stored.bootstrapExecutionId = row.bootstrapExecutionId)
    (ProtectedBootstrapExecution.orphanedExpired now)
    (ProtectedBootstrapExecution.orphanedExpired_bootstrapExecutionId now)

def reconcileExpiredProtectedBootstraps (db : Database) (now : Timestamp)
    (locked : List String) : List String × Database :=
  let rows := expiredBootstraps db now locked
  (rows.map ProtectedBootstrapExecution.bootstrapExecutionId,
    rows.foldl (orphanExpiredBootstrap now) db)

end PostgresDurableQueue

end PaymentsPlatform.TransformRuntime
