import PaymentsPlatform.Library.Machine
import PaymentsPlatform.TransformRuntime.Ledger
import PaymentsPlatform.TransformRuntime.DurableQueue

/-!
# The control plane as a machine

Ledger and queue share one Postgres database.  A request is one call at one
reading of the database clock; its step commits the call, or leaves the
database as it was when the call raises.  A run of this machine is an
interleaving of any number of callers and workers.
-/

namespace PaymentsPlatform.TransformRuntime

open PostgresDurableQueue

/-- A call of the durable queue about batches. -/
inductive QueueCall where
  | claim (worker token : String) (leaseSeconds : Int) (locked : List String)
  | recordNessieBranch (eid worker token branch : String)
  | heartbeat (eid worker token : String) (leaseSeconds : Int)
  | cancelRequested (eid worker token : String)
  | requestCancel (eid : String)
  | finish (eid worker token : String) (status : Status) (testStatus : Option TestStatus)
      (failureClass : Option String)
  | orphanIfOwned (eid worker token failureClass : String)
  | rejectPrerequisiteIfOwned (eid worker token failureClass : String)
  | reconcileExpired (locked : List String)

/-- A call of the durable queue about protected bootstraps. -/
inductive BootstrapCall where
  | claim (worker token : String) (leaseSeconds : Int) (locked : List String)
  | heartbeat (eid worker token : String) (leaseSeconds : Int)
  | cancelRequested (eid worker token : String)
  | requestCancel (eid : String)
  | requestReconcile (eid : String)
  | finish (eid worker token : String) (status : Status) (publicationState : PublicationState)
      (failureClass : Option String)
  | reconcileExpired (locked : List String)

inductive Call where
  | ledger (call : LedgerCall)
  | queue (call : QueueCall)
  | bootstrap (call : BootstrapCall)

inductive Reply where
  | ledger (reply : LedgerReply)
  | claimed (row : Option BatchExecution)
  | claimedBootstrap (row : Option (ProtectedBootstrapExecution × Bool))
  | batch (row : BatchExecution)
  | bootstrap (row : ProtectedBootstrapExecution)
  | branch (name : String)
  | flag (value : Bool)
  | ids (executionIds : List String)
  deriving DecidableEq

/-- A call, and the database time at which it runs. -/
structure Request where
  now : Timestamp
  call : Call

def performQueue (db : Database) (now : Timestamp) :
    QueueCall → Except Failure (Reply × Database)
  | .claim worker token leaseSeconds locked =>
      let (row, next) := claim db now worker token leaseSeconds locked
      .ok (.claimed row, next)
  | .recordNessieBranch eid worker token branch =>
      (recordNessieBranch db now eid worker token branch).map
        fun (name, next) => (.branch name, next)
  | .heartbeat eid worker token leaseSeconds =>
      let (beat, next) := heartbeat db now eid worker token leaseSeconds
      .ok (.flag beat, next)
  | .cancelRequested eid worker token =>
      (cancelRequested db eid worker token).map fun flag => (.flag flag, db)
  | .requestCancel eid =>
      (requestCancel db now eid).map fun (row, next) => (.batch row, next)
  | .finish eid worker token status testStatus failureClass =>
      (finish db now eid worker token status testStatus failureClass).map
        fun (row, next) => (.batch row, next)
  | .orphanIfOwned eid worker token failureClass =>
      let (owned, next) := orphanIfOwned db now eid worker token failureClass
      .ok (.flag owned, next)
  | .rejectPrerequisiteIfOwned eid worker token failureClass =>
      let (owned, next) := rejectPrerequisiteIfOwned db now eid worker token failureClass
      .ok (.flag owned, next)
  | .reconcileExpired locked =>
      let (executionIds, next) := reconcileExpired db now locked
      .ok (.ids executionIds, next)

def performBootstrap (db : Database) (now : Timestamp) :
    BootstrapCall → Except Failure (Reply × Database)
  | .claim worker token leaseSeconds locked =>
      let (row, next) := claimProtectedBootstrap db now worker token leaseSeconds locked
      .ok (.claimedBootstrap row, next)
  | .heartbeat eid worker token leaseSeconds =>
      let (beat, next) := heartbeatProtectedBootstrap db now eid worker token leaseSeconds
      .ok (.flag beat, next)
  | .cancelRequested eid worker token =>
      (cancelRequestedProtectedBootstrap db eid worker token).map fun flag => (.flag flag, db)
  | .requestCancel eid =>
      (requestCancelProtectedBootstrap db now eid).map fun (row, next) => (.bootstrap row, next)
  | .requestReconcile eid =>
      (requestReconcileProtectedBootstrap db now eid).map
        fun (row, next) => (.bootstrap row, next)
  | .finish eid worker token status publicationState failureClass =>
      (finishProtectedBootstrap db now eid worker token status publicationState failureClass).map
        fun (row, next) => (.bootstrap row, next)
  | .reconcileExpired locked =>
      let (executionIds, next) := reconcileExpiredProtectedBootstraps db now locked
      .ok (.ids executionIds, next)

def perform (db : Database) (request : Request) : Except Failure (Reply × Database) :=
  match request.call with
  | .ledger call =>
      (PostgresTransformLedger.perform db call).map fun (reply, next) => (.ledger reply, next)
  | .queue call => performQueue db request.now call
  | .bootstrap call => performBootstrap db request.now call

/-- One committed or rolled-back call. -/
def step (db : Database) (request : Request) : Database :=
  match perform db request with
  | .ok (_, next) => next
  | .error _ => db

/-- The database after an interleaving that starts on empty tables. -/
def after (requests : List Request) : Database := Machine.run step .empty requests

theorem after_append (first second : List Request) :
    after (first ++ second) = Machine.run step (after first) second :=
  Machine.run_append step .empty first second

/-- The database clock never goes back between the requests of a run. -/
def ClockMonotone (requests : List Request) : Prop :=
  requests.Pairwise fun earlier later => earlier.now ≤ later.now

instance (requests : List Request) : Decidable (ClockMonotone requests) :=
  inferInstanceAs (Decidable (requests.Pairwise _))

theorem step_of_ok {db next : Database} {request : Request} {reply : Reply}
    (performed : perform db request = .ok (reply, next)) : step db request = next := by
  simp [step, performed]

theorem step_of_error {db : Database} {request : Request} {failure : Failure}
    (raised : perform db request = .error failure) : step db request = db := by
  simp [step, raised]

end PaymentsPlatform.TransformRuntime
