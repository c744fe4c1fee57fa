import PaymentsPlatform.TransformRuntime.ControlPlane

/-!
# The worker

`run_once` of the transform worker, as the queue calls it makes and what it
does with their answers.  Nessie, the command builder and the dbt child are
outside: `WorkerOutcomes` says how they turn out, and at which clock reading
each queue call runs.
-/

namespace PaymentsPlatform.TransformRuntime

/-- Queue calls, each followed by what is done with its answer. -/
inductive Script where
  | done (claimed : Bool)
  | call (now : Timestamp) (queueCall : QueueCall) (next : Except Failure Reply → Script)

/-- The requests a script makes against a database. -/
def Script.requests (db : Database) : Script → List Request
  | .done _ => []
  | .call now queueCall next =>
      let request : Request := ⟨now, .queue queueCall⟩
      request :: (next ((perform db request).map Prod.fst)).requests (step db request)

/-- One call of the `cancel` callback; `beat` is set when a heartbeat is due. -/
structure Poll where
  beat : Option Timestamp
  ask : Timestamp

/-- How the dbt child ends when no poll stops it. -/
inductive ChildExit where
  | exited (returnCode : Int)
  | timedOut

/-- What the worker finds outside the queue during one `run_once`. -/
structure WorkerOutcomes where
  enabled : Bool
  worker : String
  token : String
  leaseSeconds : Int
  reconcileAt : Timestamp
  reconcileLocked : List String
  claimAt : Timestamp
  claimLocked : List String
  /-- `ensure_nessie_branch`: the branch, or the name of the exception. -/
  branch : Except String String
  recordAt : Timestamp
  /-- `ensure_nessie_namespaces`: the name of the exception, if any. -/
  namespaces : Option String
  /-- `build_transform_command` and the replacement of its environment: the
  message of the exception, if any. -/
  command : Option String
  polls : List Poll
  child : ChildExit
  /-- `execute` raises. -/
  raises : Bool
  settleAt : Timestamp

/-- `ProcessResult`. -/
structure ProcessResult where
  status : Status
  failureClass : Option String

def ChildExit.result : ChildExit → ProcessResult
  | .exited returnCode =>
      if returnCode = 0 then ⟨.succeeded, none⟩ else ⟨.failed, some "DBT_BUILD_FAILED"⟩
  | .timedOut => ⟨.orphaned, some "TIMEOUT_REQUIRES_RECONCILIATION"⟩

def Failure.typeName : Failure → String
  | .ledgerError _ => "LedgerError"
  | .durableQueueError _ => "DurableQueueError"
  | .leaseLost _ => "LeaseLost"
  | .integrityError _ => "IntegrityError"

namespace Worker

variable (world : WorkerOutcomes) (eid : String)

def orphan (failureClass : String) : Script :=
  .call world.settleAt (.orphanIfOwned eid world.worker world.token failureClass)
    fun _ => .done true

/-- The end of `run_once`, after `execute`. -/
def settle (leaseLost : Bool) (result : ProcessResult) : Script :=
  if world.raises then
    orphan world eid "WORKER_EXCEPTION_UNKNOWN_WRITE_STATE"
  else if leaseLost then
    orphan world eid "WORKER_LEASE_LOST_REQUIRES_RECONCILIATION"
  else
    let finish := fun status testStatus failureClass => Script.call world.settleAt
      (.finish eid world.worker world.token status testStatus failureClass) fun _ => .done true
    match result.status with
    | .succeeded => finish .succeeded (some .passed) none
    | .failed => finish .failed (some .notRun) (some (result.failureClass.getD "DBT_BUILD_FAILED"))
    | .cancelled => finish .cancelled none (some (result.failureClass.getD "OPERATOR_CANCELLED"))
    | _ => finish .orphaned none (some (result.failureClass.getD
        "UNKNOWN_WRITE_STATE_REQUIRES_RECONCILIATION"))

/-- `execute`, seen from its `cancel_requested` callback. -/
def execute : List Poll → Script
  | [] => settle world eid false world.child.result
  | poll :: rest =>
      let cancelled : ProcessResult := ⟨.cancelled, some "OPERATOR_CANCELLED"⟩
      let ask := Script.call poll.ask (.cancelRequested eid world.worker world.token) fun answer =>
        match answer with
        | .ok (.flag false) => execute rest
        | .ok _ => settle world eid false cancelled
        | .error _ => settle world eid true cancelled
      match poll.beat with
      | none => ask
      | some now =>
          .call now (.heartbeat eid world.worker world.token world.leaseSeconds) fun answer =>
            match answer with
            | .ok (.flag true) => ask
            | _ => settle world eid true cancelled

/-- From the claimed row to the end. -/
def attempt : Script :=
  match world.branch with
  | .error exception => orphan world eid ("NESSIE_BRANCH_UNAVAILABLE:" ++ exception)
  | .ok branch =>
      .call world.recordAt (.recordNessieBranch eid world.worker world.token branch) fun answer =>
        match answer with
        | .error failure =>
            orphan world eid ("NESSIE_BRANCH_PERSISTENCE_FAILED:" ++ failure.typeName)
        | .ok _ =>
            match world.namespaces, world.command with
            | some exception, _ => orphan world eid ("NESSIE_NAMESPACE_UNAVAILABLE:" ++ exception)
            | none, some message => orphan world eid ("TRANSFORM_COMMAND_REJECTED:" ++ message)
            | none, none => execute world eid world.polls

end Worker

def runOnce (world : WorkerOutcomes) : Script :=
  if world.enabled then
    .call world.reconcileAt (.reconcileExpired world.reconcileLocked) fun _ =>
      .call world.claimAt (.claim world.worker world.token world.leaseSeconds world.claimLocked)
        fun answer =>
          match answer with
          | .ok (.claimed (some row)) => Worker.attempt world row.batchExecutionId
          | _ => .done false
  else
    .done false

/-- An operation of the control plane: a call of its own, or a whole `run_once`. -/
inductive Operation where
  | request (issued : Request)
  | runOnce (world : WorkerOutcomes)

/-- The requests an operation makes. -/
def Operation.requests (db : Database) : Operation → List Request
  | .request issued => [issued]
  | .runOnce world => (TransformRuntime.runOnce world).requests db

def operate (db : Database) (operation : Operation) : Database :=
  Machine.run step db (operation.requests db)

/-- All requests of a sequence of operations. -/
def requestsOf (db : Database) (operations : List Operation) : List Request :=
  Machine.log operate Operation.requests db operations

theorem run_operate (db : Database) (operations : List Operation) :
    Machine.run operate db operations = Machine.run step db (requestsOf db operations) := by
  induction operations generalizing db with
  | nil => rfl
  | cons operation rest ih =>
      rw [Machine.run_cons, ih, requestsOf, requestsOf, Machine.log_cons,
        Machine.run_append]
      rfl

theorem requestsOf_append (db : Database) (first second : List Operation) :
    requestsOf db (first ++ second) =
      requestsOf db first ++ requestsOf (Machine.run operate db first) second :=
  Machine.log_append operate Operation.requests db first second

theorem requestsOf_request (db : Database) (requests : List Request) :
    requestsOf db (requests.map .request) = requests := by
  induction requests generalizing db with
  | nil => rfl
  | cons request rest ih =>
      rw [requestsOf, List.map_cons, Machine.log_cons]
      exact congrArg (request :: ·) (ih _)

end PaymentsPlatform.TransformRuntime
