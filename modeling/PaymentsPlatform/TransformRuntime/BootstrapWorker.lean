import PaymentsPlatform.TransformRuntime.BootstrapLeases
import PaymentsPlatform.TransformRuntime.TokenLink
import PaymentsPlatform.TransformRuntime.Worker

/-!
# The worker of a protected bootstrap

`run_once_protected_bootstrap` with the child that it starts, watches and stops.  Any number of
turns of any workers interleave with each other, with their children and with every other call
of the ledger and the queue.  A child outlives a worker that crashes or that has given it up.
-/

namespace PaymentsPlatform.TransformRuntime.BootstrapWorker

open PostgresDurableQueue
open RelyGuarantee (Program Event)

/-- The row that a turn has claimed. -/
structure Held where
  worker : String
  token : String
  eid : String
  transformRunId : String
  reconciliationOnly : Bool
  deriving DecidableEq

/-- How `execute` leaves its loop. -/
inductive Outcome where
  | exited (returnCode : Int)
  | cancelled
  | timedOut
  deriving DecidableEq

def Outcome.result : Outcome → ProcessResult
  | .exited returnCode => (ChildExit.exited returnCode).result
  | .cancelled => ⟨.cancelled, some "OPERATOR_CANCELLED"⟩
  | .timedOut => ChildExit.timedOut.result

/-- What a turn has to record. -/
inductive Report where
  /-- `build_protected_bootstrap_command` raises `ValueError`. -/
  | rejected (message : String)
  /-- `execute` raises. -/
  | raised
  | ended (leaseLost : Bool) (outcome : Outcome)
  deriving DecidableEq

/-- The arguments of `finish_protected_bootstrap`. -/
structure Conclusion where
  status : Status
  publicationState : PublicationState
  failureClass : Option String

def Report.conclusion : Report → Conclusion
  | .rejected message =>
      ⟨.failed, .notStarted,
        some (String.ofList (("BOOTSTRAP_COMMAND_REJECTED:" ++ message).toList.take 128))⟩
  | .raised => ⟨.orphaned, .reconciliationRequired, some "WORKER_EXCEPTION_UNKNOWN_WRITE_STATE"⟩
  | .ended leaseLost outcome =>
      if leaseLost then
        ⟨.orphaned, .reconciliationRequired, some "WORKER_LEASE_LOST_REQUIRES_RECONCILIATION"⟩
      else
        let result := outcome.result
        match result.status with
        | .succeeded => ⟨.succeeded, .published, none⟩
        | .failed =>
            ⟨.failed, .notStarted, some (result.failureClass.getD "BOOTSTRAP_FAILED")⟩
        | .cancelled =>
            ⟨.cancelled, .notStarted, some (result.failureClass.getD "OPERATOR_CANCELLED")⟩
        | _ =>
            ⟨.orphaned, .reconciliationRequired, some (result.failureClass.getD
              "UNKNOWN_WRITE_STATE_REQUIRES_RECONCILIATION")⟩

/-- The child of a turn; nothing is left of one that was killed. -/
structure Child where
  eid : String
  program : Option (TokenLink.Script TokenLink.Ending)

/-- `process.poll()`. -/
def Child.returnCode (child : Child) : Option Int :=
  match child.program with
  | none => some (-9)
  | some (.done (.ok .passed)) => some 0
  | some (.done _) => some 1
  | some (.execute _ _) => none

/-- `re.fullmatch(r"tr_[a-f0-9]{32}", transform_run_id)`. -/
def isRunId (text : String) : Bool :=
  match text.toList with
  | 't' :: 'r' :: '_' :: digits =>
      digits.length = 32 ∧ digits.all (· ∈ TokenLink.hexadecimalDigits)
  | _ => false

/-- `build_protected_bootstrap_command`, from the environment of the governed runtime or the
message with which the checks of that one fail. -/
def buildProtectedBootstrapCommand (supplied : Except String TokenLink.Environment)
    (held : Held) : Except String TokenLink.Environment :=
  if TokenLink.ExecutionId.fullmatch held.eid = none then
    .error "invalid protected bootstrap execution identity"
  else if ¬ isRunId held.transformRunId then
    .error "invalid transform run identity"
  else
    supplied.map fun base =>
      { base with
        getenv := fun name =>
          if name = "TRANSFORM_EXECUTION_ID" then some held.eid
          else if name = "PROTECTED_BOOTSTRAP_OPERATION" then some "initial_token_link_creation"
          else if name = "PROTECTED_BOOTSTRAP_VERSION" then some "1"
          else if name = "TRANSFORM_AUTHORITY" then some "restricted_identity_transform"
          else if name = "PROTECTED_BOOTSTRAP_MODE" then
            some (if held.reconciliationOnly then "reconcile" else "create")
          else base.getenv name }

/-- How far a turn has come. -/
inductive Phase where
  | idle
  | building (held : Held)
  /-- The private Trino is being started. -/
  | starting (held : Held) (environment : TokenLink.Environment)
  /-- The loop of `execute`. -/
  | watching (held : Held)
  /-- The child has been sent a signal. -/
  | stopping (held : Held) (leaseLost : Bool) (outcome : Outcome)
  | settling (held : Held) (report : Report)
  | over

/-- The calls that only a worker makes. -/
def ofWorker : Call → Bool
  | .bootstrap (.claim ..) | .bootstrap (.heartbeat ..) | .bootstrap (.finish ..) => true
  | _ => false

/-- A call of anyone else. -/
structure OutsideRequest where
  request : Request
  outside : ofWorker request.call = false

variable {Turn : Type}

/-- The control plane, the catalog, and the turns with their children. -/
structure World (Turn : Type) where
  db : Database
  store : TokenLink.Store
  phase : Turn → Phase
  child : Turn → Option Child
  /-- The executions whose child has come to its `RENAME`; nothing reads it. -/
  renamed : List String

inductive Action (Turn : Type) where
  | outside (issued : OutsideRequest)
  | claim (turn : Turn) (now : Timestamp) (worker token : String) (leaseSeconds : Int)
      (locked : List String)
  | build (turn : Turn) (supplied : Except String TokenLink.Environment)
  | start (turn : Turn)
  /-- A statement of the child. -/
  | child (turn : Turn) (event : Event TokenLink.Choice TokenLink.Fault)
  | beat (turn : Turn) (now : Timestamp) (leaseSeconds : Int)
  | ask (turn : Turn) (now : Timestamp)
  | timeOut (turn : Turn)
  /-- The child has ended by itself. -/
  | notice (turn : Turn)
  /-- The child has ended after the signal. -/
  | reap (turn : Turn)
  /-- An exception in `execute`. -/
  | raises (turn : Turn)
  | settle (turn : Turn) (now : Timestamp)
  | crash (turn : Turn)

/-- The statement is the `RENAME` of the staging table. -/
def isRename : TokenLink.Statement → Bool
  | .rename _ _ => true
  | _ => false

namespace Held

def heartbeat (held : Held) (now : Timestamp) (leaseSeconds : Int) : Request :=
  ⟨now, .bootstrap (.heartbeat held.eid held.worker held.token leaseSeconds)⟩

def cancelRequested (held : Held) (now : Timestamp) : Request :=
  ⟨now, .bootstrap (.cancelRequested held.eid held.worker held.token)⟩

def finish (held : Held) (now : Timestamp) (conclusion : Conclusion) : Request :=
  ⟨now, .bootstrap (.finish held.eid held.worker held.token conclusion.status
    conclusion.publicationState conclusion.failureClass)⟩

end Held

section Steps

variable [DecidableEq Turn]

namespace World

def setPhase (world : World Turn) (turn : Turn) (phase : Phase) : World Turn :=
  { world with phase := Function.update world.phase turn phase }

def setChild (world : World Turn) (turn : Turn) (child : Child) : World Turn :=
  { world with child := Function.update world.child turn (some child) }

/-- The database after a call. -/
def after (world : World Turn) (request : Request) : World Turn :=
  { world with db := step world.db request }

/-- Nothing admitted and no worker at work. -/
def initial (store : TokenLink.Store) : World Turn :=
  ⟨.empty, store, fun _ => .idle, fun _ => none, []⟩

end World

/-- `claim_protected_bootstrap`, and what `run_once_protected_bootstrap` takes from the row. -/
def claim (world : World Turn) (turn : Turn) (now : Timestamp) (worker token : String)
    (leaseSeconds : Int) (locked : List String) : World Turn :=
  let request : Request := ⟨now, .bootstrap (.claim worker token leaseSeconds locked)⟩
  (world.after request).setPhase turn <|
    match perform world.db request with
    | .ok (.claimedBootstrap (some (row, reconciliationOnly)), _) =>
        .building ⟨worker, token, row.bootstrapExecutionId, row.transformRunId,
          reconciliationOnly⟩
    | _ => .over

/-- The heartbeat of `cancel`. -/
def beat (world : World Turn) (turn : Turn) (held : Held) (now : Timestamp)
    (leaseSeconds : Int) : World Turn :=
  let request := held.heartbeat now leaseSeconds
  match perform world.db request with
  | .ok (.flag true, _) => world.after request
  | _ => (world.after request).setPhase turn (.stopping held true .cancelled)

/-- The question of `cancel`. -/
def ask (world : World Turn) (turn : Turn) (held : Held) (now : Timestamp) : World Turn :=
  match perform world.db (held.cancelRequested now) with
  | .ok (.flag false, _) => world
  | .ok _ => world.setPhase turn (.stopping held false .cancelled)
  | .error _ => world.setPhase turn (.stopping held true .cancelled)

/-- A statement of the child, whatever becomes of it. -/
def advanceChild (schema : Option (String × String)) (world : World Turn) (turn : Turn)
    (event : Event TokenLink.Choice TokenLink.Fault) : World Turn :=
  match world.child turn with
  | some ⟨eid, some (.execute statement next)⟩ =>
      let reached := RelyGuarantee.advance (TokenLink.perform schema) statement next world.store
        event
      { (world.setChild turn ⟨eid, reached.2⟩) with
        store := reached.1
        renamed := if isRename statement then eid :: world.renamed else world.renamed }
  | _ => world

def act (schema : Option (String × String)) (world : World Turn) : Action Turn → World Turn
  | .outside issued => world.after issued.request
  | .claim turn now worker token leaseSeconds locked =>
      match world.phase turn with
      | .idle => claim world turn now worker token leaseSeconds locked
      | _ => world
  | .build turn supplied =>
      match world.phase turn with
      | .building held =>
          match buildProtectedBootstrapCommand supplied held with
          | .ok environment => world.setPhase turn (.starting held environment)
          | .error message => world.setPhase turn (.settling held (.rejected message))
      | _ => world
  | .start turn =>
      match world.phase turn with
      | .starting held environment =>
          (world.setPhase turn (.watching held)).setChild turn
            ⟨held.eid, some (TokenLink.main environment)⟩
      | _ => world
  | .child turn event => advanceChild schema world turn event
  | .beat turn now leaseSeconds =>
      match world.phase turn with
      | .watching held => beat world turn held now leaseSeconds
      | _ => world
  | .ask turn now =>
      match world.phase turn with
      | .watching held => ask world turn held now
      | _ => world
  | .timeOut turn =>
      match world.phase turn with
      | .watching held => world.setPhase turn (.stopping held false .timedOut)
      | _ => world
  | .notice turn =>
      match world.phase turn, (world.child turn).bind Child.returnCode with
      | .watching held, some returnCode =>
          world.setPhase turn (.settling held (.ended false (.exited returnCode)))
      | _, _ => world
  | .reap turn =>
      match world.phase turn, (world.child turn).bind Child.returnCode with
      | .stopping held leaseLost outcome, some _ =>
          world.setPhase turn (.settling held (.ended leaseLost outcome))
      | _, _ => world
  | .raises turn =>
      match world.phase turn with
      | .starting held _ | .watching held | .stopping held _ _ =>
          world.setPhase turn (.settling held .raised)
      | _ => world
  | .settle turn now =>
      match world.phase turn with
      | .settling held report =>
          (world.after (held.finish now report.conclusion)).setPhase turn .over
      | _ => world
  | .crash turn => world.setPhase turn .over

end Steps

end PaymentsPlatform.TransformRuntime.BootstrapWorker
