import PaymentsPlatform.Library.Effects
import PaymentsPlatform.TransformRuntime.ControlPlane

/-!
# The operator endpoints

`cancel_protected_bootstrap`, `reconcile_protected_bootstrap` and `cancel_batch` of `api.py`.
They import `DurableQueueError` inside `try`, so the name is local to the handler and unbound
until then; the `except` clause reads it whatever was raised.

The two transactions of a handler see the databases `first` and `second`.
-/

namespace PaymentsPlatform.TransformRuntime

open Relational

namespace PostgresTransformLedger

def getBatch (db : Database) (executionId caller : String) : Except Failure BatchExecution :=
  match db.batchExecutions.rows.find? (fun row =>
      row.batchExecutionId = executionId ∧ row.callerIdentity = caller) with
  | none => .error (.ledgerError "batch execution not found")
  | some row => .ok row

def getProtectedBootstrap (db : Database) (executionId caller : String) :
    Except Failure ProtectedBootstrapExecution :=
  match db.protectedBootstrapExecutions.rows.find? (fun row =>
      row.bootstrapExecutionId = executionId ∧ row.callerIdentity = caller) with
  | none => .error (.ledgerError "protected bootstrap execution not found")
  | some row => .ok row

end PostgresTransformLedger

namespace Api

open Effects PostgresTransformLedger PostgresDurableQueue

/-- How the service is deployed. -/
structure Deployment where
  /-- `EXECUTION_ENABLED`. -/
  executionEnabled : Bool
  /-- The queue finds `TRANSFORM_LEDGER_APP_DATABASE_URL`. -/
  queueConfigured : Bool

inductive Raised where
  | failure (failure : Failure)
  /-- Of the driver: a text has a NUL character. -/
  | dataError
  | unboundLocalError (name : String)
  | httpException (statusCode : Nat) (detail : String)
  deriving DecidableEq

/-- `isinstance(exc, (LedgerError, DurableQueueError))`; `LeaseLost` is a `DurableQueueError`. -/
def Failure.isRejection : Failure → Bool
  | .ledgerError _ => true
  | .durableQueueError _ => true
  | .leaseLost _ => true
  | .integrityError _ => false

/-- The body of a handler; the state is whether `DurableQueueError` is bound. -/
abbrev Body := Effect Bool Raised

section Bodies

variable {Row : Type}

def call (result : Except Failure Row) : Body Row := Effect.lift (result.mapError .failure)

/-- The parameters of a statement, as the driver takes them. -/
def parameters (texts : List String) : Body Unit :=
  if texts.any fun text => text.toList.contains (Char.ofNat 0) then Effect.raise .dataError
  else pure ()

/-- `from .durable_queue import DurableQueueError, PostgresDurableQueue`. -/
def importDurableQueue : Body Unit := Effect.change fun _ => true

/-- `PostgresDurableQueue()`. -/
def postgresDurableQueue (deployment : Deployment) : Except Failure Unit :=
  if deployment.queueConfigured then .ok ()
  else .error (.durableQueueError "TRANSFORM_LEDGER_APP_DATABASE_URL is required")

/-- `try` with the clause `except (LedgerError, DurableQueueError)`. -/
def rejecting (detail : String) (body : Body Row) : Except Raised Row :=
  match body.outcome false with
  | .ok row => .ok row
  | .error raised =>
      -- the tuple is evaluated first
      if !body.final false then .error (.unboundLocalError "DurableQueueError")
      else
        match raised with
        | .failure failure =>
            if Failure.isRejection failure then .error (.httpException 409 detail)
            else .error (.failure failure)
        | raised => .error raised

end Bodies

/-! ## The handlers -/

section Handlers

variable (deployment : Deployment) (first second : Database) (now : Timestamp)
  (executionId caller : String)

/-- What the two bootstrap endpoints share. -/
def operateProtectedBootstrap
    (operate : Database → Timestamp → String →
      Except Failure (ProtectedBootstrapExecution × Database))
    (detail : String) : Except Raised (ProtectedBootstrapExecution × Database) :=
  rejecting detail do
    parameters [executionId, caller]
    let _ ← call (getProtectedBootstrap first executionId caller)
    if !deployment.executionEnabled then
      call (.error (.ledgerError "protected bootstrap execution is disabled"))
    else
      importDurableQueue
      call (postgresDurableQueue deployment)
      call (operate second now executionId)

def cancelProtectedBootstrap : Except Raised (ProtectedBootstrapExecution × Database) :=
  operateProtectedBootstrap deployment first second now executionId caller
    requestCancelProtectedBootstrap "cancellation rejected"

def reconcileProtectedBootstrap : Except Raised (ProtectedBootstrapExecution × Database) :=
  operateProtectedBootstrap deployment first second now executionId caller
    requestReconcileProtectedBootstrap "reconciliation rejected"

def cancelBatch : Except Raised (BatchExecution × Database) :=
  rejecting "cancellation rejected" do
    parameters [executionId, caller]
    let _ ← call (getBatch first executionId caller)
    if !deployment.executionEnabled then
      call (transition second executionId .cancelled none (some "OPERATOR_CANCELLED") now)
    else
      importDurableQueue
      call (postgresDurableQueue deployment)
      call (requestCancel second now executionId)

end Handlers

/-! ## What the operator is promised -/

section Promises

variable {Row : Type} (deployment : Deployment) (first second : Database) (now : Timestamp)
  (executionId caller : String)

/-- The updated row, or the declared status where the ledger or the queue rejects. -/
def declared (detail : String) : Except Failure Row → Except Raised Row
  | .ok row => .ok row
  | .error _ => .error (.httpException 409 detail)

/-- The ledger and the queue, asked to do the operation on a bootstrap. -/
def bootstrapOperation
    (operate : Database → Timestamp → String →
      Except Failure (ProtectedBootstrapExecution × Database)) :
    Except Failure (ProtectedBootstrapExecution × Database) := do
  let _ ← getProtectedBootstrap first executionId caller
  if !deployment.executionEnabled then
    throw (.ledgerError "protected bootstrap execution is disabled")
  postgresDurableQueue deployment
  operate second now executionId

/-- The ledger and the queue, asked to cancel a batch. -/
def batchCancellation : Except Failure (BatchExecution × Database) := do
  let _ ← getBatch first executionId caller
  if !deployment.executionEnabled then
    transition second executionId .cancelled none (some "OPERATOR_CANCELLED") now
  else
    postgresDurableQueue deployment
    requestCancel second now executionId

/-- The driver takes the text. -/
def Plain (text : String) : Prop := Char.ofNat 0 ∉ text.toList

inductive Endpoint where
  | cancelProtectedBootstrap
  | reconcileProtectedBootstrap
  | cancelBatch

/-- The endpoint answers as declared and lets no other exception escape. -/
def FailsClosed : Endpoint → Prop
  | .cancelProtectedBootstrap =>
      cancelProtectedBootstrap deployment first second now executionId caller =
        declared "cancellation rejected" (bootstrapOperation deployment first second now
          executionId caller requestCancelProtectedBootstrap)
  | .reconcileProtectedBootstrap =>
      reconcileProtectedBootstrap deployment first second now executionId caller =
        declared "reconciliation rejected" (bootstrapOperation deployment first second now
          executionId caller requestReconcileProtectedBootstrap)
  | .cancelBatch =>
      cancelBatch deployment first second now executionId caller =
        declared "cancellation rejected" (batchCancellation deployment first second now
          executionId caller)

/-- The caller has an execution with the id. -/
def Known : Endpoint → Prop
  | .cancelBatch => ∃ row ∈ first.batchExecutions.rows,
      row.batchExecutionId = executionId ∧ row.callerIdentity = caller
  | _ => ∃ row ∈ first.protectedBootstrapExecutions.rows,
      row.bootstrapExecutionId = executionId ∧ row.callerIdentity = caller

/-- The batch is one that may be cancelled without the queue. -/
def Cancellable : Endpoint → Prop
  | .cancelBatch => ∃ row ∈ second.batchExecutions.rows,
      row.batchExecutionId = executionId ∧ Status.cancelled ∈ row.status.transitions
  | _ => False

end Promises

/-! ## When the promise is kept -/

instance (text : String) : Decidable (Plain text) := inferInstanceAs (Decidable (¬ _))

section Handling

variable {Row Other : Type} {detail : String} {next : Row → Body Other}

theorem rejecting_raised {program : Body Row} {raised : Raised}
    (raises : program.outcome false = .error raised) (unbound : program.final false = false) :
    rejecting detail (program >>= next) = .error (.unboundLocalError "DurableQueueError") := by
  simp [rejecting, Effect.outcome_bind, Effect.final_bind, raises, unbound]

theorem rejecting_passed {program : Body Row} {row : Row}
    (passes : program.outcome false = .ok row) (unbound : program.final false = false) :
    rejecting detail (program >>= next) = rejecting detail (next row) := by
  simp [rejecting, Effect.outcome_bind, Effect.final_bind, passes, unbound]

theorem rejecting_parameters {texts : List String} {next : Unit → Body Other} :
    rejecting detail (parameters texts >>= next) =
      if ∀ text ∈ texts, Plain text then rejecting detail (next ())
      else .error (.unboundLocalError "DurableQueueError") := by
  by_cases plain : ∀ text ∈ texts, Plain text
  · rw [if_pos plain]
    have clean : (texts.any fun text => text.toList.contains (Char.ofNat 0)) = false := by
      simpa [Plain] using plain
    have passes : parameters texts = pure () := if_neg (Bool.eq_false_iff.mp clean)
    rw [passes]
    exact rejecting_passed rfl rfl
  · rw [if_neg plain]
    have unclean : (texts.any fun text => text.toList.contains (Char.ofNat 0)) = true := by
      simpa [Plain] using plain
    have raises : parameters texts = Effect.raise .dataError := if_pos unclean
    rw [raises]
    exact rejecting_raised rfl rfl

theorem rejecting_call {result : Except Failure Row} :
    rejecting detail (call result >>= next) =
      match result with
      | .ok row => rejecting detail (next row)
      | .error _ => .error (.unboundLocalError "DurableQueueError") := by
  cases result with
  | ok row => exact rejecting_passed rfl rfl
  | error failure => exact rejecting_raised rfl rfl

theorem call_bind {result : Except Failure Row} {next : Row → Except Failure Other} :
    (call result >>= fun row => call (next row)) = call (result >>= next) := by
  cases result <;> rfl

theorem rejecting_import {result : Except Failure Row}
    (rejects : ∀ failure, result = .error failure → Failure.isRejection failure = true) :
    rejecting detail (importDurableQueue >>= fun _ => call result) = declared detail result := by
  cases result with
  | ok row => rfl
  | error failure =>
      have rejected : Failure.isRejection failure = true := rejects failure rfl
      have raised : (importDurableQueue >>= fun _ => call (.error failure) : Body Row).outcome
          false = .error (.failure failure) := rfl
      have bound : (importDurableQueue >>= fun _ => call (.error failure) : Body Row).final
          false = true := rfl
      simp [rejecting, raised, bound, rejected, declared]

end Handling

section Rejections

variable {db : Database} {now : Timestamp} {eid : String} {failure : Failure}

theorem requestCancel_rejects (raised : requestCancel db now eid = .error failure) :
    Failure.isRejection failure = true := by
  unfold requestCancel at raised
  split at raised
  next =>
    cases raised
    rfl
  next =>
    split at raised
    next => cases raised
    next => split at raised <;> cases raised

theorem requestCancelProtectedBootstrap_rejects
    (raised : requestCancelProtectedBootstrap db now eid = .error failure) :
    Failure.isRejection failure = true := by
  unfold requestCancelProtectedBootstrap at raised
  split at raised
  next =>
    cases raised
    rfl
  next =>
    split at raised
    next => cases raised
    next => split at raised <;> cases raised

theorem requestReconcileProtectedBootstrap_rejects
    (raised : requestReconcileProtectedBootstrap db now eid = .error failure) :
    Failure.isRejection failure = true := by
  unfold requestReconcileProtectedBootstrap at raised
  split at raised
  next =>
    cases raised
    rfl
  next =>
    split at raised
    next =>
      cases raised
      rfl
    next => cases raised

theorem queue_rejects {Row : Type} {deployment : Deployment} {result : Except Failure Row}
    (rejects : ∀ failure, result = .error failure → Failure.isRejection failure = true) :
    ∀ failure, (postgresDurableQueue deployment >>= fun _ => result) = .error failure →
      Failure.isRejection failure = true := by
  intro failure raised
  unfold postgresDurableQueue at raised
  split at raised
  next => exact rejects failure raised
  next =>
    cases raised
    rfl

end Rejections

section Endpoints

variable (deployment : Deployment) (first second : Database) (now : Timestamp)
  (executionId caller : String)

theorem unbound_ne_declared {Row : Type} (detail : String) (result : Except Failure Row) :
    (.error (.unboundLocalError "DurableQueueError") : Except Raised Row) ≠
      declared detail result := by
  cases result <;> exact nofun

theorem getProtectedBootstrap_isOk : (∃ row, getProtectedBootstrap first executionId caller = .ok row) ↔
    Known first executionId caller .cancelProtectedBootstrap := by
  unfold getProtectedBootstrap Known
  split
  next absent => simpa [List.find?_eq_none] using absent
  next row found =>
    have met := List.find?_some found
    simp only [decide_eq_true_eq] at met
    exact iff_of_true ⟨row, rfl⟩ ⟨row, List.mem_of_find?_eq_some found, met⟩

theorem getBatch_isOk : (∃ row, getBatch first executionId caller = .ok row) ↔
    Known first executionId caller .cancelBatch := by
  unfold getBatch Known
  split
  next absent => simpa [List.find?_eq_none] using absent
  next row found =>
    have met := List.find?_some found
    simp only [decide_eq_true_eq] at met
    exact iff_of_true ⟨row, rfl⟩ ⟨row, List.mem_of_find?_eq_some found, met⟩

theorem operateProtectedBootstrap_declared_iff (detail : String)
    {operate : Database → Timestamp → String →
      Except Failure (ProtectedBootstrapExecution × Database)}
    (rejects : ∀ failure, operate second now executionId = .error failure →
      Failure.isRejection failure = true) :
    operateProtectedBootstrap deployment first second now executionId caller operate detail =
        declared detail (bootstrapOperation deployment first second now executionId caller operate) ↔
      (Plain executionId ∧ Plain caller) ∧
        Known first executionId caller .cancelProtectedBootstrap ∧
        deployment.executionEnabled = true := by
  rw [operateProtectedBootstrap, rejecting_parameters]
  by_cases plain : ∀ text ∈ [executionId, caller], Plain text
  · rw [if_pos plain, rejecting_call, bootstrapOperation, ← getProtectedBootstrap_isOk]
    have bothPlain : Plain executionId ∧ Plain caller := by simpa using plain
    cases found : getProtectedBootstrap first executionId caller with
    | error failure =>
        exact iff_of_false (unbound_ne_declared detail _) fun met => by simpa using met.2.1
    | ok row =>
        cases enabled : deployment.executionEnabled with
        | false => exact iff_of_false (unbound_ne_declared detail _) fun met => nomatch met.2.2
        | true =>
            refine iff_of_true ?_ ⟨bothPlain, ⟨row, rfl⟩, rfl⟩
            simp only [Bool.not_true, Bool.false_eq_true, if_false, call_bind]
            exact rejecting_import (queue_rejects rejects)
  · rw [if_neg plain]
    refine iff_of_false (unbound_ne_declared detail _) fun met => plain ?_
    simpa using met.1

theorem rejecting_alone {Row : Type} (detail : String) (result : Except Failure Row) :
    rejecting detail (call result) = declared detail result ↔ result.isOk = true := by
  cases result with
  | ok row => exact iff_of_true rfl rfl
  | error failure => exact iff_of_false (unbound_ne_declared detail _) nofun

theorem transition_isOk :
    (transition second executionId .cancelled none (some "OPERATOR_CANCELLED") now).isOk = true ↔
      Cancellable second executionId .cancelBatch := by
  unfold transition Cancellable
  split
  next absent =>
    refine iff_of_false nofun ?_
    rintro ⟨row, stored, keyed, -⟩
    exact Table.lookup_eq_none.mp absent row stored keyed
  next row found =>
    obtain ⟨stored, keyed⟩ := Table.lookup_eq_some.mp found
    split
    next refused =>
      refine iff_of_false nofun ?_
      rintro ⟨other, otherStored, otherKeyed, allowed⟩
      obtain rfl := Table.eq_of_key_eq otherStored stored (otherKeyed.trans keyed.symm)
      exact refused allowed
    next allowed => exact iff_of_true rfl ⟨row, stored, keyed, not_not.mp allowed⟩

/-- Each endpoint keeps its promise exactly where nothing is rejected before the import. -/
theorem failsClosed_iff (endpoint : Endpoint) :
    FailsClosed deployment first second now executionId caller endpoint ↔
      (Plain executionId ∧ Plain caller) ∧ Known first executionId caller endpoint ∧
        (deployment.executionEnabled = true ∨ Cancellable second executionId endpoint) := by
  cases endpoint with
  | cancelProtectedBootstrap =>
      refine (operateProtectedBootstrap_declared_iff deployment first second now executionId caller
        "cancellation rejected" fun _ => requestCancelProtectedBootstrap_rejects).trans ?_
      simp only [Cancellable, or_false]
  | reconcileProtectedBootstrap =>
      refine (operateProtectedBootstrap_declared_iff deployment first second now executionId caller
        "reconciliation rejected" fun _ => requestReconcileProtectedBootstrap_rejects).trans ?_
      simp only [Known, Cancellable, or_false]
  | cancelBatch =>
      unfold FailsClosed cancelBatch
      rw [rejecting_parameters]
      by_cases plain : ∀ text ∈ [executionId, caller], Plain text
      · rw [if_pos plain, rejecting_call, batchCancellation, ← getBatch_isOk]
        have bothPlain : Plain executionId ∧ Plain caller := by simpa using plain
        cases found : getBatch first executionId caller with
        | error failure =>
            exact iff_of_false (unbound_ne_declared _ _) fun met => by simpa using met.2.1
        | ok row =>
            cases enabled : deployment.executionEnabled with
            | false =>
                refine (rejecting_alone ..).trans ?_
                rw [transition_isOk]
                simp [bothPlain]
            | true =>
                refine iff_of_true ?_ ⟨bothPlain, ⟨row, rfl⟩, Or.inl rfl⟩
                simp only [Bool.not_true, Bool.false_eq_true, if_false, call_bind]
                exact rejecting_import (queue_rejects fun _ => requestCancel_rejects)
      · rw [if_neg plain]
        refine iff_of_false (unbound_ne_declared _ _) fun met => plain ?_
        simpa using met.1

end Endpoints

/-- The id of an execution that the caller does not have ends in an `UnboundLocalError`. -/
theorem unknownExecution_not_failsClosed :
    ¬ ∀ deployment first second now executionId caller endpoint,
      FailsClosed deployment first second now executionId caller endpoint := by
  intro closed
  have promised := closed ⟨true, true⟩ .empty .empty 0 "be_0" "protected-bootstrap-operator"
    .cancelProtectedBootstrap
  exact unbound_ne_declared _ _ promised

end Api

end PaymentsPlatform.TransformRuntime
