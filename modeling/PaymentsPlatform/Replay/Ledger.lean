import PaymentsPlatform.Library.Json
import PaymentsPlatform.Library.Table
import PaymentsPlatform.Library.Transactions

/-!
# The replay ledger

`ReplayLedger` over SQLite: `reserve` and `transition` are programs that send one statement after
the other over their connection.  `utc_now` and SHA-256 come from outside.
-/

namespace PaymentsPlatform.Replay

open Relational Transactional

inductive ReplayStatus where
  | requested
  | approved
  | inProgress
  | succeeded
  | failed
  | suppressedDuplicate
  | blockedPolicy
  deriving DecidableEq, Repr

namespace ReplayStatus

def value : ReplayStatus → String
  | requested => "REQUESTED"
  | approved => "APPROVED"
  | inProgress => "IN_PROGRESS"
  | succeeded => "SUCCEEDED"
  | failed => "FAILED"
  | suppressedDuplicate => "SUPPRESSED_DUPLICATE"
  | blockedPolicy => "BLOCKED_POLICY"

/-- `ALLOWED_TRANSITIONS`. -/
def allowedTransitions : ReplayStatus → List ReplayStatus
  | requested => [approved, blockedPolicy, suppressedDuplicate]
  | approved => [inProgress, blockedPolicy]
  | inProgress => [succeeded, failed]
  | failed => []
  | succeeded => []
  | suppressedDuplicate => []
  | blockedPolicy => []

/-- The statuses that complete a replay. -/
def completing : List ReplayStatus := [succeeded, failed, suppressedDuplicate, blockedPolicy]

end ReplayStatus

inductive Raised where
  | valueError (text : String)
  | permissionError (text : String)
  | keyError (text : String)
  | runtimeError (text : String)
  | integrityError
  | sqliteError (text : String)
  | other (text : String)
  deriving DecidableEq, Repr

structure ReplayRequest where
  replayBatchId : String
  replayRequestId : String
  sourceTopic : String
  sourcePartition : Option Int
  sourceOffset : Option Int
  targetTopic : String
  replayReasonCode : String
  requestedByServiceOrRole : String
  approved : Bool
  policyResolved : Bool
  sourceEventReference : Option String
  deriving DecidableEq

/-- `hashlib.sha256(text.encode("utf-8")).hexdigest()`. -/
abbrev Sha256 := List Char → String

section Validation

variable (sha256 : Sha256)

def canonicalReplayIdentity (sourceTopic : String) (sourcePartition sourceOffset : Option Int)
    (targetTopic : String) : String :=
  sha256 (Json.dumps (fun _ => "") (.object [
    ("source_topic", .string sourceTopic),
    ("source_partition", (sourcePartition.map Json.int).getD .null),
    ("source_offset", (sourceOffset.map Json.int).getD .null),
    ("target_topic", .string targetTopic)]))

def ReplayRequest.identity (request : ReplayRequest) : String :=
  canonicalReplayIdentity sha256 request.sourceTopic request.sourcePartition request.sourceOffset
    request.targetTopic

end Validation

def validateRequest (request : ReplayRequest) : Except Raised Unit := do
  if request.replayRequestId.isEmpty then
    throw (.valueError "missing replay_request_id")
  if request.replayBatchId.isEmpty then
    throw (.valueError "missing replay_batch_id")
  if request.sourceTopic.isEmpty then
    throw (.valueError "missing source_topic")
  if request.sourcePartition.isNone then
    throw (.valueError "missing source_partition")
  if request.sourceOffset.isNone then
    throw (.valueError "missing source_offset")
  if request.targetTopic.isEmpty then
    throw (.valueError "missing target_topic")
  if !request.policyResolved then
    throw (.permissionError "policy unresolved")
  if !request.approved then
    throw (.permissionError "approval absent")
  if request.replayReasonCode.isEmpty then
    throw (.valueError "missing replay_reason_code")
  if request.requestedByServiceOrRole.isEmpty then
    throw (.valueError "missing requested_by_service_or_role")

def prohibitedFields : List String :=
  ["payload", "raw_payload", "encoded_payload", "message_value", "kafka_key", "beneficiary_id",
    "beneficiary_token", "nin", "account_number", "wallet_number", "exception", "exception_text",
    "traceback"]

/-- `text.lower()`, as far as the result can be ASCII: the Kelvin sign becomes a `k`. -/
def lower (text : String) : String :=
  String.ofList (text.toList.map fun c => if c = Char.ofNat 0x212A then 'k' else c.toLower)

def rejectProhibitedMetadata (metadata : List String) : Except Raised Unit :=
  let prohibited := ((metadata.map lower).filter (· ∈ prohibitedFields)).dedup
  if prohibited.isEmpty then .ok ()
  else .error (.valueError ("prohibited replay metadata fields supplied: " ++
    ",".intercalate (prohibited.insertionSort (· ≤ ·))))

/-! ## The tables -/

structure LedgerRow where
  replayIdentity : String
  replayBatchId : String
  replayRequestId : String
  sourceTopic : String
  sourcePartition : Option Int
  sourceOffset : Option Int
  sourceEventReference : Option String
  targetTopic : String
  requestedAt : String
  startedAt : Option String
  completedAt : Option String
  replayStatus : ReplayStatus
  replayReasonCode : String
  requestedByServiceOrRole : String
  attemptNumber : Nat
  previousReplayReference : Option String
  resultCode : Option String
  deriving DecidableEq

structure AttemptRow where
  replayIdentity : String
  replayRequestId : String
  replayBatchId : String
  attemptedAt : String
  attemptStatus : ReplayStatus
  resultCode : Option String
  deriving DecidableEq

/-- `replay_ledger` with its `PRIMARY KEY` and `UNIQUE` columns, and `replay_attempts` in the order
of `attempt_id`. -/
structure Database where
  replayLedger : Table LedgerRow.replayIdentity
  requestsUnique : (replayLedger.rows.map LedgerRow.replayRequestId).Nodup
  replayAttempts : List AttemptRow

namespace Database

def empty : Database := ⟨.empty, List.nodup_nil, []⟩

inductive Statement where
  | selectStatus (replayIdentity : String)
  | insertAttempt (row : AttemptRow)
  | insertLedger (row : LedgerRow)
  | updateLedger (newStatus : ReplayStatus) (startedAt completedAt resultCode : Option String)
      (replayIdentity : String)

end Database

open Database (Statement)

namespace LedgerRow

/-- The row as the `UPDATE` assigns it. -/
def assigned (newStatus : ReplayStatus) (startedAt completedAt resultCode : Option String)
    (row : LedgerRow) : LedgerRow :=
  { row with
    replayStatus := newStatus
    startedAt := startedAt <|> row.startedAt
    completedAt := completedAt <|> row.completedAt
    resultCode := resultCode }

@[simp]
theorem assigned_replayIdentity (newStatus : ReplayStatus)
    (startedAt completedAt resultCode : Option String) (row : LedgerRow) :
    (row.assigned newStatus startedAt completedAt resultCode).replayIdentity =
      row.replayIdentity := rfl

/-- The columns declared `NOT NULL` that a request can leave out. -/
def complete (row : LedgerRow) : Bool := row.sourcePartition.isSome && row.sourceOffset.isSome

end LedgerRow

namespace Database

def insertLedger (database : Database) (row : LedgerRow) : Option Database :=
  match inserted : database.replayLedger.insert?
      (fun stored => stored.replayRequestId = row.replayRequestId) row with
  | none => none
  | some replayLedger =>
      if row.complete then
        some {
          replayLedger := replayLedger
          requestsUnique := by
            obtain ⟨-, clear, rows⟩ := Table.insert?_eq_some.mp inserted
            rw [rows, List.map_append, List.map_singleton, List.nodup_append]
            refine ⟨database.requestsUnique, List.nodup_singleton _, ?_⟩
            rintro known listed _ (single : _ ∈ [_])
            obtain ⟨stored, present, rfl⟩ := List.mem_map.mp listed
            rw [List.mem_singleton.mp single]
            simpa using clear stored present
          replayAttempts := database.replayAttempts }
      else none

def updateLedger (database : Database) (newStatus : ReplayStatus)
    (startedAt completedAt resultCode : Option String) (replayIdentity : String) : Database where
  replayLedger := database.replayLedger.update
    (fun row => row.replayIdentity = replayIdentity)
    (LedgerRow.assigned newStatus startedAt completedAt resultCode)
    (LedgerRow.assigned_replayIdentity newStatus startedAt completedAt resultCode)
  requestsUnique := by
    have sameRequests : (LedgerRow.replayRequestId ∘ fun row : LedgerRow =>
        if decide (row.replayIdentity = replayIdentity) = true then
          row.assigned newStatus startedAt completedAt resultCode
        else row) = LedgerRow.replayRequestId := by
      funext row
      by_cases met : row.replayIdentity = replayIdentity <;> simp [met, LedgerRow.assigned]
    rw [Table.rows_update, List.map_map, sameRequests]
    exact database.requestsUnique
  replayAttempts := database.replayAttempts

/-- What a statement does, and the statuses that a `SELECT` fetches. -/
def perform : Statement → Database → Except Raised (Database × List ReplayStatus)
  | .selectStatus replayIdentity, database =>
      .ok (database, ((database.replayLedger.lookup replayIdentity).map
        LedgerRow.replayStatus).toList)
  | .insertAttempt row, database =>
      .ok ({ database with replayAttempts := database.replayAttempts ++ [row] }, [])
  | .insertLedger row, database =>
      match database.insertLedger row with
      | some changed => .ok (changed, [])
      | none => .error .integrityError
  | .updateLedger newStatus startedAt completedAt resultCode replayIdentity, database =>
      .ok (database.updateLedger newStatus startedAt completedAt resultCode replayIdentity, [])

end Database

/-- SQLite, with the texts of its `OperationalError`. -/
def sqlite : Engine Database Statement ReplayStatus Raised where
  perform := Database.perform
  busy := .sqliteError "database is locked"
  nested := .sqliteError "cannot start a transaction within a transaction"
  noCommit := .sqliteError "cannot commit - no transaction is active"
  noRollback := .sqliteError "cannot rollback - no transaction is active"

/-! ## The calls -/

/-- Python over one connection. -/
abbrev Session := ExceptT Raised (Program Statement ReplayStatus Raised)

def execute (request : Request Statement) : Session (List ReplayStatus) :=
  ExceptT.mk (.execute request .done)

def inTransaction : Session Bool :=
  ExceptT.mk (.inTransaction fun isOpen => .done (.ok isOpen))

/-- `except Exception`: roll back what is open and raise again. -/
def rollbackAndRaise {α : Type} (raised : Raised) : Session α := do
  if ← inTransaction then
    let _ ← execute .rollback
  throw raised

namespace ReplayRequest

/-- The row that `reserve` inserts. -/
def ledgerRow (request : ReplayRequest) (identity requestedAt : String) : LedgerRow where
  replayIdentity := identity
  replayBatchId := request.replayBatchId
  replayRequestId := request.replayRequestId
  sourceTopic := request.sourceTopic
  sourcePartition := request.sourcePartition
  sourceOffset := request.sourceOffset
  sourceEventReference := request.sourceEventReference
  targetTopic := request.targetTopic
  requestedAt := requestedAt
  startedAt := none
  completedAt := none
  replayStatus := .requested
  replayReasonCode := request.replayReasonCode
  requestedByServiceOrRole := request.requestedByServiceOrRole
  attemptNumber := 1
  previousReplayReference := none
  resultCode := none

def attemptRow (request : ReplayRequest) (identity attemptedAt : String)
    (attemptStatus : ReplayStatus) (resultCode : String) : AttemptRow where
  replayIdentity := identity
  replayRequestId := request.replayRequestId
  replayBatchId := request.replayBatchId
  attemptedAt := attemptedAt
  attemptStatus := attemptStatus
  resultCode := some resultCode

end ReplayRequest

/-- The body of the `try` of `reserve`. -/
def reserveInTransaction (request : ReplayRequest) (identity requestedAt attemptedAt : String) :
    Session String := do
  let _ ← execute .begin
  let existing ← execute (.perform (.selectStatus identity))
  match existing with
  | _ :: _ =>
      let _ ← execute (.perform (.insertAttempt
        (request.attemptRow identity attemptedAt .suppressedDuplicate "PRIOR_RESERVATION_EXISTS")))
      let _ ← execute .commit
      throw (.runtimeError "duplicate replay suppressed")
  | [] =>
      let _ ← execute (.perform (.insertLedger (request.ledgerRow identity requestedAt)))
      let _ ← execute (.perform (.insertAttempt
        (request.attemptRow identity attemptedAt .requested "RESERVED")))
      let _ ← execute .commit
      return identity

/-- The `except` clauses of `reserve`. -/
def reserveFailed (raised : Raised) : Session String :=
  match raised with
  | .integrityError => do
      tryCatch (do let _ ← execute .rollback) fun failed =>
        match failed with
        | .sqliteError _ => pure ()
        | .integrityError => pure ()
        | failed => throw failed
      throw (.runtimeError "duplicate replay suppressed")
  | raised => rollbackAndRaise raised

section Calls

variable (sha256 : Sha256)

def reserve (request : ReplayRequest) (extraMetadata : Option (List String))
    (requestedAt attemptedAt : String) : Session String := do
  MonadExcept.ofExcept (validateRequest request)
  MonadExcept.ofExcept (rejectProhibitedMetadata (extraMetadata.getD []))
  let identity := request.identity sha256
  tryCatch (reserveInTransaction request identity requestedAt attemptedAt) reserveFailed

/-- `transition` of a row with the status `current`. -/
def assignStatus (replayIdentity : String) (newStatus : ReplayStatus) (resultCode : Option String)
    (now : String) (current : ReplayStatus) : Session Unit :=
  if newStatus ∉ current.allowedTransitions then
    throw (.valueError ("invalid replay transition: " ++ current.value ++ "->" ++ newStatus.value))
  else do
    let startedAt := if newStatus = .inProgress then some now else none
    let completedAt := if newStatus ∈ ReplayStatus.completing then some now else none
    let _ ← execute (.perform
      (.updateLedger newStatus startedAt completedAt resultCode replayIdentity))
    let _ ← execute .commit

/-- The body of the `try` of `transition`. -/
def transitionInTransaction (replayIdentity : String) (newStatus : ReplayStatus)
    (resultCode : Option String) (now : String) : Session Unit := do
  let rows ← execute (.perform (.selectStatus replayIdentity))
  match rows with
  | [] => throw (.keyError "replay identity not found")
  | current :: _ => assignStatus replayIdentity newStatus resultCode now current

def transition (replayIdentity : String) (newStatus : ReplayStatus) (resultCode : Option String)
    (now : String) : Session Unit := do
  let _ ← execute .begin
  tryCatch (transitionInTransaction replayIdentity newStatus resultCode now) rollbackAndRaise

inductive Call where
  | reserve (request : ReplayRequest) (extraMetadata : Option (List String))
      (requestedAt attemptedAt : String)
  | transition (replayIdentity : String) (newStatus : ReplayStatus) (resultCode : Option String)
      (now : String)

/-- The call; what it returns is the identity it reserved, or nothing. -/
def Call.program : Call → Session (Option String)
  | .reserve request extraMetadata requestedAt attemptedAt =>
      some <$> Replay.reserve sha256 request extraMetadata requestedAt attemptedAt
  | .transition replayIdentity newStatus resultCode now =>
      (fun _ => none) <$> Replay.transition replayIdentity newStatus resultCode now

end Calls

end PaymentsPlatform.Replay
