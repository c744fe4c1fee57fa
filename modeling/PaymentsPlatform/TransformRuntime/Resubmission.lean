import PaymentsPlatform.TransformRuntime.OperatorApi
import PaymentsPlatform.TransformRuntime.Prerequisites

/-!
# A batch submitted again

`submit_batch` of `api.py` admits in one transaction and queues in a second one.  The second
is made whatever the status of the row that the first returned.
-/

namespace PaymentsPlatform.TransformRuntime

open Relational PostgresTransformLedger

/-! ## Constraints that hold throughout -/

/-- `UNIQUE(caller_identity,idempotency_key)` holds of the two rows only if they are one. -/
def SameKey (first second : BatchExecution) : Prop :=
  first.callerIdentity = second.callerIdentity ∧ first.idempotencyKey = second.idempotencyKey

/-- `one_active_batch` holds of the two rows only if they are one. -/
def BothActive (first second : BatchExecution) : Prop :=
  first.transformRunId = second.transformRunId ∧ first.batchId = second.batchId ∧
    first.status ∉ Status.terminal ∧ second.status ∉ Status.terminal

namespace Board

def Once (alike : BatchExecution → BatchExecution → Prop) (board : Board) : Prop :=
  ∀ first ∈ board.executions, ∀ second ∈ board.executions, alike first second → first = second

/-- The caller has the run. -/
def HasParent (board : Board) (runId caller : String) : Prop :=
  ∃ run ∈ board.runs, run.transformRunId = runId ∧ run.callerIdentity = caller

end Board

section Moves

variable {request : Request} {board : Board} {move : Move}

theorem BatchExecution.SameIdentity.refl (row : BatchExecution) : row.SameIdentity row :=
  ⟨rfl, rfl, rfl, rfl, rfl, rfl, rfl⟩

theorem BatchExecution.SameIdentity.trans {first second third : BatchExecution}
    (earlier : first.SameIdentity second) (later : second.SameIdentity third) :
    first.SameIdentity third where
  batchExecutionId := later.batchExecutionId.trans earlier.batchExecutionId
  transformRunId := later.transformRunId.trans earlier.transformRunId
  callerIdentity := later.callerIdentity.trans earlier.callerIdentity
  idempotencyKey := later.idempotencyKey.trans earlier.idempotencyKey
  batchId := later.batchId.trans earlier.batchId
  modelFingerprint := later.modelFingerprint.trans earlier.modelFingerprint
  attempt := later.attempt.trans earlier.attempt

/-- What has become of an execution; it is under way only if it was. -/
structure Became (old row : BatchExecution) : Prop where
  identity : old.SameIdentity row
  wasOpen : row.status ∉ Status.terminal → old.status ∉ Status.terminal

theorem Lawful.origin (lawful : Lawful request board move) {row : BatchExecution}
    (stored : row ∈ (board.apply move).executions) :
    move = .admitBatch row ∨ ∃ old ∈ board.executions, Became old row := by
  rcases lawful.mem_apply stored with before | isNew | ⟨old, oldStored, revision, revises, rfl⟩
  · exact Or.inr ⟨row, before, .refl row, id⟩
  · exact Or.inl isNew
  · exact Or.inr ⟨old, oldStored, revises.sameIdentity, fun _ => revises.selected_open⟩

theorem Lawful.once {alike : BatchExecution → BatchExecution → Prop}
    (symmetric : ∀ {first second}, alike first second → alike second first)
    (carried : ∀ {first second old}, Became old second → alike first second → alike first old)
    (lawful : Lawful request board move)
    (fresh : ∀ row, move = .admitBatch row → ∀ old ∈ board.executions, ¬ alike row old)
    (once : board.Once alike) : (board.apply move).Once alike := by
  intro first firstStored second secondStored areAlike
  rcases lawful.origin firstStored with
    firstNew | ⟨old, oldStored, toFirst⟩
  · rcases lawful.origin secondStored with secondNew | ⟨other, otherStored, toSecond⟩
    · cases firstNew.symm.trans secondNew
      rfl
    · exact absurd (carried toSecond areAlike) (fresh first firstNew other otherStored)
  · have oldAlike : alike old second := symmetric (carried toFirst (symmetric areAlike))
    rcases lawful.origin secondStored with secondNew | ⟨other, otherStored, toSecond⟩
    · exact absurd (symmetric oldAlike) (fresh second secondNew old oldStored)
    · have same : old = other := once old oldStored other otherStored (carried toSecond oldAlike)
      subst same
      exact Table.eq_of_key_eq firstStored secondStored (toFirst.identity.batchExecutionId.trans
        toSecond.identity.batchExecutionId.symm)

theorem Lawful.keysOnce (lawful : Lawful request board move) (once : board.Once SameKey) :
    (board.apply move).Once SameKey := by
  refine lawful.once (fun alike => ⟨alike.1.symm, alike.2.symm⟩) ?_ ?_ once
  · intro first second old became alike
    exact ⟨alike.1.trans became.identity.callerIdentity,
      alike.2.trans became.identity.idempotencyKey⟩
  · rintro row rfl old stored alike
    cases lawful with
    | admitBatch _ _ freshKey _ _ _ _ =>
        exact freshKey old stored ⟨alike.1.symm, alike.2.symm⟩

theorem Lawful.activeOnce (lawful : Lawful request board move) (once : board.Once BothActive) :
    (board.apply move).Once BothActive := by
  refine lawful.once (fun alike => ⟨alike.1.symm, alike.2.1.symm, alike.2.2.2, alike.2.2.1⟩)
    ?_ ?_ once
  · intro first second old became alike
    exact ⟨alike.1.trans became.identity.transformRunId,
      alike.2.1.trans became.identity.batchId, alike.2.2.1, became.wasOpen alike.2.2.2⟩
  · rintro row rfl old stored alike
    cases lawful with
    | admitBatch _ _ _ noneActive _ _ _ =>
        exact alike.2.2.2 (noneActive old stored alike.1.symm alike.2.1.symm)

theorem Lawful.hasParent {runId caller : String} (lawful : Lawful request board move)
    (has : board.HasParent runId caller) : (board.apply move).HasParent runId caller := by
  obtain ⟨run, stored, sameId, sameCaller⟩ := has
  cases lawful with
  | admitRun _ _ fresh => exact ⟨run, (Table.mem_push fresh).mpr (.inl stored), sameId, sameCaller⟩
  | revise _ _ =>
      simp only [Board.HasParent, Board.apply, Board.revise_runs]
      split
      next closes =>
        refine ⟨_, Table.mem_update.mpr ⟨run, stored, rfl⟩, ?_⟩
        split <;> exact ⟨sameId, sameCaller⟩
      next keeps => exact ⟨run, stored, sameId, sameCaller⟩
  | admitBatch _ _ _ _ _ _ _ | admitBootstrap _ _ _ _ _ _ | reviseBootstrap _ _ =>
      exact ⟨run, stored, sameId, sameCaller⟩

theorem keysOnce_after (requests : List Request) : (after requests).board.Once SameKey :=
  step_simulates.run_invariant (fun _ _ _ lawful => lawful.keysOnce)
    (show Database.empty.board.Once SameKey from
      fun row stored => absurd stored (Table.not_mem_empty row)) requests

theorem activeOnce_after (requests : List Request) : (after requests).board.Once BothActive :=
  step_simulates.run_invariant (fun _ _ _ lawful => lawful.activeOnce)
    (show Database.empty.board.Once BothActive from
      fun row stored => absurd stored (Table.not_mem_empty row)) requests

end Moves

/-! ## The endpoint -/

namespace Api

/-- A request to `submit_batch`, with the flag of the process that serves it and the values that
it generates. -/
structure Submission where
  executionEnabled : Bool
  runId : String
  caller : String
  idempotencyKey : String
  batchId : String
  uuid : String
  accepted : Timestamp
  timestamp : Timestamp

/-- The same request, served anew. -/
def Submission.again (submission : Submission) (executionEnabled : Bool) (uuid : String)
    (accepted timestamp : Timestamp) : Submission :=
  { submission with executionEnabled, uuid, accepted, timestamp }

section Serving

variable (plan : ExecutionPlan) (modelFingerprint : ExecutionBatch → Digest)
  (submission : Submission)

/-- `except LedgerError`. -/
def refusing {Answer : Type} (statusCode : Nat) (detail : String) :
    Except Failure Answer → Except Raised Answer
  | .ok answer => .ok answer
  | .error (.ledgerError _) => .error (.httpException statusCode detail)
  | .error failure => .error (.failure failure)

/-- `ledger.submit_batch`, in the first transaction. -/
def Submission.admit (first : Database) : Except Raised (BatchExecution × Database) :=
  match plan.lookup submission.batchId with
  | none => .error (.httpException 409 "transform batch rejected")
  | some batch => refusing 409 "transform batch rejected" <|
      PostgresTransformLedger.submitBatch first submission.runId submission.caller
        submission.idempotencyKey batch (modelFingerprint batch) submission.uuid submission.accepted

/-- What the endpoint answers with 202, or raises. -/
def Submission.answer (first second : Database) : Except Raised BatchExecution :=
  match submission.admit plan modelFingerprint first with
  | .error raised => .error raised
  | .ok (row, _) =>
      if !submission.executionEnabled then .ok row
      else refusing 503 "transform execution unavailable"
        ((transition second row.batchExecutionId .queued none none submission.timestamp).map
          Prod.fst)

/-- The first transaction, as a request of the control plane. -/
def Submission.admission : List Request :=
  match plan.lookup submission.batchId with
  | none => []
  | some batch => [⟨submission.accepted, .ledger (.submitBatch submission.runId submission.caller
      submission.idempotencyKey batch (modelFingerprint batch) submission.uuid
      submission.accepted)⟩]

/-- The second transaction, as a request of the control plane. -/
def Submission.queueing (first : Database) : List Request :=
  match submission.admit plan modelFingerprint first with
  | .error _ => []
  | .ok (row, _) =>
      if !submission.executionEnabled then []
      else [⟨submission.timestamp, .ledger
        (.transition row.batchExecutionId .queued none none submission.timestamp)⟩]

/-- The history after a submission has been served, with the requests between its transactions. -/
def Submission.served (before between : List Request) : List Request :=
  before ++ submission.admission plan modelFingerprint ++ between ++
    submission.queueing plan modelFingerprint (after before)

/-- The submission is answered with 202 and the execution, and no execution is created. -/
def Submission.Repeats (first second : Database) (row : BatchExecution) : Prop :=
  (∃ again, submission.answer plan modelFingerprint first second = .ok again ∧
    again.batchExecutionId = row.batchExecutionId) ∧
  (Machine.run step first (submission.admission plan modelFingerprint)).batchExecutions.rows.map
    BatchExecution.batchExecutionId = first.batchExecutions.rows.map BatchExecution.batchExecutionId

/-- The ledger returns the execution again: it is recorded under the key, or the key is free and
the execution is still under way. -/
def Submission.Returned (first : Database) (row : BatchExecution) : Prop :=
  ∃ stored ∈ first.batchExecutions.rows, stored.batchExecutionId = row.batchExecutionId ∧
    ((stored.callerIdentity = submission.caller ∧
        stored.idempotencyKey = submission.idempotencyKey) ∨
      (stored.status ∉ Status.terminal ∧ ∀ other ∈ first.batchExecutions.rows,
        ¬ (other.callerIdentity = submission.caller ∧
          other.idempotencyKey = submission.idempotencyKey)))

/-- The execution has not been queued yet. -/
def Admitted (second : Database) (row : BatchExecution) : Prop :=
  ∃ stored ∈ second.batchExecutions.rows, stored.batchExecutionId = row.batchExecutionId ∧
    stored.status = .admitted

end Serving

end Api

/-! ## What the ledger returns -/

section Returning

variable {db next : Database} {runId caller key uuid : String} {batch : ExecutionBatch}
  {fingerprint : Digest} {accepted : Timestamp} {row : BatchExecution}

/-- The execution is recorded under the key of the call, with its semantics. -/
structure Recorded (runId caller key : String) (batch : ExecutionBatch) (fingerprint : Digest)
    (row : BatchExecution) : Prop where
  callerIdentity : row.callerIdentity = caller
  idempotencyKey : row.idempotencyKey = key
  transformRunId : row.transformRunId = runId
  batchId : row.batchId = batch.batchId
  modelFingerprint : row.modelFingerprint = fingerprint

/-- The execution is of the batch and under way, and the key is free. -/
structure Standing (db : Database) (runId caller key : String) (batch : ExecutionBatch)
    (row : BatchExecution) : Prop where
  transformRunId : row.transformRunId = runId
  batchId : row.batchId = batch.batchId
  isOpen : row.status ∉ Status.terminal
  keyFree : ∀ other ∈ db.batchExecutions.rows,
    ¬ (other.callerIdentity = caller ∧ other.idempotencyKey = key)

theorem hasParent_of_submitBatch
    (submitted : submitBatch db runId caller key batch fingerprint uuid accepted =
      .ok (row, next)) : db.board.HasParent runId caller := by
  unfold submitBatch at submitted
  split at submitted
  next => simp at submitted
  next run found =>
    have met := List.find?_some found
    exact ⟨run, List.mem_of_find?_eq_some found, by simpa using met⟩

/-- Where the row that `submit_batch` returns comes from. -/
theorem submitBatch_source
    (submitted : submitBatch db runId caller key batch fingerprint uuid accepted =
      .ok (row, next)) :
    (next = db ∧ row ∈ db.batchExecutions ∧
        (Recorded runId caller key batch fingerprint row ∨
          Standing db runId caller key batch row)) ∨
      (row = admittedBatch runId caller key batch fingerprint uuid accepted ∧
        (∀ stored ∈ db.batchExecutions, stored.batchExecutionId ≠ row.batchExecutionId) ∧
        next.board = db.board.admitBatch row) := by
  have source := submitBatch_ok submitted
  unfold submitBatch at submitted
  split at submitted
  next => simp at submitted
  next run runFound =>
    split at submitted
    next prior found =>
      split at submitted
      next => simp at submitted
      next same =>
        cases submitted
        have keyed := List.find?_some found
        simp only [decide_eq_true_eq] at keyed
        simp only [ne_eq, not_or, not_not] at same
        exact Or.inl ⟨rfl, List.mem_of_find?_eq_some found,
          Or.inl ⟨keyed.1, keyed.2, same.1, same.2.1, same.2.2⟩⟩
    next keyFree =>
      split at submitted
      next active found =>
        cases submitted
        have met := List.find?_some found
        simp only [activeExecution, decide_eq_true_eq] at met
        refine Or.inl ⟨rfl, List.mem_of_find?_eq_some found, Or.inr ⟨met.1, met.2.1, met.2.2, ?_⟩⟩
        simpa using List.find?_eq_none.mp keyFree
      next noneActive =>
        split at submitted
        next complete =>
          obtain ⟨isRow, executions, attempts, inserted, -, isNext⟩ :=
            Database.admitBatch_ok submitted
          rcases source with rfl | ⟨rfl, -, -, -, -, fresh, -, same⟩
          · have stored : row ∈ next.batchExecutions := by
              rw [isNext, isRow]
              exact (Table.mem_insert inserted).mpr (Or.inr rfl)
            exact absurd (congrArg _ isRow) ((Table.insert?_eq_some.mp inserted).1 row stored)
          · exact Or.inr ⟨rfl, fresh, same⟩
        next => simp at submitted

theorem submitBatch_recorded (parent : db.board.HasParent runId caller)
    (once : db.board.Once SameKey) (stored : row ∈ db.batchExecutions)
    (recorded : Recorded runId caller key batch fingerprint row) :
    submitBatch db runId caller key batch fingerprint uuid accepted = .ok (row, db) := by
  obtain ⟨run, runStored, sameRun⟩ := parent
  have runFound : (db.transformRuns.rows.find? fun run =>
      decide (run.transformRunId = runId ∧ run.callerIdentity = caller)).isSome :=
    List.find?_isSome.mpr ⟨run, runStored, decide_eq_true sameRun⟩
  have keyFound : (db.batchExecutions.rows.find? fun other =>
      decide (other.callerIdentity = caller ∧ other.idempotencyKey = key)).isSome :=
    List.find?_isSome.mpr ⟨row, stored,
      decide_eq_true ⟨recorded.callerIdentity, recorded.idempotencyKey⟩⟩
  obtain ⟨found, isFound⟩ := Option.isSome_iff_exists.mp runFound
  obtain ⟨prior, isPrior⟩ := Option.isSome_iff_exists.mp keyFound
  have keyed := List.find?_some isPrior
  simp only [decide_eq_true_eq] at keyed
  have same : prior = row := once prior (List.mem_of_find?_eq_some isPrior) row stored
    ⟨keyed.1.trans recorded.callerIdentity.symm, keyed.2.trans recorded.idempotencyKey.symm⟩
  subst same
  unfold submitBatch
  rw [isFound, isPrior]
  exact if_neg (by simp [recorded.transformRunId, recorded.batchId, recorded.modelFingerprint])

theorem submitBatch_standing (parent : db.board.HasParent runId caller)
    (once : db.board.Once BothActive) (stored : row ∈ db.batchExecutions)
    (standing : Standing db runId caller key batch row) :
    submitBatch db runId caller key batch fingerprint uuid accepted = .ok (row, db) := by
  obtain ⟨run, runStored, sameRun⟩ := parent
  have runFound : (db.transformRuns.rows.find? fun run =>
      decide (run.transformRunId = runId ∧ run.callerIdentity = caller)).isSome :=
    List.find?_isSome.mpr ⟨run, runStored, decide_eq_true sameRun⟩
  have keyFree : (db.batchExecutions.rows.find? fun other =>
      decide (other.callerIdentity = caller ∧ other.idempotencyKey = key)) = none :=
    List.find?_eq_none.mpr fun other listed => by simpa using standing.keyFree other listed
  have activeFound : (db.batchExecutions.rows.find? (activeExecution runId batch.batchId)).isSome :=
    List.find?_isSome.mpr ⟨row, stored,
      decide_eq_true ⟨standing.transformRunId, standing.batchId, standing.isOpen⟩⟩
  obtain ⟨found, isFound⟩ := Option.isSome_iff_exists.mp runFound
  obtain ⟨active, isActive⟩ := Option.isSome_iff_exists.mp activeFound
  have met := List.find?_some isActive
  simp only [activeExecution, decide_eq_true_eq] at met
  have same : active = row := once active (List.mem_of_find?_eq_some isActive) row stored
    ⟨met.1.trans standing.transformRunId.symm, met.2.1.trans standing.batchId.symm, met.2.2,
      standing.isOpen⟩
  subst same
  unfold submitBatch
  rw [isFound, keyFree, isActive]

end Returning

/-! ## Through a history -/

namespace Api

section Histories

variable {plan : ExecutionPlan} {modelFingerprint : ExecutionBatch → Digest}
  {submission : Submission} {row : BatchExecution}

theorem stored_later {db : Database} (stored : row ∈ db.batchExecutions) (later : List Request) :
    ∃ kept ∈ (Machine.run step db later).batchExecutions, row.SameIdentity kept := by
  obtain ⟨kept, keptStored, -, same⟩ : ∃ kept ∈ (Machine.run step db later).batchExecutions,
      kept.batchExecutionId = row.batchExecutionId ∧ row.SameIdentity kept :=
    run_follows (fun _ _ _ _ revises same => same.trans revises.sameIdentity) stored (.refl row)
  exact ⟨kept, keptStored, same⟩

theorem admit_ok {first next : Database}
    (admitted : submission.admit plan modelFingerprint first = .ok (row, next)) :
    ∃ batch, plan.lookup submission.batchId = some batch ∧
      PostgresTransformLedger.submitBatch first submission.runId submission.caller
        submission.idempotencyKey batch (modelFingerprint batch) submission.uuid
        submission.accepted = .ok (row, next) := by
  unfold Submission.admit at admitted
  split at admitted
  next => cases admitted
  next batch planned =>
    refine ⟨batch, planned, ?_⟩
    cases submitted : PostgresTransformLedger.submitBatch first submission.runId
        submission.caller submission.idempotencyKey batch (modelFingerprint batch) submission.uuid
        submission.accepted with
    | ok answered =>
        rw [submitted] at admitted
        cases admitted
        rfl
    | error failure =>
        rw [submitted] at admitted
        cases failure <;> cases admitted

theorem run_admission {first next : Database}
    (admitted : submission.admit plan modelFingerprint first = .ok (row, next)) :
    Machine.run step first (submission.admission plan modelFingerprint) = next := by
  obtain ⟨batch, planned, submitted⟩ := admit_ok admitted
  simp only [Submission.admission, planned, Machine.run_cons, Machine.run_nil]
  have performed : perform first ⟨submission.accepted, .ledger (.submitBatch submission.runId
      submission.caller submission.idempotencyKey batch (modelFingerprint batch) submission.uuid
      submission.accepted)⟩ = .ok (.ledger (.batch row), next) := by
    simp only [perform, PostgresTransformLedger.perform, submitted, Except.map]
  exact step_of_ok performed

theorem answer_ok {first second : Database} {answered : BatchExecution}
    (isAnswered : submission.answer plan modelFingerprint first second = .ok answered) :
    ∃ row next, submission.admit plan modelFingerprint first = .ok (row, next) ∧
      answered.batchExecutionId = row.batchExecutionId ∧
      (submission.executionEnabled = true → Admitted second row) := by
  unfold Submission.answer at isAnswered
  split at isAnswered
  next => cases isAnswered
  next row next admitted =>
    refine ⟨row, next, admitted, ?_⟩
    cases enabled : submission.executionEnabled with
    | false =>
        simp only [enabled, Bool.not_false, if_true, Except.ok.injEq] at isAnswered
        exact ⟨congrArg _ isAnswered.symm, nofun⟩
    | true =>
        simp only [enabled, Bool.not_true, Bool.false_eq_true, if_false] at isAnswered
        cases moved : transition second row.batchExecutionId .queued none none
            submission.timestamp with
        | error failure =>
            rw [moved] at isAnswered
            cases failure <;> cases isAnswered
        | ok queued =>
            rw [moved] at isAnswered
            cases isAnswered
            obtain ⟨stored, isStored, sameId, allowed, isQueued, -⟩ := transition_ok moved
            refine ⟨isQueued ▸ sameId, fun _ => ⟨stored, isStored, sameId, ?_⟩⟩
            cases status : stored.status <;> simp_all [Status.transitions]

theorem answer_of_admit {first next : Database} (second : Database)
    (admitted : submission.admit plan modelFingerprint first = .ok (row, next))
    (waiting : submission.executionEnabled = true → Admitted second row) :
    ∃ again, submission.answer plan modelFingerprint first second = .ok again ∧
      again.batchExecutionId = row.batchExecutionId := by
  cases enabled : submission.executionEnabled with
  | false => exact ⟨row, by simp [Submission.answer, admitted, enabled], rfl⟩
  | true =>
      obtain ⟨stored, isStored, sameId, isAdmitted⟩ := waiting enabled
      have found : second.batchExecutions.lookup row.batchExecutionId = some stored :=
        Table.lookup_eq_some.mpr ⟨isStored, sameId⟩
      refine ⟨transitioned stored .queued none none submission.timestamp stored, ?_, sameId⟩
      simp [Submission.answer, admitted, enabled, transition, found, isAdmitted,
        Status.transitions, Except.map, refusing]

theorem admit_of_submitBatch {first next : Database} {batch : ExecutionBatch}
    (planned : plan.lookup submission.batchId = some batch)
    (submitted : PostgresTransformLedger.submitBatch first submission.runId submission.caller
      submission.idempotencyKey batch (modelFingerprint batch) submission.uuid
      submission.accepted = .ok (row, next)) :
    submission.admit plan modelFingerprint first = .ok (row, next) := by
  simp only [planned, Submission.admit, submitted, refusing]

/-- What an earlier answer leaves for the submissions after it. -/
structure Remembers (plan : ExecutionPlan) (modelFingerprint : ExecutionBatch → Digest)
    (submission : Submission) (row : BatchExecution) (db : Database) : Prop where
  parent : db.board.HasParent submission.runId submission.caller
  keysOnce : db.board.Once SameKey
  activeOnce : db.board.Once BothActive
  kept : ∃ stored ∈ db.batchExecutions, stored.batchExecutionId = row.batchExecutionId ∧
    ∃ batch, plan.lookup submission.batchId = some batch ∧
      stored.transformRunId = submission.runId ∧ stored.batchId = batch.batchId ∧
      (stored.callerIdentity = submission.caller →
        stored.idempotencyKey = submission.idempotencyKey →
        stored.modelFingerprint = modelFingerprint batch)

theorem remembers_of_answer {before : List Request} {answered : BatchExecution}
    {second : Database} (between later : List Request)
    (isAnswered : submission.answer plan modelFingerprint (after before) second = .ok answered) :
    Remembers plan modelFingerprint submission answered
      (after (before ++ submission.admission plan modelFingerprint ++ between ++ later)) := by
  obtain ⟨row, next, admitted, sameId, -⟩ := answer_ok isAnswered
  obtain ⟨batch, planned, submitted⟩ := admit_ok admitted
  have isNext : after (before ++ submission.admission plan modelFingerprint) = next := by
    rw [after_append]
    exact run_admission admitted
  refine ⟨?_, keysOnce_after _, activeOnce_after _, ?_⟩
  · rw [List.append_assoc, List.append_assoc, after_append]
    exact step_simulates.run_invariant (fun _ _ _ lawful => lawful.hasParent)
      (hasParent_of_submitBatch submitted) _
  · have source : row ∈ next.batchExecutions ∧ row.transformRunId = submission.runId ∧
        row.batchId = batch.batchId ∧ (row.callerIdentity = submission.caller →
          row.idempotencyKey = submission.idempotencyKey →
          row.modelFingerprint = modelFingerprint batch) := by
      rcases submitBatch_source submitted with
        ⟨rfl, stored, recorded | standing⟩ | ⟨rfl, fresh, isBoard⟩
      · exact ⟨stored, recorded.transformRunId, recorded.batchId,
          fun _ _ => recorded.modelFingerprint⟩
      · exact ⟨stored, standing.transformRunId, standing.batchId, fun sameCaller sameKey =>
          absurd ⟨sameCaller, sameKey⟩ (standing.keyFree row stored)⟩
      · refine ⟨?_, rfl, rfl, fun _ _ => rfl⟩
        have executions : next.batchExecutions = _ := congrArg Board.executions isBoard
        rw [executions]
        exact (Table.mem_push fresh).mpr (Or.inr rfl)
    obtain ⟨stored, sameRun, sameBatch, sameModels⟩ := source
    obtain ⟨kept, keptStored, same⟩ := stored_later stored (between ++ later)
    refine ⟨kept, ?_, same.batchExecutionId.trans sameId.symm, batch, planned,
      same.transformRunId.trans sameRun, same.batchId.trans sameBatch, ?_⟩
    · rw [List.append_assoc, after_append, isNext]
      exact keptStored
    · intro sameCaller sameKey
      exact same.modelFingerprint.trans (sameModels (same.callerIdentity.symm.trans sameCaller)
        (same.idempotencyKey.symm.trans sameKey))

theorem returned_iff {db : Database}
    (remembers : Remembers plan modelFingerprint submission row db) :
    (∃ out next, submission.admit plan modelFingerprint db = .ok (out, next) ∧
        out.batchExecutionId = row.batchExecutionId) ↔ submission.Returned db row := by
  obtain ⟨kept, keptStored, keptId, batch, planned, sameRun, sameBatch, sameModels⟩ := remembers.kept
  constructor
  · rintro ⟨out, next, admitted, sameId⟩
    obtain ⟨other, alsoPlanned, submitted⟩ := admit_ok admitted
    rcases submitBatch_source submitted with
      ⟨rfl, stored, recorded | standing⟩ | ⟨-, fresh, -⟩
    · exact ⟨out, stored, sameId, Or.inl ⟨recorded.callerIdentity, recorded.idempotencyKey⟩⟩
    · exact ⟨out, stored, sameId, Or.inr ⟨standing.isOpen, standing.keyFree⟩⟩
    · exact absurd (keptId.trans sameId.symm) (fresh kept keptStored)
  · rintro ⟨stored, isStored, sameId, recorded | ⟨isOpen, keyFree⟩⟩
    · obtain rfl := Table.eq_of_key_eq isStored keptStored (sameId.trans keptId.symm)
      exact ⟨stored, db, admit_of_submitBatch planned (submitBatch_recorded remembers.parent
        remembers.keysOnce isStored ⟨recorded.1, recorded.2, sameRun, sameBatch,
          sameModels recorded.1 recorded.2⟩), sameId⟩
    · obtain rfl := Table.eq_of_key_eq isStored keptStored (sameId.trans keptId.symm)
      exact ⟨stored, db, admit_of_submitBatch planned (submitBatch_standing remembers.parent
        remembers.activeOnce isStored ⟨sameRun, sameBatch, isOpen, keyFree⟩), sameId⟩

theorem executions_of_returned {db next : Database} {out : BatchExecution}
    (remembers : Remembers plan modelFingerprint submission row db)
    (admitted : submission.admit plan modelFingerprint db = .ok (out, next))
    (sameId : out.batchExecutionId = row.batchExecutionId) : next = db := by
  obtain ⟨kept, keptStored, keptId, -⟩ := remembers.kept
  obtain ⟨batch, -, submitted⟩ := admit_ok admitted
  rcases submitBatch_source submitted with ⟨same, -⟩ | ⟨-, fresh, -⟩
  · exact same
  · exact absurd (keptId.trans sameId.symm) (fresh kept keptStored)

theorem repeats_iff {db second : Database}
    (remembers : Remembers plan modelFingerprint submission row db) :
    submission.Repeats plan modelFingerprint db second row ↔
      submission.Returned db row ∧ (submission.executionEnabled = true → Admitted second row) := by
  constructor
  · rintro ⟨⟨again, isAnswered, sameId⟩, -⟩
    obtain ⟨out, next, admitted, againId, waiting⟩ := answer_ok isAnswered
    have outId : out.batchExecutionId = row.batchExecutionId := againId.symm.trans sameId
    refine ⟨(returned_iff remembers).mp ⟨out, next, admitted, outId⟩, fun enabled => ?_⟩
    obtain ⟨stored, isStored, storedId, isAdmitted⟩ := waiting enabled
    exact ⟨stored, isStored, storedId.trans outId, isAdmitted⟩
  · rintro ⟨returned, waiting⟩
    obtain ⟨out, next, admitted, outId⟩ := (returned_iff remembers).mpr returned
    have unchanged : next = db := executions_of_returned remembers admitted outId
    obtain ⟨again, isAnswered, againId⟩ := answer_of_admit second admitted
      fun enabled => by
        obtain ⟨stored, isStored, storedId, isAdmitted⟩ := waiting enabled
        exact ⟨stored, isStored, storedId.trans outId.symm, isAdmitted⟩
    refine ⟨⟨again, isAnswered, againId.trans outId⟩, ?_⟩
    rw [run_admission admitted, unchanged]

end Histories

/-- A request that was answered with 202 is answered so again, with the same execution, exactly
where the ledger returns that execution and, if execution is enabled, it has not been queued. -/
theorem resubmission_iff (plan : ExecutionPlan) (modelFingerprint : ExecutionBatch → Digest)
    (submission : Submission) (executionEnabled : Bool) (uuid : String)
    (accepted timestamp : Timestamp) (before between later meanwhile : List Request)
    (row : BatchExecution)
    (answered : submission.answer plan modelFingerprint (after before)
      (after (before ++ submission.admission plan modelFingerprint ++ between)) = .ok row) :
    let retry := submission.again executionEnabled uuid accepted timestamp
    let history := submission.served plan modelFingerprint before between ++ later
    let meeting := after (history ++ retry.admission plan modelFingerprint ++ meanwhile)
    retry.Repeats plan modelFingerprint (after history) meeting row ↔
      retry.Returned (after history) row ∧ (executionEnabled = true → Admitted meeting row) := by
  intro retry history meeting
  have remembers : Remembers plan modelFingerprint submission row (after history) := by
    have kept := remembers_of_answer between
      (submission.queueing plan modelFingerprint (after before) ++ later) answered
    simpa [history, Submission.served] using kept
  have alsoRemembers : Remembers plan modelFingerprint retry row (after history) :=
    ⟨remembers.parent, remembers.keysOnce, remembers.activeOnce, remembers.kept⟩
  exact repeats_iff alsoRemembers

/-- A run with a batch to submit. -/
def runAdmitted : List Request :=
  [⟨0, .ledger (.createRun "airflow" "run-1" .snapshot .zero .zero "1" 0)⟩]

def firstSubmission (executionEnabled : Bool) : Submission where
  executionEnabled := executionEnabled
  runId := "tr_1"
  caller := "airflow"
  idempotencyKey := "batch-1"
  batchId := "C4_ML_01"
  uuid := "a"
  accepted := 1
  timestamp := 2

theorem disabled_repeats :
    let submission := firstSubmission false
    let retry := submission.again false "b" 3 4
    let history := submission.served executionBatches (fun _ => .zero) runAdmitted [] ++ []
    retry.Repeats executionBatches (fun _ => .zero) (after history)
      (after (history ++ retry.admission executionBatches (fun _ => .zero) ++ []))
      (admittedBatch "tr_1" "airflow" "batch-1" ⟨"C4_ML_01", .mlPredictionTransform, []⟩ .zero
        "a" 1) :=
  (resubmission_iff executionBatches (fun _ => .zero) (firstSubmission false) false "b" 3 4
    runAdmitted [] [] [] _ rfl).mpr
    ⟨⟨_, List.mem_of_elem_eq_true (by decide), rfl, Or.inl ⟨rfl, rfl⟩⟩, nofun⟩

/-- With execution enabled the batch is queued at once, and the retry is answered with 503. -/
theorem enabled_not_repeats :
    ¬ ∀ (plan : ExecutionPlan) (modelFingerprint : ExecutionBatch → Digest)
      (submission : Submission) (executionEnabled : Bool) (uuid : String)
      (accepted timestamp : Timestamp) (before between later meanwhile : List Request)
      (row : BatchExecution),
      submission.answer plan modelFingerprint (after before)
          (after (before ++ submission.admission plan modelFingerprint ++ between)) = .ok row →
        let retry := submission.again executionEnabled uuid accepted timestamp
        let history := submission.served plan modelFingerprint before between ++ later
        retry.Repeats plan modelFingerprint (after history)
          (after (history ++ retry.admission plan modelFingerprint ++ meanwhile)) row := by
  intro repeats
  obtain ⟨⟨again, isAnswered, -⟩, -⟩ := repeats executionBatches (fun _ => .zero)
    (firstSubmission true) true "b" 3 4 runAdmitted [] [] [] _ rfl
  cases isAnswered

end Api

end PaymentsPlatform.TransformRuntime
