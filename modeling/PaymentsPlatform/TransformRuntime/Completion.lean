import Mathlib.Data.Finset.Preimage
import PaymentsPlatform.TransformRuntime.Worker
import PaymentsPlatform.TransformRuntime.ParentRun
import PaymentsPlatform.TransformRuntime.Isolation
import PaymentsPlatform.TransformRuntime.Prerequisites

/-!
# Completion of a run

No operation ever completes a run: success of its batches leaves it as it was
admitted, and it keeps the next run out.  Only a batch that ends badly makes
way.
-/

namespace PaymentsPlatform.TransformRuntime

open Relational PostgresDurableQueue

/-- Every prerequisite of the plan is a batch of the plan. -/
def ExecutionPlan.Closed (plan : ExecutionPlan) : Prop :=
  ∀ batch ∈ plan.rows, ∀ prerequisite ∈ batch.prerequisiteBatches,
    ∃ other ∈ plan.rows, other.batchId = prerequisite

/-- `create_run` with a fresh key is turned away. -/
def Blocked (db : Database) : Prop :=
  ∀ caller key mode contractDigest planDigest uuid accepted,
    (∀ run ∈ db.transformRuns, ¬ (run.callerIdentity = caller ∧ run.idempotencyKey = key)) →
      PostgresTransformLedger.createRun db caller key mode contractDigest planDigest uuid
        accepted = .error (.ledgerError "one active transform run is already admitted")

/-- `create_run` with a fresh key and a fresh id admits a run. -/
def Admitting (db : Database) : Prop :=
  ∀ caller key mode contractDigest planDigest uuid accepted,
    (∀ run ∈ db.transformRuns, ¬ (run.callerIdentity = caller ∧ run.idempotencyKey = key)) →
    (∀ run ∈ db.transformRuns, run.transformRunId ≠ "tr_" ++ uuid) →
      ∃ next, PostgresTransformLedger.createRun db caller key mode contractDigest planDigest
        uuid accepted =
          .ok (admittedRun caller key mode contractDigest planDigest uuid accepted, next)

section Open

theorem open_run_stays {requests later : List Request} {run : TransformRun}
    (stored : run ∈ (after requests).transformRuns) (isOpen : run.status ∉ Status.terminal)
    (quiet : statusesOf run.transformRunId
      (Machine.log step failures (after requests) later) = []) :
    ∃ next ∈ (after (requests ++ later)).transformRuns,
      next.transformRunId = run.transformRunId ∧ next.status ∉ Status.terminal := by
  have has : (after (requests ++ later)).board.HasRun run.transformRunId := by
    rw [after_append]
    exact step_simulates.run_invariant (fun _ _ _ lawful => lawful.hasRun)
      (show (after requests).board.HasRun run.transformRunId from ⟨run, stored, rfl⟩) later
  obtain ⟨next, nextStored, sameId⟩ := has
  refine ⟨next, nextStored, sameId, ?_⟩
  rcases (told_after requests).told run stored with ⟨-, noFailure, -⟩ | ⟨isClosing, -⟩
  · rcases (told_after (requests ++ later)).told next nextStored with
      ⟨isAdmitted, -⟩ | ⟨-, ⟨rest, first⟩, -⟩
    · simp [isAdmitted, Status.terminal]
    · have none := failuresOf_append requests later run.transformRunId
      simp only [failuresOf, noFailure, quiet, List.append_nil] at none
      rw [sameId, none] at first
      simp at first
  · exact absurd (Status.terminal_of_closing isClosing) isOpen

theorem blocked_of_open {db : Database} {run : TransformRun} (stored : run ∈ db.transformRuns)
    (isOpen : run.status ∉ Status.terminal) : Blocked db :=
  fun _ _ mode contractDigest planDigest uuid accepted fresh =>
    createRun_blocked stored isOpen fresh mode contractDigest planDigest uuid accepted

theorem admitting_of_idle {db : Database}
    (idle : ∀ run ∈ db.transformRuns, run.status ∈ Status.terminal) : Admitting db :=
  fun _ _ mode contractDigest planDigest _ accepted freshKey freshId =>
    createRun_admits idle freshKey freshId mode contractDigest planDigest accepted

end Open

section Cancel

variable {db : Database}

theorem status_ne_reconcileQueued (requests : List Request) :
    ∀ row ∈ (after requests).batchExecutions, row.status ≠ .reconcileQueued := by
  refine rows_invariant (fun _ _ _ _ _ _ _ => by simp [admittedBatch]) ?_ requests
  intro request row revision revises differs
  cases revises with
  | transition _ allowed =>
      intro same
      simp only [transitioned_status] at same
      subst same
      cases status : row.status <;> simp [status, Status.transitions] at allowed
  | recordNessieBranch _ _ _ | heartbeat _ _ _ | flag _ _ _ => exact differs
  | finish _ ends _ _ =>
      intro same
      simp only [BatchExecution.settled_status] at same
      simp [same, Status.terminal] at ends
  | claim _ _ _ _ | cancel _ _ | orphan _ _ | reject _ _ | expire _ _ _ _ => simp

theorem cancelled_mem_transitions {status : Status} (isOpen : status ∉ Status.terminal)
    (ordinary : status ≠ .reconcileQueued) : Status.cancelled ∈ status.transitions := by
  cases status <;> simp_all [Status.terminal, Status.transitions]

theorem cancel_closes {run : TransformRun} {row : BatchExecution} (single : db.board.SingleOpen)
    (runStored : run ∈ db.transformRuns) (isOpen : run.status ∉ Status.terminal)
    (stored : row ∈ db.batchExecutions) (sameRun : row.transformRunId = run.transformRunId)
    (rowOpen : row.status ∉ Status.terminal) (ordinary : row.status ≠ .reconcileQueued) :
    ∃ request, run.withStatus .cancelled 0 ∈ (step db request).transformRuns ∧
      ∀ other ∈ (step db request).transformRuns, other.status ∈ Status.terminal := by
  let request : Request := ⟨0, .ledger (.transition row.batchExecutionId .cancelled none none 0)⟩
  have allowed := cancelled_mem_transitions rowOpen ordinary
  have moved : (step db request).board = _ := transition_allowed stored allowed rfl
  have revises : Revises request row _ := .transition rfl allowed
  have closed : run.withStatus .cancelled 0 ∈ (step db request).board.runs := by
    rw [moved, Board.revise_runs,
      if_pos (decide_eq_true (by decide : Status.cancelled ∈ Status.closing)), Table.mem_update]
    refine ⟨run, runStored, (if_pos ?_).symm⟩
    exact decide_eq_true ⟨sameRun.symm, isOpen⟩
  refine ⟨request, closed, fun other otherStored => ?_⟩
  by_contra otherOpen
  have onBoard : other ∈ (step db request).board.runs := otherStored
  have same : other = run := by
    rw [moved] at onBoard
    exact single other (mem_runs_of_open revises onBoard otherOpen) run runStored otherOpen isOpen
  have twice : run = run.withStatus .cancelled 0 :=
    Table.eq_of_key_eq (same ▸ onBoard) closed rfl
  rw [same, twice] at otherOpen
  exact otherOpen (by simp [Status.terminal])

theorem exists_fresh (used : List String) (start : String) :
    ∃ fresh : String, start ++ fresh ∉ used := by
  classical
  have injective : Function.Injective (start ++ ·) := fun _ _ => String.append_right_inj start |>.mp
  obtain ⟨fresh, unused⟩ :=
    Infinite.exists_notMem_finset (used.toFinset.preimage (start ++ ·) injective.injOn)
  exact ⟨fresh, by simpa using unused⟩

theorem resubmit_opens {plan : ExecutionPlan} (closed : plan.Closed) {batch : ExecutionBatch}
    (listed : batch ∈ plan.rows) {run : TransformRun} (runStored : run ∈ db.transformRuns)
    (passed : ∀ batch ∈ plan.rows, db.succeeded run.transformRunId batch.batchId = true)
    (allEnded : ∀ row ∈ db.batchExecutions, row.transformRunId = run.transformRunId →
      row.status ∈ Status.terminal) :
    ∃ request row, (step db request).board = db.board.admitBatch row ∧
      row.transformRunId = run.transformRunId ∧ row.status = .admitted ∧
      row ∈ (step db request).batchExecutions := by
  obtain ⟨key, freshKey⟩ :=
    exists_fresh (db.batchExecutions.rows.map BatchExecution.idempotencyKey) ""
  obtain ⟨uuid, freshId⟩ := exists_fresh
    (db.batchExecutions.rows.map BatchExecution.batchExecutionId ++
      db.batchAttempts.rows.map BatchAttempt.batchExecutionId) "be_"
  simp only [String.empty_append, List.mem_append, List.mem_map, not_or, not_exists,
    not_and] at freshKey freshId
  have complete : ∀ prerequisite ∈ batch.prerequisiteBatches,
      db.succeeded run.transformRunId prerequisite = true := by
    intro prerequisite required
    obtain ⟨other, otherListed, rfl⟩ := closed batch listed prerequisite required
    exact passed other otherListed
  obtain ⟨next, submitted, admitted⟩ := submitBatch_admits
    ⟨run, runStored, rfl, rfl⟩ (fun row stored same => freshKey row stored same.2) allEnded
    complete freshId.1
    (fun attempt stored same => freshId.2 attempt stored (congrArg Prod.fst same)) .zero 0
  let request : Request := ⟨0, .ledger (.submitBatch run.transformRunId run.callerIdentity key batch
    .zero uuid 0)⟩
  let row := admittedBatch run.transformRunId run.callerIdentity key batch .zero uuid 0
  have performed : perform db request = .ok (.ledger (.batch row), next) := by
    simp only [perform, PostgresTransformLedger.perform, request, submitted, Except.map, row]
  have board := congrArg Database.board (step_of_ok performed)
  refine ⟨request, row, board.trans admitted, rfl, rfl, ?_⟩
  have executions : (step db request).batchExecutions = _ :=
    congrArg Board.executions (board.trans admitted)
  rw [executions]
  exact (Table.mem_push freshId.1).mpr (.inr rfl)

end Cancel

section Completion

theorem exists_closing_requests {plan : ExecutionPlan} (closed : plan.Closed)
    {batch : ExecutionBatch} (listed : batch ∈ plan.rows) (requests : List Request)
    {run : TransformRun} (stored : run ∈ (after requests).transformRuns)
    (isOpen : run.status ∉ Status.terminal)
    (passed : ∀ batch ∈ plan.rows,
      (after requests).succeeded run.transformRunId batch.batchId = true) :
    ∃ later, run.withStatus .cancelled 0 ∈ (after (requests ++ later)).transformRuns ∧
      ∀ other ∈ (after (requests ++ later)).transformRuns, other.status ∈ Status.terminal := by
  have single : ∀ requests, (after requests).board.SingleOpen :=
    step_simulates.run_invariant (fun _ _ _ lawful => lawful.singleOpen)
      (show Database.empty.board.SingleOpen from
        fun run stored => absurd stored (Table.not_mem_empty run))
  by_cases allEnded : ∀ row ∈ (after requests).batchExecutions,
      row.transformRunId = run.transformRunId → row.status ∈ Status.terminal
  · -- nothing is left to cancel: submit a batch of the plan again first
    obtain ⟨submit, row, admitted, sameRun, isAdmitted, rowStored⟩ :=
      resubmit_opens closed listed stored passed allEnded
    have runs : (step (after requests) submit).transformRuns = (after requests).transformRuns :=
      congrArg Board.runs admitted
    have reached : after (requests ++ [submit]) = step (after requests) submit :=
      after_append requests [submit]
    obtain ⟨cancel, ended⟩ := cancel_closes (reached ▸ single (requests ++ [submit]))
      (runs ▸ stored) isOpen rowStored sameRun (by simp [isAdmitted, Status.terminal])
      (by simp [isAdmitted])
    refine ⟨[submit, cancel], ?_⟩
    rw [after_append]
    exact ended
  · simp only [not_forall] at allEnded
    obtain ⟨row, rowStored, sameRun, rowOpen⟩ := allEnded
    obtain ⟨cancel, ended⟩ := cancel_closes (single requests) stored isOpen rowStored sameRun
      rowOpen (status_ne_reconcileQueued requests row rowStored)
    refine ⟨[cancel], ?_⟩
    rw [after_append]
    exact ended

/-- When every batch of the plan has passed in an open run, the run stays open and
keeps the next run out for as long as no batch of it ends badly, whatever else
is done; a run that is terminal, and a next run, are reached by ending a batch
of it badly. -/
theorem run_completed_only_by_failure (plan : ExecutionPlan) (closed : plan.Closed)
    (nonempty : ∃ batch, batch ∈ plan.rows) (operations : List Operation) (run : TransformRun)
    (stored : run ∈ (Machine.run operate .empty operations).transformRuns)
    (isOpen : run.status ∉ Status.terminal)
    (passed : ∀ batch ∈ plan.rows, (Machine.run operate .empty operations).succeeded
      run.transformRunId batch.batchId = true) :
    (∀ later, statusesOf run.transformRunId (Machine.log step failures
          (Machine.run operate .empty operations)
          (requestsOf (Machine.run operate .empty operations) later)) = [] →
        (∃ next ∈ (Machine.run operate .empty (operations ++ later)).transformRuns,
          next.transformRunId = run.transformRunId ∧ next.status ∉ Status.terminal) ∧
        Blocked (Machine.run operate .empty (operations ++ later))) ∧
      ∃ later,
        (∃ next ∈ (Machine.run operate .empty (operations ++ later)).transformRuns,
          next.transformRunId = run.transformRunId ∧ next.status ∈ Status.terminal) ∧
        Admitting (Machine.run operate .empty (operations ++ later)) := by
  have reached : ∀ operations, Machine.run operate .empty operations =
      after (requestsOf .empty operations) := run_operate .empty
  rw [reached] at stored passed
  refine ⟨fun later quiet => ?_, ?_⟩
  · rw [reached] at quiet
    rw [reached, requestsOf_append, reached]
    obtain ⟨next, nextStored, sameId, nextOpen⟩ := open_run_stays stored isOpen quiet
    exact ⟨⟨next, nextStored, sameId, nextOpen⟩, blocked_of_open nextStored nextOpen⟩
  · obtain ⟨batch, listed⟩ := nonempty
    obtain ⟨later, ended, idle⟩ :=
      exists_closing_requests closed listed (requestsOf .empty operations) stored isOpen passed
    refine ⟨later.map .request, ?_⟩
    rw [reached, requestsOf_append, requestsOf_request]
    exact ⟨⟨_, ended, rfl, by simp [Status.terminal]⟩, admitting_of_idle idle⟩

theorem not_completed (operations : List Operation) {run : TransformRun}
    (stored : run ∈ (Machine.run operate .empty operations).transformRuns)
    (isOpen : run.status ∉ Status.terminal) :
    ¬ ∃ later, Machine.log step failures (Machine.run operate .empty operations)
          (requestsOf (Machine.run operate .empty operations) later) = [] ∧
        ∃ next ∈ (Machine.run operate .empty (operations ++ later)).transformRuns,
          next.transformRunId = run.transformRunId ∧ next.status ∈ Status.terminal := by
  have reached : ∀ operations, Machine.run operate .empty operations =
      after (requestsOf .empty operations) := run_operate .empty
  rintro ⟨later, quiet, next, nextStored, sameId, ended⟩
  rw [reached] at stored quiet
  rw [reached, requestsOf_append, reached] at nextStored
  obtain ⟨other, otherStored, otherId, otherOpen⟩ :=
    open_run_stays stored isOpen (by rw [quiet]; rfl)
  rw [Table.eq_of_key_eq nextStored otherStored (sameId.trans otherId.symm)] at ended
  exact otherOpen ended

/-- A batch is submitted, queued, claimed and passed. -/
def passBatch (batch : ExecutionBatch) : List Operation :=
  [.request ⟨0, .ledger (.submitBatch "tr_1" "airflow" batch.batchId batch .zero
      batch.batchId 0)⟩,
    .request ⟨0, .ledger (.transition ("be_" ++ batch.batchId) .queued none none 0)⟩,
    .request ⟨0, .queue (.claim "worker-1" batch.batchId 30 [])⟩,
    .request ⟨0, .queue (.finish ("be_" ++ batch.batchId) "worker-1" batch.batchId .succeeded
      (some .passed) none)⟩]

/-- A run in which every batch of a plan passes, in the order of the plan. -/
def passAll (plan : ExecutionPlan) : List Operation :=
  .request ⟨0, .ledger (.createRun "airflow" "run-1" .snapshot .zero .zero "1" 0)⟩ ::
    plan.rows.flatMap passBatch

theorem shortPlan_completed_only_by_failure :
    ∃ later,
      (∃ next ∈ (Machine.run operate .empty
          (passAll ⟨[⟨"C4_ML_01", .mlPredictionTransform, []⟩], by decide⟩ ++ later)).transformRuns,
        next.transformRunId = "tr_1" ∧ next.status ∈ Status.terminal) ∧
      Admitting (Machine.run operate .empty
        (passAll ⟨[⟨"C4_ML_01", .mlPredictionTransform, []⟩], by decide⟩ ++ later)) :=
  (run_completed_only_by_failure ⟨[⟨"C4_ML_01", .mlPredictionTransform, []⟩], by decide⟩
    (by unfold ExecutionPlan.Closed; decide) ⟨_, List.mem_cons_self⟩ _
    (admittedRun "airflow" "run-1" .snapshot .zero .zero "1" 0)
    (List.mem_of_elem_eq_true (by decide)) (by decide) (by decide)).2

/-- The whole governed plan passes, and still no continuation without a bad end
completes the run. -/
theorem executionBatches_never_complete :
    (∀ batch ∈ executionBatches.rows,
        (Machine.run operate .empty (passAll executionBatches)).succeeded "tr_1" batch.batchId
          = true) ∧
      ¬ ∃ later, Machine.log step failures
            (Machine.run operate .empty (passAll executionBatches))
            (requestsOf (Machine.run operate .empty (passAll executionBatches)) later) = [] ∧
          ∃ next ∈ (Machine.run operate .empty (passAll executionBatches ++ later)).transformRuns,
            next.transformRunId = "tr_1" ∧ next.status ∈ Status.terminal := by
  have stored : admittedRun "airflow" "run-1" .snapshot .zero .zero "1" 0 ∈
      (Machine.run operate .empty (passAll executionBatches)).transformRuns.rows := by
    decide +kernel
  exact ⟨by decide +kernel, not_completed _ (Table.mem_rows.mp stored) (by decide)⟩

end Completion

end PaymentsPlatform.TransformRuntime
