import Mathlib.Logic.Relation
import PaymentsPlatform.TransformRuntime.Evolution

/-!
# Prerequisites over whole runs

Admission looks at direct prerequisites only, once.  Because a batch that has
passed is never rewritten, what admission saw stays true, and because the
passed row is itself an execution of its batch, its own prerequisites hold in
turn.
-/

namespace PaymentsPlatform.TransformRuntime

open Relational

/-- `EXECUTION_BATCHES`, or any other mapping from `batch_id` to its batch. -/
abbrev ExecutionPlan := Table ExecutionBatch.batchId

namespace ExecutionPlan

/-- The batch lists the other as a direct prerequisite. -/
def Requires (plan : ExecutionPlan) (batchId prerequisite : String) : Prop :=
  ∃ batch ∈ plan, batch.batchId = batchId ∧ prerequisite ∈ batch.prerequisiteBatches

end ExecutionPlan

/-- The governed plan of `execution_plan.py`. -/
def executionBatches : ExecutionPlan where
  rows :=
    [⟨"C4_ML_01", .mlPredictionTransform, []⟩,
      ⟨"C4_RAW_02", .ordinaryTransform, []⟩,
      ⟨"C4_RID_FOUNDATION_03", .restrictedIdentityTransform, ["C4_RAW_02"]⟩,
      ⟨"C4_ORD_FOUNDATION_04", .ordinaryTransform, ["C4_RAW_02"]⟩,
      ⟨"C4_ORD_BRIDGE_05", .ordinaryTransform,
        ["C4_ML_01", "C4_RAW_02", "C4_RID_FOUNDATION_03", "C4_ORD_FOUNDATION_04"]⟩,
      ⟨"C4_ORD_PRE_ALERT_06", .ordinaryTransform, ["C4_ORD_FOUNDATION_04", "C4_ORD_BRIDGE_05"]⟩,
      ⟨"C4_RID_ALERTS_07", .restrictedIdentityTransform,
        ["C4_RID_FOUNDATION_03", "C4_ORD_FOUNDATION_04", "C4_ORD_BRIDGE_05"]⟩,
      ⟨"C4_ORD_PRE_SIGNAL_08", .ordinaryTransform,
        ["C4_ORD_FOUNDATION_04", "C4_ORD_BRIDGE_05", "C4_ORD_PRE_ALERT_06"]⟩,
      ⟨"C4_RID_SIGNALS_09", .restrictedIdentityTransform, ["C4_RID_ALERTS_07"]⟩,
      ⟨"C4_ORD_DOWNSTREAM_10", .ordinaryTransform,
        ["C4_ORD_FOUNDATION_04", "C4_ORD_BRIDGE_05", "C4_ORD_PRE_ALERT_06",
          "C4_ORD_PRE_SIGNAL_08", "C4_RID_SIGNALS_09"]⟩]
  unique := by decide

/-- The batch a call submits. -/
def Call.submitted : Call → Option ExecutionBatch
  | .ledger (.submitBatch _ _ _ batch _ _ _) => some batch
  | _ => none

/-- Every submission of the run is of a batch as the plan has it. -/
def Planned (plan : ExecutionPlan) (requests : List Request) : Prop :=
  ∀ request ∈ requests, ∀ batch ∈ request.call.submitted, batch ∈ plan.rows

instance (plan : ExecutionPlan) (requests : List Request) : Decidable (Planned plan requests) :=
  inferInstanceAs (Decidable (∀ request ∈ requests, ∀ batch ∈ request.call.submitted, _))

theorem Lawful.passed {request : Request} {board : Board} {move : Move} {runId batchId : String}
    (lawful : Lawful request board move) (passed : board.Passed runId batchId) :
    (board.apply move).Passed runId batchId := by
  obtain ⟨row, stored, sameRun, sameBatch, isSucceeded, tested⟩ := passed
  have ended : row.status ∈ Status.terminal := by simp [isSucceeded, Status.terminal]
  exact ⟨row, lawful.keeps_terminal stored ended, sameRun, sameBatch, isSucceeded, tested⟩

/-- Every execution has its direct prerequisites. -/
def Board.DirectlyClosed (plan : ExecutionPlan) (board : Board) : Prop :=
  ∀ row ∈ board.executions, ∀ prerequisite, plan.Requires row.batchId prerequisite →
    board.Passed row.transformRunId prerequisite

section Closure

variable {plan : ExecutionPlan}

theorem Lawful.directlyClosed {request : Request} {board : Board} {move : Move}
    (follows : ∀ batch ∈ request.call.submitted, batch ∈ plan.rows)
    (lawful : Lawful request board move)
    (closed : board.DirectlyClosed plan) : (board.apply move).DirectlyClosed plan := by
  intro row stored prerequisite required
  apply lawful.passed
  rcases lawful.mem_apply stored with before | rfl | ⟨old, oldStored, revision, revises, rfl⟩
  · exact closed row before prerequisite required
  · cases lawful with
    | admitBatch called _ _ _ passed _ _ =>
        have planned := follows _ (by rw [called]; rfl)
        obtain ⟨batch, listed, sameId, direct⟩ := required
        rw [Table.eq_of_key_eq listed planned sameId] at direct
        exact passed prerequisite direct
  · have identity := revises.sameIdentity
    rw [identity.batchId] at required
    rw [identity.transformRunId]
    exact closed old oldStored prerequisite required

theorem directlyClosed_run {db : Database} {requests : List Request}
    (planned : Planned plan requests) (closed : db.board.DirectlyClosed plan) :
    (Machine.run step db requests).board.DirectlyClosed plan := by
  have kept : ∀ (db : Database), ∀ request ∈ requests, db.board.DirectlyClosed plan →
      (step db request).board.DirectlyClosed plan := by
    intro db request listed closed
    refine step_simulates.step_invariant ?_ closed
    intro board move lawful
    exact lawful.directlyClosed (planned request listed)
  exact Machine.run_invariant_of_mem step kept closed

theorem Board.DirectlyClosed.transitively {board : Board} (closed : board.DirectlyClosed plan)
    {row : BatchExecution} (stored : row ∈ board.executions) {prerequisite : String}
    (required : Relation.TransGen plan.Requires row.batchId prerequisite) :
    board.Passed row.transformRunId prerequisite := by
  induction required with
  | single direct => exact closed row stored _ direct
  | tail _ direct ih =>
      obtain ⟨other, otherStored, sameRun, sameBatch, -⟩ := ih
      rw [← sameRun]
      exact closed other otherStored _ (sameBatch ▸ direct)

end Closure

/-- An execution of a batch finds every direct or transitive prerequisite of it
passed in its own run, now and after any further requests. -/
theorem prerequisites_closed (plan : ExecutionPlan) (requests later : List Request)
    (planned : Planned plan requests) :
    ∀ row ∈ (after requests).batchExecutions, ∀ prerequisite,
      Relation.TransGen plan.Requires row.batchId prerequisite →
        (after (requests ++ later)).succeeded row.transformRunId prerequisite = true := by
  intro row stored prerequisite required
  have start : Database.empty.board.DirectlyClosed plan :=
    fun row stored => absurd stored (Table.not_mem_empty row)
  have passed := (directlyClosed_run planned start).transitively stored required
  rw [succeeded_iff_passed, after_append]
  exact step_simulates.run_invariant (fun _ _ _ lawful => lawful.passed) passed later

/-- Three batches in a row. -/
def chainPlan : ExecutionPlan where
  rows := [⟨"first", .ordinaryTransform, []⟩, ⟨"second", .ordinaryTransform, ["first"]⟩,
    ⟨"third", .ordinaryTransform, ["second"]⟩]
  unique := by decide

/-- The first two pass, the third is submitted. -/
def chainRun : List Request :=
  [⟨0, .ledger (.createRun "airflow" "run-1" .snapshot .zero .zero "1" 0)⟩,
    ⟨1, .ledger (.submitBatch "tr_1" "airflow" "batch-1" ⟨"first", .ordinaryTransform, []⟩
      .zero "a" 1)⟩,
    ⟨2, .ledger (.transition "be_a" .queued none none 2)⟩,
    ⟨3, .queue (.claim "worker-1" "token-1" 30 [])⟩,
    ⟨4, .queue (.finish "be_a" "worker-1" "token-1" .succeeded (some .passed) none)⟩,
    ⟨5, .ledger (.submitBatch "tr_1" "airflow" "batch-2" ⟨"second", .ordinaryTransform, ["first"]⟩
      .zero "b" 5)⟩,
    ⟨6, .ledger (.transition "be_b" .queued none none 6)⟩,
    ⟨7, .queue (.claim "worker-1" "token-2" 30 [])⟩,
    ⟨8, .queue (.finish "be_b" "worker-1" "token-2" .succeeded (some .passed) none)⟩,
    ⟨9, .ledger (.submitBatch "tr_1" "airflow" "batch-3" ⟨"third", .ordinaryTransform, ["second"]⟩
      .zero "c" 9)⟩]

theorem chainRun_closed :
    (after (chainRun ++ [⟨10, .queue (.requestCancel "be_c")⟩])).succeeded "tr_1" "first" = true :=
  prerequisites_closed chainPlan chainRun _ (by decide)
    (admittedBatch "tr_1" "airflow" "batch-3" ⟨"third", .ordinaryTransform, ["second"]⟩ .zero "c" 9)
    (List.mem_of_elem_eq_true (by decide)) "first"
    (.tail (.single ⟨⟨"third", .ordinaryTransform, ["second"]⟩,
        List.mem_of_elem_eq_true (by decide), rfl, by decide⟩)
      ⟨⟨"second", .ordinaryTransform, ["first"]⟩,
        List.mem_of_elem_eq_true (by decide), rfl, by decide⟩)

end PaymentsPlatform.TransformRuntime
