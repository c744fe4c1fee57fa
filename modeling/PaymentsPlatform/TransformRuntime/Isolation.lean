import PaymentsPlatform.TransformRuntime.Leases

/-!
# Isolation of the active run

`create_run` and the index `one_active_transform_run` admit one open run at a
time.  `claim` and `submit_batch` never look at the parent run, so executions
stay within the open run only as long as a run is closed by its last open batch
and no batch is admitted to a closed run.
-/

namespace PaymentsPlatform.TransformRuntime

open Relational PostgresDurableQueue

/-- The request ends this batch badly and so closes its run. -/
def closesBatch (request : Request) (row : BatchExecution) : Bool :=
  match request.call with
  | .ledger (.transition executionId state _ _ _) =>
      row.batchExecutionId = executionId ∧ state ∈ row.status.transitions ∧
        state ∈ Status.closing
  | .queue (.requestCancel eid) =>
      row.batchExecutionId = eid ∧ row.status ∈ [Status.admitted, Status.queued]
  | .queue (.finish eid worker token status _ _) =>
      row.batchExecutionId = eid ∧ status ∈ Status.closing ∧ row.ownedBy worker token ∧
        leaseLive row.leaseExpiresAt request.now
  | .queue (.orphanIfOwned eid worker token _) =>
      row.batchExecutionId = eid ∧ row.ownedBy worker token
  | .queue (.reconcileExpired locked) =>
      row.status ∈ Status.active ∧ leaseExpired row.leaseExpiresAt request.now ∧
        row.batchExecutionId ∉ locked
  | _ => false

/-- The request would insert a batch into a run that is closed. -/
def joinsClosedRun (db : Database) : Call → Bool
  | .ledger (.submitBatch runId caller key batch _ _ _) =>
      (db.transformRuns.rows.any fun run =>
          run.transformRunId = runId ∧ run.status ∈ Status.terminal) &&
        (db.batchExecutions.rows.all fun row =>
          ¬ (row.callerIdentity = caller ∧ row.idempotencyKey = key)) &&
        (db.batchExecutions.rows.all fun row => !activeExecution runId batch.batchId row) &&
        batch.prerequisiteBatches.all (db.succeeded runId)
  | _ => false

/-- A run is closed only together with its last open batches, and no batch
joins a closed run. -/
def Orderly (db : Database) (request : Request) : Prop :=
  (∀ row ∈ db.batchExecutions.rows, closesBatch request row = true →
      ∀ other ∈ db.batchExecutions.rows, other.transformRunId = row.transformRunId →
        other.status ∈ Status.terminal ∨ closesBatch request other = true) ∧
    joinsClosedRun db request.call = false

instance (db : Database) (request : Request) : Decidable (Orderly db request) :=
  inferInstanceAs (Decidable (_ ∧ _))

section Closing

variable {request : Request} {row : BatchExecution} {revision : Revision}

theorem Revises.closesBatch_of_closes (revises : Revises request row revision)
    (closes : revision.closes = true) : closesBatch request row = true := by
  have isClosing := revises.closing_of_closes closes
  cases revises with
  | transition called allowed =>
      simp only [closesBatch, called]
      exact decide_eq_true ⟨trivial, allowed, isClosing⟩
  | cancel called waiting =>
      simp only [closesBatch, called]
      exact decide_eq_true ⟨trivial, waiting⟩
  | finish called _ owned live =>
      simp only [closesBatch, called]
      exact decide_eq_true ⟨trivial, isClosing, owned, live⟩
  | orphan called owned =>
      simp only [closesBatch, called]
      exact decide_eq_true ⟨trivial, owned⟩
  | expire called isActive expired unlocked =>
      simp only [closesBatch, called]
      exact decide_eq_true ⟨isActive, expired, unlocked⟩
  | claim _ _ _ _ | recordNessieBranch _ _ _ | heartbeat _ _ _ | flag _ _ _ | reject _ _ =>
      simp at closes

theorem reconciles_of_two {other : BatchExecution} (first : closesBatch request row = true)
    (second : closesBatch request other = true)
    (differ : other.batchExecutionId ≠ row.batchExecutionId) :
    ∃ locked, request.call = .queue (.reconcileExpired locked) := by
  unfold closesBatch at first second
  split at first <;> simp_all

end Closing

section Runs

variable {request : Request} {board : Board}

theorem Lawful.run_kept {move : Move} (lawful : Lawful request board move) {run : TransformRun}
    (stored : run ∈ board.runs) :
    run ∈ (board.apply move).runs ∨
      ∃ row ∈ board.executions, ∃ revision, move = .revise revision ∧
        Revises request row revision ∧ revision.closes = true ∧
        row.transformRunId = run.transformRunId := by
  cases lawful with
  | admitRun _ _ fresh => exact .inl ((Table.mem_push fresh).mpr (.inl stored))
  | revise rowStored revises =>
      rename_i row revision
      by_cases closes : revision.closes = true
      · by_cases isOpen : Database.runOpen revision.revised.transformRunId run = true
        · refine .inr ⟨row, rowStored, revision, rfl, revises, closes, ?_⟩
          rw [← revises.sameIdentity.transformRunId, (of_decide_eq_true isOpen).1]
        · left
          rw [Board.apply, Board.revise_runs, if_pos closes, Table.mem_update]
          exact ⟨run, stored, (if_neg isOpen).symm⟩
      · left
        rw [Board.apply, Board.revise_runs, if_neg closes]
        exact stored
  | admitBatch _ _ _ _ _ _ _ | admitBootstrap _ _ _ _ _ _ | reviseBootstrap _ _ => exact .inl stored

theorem run_expiries_keep_run {now : Timestamp} {rows : List BatchExecution} {run : TransformRun}
    (stored : run ∈ board.runs) (others : ∀ row ∈ rows, row.transformRunId ≠ run.transformRunId) :
    run ∈ (Machine.run Board.apply board (rows.map (expiry now))).runs := by
  induction rows generalizing board with
  | nil => exact stored
  | cons row rest ih =>
      refine ih ?_ fun other listed => others other (List.mem_cons_of_mem _ listed)
      have isOther : Database.runOpen row.transformRunId run = false :=
        decide_eq_false fun isOpen => others row List.mem_cons_self isOpen.1.symm
      simp only [Board.apply, expiry, Board.revise_runs, if_true]
      refine Table.mem_update.mpr ⟨run, stored, (if_neg ?_).symm⟩
      simpa [BatchExecution.orphanedWith, BatchExecution.settled] using isOther

theorem run_bootstrapExpiries_runs (now : Timestamp) (rows : List ProtectedBootstrapExecution) :
    (Machine.run Board.apply board (rows.map (bootstrapExpiry now))).runs = board.runs := by
  induction rows generalizing board with
  | nil => rfl
  | cons row rest ih => exact ih

/-- A request leaves a run alone unless it ends a batch of the run badly. -/
theorem step_run_kept (db : Database) (request : Request) {run : TransformRun}
    (stored : run ∈ db.transformRuns) :
    run ∈ (step db request).transformRuns ∨
      ∃ row ∈ db.batchExecutions, row.transformRunId = run.transformRunId ∧
        closesBatch request row = true ∧
        ∃ next ∈ (step db request).batchExecutions,
          next.batchExecutionId = row.batchExecutionId ∧ next.status ∈ Status.terminal := by
  obtain ⟨moves, performs, same⟩ := step_performs db request
  have tables : (step db request).transformRuns =
      (Machine.run Board.apply db.board moves).runs := congrArg Board.runs same
  rw [tables]
  cases performs with
  | idle _ => exact .inl stored
  | expireBootstraps _ =>
      rw [run_bootstrapExpiries_runs]
      exact .inl stored
  | single _ lawful =>
      rcases lawful.run_kept stored with
        kept | ⟨row, rowStored, revision, rfl, revises, closes, sameRun⟩
      · exact .inl kept
      · refine .inr ⟨row, rowStored, sameRun, revises.closesBatch_of_closes closes,
          revision.revised, ?_, revises.sameIdentity.batchExecutionId,
          Status.terminal_of_closing (revises.closing_of_closes closes)⟩
        have executions : (step db request).batchExecutions =
            db.batchExecutions.replace revision.revised :=
          (congrArg Board.executions same).trans (Board.revise_executions _ _)
        rw [executions, Table.mem_replace]
        exact .inr ⟨rfl, row, rowStored, revises.sameIdentity.batchExecutionId.symm⟩
  | expire called =>
      rename_i locked
      by_cases hit : ∃ row ∈ expiredExecutions db request.now locked,
          row.transformRunId = run.transformRunId
      · obtain ⟨row, selected, sameRun⟩ := hit
        obtain ⟨rowStored, guards⟩ := mem_expiredExecutions.mp selected
        refine .inr ⟨row, rowStored, sameRun, ?_,
          row.orphanedWith leaseExpiredFailure request.now, ?_, rfl, by simp [Status.terminal]⟩
        · simp only [closesBatch, called]
          exact decide_eq_true guards
        · have found := step_executions_of_expire db called row.batchExecutionId
          rw [Table.lookup_key rowStored, Option.map_some, if_pos selected] at found
          exact (Table.lookup_eq_some.mp found).1
      · left
        apply run_expiries_keep_run stored
        intro row listed sameRun
        exact hit ⟨row, listed, sameRun⟩

/-- At most one run is open. -/
def Board.SingleOpen (board : Board) : Prop :=
  ∀ first ∈ board.runs, ∀ second ∈ board.runs, first.status ∉ Status.terminal →
    second.status ∉ Status.terminal → first = second

theorem mem_runs_of_open {revision : Revision} {row : BatchExecution} {run : TransformRun}
    (revises : Revises request row revision) (stored : run ∈ (board.revise revision).runs)
    (isOpen : run.status ∉ Status.terminal) : run ∈ board.runs := by
  rw [Board.revise_runs] at stored
  split at stored
  next closes =>
    obtain ⟨old, oldStored, rfl⟩ := Table.mem_update.mp stored
    split at isOpen
    next closed =>
      exact absurd (Status.terminal_of_closing (revises.closing_of_closes closes)) isOpen
    next other => rwa [if_neg other]
  next keeps => exact stored

theorem Lawful.singleOpen {move : Move} (lawful : Lawful request board move)
    (single : board.SingleOpen) : (board.apply move).SingleOpen := by
  intro first firstStored second secondStored firstOpen secondOpen
  cases lawful with
  | admitRun _ idle fresh =>
      rcases (Table.mem_push fresh).mp firstStored with before | isNew
      · exact absurd (idle first before) firstOpen
      · rcases (Table.mem_push fresh).mp secondStored with before | alsoNew
        · exact absurd (idle second before) secondOpen
        · rw [isNew, alsoNew]
  | revise _ revises =>
      exact single first (mem_runs_of_open revises firstStored firstOpen)
        second (mem_runs_of_open revises secondStored secondOpen) firstOpen secondOpen
  | admitBatch _ _ _ _ _ _ _ | admitBootstrap _ _ _ _ _ _ | reviseBootstrap _ _ =>
      exact single first firstStored second secondStored firstOpen secondOpen

end Runs

/-- Every batch under way belongs to an open run. -/
def ParentsOpen (db : Database) : Prop :=
  ∀ row ∈ db.batchExecutions, row.status ∉ Status.terminal →
    ∃ run ∈ db.transformRuns, run.transformRunId = row.transformRunId ∧
      run.status ∉ Status.terminal

section Orderly

variable {db : Database} {request : Request}

theorem orderly_keeps_parent (orderly : Orderly db request) {old row : BatchExecution}
    (oldStored : old ∈ db.batchExecutions) (oldOpen : old.status ∉ Status.terminal)
    (stored : row ∈ (step db request).batchExecutions) (isOpen : row.status ∉ Status.terminal)
    (sameId : row.batchExecutionId = old.batchExecutionId) {run : TransformRun}
    (runStored : run ∈ db.transformRuns) (sameRun : run.transformRunId = old.transformRunId) :
    run ∈ (step db request).transformRuns := by
  rcases step_run_kept db request runStored with
    kept | ⟨closer, closerStored, closerRun, closes, next, nextStored, nextId, ended⟩
  · exact kept
  · by_cases same : old.batchExecutionId = closer.batchExecutionId
    · have sameKey : next.batchExecutionId = row.batchExecutionId := by
        rw [nextId, sameId, same]
      rw [Table.eq_of_key_eq nextStored stored sameKey] at ended
      exact absurd ended isOpen
    · rcases orderly.1 closer closerStored closes old oldStored
        (sameRun.symm.trans closerRun.symm) with
          oldEnded | alsoCloses
      · exact absurd oldEnded oldOpen
      · obtain ⟨locked, called⟩ := reconciles_of_two closes alsoCloses same
        have found := step_executions_of_expire db called old.batchExecutionId
        simp only [closesBatch, called] at alsoCloses
        have selected := mem_expiredExecutions.mpr ⟨oldStored, of_decide_eq_true alsoCloses⟩
        rw [Table.lookup_key oldStored, Option.map_some, if_pos selected, ← sameId,
          Table.lookup_key stored, Option.some.injEq] at found
        simp [found, Status.terminal] at isOpen

theorem parentsOpen_step (orderly : Orderly db request) (parents : ParentsOpen db) :
    ParentsOpen (step db request) := by
  intro row stored isOpen
  rcases mem_step stored with before | ⟨lawful, same⟩ | ⟨old, oldStored, revision, revises, rfl⟩
  · obtain ⟨run, runStored, sameRun, runOpen⟩ := parents row before isOpen
    exact ⟨run, orderly_keeps_parent orderly before isOpen stored isOpen rfl runStored sameRun,
      sameRun, runOpen⟩
  · have runs : (step db request).transformRuns = db.transformRuns := congrArg Board.runs same
    rw [runs]
    cases lawful with
    | admitBatch called parent freshKey noneActive passed _ _ =>
        obtain ⟨run, runStored, sameRun, -⟩ := parent
        refine ⟨run, runStored, sameRun, fun ended => ?_⟩
        have joins : joinsClosedRun db request.call = true := by
          simp only [joinsClosedRun, called, Bool.and_eq_true, List.any_eq_true, List.all_eq_true]
          refine ⟨⟨⟨⟨run, runStored, decide_eq_true ⟨sameRun, ended⟩⟩, ?_⟩, ?_⟩, ?_⟩
          · exact fun other otherStored => decide_eq_true (freshKey other otherStored)
          · intro other otherStored
            rw [Bool.not_eq_true', activeExecution]
            exact decide_eq_false fun active =>
              active.2.2 (noneActive other otherStored active.1 active.2.1)
          · exact fun prerequisite listed => succeeded_iff_passed.mpr (passed prerequisite listed)
        simp [orderly.2] at joins
  · have identity := revises.sameIdentity
    obtain ⟨run, runStored, sameRun, runOpen⟩ := parents old oldStored revises.selected_open
    exact ⟨run, orderly_keeps_parent orderly oldStored revises.selected_open stored isOpen
      identity.batchExecutionId runStored sameRun, sameRun.trans identity.transformRunId.symm,
      runOpen⟩

end Orderly

/-- Execution is confined to one run. -/
structure IsolatedRuns (requests : List Request) : Prop where
  /-- A claimed batch belongs to a run that is not terminal. -/
  claimed_open : ∀ before request rest, requests = before ++ request :: rest →
    ∀ lease ∈ handedOut (after before) request, ∀ row ∈ (after before).batchExecutions,
      row.batchExecutionId = lease.batchExecutionId →
        ∃ run ∈ (after before).transformRuns, run.transformRunId = row.transformRunId ∧
          run.status ∉ Status.terminal
  /-- All batches that are running or under test belong to one run. -/
  single_run : ∀ before rest, requests = before ++ rest →
    ∀ first ∈ (after before).batchExecutions, ∀ second ∈ (after before).batchExecutions,
      first.status ∈ Status.active → second.status ∈ Status.active →
        first.transformRunId = second.transformRunId

theorem runs_isolated (requests : List Request)
    (orderly : Machine.Along step Orderly .empty requests) : IsolatedRuns requests := by
  have parents : ∀ before rest, requests = before ++ rest → ParentsOpen (after before) := by
    rintro before rest rfl
    exact Machine.run_invariant_along step (fun _ _ => parentsOpen_step)
      (show ParentsOpen .empty from fun row stored => absurd stored (Table.not_mem_empty row))
      ((Machine.along_append step).mp orderly).1
  refine ⟨?_, ?_⟩
  · intro before request rest split lease handed row stored sameId
    rcases handedOut_cases (after before) request with
      idle | ⟨worker, token, leaseSeconds, locked, chosen, chosenStored, -, isQueued, list, -⟩
    · simp [idle] at handed
    · rw [list, List.mem_singleton] at handed
      subst handed
      have same := Table.eq_of_key_eq stored chosenStored sameId
      subst same
      exact parents before _ split row stored (by simp [isQueued, Status.terminal])
  · intro before rest split first firstStored second secondStored firstActive secondActive
    obtain ⟨firstRun, firstRunStored, firstId, firstOpen⟩ :=
      parents before rest split first firstStored (Status.not_terminal_of_active firstActive)
    obtain ⟨secondRun, secondRunStored, secondId, secondOpen⟩ :=
      parents before rest split second secondStored (Status.not_terminal_of_active secondActive)
    have single : (after before).board.SingleOpen :=
      step_simulates.run_invariant (fun _ _ _ lawful => lawful.singleOpen)
        (show Database.empty.board.SingleOpen from
          fun run stored => absurd stored (Table.not_mem_empty run)) before
    rw [← firstId, ← secondId,
      single firstRun firstRunStored secondRun secondRunStored firstOpen secondOpen]

/-- One batch fails its run; the next run starts after it. -/
def oneAfterTheOther : List Request :=
  [⟨0, .ledger (.createRun "airflow" "run-1" .snapshot .zero .zero "1" 0)⟩,
    ⟨1, .ledger (.submitBatch "tr_1" "airflow" "batch-1" ⟨"C4_ML_01", .mlPredictionTransform, []⟩
      .zero "a" 1)⟩,
    ⟨2, .ledger (.transition "be_a" .queued none none 2)⟩,
    ⟨3, .queue (.claim "worker-1" "token-1" 30 [])⟩,
    ⟨4, .queue (.finish "be_a" "worker-1" "token-1" .failed (some .notRun)
      (some "DBT_BUILD_FAILED"))⟩,
    ⟨5, .ledger (.createRun "airflow" "run-2" .snapshot .zero .zero "2" 5)⟩,
    ⟨6, .ledger (.submitBatch "tr_2" "airflow" "batch-2" ⟨"C4_ML_01", .mlPredictionTransform, []⟩
      .zero "b" 6)⟩,
    ⟨7, .ledger (.transition "be_b" .queued none none 7)⟩,
    ⟨8, .queue (.claim "worker-1" "token-2" 30 [])⟩]

theorem oneAfterTheOther_isolated : IsolatedRuns oneAfterTheOther :=
  runs_isolated oneAfterTheOther (by decide)

/-- A batch fails while its sibling is queued; the sibling is claimed all the
same, and runs beside the batch of the next run. -/
def siblingLeftBehind : List Request :=
  [⟨0, .ledger (.createRun "airflow" "run-1" .snapshot .zero .zero "1" 0)⟩,
    ⟨1, .ledger (.submitBatch "tr_1" "airflow" "batch-1" ⟨"C4_ML_01", .mlPredictionTransform, []⟩
      .zero "a" 1)⟩,
    ⟨2, .ledger (.submitBatch "tr_1" "airflow" "batch-2" ⟨"C4_RAW_02", .ordinaryTransform, []⟩
      .zero "b" 2)⟩,
    ⟨3, .ledger (.transition "be_a" .queued none none 3)⟩,
    ⟨4, .ledger (.transition "be_b" .queued none none 4)⟩,
    ⟨5, .queue (.claim "worker-1" "token-1" 30 [])⟩,
    ⟨6, .queue (.finish "be_a" "worker-1" "token-1" .failed (some .notRun)
      (some "DBT_BUILD_FAILED"))⟩,
    ⟨7, .queue (.claim "worker-1" "token-2" 30 [])⟩,
    ⟨8, .ledger (.createRun "airflow" "run-2" .snapshot .zero .zero "2" 8)⟩,
    ⟨9, .ledger (.submitBatch "tr_2" "airflow" "batch-3" ⟨"C4_ML_01", .mlPredictionTransform, []⟩
      .zero "c" 9)⟩,
    ⟨10, .ledger (.transition "be_c" .queued none none 10)⟩,
    ⟨11, .queue (.claim "worker-2" "token-3" 30 [])⟩]

theorem siblingLeftBehind_not_isolated :
    (∃ before request rest, siblingLeftBehind = before ++ request :: rest ∧
      ∃ lease ∈ handedOut (after before) request, ∃ row ∈ (after before).batchExecutions.rows,
        row.batchExecutionId = lease.batchExecutionId ∧
        ∀ run ∈ (after before).transformRuns.rows, run.transformRunId = row.transformRunId →
          run.status ∈ Status.terminal) ∧
      ¬ IsolatedRuns siblingLeftBehind := by
  refine ⟨⟨siblingLeftBehind.take 7, ⟨7, .queue (.claim "worker-1" "token-2" 30 [])⟩,
    siblingLeftBehind.drop 8, rfl, by decide⟩, fun isolated => ?_⟩
  have together : ∀ first ∈ (after siblingLeftBehind).batchExecutions.rows,
      ∀ second ∈ (after siblingLeftBehind).batchExecutions.rows,
        first.status ∈ Status.active → second.status ∈ Status.active →
          first.transformRunId = second.transformRunId :=
    isolated.single_run siblingLeftBehind [] (List.append_nil _).symm
  exact absurd together (by decide)

end PaymentsPlatform.TransformRuntime
