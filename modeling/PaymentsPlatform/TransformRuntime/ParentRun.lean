import PaymentsPlatform.TransformRuntime.Evolution

/-!
# The parent run

A run is closed by the first of its batches that ends badly, with that batch's
status, and the closing is reported once.  `failures` says what a request did
by looking at the two databases, not at the operation; `failures_eq` shows that
it is what the moves of the request closed.
-/

namespace PaymentsPlatform.TransformRuntime

open Relational PostgresDurableQueue

/-- The run and status of a batch that became `FAILED`, `CANCELLED` or
`ORPHANED`. -/
def endedBadly (row : BatchExecution) : Option BatchExecution → Option (String × Status)
  | none => none
  | some next =>
      if row.status ∉ Status.closing ∧ next.status ∈ Status.closing then
        some (next.transformRunId, next.status)
      else none

/-- The batches that a request ends badly, other than by
`reject_prerequisite_if_owned`. -/
def failures (db : Database) (request : Request) : List (String × Status) :=
  match request.call with
  | .queue (.rejectPrerequisiteIfOwned ..) => []
  | _ => db.batchExecutions.rows.filterMap fun row =>
      endedBadly row ((step db request).batchExecutions.lookup row.batchExecutionId)

/-- What the entries say about one run. -/
def statusesOf (runId : String) (entries : List (String × Status)) : List Status :=
  (entries.filter fun entry => entry.1 = runId).map Prod.snd

/-- What a move closes. -/
def Move.failures : Move → List (String × Status)
  | .revise revision =>
      if revision.closes then [(revision.revised.transformRunId, revision.revised.status)] else []
  | _ => []

section Failures

variable {db : Database} {request : Request}

@[simp]
theorem endedBadly_self (row : BatchExecution) : endedBadly row (some row) = none := by
  simp [endedBadly]

theorem endedBadly_revised {row : BatchExecution} {revision : Revision}
    (revises : Revises request row revision)
    (notReject : ∀ eid worker token failureClass,
      request.call ≠ .queue (.rejectPrerequisiteIfOwned eid worker token failureClass)) :
    (endedBadly row (some revision.revised)).toList = (Move.revise revision).failures := by
  have wasOpen : row.status ∉ Status.closing := fun closed =>
    revises.selected_open (Status.terminal_of_closing closed)
  by_cases closing : revision.revised.status ∈ Status.closing
  · simp [endedBadly, Move.failures, wasOpen, closing, revises.closes_of_closing closing notReject]
  · have closes : revision.closes = false :=
      Bool.eq_false_iff.mpr fun closes => closing (revises.closing_of_closes closes)
    simp [endedBadly, Move.failures, closing, closes]

theorem failures_of_not_reject (notReject : ∀ eid worker token failureClass,
      request.call ≠ .queue (.rejectPrerequisiteIfOwned eid worker token failureClass)) :
    failures db request = db.batchExecutions.rows.filterMap fun row =>
      endedBadly row ((step db request).batchExecutions.lookup row.batchExecutionId) := by
  unfold failures
  split
  next eid worker token failureClass called =>
    exact absurd called (notReject eid worker token failureClass)
  next => rfl

theorem filterMap_endedBadly_of_kept (kept : ∀ row ∈ db.batchExecutions,
      row ∈ (step db request).batchExecutions) :
    (db.batchExecutions.rows.filterMap fun row =>
      endedBadly row ((step db request).batchExecutions.lookup row.batchExecutionId)) = [] := by
  rw [List.filterMap_eq_nil_iff]
  intro row stored
  rw [Table.lookup_key (kept row stored), endedBadly_self]

theorem Revises.not_closes_of_reject {row : BatchExecution} {revision : Revision}
    {eid worker token failureClass : String} (revises : Revises request row revision)
    (called : request.call =
      .queue (.rejectPrerequisiteIfOwned eid worker token failureClass)) :
    revision.closes = false := by
  cases revises with
  | reject _ _ => rfl
  | transition other _ | claim other _ _ _ | recordNessieBranch other _ _ | heartbeat other _ _
  | cancel other _ | flag other _ _ | finish other _ _ _ | orphan other _ | expire other _ _ _ =>
      simp [called] at other

theorem failures_of_reject {eid worker token failureClass : String}
    (called : request.call = .queue (.rejectPrerequisiteIfOwned eid worker token failureClass))
    {moves : List Move} (performs : Performs db request moves) :
    moves.flatMap Move.failures = [] := by
  cases performs with
  | idle _ => rfl
  | expire other | expireBootstraps other => simp [called] at other
  | single _ lawful =>
      cases lawful with
      | revise _ revises => simp [Move.failures, revises.not_closes_of_reject called]
      | admitRun _ _ _ | admitBatch _ _ _ _ _ _ _ | admitBootstrap _ _ _ _ _ _
      | reviseBootstrap _ _ => rfl

theorem failures_of_expire {locked : List String}
    (called : request.call = .queue (.reconcileExpired locked)) :
    (db.batchExecutions.rows.filterMap fun row =>
        endedBadly row ((step db request).batchExecutions.lookup row.batchExecutionId)) =
      ((expiredExecutions db request.now locked).map (expiry request.now)).flatMap
        Move.failures := by
  have reported : ∀ row ∈ db.batchExecutions.rows,
      endedBadly row ((step db request).batchExecutions.lookup row.batchExecutionId) =
        if row.status ∈ Status.active ∧ leaseExpired row.leaseExpiresAt request.now ∧
            row.batchExecutionId ∉ locked then some (row.transformRunId, Status.orphaned)
        else none := by
    intro row stored
    rw [step_executions_of_expire db called, Table.lookup_key stored, Option.map_some]
    by_cases selected : row ∈ expiredExecutions db request.now locked
    · have guards := (mem_expiredExecutions.mp selected).2
      have wasOpen : row.status ∉ Status.closing := fun closed =>
        Status.not_terminal_of_active guards.1 (Status.terminal_of_closing closed)
      have isClosing : Status.orphaned ∈ Status.closing := by decide
      rw [if_pos selected, if_pos guards]
      simp [endedBadly, wasOpen, isClosing, BatchExecution.orphanedWith, BatchExecution.settled]
    · rw [if_neg selected, if_neg fun guards => selected (mem_expiredExecutions.mpr ⟨stored, guards⟩),
        endedBadly_self]
  rw [List.filterMap_congr reported, List.flatMap_map]
  simp only [Move.failures, expiry, if_true]
  rw [← List.map_eq_flatMap, expiredExecutions, ← List.filterMap_eq_map', List.filterMap_filter]
  refine List.filterMap_congr fun row _ => ?_
  simp only [decide_eq_true_eq]
  rfl

theorem failures_eq {moves : List Move} (performs : Performs db request moves)
    (same : (step db request).board = Machine.run Board.apply db.board moves) :
    failures db request = moves.flatMap Move.failures := by
  by_cases reject : ∃ eid worker token failureClass,
      request.call = .queue (.rejectPrerequisiteIfOwned eid worker token failureClass)
  · obtain ⟨eid, worker, token, failureClass, called⟩ := reject
    rw [failures_of_reject called performs]
    simp [failures, called]
  · have notReject : ∀ eid worker token failureClass,
        request.call ≠ .queue (.rejectPrerequisiteIfOwned eid worker token failureClass) :=
      fun eid worker token failureClass called =>
        reject ⟨eid, worker, token, failureClass, called⟩
    have tables : (step db request).batchExecutions =
        (Machine.run Board.apply db.board moves).executions := congrArg Board.executions same
    rw [failures_of_not_reject notReject]
    cases performs with
    | idle _ => exact filterMap_endedBadly_of_kept fun row stored => tables ▸ stored
    | expire called => exact failures_of_expire called
    | expireBootstraps _ =>
        rw [run_bootstrapExpiries_executions] at tables
        rw [filterMap_endedBadly_of_kept fun row stored => tables ▸ stored, List.flatMap_map]
        simp [Move.failures, bootstrapExpiry]
    | single _ lawful =>
        rw [List.flatMap_singleton]
        cases lawful with
        | admitRun _ _ _ | admitBootstrap _ _ _ _ _ _ | reviseBootstrap _ _ =>
            exact filterMap_endedBadly_of_kept fun row stored => tables ▸ stored
        | admitBatch _ _ _ _ _ fresh _ =>
            exact filterMap_endedBadly_of_kept fun row stored =>
              tables ▸ (Table.mem_push fresh).mpr (.inl stored)
        | revise boardStored revises =>
            have stored : _ ∈ db.batchExecutions := boardStored
            have sameId := revises.sameIdentity.batchExecutionId
            simp only [Machine.run_cons, Machine.run_nil, Board.apply,
              Board.revise_executions, Database.board_executions] at tables
            rw [← endedBadly_revised revises notReject, Table.filterMap_of_single stored]
            · rw [tables, Table.lookup_replace, if_pos sameId, Table.lookup_key stored]
              rfl
            · intro other otherStored otherId
              rw [tables, Table.lookup_replace,
                if_neg (fun equal => otherId (equal.symm.trans sameId)),
                Table.lookup_key otherStored, endedBadly_self]

end Failures

section StatusesOf

@[simp]
theorem statusesOf_append (runId : String) (first second : List (String × Status)) :
    statusesOf runId (first ++ second) = statusesOf runId first ++ statusesOf runId second := by
  simp [statusesOf]

@[simp]
theorem statusesOf_nil (runId : String) : statusesOf runId [] = [] := rfl

theorem statusesOf_single (runId : String) (status : Status) :
    statusesOf runId [(runId, status)] = [status] := by
  simp [statusesOf]

theorem statusesOf_single_ne {runId other : String} (differs : other ≠ runId) (status : Status) :
    statusesOf runId [(other, status)] = [] := by
  simp [statusesOf, differs]

theorem statusesOf_eq_nil {runId : String} {entries : List (String × Status)}
    (absent : ∀ entry ∈ entries, entry.1 ≠ runId) : statusesOf runId entries = [] := by
  unfold statusesOf
  rw [List.filter_eq_nil_iff.mpr (by simpa using absent), List.map_nil]

end StatusesOf

/-- A run is as it was admitted until the first failure, and has that failure's
status from then on. -/
def TransformRun.Told (run : TransformRun) (failed closures : List (String × Status)) : Prop :=
  (run.status = .admitted ∧ statusesOf run.transformRunId failed = [] ∧
      statusesOf run.transformRunId closures = []) ∨
    (run.status ∈ Status.closing ∧
      (∃ rest, statusesOf run.transformRunId failed = run.status :: rest) ∧
      statusesOf run.transformRunId closures = [run.status])

def Board.HasRun (board : Board) (runId : String) : Prop :=
  ∃ run ∈ board.runs, run.transformRunId = runId

/-- The runs against the failures reported so far. -/
structure Board.Told (board : Board) (failed : List (String × Status)) : Prop where
  told : ∀ run ∈ board.runs, run.Told failed board.closures
  parent : ∀ row ∈ board.executions, board.HasRun row.transformRunId
  known : ∀ entry ∈ failed ++ board.closures, board.HasRun entry.1

section Told

variable {request : Request} {board : Board} {failed : List (String × Status)}

theorem revise_hasRun {runId : String} (revision : Revision) (has : board.HasRun runId) :
    (board.revise revision).HasRun runId := by
  obtain ⟨run, stored, rfl⟩ := has
  unfold Board.HasRun
  rw [Board.revise_runs]
  split
  next closes =>
    refine ⟨_, Table.mem_update.mpr ⟨run, stored, rfl⟩, ?_⟩
    split <;> rfl
  next keeps => exact ⟨run, stored, rfl⟩

theorem Lawful.hasRun {move : Move} {runId : String} (lawful : Lawful request board move)
    (has : board.HasRun runId) : (board.apply move).HasRun runId := by
  cases lawful with
  | admitRun _ _ fresh =>
      obtain ⟨run, stored, sameId⟩ := has
      exact ⟨run, (Table.mem_push fresh).mpr (.inl stored), sameId⟩
  | revise _ _ => exact revise_hasRun _ has
  | admitBatch _ _ _ _ _ _ _ | admitBootstrap _ _ _ _ _ _ | reviseBootstrap _ _ => exact has

theorem Lawful.parent {move : Move} (lawful : Lawful request board move)
    (parent : ∀ row ∈ board.executions, board.HasRun row.transformRunId) :
    ∀ row ∈ (board.apply move).executions, (board.apply move).HasRun row.transformRunId := by
  intro row stored
  apply lawful.hasRun
  rcases lawful.mem_apply stored with before | rfl | ⟨old, oldStored, revision, revises, rfl⟩
  · exact parent row before
  · cases lawful with
    | admitBatch _ exists_run _ _ _ _ _ =>
        obtain ⟨run, runStored, sameId, -⟩ := exists_run
        exact ⟨run, runStored, sameId⟩
  · rw [revises.sameIdentity.transformRunId]
    exact parent old oldStored

/-- The run of a batch that ends badly takes its status if it was open and
ignores it otherwise; other runs take no notice. -/
theorem told_closed {runId : String} {status : Status} {now : Timestamp} {run : TransformRun}
    (isClosing : status ∈ Status.closing) (stored : run ∈ board.runs)
    (told : run.Told failed board.closures) :
    (if Database.runOpen runId run then run.withStatus status now else run).Told
      (failed ++ [(runId, status)])
      (if board.runs.rows.any (Database.runOpen runId) then board.closures ++ [(runId, status)]
        else board.closures) := by
  by_cases isOpen : Database.runOpen runId run = true
  · have someOpen : board.runs.rows.any (Database.runOpen runId) = true :=
      List.any_eq_true.mpr ⟨run, stored, isOpen⟩
    obtain ⟨rfl, notTerminal⟩ := of_decide_eq_true isOpen
    rw [if_pos isOpen, if_pos someOpen]
    rcases told with ⟨-, noFailure, noClosure⟩ | ⟨closed, -⟩
    · refine .inr ⟨isClosing, ⟨[], ?_⟩, ?_⟩
      · simp [noFailure, statusesOf_single]
      · simp [noClosure, statusesOf_single]
    · exact absurd (Status.terminal_of_closing closed) notTerminal
  · rw [if_neg isOpen]
    by_cases sameRun : run.transformRunId = runId
    · subst sameRun
      have noneOpen : ¬ (board.runs.rows.any (Database.runOpen run.transformRunId) = true) := by
        intro someOpen
        obtain ⟨other, otherStored, otherOpen⟩ := List.any_eq_true.mp someOpen
        have sameKey := (of_decide_eq_true otherOpen).1
        rw [Table.eq_of_key_eq otherStored stored sameKey] at otherOpen
        exact isOpen otherOpen
      rw [if_neg noneOpen]
      rcases told with ⟨isAdmitted, -⟩ | ⟨closed, ⟨rest, first⟩, reported⟩
      · exact absurd (decide_eq_true ⟨rfl, by simp [isAdmitted, Status.terminal]⟩) isOpen
      · exact .inr ⟨closed, ⟨rest ++ [status], by simp [first, statusesOf_single]⟩, reported⟩
    · have silentFailure : statusesOf run.transformRunId (failed ++ [(runId, status)]) =
          statusesOf run.transformRunId failed := by
        simp [statusesOf_single_ne (Ne.symm sameRun)]
      have silentClosure : statusesOf run.transformRunId
          (if board.runs.rows.any (Database.runOpen runId) then
            board.closures ++ [(runId, status)] else board.closures) =
          statusesOf run.transformRunId board.closures := by
        split
        · simp [statusesOf_single_ne (Ne.symm sameRun)]
        · rfl
      unfold TransformRun.Told
      rw [silentFailure, silentClosure]
      exact told

theorem Lawful.known {move : Move} (lawful : Lawful request board move)
    (book : board.Told failed) :
    ∀ entry ∈ failed ++ move.failures ++ (board.apply move).closures,
      (board.apply move).HasRun entry.1 := by
  intro entry listed
  have old : entry ∈ failed ++ board.closures → (board.apply move).HasRun entry.1 :=
    fun before => lawful.hasRun (book.known entry before)
  cases lawful with
  | revise stored revises =>
      rename_i row revision
      have has := revise_hasRun revision (book.parent row stored)
      rw [← revises.sameIdentity.transformRunId] at has
      simp only [Board.apply, Board.revise_closures, Move.failures] at listed old ⊢
      simp only [List.mem_append] at listed old
      rcases listed with (before | new) | closure
      · exact old (.inl before)
      · split at new
        next closes =>
          rw [List.mem_singleton.mp new]
          exact has
        next keeps => simp at new
      · split at closure
        next closes =>
          rcases List.mem_append.mp closure with before | new
          · exact old (.inr before)
          · rw [List.mem_singleton.mp new]
            exact has
        next keeps => exact old (.inr closure)
  | admitRun _ _ _ | admitBatch _ _ _ _ _ _ _ | admitBootstrap _ _ _ _ _ _
  | reviseBootstrap _ _ =>
      simp only [Move.failures, List.append_nil] at listed
      exact old listed

theorem Lawful.told {move : Move} (lawful : Lawful request board move)
    (book : board.Told failed) : (board.apply move).Told (failed ++ move.failures) := by
  refine ⟨?_, lawful.parent book.parent, lawful.known book⟩
  intro run stored
  cases lawful with
  | admitRun _ _ fresh =>
      simp only [Move.failures, List.append_nil]
      rcases (Table.mem_push fresh).mp stored with before | isNew
      · exact book.told run before
      · have absent : ∀ entry ∈ failed ++ board.closures, entry.1 ≠ run.transformRunId := by
          intro entry listed same
          obtain ⟨other, otherStored, otherId⟩ := book.known entry listed
          exact fresh other otherStored
            (otherId.trans (same.trans (congrArg TransformRun.transformRunId isNew)))
        refine .inl ⟨congrArg TransformRun.status isNew, ?_, ?_⟩
        · exact statusesOf_eq_nil fun entry listed => absent entry (List.mem_append_left _ listed)
        · exact statusesOf_eq_nil fun entry listed => absent entry (List.mem_append_right _ listed)
  | revise _ revises =>
      simp only [Board.apply, Board.revise_closures, Move.failures] at stored ⊢
      rw [Board.revise_runs] at stored
      split at stored
      next closes =>
        obtain ⟨old, oldStored, rfl⟩ := Table.mem_update.mp stored
        simp only [closes, if_true, true_and]
        exact told_closed (revises.closing_of_closes closes) oldStored (book.told old oldStored)
      next keeps => simpa [keeps] using book.told run stored
  | admitBatch _ _ _ _ _ _ _ | admitBootstrap _ _ _ _ _ _ | reviseBootstrap _ _ =>
      simp only [Move.failures, List.append_nil]
      exact book.told run stored

theorem told_moves {moves : List Move}
    (along : Machine.Along Board.apply (Lawful request) board moves)
    (book : board.Told failed) :
    (Machine.run Board.apply board moves).Told (failed ++ moves.flatMap Move.failures) := by
  induction moves generalizing board failed with
  | nil => simpa using book
  | cons move rest ih =>
      have next := ih along.2 (along.1.told book)
      simpa [List.append_assoc] using next

end Told

/-- The batches that ended badly in a run of requests, in order. -/
def failuresOf (requests : List Request) (runId : String) : List Status :=
  statusesOf runId (Machine.log step failures .empty requests)

/-- The `RUN_` events of one run, in order. -/
def runEvents (db : Database) (runId : String) : List Status :=
  statusesOf runId db.board.closures

theorem told_after (requests : List Request) :
    (after requests).board.Told (Machine.log step failures .empty requests) := by
  have start : Database.empty.board.Told [] :=
    ⟨fun run stored => absurd stored (Table.not_mem_empty run),
      fun row stored => absurd stored (Table.not_mem_empty row),
      by simp [Database.board, Database.empty]⟩
  refine Machine.log_invariant step failures
    (show ∀ db request failed, Database.board db |>.Told failed →
      (step db request).board.Told (failed ++ failures db request) from ?_) start requests
  intro db request failed book
  obtain ⟨moves, performs, same⟩ := step_performs db request
  rw [same, failures_eq performs same]
  exact told_moves performs.along book

theorem failuresOf_append (first second : List Request) (runId : String) :
    failuresOf (first ++ second) runId =
      failuresOf first runId ++
        statusesOf runId (Machine.log step failures (after first) second) := by
  unfold failuresOf
  rw [Machine.log_append, statusesOf_append]
  rfl

theorem status_of_first_failure {requests : List Request} {run : TransformRun}
    (stored : run ∈ (after requests).transformRuns) {status : Status} {rest : List Status}
    (first : failuresOf requests run.transformRunId = status :: rest) : run.status = status := by
  rcases (told_after requests).told run stored with ⟨-, noFailure, -⟩ | ⟨-, ⟨others, told⟩, -⟩
  · unfold failuresOf at first
    simp [first] at noFailure
  · unfold failuresOf at first
    rw [first] at told
    exact (List.cons.inj told).1.symm

/-- A run is open exactly while no batch of it has ended badly; afterwards it has
the status of the first such batch for good, and one `RUN_` event says so. -/
theorem run_closed_by_first_failure (requests : List Request) :
    ∀ run ∈ (after requests).transformRuns,
      (run.status ∉ Status.terminal ↔ failuresOf requests run.transformRunId = []) ∧
      (run.status ∈ Status.terminal →
        (failuresOf requests run.transformRunId).head? = some run.status ∧
        run.status ∈ Status.closing ∧
        runEvents (after requests) run.transformRunId = [run.status] ∧
        ∀ later, ∀ next ∈ (after (requests ++ later)).transformRuns,
          next.transformRunId = run.transformRunId → next.status = run.status) ∧
      (run.status ∉ Status.terminal → runEvents (after requests) run.transformRunId = []) := by
  intro run stored
  rcases (told_after requests).told run stored with
    ⟨isAdmitted, noFailure, noEvent⟩ | ⟨isClosing, ⟨rest, first⟩, oneEvent⟩
  · have isOpen : run.status ∉ Status.terminal := by simp [isAdmitted, Status.terminal]
    exact ⟨iff_of_true isOpen noFailure, fun ended => absurd ended isOpen, fun _ => noEvent⟩
  · have ended := Status.terminal_of_closing isClosing
    have failed : failuresOf requests run.transformRunId = run.status :: rest := first
    refine ⟨iff_of_false (not_not_intro ended) (by simp [failed]), fun _ => ?_,
      fun isOpen => absurd ended isOpen⟩
    refine ⟨by simp [failed], isClosing, oneEvent, fun later next nextStored sameRun => ?_⟩
    apply status_of_first_failure nextStored
    rw [sameRun, failuresOf_append, failed, List.cons_append]

/-- Two batches of one run end badly, one after the other. -/
def twoFailures : List Request :=
  [⟨0, .ledger (.createRun "airflow" "run-1" .snapshot .zero .zero "1" 0)⟩,
    ⟨1, .ledger (.submitBatch "tr_1" "airflow" "batch-1" ⟨"C4_ML_01", .mlPredictionTransform, []⟩
      .zero "a" 1)⟩,
    ⟨2, .ledger (.submitBatch "tr_1" "airflow" "batch-2" ⟨"C4_RAW_02", .ordinaryTransform, []⟩
      .zero "b" 2)⟩,
    ⟨3, .ledger (.transition "be_a" .queued none none 3)⟩,
    ⟨4, .queue (.claim "worker-1" "token-1" 30 [])⟩,
    ⟨5, .queue (.finish "be_a" "worker-1" "token-1" .failed (some .notRun)
      (some "DBT_BUILD_FAILED"))⟩,
    ⟨6, .queue (.requestCancel "be_b")⟩]

theorem twoFailures_closed_once :
    failuresOf twoFailures "tr_1" = [.failed, .cancelled] ∧
      runEvents (after twoFailures) "tr_1" = [.failed] :=
  ⟨by decide,
    ((run_closed_by_first_failure twoFailures
      { admittedRun "airflow" "run-1" .snapshot .zero .zero "1" 0 with
        status := .failed, heartbeatAt := 5 }
      (List.mem_of_elem_eq_true (by decide))).2.1 (by decide)).2.2.1⟩

end PaymentsPlatform.TransformRuntime
