import PaymentsPlatform.TransformRuntime.Evolution

/-!
# Attempts beside executions

`finish`, `orphan_if_owned`, `reject_prerequisite_if_owned` and
`reconcile_expired` write the attempt together with the execution they end.
`request_cancel` on a batch no worker has claimed and `transition` into a
terminal status do not, and the attempt they leave behind is never written
again.
-/

namespace PaymentsPlatform.TransformRuntime

open Relational PostgresDurableQueue

/-- The status of the current attempt of an execution. -/
def Board.attemptStatus (board : Board) (row : BatchExecution) : Option Status :=
  (board.attempts.lookup (row.batchExecutionId, row.attempt)).map BatchAttempt.status

/-- Every terminal execution has an attempt with its status. -/
def Board.AttemptsAgree (board : Board) : Prop :=
  ∀ row ∈ board.executions, row.status ∈ Status.terminal →
    board.attemptStatus row = some row.status

/-- The request ends a batch without the companion update of its attempt. -/
def LeavesAttempt (db : Database) (request : Request) : Prop :=
  match request.call with
  | .queue (.requestCancel eid) => ∃ row ∈ db.batchExecutions.rows,
      row.batchExecutionId = eid ∧ row.status ∈ [Status.admitted, Status.queued]
  | .ledger (.transition executionId state _ _ _) => ∃ row ∈ db.batchExecutions.rows,
      row.batchExecutionId = executionId ∧ state ∈ row.status.transitions ∧
        state ∈ Status.terminal
  | _ => False

section Moves

variable {request : Request} {board : Board}

theorem revise_attemptStatus (revision : Revision) (row : BatchExecution) :
    (board.revise revision).attemptStatus row =
      if row.batchExecutionId = revision.revised.batchExecutionId ∧
          row.attempt = revision.revised.attempt then
        (board.attemptStatus row).map fun status => revision.attemptStatus.getD status
      else board.attemptStatus row := by
  unfold Board.attemptStatus
  rw [Board.revise_attempts]
  unfold Board.rewrite
  cases written : revision.attemptStatus with
  | none => simp [Function.comp_def]
  | some status =>
      simp only [Table.lookup_update, Option.map_map]
      cases found : board.attempts.lookup (row.batchExecutionId, row.attempt) with
      | none => simp
      | some attempt =>
          have sameKey := (Table.lookup_eq_some.mp found).2
          simp only [BatchAttempt.key, Prod.mk.injEq] at sameKey
          by_cases same : row.batchExecutionId = revision.revised.batchExecutionId ∧
              row.attempt = revision.revised.attempt
          · simp [sameKey, same]
          · simp only [Option.map_some, Function.comp_apply, sameKey, same, decide_false,
              Bool.false_eq_true, if_false]

theorem Revises.attemptStatus_open {row : BatchExecution} {revision : Revision}
    (revises : Revises request row revision)
    (stays : revision.revised.status ∉ Status.terminal) :
    ∀ status ∈ revision.attemptStatus, status ∉ Status.terminal := by
  intro status written
  cases revises with
  | transition _ _ | recordNessieBranch _ _ _ | heartbeat _ _ _ | cancel _ _ | flag _ _ _ =>
      simp at written
  | claim _ _ _ _ =>
      rw [← Option.mem_some_iff.mp written]
      simp [Status.terminal]
  | finish _ ends _ _ => exact absurd ends stays
  | orphan _ _ | reject _ _ | expire _ _ _ _ => simp [Status.terminal] at stays

end Moves

/-- The attempt of a batch under way is under way. -/
def Board.AttemptsOpen (board : Board) : Prop :=
  ∀ row ∈ board.executions, row.status ∉ Status.terminal →
    ∃ status, board.attemptStatus row = some status ∧ status ∉ Status.terminal

section Invariants

variable {request : Request} {board : Board}

theorem Lawful.attemptStatus_cases {move : Move} (lawful : Lawful request board move)
    {row : BatchExecution} (stored : row ∈ (board.apply move).executions) :
    (row ∈ board.executions ∧ (board.apply move).attemptStatus row = board.attemptStatus row) ∨
      (row.status = .admitted ∧ (board.apply move).attemptStatus row = some .admitted) ∨
      ∃ old ∈ board.executions, ∃ revision, Revises request old revision ∧
        row = revision.revised ∧
        (board.apply move).attemptStatus row =
          (board.attemptStatus old).map fun status => revision.attemptStatus.getD status := by
  cases lawful with
  | admitBatch _ _ _ _ _ fresh freshAttempt =>
      rename_i runId caller key batch fingerprint uuid accepted _ _ _ _ _
      have pushed : (board.attempts.push (Board.firstAttempt
          (admittedBatch runId caller key batch fingerprint uuid accepted))).lookup
            (row.batchExecutionId, row.attempt) = _ :=
        Table.lookup_push freshAttempt (row.batchExecutionId, row.attempt)
      rcases (Table.mem_push fresh).mp stored with before | rfl
      · have kept := pushed.trans
          (if_neg fun same => fresh row before (congrArg Prod.fst same).symm)
        exact .inl ⟨before, congrArg (Option.map BatchAttempt.status) kept⟩
      · have first := pushed.trans (if_pos rfl)
        exact .inr (.inl ⟨rfl, congrArg (Option.map BatchAttempt.status) first⟩)
  | revise oldStored revises =>
      rename_i old revision
      have identity := revises.sameIdentity
      rw [Board.apply, Board.revise_executions, Table.mem_replace] at stored
      rw [Board.apply, revise_attemptStatus]
      rcases stored with ⟨before, otherId⟩ | ⟨rfl, -⟩
      · exact .inl ⟨before, if_neg fun same => otherId same.1⟩
      · refine .inr (.inr ⟨old, oldStored, revision, revises, rfl, ?_⟩)
        rw [if_pos ⟨rfl, rfl⟩]
        simp only [Board.attemptStatus, identity.batchExecutionId, identity.attempt]
  | admitRun _ _ _ | admitBootstrap _ _ _ _ _ _ | reviseBootstrap _ _ => exact .inl ⟨stored, rfl⟩

theorem Lawful.attemptsOpen {move : Move} (lawful : Lawful request board move)
    (book : board.AttemptsOpen) : (board.apply move).AttemptsOpen := by
  intro row stored isOpen
  rcases lawful.attemptStatus_cases stored with
    ⟨before, same⟩ | ⟨isAdmitted, same⟩ | ⟨old, oldStored, revision, revises, rfl, same⟩
  · rw [same]
    exact book row before isOpen
  · exact ⟨.admitted, same, by simp [Status.terminal]⟩
  · obtain ⟨status, found, under⟩ := book old oldStored revises.selected_open
    refine ⟨_, by rw [same, found, Option.map_some], ?_⟩
    cases written : revision.attemptStatus with
    | none => exact under
    | some next => exact revises.attemptStatus_open isOpen next written

theorem Lawful.attemptsAgree {move : Move} (lawful : Lawful request board move)
    (companion : ∀ old ∈ board.executions, ∀ revision, Revises request old revision →
      revision.revised.status ∈ Status.terminal →
        revision.attemptStatus = some revision.revised.status)
    (book : board.AttemptsOpen) (agree : board.AttemptsAgree) :
    (board.apply move).AttemptsAgree := by
  intro row stored ended
  rcases lawful.attemptStatus_cases stored with
    ⟨before, same⟩ | ⟨isAdmitted, -⟩ | ⟨old, oldStored, revision, revises, rfl, same⟩
  · rw [same]
    exact agree row before ended
  · simp [isAdmitted, Status.terminal] at ended
  · obtain ⟨status, found, -⟩ := book old oldStored revises.selected_open
    rw [same, found, companion old oldStored revision revises ended]
    rfl

theorem attemptsOpen_after (requests : List Request) : (after requests).board.AttemptsOpen :=
  step_simulates.run_invariant (fun _ _ _ lawful => lawful.attemptsOpen)
    (show Database.empty.board.AttemptsOpen from
      fun row stored => absurd stored (Table.not_mem_empty row)) requests

end Invariants

section Requests

variable {db : Database} {request : Request}

theorem Revises.attemptStatus_ended {row : BatchExecution} {revision : Revision}
    (stored : row ∈ db.batchExecutions) (revises : Revises request row revision)
    (writes : ¬ LeavesAttempt db request) (ends : revision.revised.status ∈ Status.terminal) :
    revision.attemptStatus = some revision.revised.status := by
  have wasOpen := revises.selected_open
  cases revises with
  | transition called allowed =>
      refine absurd ?_ writes
      simp only [LeavesAttempt, called]
      exact ⟨row, stored, rfl, allowed, ends⟩
  | cancel called waiting =>
      refine absurd ?_ writes
      simp only [LeavesAttempt, called]
      exact ⟨row, stored, rfl, waiting⟩
  | recordNessieBranch _ _ _ | heartbeat _ _ _ | flag _ _ _ => exact absurd ends wasOpen
  | claim _ _ _ _ => simp [Status.terminal] at ends
  | finish _ _ _ _ | orphan _ _ | reject _ _ | expire _ _ _ _ => rfl

theorem Revises.attemptStatus_reconciled {row : BatchExecution} {revision : Revision}
    (revises : Revises request row revision) (reconciles : request.call.isReconcile = true) :
    revision.attemptStatus = some revision.revised.status := by
  cases revises with
  | expire _ _ _ _ => rfl
  | transition called _ | claim called _ _ _ | recordNessieBranch called _ _
  | heartbeat called _ _ | cancel called _ | flag called _ _ | finish called _ _ _
  | orphan called _ | reject called _ => simp [called, Call.isReconcile] at reconciles

theorem attemptsAgree_step (book : db.board.AttemptsOpen) (agree : db.board.AttemptsAgree)
    (writes : ¬ LeavesAttempt db request) : (step db request).board.AttemptsAgree := by
  obtain ⟨moves, performs, same⟩ := step_performs db request
  rw [same]
  by_cases reconciles : request.call.isReconcile = true
  · -- several moves: carry both facts through them
    have both := Machine.run_invariant_along Board.apply
      (show ∀ board move, Lawful request board move →
        board.AttemptsOpen ∧ board.AttemptsAgree →
        (board.apply move).AttemptsOpen ∧ (board.apply move).AttemptsAgree from
        fun board move lawful ⟨opened, agreed⟩ =>
          ⟨lawful.attemptsOpen opened, lawful.attemptsAgree
            (fun _ _ _ revises _ => revises.attemptStatus_reconciled reconciles) opened agreed⟩)
      ⟨book, agree⟩ performs.along
    exact both.2
  · cases performs with
    | idle _ => exact agree
    | single _ lawful =>
        exact lawful.attemptsAgree
          (fun _ stored _ revises ends => revises.attemptStatus_ended stored writes ends) book agree
    | expire called | expireBootstraps called => simp [called, Call.isReconcile] at reconciles

theorem not_attemptsAgree_of_revise {row : BatchExecution} {revision : Revision}
    (book : db.board.AttemptsOpen) (stored : row ∈ db.batchExecutions)
    (revises : Revises request row revision) (silent : revision.attemptStatus = none)
    (ends : revision.revised.status ∈ Status.terminal)
    (same : (step db request).board = db.board.revise revision) :
    ¬ (step db request).board.AttemptsAgree := by
  intro agree
  obtain ⟨status, found, under⟩ := book row stored revises.selected_open
  have identity := revises.sameIdentity
  have revised : revision.revised ∈ (step db request).board.executions := by
    rw [same, Board.revise_executions, Table.mem_replace]
    exact .inr ⟨rfl, row, stored, identity.batchExecutionId.symm⟩
  have left := agree revision.revised revised ends
  rw [same, revise_attemptStatus, if_pos ⟨rfl, rfl⟩] at left
  simp only [Board.attemptStatus, identity.batchExecutionId, identity.attempt] at left found
  rw [found, silent] at left
  simp only [Option.map_some, Option.getD_none, Option.some.injEq] at left
  exact under (left ▸ ends)

theorem not_attemptsAgree_step (book : db.board.AttemptsOpen)
    (leaves : LeavesAttempt db request) : ¬ (step db request).board.AttemptsAgree := by
  unfold LeavesAttempt at leaves
  split at leaves
  next eid called =>
    obtain ⟨row, stored, rfl, waiting⟩ := leaves
    exact not_attemptsAgree_of_revise book stored (.cancel called waiting) rfl
      (by simp [Status.terminal]) (requestCancel_waiting stored waiting called)
  next executionId state testStatus failureClass timestamp called =>
    obtain ⟨row, stored, rfl, allowed, ends⟩ := leaves
    exact not_attemptsAgree_of_revise book stored (.transition called allowed) rfl ends
      (transition_allowed stored allowed called)
  next => exact absurd leaves not_false

end Requests

/-- Attempts agree with executions in every state of a run exactly when no
request of the run cancels an unclaimed batch or moves a batch into a terminal
status by `transition`. -/
theorem attempts_agree_iff (requests : List Request) :
    (∀ before rest, requests = before ++ rest → (after before).board.AttemptsAgree) ↔
      Machine.Along step (fun db request => ¬ LeavesAttempt db request) .empty requests := by
  constructor
  · intro agree
    refine Machine.along_of_prefixes step fun before request rest split leaves => ?_
    have book := attemptsOpen_after before
    refine not_attemptsAgree_step book leaves ?_
    have next := agree (before ++ [request]) rest (by simp [split])
    rwa [after_append] at next
  · rintro along before rest rfl
    have start : Database.empty.board.AttemptsOpen ∧ Database.empty.board.AttemptsAgree :=
      ⟨fun row stored => absurd stored (Table.not_mem_empty row),
        fun row stored => absurd stored (Table.not_mem_empty row)⟩
    exact (Machine.run_invariant_along step
      (show ∀ db request, ¬ LeavesAttempt db request →
        db.board.AttemptsOpen ∧ db.board.AttemptsAgree →
        (step db request).board.AttemptsOpen ∧ (step db request).board.AttemptsAgree from
        fun db request writes ⟨book, agree⟩ =>
          ⟨step_simulates.step_invariant (fun _ _ lawful => lawful.attemptsOpen) book,
            attemptsAgree_step book agree writes⟩)
      start (Machine.along_append step |>.mp along).1).2

/-- An operator cancels a batch that was only admitted. -/
def cancelledEarly : List Request :=
  [⟨0, .ledger (.createRun "airflow" "run-1" .snapshot .zero .zero "1" 0)⟩,
    ⟨1, .ledger (.submitBatch "tr_1" "airflow" "batch-1" ⟨"C4_ML_01", .mlPredictionTransform, []⟩
      .zero "a" 1)⟩,
    ⟨2, .queue (.requestCancel "be_a")⟩]

/-- Its execution is `CANCELLED`, its attempt still `ADMITTED`. -/
theorem cancelledEarly_disagrees : ¬ (after cancelledEarly).board.AttemptsAgree := by
  intro agree
  have left := agree
    ((admittedBatch "tr_1" "airflow" "batch-1" ⟨"C4_ML_01", .mlPredictionTransform, []⟩
      .zero "a" 1).cancelledByOperator 2) (List.mem_of_elem_eq_true (by decide)) (by decide)
  exact absurd left (by decide)

end PaymentsPlatform.TransformRuntime
