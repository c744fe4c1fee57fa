import Mathlib.Data.Finset.Card
import Mathlib.Data.Finset.Order
import PaymentsPlatform.TransformRuntime.BootstrapLeases

/-!
# Can every protected bootstrap still end?

An open bootstrap ends by `request_cancel` before its first claim, by expiry
while it runs, and, once it waits for reconciliation, by a claim and expiry.
`claim_protected_bootstrap` skips rows with `cancel_requested`, so a bootstrap
that an operator cancels while it is `RECONCILE_QUEUED` is left with no call that
would ever touch it again.
-/

namespace PaymentsPlatform.TransformRuntime

open Relational PostgresDurableQueue

/-- Claim, finish, cancel, reconcile request and expiry reconciliation, with no row locked by
another transaction. -/
def Call.advances : Call → Bool
  | .bootstrap (.claim _ _ _ locked) => locked.isEmpty
  | .bootstrap (.finish ..) => true
  | .bootstrap (.requestCancel _) => true
  | .bootstrap (.requestReconcile _) => true
  | .bootstrap (.reconcileExpired locked) => locked.isEmpty
  | _ => false

/-- From the time `since` on, such calls can make the bootstrap terminal. -/
def CanEnd (since : Timestamp) (db : Database) (eid : String) : Prop :=
  ∃ later : List Request, (∀ request ∈ later, request.call.advances = true) ∧
    ClockMonotone later ∧ (∀ request ∈ later, since ≤ request.now) ∧
    ∃ row ∈ (Machine.run step db later).protectedBootstrapExecutions,
      row.bootstrapExecutionId = eid ∧ row.status ∈ Status.terminal

/-- In every state of the run every open bootstrap can still be ended. -/
def BootstrapsCanEnd (requests : List Request) : Prop :=
  ∀ before rest, requests = before ++ rest →
    ∀ since, (∀ request ∈ before, request.now ≤ since) →
      ∀ row ∈ (after before).protectedBootstrapExecutions, row.status ∉ Status.terminal →
        CanEnd since (after before) row.bootstrapExecutionId

/-- The request does not cancel a bootstrap that waits for reconciliation. -/
def SparesReconcileQueued (db : Database) (request : Request) : Prop :=
  match request.call with
  | .bootstrap (.requestCancel eid) =>
      ∀ row ∈ db.protectedBootstrapExecutions.rows, row.bootstrapExecutionId = eid →
        row.status ≠ .reconcileQueued
  | _ => True

section CanEnd

variable {db : Database} {since : Timestamp} {row : ProtectedBootstrapExecution}

theorem CanEnd.of_terminal (row : ProtectedBootstrapExecution)
    (stored : row ∈ db.protectedBootstrapExecutions)
    (ended : row.status ∈ Status.terminal) : CanEnd since db row.bootstrapExecutionId :=
  ⟨[], by simp, List.Pairwise.nil, by simp, row, stored, rfl, ended⟩

theorem CanEnd.cons (request : Request) {eid : String}
    (advances : request.call.advances = true) (inOrder : since ≤ request.now)
    (canEnd : CanEnd request.now (step db request) eid) : CanEnd since db eid := by
  obtain ⟨later, advancing, monotone, afterRequest, ended⟩ := canEnd
  refine ⟨request :: later, ?_, List.pairwise_cons.mpr ⟨afterRequest, monotone⟩, ?_, ended⟩
  · exact List.forall_mem_cons.mpr ⟨advances, advancing⟩
  · exact List.forall_mem_cons.mpr ⟨inOrder, fun next listed =>
      le_trans inOrder (afterRequest next listed)⟩

theorem requestCancelProtectedBootstrap_of_stored
    (stored : row ∈ db.protectedBootstrapExecutions) (now : Timestamp) :
    ∃ answer, requestCancelProtectedBootstrap db now row.bootstrapExecutionId = .ok answer := by
  unfold requestCancelProtectedBootstrap
  rw [Table.lookup_key stored]
  dsimp only
  split
  · exact ⟨_, rfl⟩
  · split <;> exact ⟨_, rfl⟩

theorem step_requestCancel_bootstrap (stored : row ∈ db.protectedBootstrapExecutions)
    {request : Request}
    (called : request.call = .bootstrap (.requestCancel row.bootstrapExecutionId)) :
    (row.status ∈ Status.terminal ∧ step db request = db) ∨
      (row.status ∈ [Status.admitted, Status.queued] ∧
        step db request = db.rewriteBootstrap (row.cancelledByOperator request.now)) ∨
      (row.status ∉ Status.terminal ∧ row.status ∉ [Status.admitted, Status.queued] ∧
        step db request = db.rewriteBootstrap row.flagged) := by
  obtain ⟨⟨out, next⟩, requested⟩ :=
    requestCancelProtectedBootstrap_of_stored stored request.now
  obtain ⟨other, otherStored, sameId, outcome⟩ := requestCancelProtectedBootstrap_ok requested
  have same := Table.eq_of_key_eq otherStored stored sameId
  subst same
  have performed : perform db request = .ok (.bootstrap out, next) := by
    simp [perform, performBootstrap, called, requested, Except.map]
  rw [step_of_ok performed]
  exact outcome

theorem mem_rewriteBootstrap (stored : row ∈ db.protectedBootstrapExecutions)
    {revised : ProtectedBootstrapExecution}
    (sameId : revised.bootstrapExecutionId = row.bootstrapExecutionId) :
    revised ∈ (db.rewriteBootstrap revised).protectedBootstrapExecutions :=
  Table.mem_replace.mpr (.inr ⟨rfl, row, stored, sameId.symm⟩)

theorem canEnd_of_unclaimed (stored : row ∈ db.protectedBootstrapExecutions)
    (unclaimed : row.status ∈ [Status.admitted, Status.queued]) :
    CanEnd since db row.bootstrapExecutionId := by
  let request : Request := ⟨since, .bootstrap (.requestCancel row.bootstrapExecutionId)⟩
  have called : request.call = .bootstrap (.requestCancel row.bootstrapExecutionId) := rfl
  refine CanEnd.cons request rfl le_rfl ?_
  rcases step_requestCancel_bootstrap stored called with
    ⟨ended, -⟩ | ⟨-, cancelled⟩ | ⟨-, underWay, -⟩
  · cases isUnclaimed : row.status <;> simp_all [Status.terminal]
  · rw [cancelled]
    exact CanEnd.of_terminal (row.cancelledByOperator since) (mem_rewriteBootstrap stored rfl)
      (by simp [Status.terminal])
  · exact absurd unclaimed underWay

theorem canEnd_of_running (stored : row ∈ db.protectedBootstrapExecutions)
    (isRunning : row.status = .running) {expires : Timestamp}
    (lease : row.leaseExpiresAt = some expires) :
    CanEnd since db row.bootstrapExecutionId := by
  let request : Request := ⟨max since (expires + 1), .bootstrap (.reconcileExpired [])⟩
  have called : request.call = .bootstrap (.reconcileExpired []) := rfl
  have past : expires < request.now := lt_of_lt_of_le (Int.lt_succ expires) (le_max_right _ _)
  have selected : row ∈ expiredBootstraps db request.now [] :=
    mem_expiredBootstraps.mpr ⟨stored, isRunning, ⟨expires, lease, past⟩, List.not_mem_nil⟩
  have orphaned := step_bootstraps_of_expire db called row.bootstrapExecutionId
  rw [Table.lookup_key stored, Option.map_some, if_pos selected] at orphaned
  refine CanEnd.cons request rfl (le_max_left _ _) ?_
  exact CanEnd.of_terminal (row.orphanedExpired request.now)
    (Table.lookup_eq_some.mp orphaned).1 (by simp [Status.terminal])

end CanEnd

section Waiting

/-- The bootstraps that a claim may pick. -/
def waitingBootstraps (db : Database) : Finset String :=
  ((db.protectedBootstrapExecutions.rows.filter fun row =>
    row.status ∈ ProtectedBootstrapExecution.claimable ∧ row.cancelRequested = false).map
      ProtectedBootstrapExecution.bootstrapExecutionId).toFinset

theorem mem_waitingBootstraps {db : Database} {eid : String} :
    eid ∈ waitingBootstraps db ↔
      ∃ row ∈ db.protectedBootstrapExecutions, row.bootstrapExecutionId = eid ∧
        row.status ∈ ProtectedBootstrapExecution.claimable ∧ row.cancelRequested = false := by
  simp only [waitingBootstraps, List.mem_toFinset, List.mem_map, List.mem_filter,
    decide_eq_true_eq, Table.mem_rows]
  constructor
  · rintro ⟨row, ⟨stored, waiting⟩, sameId⟩
    exact ⟨row, stored, sameId, waiting⟩
  · rintro ⟨row, stored, sameId, waiting⟩
    exact ⟨row, ⟨stored, waiting⟩, sameId⟩

theorem waitingBootstraps_ssubset {db : Database} {row revised : ProtectedBootstrapExecution}
    (stored : row ∈ db.protectedBootstrapExecutions)
    (isClaimable : row.status ∈ ProtectedBootstrapExecution.claimable)
    (notCancelled : row.cancelRequested = false) (isRunning : revised.status = .running)
    (sameId : revised.bootstrapExecutionId = row.bootstrapExecutionId) :
    waitingBootstraps (db.rewriteBootstrap revised) ⊂ waitingBootstraps db := by
  have notClaimable : revised.status ∉ ProtectedBootstrapExecution.claimable := by
    simp [isRunning, ProtectedBootstrapExecution.claimable]
  refine (Finset.ssubset_iff_of_subset fun eid waiting => ?_).mpr
    ⟨row.bootstrapExecutionId, mem_waitingBootstraps.mpr
      ⟨row, stored, rfl, isClaimable, notCancelled⟩, fun waiting => ?_⟩
  · obtain ⟨other, otherStored, otherId, claimable⟩ := mem_waitingBootstraps.mp waiting
    rcases Table.mem_replace.mp otherStored with ⟨before, -⟩ | ⟨rfl, -⟩
    · exact mem_waitingBootstraps.mpr ⟨other, before, otherId, claimable⟩
    · exact absurd claimable.1 notClaimable
  · obtain ⟨other, otherStored, otherId, claimable⟩ := mem_waitingBootstraps.mp waiting
    have same := Table.eq_of_key_eq otherStored (mem_rewriteBootstrap stored sameId)
      (otherId.trans sameId.symm)
    exact notClaimable (same ▸ claimable.1)

theorem canEnd_of_waiting {db : Database} {since : Timestamp} {row : ProtectedBootstrapExecution}
    (stored : row ∈ db.protectedBootstrapExecutions)
    (isClaimable : row.status ∈ ProtectedBootstrapExecution.claimable)
    (notCancelled : row.cancelRequested = false) :
    CanEnd since db row.bootstrapExecutionId := by
  induction waiting : waitingBootstraps db using Finset.strongInduction generalizing db with
  | H waitingIds ih =>
    let request : Request := ⟨since, .bootstrap (.claim "worker" "token" 0 [])⟩
    refine CanEnd.cons request rfl le_rfl ?_
    rcases claimProtectedBootstrap_cases db since "worker" "token" 0 [] with
      ⟨-, skipped⟩ | ⟨claimed, claimedStored, claimedClaimable, claimedUncancelled, -, taken⟩
    · exact absurd (skipped row stored isClaimable notCancelled) List.not_mem_nil
    · let leased := claimed.leasedTo (claimed.status = .reconcileQueued) "worker" "token" 0 since
      have stepped : step db request = db.rewriteBootstrap leased := by
        simp [step, perform, performBootstrap, request, taken, leased]
      rw [stepped]
      by_cases same : claimed.bootstrapExecutionId = row.bootstrapExecutionId
      · have leasedStored : leased ∈ (db.rewriteBootstrap leased).protectedBootstrapExecutions :=
          mem_rewriteBootstrap claimedStored rfl
        have canEnd : CanEnd since (db.rewriteBootstrap leased) leased.bootstrapExecutionId :=
          canEnd_of_running leasedStored rfl rfl
        rw [← same]
        exact canEnd
      · refine ih _ ?_ (Table.mem_replace.mpr (.inl ⟨stored, ?_⟩)) rfl
        · rw [← waiting]
          exact waitingBootstraps_ssubset claimedStored claimedClaimable claimedUncancelled rfl rfl
        · exact fun sameId => same sameId.symm

end Waiting

section Rows

/-- Waits for reconciliation with the cancel flag set. -/
def ProtectedBootstrapExecution.Stuck (row : ProtectedBootstrapExecution) : Prop :=
  row.status = .reconcileQueued ∧ row.cancelRequested = true

theorem BootstrapRevises.stuck {request : Request} {row revised : ProtectedBootstrapExecution}
    (revises : BootstrapRevises request row revised) (stuck : row.Stuck) : revised.Stuck := by
  obtain ⟨waits, cancelled⟩ := stuck
  cases revises with
  | queue _ isAdmitted => simp [waits] at isAdmitted
  | claim _ _ notCancelled _ => simp [cancelled] at notCancelled
  | heartbeat _ owned _ | finish _ _ owned => exact absurd owned.2.2 (by simp [waits])
  | cancel _ unclaimed => simp [waits] at unclaimed
  | flag _ _ _ => exact ⟨waits, rfl⟩
  | requeue _ ended _ => simp [waits] at ended
  | expire _ isRunning _ _ => simp [waits] at isRunning

theorem stuck_run {db : Database} {row : ProtectedBootstrapExecution}
    (stored : row ∈ db.protectedBootstrapExecutions) (stuck : row.Stuck)
    (later : List Request) :
    ∃ next ∈ (Machine.run step db later).protectedBootstrapExecutions,
      next.bootstrapExecutionId = row.bootstrapExecutionId ∧ next.Stuck := by
  have kept : ∀ (db : Database) request,
      (∃ next ∈ db.protectedBootstrapExecutions,
        next.bootstrapExecutionId = row.bootstrapExecutionId ∧ next.Stuck) →
      ∃ next ∈ (step db request).protectedBootstrapExecutions,
        next.bootstrapExecutionId = row.bootstrapExecutionId ∧ next.Stuck := by
    rintro db request ⟨next, nextStored, sameId, nextStuck⟩
    rcases step_mem_bootstrap nextStored request with same | ⟨revised, revises, revisedStored⟩
    · exact ⟨next, same, sameId, nextStuck⟩
    · exact ⟨revised, revisedStored, revises.bootstrapExecutionId_eq.trans sameId,
        revises.stuck nextStuck⟩
  exact Machine.run_invariant step kept ⟨row, stored, rfl, stuck⟩ later

theorem not_canEnd_of_stuck {db : Database} {since : Timestamp}
    {row : ProtectedBootstrapExecution} (stored : row ∈ db.protectedBootstrapExecutions)
    (stuck : row.Stuck) : ¬ CanEnd since db row.bootstrapExecutionId := by
  rintro ⟨later, -, -, -, ended, endedStored, endedId, isTerminal⟩
  obtain ⟨next, nextStored, nextId, waits, -⟩ := stuck_run stored stuck later
  rw [Table.eq_of_key_eq endedStored nextStored (endedId.trans nextId.symm), waits] at isTerminal
  simp [Status.terminal] at isTerminal

/-- What is true of every bootstrap as long as none is cancelled while it waits for
reconciliation. -/
structure ProtectedBootstrapExecution.Movable (row : ProtectedBootstrapExecution) : Prop where
  known : row.status ∈ Status.terminal ∨ row.status ∈ [Status.admitted, Status.queued] ∨
    row.status = .running ∨ row.status = .reconcileQueued
  leased : row.status = .running → ∃ expires, row.leaseExpiresAt = some expires
  claimable : row.status = .reconcileQueued → row.cancelRequested = false

theorem ProtectedBootstrapExecution.Movable.of_still {row : ProtectedBootstrapExecution}
    (known : row.status ∈ Status.terminal ∨ row.status ∈ [Status.admitted, Status.queued]) :
    row.Movable where
  known := known.imp id .inl
  leased := fun isRunning => by simp [isRunning, Status.terminal] at known
  claimable := fun waits => by simp [waits, Status.terminal] at known

theorem BootstrapRevises.movable {db : Database} {request : Request}
    (spares : SparesReconcileQueued db request) {row revised : ProtectedBootstrapExecution}
    (stored : row ∈ db.protectedBootstrapExecutions)
    (revises : BootstrapRevises request row revised) (movable : row.Movable) :
    revised.Movable := by
  cases revises with
  | queue _ _ => exact .of_still (.inr (by simp [ProtectedBootstrapExecution.queuedAt]))
  | claim _ _ _ _ => exact ⟨by simp, fun _ => ⟨_, rfl⟩, fun waits => by simp at waits⟩
  | heartbeat _ _ _ => exact ⟨movable.known, fun _ => ⟨_, rfl⟩, movable.claimable⟩
  | cancel _ _ => exact .of_still (.inl (by simp [Status.terminal]))
  | flag called _ _ =>
      simp only [SparesReconcileQueued, called] at spares
      exact ⟨movable.known, movable.leased, fun waits => absurd waits (spares row stored rfl)⟩
  | requeue _ _ _ => exact ⟨by simp, fun isRunning => by simp at isRunning, fun _ => rfl⟩
  | finish _ ends _ => exact .of_still (.inl ends)
  | expire _ _ _ _ => exact .of_still (.inl (by simp [Status.terminal]))

theorem ProtectedBootstrapExecution.Movable.canEnd {db : Database} {since : Timestamp}
    {row : ProtectedBootstrapExecution} (movable : row.Movable)
    (stored : row ∈ db.protectedBootstrapExecutions) :
    CanEnd since db row.bootstrapExecutionId := by
  rcases movable.known with ended | unclaimed | isRunning | waits
  · exact CanEnd.of_terminal row stored ended
  · exact canEnd_of_unclaimed stored unclaimed
  · obtain ⟨expires, lease⟩ := movable.leased isRunning
    exact canEnd_of_running stored isRunning lease
  · exact canEnd_of_waiting stored (by simp [waits, ProtectedBootstrapExecution.claimable])
      (movable.claimable waits)

end Rows

/-- Open bootstraps can be ended exactly as long as none is cancelled while it waits for
reconciliation. -/
theorem bootstraps_can_end_iff (requests : List Request) :
    BootstrapsCanEnd requests ↔ Machine.Along step SparesReconcileQueued .empty requests := by
  constructor
  · intro canEnd
    refine Machine.along_of_prefixes step fun before request rest split => ?_
    unfold SparesReconcileQueued
    split
    next eid called =>
      rintro row stored rfl waits
      rcases step_requestCancel_bootstrap (Table.mem_rows.mp stored) called with
        ⟨ended, -⟩ | ⟨unclaimed, -⟩ | ⟨isOpen, -, flagged⟩
      · simp [waits, Status.terminal] at ended
      · simp [waits] at unclaimed
      · have reached : after (before ++ [request]) =
            (after before).rewriteBootstrap row.flagged := by
          rw [after_append]
          exact flagged
        have flaggedStored : row.flagged ∈
            (after (before ++ [request])).protectedBootstrapExecutions := by
          rw [reached]
          exact mem_rewriteBootstrap (Table.mem_rows.mp stored) rfl
        obtain ⟨since, bound⟩ :=
          Finset.exists_le ((before ++ [request]).map Request.now).toFinset
        refine not_canEnd_of_stuck flaggedStored ⟨waits, rfl⟩
          (canEnd (before ++ [request]) rest (by simpa using split) since ?_ _ flaggedStored isOpen)
        exact fun earlier listed => bound _ (List.mem_toFinset.mpr (List.mem_map_of_mem listed))
    next => trivial
  · rintro along before rest rfl since - row stored -
    have movable : row.Movable :=
      bootstraps_invariant (fun _ _ _ _ _ _ => .of_still (.inr (by simp [admittedBootstrap])))
        (fun _ _ spares _ stored _ revises movable => revises.movable spares stored movable)
        ((Machine.along_append step).mp along).1 row stored
    exact movable.canEnd stored

/-- An expired bootstrap is queued for reconciliation and then cancelled. -/
def cancelledWhileReconcileQueued : List Request :=
  bootstrapQueued ++
    [⟨7, .bootstrap (.claim "worker-1" "token-2" 30 [])⟩,
      ⟨seconds 31, .bootstrap (.reconcileExpired [])⟩,
      ⟨seconds 32, .bootstrap (.requestReconcile "be_b")⟩,
      ⟨seconds 33, .bootstrap (.requestCancel "be_b")⟩]

theorem cancelledWhileReconcileQueued_stuck :
    ClockMonotone cancelledWhileReconcileQueued ∧
      ¬ BootstrapsCanEnd cancelledWhileReconcileQueued := by
  refine ⟨by decide, fun canEnd => ?_⟩
  have stored : ∃ row ∈ (after cancelledWhileReconcileQueued).protectedBootstrapExecutions.rows,
      row.status = .reconcileQueued ∧ row.cancelRequested = true := by decide +kernel
  obtain ⟨row, stored, stuck⟩ := stored
  have isOpen : row.status ∉ Status.terminal := by simp [stuck.1, Status.terminal]
  exact not_canEnd_of_stuck (Table.mem_rows.mp stored) stuck
    (canEnd cancelledWhileReconcileQueued [] (by simp) (seconds 33) (by decide) row
      (Table.mem_rows.mp stored) isOpen)

end PaymentsPlatform.TransformRuntime
