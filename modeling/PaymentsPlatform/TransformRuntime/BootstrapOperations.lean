import PaymentsPlatform.TransformRuntime.Operations

/-!
# What each operation does to protected bootstraps

One lemma for each operation on protected bootstraps.  Admission apart, such an
operation rewrites one row, or, for the expiry reconciler, each of the rows it
selected; runs, batches, attempts and events are left as they are.
-/

namespace PaymentsPlatform.TransformRuntime

open Relational PostgresDurableQueue

def Database.rewriteBootstrap (db : Database) (row : ProtectedBootstrapExecution) : Database :=
  { db with protectedBootstrapExecutions := db.protectedBootstrapExecutions.replace row }

section Ledger

variable {db next : Database}

theorem submitProtectedBootstrap_ok {backend : Backend} {runId caller key uuid : String}
    {operation : ProtectedBootstrapOperation} {accepted : Timestamp}
    {out : ProtectedBootstrapExecution}
    (submitted : submitProtectedBootstrap backend db runId caller key operation uuid accepted =
      .ok (out, next)) :
    next = db ∨
      out = admittedBootstrap runId caller key operation uuid accepted ∧
        (∃ run ∈ db.transformRuns, run.transformRunId = runId) ∧
        (∀ row ∈ db.protectedBootstrapExecutions,
          ¬ (row.callerIdentity = caller ∧ row.idempotencyKey = key)) ∧
        (∀ row ∈ db.protectedBootstrapExecutions, ¬ (row.transformRunId = runId ∧
          row.operationId = operation.operationId ∧ row.operationVersion = operation.version)) ∧
        db.board.Passed runId operation.prerequisiteBatch ∧
        (∀ row ∈ db.protectedBootstrapExecutions, row.bootstrapExecutionId ≠ "be_" ++ uuid) ∧
        next.board = db.board.admitBootstrap out := by
  unfold submitProtectedBootstrap at submitted
  split at submitted
  next absent => simp at submitted
  next run runFound =>
    split at submitted
    next prior priorFound =>
      split at submitted
      next differs => simp at submitted
      next same =>
        simp only [Except.ok.injEq, Prod.mk.injEq] at submitted
        exact .inl submitted.2.symm
    next freshKey =>
      split at submitted
      next taken => simp at submitted
      next free =>
        split at submitted
        next passed =>
          obtain ⟨rfl, protectedBootstrapExecutions, inserted, rfl⟩ :=
            Database.admitBootstrap_ok submitted
          have facts := Table.insert?_eq_some.mp inserted
          have freeKey := List.find?_eq_none.mp freshKey
          have freeOperation := List.any_eq_false.mp (Bool.eq_false_iff.mpr free)
          refine .inr ⟨rfl, ⟨run, (Table.lookup_eq_some.mp runFound)⟩,
            fun row stored => by simpa using freeKey row stored,
            fun row stored => by simpa using freeOperation row stored,
            succeeded_iff_passed.mp passed, facts.1, ?_⟩
          rw [board_event_of_ne_run _ _ _ _ _ (by simp)]
          simp only [Database.board, Board.admitBootstrap, Table.push_of_insert inserted]
        next incomplete => simp at submitted

end Ledger

section Queue

variable {db next : Database} {now : Timestamp} {eid worker token : String}

theorem updateBootstraps_eq_rewrite {condition : ProtectedBootstrapExecution → Bool}
    {assign : ProtectedBootstrapExecution → ProtectedBootstrapExecution}
    {keyKept : ∀ row, (assign row).bootstrapExecutionId = row.bootstrapExecutionId}
    {row : ProtectedBootstrapExecution} (stored : row ∈ db.protectedBootstrapExecutions)
    (met : condition row = true)
    (keyed : ∀ other, condition other = true →
      other.bootstrapExecutionId = row.bootstrapExecutionId) :
    db.updateBootstraps condition assign keyKept = db.rewriteBootstrap (assign row) := by
  simp only [Database.updateBootstraps, Database.rewriteBootstrap,
    Table.update_eq_replace stored met (fun other _ => keyed other)]

theorem queueProtectedBootstrap_ok {timestamp : Timestamp} {out : ProtectedBootstrapExecution}
    (queued : PostgresTransformLedger.queueProtectedBootstrap db eid timestamp =
      .ok (out, next)) :
    ∃ row ∈ db.protectedBootstrapExecutions, row.bootstrapExecutionId = eid ∧
      row.status = .admitted ∧ out = row.queuedAt timestamp ∧
      next = db.rewriteBootstrap (row.queuedAt timestamp) := by
  unfold PostgresTransformLedger.queueProtectedBootstrap at queued
  simp only at queued
  split at queued
  next absent => simp at queued
  next row found =>
    simp only [Except.ok.injEq, Prod.mk.injEq] at queued
    have stored : row ∈ db.protectedBootstrapExecutions := List.mem_of_find?_eq_some found
    have met := List.find?_some found
    obtain ⟨rfl, isAdmitted⟩ := of_decide_eq_true met
    refine ⟨row, stored, rfl, isAdmitted, queued.1.symm, ?_⟩
    rw [← queued.2, updateBootstraps_eq_rewrite stored ?met ?keyed]
    case met => exact met
    case keyed => exact fun _ held => (of_decide_eq_true held).1

theorem claimProtectedBootstrap_cases (db : Database) (now : Timestamp) (worker token : String)
    (leaseSeconds : Int) (locked : List String) :
    (claimProtectedBootstrap db now worker token leaseSeconds locked = (none, db) ∧
        ∀ row ∈ db.protectedBootstrapExecutions,
          row.status ∈ ProtectedBootstrapExecution.claimable → row.cancelRequested = false →
          row.bootstrapExecutionId ∈ locked) ∨
      ∃ row ∈ db.protectedBootstrapExecutions,
        row.status ∈ ProtectedBootstrapExecution.claimable ∧ row.cancelRequested = false ∧
        row.bootstrapExecutionId ∉ locked ∧
        claimProtectedBootstrap db now worker token leaseSeconds locked =
          (some (row.leasedTo (row.status = .reconcileQueued) worker token leaseSeconds now,
              decide (row.status = .reconcileQueued)),
            db.rewriteBootstrap (row.leasedTo (row.status = .reconcileQueued) worker token
              leaseSeconds now)) := by
  unfold claimProtectedBootstrap
  simp only
  split
  next empty =>
    refine .inl ⟨rfl, fun row stored isClaimable notCancelled => ?_⟩
    have skipped := List.filter_eq_nil_iff.mp (firstBy_eq_none empty) row stored
    simpa [isClaimable, notCancelled] using skipped
  next row chosen =>
    obtain ⟨stored, met⟩ := List.mem_filter.mp (firstBy_mem chosen)
    obtain ⟨isClaimable, notCancelled, unlocked⟩ := of_decide_eq_true met
    refine .inr ⟨row, stored, isClaimable, notCancelled, unlocked, ?_⟩
    split
    next absent =>
      have unmet := List.find?_eq_none.mp absent row stored
      simp [isClaimable] at unmet
    next other found =>
      have otherMet := List.find?_some found
      have otherKey := (of_decide_eq_true otherMet).1
      have same := Table.eq_of_key_eq (List.mem_of_find?_eq_some found) stored otherKey
      subst other
      rw [updateBootstraps_eq_rewrite stored ?met ?keyed]
      case met => exact otherMet
      case keyed => exact fun _ held => (of_decide_eq_true held).1

theorem heartbeatProtectedBootstrap_cases (db : Database) (now : Timestamp)
    (eid worker token : String) (leaseSeconds : Int) :
    heartbeatProtectedBootstrap db now eid worker token leaseSeconds = (false, db) ∨
      ∃ row ∈ db.protectedBootstrapExecutions, row.bootstrapExecutionId = eid ∧
        row.ownedBy worker token ∧ leaseLive row.leaseExpiresAt now ∧
        heartbeatProtectedBootstrap db now eid worker token leaseSeconds =
          (true, db.rewriteBootstrap (row.renewed leaseSeconds now)) := by
  unfold heartbeatProtectedBootstrap
  simp only
  by_cases live : db.protectedBootstrapExecutions.rows.any (fun stored =>
      decide (stored.bootstrapExecutionId = eid ∧ stored.ownedBy worker token ∧
        leaseLive stored.leaseExpiresAt now)) = true
  · obtain ⟨row, stored, met⟩ := List.any_eq_true.mp live
    obtain ⟨sameId, guarded⟩ := of_decide_eq_true met
    subst sameId
    refine .inr ⟨row, stored, rfl, guarded.1, guarded.2, ?_⟩
    rw [live, updateBootstraps_eq_rewrite stored ?met ?keyed]
    case met => exact met
    case keyed => exact fun _ held => (of_decide_eq_true held).1
  · left
    have unmet := List.any_eq_false.mp (Bool.eq_false_iff.mpr live)
    simp only [Database.updateBootstraps, Bool.eq_false_iff.mpr live]
    rw [Table.update_of_unmet (fun row stored => by simpa using unmet row stored)]

theorem requestCancelProtectedBootstrap_ok {out : ProtectedBootstrapExecution}
    (requested : requestCancelProtectedBootstrap db now eid = .ok (out, next)) :
    ∃ row ∈ db.protectedBootstrapExecutions, row.bootstrapExecutionId = eid ∧
      ((row.status ∈ Status.terminal ∧ next = db) ∨
        (row.status ∈ [Status.admitted, Status.queued] ∧
          next = db.rewriteBootstrap (row.cancelledByOperator now)) ∨
        (row.status ∉ Status.terminal ∧ row.status ∉ [Status.admitted, Status.queued] ∧
          next = db.rewriteBootstrap row.flagged)) := by
  unfold requestCancelProtectedBootstrap at requested
  split at requested
  next absent => simp at requested
  next row found =>
    obtain ⟨stored, rfl⟩ := Table.lookup_eq_some.mp found
    refine ⟨row, stored, rfl, ?_⟩
    split at requested
    next ended =>
      simp only [Except.ok.injEq, Prod.mk.injEq] at requested
      exact .inl ⟨ended, requested.2.symm⟩
    next isOpen =>
      split at requested
      next waiting =>
        simp only [Except.ok.injEq, Prod.mk.injEq] at requested
        refine .inr (.inl ⟨waiting, ?_⟩)
        rw [← requested.2, updateBootstraps_eq_rewrite stored ?met ?keyed]
        case met => simp
        case keyed => simp
      next underWay =>
        simp only [Except.ok.injEq, Prod.mk.injEq] at requested
        refine .inr (.inr ⟨isOpen, underWay, ?_⟩)
        rw [← requested.2, updateBootstraps_eq_rewrite stored ?met ?keyed]
        case met => simp
        case keyed => simp

theorem requestReconcileProtectedBootstrap_ok {out : ProtectedBootstrapExecution}
    (requested : requestReconcileProtectedBootstrap db now eid = .ok (out, next)) :
    ∃ row ∈ db.protectedBootstrapExecutions, row.bootstrapExecutionId = eid ∧
      row.status ∈ [Status.orphaned, Status.failed] ∧
      row.publicationState = .reconciliationRequired ∧
      next = db.rewriteBootstrap (row.requeued now) := by
  unfold requestReconcileProtectedBootstrap at requested
  split at requested
  next absent => simp at requested
  next row found =>
    obtain ⟨stored, rfl⟩ := Table.lookup_eq_some.mp found
    split at requested
    next settled => simp at requested
    next unsettled =>
      simp only [Except.ok.injEq, Prod.mk.injEq] at requested
      obtain ⟨ended, required⟩ := not_or.mp unsettled
      refine ⟨row, stored, rfl, not_not.mp ended, not_not.mp required, ?_⟩
      rw [← requested.2, updateBootstraps_eq_rewrite stored ?met ?keyed]
      case met => simp
      case keyed => simp

theorem finishProtectedBootstrap_ok {status : Status} {publicationState : PublicationState}
    {failureClass : Option String} {out : ProtectedBootstrapExecution}
    (finished : finishProtectedBootstrap db now eid worker token status publicationState
      failureClass = .ok (out, next)) :
    ∃ row ∈ db.protectedBootstrapExecutions, row.bootstrapExecutionId = eid ∧
      status ∈ Status.terminal ∧ row.ownedBy worker token ∧
      next = db.rewriteBootstrap (row.finished status publicationState failureClass now) := by
  unfold finishProtectedBootstrap at finished
  split at finished
  next notTerminal => simp at finished
  next ends =>
    split at finished
    next absent => simp at finished
    next row found =>
      obtain ⟨stored, rfl⟩ := Table.lookup_eq_some.mp found
      split at finished
      next lost => simp at finished
      next owned =>
        simp only at finished
        split at finished
        next stale => simp at finished
        next other otherFound =>
          simp only [Except.ok.injEq, Prod.mk.injEq] at finished
          refine ⟨row, stored, rfl, not_not.mp ends, not_not.mp owned, ?_⟩
          rw [← finished.2, updateBootstraps_eq_rewrite stored ?met ?keyed]
          case met => simpa using ⟨(not_not.mp owned).1, (not_not.mp owned).2.1⟩
          case keyed => exact fun _ held => (of_decide_eq_true held).1

theorem orphanExpiredBootstrap_eq {row : ProtectedBootstrapExecution}
    (stored : row ∈ db.protectedBootstrapExecutions) :
    orphanExpiredBootstrap now db row = db.rewriteBootstrap (row.orphanedExpired now) := by
  unfold orphanExpiredBootstrap
  rw [updateBootstraps_eq_rewrite stored ?met ?keyed]
  case met => simp
  case keyed => simp

end Queue

end PaymentsPlatform.TransformRuntime
