import PaymentsPlatform.TransformRuntime.Refinement

/-!
# One id through one request

What a request does to the execution, or to the bootstrap, stored under one
id: it keeps it, admits it, or rewrites it in one of the ways that `Revises`
and `BootstrapRevises` list.
-/

namespace PaymentsPlatform.TransformRuntime

open Relational PostgresDurableQueue

section Executions

inductive Evolves (request : Request) : Option BatchExecution → Option BatchExecution → Prop
  | kept {stored} : Evolves request stored stored
  | admitted {runId caller key batch fingerprint uuid accepted} :
      request.call = .ledger (.submitBatch runId caller key batch fingerprint uuid accepted) →
      Evolves request none (some (admittedBatch runId caller key batch fingerprint uuid accepted))
  | revised {row revision} : Revises request row revision →
      Evolves request (some row) (some revision.revised)

variable {request : Request} {board : Board}

theorem Lawful.evolves {move : Move} (lawful : Lawful request board move) (eid : String) :
    Evolves request (board.executions.lookup eid) ((board.apply move).executions.lookup eid) := by
  cases lawful with
  | admitBatch called _ _ _ _ fresh _ =>
      simp only [Board.apply, Board.admitBatch]
      rw [Table.lookup_push fresh]
      split
      next same =>
        rw [Table.lookup_eq_none.mpr fun row stored => same ▸ fresh row stored]
        exact .admitted called
      next other => exact .kept
  | revise stored revises =>
      simp only [Board.apply, Board.revise_executions, Table.lookup_replace]
      split
      next same =>
        rw [← same, revises.sameIdentity.batchExecutionId, Table.lookup_key stored]
        exact .revised revises
      next other => exact .kept
  | admitRun _ _ _ => exact .kept
  | admitBootstrap _ _ _ _ _ _ => exact .kept
  | reviseBootstrap _ _ => exact .kept

theorem Lawful.mem_apply {move : Move} (lawful : Lawful request board move)
    {row : BatchExecution} (stored : row ∈ (board.apply move).executions) :
    row ∈ board.executions ∨ move = .admitBatch row ∨
      ∃ old ∈ board.executions, ∃ revision, Revises request old revision ∧
        row = revision.revised := by
  cases lawful with
  | admitBatch _ _ _ _ _ fresh _ =>
      rcases (Table.mem_push fresh).mp stored with before | rfl
      · exact .inl before
      · exact .inr (.inl rfl)
  | revise oldStored revises =>
      rw [Board.apply, Board.revise_executions, Table.mem_replace] at stored
      rcases stored with ⟨before, -⟩ | ⟨rfl, -⟩
      · exact .inl before
      · exact .inr (.inr ⟨_, oldStored, _, revises, rfl⟩)
  | admitRun _ _ _ => exact .inl stored
  | admitBootstrap _ _ _ _ _ _ => exact .inl stored
  | reviseBootstrap _ _ => exact .inl stored

theorem Lawful.keeps_terminal {move : Move} (lawful : Lawful request board move)
    {row : BatchExecution} (stored : row ∈ board.executions)
    (ended : row.status ∈ Status.terminal) : row ∈ (board.apply move).executions := by
  have evolves := lawful.evolves row.batchExecutionId
  rw [Table.lookup_key stored] at evolves
  generalize found : (board.apply move).executions.lookup row.batchExecutionId = next at evolves
  cases evolves with
  | kept => exact (Table.lookup_eq_some.mp found).1
  | revised revises => exact absurd ended revises.selected_open

theorem step_executions_of_expire (db : Database) {locked : List String}
    (called : request.call = .queue (.reconcileExpired locked)) (eid : String) :
    (step db request).batchExecutions.lookup eid =
      (db.batchExecutions.lookup eid).map fun row =>
        if row ∈ expiredExecutions db request.now locked then
          row.orphanedWith leaseExpiredFailure request.now
        else row := by
  obtain ⟨moves, performs, same⟩ := step_performs db request
  cases performs with
  | idle single => simp [called, Call.isReconcile] at single
  | single single _ => simp [called, Call.isReconcile] at single
  | expireBootstraps other => simp [called] at other
  | expire again =>
      rw [called] at again
      injection again with again
      injection again with again
      subst again
      have tables : (step db request).batchExecutions = _ :=
        (congrArg Board.executions same).trans (run_expiries_executions _ _)
      rw [tables]
      exact Table.lookup_foldl_replace_map
        (BatchExecution.orphanedWith_batchExecutionId leaseExpiredFailure request.now)
        (expiredExecutions_distinct db request.now locked)
        (fun row listed => (mem_expiredExecutions.mp listed).1) eid

theorem step_evolves (db : Database) (request : Request) (eid : String) :
    Evolves request (db.batchExecutions.lookup eid)
      ((step db request).batchExecutions.lookup eid) := by
  obtain ⟨moves, performs, same⟩ := step_performs db request
  have tables : (step db request).batchExecutions =
      (Machine.run Board.apply db.board moves).executions := congrArg Board.executions same
  cases performs with
  | idle _ =>
      rw [tables]
      exact .kept
  | single _ lawful =>
      rw [tables]
      exact lawful.evolves eid
  | expireBootstraps called =>
      rw [tables, run_bootstrapExpiries_executions]
      exact .kept
  | expire called =>
      rw [step_executions_of_expire db called]
      cases found : db.batchExecutions.lookup eid with
      | none => exact .kept
      | some row =>
          rw [Option.map_some]
          split
          next selected =>
            obtain ⟨-, isActive, expired, unlocked⟩ := mem_expiredExecutions.mp selected
            exact .revised (.expire called isActive expired unlocked)
          next other => exact .kept

theorem step_mem {db : Database} {row : BatchExecution} (stored : row ∈ db.batchExecutions)
    (request : Request) :
    row ∈ (step db request).batchExecutions ∨
      ∃ revision, Revises request row revision ∧
        revision.revised ∈ (step db request).batchExecutions := by
  have evolves := step_evolves db request row.batchExecutionId
  rw [Table.lookup_key stored] at evolves
  generalize found : (step db request).batchExecutions.lookup row.batchExecutionId = next
    at evolves
  cases evolves with
  | kept => exact .inl (Table.lookup_eq_some.mp found).1
  | revised revises => exact .inr ⟨_, revises, (Table.lookup_eq_some.mp found).1⟩

theorem mem_step {db : Database} {request : Request} {row : BatchExecution}
    (stored : row ∈ (step db request).batchExecutions) :
    row ∈ db.batchExecutions ∨
      (Lawful request db.board (.admitBatch row) ∧
        (step db request).board = db.board.admitBatch row) ∨
      ∃ old ∈ db.batchExecutions, ∃ revision, Revises request old revision ∧
        row = revision.revised := by
  obtain ⟨moves, performs, same⟩ := step_performs db request
  have evolves := step_evolves db request row.batchExecutionId
  rw [Table.lookup_key stored] at evolves
  generalize found : db.batchExecutions.lookup row.batchExecutionId = old at evolves
  cases evolves with
  | kept => exact .inl (Table.lookup_eq_some.mp found).1
  | revised revises =>
      exact .inr (.inr ⟨_, (Table.lookup_eq_some.mp found).1, _, revises, rfl⟩)
  | admitted called =>
      have absent := Table.lookup_eq_none.mp found
      cases performs with
      | idle _ =>
          have executions : (step db request).batchExecutions = db.batchExecutions :=
            congrArg Board.executions same
          exact absurd rfl (absent _ (executions ▸ stored))
      | expire other | expireBootstraps other => simp [called] at other
      | single _ lawful =>
          have onBoard : _ ∈ (step db request).board.executions := stored
          rw [same] at onBoard
          rcases lawful.mem_apply onBoard with
            before | rfl | ⟨old, oldStored, revision, revises, isRevised⟩
          · exact .inl before
          · exact .inr (.inl ⟨lawful, same⟩)
          · exact .inr (.inr ⟨old, oldStored, revision, revises, isRevised⟩)

theorem rows_invariant {Good : BatchExecution → Prop}
    (admitted : ∀ runId caller key batch fingerprint uuid accepted,
      Good (admittedBatch runId caller key batch fingerprint uuid accepted))
    (revised : ∀ request row revision, Revises request row revision → Good row →
      Good revision.revised) (requests : List Request) :
    ∀ row ∈ (after requests).batchExecutions, Good row := by
  refine Machine.run_invariant step
    (show ∀ db request, (∀ row ∈ db.batchExecutions, Good row) →
      ∀ row ∈ (step db request).batchExecutions, Good row from ?_) ?_ requests
  · intro db request good row stored
    rcases mem_step stored with before | ⟨lawful, -⟩ | ⟨old, oldStored, revision, revises, rfl⟩
    · exact good row before
    · cases lawful with
      | admitBatch _ _ _ _ _ _ _ => exact admitted _ _ _ _ _ _ _
    · exact revised request old revision revises (good old oldStored)
  · intro row stored
    exact absurd stored (Table.not_mem_empty row)

theorem run_follows {Good : BatchExecution → Prop} {db : Database} {later : List Request}
    (kept : ∀ request ∈ later, ∀ row revision, Revises request row revision → Good row →
      Good revision.revised)
    {row : BatchExecution} (stored : row ∈ db.batchExecutions) (good : Good row) :
    ∃ next ∈ (Machine.run step db later).batchExecutions,
      next.batchExecutionId = row.batchExecutionId ∧ Good next := by
  have carried : ∀ db, ∀ request ∈ later,
      (∃ next ∈ db.batchExecutions, next.batchExecutionId = row.batchExecutionId ∧ Good next) →
      ∃ next ∈ (step db request).batchExecutions,
        next.batchExecutionId = row.batchExecutionId ∧ Good next := by
    rintro db request listed ⟨next, nextStored, sameId, nextGood⟩
    rcases step_mem nextStored request with same | ⟨revision, revises, revised⟩
    · exact ⟨next, same, sameId, nextGood⟩
    · exact ⟨revision.revised, revised, revises.sameIdentity.batchExecutionId.trans sameId,
        kept request listed next revision revises nextGood⟩
  exact Machine.run_invariant_of_mem step carried ⟨row, stored, rfl, good⟩

theorem run_keeps_terminal {db : Database} {row : BatchExecution}
    (stored : row ∈ db.batchExecutions) (ended : row.status ∈ Status.terminal)
    (later : List Request) : row ∈ (Machine.run step db later).batchExecutions := by
  have kept : ∀ (db : Database) request, row ∈ db.batchExecutions →
      row ∈ (step db request).batchExecutions := by
    intro db request stored
    rcases step_mem stored request with same | ⟨revision, revises, -⟩
    · exact same
    · exact absurd ended revises.selected_open
  exact Machine.run_invariant step kept stored later

end Executions

section Bootstraps

inductive BootstrapEvolves (request : Request) :
    Option ProtectedBootstrapExecution → Option ProtectedBootstrapExecution → Prop
  | kept {stored} : BootstrapEvolves request stored stored
  | admitted {runId caller key operation uuid accepted} :
      request.call = .ledger
        (.submitProtectedBootstrap runId caller key operation uuid accepted) →
      BootstrapEvolves request none
        (some (admittedBootstrap runId caller key operation uuid accepted))
  | revised {row revised} : BootstrapRevises request row revised →
      BootstrapEvolves request (some row) (some revised)

variable {request : Request} {board : Board}

theorem Lawful.bootstrapEvolves {move : Move} (lawful : Lawful request board move)
    (eid : String) :
    BootstrapEvolves request (board.bootstraps.lookup eid)
      ((board.apply move).bootstraps.lookup eid) := by
  cases lawful with
  | admitBootstrap called _ _ _ _ fresh =>
      simp only [Board.apply, Board.admitBootstrap]
      rw [Table.lookup_push fresh]
      split
      next same =>
        rw [Table.lookup_eq_none.mpr fun row stored => same ▸ fresh row stored]
        exact .admitted called
      next other => exact .kept
  | reviseBootstrap stored revises =>
      simp only [Board.apply, Board.reviseBootstrap, Table.lookup_replace]
      split
      next same =>
        rw [← same, revises.bootstrapExecutionId_eq, Table.lookup_key stored]
        exact .revised revises
      next other => exact .kept
  | admitRun _ _ _ => exact .kept
  | admitBatch _ _ _ _ _ _ _ => exact .kept
  | revise _ _ =>
      simp only [Board.apply, Board.revise_bootstraps]
      exact .kept

theorem step_bootstraps_of_expire (db : Database) {locked : List String}
    (called : request.call = .bootstrap (.reconcileExpired locked)) (eid : String) :
    (step db request).protectedBootstrapExecutions.lookup eid =
      (db.protectedBootstrapExecutions.lookup eid).map fun row =>
        if row ∈ expiredBootstraps db request.now locked then row.orphanedExpired request.now
        else row := by
  obtain ⟨moves, performs, same⟩ := step_performs db request
  cases performs with
  | idle single => simp [called, Call.isReconcile] at single
  | single single _ => simp [called, Call.isReconcile] at single
  | expire other => simp [called] at other
  | expireBootstraps again =>
      rw [called] at again
      injection again with again
      injection again with again
      subst again
      have tables : (step db request).protectedBootstrapExecutions = _ :=
        (congrArg Board.bootstraps same).trans (run_bootstrapExpiries_bootstraps _ _)
      rw [tables]
      exact Table.lookup_foldl_replace_map
        (ProtectedBootstrapExecution.orphanedExpired_bootstrapExecutionId request.now)
        (expiredBootstraps_distinct db request.now locked)
        (fun row listed => (mem_expiredBootstraps.mp listed).1) eid

theorem step_bootstrapEvolves (db : Database) (request : Request) (eid : String) :
    BootstrapEvolves request (db.protectedBootstrapExecutions.lookup eid)
      ((step db request).protectedBootstrapExecutions.lookup eid) := by
  obtain ⟨moves, performs, same⟩ := step_performs db request
  have tables : (step db request).protectedBootstrapExecutions =
      (Machine.run Board.apply db.board moves).bootstraps := congrArg Board.bootstraps same
  cases performs with
  | idle _ =>
      rw [tables]
      exact .kept
  | single _ lawful =>
      rw [tables]
      exact lawful.bootstrapEvolves eid
  | expire called =>
      rw [tables, run_expiries_bootstraps]
      exact .kept
  | expireBootstraps called =>
      rw [step_bootstraps_of_expire db called]
      cases found : db.protectedBootstrapExecutions.lookup eid with
      | none => exact .kept
      | some row =>
          rw [Option.map_some]
          split
          next selected =>
            obtain ⟨-, isRunning, expired, unlocked⟩ := mem_expiredBootstraps.mp selected
            exact .revised (.expire called isRunning expired unlocked)
          next other => exact .kept

theorem step_mem_bootstrap {db : Database} {row : ProtectedBootstrapExecution}
    (stored : row ∈ db.protectedBootstrapExecutions) (request : Request) :
    row ∈ (step db request).protectedBootstrapExecutions ∨
      ∃ revised, BootstrapRevises request row revised ∧
        revised ∈ (step db request).protectedBootstrapExecutions := by
  have evolves := step_bootstrapEvolves db request row.bootstrapExecutionId
  rw [Table.lookup_key stored] at evolves
  generalize found :
    (step db request).protectedBootstrapExecutions.lookup row.bootstrapExecutionId = next at evolves
  cases evolves with
  | kept => exact .inl (Table.lookup_eq_some.mp found).1
  | revised revises => exact .inr ⟨_, revises, (Table.lookup_eq_some.mp found).1⟩

theorem mem_step_bootstrap {db : Database} {request : Request}
    {row : ProtectedBootstrapExecution}
    (stored : row ∈ (step db request).protectedBootstrapExecutions) :
    row ∈ db.protectedBootstrapExecutions ∨
      (∃ runId caller key operation uuid accepted,
        row = admittedBootstrap runId caller key operation uuid accepted) ∨
      ∃ old ∈ db.protectedBootstrapExecutions, BootstrapRevises request old row := by
  have evolves := step_bootstrapEvolves db request row.bootstrapExecutionId
  rw [Table.lookup_key stored] at evolves
  generalize found :
    db.protectedBootstrapExecutions.lookup row.bootstrapExecutionId = old at evolves
  cases evolves with
  | kept => exact .inl (Table.lookup_eq_some.mp found).1
  | admitted _ => exact .inr (.inl ⟨_, _, _, _, _, _, rfl⟩)
  | revised revises => exact .inr (.inr ⟨_, (Table.lookup_eq_some.mp found).1, revises⟩)

theorem bootstraps_invariant {Good : ProtectedBootstrapExecution → Prop}
    {permitted : Database → Request → Prop}
    (admitted : ∀ runId caller key operation uuid accepted,
      Good (admittedBootstrap runId caller key operation uuid accepted))
    (revised : ∀ db request, permitted db request → ∀ row ∈ db.protectedBootstrapExecutions,
      ∀ next, BootstrapRevises request row next → Good row → Good next)
    {requests : List Request} (along : Machine.Along step permitted .empty requests) :
    ∀ row ∈ (after requests).protectedBootstrapExecutions, Good row := by
  refine Machine.run_invariant_along step
    (show ∀ db request, permitted db request →
      (∀ row ∈ db.protectedBootstrapExecutions, Good row) →
      ∀ row ∈ (step db request).protectedBootstrapExecutions, Good row from ?_) ?_ along
  · intro db request allowed good row stored
    rcases mem_step_bootstrap stored with
      before | ⟨_, _, _, _, _, _, rfl⟩ | ⟨old, oldStored, revises⟩
    · exact good row before
    · exact admitted _ _ _ _ _ _
    · exact revised db request allowed old oldStored row revises (good old oldStored)
  · intro row stored
    exact absurd stored (Table.not_mem_empty row)

end Bootstraps

end PaymentsPlatform.TransformRuntime
