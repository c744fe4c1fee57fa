import PaymentsPlatform.TransformRuntime.BootstrapOperations

/-!
# Every request is a list of lawful moves

`step_performs` is the refinement: a request moves the board by nothing, by
one lawful move, or, for the two expiry reconcilers, by one expiry for each row
they selected.
-/

namespace PaymentsPlatform.TransformRuntime

open Relational PostgresDurableQueue

/-- `reconcile_expired` or `reconcile_expired_protected_bootstraps`. -/
def Call.isReconcile : Call → Bool
  | .queue (.reconcileExpired _) => true
  | .bootstrap (.reconcileExpired _) => true
  | _ => false

/-- The move by which the bootstrap reconciler orphans one row. -/
def bootstrapExpiry (now : Timestamp) (row : ProtectedBootstrapExecution) : Move :=
  .reviseBootstrap (row.orphanedExpired now)

/-- The moves a request makes. -/
inductive Performs (db : Database) (request : Request) : List Move → Prop
  | idle : request.call.isReconcile = false → Performs db request []
  | single {move} : request.call.isReconcile = false → Lawful request db.board move →
      Performs db request [move]
  | expire {locked} : request.call = .queue (.reconcileExpired locked) →
      Performs db request ((expiredExecutions db request.now locked).map (expiry request.now))
  | expireBootstraps {locked} : request.call = .bootstrap (.reconcileExpired locked) →
      Performs db request
        ((expiredBootstraps db request.now locked).map (bootstrapExpiry request.now))

section Expiries

variable {now : Timestamp}

@[simp]
theorem apply_expiry_executions (board : Board) (row : BatchExecution) :
    (board.apply (expiry now row)).executions =
      board.executions.replace (row.orphanedWith leaseExpiredFailure now) :=
  board.revise_executions _

theorem foldl_orphanExpired_board {db : Database} {rows : List BatchExecution}
    (distinct : (rows.map BatchExecution.batchExecutionId).Nodup)
    (stored : ∀ row ∈ rows, row ∈ db.batchExecutions) :
    (rows.foldl (orphanExpired now) db).board =
      Machine.run Board.apply db.board (rows.map (expiry now)) := by
  induction rows generalizing db with
  | nil => rfl
  | cons row rest ih =>
      have applied : (orphanExpired now db row).board = db.board.apply (expiry now row) :=
        orphanExpired_board (stored row List.mem_cons_self)
      have restStored : ∀ other ∈ rest, other ∈ (orphanExpired now db row).batchExecutions := by
        intro other listed
        have sameTable : (orphanExpired now db row).batchExecutions =
            db.batchExecutions.replace (row.orphanedWith leaseExpiredFailure now) :=
          (congrArg Board.executions applied).trans (apply_expiry_executions db.board row)
        rw [sameTable]
        exact Table.mem_replace_of_distinct distinct rfl listed
          (stored other (List.mem_cons_of_mem _ listed))
      rw [List.foldl_cons, List.map_cons, Machine.run_cons, ← applied]
      exact ih distinct.of_cons restStored

theorem foldl_orphanExpiredBootstrap_board {db : Database}
    {rows : List ProtectedBootstrapExecution}
    (distinct : (rows.map ProtectedBootstrapExecution.bootstrapExecutionId).Nodup)
    (stored : ∀ row ∈ rows, row ∈ db.protectedBootstrapExecutions) :
    (rows.foldl (orphanExpiredBootstrap now) db).board =
      Machine.run Board.apply db.board (rows.map (bootstrapExpiry now)) := by
  induction rows generalizing db with
  | nil => rfl
  | cons row rest ih =>
      rw [List.foldl_cons, List.map_cons, Machine.run_cons,
        orphanExpiredBootstrap_eq (stored row List.mem_cons_self)]
      apply ih distinct.of_cons
      intro other listed
      exact Table.mem_replace_of_distinct distinct rfl listed
        (stored other (List.mem_cons_of_mem _ listed))

theorem expiredExecutions_distinct (db : Database) (now : Timestamp) (locked : List String) :
    ((expiredExecutions db now locked).map BatchExecution.batchExecutionId).Nodup :=
  db.batchExecutions.unique.sublist (List.filter_sublist.map _)

theorem expiredBootstraps_distinct (db : Database) (now : Timestamp) (locked : List String) :
    ((expiredBootstraps db now locked).map
      ProtectedBootstrapExecution.bootstrapExecutionId).Nodup :=
  db.protectedBootstrapExecutions.unique.sublist (List.filter_sublist.map _)

theorem mem_expiredExecutions {db : Database} {now : Timestamp} {locked : List String}
    {row : BatchExecution} :
    row ∈ expiredExecutions db now locked ↔
      row ∈ db.batchExecutions ∧ row.status ∈ Status.active ∧
        leaseExpired row.leaseExpiresAt now ∧ row.batchExecutionId ∉ locked := by
  simp [expiredExecutions, Table.mem_rows]

theorem mem_expiredBootstraps {db : Database} {now : Timestamp} {locked : List String}
    {row : ProtectedBootstrapExecution} :
    row ∈ expiredBootstraps db now locked ↔
      row ∈ db.protectedBootstrapExecutions ∧ row.status = .running ∧
        leaseExpired row.leaseExpiresAt now ∧ row.bootstrapExecutionId ∉ locked := by
  simp [expiredBootstraps, Table.mem_rows]

theorem run_expiries_executions (board : Board) (rows : List BatchExecution) :
    (Machine.run Board.apply board (rows.map (expiry now))).executions =
      (rows.map (BatchExecution.orphanedWith leaseExpiredFailure now)).foldl Table.replace
        board.executions := by
  induction rows generalizing board with
  | nil => rfl
  | cons row rest ih => simp [ih]

theorem run_bootstrapExpiries_bootstraps (board : Board)
    (rows : List ProtectedBootstrapExecution) :
    (Machine.run Board.apply board (rows.map (bootstrapExpiry now))).bootstraps =
      (rows.map (ProtectedBootstrapExecution.orphanedExpired now)).foldl Table.replace
        board.bootstraps := by
  induction rows generalizing board with
  | nil => rfl
  | cons row rest ih => exact ih _

theorem run_bootstrapExpiries_executions (board : Board)
    (rows : List ProtectedBootstrapExecution) :
    (Machine.run Board.apply board (rows.map (bootstrapExpiry now))).executions =
      board.executions := by
  induction rows generalizing board with
  | nil => rfl
  | cons row rest ih => exact ih _

theorem run_expiries_bootstraps (board : Board) (rows : List BatchExecution) :
    (Machine.run Board.apply board (rows.map (expiry now))).bootstraps = board.bootstraps := by
  induction rows generalizing board with
  | nil => rfl
  | cons row rest ih =>
      rw [List.map_cons, Machine.run_cons, ih]
      exact board.revise_bootstraps _

end Expiries

section Along

variable {db : Database} {request : Request} {locked : List String}

theorem expiries_along (called : request.call = .queue (.reconcileExpired locked))
    {rows : List BatchExecution} (board : Board)
    (distinct : (rows.map BatchExecution.batchExecutionId).Nodup)
    (selected : ∀ row ∈ rows, row ∈ board.executions ∧ row.status ∈ Status.active ∧
      leaseExpired row.leaseExpiresAt request.now ∧ row.batchExecutionId ∉ locked) :
    Machine.Along Board.apply (Lawful request) board (rows.map (expiry request.now)) := by
  induction rows generalizing board with
  | nil => trivial
  | cons row rest ih =>
      obtain ⟨stored, isActive, expired, unlocked⟩ := selected row List.mem_cons_self
      refine ⟨.revise stored (.expire called isActive expired unlocked), ?_⟩
      apply ih _ distinct.of_cons
      intro other listed
      obtain ⟨otherStored, guards⟩ := selected other (List.mem_cons_of_mem _ listed)
      refine ⟨?_, guards⟩
      rw [apply_expiry_executions]
      exact Table.mem_replace_of_distinct distinct rfl listed otherStored

theorem bootstrapExpiries_along (called : request.call = .bootstrap (.reconcileExpired locked))
    {rows : List ProtectedBootstrapExecution} (board : Board)
    (distinct : (rows.map ProtectedBootstrapExecution.bootstrapExecutionId).Nodup)
    (selected : ∀ row ∈ rows, row ∈ board.bootstraps ∧ row.status = .running ∧
      leaseExpired row.leaseExpiresAt request.now ∧ row.bootstrapExecutionId ∉ locked) :
    Machine.Along Board.apply (Lawful request) board
      (rows.map (bootstrapExpiry request.now)) := by
  induction rows generalizing board with
  | nil => trivial
  | cons row rest ih =>
      obtain ⟨stored, isRunning, expired, unlocked⟩ := selected row List.mem_cons_self
      refine ⟨.reviseBootstrap stored (.expire called isRunning expired unlocked), ?_⟩
      apply ih _ distinct.of_cons
      intro other listed
      obtain ⟨otherStored, guards⟩ := selected other (List.mem_cons_of_mem _ listed)
      exact ⟨Table.mem_replace_of_distinct distinct rfl listed otherStored, guards⟩

theorem Performs.along {moves : List Move} (performs : Performs db request moves) :
    Machine.Along Board.apply (Lawful request) db.board moves := by
  cases performs with
  | idle _ => trivial
  | single _ lawful => exact ⟨lawful, trivial⟩
  | expire called =>
      exact expiries_along called db.board (expiredExecutions_distinct db _ _)
        fun row listed => mem_expiredExecutions.mp listed
  | expireBootstraps called =>
      exact bootstrapExpiries_along called db.board (expiredBootstraps_distinct db _ _)
        fun row listed => mem_expiredBootstraps.mp listed

end Along

section Step

variable {db next : Database} {request : Request}

/-- Nothing, or one lawful move. -/
def MovesOnce (db : Database) (request : Request) (next : Database) : Prop :=
  next.board = db.board ∨
    ∃ move, Lawful request db.board move ∧ next.board = db.board.apply move

theorem MovesOnce.of_eq (same : next = db) : MovesOnce db request next :=
  .inl (congrArg Database.board same)

theorem MovesOnce.of_revises {row : BatchExecution} {revision : Revision}
    (stored : row ∈ db.batchExecutions) (revises : Revises request row revision)
    (same : next.board = db.board.revise revision) : MovesOnce db request next :=
  .inr ⟨.revise revision, .revise stored revises, same⟩

theorem MovesOnce.of_bootstrapRevises {row revised : ProtectedBootstrapExecution}
    (stored : row ∈ db.protectedBootstrapExecutions)
    (revises : BootstrapRevises request row revised)
    (same : next = db.rewriteBootstrap revised) : MovesOnce db request next :=
  .inr ⟨.reviseBootstrap revised, .reviseBootstrap stored revises, by rw [same]; rfl⟩

theorem ok_of_map_ok {First Second : Type} {result : Except Failure First}
    {change : First → Second} {answer : Second} (mapped : result.map change = .ok answer) :
    ∃ value, result = .ok value ∧ change value = answer := by
  cases result with
  | error failure => simp [Except.map] at mapped
  | ok value => exact ⟨value, rfl, by simpa [Except.map] using mapped⟩

theorem performLedger_movesOnce {call : LedgerCall} {reply : LedgerReply}
    (called : request.call = .ledger call)
    (performed : PostgresTransformLedger.perform db call = .ok (reply, next)) :
    MovesOnce db request next := by
  cases call <;> obtain ⟨⟨out, after⟩, succeeded, same⟩ := ok_of_map_ok performed <;>
    obtain ⟨-, rfl⟩ := Prod.mk.inj same
  case createRun =>
    rcases createRun_ok succeeded with unchanged | ⟨rfl, idle, fresh, admitted⟩
    · exact .of_eq unchanged
    · exact .inr ⟨_, .admitRun called idle fresh, admitted⟩
  case submitBatch =>
    rcases submitBatch_ok succeeded with
      unchanged | ⟨rfl, parent, freshKey, noneActive, passed, fresh, freshAttempt, admitted⟩
    · exact .of_eq unchanged
    · exact .inr ⟨_, .admitBatch called parent freshKey noneActive passed fresh freshAttempt,
        admitted⟩
  case submitProtectedBootstrap =>
    rcases submitProtectedBootstrap_ok succeeded with
      unchanged | ⟨rfl, parent, freshKey, freshOperation, passed, fresh, admitted⟩
    · exact .of_eq unchanged
    · exact .inr ⟨_, .admitBootstrap called parent freshKey freshOperation passed fresh,
        admitted⟩
  case queueProtectedBootstrap =>
    obtain ⟨row, stored, rfl, isAdmitted, -, rewritten⟩ := queueProtectedBootstrap_ok succeeded
    exact .of_bootstrapRevises stored (.queue called isAdmitted) rewritten
  case transition =>
    obtain ⟨row, stored, rfl, allowed, rfl, revised⟩ := transition_ok succeeded
    exact .of_revises stored (.transition called allowed) revised

theorem performQueue_movesOnce {call : QueueCall} {reply : Reply}
    (called : request.call = .queue call) (single : request.call.isReconcile = false)
    (performed : performQueue db request.now call = .ok (reply, next)) :
    MovesOnce db request next := by
  cases call with
  | claim worker token leaseSeconds locked =>
      simp only [performQueue, Except.ok.injEq, Prod.mk.injEq] at performed
      obtain ⟨-, rfl⟩ := performed
      rcases claim_cases db request.now worker token leaseSeconds locked with
        none | ⟨row, stored, isQueued, notCancelled, unlocked, -, revised⟩
      · exact .of_eq (by rw [none])
      · exact .of_revises stored (.claim called isQueued notCancelled unlocked) revised
  | recordNessieBranch eid worker token branch =>
      obtain ⟨⟨out, after⟩, succeeded, same⟩ := ok_of_map_ok performed
      obtain ⟨-, rfl⟩ := Prod.mk.inj same
      obtain ⟨row, stored, rfl, owned, live, revised⟩ := recordNessieBranch_ok succeeded
      exact .of_revises stored (.recordNessieBranch called owned live) revised
  | heartbeat eid worker token leaseSeconds =>
      simp only [performQueue, Except.ok.injEq, Prod.mk.injEq] at performed
      obtain ⟨-, rfl⟩ := performed
      rcases heartbeat_cases db request.now eid worker token leaseSeconds with
        lost | ⟨row, stored, rfl, owned, live, -, revised⟩
      · exact .of_eq (by rw [lost])
      · exact .of_revises stored (.heartbeat called owned live) revised
  | cancelRequested eid worker token =>
      obtain ⟨flag, succeeded, same⟩ := ok_of_map_ok performed
      exact .of_eq (Prod.mk.inj same).2.symm
  | requestCancel eid =>
      obtain ⟨⟨out, after⟩, succeeded, same⟩ := ok_of_map_ok performed
      obtain ⟨-, rfl⟩ := Prod.mk.inj same
      obtain ⟨row, stored, rfl, outcome⟩ := requestCancel_ok succeeded
      rcases outcome with ⟨-, unchanged⟩ | ⟨waiting, revised⟩ | ⟨isOpen, underWay, revised⟩
      · exact .of_eq unchanged
      · exact .of_revises stored (.cancel called waiting) revised
      · exact .of_revises stored (.flag called isOpen underWay) revised
  | finish eid worker token status testStatus failureClass =>
      obtain ⟨⟨out, after⟩, succeeded, same⟩ := ok_of_map_ok performed
      obtain ⟨-, rfl⟩ := Prod.mk.inj same
      obtain ⟨row, stored, rfl, ends, owned, live, revised⟩ := finish_ok succeeded
      exact .of_revises stored (.finish called ends owned live) revised
  | orphanIfOwned eid worker token failureClass =>
      simp only [performQueue, Except.ok.injEq, Prod.mk.injEq] at performed
      obtain ⟨-, rfl⟩ := performed
      rcases orphanIfOwned_cases db request.now eid worker token failureClass with
        lost | ⟨row, stored, rfl, owned, revised⟩
      · exact .of_eq (by rw [lost])
      · exact .of_revises stored (.orphan called owned) revised
  | rejectPrerequisiteIfOwned eid worker token failureClass =>
      simp only [performQueue, Except.ok.injEq, Prod.mk.injEq] at performed
      obtain ⟨-, rfl⟩ := performed
      rcases rejectPrerequisiteIfOwned_cases db request.now eid worker token failureClass with
        lost | ⟨row, stored, rfl, owned, revised⟩
      · exact .of_eq (by rw [lost])
      · exact .of_revises stored (.reject called owned) revised
  | reconcileExpired locked => simp [called, Call.isReconcile] at single

theorem performBootstrap_movesOnce {call : BootstrapCall} {reply : Reply}
    (called : request.call = .bootstrap call) (single : request.call.isReconcile = false)
    (performed : performBootstrap db request.now call = .ok (reply, next)) :
    MovesOnce db request next := by
  cases call with
  | claim worker token leaseSeconds locked =>
      simp only [performBootstrap, Except.ok.injEq, Prod.mk.injEq] at performed
      obtain ⟨-, rfl⟩ := performed
      rcases claimProtectedBootstrap_cases db request.now worker token leaseSeconds locked with
        ⟨none, -⟩ | ⟨row, stored, isClaimable, notCancelled, unlocked, claimed⟩
      · exact .of_eq (by rw [none])
      · exact .of_bootstrapRevises stored (.claim called isClaimable notCancelled unlocked)
          (by rw [claimed])
  | heartbeat eid worker token leaseSeconds =>
      simp only [performBootstrap, Except.ok.injEq, Prod.mk.injEq] at performed
      obtain ⟨-, rfl⟩ := performed
      rcases heartbeatProtectedBootstrap_cases db request.now eid worker token leaseSeconds with
        lost | ⟨row, stored, rfl, owned, live, renewed⟩
      · exact .of_eq (by rw [lost])
      · exact .of_bootstrapRevises stored (.heartbeat called owned live) (by rw [renewed])
  | cancelRequested eid worker token =>
      obtain ⟨flag, succeeded, same⟩ := ok_of_map_ok performed
      exact .of_eq (Prod.mk.inj same).2.symm
  | requestCancel eid =>
      obtain ⟨⟨out, after⟩, succeeded, same⟩ := ok_of_map_ok performed
      obtain ⟨-, rfl⟩ := Prod.mk.inj same
      obtain ⟨row, stored, rfl, outcome⟩ := requestCancelProtectedBootstrap_ok succeeded
      rcases outcome with ⟨-, unchanged⟩ | ⟨waiting, revised⟩ | ⟨isOpen, underWay, revised⟩
      · exact .of_eq unchanged
      · exact .of_bootstrapRevises stored (.cancel called waiting) revised
      · exact .of_bootstrapRevises stored (.flag called isOpen underWay) revised
  | requestReconcile eid =>
      obtain ⟨⟨out, after⟩, succeeded, same⟩ := ok_of_map_ok performed
      obtain ⟨-, rfl⟩ := Prod.mk.inj same
      obtain ⟨row, stored, rfl, ended, required, revised⟩ :=
        requestReconcileProtectedBootstrap_ok succeeded
      exact .of_bootstrapRevises stored (.requeue called ended required) revised
  | finish eid worker token status publicationState failureClass =>
      obtain ⟨⟨out, after⟩, succeeded, same⟩ := ok_of_map_ok performed
      obtain ⟨-, rfl⟩ := Prod.mk.inj same
      obtain ⟨row, stored, rfl, ends, owned, revised⟩ := finishProtectedBootstrap_ok succeeded
      exact .of_bootstrapRevises stored (.finish called ends owned) revised
  | reconcileExpired locked => simp [called, Call.isReconcile] at single

theorem step_movesOnce (db : Database) (single : request.call.isReconcile = false) :
    MovesOnce db request (step db request) := by
  cases performed : perform db request with
  | error failure => exact .of_eq (step_of_error performed)
  | ok answer =>
      obtain ⟨reply, next⟩ := answer
      rw [step_of_ok performed]
      unfold perform at performed
      split at performed
      next call called =>
        obtain ⟨⟨out, after⟩, succeeded, same⟩ := ok_of_map_ok performed
        obtain ⟨-, rfl⟩ := Prod.mk.inj same
        exact performLedger_movesOnce called succeeded
      next call called => exact performQueue_movesOnce called single performed
      next call called => exact performBootstrap_movesOnce called single performed

theorem step_performs (db : Database) (request : Request) :
    ∃ moves, Performs db request moves ∧
      (step db request).board = Machine.run Board.apply db.board moves := by
  by_cases reconciles : request.call.isReconcile = true
  · unfold Call.isReconcile at reconciles
    split at reconciles
    next locked called =>
      refine ⟨_, .expire called, ?_⟩
      simp only [step, perform, performQueue, called, reconcileExpired]
      exact foldl_orphanExpired_board (expiredExecutions_distinct db _ _)
        fun row listed => (mem_expiredExecutions.mp listed).1
    next locked called =>
      refine ⟨_, .expireBootstraps called, ?_⟩
      simp only [step, perform, performBootstrap, called, reconcileExpiredProtectedBootstraps]
      exact foldl_orphanExpiredBootstrap_board (expiredBootstraps_distinct db _ _)
        fun row listed => (mem_expiredBootstraps.mp listed).1
    next => simp at reconciles
  · have single := Bool.eq_false_iff.mpr reconciles
    rcases step_movesOnce db single with same | ⟨move, lawful, same⟩
    · exact ⟨[], .idle single, same⟩
    · exact ⟨[move], .single single lawful, same⟩

theorem step_simulates :
    Machine.Simulates step Board.apply Database.board fun request => Lawful request :=
  fun db request =>
    let ⟨moves, performs, same⟩ := step_performs db request
    ⟨moves, performs.along, same⟩

end Step

end PaymentsPlatform.TransformRuntime
