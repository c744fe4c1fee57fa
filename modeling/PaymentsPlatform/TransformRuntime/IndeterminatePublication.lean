import PaymentsPlatform.TransformRuntime.BootstrapProgress
import PaymentsPlatform.TransformRuntime.BootstrapWorker
import PaymentsPlatform.TransformRuntime.TokenLinkProgress

/-!
# Publications whose end is not known

A worker knows its child by the exit code alone, and takes every other code than 0 for a clean
failure: the row becomes `FAILED` with `NOT_STARTED`, also after the `RENAME` has been sent, and
no one may reconcile it.  The same goes for a child that an operator has cancelled and for a
reconciliation whose command is refused.
-/

namespace PaymentsPlatform.TransformRuntime.BootstrapWorker

open Relational PostgresDurableQueue
open RelyGuarantee (Event Reaches)

variable {Turn : Type}

/-- Whenever the row of an execution whose child has come to its `RENAME` has ended otherwise
than published, it can be reconciled. -/
def Reconcilable (world : World Turn) : Prop :=
  ∀ eid ∈ world.renamed, ∀ row ∈ world.db.protectedBootstrapExecutions,
    row.bootstrapExecutionId = eid → row.status ∈ Status.terminal →
    ¬ (row.status = .succeeded ∧ row.publicationState = .published) →
    row.publicationState = .reconciliationRequired ∧
      ∀ now, ∃ answer, requestReconcileProtectedBootstrap world.db now eid = .ok answer

/-- The statuses that no bootstrap leaves but by `ORPHANED`. -/
def abandoned : List Status := [.failed, .cancelled]

/-- The reports that a turn takes for a publication that has not started: a refused command, an
exit code other than 0 and the cancellation by an operator. -/
def Report.unfinished : Report → Bool
  | .rejected _ => true
  | .raised => false
  | .ended true _ => false
  | .ended false (.exited returnCode) => returnCode ≠ 0
  | .ended false .cancelled => true
  | .ended false .timedOut => false

/-- No turn that still owns its row makes such a report once a child of the execution has come to
its `RENAME`, and no child comes to its `RENAME` once its row is `FAILED` or `CANCELLED`. -/
def KeepsReconcilable (world : World Turn) : Action Turn → Prop
  | .settle turn _ => ∀ held report, world.phase turn = .settling held report →
      report.unfinished → held.eid ∈ world.renamed →
      ∀ row ∈ world.db.protectedBootstrapExecutions, row.bootstrapExecutionId = held.eid →
        ¬ row.ownedBy held.worker held.token
  | .child turn _ => ∀ eid statement next,
      world.child turn = some ⟨eid, some (.execute statement next)⟩ → isRename statement →
      ∀ row ∈ world.db.protectedBootstrapExecutions, row.bootstrapExecutionId = eid →
        row.status ∉ abandoned
  | _ => True

/-! ## Rows -/

/-- The publication state that goes with each status at which a bootstrap ends. -/
structure Consistent (status : Status) (publicationState : PublicationState) : Prop where
  abandoned : status ∈ abandoned → publicationState = .notStarted
  succeeded : status = .succeeded → publicationState = .published
  orphaned : status = .orphaned → publicationState = .reconciliationRequired

theorem Consistent.of_open {status : Status} {publicationState : PublicationState}
    (isOpen : status ∉ Status.terminal) : Consistent status publicationState := by
  constructor <;> cases status <;> simp_all [Status.terminal, BootstrapWorker.abandoned]

theorem Report.conclusion_cases (report : Report) :
    (report.unfinished = true ∧ report.conclusion.status ∈ abandoned ∧
        report.conclusion.publicationState = .notStarted) ∨
      (report.unfinished = false ∧ report.conclusion.status = .succeeded ∧
        report.conclusion.publicationState = .published) ∨
      (report.unfinished = false ∧ report.conclusion.status = .orphaned ∧
        report.conclusion.publicationState = .reconciliationRequired) := by
  cases report with
  | rejected message => exact .inl ⟨rfl, by simp [conclusion, BootstrapWorker.abandoned], rfl⟩
  | raised => exact .inr (.inr ⟨rfl, rfl, rfl⟩)
  | ended leaseLost outcome =>
      cases leaseLost with
      | true => exact .inr (.inr ⟨rfl, rfl, rfl⟩)
      | false =>
          cases outcome with
          | exited returnCode =>
              by_cases zero : returnCode = 0 <;>
                simp [conclusion, unfinished, Outcome.result, ChildExit.result, zero,
                  BootstrapWorker.abandoned]
          | cancelled =>
              exact .inl ⟨rfl, by simp [conclusion, Outcome.result, BootstrapWorker.abandoned], rfl⟩
          | timedOut => exact .inr (.inr ⟨rfl, rfl, rfl⟩)

theorem Report.consistent (report : Report) :
    Consistent report.conclusion.status report.conclusion.publicationState := by
  rcases report.conclusion_cases with ⟨-, isAbandoned, state⟩ | ⟨-, status, state⟩ |
    ⟨-, status, state⟩
  · rw [state]
    constructor
    · exact fun _ => rfl
    all_goals
      intro status
      simp [status, BootstrapWorker.abandoned] at isAbandoned
  all_goals
    rw [status, state]
    constructor <;> simp [BootstrapWorker.abandoned]

theorem Report.abandoned_iff (report : Report) :
    report.conclusion.status ∈ BootstrapWorker.abandoned ↔ report.unfinished = true := by
  rcases report.conclusion_cases with ⟨unfinished, isAbandoned, -⟩ | ⟨unfinished, status, -⟩ |
    ⟨unfinished, status, -⟩
  · exact iff_of_true isAbandoned unfinished
  all_goals simp [unfinished, status, BootstrapWorker.abandoned]

theorem Report.terminal (report : Report) : report.conclusion.status ∈ Status.terminal := by
  rcases report.conclusion_cases with ⟨-, isAbandoned, -⟩ | ⟨-, status, -⟩ | ⟨-, status, -⟩
  · simp only [BootstrapWorker.abandoned, List.mem_cons, List.not_mem_nil, or_false] at isAbandoned
    rcases isAbandoned with status | status <;> simp [status, Status.terminal]
  all_goals simp [status, Status.terminal]

/-- The row of the execution is past its first claim. -/
def Claimed (db : Database) (eid : String) : Prop :=
  ∃ row ∈ db.protectedBootstrapExecutions, row.bootstrapExecutionId = eid ∧
    row.status ∉ [Status.admitted, Status.queued]

/-- The row of the execution is neither `FAILED` nor `CANCELLED`. -/
def NotAbandoned (db : Database) (eid : String) : Prop :=
  ∀ row ∈ db.protectedBootstrapExecutions, row.bootstrapExecutionId = eid →
    row.status ∉ abandoned

def AllConsistent (db : Database) : Prop :=
  ∀ row ∈ db.protectedBootstrapExecutions, Consistent row.status row.publicationState

/-- A `finish` writes a publication state that goes with its status. -/
def FinishesConsistently (request : Request) : Prop :=
  ∀ eid worker token status publicationState failureClass,
    request.call = .bootstrap (.finish eid worker token status publicationState failureClass) →
    Consistent status publicationState

/-- A `finish` that abandons the execution comes from someone who has lost its row. -/
def FinishesOthers (db : Database) (request : Request) (eid : String) : Prop :=
  ∀ worker token status publicationState failureClass,
    request.call = .bootstrap (.finish eid worker token status publicationState failureClass) →
    status ∈ abandoned →
    ∀ row ∈ db.protectedBootstrapExecutions, row.bootstrapExecutionId = eid →
      ¬ row.ownedBy worker token

section Database

variable {db : Database} {request : Request} {eid : String}

theorem BootstrapRevises.claimed {row revised : ProtectedBootstrapExecution}
    (revises : BootstrapRevises request row revised)
    (claimed : row.status ∉ [Status.admitted, Status.queued]) :
    revised.status ∉ [Status.admitted, Status.queued] := by
  cases revises with
  | queue _ isAdmitted => simp [isAdmitted] at claimed
  | claim _ _ _ _ => simp
  | heartbeat _ _ _ | flag _ _ _ => exact claimed
  | cancel _ unclaimed => exact absurd unclaimed claimed
  | requeue _ _ _ | expire _ _ _ _ => simp
  | finish _ ends _ =>
      intro unclaimed
      simp only [ProtectedBootstrapExecution.finished_status] at unclaimed
      simp only [List.mem_cons, List.not_mem_nil, or_false] at unclaimed
      rcases unclaimed with rfl | rfl <;> simp [Status.terminal] at ends

theorem Claimed.step (claimed : Claimed db eid) (request : Request) :
    Claimed (step db request) eid := by
  obtain ⟨row, stored, sameId, past⟩ := claimed
  rcases step_mem_bootstrap stored request with same | ⟨revised, revises, revisedStored⟩
  · exact ⟨row, same, sameId, past⟩
  · exact ⟨revised, revisedStored, revises.bootstrapExecutionId_eq.trans sameId,
      BootstrapRevises.claimed revises past⟩

theorem AllConsistent.step (consistent : AllConsistent db)
    (finishes : FinishesConsistently request) : AllConsistent (step db request) := by
  intro row stored
  rcases mem_step_bootstrap stored with
    before | ⟨_, _, _, _, _, _, rfl⟩ | ⟨old, oldStored, revises⟩
  · exact consistent row before
  · exact .of_open (by simp [admittedBootstrap, Status.terminal])
  · have was := consistent old oldStored
    cases revises with
    | queue _ _ => exact .of_open (by simp [ProtectedBootstrapExecution.queuedAt, Status.terminal])
    | claim _ _ _ _ | requeue _ _ _ => exact .of_open (by simp [Status.terminal])
    | heartbeat _ _ _ => exact was
    | cancel _ _ => exact ⟨fun _ => rfl, fun same => by simp at same, fun same => by simp at same⟩
    | flag _ isOpen _ => exact .of_open isOpen
    | finish called _ _ => exact finishes _ _ _ _ _ _ called
    | expire _ _ _ _ =>
        exact ⟨fun same => by simp [abandoned] at same, fun same => by simp at same, fun _ => rfl⟩

theorem NotAbandoned.step (kept : NotAbandoned db eid) (claimed : Claimed db eid)
    (finishes : FinishesOthers db request eid) : NotAbandoned (step db request) eid := by
  intro row stored sameId
  rcases mem_step_bootstrap stored with
    before | ⟨_, _, _, _, _, _, rfl⟩ | ⟨old, oldStored, revises⟩
  · exact kept row before sameId
  · simp [admittedBootstrap, abandoned]
  · have oldId := revises.bootstrapExecutionId_eq.symm.trans sameId
    have was := kept old oldStored oldId
    cases revises with
    | queue _ _ => simp [ProtectedBootstrapExecution.queuedAt, abandoned]
    | claim _ _ _ _ | requeue _ _ _ | expire _ _ _ _ => simp [abandoned]
    | heartbeat _ _ _ | flag _ _ _ => exact was
    | cancel _ unclaimed =>
        obtain ⟨other, otherStored, otherId, past⟩ := claimed
        rw [Table.eq_of_key_eq otherStored oldStored (otherId.trans oldId.symm)] at past
        exact absurd unclaimed past
    | finish called _ owned =>
        intro isAbandoned
        subst oldId
        exact finishes _ _ _ _ _ called isAbandoned old oldStored rfl owned

theorem step_finish_of_owned {held : Held} (now : Timestamp) (report : Report)
    {row : ProtectedBootstrapExecution} (stored : row ∈ db.protectedBootstrapExecutions)
    (sameId : row.bootstrapExecutionId = held.eid) (owned : row.ownedBy held.worker held.token) :
    ∃ revised ∈ (step db (held.finish now report.conclusion)).protectedBootstrapExecutions,
      revised.bootstrapExecutionId = held.eid ∧ revised.status = report.conclusion.status ∧
        revised.publicationState = report.conclusion.publicationState := by
  have called : (held.finish now report.conclusion).call = .bootstrap (.finish held.eid held.worker
      held.token report.conclusion.status report.conclusion.publicationState
      report.conclusion.failureClass) := rfl
  have succeeds := bootstrapSucceeds_of_owned called report.terminal stored sameId owned
  cases finished : finishProtectedBootstrap db now held.eid held.worker held.token
      report.conclusion.status report.conclusion.publicationState
      report.conclusion.failureClass with
  | error failure =>
      simp [bootstrapSucceeds, perform, performBootstrap, Held.finish, finished, Except.map]
        at succeeds
  | ok answer =>
      obtain ⟨out, next⟩ := answer
      obtain ⟨other, otherStored, otherId, -, -, rfl⟩ := finishProtectedBootstrap_ok finished
      have performed : perform db (held.finish now report.conclusion) =
          .ok (.bootstrap out, db.rewriteBootstrap (other.finished report.conclusion.status
            report.conclusion.publicationState report.conclusion.failureClass now)) := by
        simp [perform, performBootstrap, Held.finish, finished, Except.map]
      rw [step_of_ok performed]
      exact ⟨_, mem_rewriteBootstrap otherStored rfl, otherId, rfl, rfl⟩

end Database

/-! ## Worlds -/

/-- The row that a turn at this phase has claimed. -/
def Phase.held : Phase → Option Held
  | .idle | .over => none
  | .building held | .starting held _ | .watching held | .stopping held _ _ | .settling held _ =>
      some held

/-- Rows are consistent, and what turns, children and past renames name has been claimed. -/
structure Sane (world : World Turn) : Prop where
  consistent : AllConsistent world.db
  held : ∀ turn held, (world.phase turn).held = some held → Claimed world.db held.eid
  child : ∀ turn child, world.child turn = some child → Claimed world.db child.eid
  renamed : ∀ eid ∈ world.renamed, Claimed world.db eid

/-- No execution whose child has come to its `RENAME` is abandoned. -/
def NoneAbandoned (world : World Turn) : Prop :=
  ∀ eid ∈ world.renamed, NotAbandoned world.db eid

theorem sane_initial (store : TokenLink.Store) : Sane (World.initial store : World Turn) where
  consistent := fun row stored => absurd stored (Table.not_mem_empty row)
  held := fun turn held holds => by cases holds
  child := fun turn child started => by cases started
  renamed := fun eid listed => absurd listed List.not_mem_nil

theorem requestReconcile_of_orphaned {db : Database} {row : ProtectedBootstrapExecution}
    (stored : row ∈ db.protectedBootstrapExecutions) (status : row.status = .orphaned)
    (state : row.publicationState = .reconciliationRequired) (now : Timestamp) :
    ∃ answer, requestReconcileProtectedBootstrap db now row.bootstrapExecutionId =
      .ok answer := by
  unfold requestReconcileProtectedBootstrap
  rw [Table.lookup_key stored]
  simp [status, state]

theorem Sane.reconcilable_iff {world : World Turn} (sane : Sane world) :
    Reconcilable world ↔ NoneAbandoned world := by
  constructor
  · intro reconcilable eid listed row stored sameId isAbandoned
    have consistent := sane.consistent row stored
    have notStarted := consistent.abandoned isAbandoned
    have ended : row.status ∈ Status.terminal := by
      simp only [abandoned, List.mem_cons, List.not_mem_nil, or_false] at isAbandoned
      rcases isAbandoned with status | status <;> simp [status, Status.terminal]
    have required := (reconcilable eid listed row stored sameId ended
      (by simp [notStarted])).1
    rw [notStarted] at required
    cases required
  · intro kept eid listed row stored sameId ended unpublished
    have consistent := sane.consistent row stored
    have notAbandoned := kept eid listed row stored sameId
    have status : row.status = .orphaned := by
      simp only [Status.terminal, List.mem_cons, List.not_mem_nil, or_false] at ended
      rcases ended with succeeded | failed | cancelled | orphaned
      · exact absurd ⟨succeeded, consistent.succeeded succeeded⟩ unpublished
      · exact absurd (by simp [failed, abandoned]) notAbandoned
      · exact absurd (by simp [cancelled, abandoned]) notAbandoned
      · exact orphaned
    have state := consistent.orphaned status
    subst sameId
    exact ⟨state, requestReconcile_of_orphaned stored status state⟩

section Calls

variable {world : World Turn} {request : Request}

theorem Sane.after (sane : Sane world) (finishes : FinishesConsistently request) :
    Sane (world.after request) where
  consistent := sane.consistent.step finishes
  held := fun turn held holds => (sane.held turn held holds).step request
  child := fun turn child started => (sane.child turn child started).step request
  renamed := fun eid listed => (sane.renamed eid listed).step request

theorem Sane.keep (sane : Sane world) (kept : NoneAbandoned world)
    (finishes : ∀ eid ∈ world.renamed, FinishesOthers world.db request eid) :
    NoneAbandoned (world.after request) :=
  fun eid listed => (kept eid listed).step (sane.renamed eid listed) (finishes eid listed)

theorem finishesConsistently_of_not_finish
    (other : ∀ eid worker token status publicationState failureClass, request.call ≠
      .bootstrap (.finish eid worker token status publicationState failureClass)) :
    FinishesConsistently request :=
  fun eid worker token status publicationState failureClass called =>
    absurd called (other eid worker token status publicationState failureClass)

theorem Sane.keep_of_not_finish (sane : Sane world) (kept : NoneAbandoned world)
    (other : ∀ eid worker token status publicationState failureClass, request.call ≠
      .bootstrap (.finish eid worker token status publicationState failureClass)) :
    NoneAbandoned (world.after request) := by
  apply sane.keep kept
  intro eid listed worker token status publicationState failureClass called
  exact absurd called (other eid worker token status publicationState failureClass)

theorem OutsideRequest.not_finish (issued : OutsideRequest) (eid worker token : String)
    (status : Status) (publicationState : PublicationState) (failureClass : Option String) :
    issued.request.call ≠
      .bootstrap (.finish eid worker token status publicationState failureClass) := by
  intro called
  have outside := issued.outside
  rw [called] at outside
  cases outside

theorem Sane.noneAbandoned_settle (sane : Sane world) (kept : NoneAbandoned world) {turn : Turn}
    {held : Held} {report : Report} (phase : world.phase turn = .settling held report)
    (now : Timestamp) :
    NoneAbandoned (world.after (held.finish now report.conclusion)) ↔
      KeepsReconcilable world (.settle turn now) := by
  constructor
  · intro kept other otherReport otherPhase unfinished listed row stored sameId owned
    cases phase.symm.trans otherPhase
    obtain ⟨revised, revisedStored, revisedId, status, -⟩ :=
      step_finish_of_owned now report stored sameId owned
    apply kept held.eid listed revised revisedStored revisedId
    rw [status]
    exact report.abandoned_iff.mpr unfinished
  · intro permitted
    apply sane.keep kept
    intro eid listed worker token status publicationState failureClass called isAbandoned
    cases called
    exact permitted held report phase (report.abandoned_iff.mp isAbandoned) listed

end Calls

section Steps

variable [DecidableEq Turn] {world : World Turn}

theorem Sane.setPhase (sane : Sane world) (turn : Turn) {phase : Phase}
    (claimed : ∀ held, phase.held = some held → Claimed world.db held.eid) :
    Sane (world.setPhase turn phase) where
  consistent := sane.consistent
  held := by
    intro other held holds
    by_cases same : other = turn
    · subst same
      simp only [World.setPhase, Function.update_self] at holds
      exact claimed held holds
    · simp only [World.setPhase, Function.update_of_ne same] at holds
      exact sane.held other held holds
  child := sane.child
  renamed := sane.renamed

theorem Sane.setChild (sane : Sane world) (turn : Turn) (child : Child)
    (claimed : Claimed world.db child.eid) : Sane (world.setChild turn child) where
  consistent := sane.consistent
  held := sane.held
  child := by
    intro other started holds
    by_cases same : other = turn
    · subst same
      simp only [World.setChild, Function.update_self, Option.some.injEq] at holds
      subst holds
      exact claimed
    · simp only [World.setChild, Function.update_of_ne same] at holds
      exact sane.child other started holds
  renamed := sane.renamed

theorem Sane.advance (sane : Sane world) {turn : Turn} {phase : Phase} (held : Held)
    (holds : (world.phase turn).held = some held) (same : phase.held = some held) :
    Sane (world.setPhase turn phase) := by
  apply sane.setPhase
  intro other isHeld
  rw [same] at isHeld
  cases isHeld
  exact sane.held turn held holds

theorem Sane.drop (sane : Sane world) (turn : Turn) : Sane (world.setPhase turn .over) :=
  sane.setPhase turn fun held holds => by cases holds

theorem Sane.claim (sane : Sane world) (turn : Turn) (now : Timestamp) (worker token : String)
    (leaseSeconds : Int) (locked : List String) :
    Sane (claim world turn now worker token leaseSeconds locked) := by
  have moved : Sane (world.after ⟨now, .bootstrap (.claim worker token leaseSeconds locked)⟩) :=
    sane.after (finishesConsistently_of_not_finish (by simp))
  unfold BootstrapWorker.claim
  apply moved.setPhase
  intro held holds
  simp only [perform, performBootstrap] at holds
  rcases claimProtectedBootstrap_cases world.db now worker token leaseSeconds locked with
    ⟨idle, -⟩ | ⟨row, stored, -, -, -, claimed⟩
  · simp [idle, Phase.held] at holds
  · simp only [claimed, Phase.held, Option.some.injEq] at holds
    subst holds
    refine ⟨_, ?_, rfl, ?_⟩
    · simp only [World.after, step, perform, performBootstrap, claimed]
      exact mem_rewriteBootstrap stored rfl
    · simp

theorem Sane.beat (sane : Sane world) {turn : Turn} {held : Held}
    (holds : (world.phase turn).held = some held) (now : Timestamp) (leaseSeconds : Int) :
    Sane (beat world turn held now leaseSeconds) := by
  have moved : Sane (world.after (held.heartbeat now leaseSeconds)) :=
    sane.after (finishesConsistently_of_not_finish (by simp [Held.heartbeat]))
  unfold BootstrapWorker.beat
  dsimp only
  split
  next alive => exact moved
  next lost => exact moved.advance held holds rfl

theorem Sane.ask (sane : Sane world) {turn : Turn} {held : Held}
    (holds : (world.phase turn).held = some held) (now : Timestamp) :
    Sane (ask world turn held now) := by
  unfold BootstrapWorker.ask
  split
  next => exact sane
  next => exact sane.advance held holds rfl
  next => exact sane.advance held holds rfl

theorem Sane.advanceChild (sane : Sane world) (schema : Option (String × String)) (turn : Turn)
    (event : Event TokenLink.Choice TokenLink.Fault) :
    Sane (advanceChild schema world turn event) := by
  unfold BootstrapWorker.advanceChild
  split
  next eid statement next running =>
    have claimed : Claimed world.db eid := sane.child turn _ running
    have moved := sane.setChild turn ⟨eid, (RelyGuarantee.advance
      (TokenLink.perform schema) statement next world.store event).2⟩ claimed
    refine ⟨moved.consistent, moved.held, moved.child, ?_⟩
    intro other listed
    dsimp only at listed
    split at listed
    next =>
      rcases List.mem_cons.mp listed with rfl | listed
      · exact claimed
      · exact sane.renamed other listed
    next => exact sane.renamed other listed
  next => exact sane

theorem Sane.act (sane : Sane world) (schema : Option (String × String)) (action : Action Turn) :
    Sane (act schema world action) := by
  cases action with
  | outside issued => exact sane.after (finishesConsistently_of_not_finish issued.not_finish)
  | claim turn now worker token leaseSeconds locked =>
      simp only [BootstrapWorker.act]
      split
      next => exact sane.claim turn now worker token leaseSeconds locked
      next => exact sane
  | build turn supplied =>
      simp only [BootstrapWorker.act]
      split
      next held phase =>
        split
        next => exact sane.advance held (by rw [phase]; rfl) rfl
        next => exact sane.advance held (by rw [phase]; rfl) rfl
      next => exact sane
  | start turn =>
      simp only [BootstrapWorker.act]
      split
      next held environment phase =>
        have holds : (world.phase turn).held = some held := by rw [phase]; rfl
        exact (sane.advance held holds rfl).setChild turn _ (sane.held turn held holds)
      next => exact sane
  | child turn event => exact sane.advanceChild schema turn event
  | beat turn now leaseSeconds =>
      simp only [BootstrapWorker.act]
      split
      next held phase => exact sane.beat (by rw [phase]; rfl) now leaseSeconds
      next => exact sane
  | ask turn now =>
      simp only [BootstrapWorker.act]
      split
      next held phase => exact sane.ask (by rw [phase]; rfl) now
      next => exact sane
  | timeOut turn =>
      simp only [BootstrapWorker.act]
      split
      next held phase => exact sane.advance held (by rw [phase]; rfl) rfl
      next => exact sane
  | notice turn =>
      simp only [BootstrapWorker.act]
      split
      next held returnCode phase _ => exact sane.advance held (by rw [phase]; rfl) rfl
      next => exact sane
  | reap turn =>
      simp only [BootstrapWorker.act]
      split
      next held leaseLost outcome _ phase _ =>
        exact sane.advance held (by rw [phase]; rfl) rfl
      next => exact sane
  | raises turn =>
      simp only [BootstrapWorker.act]
      split
      next held _ phase => exact sane.advance held (by rw [phase]; rfl) rfl
      next held phase => exact sane.advance held (by rw [phase]; rfl) rfl
      next held _ _ phase => exact sane.advance held (by rw [phase]; rfl) rfl
      next => exact sane
  | settle turn now =>
      simp only [BootstrapWorker.act]
      split
      next held report phase =>
        refine (sane.after ?_).drop turn
        intro eid worker token status publicationState failureClass called
        cases called
        exact report.consistent
      next => exact sane
  | crash turn => exact sane.drop turn

theorem noneAbandoned_advanceChild (kept : NoneAbandoned world)
    (schema : Option (String × String)) (turn : Turn)
    (event : Event TokenLink.Choice TokenLink.Fault) :
    NoneAbandoned (advanceChild schema world turn event) ↔
      KeepsReconcilable world (.child turn event) := by
  unfold BootstrapWorker.advanceChild KeepsReconcilable
  split
  next eid statement next running =>
    by_cases renames : isRename statement
    · simp only [NoneAbandoned, renames, if_true, World.setChild, List.forall_mem_cons]
      constructor
      · rintro ⟨notAbandoned, -⟩ other otherStatement otherNext otherRunning -
        cases running.symm.trans otherRunning
        exact notAbandoned
      · intro permitted
        exact ⟨permitted eid statement next running renames, kept⟩
    · simp only [NoneAbandoned, if_neg renames, World.setChild]
      refine iff_of_true kept ?_
      rintro other otherStatement otherNext otherRunning isRenamed
      cases running.symm.trans otherRunning
      exact absurd isRenamed renames
  next idle =>
    refine iff_of_true kept ?_
    intro eid statement next running
    exact absurd running (idle eid statement next)

theorem Sane.noneAbandoned_act (sane : Sane world) (kept : NoneAbandoned world)
    (schema : Option (String × String)) (action : Action Turn) :
    NoneAbandoned (BootstrapWorker.act schema world action) ↔
      KeepsReconcilable world action := by
  cases action with
  | child turn event => exact noneAbandoned_advanceChild kept schema turn event
  | settle turn now =>
      simp only [BootstrapWorker.act]
      split
      next held report phase => exact sane.noneAbandoned_settle kept phase now
      next other =>
        refine iff_of_true kept ?_
        intro held report phase
        exact absurd phase (other held report)
  | outside issued => exact iff_of_true (sane.keep_of_not_finish kept issued.not_finish) trivial
  | claim turn now worker token leaseSeconds locked =>
      refine iff_of_true ?_ trivial
      simp only [BootstrapWorker.act]
      split
      next => exact sane.keep_of_not_finish kept (by simp)
      next => exact kept
  | beat turn now leaseSeconds =>
      refine iff_of_true ?_ trivial
      simp only [BootstrapWorker.act]
      split
      next held phase =>
        have moved : NoneAbandoned (world.after (held.heartbeat now leaseSeconds)) :=
          sane.keep_of_not_finish kept (by simp [Held.heartbeat])
        unfold BootstrapWorker.beat
        dsimp only
        split
        next => exact moved
        next => exact moved
      next => exact kept
  | ask turn now =>
      refine iff_of_true ?_ trivial
      simp only [BootstrapWorker.act]
      split
      next held phase =>
        unfold BootstrapWorker.ask
        split <;> exact kept
      next => exact kept
  | build turn supplied =>
      refine iff_of_true ?_ trivial
      simp only [BootstrapWorker.act]
      split
      next held phase => split <;> exact kept
      next => exact kept
  | start turn | timeOut turn | notice turn | reap turn | raises turn =>
      refine iff_of_true ?_ trivial
      simp only [BootstrapWorker.act]
      split <;> exact kept
  | crash turn => exact iff_of_true kept trivial

/-- Every execution whose child has come to its `RENAME` can be reconciled, unless it was
published, exactly as long as no such execution is abandoned. -/
theorem reconcilable_iff_along (schema : Option (String × String)) (store : TokenLink.Store)
    (actions : List (Action Turn)) :
    (∀ before rest, actions = before ++ rest →
        Reconcilable (Machine.run (act schema) (World.initial store) before)) ↔
      Machine.Along (act schema) KeepsReconcilable (World.initial store) actions := by
  refine Machine.good_iff_along (act schema)
    (fun world action (sane : Sane world) => sane.act schema action) ?_ (sane_initial store) ?_
    actions
  · intro world action sane reconcilable
    rw [(sane.act schema action).reconcilable_iff]
    exact sane.noneAbandoned_act (sane.reconcilable_iff.mp reconcilable) schema action
  · intro eid listed
    exact absurd listed List.not_mem_nil

end Steps

/-! ## A child that is killed at its `RENAME` -/

section Killed

variable [DecidableEq Turn] {schema : Option (String × String)} {turn : Turn} {held : Held}
  {world : World Turn}

theorem run_answers {choice : TokenLink.Choice} {count : Nat} {eid : String}
    {store : TokenLink.Store} {program left : TokenLink.Script TokenLink.Ending}
    (reaches : Reaches (TokenLink.perform schema) choice count world.store program store left)
    (running : world.child turn = some ⟨eid, some program⟩) :
    ∃ reached, Machine.run (act schema) world
        (List.replicate count (.child turn (.answer choice))) = reached ∧
      reached.db = world.db ∧ reached.phase = world.phase ∧ reached.store = store ∧
      reached.child turn = some ⟨eid, some left⟩ := by
  generalize started : world.store = start at reaches
  induction reaches generalizing world with
  | refl state program => exact ⟨world, rfl, rfl, rfl, started, running⟩
  | @answer statement next count state changed final reply left answered onward
      ih =>
      have moved : act schema world (.child turn (.answer choice)) =
          { (world.setChild turn ⟨eid, some (next (.ok reply))⟩) with
            store := changed
            renamed := if isRename statement then eid :: world.renamed else world.renamed } := by
        simp only [act, advanceChild, running, RelyGuarantee.advance, started, answered]
      rw [List.replicate_succ, Machine.run_cons, moved]
      exact ih (by simp [World.setChild]) rfl

theorem not_reconcilable_of_killed {table : String} {target : TokenLink.Target}
    {next : Except TokenLink.Fault TokenLink.Reply → TokenLink.Script TokenLink.Ending}
    (phase : world.phase turn = .watching held)
    (running : world.child turn = some ⟨held.eid, some (.execute (.rename target table) next)⟩)
    {row : ProtectedBootstrapExecution} (stored : row ∈ world.db.protectedBootstrapExecutions)
    (sameId : row.bootstrapExecutionId = held.eid) (owned : row.ownedBy held.worker held.token)
    (effect : Option TokenLink.Choice) (now : Timestamp) :
    ¬ Reconcilable (Machine.run (act schema) world
      [.child turn (.kill effect), .notice turn, .settle turn now]) := by
  let report : Report := .ended false (.exited (-9))
  obtain ⟨revised, revisedStored, revisedId, status, state⟩ :=
    step_finish_of_owned now report stored sameId owned
  have unpublished : report.conclusion.status = .failed ∧
      report.conclusion.publicationState = .notStarted := by
    decide
  have renamed : held.eid ∈ (Machine.run (act schema) world
      [.child turn (.kill effect), .notice turn, .settle turn now]).renamed := by
    simp [act, advanceChild, running, RelyGuarantee.advance, World.setChild, World.setPhase,
      World.after, phase, Child.returnCode, isRename]
  have recorded : (Machine.run (act schema) world
      [.child turn (.kill effect), .notice turn, .settle turn now]).db =
        step world.db (held.finish now report.conclusion) := by
    simp [act, advanceChild, running, RelyGuarantee.advance, World.setChild, World.setPhase,
      World.after, phase, Child.returnCode, report]
  intro reconcilable
  rw [← recorded] at revisedStored
  have required := (reconcilable held.eid renamed revised revisedStored revisedId
    (by simp [status, unpublished, Status.terminal]) (by simp [state, unpublished])).1
  rw [state, unpublished.2] at required
  cases required

theorem run_start (schema : Option (String × String))
    {supplied : Except String TokenLink.Environment}
    {environment : TokenLink.Environment} (phase : world.phase turn = .building held)
    (built : buildProtectedBootstrapCommand supplied held = .ok environment) :
    ∃ reached, Machine.run (act schema) world [.build turn supplied, .start turn] = reached ∧
      reached.db = world.db ∧ reached.store = world.store ∧
      reached.phase turn = .watching held ∧
      reached.child turn = some ⟨held.eid, some (TokenLink.main environment)⟩ := by
  refine ⟨_, rfl, ?_⟩
  simp [act, phase, built, World.setPhase, World.setChild]

theorem not_reconcilable_of_ready {supplied : Except String TokenLink.Environment}
    {environment : TokenLink.Environment} {context : TokenLink.OperationContext}
    {choice : TokenLink.Choice} (phase : world.phase turn = .building held)
    {row : ProtectedBootstrapExecution} (stored : row ∈ world.db.protectedBootstrapExecutions)
    (sameId : row.bootstrapExecutionId = held.eid) (owned : row.ownedBy held.worker held.token)
    (built : buildProtectedBootstrapCommand supplied held = .ok environment)
    (isContext : TokenLink.operationContext environment = .ok context)
    (creates : TokenLink.reconciles environment = false)
    (ready : TokenLink.Ready environment context choice world.store) (now : Timestamp) :
    ¬ Reconcilable (Machine.run (act TokenLink.vaultSession) world
      ([.build turn supplied, .start turn] ++
        List.replicate 14 (.child turn (.answer choice)) ++
        [.child turn (.kill (some choice)), .notice turn, .settle turn now])) := by
  obtain ⟨started, isStarted, startedDb, startedStore, startedPhase, startedChild⟩ :=
    run_start TokenLink.vaultSession phase built
  obtain ⟨staged, next, reaches⟩ := TokenLink.create_reaches_rename ready
  have program : TokenLink.main environment = TokenLink.create environment context := by
    simp [TokenLink.main, isContext, creates]
  rw [program] at startedChild
  rw [← startedStore] at reaches
  obtain ⟨reached, isReached, reachedDb, reachedPhase, -, reachedChild⟩ :=
    run_answers reaches startedChild
  rw [Machine.run_append, Machine.run_append, isStarted, isReached]
  have watching : reached.phase turn = .watching held := by rw [reachedPhase, startedPhase]
  have kept : row ∈ reached.db.protectedBootstrapExecutions := by
    rw [reachedDb, startedDb]
    exact stored
  exact not_reconcilable_of_killed watching reachedChild kept sameId owned (some choice) now

end Killed

def killedUuid : String := "0123456789abcdef0123456789abcdef"

def killedId : TokenLink.ExecutionId where
  digits := killedUuid.toList
  length := by decide +kernel
  hexadecimal := by
    have digits : killedUuid.toList.all (· ∈ TokenLink.hexadecimalDigits) := by decide +kernel
    simpa using digits

def killedEnvironment : TokenLink.Environment where
  getenv := fun _ => some "x"
  requireMountedSecret := fun _ => .ok "v1"
  activeKey := .ok ("k", "v1")
  hmac := fun key message => key ++ message
  now := "2026-01-01T00:00:00+00:00"
  withinWarehouse := fun _ => .ok ()

def killedChoice : TokenLink.Choice where
  identifiers := ["1"]
  location := ⟨"s3://bucket/warehouse/" ++ killedId.stagingTable, by decide +kernel⟩

/-- A bootstrap is admitted, queued and claimed. -/
def killedClaim : List (Action Unit) :=
  [.outside ⟨⟨0, .ledger (.createRun "airflow" "run-1" .snapshot .zero .zero killedUuid 0)⟩, rfl⟩,
    .outside ⟨⟨1, .ledger (.submitBatch ("tr_" ++ killedUuid) "airflow" "batch-1"
      ⟨"C4_RAW_02", .ordinaryTransform, []⟩ .zero "a" 1)⟩, rfl⟩,
    .outside ⟨⟨2, .ledger (.transition "be_a" .queued none none 2)⟩, rfl⟩,
    .outside ⟨⟨3, .queue (.claim "worker-1" "token-1" 30 [])⟩, rfl⟩,
    .outside ⟨⟨4, .queue (.finish "be_a" "worker-1" "token-1" .succeeded (some .passed) none)⟩,
      rfl⟩,
    .outside ⟨⟨5, .ledger (.submitProtectedBootstrap ("tr_" ++ killedUuid) "airflow" "bootstrap-1"
      ⟨"initial_token_link_creation", 1, .restrictedIdentityTransform, "C4_RAW_02"⟩
      killedUuid 5)⟩, rfl⟩,
    .outside ⟨⟨6, .ledger (.queueProtectedBootstrap ("be_" ++ killedUuid) 6)⟩, rfl⟩,
    .claim () 7 "worker-1" "token-2" 30 []]

/-- Its child runs up to its `RENAME`, which takes effect while the child is killed. -/
def killedAtRename : List (Action Unit) :=
  killedClaim ++ ([.build () (.ok killedEnvironment), .start ()] ++
    List.replicate 14 (.child () (.answer killedChoice)) ++
    [.child () (.kill (some killedChoice)), .notice (), .settle () 8])

def killedWorld : World Unit :=
  Machine.run (act TokenLink.vaultSession) (World.initial ⟨fun _ => none, fun _ => none⟩)
    killedAtRename

def killedHeld : Held :=
  ⟨"worker-1", "token-2", "be_" ++ killedUuid, "tr_" ++ killedUuid, false⟩

theorem killedClaim_phase :
    (Machine.run (act TokenLink.vaultSession) (World.initial ⟨fun _ => none, fun _ => none⟩)
      killedClaim).phase () = .building killedHeld := by
  rfl

theorem killedClaim_row :
    ∃ row ∈ (Machine.run (act TokenLink.vaultSession)
        (World.initial ⟨fun _ => none, fun _ => none⟩)
          killedClaim).db.protectedBootstrapExecutions.rows,
      row.bootstrapExecutionId = killedHeld.eid ∧
        row.ownedBy killedHeld.worker killedHeld.token := by
  decide +kernel

theorem killedCommand_context {environment : TokenLink.Environment}
    (built : buildProtectedBootstrapCommand (.ok killedEnvironment) killedHeld = .ok environment) :
    TokenLink.operationContext environment =
      .ok ⟨killedId, killedId.stagingTable, "v1", rfl⟩ := by
  cases built
  have named : killedId.text = killedHeld.eid := by
    simp [TokenLink.ExecutionId.text, killedId, killedHeld]
  apply TokenLink.operationContext_eq
  · rw [named]
    decide +kernel
  all_goals decide +kernel

theorem killedCommand_ready {environment : TokenLink.Environment}
    (built : buildProtectedBootstrapCommand (.ok killedEnvironment) killedHeld = .ok environment) :
    TokenLink.Ready environment ⟨killedId, killedId.stagingTable, "v1", rfl⟩ killedChoice
      ⟨fun _ => none, fun _ => none⟩ := by
  cases built
  refine ⟨by decide +kernel, by decide +kernel, rfl, rfl, by decide, by decide, ⟨_, rfl, rfl, ?_⟩,
    ⟨killedChoice.location.text.toList, ?_, rfl⟩⟩
  · decide +kernel
  · decide +kernel

/-- The table may be published, and its row says that it was not started. -/
theorem killedAtRename_not_reconcilable : ¬ Reconcilable killedWorld := by
  obtain ⟨row, stored, sameId, owned⟩ := killedClaim_row
  unfold killedWorld killedAtRename
  rw [Machine.run_append]
  exact not_reconcilable_of_ready killedClaim_phase (Table.mem_rows.mp stored) sameId owned rfl
    (killedCommand_context rfl) rfl (killedCommand_ready rfl) 8

end PaymentsPlatform.TransformRuntime.BootstrapWorker
