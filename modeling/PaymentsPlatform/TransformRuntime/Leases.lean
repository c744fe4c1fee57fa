import PaymentsPlatform.TransformRuntime.Evolution

/-!
# Fenced leases and terminal absorption

A batch is handed out once, ends once, and is never touched again.  The fence
rests on two facts about single requests: `Revises` moves a batch only
forward, and every holder's call finds its row under the holder's own token.
-/

namespace PaymentsPlatform.TransformRuntime

open Relational PostgresDurableQueue

structure Lease where
  batchExecutionId : String
  worker : String
  token : String
  deriving DecidableEq

/-- The lease a successful `claim` hands out. -/
def handedOut (db : Database) (request : Request) : List Lease :=
  match request.call, perform db request with
  | .queue (.claim worker token _ _), .ok (.claimed (some row), _) =>
      [⟨row.batchExecutionId, worker, token⟩]
  | _, _ => []

/-- The executions that a request makes terminal. -/
def terminalized (db : Database) (request : Request) : List String :=
  (db.batchExecutions.rows.filter fun row => row.status ∉ Status.terminal ∧
    ((step db request).batchExecutions.lookup row.batchExecutionId).any
      fun next => next.status ∈ Status.terminal).map BatchExecution.batchExecutionId

/-- The lease that a holder's call carries. -/
def Call.lease : Call → Option Lease
  | .queue (.recordNessieBranch eid worker token _) => some ⟨eid, worker, token⟩
  | .queue (.heartbeat eid worker token _) => some ⟨eid, worker, token⟩
  | .queue (.cancelRequested eid worker token) => some ⟨eid, worker, token⟩
  | .queue (.finish eid worker token _ _ _) => some ⟨eid, worker, token⟩
  | .queue (.orphanIfOwned eid worker token _) => some ⟨eid, worker, token⟩
  | .queue (.rejectPrerequisiteIfOwned eid worker token _) => some ⟨eid, worker, token⟩
  | _ => none

/-- The calls that must come before the lease expires. -/
def Call.timed : Call → Bool
  | .queue (.recordNessieBranch ..) => true
  | .queue (.heartbeat ..) => true
  | .queue (.finish ..) => true
  | _ => false

/-- A holder's call succeeds when it does not raise and, where it answers
whether the lease was held, answers so. -/
def succeeds (db : Database) (request : Request) : Bool :=
  match request.call, perform db request with
  | .queue (.cancelRequested ..), .ok _ => true
  | _, .ok (.flag held, _) => held
  | _, .ok _ => true
  | _, .error _ => false

/-- The token a claim brings along. -/
def Call.claimToken : Call → Option String
  | .queue (.claim _ token _ _) => some token
  | _ => none

/-- `uuid4` never repeats a token. -/
def FreshTokens (requests : List Request) : Prop :=
  (requests.filterMap fun request => request.call.claimToken).Nodup

instance (requests : List Request) : Decidable (FreshTokens requests) :=
  inferInstanceAs (Decidable (List.Nodup _))

section Request

variable {db : Database} {request : Request}

theorem claim_request_cases (db : Database) {worker token : String} {leaseSeconds : Int}
    {locked : List String}
    (called : request.call = .queue (.claim worker token leaseSeconds locked)) :
    (handedOut db request = [] ∧ step db request = db) ∨
      ∃ row ∈ db.batchExecutions, row.status = .queued ∧
        handedOut db request = [⟨row.batchExecutionId, worker, token⟩] ∧
        (step db request).batchExecutions =
          db.batchExecutions.replace (row.leasedTo worker token leaseSeconds request.now) := by
  simp only [handedOut, step, perform, performQueue, called]
  rcases claim_cases db request.now worker token leaseSeconds locked with
    idle | ⟨row, stored, isQueued, -, -, answered, revised⟩
  · simp [idle]
  · refine .inr ⟨row, stored, isQueued, by simp [answered], ?_⟩
    exact (congrArg Board.executions revised).trans (Board.revise_executions _ _)

theorem handedOut_cases (db : Database) (request : Request) :
    handedOut db request = [] ∨
      ∃ worker token leaseSeconds locked, ∃ row ∈ db.batchExecutions,
        request.call = .queue (.claim worker token leaseSeconds locked) ∧ row.status = .queued ∧
        handedOut db request = [⟨row.batchExecutionId, worker, token⟩] ∧
        row.leasedTo worker token leaseSeconds request.now ∈
          (step db request).batchExecutions := by
  by_cases isClaim : ∃ worker token leaseSeconds locked,
      request.call = .queue (.claim worker token leaseSeconds locked)
  · obtain ⟨worker, token, leaseSeconds, locked, called⟩ := isClaim
    rcases claim_request_cases db called with ⟨idle, -⟩ | ⟨row, stored, isQueued, handed, replaced⟩
    · exact .inl idle
    · refine .inr ⟨worker, token, leaseSeconds, locked, row, stored, called, isQueued, handed, ?_⟩
      rw [replaced, Table.mem_replace]
      exact .inr ⟨rfl, row, stored, rfl⟩
  · left
    unfold handedOut
    split
    next worker token leaseSeconds locked _ _ called _ =>
      exact absurd ⟨worker, token, leaseSeconds, locked, called⟩ isClaim
    next => rfl

theorem mem_handedOut_of_claim {worker token : String} {leaseSeconds : Int}
    {locked : List String} {row : BatchExecution}
    (called : request.call = .queue (.claim worker token leaseSeconds locked))
    (stored : row ∈ db.batchExecutions) (isQueued : row.status = .queued)
    (leased : row.leasedTo worker token leaseSeconds request.now ∈
      (step db request).batchExecutions) :
    ⟨row.batchExecutionId, worker, token⟩ ∈ handedOut db request := by
  have notBefore : row.leasedTo worker token leaseSeconds request.now ∉ db.batchExecutions := by
    intro before
    have same := Table.eq_of_key_eq before stored rfl
    have running : row.status = .running := by rw [← same]; rfl
    simp [isQueued] at running
  rcases claim_request_cases db called with
    ⟨-, unchanged⟩ | ⟨other, otherStored, -, handed, replaced⟩
  · exact absurd (unchanged ▸ leased) notBefore
  · rw [replaced, Table.mem_replace] at leased
    rcases leased with ⟨before, -⟩ | ⟨same, -⟩
    · exact absurd before notBefore
    · have sameId := congrArg BatchExecution.batchExecutionId same
      simp only [BatchExecution.leasedTo_batchExecutionId] at sameId
      rw [handed, sameId]
      exact List.mem_singleton_self _

/-- A holder's call succeeds only on the row under its lease, and the timed
ones only before the lease expires. -/
theorem held_of_succeeds {lease : Lease} (carried : request.call.lease = some lease)
    (succeeded : succeeds db request = true) :
    ∃ row ∈ db.batchExecutions, row.batchExecutionId = lease.batchExecutionId ∧
      row.ownedBy lease.worker lease.token ∧
      (request.call.timed = true → leaseLive row.leaseExpiresAt request.now) := by
  unfold Call.lease at carried
  split at carried <;> simp only [Option.some.injEq, reduceCtorEq] at carried <;> subst carried
  next eid worker token branch called =>
    cases recorded : recordNessieBranch db request.now eid worker token branch with
    | error failure =>
        simp [succeeds, perform, performQueue, called, recorded, Except.map] at succeeded
    | ok answer =>
        obtain ⟨row, stored, sameId, owned, live, -⟩ := recordNessieBranch_ok recorded
        exact ⟨row, stored, sameId, owned, fun _ => live⟩
  next eid worker token leaseSeconds called =>
    rcases heartbeat_cases db request.now eid worker token leaseSeconds with
      lost | ⟨row, stored, sameId, owned, live, -⟩
    · simp [succeeds, perform, performQueue, called, lost] at succeeded
    · exact ⟨row, stored, sameId, owned, fun _ => live⟩
  next eid worker token called =>
    cases asked : cancelRequested db eid worker token with
    | error failure =>
        simp [succeeds, perform, performQueue, called, asked, Except.map] at succeeded
    | ok flag =>
        unfold cancelRequested at asked
        split at asked
        next absent => simp at asked
        next row found =>
          have met := List.find?_some found
          obtain ⟨sameId, owned⟩ := of_decide_eq_true met
          exact ⟨row, List.mem_of_find?_eq_some found, sameId, owned,
            by simp [called, Call.timed]⟩
  next eid worker token status testStatus failureClass called =>
    cases finished : finish db request.now eid worker token status testStatus failureClass with
    | error failure =>
        simp [succeeds, perform, performQueue, called, finished, Except.map] at succeeded
    | ok answer =>
        obtain ⟨row, stored, sameId, -, owned, live, -⟩ := finish_ok finished
        exact ⟨row, stored, sameId, owned, fun _ => live⟩
  next eid worker token failureClass called =>
    rcases orphanIfOwned_cases db request.now eid worker token failureClass with
      lost | ⟨row, stored, sameId, owned, -⟩
    · simp [succeeds, perform, performQueue, called, lost] at succeeded
    · exact ⟨row, stored, sameId, owned, by simp [called, Call.timed]⟩
  next eid worker token failureClass called =>
    rcases rejectPrerequisiteIfOwned_cases db request.now eid worker token failureClass with
      lost | ⟨row, stored, sameId, owned, -⟩
    · simp [succeeds, perform, performQueue, called, lost] at succeeded
    · exact ⟨row, stored, sameId, owned, by simp [called, Call.timed]⟩

end Request

section Rows

variable {db : Database} {request : Request}

/-- No lease before the first claim. -/
def BatchExecution.LeasedLate (row : BatchExecution) : Prop :=
  row.status.rank < Status.running.rank → row.leaseExpiresAt = none

theorem Revises.leasedLate {row : BatchExecution} {revision : Revision}
    (revises : Revises request row revision) (late : row.LeasedLate) :
    revision.revised.LeasedLate := by
  intro early
  have unleased := late (lt_of_le_of_lt revises.rank_le early)
  cases revises with
  | transition _ _ | recordNessieBranch _ _ _ | flag _ _ _ => exact unleased
  | heartbeat _ _ live => simp [leaseLive, unleased] at live
  | claim _ _ _ _ => exact absurd early (lt_irrefl _)
  | cancel _ _ | finish _ _ _ _ | orphan _ _ | reject _ _ | expire _ _ _ _ => rfl

/-- The lease ran out at `expires`, or the batch has ended since. -/
def BatchExecution.Lapsed (expires : Timestamp) (row : BatchExecution) : Prop :=
  row.leaseExpiresAt = some expires ∨
    (row.leaseExpiresAt = none ∧ row.status ∈ Status.terminal)

theorem Revises.lapsed {row : BatchExecution} {revision : Revision} {expires : Timestamp}
    (revises : Revises request row revision) (late : row.LeasedLate)
    (lapsed : row.Lapsed expires) (past : expires < request.now) :
    revision.revised.Lapsed expires := by
  have lease : row.leaseExpiresAt = some expires :=
    lapsed.resolve_right fun ended => revises.selected_open ended.2
  cases revises with
  | transition _ _ => exact .inl lease
  | recordNessieBranch _ _ _ => exact .inl lease
  | flag _ _ _ => exact .inl lease
  | claim _ isQueued _ _ => simp [late (by simp [isQueued, Status.rank])] at lease
  | heartbeat _ _ live =>
      obtain ⟨limit, stored, inTime⟩ := live
      rw [lease, Option.mem_some_iff] at stored
      exact absurd past (not_lt.mpr (stored ▸ inTime))
  | cancel _ _ | orphan _ _ | reject _ _ | expire _ _ _ _ =>
      exact .inr ⟨rfl, by simp [Status.terminal]⟩
  | finish _ ends _ _ => exact .inr ⟨rfl, ends⟩

end Rows

section Book

/-- The leases handed out so far, against the database. -/
structure LeaseBook (db : Database) (leases : List Lease) : Prop where
  once : (leases.map Lease.batchExecutionId).Nodup
  started : ∀ lease ∈ leases, ∃ row ∈ db.batchExecutions,
    row.batchExecutionId = lease.batchExecutionId ∧ Status.running.rank ≤ row.status.rank
  known : ∀ row ∈ db.batchExecutions, ∀ token ∈ row.leaseToken, ∃ lease ∈ leases,
    lease.batchExecutionId = row.batchExecutionId ∧ lease.token = token

theorem Revises.leaseToken {request : Request} {row : BatchExecution} {revision : Revision}
    (revises : Revises request row revision) {token : String}
    (held : token ∈ revision.revised.leaseToken) :
    token ∈ row.leaseToken ∨
      ∃ worker leaseSeconds locked,
        request.call = .queue (.claim worker token leaseSeconds locked) ∧ row.status = .queued ∧
        revision.revised = row.leasedTo worker token leaseSeconds request.now := by
  cases revises with
  | transition _ _ | recordNessieBranch _ _ _ | heartbeat _ _ _ | flag _ _ _ => exact .inl held
  | claim called isQueued _ _ =>
      obtain rfl := Option.mem_some_iff.mp held
      exact .inr ⟨_, _, _, called, isQueued, rfl⟩
  | cancel _ _ | finish _ _ _ _ | orphan _ _ | reject _ _ | expire _ _ _ _ =>
      simp [BatchExecution.cancelledByOperator, BatchExecution.orphanedWith,
        BatchExecution.settled] at held

theorem LeaseBook.still_started {db : Database} {leases : List Lease} (book : LeaseBook db leases)
    (request : Request) {lease : Lease} (listed : lease ∈ leases) :
    ∃ row ∈ (step db request).batchExecutions,
      row.batchExecutionId = lease.batchExecutionId ∧
        Status.running.rank ≤ row.status.rank := by
  obtain ⟨row, stored, sameId, far⟩ := book.started lease listed
  rcases step_mem stored request with same | ⟨revision, revises, revised⟩
  · exact ⟨row, same, sameId, far⟩
  · exact ⟨_, revised, revises.sameIdentity.batchExecutionId.trans sameId,
      le_trans far revises.rank_le⟩

theorem LeaseBook.once_step {db : Database} {leases : List Lease} (book : LeaseBook db leases)
    (request : Request) :
    ((leases ++ handedOut db request).map Lease.batchExecutionId).Nodup := by
  rcases handedOut_cases db request with
    idle | ⟨worker, token, leaseSeconds, locked, row, stored, -, isQueued, handed, -⟩
  · simpa [idle] using book.once
  · rw [handed, List.map_append, List.nodup_append]
    refine ⟨book.once, List.nodup_singleton _, ?_⟩
    intro first firstListed second secondListed same
    obtain ⟨lease, listed, rfl⟩ := List.mem_map.mp firstListed
    obtain ⟨old, oldStored, sameId, far⟩ := book.started lease listed
    have sameKey : old.batchExecutionId = row.batchExecutionId := by
      rw [sameId, same]
      simpa using secondListed
    rw [Table.eq_of_key_eq oldStored stored sameKey, isQueued] at far
    simp [Status.rank] at far

theorem LeaseBook.known_step {db : Database} {leases : List Lease} (book : LeaseBook db leases)
    {request : Request} {row : BatchExecution} (stored : row ∈ (step db request).batchExecutions)
    {token : String} (held : token ∈ row.leaseToken) :
    ∃ lease ∈ leases ++ handedOut db request,
      lease.batchExecutionId = row.batchExecutionId ∧ lease.token = token := by
  have fromBook : ∀ old ∈ db.batchExecutions, token ∈ old.leaseToken →
      old.batchExecutionId = row.batchExecutionId →
      ∃ lease ∈ leases ++ handedOut db request,
        lease.batchExecutionId = row.batchExecutionId ∧ lease.token = token := by
    intro old oldStored oldHeld sameId
    obtain ⟨lease, listed, leaseId, sameToken⟩ := book.known old oldStored token oldHeld
    exact ⟨lease, List.mem_append_left _ listed, leaseId.trans sameId, sameToken⟩
  rcases mem_step stored with before | ⟨lawful, -⟩ | ⟨old, oldStored, revision, revises, rfl⟩
  · exact fromBook row before held rfl
  · cases lawful with
    | admitBatch _ _ _ _ _ _ _ => simp [admittedBatch] at held
  · have sameId := revises.sameIdentity.batchExecutionId
    rcases revises.leaseToken held with
      oldHeld | ⟨worker, leaseSeconds, locked, called, isQueued, leased⟩
    · exact fromBook old oldStored oldHeld sameId.symm
    · rw [leased] at stored
      exact ⟨_, List.mem_append_right _ (mem_handedOut_of_claim called oldStored isQueued stored),
        sameId.symm, rfl⟩

theorem LeaseBook.step {db : Database} {leases : List Lease} (book : LeaseBook db leases)
    (request : Request) :
    LeaseBook (step db request) (leases ++ handedOut db request) := by
  constructor
  · exact book.once_step request
  · intro lease listed
    rcases List.mem_append.mp listed with old | new
    · exact book.still_started request old
    · rcases handedOut_cases db request with
        idle | ⟨worker, token, leaseSeconds, locked, row, stored, -, -, handed, leased⟩
      · simp [idle] at new
      · rw [handed, List.mem_singleton] at new
        subst new
        exact ⟨_, leased, rfl, le_refl _⟩
  · intro row stored token held
    exact book.known_step stored held

/-- The leases handed out in a run. -/
def leases (requests : List Request) : List Lease :=
  Machine.log step handedOut .empty requests

theorem leaseBook (requests : List Request) : LeaseBook (after requests) (leases requests) := by
  have start : LeaseBook .empty [] :=
    ⟨List.nodup_nil, by simp, fun row stored => absurd stored (Table.not_mem_empty row)⟩
  exact Machine.log_invariant step handedOut (fun db request reported book => book.step request)
    start requests

theorem handedOut_tokens (db : Database) (requests : List Request) :
    ((Machine.log step handedOut db requests).map Lease.token).Sublist
      (requests.filterMap fun request => request.call.claimToken) := by
  apply Machine.log_sublist
  intro db request
  rcases handedOut_cases db request with
    idle | ⟨worker, token, leaseSeconds, locked, row, -, called, -, handed, -⟩
  · rw [idle]
    exact List.nil_sublist _
  · simp [handed, called, Call.claimToken]

end Book

section Ends

/-- The executions that have ended so far, against the database. -/
structure EndedOnce (db : Database) (ended : List String) : Prop where
  once : ended.Nodup
  stored : ∀ eid ∈ ended, ∃ row ∈ db.batchExecutions,
    row.batchExecutionId = eid ∧ row.status ∈ Status.terminal

theorem mem_terminalized {db : Database} {request : Request} {eid : String} :
    eid ∈ terminalized db request ↔
      ∃ row ∈ db.batchExecutions, row.batchExecutionId = eid ∧ row.status ∉ Status.terminal ∧
        ∃ next ∈ (step db request).batchExecutions,
          next.batchExecutionId = eid ∧ next.status ∈ Status.terminal := by
  constructor
  · intro listed
    obtain ⟨row, selected, rfl⟩ := List.mem_map.mp listed
    obtain ⟨stored, met⟩ := List.mem_filter.mp selected
    obtain ⟨isOpen, ends⟩ := of_decide_eq_true met
    obtain ⟨next, found, ended⟩ := (Option.any_eq_true _ _).mp ends
    obtain ⟨nextStored, sameId⟩ := Table.lookup_eq_some.mp found
    exact ⟨row, stored, rfl, isOpen, next, nextStored, sameId, of_decide_eq_true ended⟩
  · rintro ⟨row, stored, rfl, isOpen, next, nextStored, sameId, ended⟩
    refine List.mem_map.mpr ⟨row, List.mem_filter.mpr ⟨stored, ?_⟩, rfl⟩
    rw [decide_eq_true_iff]
    refine ⟨isOpen, (Option.any_eq_true _ _).mpr ⟨next, ?_, decide_eq_true ended⟩⟩
    exact Table.lookup_eq_some.mpr ⟨nextStored, sameId⟩

theorem EndedOnce.step {db : Database} {ended : List String} (book : EndedOnce db ended)
    (request : Request) : EndedOnce (step db request) (ended ++ terminalized db request) := by
  constructor
  · refine List.nodup_append.mpr ⟨book.once, ?_, ?_⟩
    · exact db.batchExecutions.unique.sublist (List.filter_sublist.map _)
    · rintro first firstListed second secondListed rfl
      obtain ⟨old, oldStored, oldId, oldEnded⟩ := book.stored first firstListed
      obtain ⟨row, stored, sameId, isOpen, -⟩ := mem_terminalized.mp secondListed
      rw [Table.eq_of_key_eq oldStored stored (oldId.trans sameId.symm)] at oldEnded
      exact isOpen oldEnded
  · intro eid listed
    rcases List.mem_append.mp listed with old | new
    · obtain ⟨row, stored, sameId, isEnded⟩ := book.stored eid old
      exact ⟨row, run_keeps_terminal stored isEnded [request], sameId, isEnded⟩
    · obtain ⟨row, stored, sameId, isOpen, next⟩ := mem_terminalized.mp new
      exact next

theorem endedOnce (requests : List Request) :
    EndedOnce (after requests) (Machine.log step terminalized .empty requests) :=
  Machine.log_invariant step terminalized (fun _ request _ book => book.step request)
    (⟨List.nodup_nil, by simp⟩ : EndedOnce .empty []) requests

end Ends

/-- The lease protocol of one run of the control plane. -/
structure FencedLeases (requests : List Request) : Prop where
  /-- `claim` hands each execution out at most once. -/
  issued_once : ((leases requests).map Lease.batchExecutionId).Nodup
  /-- Each execution becomes terminal at most once. -/
  ended_once : (Machine.log step terminalized .empty requests).Nodup
  /-- A terminal execution is never rewritten. -/
  absorbed : ∀ before rest, requests = before ++ rest →
    ∀ row ∈ (after before).batchExecutions, row.status ∈ Status.terminal →
      row ∈ (after requests).batchExecutions
  /-- No holder's call on a terminal execution succeeds. -/
  fenced : ∀ before request rest, requests = before ++ request :: rest →
    ∀ row ∈ (after before).batchExecutions, row.status ∈ Status.terminal →
      ∀ carried ∈ request.call.lease, carried.batchExecutionId = row.batchExecutionId →
        succeeds (after before) request = false
  /-- No call with the token of a terminal execution succeeds, whatever it names. -/
  retired : ∀ before request rest, requests = before ++ request :: rest →
    ∀ lease ∈ leases before, ∀ row ∈ (after before).batchExecutions,
      row.batchExecutionId = lease.batchExecutionId → row.status ∈ Status.terminal →
      ∀ carried ∈ request.call.lease, carried.token = lease.token →
        succeeds (after before) request = false
  /-- `heartbeat`, `finish` and `record_nessie_branch` succeed in time only. -/
  in_time : ∀ before request rest, requests = before ++ request :: rest →
    ∀ carried ∈ request.call.lease, request.call.timed = true →
      succeeds (after before) request = true →
      ∀ row ∈ (after before).batchExecutions,
        row.batchExecutionId = carried.batchExecutionId →
          leaseLive row.leaseExpiresAt request.now
  /-- An expired lease is never extended. -/
  never_revived : ∀ before request rest, requests = before ++ request :: rest →
    ∀ row ∈ (after before).batchExecutions, leaseExpired row.leaseExpiresAt request.now →
      ∀ next ∈ (after requests).batchExecutions,
        next.batchExecutionId = row.batchExecutionId →
          next.leaseExpiresAt = row.leaseExpiresAt ∨ next.leaseExpiresAt = none
  /-- `ORPHANED` is for good. -/
  orphaned_for_good : ∀ before rest, requests = before ++ rest →
    ∀ row ∈ (after before).batchExecutions, row.status = .orphaned →
      ∀ next ∈ (after requests).batchExecutions,
        next.batchExecutionId = row.batchExecutionId → next.status = .orphaned

section Fence

variable {before rest : List Request} {request : Request}

theorem leases_unique_token {requests : List Request} (fresh : FreshTokens requests)
    {first second : Lease} (firstListed : first ∈ leases requests)
    (secondListed : second ∈ leases requests) (sameToken : first.token = second.token) :
    first = second :=
  List.inj_on_of_nodup_map (fresh.sublist (handedOut_tokens .empty requests)) firstListed
    secondListed sameToken

theorem not_succeeds_of_terminal {db : Database} {row : BatchExecution}
    (stored : row ∈ db.batchExecutions) (ended : row.status ∈ Status.terminal) {carried : Lease}
    (carries : request.call.lease = some carried)
    (sameId : carried.batchExecutionId = row.batchExecutionId) :
    succeeds db request = false := by
  rw [Bool.eq_false_iff]
  intro succeeded
  obtain ⟨held, heldStored, heldId, owned, -⟩ := held_of_succeeds carries succeeded
  rw [Table.eq_of_key_eq heldStored stored (heldId.trans sameId)] at owned
  exact Status.not_terminal_of_active owned.2.2 ended

theorem leasedLate_rows (requests : List Request) :
    ∀ row ∈ (after requests).batchExecutions, row.LeasedLate :=
  rows_invariant (fun _ _ _ _ _ _ _ _ => rfl) (fun _ _ _ revises late => revises.leasedLate late)
    requests

theorem lapsed_run {requests : List Request} {expires : Timestamp} {row : BatchExecution}
    (stored : row ∈ (after before).batchExecutions) (lapsed : row.Lapsed expires)
    (past : ∀ request ∈ requests, expires < request.now) :
    ∃ next ∈ (after (before ++ requests)).batchExecutions,
      next.batchExecutionId = row.batchExecutionId ∧ next.Lapsed expires := by
  rw [after_append]
  have kept : ∀ request ∈ requests, ∀ old revision, Revises request old revision →
      old.LeasedLate ∧ old.Lapsed expires →
      revision.revised.LeasedLate ∧ revision.revised.Lapsed expires :=
    fun request listed old revision revises ⟨late, oldLapsed⟩ =>
      ⟨revises.leasedLate late, revises.lapsed late oldLapsed (past request listed)⟩
  obtain ⟨next, nextStored, sameId, -, nextLapsed⟩ :=
    run_follows kept stored ⟨leasedLate_rows before row stored, lapsed⟩
  exact ⟨next, nextStored, sameId, nextLapsed⟩

end Fence

theorem leases_fenced (requests : List Request) (monotone : ClockMonotone requests)
    (fresh : FreshTokens requests) : FencedLeases requests where
  issued_once := (leaseBook requests).once
  ended_once := (endedOnce requests).once
  absorbed := by
    rintro before rest rfl row stored ended
    rw [after_append]
    exact run_keeps_terminal stored ended rest
  fenced := by
    rintro before request rest rfl row stored ended carried carries sameId
    exact not_succeeds_of_terminal stored ended carries sameId
  retired := by
    rintro before request rest rfl lease listed row stored sameId ended carried carries sameToken
    rw [Bool.eq_false_iff]
    intro succeeded
    obtain ⟨held, heldStored, heldId, owned, -⟩ := held_of_succeeds carries succeeded
    obtain ⟨holder, holderListed, holderId, holderToken⟩ :=
      (leaseBook before).known held heldStored carried.token owned.2.1
    have freshBefore : FreshTokens before := by
      refine List.Nodup.sublist ?_ fresh
      rw [List.filterMap_append]
      exact List.sublist_append_left _ _
    have same := leases_unique_token freshBefore holderListed listed
      (holderToken.trans sameToken)
    have sameKey : held.batchExecutionId = row.batchExecutionId := by
      rw [← holderId, same, sameId]
    rw [Table.eq_of_key_eq heldStored stored sameKey] at owned
    exact Status.not_terminal_of_active owned.2.2 ended
  in_time := by
    rintro before request rest rfl carried carries timed succeeded row stored sameId
    obtain ⟨held, heldStored, heldId, -, live⟩ := held_of_succeeds carries succeeded
    rw [← Table.eq_of_key_eq heldStored stored (heldId.trans sameId.symm)]
    exact live timed
  never_revived := by
    rintro before request rest rfl row stored ⟨expires, lease, past⟩ next nextStored sameId
    have later : ∀ other ∈ request :: rest, expires < other.now := by
      have ordered := (List.pairwise_append.mp monotone).2.1
      intro other listed
      rcases List.mem_cons.mp listed with rfl | listed
      · exact past
      · exact lt_of_lt_of_le past (List.rel_of_pairwise_cons ordered listed)
    obtain ⟨found, foundStored, foundId, lapsed⟩ := lapsed_run stored (.inl lease) later
    rw [Table.eq_of_key_eq nextStored foundStored (sameId.trans foundId.symm), lease]
    exact lapsed.imp id And.left
  orphaned_for_good := by
    rintro before rest rfl row stored isOrphaned next nextStored sameId
    have ended : row.status ∈ Status.terminal := by simp [isOrphaned, Status.terminal]
    have kept := run_keeps_terminal stored ended rest
    rw [← after_append] at kept
    rw [Table.eq_of_key_eq nextStored kept sameId, isOrphaned]

/-- A worker stalls past its lease; the reconciler orphans its batch first. -/
def stalledWorker : List Request :=
  [⟨0, .ledger (.createRun "airflow" "run-1" .snapshot .zero .zero "1" 0)⟩,
    ⟨1, .ledger (.submitBatch "tr_1" "airflow" "batch-1" ⟨"C4_ML_01", .mlPredictionTransform, []⟩
      .zero "a" 1)⟩,
    ⟨2, .ledger (.transition "be_a" .queued none none 2)⟩,
    ⟨3, .queue (.claim "worker-1" "token-1" 30 [])⟩,
    ⟨seconds 31, .queue (.reconcileExpired [])⟩,
    ⟨seconds 32, .queue (.finish "be_a" "worker-1" "token-1" .succeeded (some .passed) none)⟩]

theorem stalledWorker_fenced :
    leases stalledWorker = [⟨"be_a", "worker-1", "token-1"⟩] ∧ FencedLeases stalledWorker :=
  ⟨by decide, leases_fenced stalledWorker (by decide) (by decide)⟩

end PaymentsPlatform.TransformRuntime
