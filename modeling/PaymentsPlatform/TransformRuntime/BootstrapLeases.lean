import PaymentsPlatform.TransformRuntime.Leases

/-!
# Leases of protected bootstraps

A bootstrap leaves `ORPHANED` and `FAILED` again, so its row is claimed more
than once and its tokens follow each other.  The token fence holds in every
run.  The time fence does not: `finish_protected_bootstrap` compares owner,
token and status, as `finish` does, but never `lease_expires_at`.
-/

namespace PaymentsPlatform.TransformRuntime

open Relational PostgresDurableQueue

/-- The lease a successful `claim_protected_bootstrap` hands out. -/
def bootstrapHandedOut (db : Database) (request : Request) : List Lease :=
  match request.call, perform db request with
  | .bootstrap (.claim worker token _ _), .ok (.claimedBootstrap (some (row, _)), _) =>
      [⟨row.bootstrapExecutionId, worker, token⟩]
  | _, _ => []

/-- The leases handed out in a run, in order. -/
def bootstrapLeases (requests : List Request) : List Lease :=
  Machine.log step bootstrapHandedOut .empty requests

/-- The lease that a holder's write carries. -/
def Call.bootstrapLease : Call → Option Lease
  | .bootstrap (.heartbeat eid worker token _) => some ⟨eid, worker, token⟩
  | .bootstrap (.finish eid worker token _ _ _) => some ⟨eid, worker, token⟩
  | _ => none

/-- The write neither raises nor answers that the lease is lost. -/
def bootstrapSucceeds (db : Database) (request : Request) : Bool :=
  match perform db request with
  | .ok (.flag held, _) => held
  | .ok _ => true
  | .error _ => false

/-- The token a claim brings along. -/
def Call.bootstrapToken : Call → Option String
  | .bootstrap (.claim _ token _ _) => some token
  | _ => none

/-- `uuid4` never repeats a token. -/
def FreshBootstrapTokens (requests : List Request) : Prop :=
  (requests.filterMap fun request => request.call.bootstrapToken).Nodup

instance (requests : List Request) : Decidable (FreshBootstrapTokens requests) :=
  inferInstanceAs (Decidable (List.Nodup _))

/-- No write of the current holder comes to `finish_protected_bootstrap` late. -/
def FinishesInTime (db : Database) (request : Request) : Prop :=
  match request.call with
  | .bootstrap (.finish eid worker token status _ _) =>
      status ∈ Status.terminal → ∀ row ∈ db.protectedBootstrapExecutions.rows,
        row.bootstrapExecutionId = eid → row.ownedBy worker token →
          ¬ leaseExpired row.leaseExpiresAt request.now
  | _ => True

instance (db : Database) : ∀ request, Decidable (FinishesInTime db request)
  | ⟨now, .bootstrap (.finish eid worker token status _ _)⟩ =>
      inferInstanceAs (Decidable (status ∈ Status.terminal →
        ∀ row ∈ db.protectedBootstrapExecutions.rows, row.bootstrapExecutionId = eid →
          row.ownedBy worker token → ¬ leaseExpired row.leaseExpiresAt now))
  | ⟨_, .bootstrap (.claim ..)⟩ | ⟨_, .bootstrap (.heartbeat ..)⟩
  | ⟨_, .bootstrap (.cancelRequested ..)⟩ | ⟨_, .bootstrap (.requestCancel ..)⟩
  | ⟨_, .bootstrap (.requestReconcile ..)⟩ | ⟨_, .bootstrap (.reconcileExpired ..)⟩
  | ⟨_, .ledger _⟩ | ⟨_, .queue _⟩ => .isTrue trivial

section Request

variable {db : Database} {request : Request}

theorem bootstrapClaim_cases (db : Database) {worker token : String} {leaseSeconds : Int}
    {locked : List String}
    (called : request.call = .bootstrap (.claim worker token leaseSeconds locked)) :
    (bootstrapHandedOut db request = [] ∧ step db request = db) ∨
      ∃ row ∈ db.protectedBootstrapExecutions,
        bootstrapHandedOut db request = [⟨row.bootstrapExecutionId, worker, token⟩] ∧
        step db request = db.rewriteBootstrap
          (row.leasedTo (row.status = .reconcileQueued) worker token leaseSeconds request.now) := by
  simp only [bootstrapHandedOut, step, perform, performBootstrap, called]
  rcases claimProtectedBootstrap_cases db request.now worker token leaseSeconds locked with
    ⟨idle, -⟩ | ⟨row, stored, -, -, -, claimed⟩
  · simp [idle]
  · exact .inr ⟨row, stored, by simp [claimed], by simp [claimed]⟩

theorem bootstrapHandedOut_of_not_claim
    (notClaim : ∀ worker token leaseSeconds locked,
      request.call ≠ .bootstrap (.claim worker token leaseSeconds locked)) :
    bootstrapHandedOut db request = [] := by
  unfold bootstrapHandedOut
  split
  next worker token leaseSeconds locked _ _ _ called _ =>
    exact absurd called (notClaim worker token leaseSeconds locked)
  next => rfl

theorem bootstrapHeld_of_succeeds {lease : Lease}
    (carried : request.call.bootstrapLease = some lease)
    (succeeded : bootstrapSucceeds db request = true) :
    ∃ row ∈ db.protectedBootstrapExecutions,
      row.bootstrapExecutionId = lease.batchExecutionId ∧
      row.ownedBy lease.worker lease.token ∧
      (FinishesInTime db request → ¬ leaseExpired row.leaseExpiresAt request.now) := by
  unfold Call.bootstrapLease at carried
  split at carried <;> simp only [Option.some.injEq, reduceCtorEq] at carried <;> subst carried
  next eid worker token leaseSeconds called =>
    rcases heartbeatProtectedBootstrap_cases db request.now eid worker token leaseSeconds with
      lost | ⟨row, stored, sameId, owned, live, -⟩
    · simp [bootstrapSucceeds, perform, performBootstrap, called, lost] at succeeded
    · refine ⟨row, stored, sameId, owned, fun _ => ?_⟩
      rintro ⟨expires, lease, past⟩
      obtain ⟨limit, sameLease, inTime⟩ := live
      have same : expires = limit := Option.mem_unique lease sameLease
      exact absurd past (not_lt.mpr (same ▸ inTime))
  next eid worker token status publicationState failureClass called =>
    cases finished : finishProtectedBootstrap db request.now eid worker token status
        publicationState failureClass with
    | error failure =>
        simp [bootstrapSucceeds, perform, performBootstrap, called, finished, Except.map]
          at succeeded
    | ok answer =>
        obtain ⟨row, stored, sameId, ends, owned, -⟩ := finishProtectedBootstrap_ok finished
        refine ⟨row, stored, sameId, owned, fun inTime => ?_⟩
        simp only [FinishesInTime, called] at inTime
        exact inTime ends row stored sameId owned

theorem bootstrapSucceeds_of_owned {eid worker token : String} {status : Status}
    {publicationState : PublicationState} {failureClass : Option String}
    {row : ProtectedBootstrapExecution}
    (called : request.call = .bootstrap
      (.finish eid worker token status publicationState failureClass))
    (ends : status ∈ Status.terminal) (stored : row ∈ db.protectedBootstrapExecutions)
    (sameId : row.bootstrapExecutionId = eid) (owned : row.ownedBy worker token) :
    bootstrapSucceeds db request = true := by
  subst sameId
  have chosen : (db.protectedBootstrapExecutions.rows.find? fun other =>
      decide (other.bootstrapExecutionId = row.bootstrapExecutionId ∧
        other.leaseOwner = some worker ∧ other.leaseToken = some token)).isSome := by
    rw [List.find?_isSome]
    exact ⟨row, stored, decide_eq_true ⟨rfl, owned.1, owned.2.1⟩⟩
  obtain ⟨other, found⟩ := Option.isSome_iff_exists.mp chosen
  have finished : ∃ answer, finishProtectedBootstrap db request.now row.bootstrapExecutionId
      worker token status publicationState failureClass = .ok answer := by
    simp only [finishProtectedBootstrap, ends, not_true_eq_false, if_false,
      Table.lookup_key stored, owned, found]
    exact ⟨_, rfl⟩
  obtain ⟨answer, finished⟩ := finished
  simp [bootstrapSucceeds, perform, performBootstrap, called, finished, Except.map]

end Request

section Book

/-- The lease is the last one handed out for its row. -/
def Latest (lease : Lease) (leases : List Lease) : Prop :=
  ∃ earlier later, leases = earlier ++ lease :: later ∧
    ∀ other ∈ later, other.batchExecutionId ≠ lease.batchExecutionId

theorem Latest.mem {lease : Lease} {leases : List Lease} (latest : Latest lease leases) :
    lease ∈ leases := by
  obtain ⟨earlier, later, rfl, -⟩ := latest
  simp

theorem Latest.append {lease : Lease} {leases handed : List Lease} (latest : Latest lease leases)
    (others : ∀ other ∈ handed, other.batchExecutionId ≠ lease.batchExecutionId) :
    Latest lease (leases ++ handed) := by
  obtain ⟨earlier, later, rfl, distinct⟩ := latest
  refine ⟨earlier, later ++ handed, by simp, fun other listed => ?_⟩
  exact (List.mem_append.mp listed).elim (distinct other) (others other)

theorem Latest.not_followed {lease next : Lease} {leases : List Lease}
    (latest : Latest lease leases) (fresh : (leases.map Lease.token).Nodup)
    (followed : [lease, next].Sublist leases) :
    next.batchExecutionId ≠ lease.batchExecutionId := by
  obtain ⟨earlier, later, rfl, distinct⟩ := latest
  have distinctLeases := List.Nodup.of_map _ fresh
  obtain ⟨-, tail, apart⟩ := List.nodup_append.mp distinctLeases
  obtain ⟨notLater, -⟩ := List.nodup_cons.mp tail
  -- the pair cannot begin before the lease itself, nor after it
  have ordered : (earlier ++ lease :: later).Pairwise
      fun first second => first = lease → second ∈ later := by
    refine List.pairwise_append.mpr ⟨?_, List.pairwise_cons.mpr ⟨fun _ listed _ => listed, ?_⟩, ?_⟩
    · exact List.Pairwise.imp_of_mem (fun {first _} listed _ _ same =>
        absurd same (apart first listed lease List.mem_cons_self))
        (List.pairwise_of_forall (R := fun _ _ => True) fun _ _ => trivial)
    · exact List.Pairwise.imp_of_mem (fun {first _} listed _ _ same =>
        absurd (same ▸ listed) notLater)
        (List.pairwise_of_forall (R := fun _ _ => True) fun _ _ => trivial)
    · exact fun first listed _ _ same =>
        absurd same (apart first listed lease List.mem_cons_self)
  exact distinct next (List.pairwise_iff_forall_sublist.mp ordered followed rfl)

/-- Every token in the database is the latest one handed out for its row. -/
def BootstrapBook (db : Database) (leases : List Lease) : Prop :=
  ∀ row ∈ db.protectedBootstrapExecutions, ∀ token ∈ row.leaseToken,
    ∃ lease, Latest lease leases ∧ lease.batchExecutionId = row.bootstrapExecutionId ∧
      lease.token = token

theorem BootstrapRevises.leaseToken {request : Request}
    {row revised : ProtectedBootstrapExecution} (revises : BootstrapRevises request row revised)
    {token : String} (held : token ∈ revised.leaseToken) :
    token ∈ row.leaseToken ∨
      ∃ worker leaseSeconds locked,
        request.call = .bootstrap (.claim worker token leaseSeconds locked) := by
  cases revises with
  | queue _ _ | heartbeat _ _ _ | cancel _ _ | flag _ _ _ | requeue _ _ _ => exact .inl held
  | claim called _ _ _ =>
      obtain rfl := Option.mem_some_iff.mp held
      exact .inr ⟨_, _, _, called⟩
  | finish _ _ _ | expire _ _ _ _ =>
      simp [ProtectedBootstrapExecution.finished, ProtectedBootstrapExecution.orphanedExpired]
        at held

theorem BootstrapBook.step {db : Database} {leases : List Lease}
    (book : BootstrapBook db leases) (request : Request) :
    BootstrapBook (step db request) (leases ++ bootstrapHandedOut db request) := by
  intro row stored token held
  by_cases isClaim : ∃ worker token leaseSeconds locked,
      request.call = .bootstrap (.claim worker token leaseSeconds locked)
  · obtain ⟨worker, claimToken, leaseSeconds, locked, called⟩ := isClaim
    rcases bootstrapClaim_cases db called with
      ⟨idle, unchanged⟩ | ⟨claimed, claimedStored, handed, replaced⟩
    · rw [idle, List.append_nil]
      rw [unchanged] at stored
      exact book row stored token held
    · rw [replaced] at stored
      rw [handed]
      rcases Table.mem_replace.mp stored with ⟨before, other⟩ | ⟨rfl, -⟩
      · obtain ⟨lease, latest, sameId, sameToken⟩ := book row before token held
        refine ⟨lease, latest.append fun new listed => ?_, sameId, sameToken⟩
        obtain rfl := List.mem_singleton.mp listed
        rw [sameId]
        exact fun same => other same.symm
      · obtain rfl := Option.mem_some_iff.mp held
        exact ⟨_, ⟨leases, [], rfl, by simp⟩, rfl, rfl⟩
  · have idle : bootstrapHandedOut db request = [] :=
      bootstrapHandedOut_of_not_claim fun worker token leaseSeconds locked called =>
        isClaim ⟨worker, token, leaseSeconds, locked, called⟩
    rw [idle, List.append_nil]
    rcases mem_step_bootstrap stored with
      before | ⟨_, _, _, _, _, _, rfl⟩ | ⟨old, oldStored, revises⟩
    · exact book row before token held
    · simp [admittedBootstrap] at held
    · rcases revises.leaseToken held with oldHeld | ⟨worker, leaseSeconds, locked, called⟩
      · rw [revises.bootstrapExecutionId_eq]
        exact book old oldStored token oldHeld
      · exact absurd ⟨worker, token, leaseSeconds, locked, called⟩ isClaim

theorem bootstrapBook (requests : List Request) :
    BootstrapBook (after requests) (bootstrapLeases requests) :=
  Machine.log_invariant step bootstrapHandedOut (fun _ request _ book => book.step request)
    (show BootstrapBook .empty [] from fun row stored => absurd stored (Table.not_mem_empty row))
    requests

theorem bootstrapHandedOut_tokens (db : Database) (requests : List Request) :
    ((Machine.log step bootstrapHandedOut db requests).map Lease.token).Sublist
      (requests.filterMap fun request => request.call.bootstrapToken) := by
  apply Machine.log_sublist
  intro db request
  by_cases isClaim : ∃ worker token leaseSeconds locked,
      request.call = .bootstrap (.claim worker token leaseSeconds locked)
  · obtain ⟨worker, token, leaseSeconds, locked, called⟩ := isClaim
    rcases bootstrapClaim_cases db called with ⟨idle, -⟩ | ⟨row, -, handed, -⟩
    · rw [idle]
      exact List.nil_sublist _
    · simp [handed, called, Call.bootstrapToken]
  · rw [bootstrapHandedOut_of_not_claim fun worker token leaseSeconds locked called =>
      isClaim ⟨worker, token, leaseSeconds, locked, called⟩]
    exact List.nil_sublist _

end Book

/-- The lease protocol of protected bootstraps in one run. -/
structure BootstrapLeaseSafe (requests : List Request) : Prop where
  /-- No holder's write succeeds after the stored expiry. -/
  in_time : ∀ before request rest, requests = before ++ request :: rest →
    ∀ carried ∈ request.call.bootstrapLease, bootstrapSucceeds (after before) request = true →
      ∀ row ∈ (after before).protectedBootstrapExecutions,
        row.bootstrapExecutionId = carried.batchExecutionId →
          ¬ leaseExpired row.leaseExpiresAt request.now
  /-- Once the row is claimed again, no write with the earlier token succeeds,
  whatever row it names. -/
  fenced : ∀ before request rest, requests = before ++ request :: rest →
    ∀ earlier later, [earlier, later].Sublist (bootstrapLeases before) →
      later.batchExecutionId = earlier.batchExecutionId →
      ∀ carried ∈ request.call.bootstrapLease, carried.token = earlier.token →
        bootstrapSucceeds (after before) request = false

theorem bootstrap_token_fence {before rest : List Request} {request : Request}
    (fresh : FreshBootstrapTokens (before ++ request :: rest)) {earlier later carried : Lease}
    (followed : [earlier, later].Sublist (bootstrapLeases before))
    (sameRow : later.batchExecutionId = earlier.batchExecutionId)
    (carries : request.call.bootstrapLease = some carried)
    (sameToken : carried.token = earlier.token) :
    bootstrapSucceeds (after before) request = false := by
  rw [Bool.eq_false_iff]
  intro succeeded
  obtain ⟨held, heldStored, -, owned, -⟩ := bootstrapHeld_of_succeeds carries succeeded
  obtain ⟨lease, latest, -, leaseToken⟩ :=
    bootstrapBook before held heldStored carried.token owned.2.1
  have distinct : ((bootstrapLeases before).map Lease.token).Nodup := by
    refine List.Nodup.sublist (bootstrapHandedOut_tokens .empty before) ?_
    refine List.Nodup.sublist ?_ fresh
    rw [List.filterMap_append]
    exact List.sublist_append_left _ _
  have listed : earlier ∈ bootstrapLeases before := followed.subset List.mem_cons_self
  have same : lease = earlier :=
    List.inj_on_of_nodup_map distinct latest.mem listed (leaseToken.trans sameToken)
  subst same
  exact latest.not_followed distinct followed sameRow

/-- Leases of bootstraps are safe exactly as long as no holder finishes late. -/
theorem bootstrap_leases_safe_iff (requests : List Request)
    (fresh : FreshBootstrapTokens requests) :
    BootstrapLeaseSafe requests ↔ Machine.Along step FinishesInTime .empty requests := by
  constructor
  · intro safe
    refine Machine.along_of_prefixes step fun before request rest split => ?_
    unfold FinishesInTime
    split
    next eid worker token status publicationState failureClass called =>
      intro ends row stored sameId owned
      exact safe.in_time before request rest split ⟨eid, worker, token⟩
        (by simp [called, Call.bootstrapLease])
        (bootstrapSucceeds_of_owned called ends stored sameId owned) row stored sameId
    next => trivial
  · intro along
    constructor
    · rintro before request rest rfl carried carries succeeded row stored sameId
      obtain ⟨held, heldStored, heldId, -, inTime⟩ := bootstrapHeld_of_succeeds carries succeeded
      rw [← Table.eq_of_key_eq heldStored stored (heldId.trans sameId.symm)]
      exact inTime ((Machine.along_append step).mp along).2.1
    · rintro before request rest rfl earlier later followed sameRow carried carries sameToken
      exact bootstrap_token_fence fresh followed sameRow carries sameToken

/-- A run in which the first bootstrap waits for a worker. -/
def bootstrapQueued : List Request :=
  [⟨0, .ledger (.createRun "airflow" "run-1" .snapshot .zero .zero "1" 0)⟩,
    ⟨1, .ledger (.submitBatch "tr_1" "airflow" "batch-1" ⟨"C4_RAW_02", .ordinaryTransform, []⟩
      .zero "a" 1)⟩,
    ⟨2, .ledger (.transition "be_a" .queued none none 2)⟩,
    ⟨3, .queue (.claim "worker-1" "token-1" 30 [])⟩,
    ⟨4, .queue (.finish "be_a" "worker-1" "token-1" .succeeded (some .passed) none)⟩,
    ⟨5, .ledger (.submitProtectedBootstrap "tr_1" "airflow" "bootstrap-1"
      ⟨"initial_token_link_creation", 1, .restrictedIdentityTransform, "C4_RAW_02"⟩ "b" 5)⟩,
    ⟨6, .ledger (.queueProtectedBootstrap "be_b" 6)⟩]

/-- The first worker stalls, the bootstrap is reconciled by a second one, and the
first comes back with its old token. -/
def stalledBootstrap : List Request :=
  bootstrapQueued ++
    [⟨7, .bootstrap (.claim "worker-1" "token-2" 30 [])⟩,
      ⟨seconds 31, .bootstrap (.reconcileExpired [])⟩,
      ⟨seconds 32, .bootstrap (.requestReconcile "be_b")⟩,
      ⟨seconds 33, .bootstrap (.claim "worker-2" "token-3" 30 [])⟩,
      ⟨seconds 34, .bootstrap (.finish "be_b" "worker-1" "token-2" .succeeded .published none)⟩,
      ⟨seconds 35, .bootstrap (.finish "be_b" "worker-2" "token-3" .succeeded .published none)⟩]

theorem stalledBootstrap_safe :
    bootstrapLeases stalledBootstrap =
        [⟨"be_b", "worker-1", "token-2"⟩, ⟨"be_b", "worker-2", "token-3"⟩] ∧
      BootstrapLeaseSafe stalledBootstrap :=
  ⟨by decide +kernel,
    (bootstrap_leases_safe_iff stalledBootstrap (by decide)).mpr (by decide +kernel)⟩

/-- The lease of 30 seconds has expired when its holder finishes. -/
def finishedLate : List Request :=
  bootstrapQueued ++
    [⟨7, .bootstrap (.claim "worker-1" "token-2" 30 [])⟩,
      ⟨seconds 31, .bootstrap (.finish "be_b" "worker-1" "token-2" .succeeded .published none)⟩]

theorem finishedLate_not_safe :
    ClockMonotone finishedLate ∧ FreshBootstrapTokens finishedLate ∧
      ¬ BootstrapLeaseSafe finishedLate := by
  refine ⟨by decide, by decide, fun safe => ?_⟩
  have late := safe.in_time (finishedLate.take 8) _ [] rfl ⟨"be_b", "worker-1", "token-2"⟩ rfl
    (by decide +kernel)
  revert late
  decide +kernel

end PaymentsPlatform.TransformRuntime
