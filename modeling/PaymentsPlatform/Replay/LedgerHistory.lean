import PaymentsPlatform.Replay.Ledger

/-!
# What becomes of a replay

Every call takes the ledger from one state to the next as its `contract` says, however the
statements of the connections interleave.
-/

namespace PaymentsPlatform.Replay

open Relational Transactional Database

variable (sha256 : Sha256)

/-- The columns that `transition` assigns. -/
def LedgerRow.advanced (newStatus : ReplayStatus) (resultCode : Option String) (now : String)
    (row : LedgerRow) : LedgerRow :=
  row.assigned newStatus (if newStatus = .inProgress then some now else none)
    (if newStatus ∈ ReplayStatus.completing then some now else none) resultCode

/-- What a call does to `replay_ledger`, by what it returns. -/
def contract : Call → Except Raised (Option String) → Database → Database → Prop
  | _, .error _, before, after => after.replayLedger = before.replayLedger
  | .reserve request _ requestedAt _, .ok returned, before, after =>
      returned = some (request.identity sha256) ∧
        before.replayLedger.insert? (fun stored => stored.replayRequestId = request.replayRequestId)
          (request.ledgerRow (request.identity sha256) requestedAt) = some after.replayLedger
  | .transition replayIdentity newStatus resultCode now, .ok _, before, after =>
      ∃ row, before.replayLedger.lookup replayIdentity = some row ∧
        newStatus ∈ row.replayStatus.allowedTransitions ∧
        after.replayLedger = before.replayLedger.replace (row.advanced newStatus resultCode now)

theorem insertLedger_inserted {database changed : Database} {row : LedgerRow}
    (inserted : database.insertLedger row = some changed) :
    database.replayLedger.insert? (fun stored => stored.replayRequestId = row.replayRequestId) row =
      some changed.replayLedger := by
  unfold Database.insertLedger at inserted
  split at inserted
  next => cases inserted
  next replayLedger isInserted =>
    split at inserted
    next =>
      cases inserted
      exact isInserted
    next => cases inserted

theorem updateLedger_eq_replace {database : Database} {replayIdentity : String} {row : LedgerRow}
    (found : database.replayLedger.lookup replayIdentity = some row) (newStatus : ReplayStatus)
    (startedAt completedAt resultCode : Option String) :
    (database.updateLedger newStatus startedAt completedAt resultCode replayIdentity).replayLedger =
      database.replayLedger.replace (row.assigned newStatus startedAt completedAt resultCode) := by
  obtain ⟨stored, keyed⟩ := Table.lookup_eq_some.mp found
  have keyKept := LedgerRow.assigned_replayIdentity newStatus startedAt completedAt resultCode
  have sole : ∀ other ∈ database.replayLedger,
      decide (other.replayIdentity = replayIdentity) = true →
        other.replayIdentity = row.replayIdentity := by
    intro other _ met
    rw [keyed]
    simpa using met
  exact @Table.update_eq_replace _ _ _ _ database.replayLedger _ _ keyKept row stored
    (by simpa using keyed) sole

section Raising

variable {post : Except Raised (Option String) → Database → Database → Prop}
  (unchanged : ∀ raised database, post (.error raised) database database)

include unchanged

theorem rollbackAndRaise_meets {α : Type} (returned : α → Option String) (raised : Raised)
    (phase : Option (Database × Database)) :
    Meets sqlite post (returned <$> rollbackAndRaise raised : Session (Option String)) phase := by
  cases phase with
  | none => exact unchanged raised
  | some phase =>
      intro reply
      cases reply with
      | ok rows => exact Or.inl (unchanged raised)
      | error failed => exact Or.inl (unchanged failed)

theorem reserveFailed_meets (raised : Raised) (phase : Option (Database × Database)) :
    Meets sqlite post (some <$> reserveFailed raised : Session (Option String)) phase := by
  cases raised with
  | integrityError =>
      cases phase with
      | none =>
          intro failed
          cases failed <;> exact unchanged _
      | some phase =>
          intro reply
          rcases reply with
            failed | rows
          · cases failed <;> exact Or.inl (unchanged _)
          · exact Or.inl (unchanged _)
  | valueError text => exact rollbackAndRaise_meets unchanged some _ phase
  | permissionError text => exact rollbackAndRaise_meets unchanged some _ phase
  | keyError text => exact rollbackAndRaise_meets unchanged some _ phase
  | runtimeError text => exact rollbackAndRaise_meets unchanged some _ phase
  | sqliteError text => exact rollbackAndRaise_meets unchanged some _ phase
  | other text => exact rollbackAndRaise_meets unchanged some _ phase

theorem reserve_troubled (found working : Database) (raised : Raised) :
    Meets sqlite post (some <$> reserveFailed raised : Session (Option String))
        (some (found, working)) ∧
      Meets sqlite post (some <$> reserveFailed raised : Session (Option String)) none :=
  ⟨reserveFailed_meets unchanged raised _, reserveFailed_meets unchanged raised _⟩

theorem transition_troubled (found working : Database) (raised : Raised) :
    Meets sqlite post ((fun _ => none) <$> (rollbackAndRaise raised : Session Unit) :
        Session (Option String)) (some (found, working)) ∧
      Meets sqlite post ((fun _ => none) <$> (rollbackAndRaise raised : Session Unit) :
        Session (Option String)) none :=
  ⟨rollbackAndRaise_meets unchanged _ raised _, rollbackAndRaise_meets unchanged _ raised _⟩

end Raising

theorem reserve_meets (request : ReplayRequest) (extraMetadata : Option (List String))
    (requestedAt attemptedAt : String) :
    Meets sqlite (contract sha256 (.reserve request extraMetadata requestedAt attemptedAt))
      (Call.program sha256 (.reserve request extraMetadata requestedAt attemptedAt)) none := by
  have unchanged : ∀ raised database,
      contract sha256 (.reserve request extraMetadata requestedAt attemptedAt) (.error raised)
        database database := fun _ _ => rfl
  have troubled := reserve_troubled unchanged
  simp only [Call.program, Replay.reserve]
  cases validateRequest request with
  | error raised => exact unchanged raised
  | ok valid =>
      cases rejectProhibitedMetadata (extraMetadata.getD []) with
      | error raised => exact unchanged raised
      | ok clean =>
          refine And.intro (fun raised => reserveFailed_meets unchanged raised none)
            fun found => And.intro (troubled found found) ?_
          intro working statuses selected
          cases selected
          cases existing : found.replayLedger.lookup (request.identity sha256) with
          | some row =>
              refine And.intro (troubled found found) ?_
              intro recorded rows inserted
              cases inserted
              -- the attempt is committed and the call raises all the same
              exact And.intro (troubled found _)
                ⟨.error (.runtimeError "duplicate replay suppressed"), rfl, rfl⟩
          | none =>
              refine And.intro (troubled found found) ?_
              intro reserved rows inserted
              have isReserved : found.replayLedger.insert?
                  (fun stored => stored.replayRequestId = request.replayRequestId)
                  (request.ledgerRow (request.identity sha256) requestedAt) =
                    some reserved.replayLedger := by
                simp only [sqlite, Database.perform] at inserted
                split at inserted
                next changed isInserted =>
                  cases inserted
                  exact insertLedger_inserted isInserted
                next => cases inserted
              refine And.intro (troubled found reserved) ?_
              intro recorded rows attempted
              cases attempted
              exact And.intro (troubled found _)
                ⟨.ok (some (request.identity sha256)), rfl, rfl, isReserved⟩

theorem transition_meets (replayIdentity : String) (newStatus : ReplayStatus)
    (resultCode : Option String) (now : String) :
    Meets sqlite (contract sha256 (.transition replayIdentity newStatus resultCode now))
      (Call.program sha256 (.transition replayIdentity newStatus resultCode now)) none := by
  have unchanged : ∀ raised database,
      contract sha256 (.transition replayIdentity newStatus resultCode now) (.error raised)
        database database := fun _ _ => rfl
  have troubled := transition_troubled unchanged
  refine And.intro (fun raised => unchanged raised) fun found => And.intro (troubled found found) ?_
  intro working statuses selected
  cases selected
  cases existing : found.replayLedger.lookup replayIdentity with
  | none => 
      exact (troubled found found (.keyError "replay identity not found")).1
  | some row =>
      change Meets sqlite _ ((fun _ => none) <$> tryCatch
        (assignStatus replayIdentity newStatus resultCode now row.replayStatus) rollbackAndRaise :
          Session (Option String)) _
      unfold assignStatus
      split
      next refused => exact (troubled found found (.valueError _)).1
      next allowed =>
        refine And.intro (troubled found found) ?_
        intro changed rows updated
        cases updated
        refine And.intro (troubled found _) ⟨.ok none, rfl, row, existing, not_not.mp allowed, ?_⟩
        exact updateLedger_eq_replace existing newStatus _ _ resultCode

theorem call_meets (call : Call) :
    Meets sqlite (contract sha256 call) (call.program sha256) none := by
  cases call with
  | reserve request extraMetadata requestedAt attemptedAt =>
      exact reserve_meets sha256 request extraMetadata requestedAt attemptedAt
  | transition replayIdentity newStatus resultCode now =>
      exact transition_meets sha256 replayIdentity newStatus resultCode now

/-! ## One call -/

/-- What a call can make of the row of an identity. -/
inductive RowStep : Option LedgerRow → Option LedgerRow → Prop where
  | unchanged (row : Option LedgerRow) : RowStep row row
  | reserved (request : ReplayRequest) (identity requestedAt : String) :
      RowStep none (some (request.ledgerRow identity requestedAt))
  | advanced (row : LedgerRow) (newStatus : ReplayStatus) (resultCode : Option String)
      (now : String) (allowed : newStatus ∈ row.replayStatus.allowedTransitions) :
      RowStep (some row) (some (row.advanced newStatus resultCode now))

variable {sha256} {call : Call} {result : Except Raised (Option String)} {before after : Database}

theorem rowStep_of_contract (kept : contract sha256 call result before after)
    (identity : String) :
    RowStep (before.replayLedger.lookup identity) (after.replayLedger.lookup identity) := by
  cases result with
  | error raised =>
      have same : after.replayLedger = before.replayLedger := by
        cases call <;> exact kept
      rw [same]
      exact .unchanged _
  | ok returned =>
      cases call with
      | reserve request extraMetadata requestedAt attemptedAt =>
          obtain ⟨-, inserted⟩ := kept
          rw [Table.lookup_insert inserted]
          split
          next same =>
            have free : before.replayLedger.lookup identity = none := by
              rw [Table.lookup_eq_none, ← same]
              exact (Table.insert?_eq_some.mp inserted).1
            rw [free]
            exact .reserved request _ requestedAt
          next => exact .unchanged _
      | transition replayIdentity newStatus resultCode now =>
          obtain ⟨row, found, allowed, replaced⟩ := kept
          have keyed := (Table.lookup_eq_some.mp found).2
          rw [replaced, Table.lookup_replace]
          split
          next same =>
            have isIdentity : replayIdentity = identity := keyed.symm.trans same
            rw [← isIdentity, found]
            exact .advanced row newStatus resultCode now allowed
          next => exact .unchanged _

/-! ## The columns of a row -/

namespace Database

def statusOf (database : Database) (identity : String) : Option ReplayStatus :=
  (database.replayLedger.lookup identity).map LedgerRow.replayStatus

def startedAt (database : Database) (identity : String) : Option String :=
  (database.replayLedger.lookup identity).bind LedgerRow.startedAt

def completedAt (database : Database) (identity : String) : Option String :=
  (database.replayLedger.lookup identity).bind LedgerRow.completedAt

end Database

namespace ReplayStatus

variable {status next : ReplayStatus}

theorem allowed_ne (allowed : next ∈ status.allowedTransitions) : next ≠ status := by
  rintro rfl
  cases next <;> simp [allowedTransitions] at allowed

theorem allowed_not_completing (allowed : next ∈ status.allowedTransitions) :
    status ∉ completing := by
  cases status <;> simp_all [allowedTransitions, completing]

/-- The statuses from `IN_PROGRESS` on. -/
def started : List ReplayStatus := [inProgress, succeeded, failed]

theorem allowed_started (allowed : next ∈ status.allowedTransitions) :
    next ∈ started ↔ next = inProgress ∨ status ∈ started := by
  cases status <;> simp only [allowedTransitions, List.mem_cons, List.not_mem_nil, or_false] at allowed
  all_goals rcases allowed with
    rfl | rfl | rfl
  all_goals simp [started]

theorem inProgress_not_started (allowed : inProgress ∈ status.allowedTransitions) :
    status ∉ started := by
  cases status <;> simp_all [allowedTransitions, started]

end ReplayStatus

/-- The times are set in the statuses that set them and in what follows these. -/
structure LedgerRow.Stamped (row : LedgerRow) : Prop where
  started : row.startedAt.isSome ↔ row.replayStatus ∈ ReplayStatus.started
  completed : row.completedAt.isSome ↔ row.replayStatus ∈ ReplayStatus.completing

namespace LedgerRow

theorem ledgerRow_stamped (request : ReplayRequest) (identity requestedAt : String) :
    (request.ledgerRow identity requestedAt).Stamped where
  started := by simp [ReplayRequest.ledgerRow, ReplayStatus.started]
  completed := by simp [ReplayRequest.ledgerRow, ReplayStatus.completing]

variable {row : LedgerRow} {newStatus : ReplayStatus} {resultCode : Option String} {now : String}

@[simp]
theorem advanced_replayStatus :
    (row.advanced newStatus resultCode now).replayStatus = newStatus := rfl

theorem advanced_startedAt : (row.advanced newStatus resultCode now).startedAt =
    if newStatus = .inProgress then some now else row.startedAt := by
  simp only [advanced, assigned]
  split <;> rfl

theorem advanced_completedAt : (row.advanced newStatus resultCode now).completedAt =
    if newStatus ∈ ReplayStatus.completing then some now else row.completedAt := by
  simp only [advanced, assigned]
  split <;> rfl

theorem Stamped.advanced (stamped : row.Stamped)
    (allowed : newStatus ∈ row.replayStatus.allowedTransitions) :
    (row.advanced newStatus resultCode now).Stamped where
  started := by
    rw [advanced_replayStatus, ReplayStatus.allowed_started allowed, ← stamped.started,
      advanced_startedAt]
    by_cases entered : newStatus = .inProgress <;> simp [entered]
  completed := by
    have incomplete := ReplayStatus.allowed_not_completing allowed
    have unset := mt stamped.completed.mp incomplete
    rw [advanced_replayStatus, advanced_completedAt]
    by_cases entered : newStatus ∈ ReplayStatus.completing <;> simp [entered, unset]

end LedgerRow

/-- Every row has its times as its status says. -/
def Database.Stamped (database : Database) : Prop :=
  ∀ identity row, database.replayLedger.lookup identity = some row → row.Stamped

theorem stamped_of_contract (kept : contract sha256 call result before after)
    (stamped : before.Stamped) : after.Stamped := by
  intro identity row found
  have step := rowStep_of_contract kept identity
  rw [found] at step
  generalize isOld : before.replayLedger.lookup identity = old at step
  cases step with
  | unchanged => exact stamped identity row isOld
  | reserved request identity requestedAt => exact LedgerRow.ledgerRow_stamped request _ _
  | advanced old newStatus resultCode now allowed =>
      exact (stamped identity old isOld).advanced allowed

/-! ## Many calls -/

variable {Connection : Type}

/-- A call that is done. -/
abbrev Done (Connection : Type) :=
  Finished Database (Except Raised (Option String)) Connection Call

/-- The status that the row of the identity has entered with the call. -/
def statusReached (identity : String) (entry : Done Connection) : Option ReplayStatus :=
  if entry.after.statusOf identity = entry.before.statusOf identity then none
  else entry.after.statusOf identity

def statusHistory (identity : String) (calls : List (Done Connection)) : List ReplayStatus :=
  calls.filterMap (statusReached identity)

/-- The request that the call has reserved a replay for. -/
def reserved (entry : Done Connection) : Option ReplayRequest :=
  match entry.call, entry.result with
  | .reserve request _ _ _, .ok _ => some request
  | _, _ => none

/-- `(source_topic, source_partition, source_offset, target_topic)`. -/
def ReplayRequest.coordinates (request : ReplayRequest) :
    String × Option Int × Option Int × String :=
  (request.sourceTopic, request.sourcePartition, request.sourceOffset, request.targetTopic)

/-- The first status is `REQUESTED`, another one follows by `ALLOWED_TRANSITIONS`. -/
def Allowed : Option ReplayStatus → ReplayStatus → Prop
  | none, next => next = .requested
  | some status, next => next ∈ status.allowedTransitions

/-- The statuses lead from the one to the other, each allowed after the one before it. -/
def IsPath : Option ReplayStatus → List ReplayStatus → Option ReplayStatus → Prop
  | first, [], last => last = first
  | first, next :: rest, last => Allowed first next ∧ IsPath (some next) rest last

/-- The call sets the column where it brings the row into one of the statuses, and nowhere else. -/
def SetOnEntering (column : Database → String → Option String) (statuses : List ReplayStatus)
    (identity : String) (entry : Done Connection) : Prop :=
  if ∃ status ∈ statusReached identity entry, status ∈ statuses then
    column entry.before identity = none ∧ (column entry.after identity).isSome
  else column entry.after identity = column entry.before identity

namespace ReplayStatus

/-- How far a status is from `REQUESTED`. -/
def rank : ReplayStatus → Nat
  | requested => 0
  | approved => 1
  | inProgress => 2
  | _ => 3

theorem rank_lt {status next : ReplayStatus} (allowed : next ∈ status.allowedTransitions) :
    status.rank < next.rank := by
  cases status <;> simp only [allowedTransitions, List.mem_cons, List.not_mem_nil, or_false] at allowed
  all_goals rcases allowed with
    rfl | rfl | rfl
  all_goals simp [rank]

end ReplayStatus

theorem IsPath.rank_lt {status : ReplayStatus} {history : List ReplayStatus}
    {last : Option ReplayStatus} (path : IsPath (some status) history last) :
    ∀ later ∈ history, status.rank < later.rank := by
  induction history generalizing status with
  | nil => simp
  | cons next rest ih =>
      obtain ⟨allowed, path⟩ := path
      have first := ReplayStatus.rank_lt allowed
      intro later listed
      rcases List.mem_cons.mp listed with
        rfl | inRest
      · exact first
      · exact first.trans (ih path later inRest)

theorem IsPath.nodup {first : Option ReplayStatus} {history : List ReplayStatus}
    {last : Option ReplayStatus} (path : IsPath first history last) : history.Nodup := by
  induction history generalizing first with
  | nil => exact List.nodup_nil
  | cons next rest ih =>
      rw [List.nodup_cons]
      refine ⟨?_, ih path.2⟩
      intro again
      exact (path.2.rank_lt next again).false

theorem IsPath.completing_last {first last : Option ReplayStatus} {status : ReplayStatus}
    {earlier later : List ReplayStatus} (path : IsPath first (earlier ++ status :: later) last)
    (completing : status ∈ ReplayStatus.completing) : later = [] := by
  induction earlier generalizing first with
  | nil =>
      cases later with
      | nil => rfl
      | cons next later => exact absurd completing (ReplayStatus.allowed_not_completing path.2.1)
  | cons next earlier ih => exact ih path.2

section OneCall

variable {entry : Done Connection} (kept : contract sha256 entry.call entry.result entry.before entry.after)
  (identity : String)

include kept

theorem statusReached_cases :
    (statusReached identity entry = none ∧
        entry.after.statusOf identity = entry.before.statusOf identity) ∨
      ∃ next, statusReached identity entry = some next ∧
        entry.after.statusOf identity = some next ∧
        Allowed (entry.before.statusOf identity) next := by
  have step := rowStep_of_contract kept identity
  unfold statusReached Database.statusOf
  generalize entry.before.replayLedger.lookup identity = old at step ⊢
  generalize entry.after.replayLedger.lookup identity = new at step ⊢
  cases step with
  | unchanged => simp
  | reserved request identity requestedAt =>
      right
      exact ⟨.requested, by simp [ReplayRequest.ledgerRow], rfl, rfl⟩
  | advanced row newStatus resultCode now allowed =>
      right
      exact ⟨newStatus, by simp [ReplayStatus.allowed_ne allowed], rfl, allowed⟩

theorem startedAt_set (stamped : entry.before.Stamped) :
    SetOnEntering Database.startedAt [.inProgress] identity entry := by
  have step := rowStep_of_contract kept identity
  have known := stamped identity
  unfold SetOnEntering statusReached Database.statusOf Database.startedAt
  generalize entry.before.replayLedger.lookup identity = old at step known ⊢
  generalize entry.after.replayLedger.lookup identity = new at step ⊢
  cases step with
  | unchanged => simp
  | reserved request identity requestedAt => simp [ReplayRequest.ledgerRow]
  | advanced row newStatus resultCode now allowed =>
      have changed := ReplayStatus.allowed_ne allowed
      by_cases entered : newStatus = .inProgress
      · subst entered
        have unset := mt (known row rfl).started.mp (ReplayStatus.inProgress_not_started allowed)
        simp [changed, LedgerRow.advanced_startedAt, Option.not_isSome_iff_eq_none.mp unset]
      · simp [changed, entered, LedgerRow.advanced_startedAt]

theorem completedAt_set (stamped : entry.before.Stamped) :
    SetOnEntering Database.completedAt ReplayStatus.completing identity entry := by
  have step := rowStep_of_contract kept identity
  have known := stamped identity
  unfold SetOnEntering statusReached Database.statusOf Database.completedAt
  generalize entry.before.replayLedger.lookup identity = old at step known ⊢
  generalize entry.after.replayLedger.lookup identity = new at step ⊢
  cases step with
  | unchanged => simp
  | reserved request identity requestedAt =>
      simp [ReplayRequest.ledgerRow, ReplayStatus.completing]
  | advanced row newStatus resultCode now allowed =>
      have changed := ReplayStatus.allowed_ne allowed
      have unset := mt (known row rfl).completed.mp (ReplayStatus.allowed_not_completing allowed)
      by_cases entered : newStatus ∈ ReplayStatus.completing
      · simp [changed, entered, LedgerRow.advanced_completedAt,
          Option.not_isSome_iff_eq_none.mp unset]
      · simp [changed, entered, LedgerRow.advanced_completedAt]

end OneCall

section Series

variable {first last : Database} {calls : List (Done Connection)}

theorem isPath_of_serial (serial : Serial first calls last)
    (kept : ∀ entry ∈ calls, entry.Kept (contract sha256)) (identity : String) :
    IsPath (first.statusOf identity) (statusHistory identity calls) (last.statusOf identity) := by
  induction calls generalizing first with
  | nil =>
      cases serial
      rfl
  | cons entry rest ih =>
      obtain ⟨rfl, later⟩ := serial
      have path := ih later
        fun other listed => kept other (List.mem_cons_of_mem _ listed)
      unfold statusHistory at path ⊢
      rw [List.filterMap_cons]
      rcases statusReached_cases (kept entry List.mem_cons_self).contract identity with
        ⟨silent, same⟩ | ⟨next, entered, now, allowed⟩
      · rw [silent]
        rwa [same] at path
      · rw [entered]
        rw [now] at path
        exact ⟨allowed, path⟩

theorem column_kept {Column : Type} (column : LedgerRow → Column)
    (assigned : ∀ row newStatus resultCode now,
      column (LedgerRow.advanced newStatus resultCode now row) = column row)
    (kept : contract sha256 call result before after) {row : LedgerRow}
    (stored : row ∈ before.replayLedger) : ∃ kept ∈ after.replayLedger, column kept = column row := by
  cases result with
  | error raised =>
      have same : after.replayLedger = before.replayLedger := by
        cases call <;> exact kept
      exact ⟨row, same ▸ stored, rfl⟩
  | ok returned =>
      cases call with
      | reserve request extraMetadata requestedAt attemptedAt =>
          exact ⟨row, (Table.mem_insert kept.2).mpr (Or.inl stored), rfl⟩
      | transition replayIdentity newStatus resultCode now =>
          obtain ⟨current, found, -, replaced⟩ := kept
          obtain ⟨currentStored, -⟩ := Table.lookup_eq_some.mp found
          rw [replaced]
          by_cases same : row.replayIdentity = current.replayIdentity
          · have isCurrent := Table.eq_of_key_eq stored currentStored same
            refine ⟨current.advanced newStatus resultCode now, ?_, ?_⟩
            · exact Table.mem_replace.mpr (Or.inr ⟨rfl, current, currentStored, rfl⟩)
            · rw [assigned, isCurrent]
          · exact ⟨row, Table.mem_replace.mpr (Or.inl ⟨stored, same⟩), rfl⟩

/-- A column that the calls leave alone and that is free where a row is inserted has each value
reserved once. -/
theorem reserved_once {Column : Type} (column : LedgerRow → Column)
    (label : ReplayRequest → Column)
    (assigned : ∀ row newStatus resultCode now,
      column (LedgerRow.advanced newStatus resultCode now row) = column row)
    (labelled : ∀ request requestedAt,
      column (ReplayRequest.ledgerRow request (request.identity sha256) requestedAt) = label request)
    (free : ∀ {request : ReplayRequest} {requestedAt : String}
      {table changed : Table LedgerRow.replayIdentity},
      table.insert? (fun stored => stored.replayRequestId = request.replayRequestId)
        (request.ledgerRow (request.identity sha256) requestedAt) = some changed →
      ∀ row ∈ table, column row ≠ label request)
    (serial : Serial first calls last) (kept : ∀ entry ∈ calls, entry.Kept (contract sha256)) :
    ((calls.filterMap reserved).map label).Nodup ∧
      ∀ request ∈ calls.filterMap reserved, ∀ row ∈ first.replayLedger,
        column row ≠ label request := by
  induction calls generalizing first with
  | nil => simp
  | cons entry rest ih =>
      obtain ⟨rfl, later⟩ := serial
      have keptNow := (kept entry List.mem_cons_self).contract
      obtain ⟨nodup, fresh⟩ := ih later
        fun other listed => kept other (List.mem_cons_of_mem _ listed)
      have freshBefore : ∀ request ∈ rest.filterMap reserved,
          ∀ row ∈ entry.before.replayLedger, column row ≠ label request := by
        intro request listed row stored
        obtain ⟨stays, stored, same⟩ := column_kept column assigned keptNow stored
        rw [← same]
        exact fresh request listed stays stored
      obtain ⟨connection, call, result, before, after, inTransaction⟩ := entry
      cases call with
      | transition replayIdentity newStatus resultCode now => exact ⟨nodup, freshBefore⟩
      | reserve request extraMetadata requestedAt attemptedAt =>
          cases result with
          | error raised => exact ⟨nodup, freshBefore⟩
          | ok returned =>
              have inserted := keptNow.2
              have stored : request.ledgerRow (request.identity sha256) requestedAt ∈
                  after.replayLedger := (Table.mem_insert inserted).mpr (Or.inr rfl)
              refine ⟨List.nodup_cons.mpr ⟨?_, nodup⟩,
                List.forall_mem_cons.mpr ⟨free inserted, freshBefore⟩⟩
              intro again
              obtain ⟨other, listed, same⟩ := List.mem_map.mp again
              exact fresh other listed _ stored ((labelled request requestedAt).trans same.symm)

end Series

/-! ## Any interleaving -/

section Interleaving

variable [DecidableEq Connection] (sha256)

/-- The statements of calls on any connections, in any order, from an empty ledger. -/
def reached (actions : List (Action Raised Connection Call)) :
    World Database Statement ReplayStatus Raised (Except Raised (Option String)) Connection Call :=
  Machine.run (step sqlite (Call.program sha256)) (.initial .empty) actions

/-- The calls that are done, in the order of their last statements. -/
def finished (actions : List (Action Raised Connection Call)) : List (Done Connection) :=
  Machine.log (step sqlite (Call.program sha256)) (report sqlite (Call.program sha256))
    (.initial .empty) actions

/-- What the ledger promises of a run. -/
structure LedgerSafe (actions : List (Action Raised Connection Call)) : Prop where
  /-- Only calls that are done have changed what is stored. -/
  serial : Serial .empty (finished sha256 actions) (reached sha256 actions).stored
  coordinatesOnce :
    (((finished sha256 actions).filterMap reserved).map ReplayRequest.coordinates).Nodup
  requestOnce :
    (((finished sha256 actions).filterMap reserved).map ReplayRequest.replayRequestId).Nodup
  path : ∀ identity, IsPath none (statusHistory identity (finished sha256 actions))
    ((reached sha256 actions).stored.statusOf identity)
  inProgressOnce : ∀ identity,
    (statusHistory identity (finished sha256 actions)).count .inProgress ≤ 1
  completedStays : ∀ identity earlier status later,
    statusHistory identity (finished sha256 actions) = earlier ++ status :: later →
      status ∈ ReplayStatus.completing → later = []
  startedAt : ∀ entry ∈ finished sha256 actions, ∀ identity,
    SetOnEntering Database.startedAt [.inProgress] identity entry
  completedAt : ∀ entry ∈ finished sha256 actions, ∀ identity,
    SetOnEntering Database.completedAt ReplayStatus.completing identity entry
  raisedUnchanged : ∀ entry ∈ finished sha256 actions, ∀ raised, entry.result = .error raised →
    entry.after.replayLedger = entry.before.replayLedger
  closed : ∀ entry ∈ finished sha256 actions, entry.inTransaction = false
  /-- A transaction that is open belongs to a call under way. -/
  openUnderWay : ∀ connection database,
    (reached sha256 actions).opened = some (connection, database) →
      ((reached sha256 actions).calls connection).isSome

theorem replayLedger_safe (actions : List (Action Raised Connection Call)) :
    LedgerSafe sha256 actions := by
  have upheld : Upheld sqlite (contract sha256) Database.empty (reached sha256 actions)
      (finished sha256 actions) := run_serial (call_meets sha256) Database.empty actions
  have stampedBefore := (upheld.serial.invariant
    (fun entry listed => stamped_of_contract (upheld.kept entry listed).contract)
    (fun identity row found => by simp [Database.empty] at found)).1
  have path : ∀ identity, IsPath none (statusHistory identity (finished sha256 actions))
      ((reached sha256 actions).stored.statusOf identity) :=
    isPath_of_serial upheld.serial upheld.kept
  have identities := (reserved_once LedgerRow.replayIdentity (ReplayRequest.identity sha256)
    (fun _ _ _ _ => rfl) (fun _ _ => rfl)
    (fun inserted => (Table.insert?_eq_some.mp inserted).1) upheld.serial upheld.kept).1
  have requests := (reserved_once LedgerRow.replayRequestId ReplayRequest.replayRequestId
    (fun _ _ _ _ => rfl) (fun _ _ => rfl)
    (fun inserted row stored => by simpa using (Table.insert?_eq_some.mp inserted).2.1 row stored)
    upheld.serial upheld.kept).1
  refine ⟨upheld.serial, ?_, requests, path, ?_, ?_, ?_, ?_, ?_, ?_, upheld.sound.held⟩
  · -- one identity for equal coordinates is all that is asked of the digest
    apply List.Nodup.of_map fun coordinates => canonicalReplayIdentity sha256 coordinates.1
      coordinates.2.1 coordinates.2.2.1 coordinates.2.2.2
    rw [List.map_map]
    exact identities
  · intro identity
    exact List.nodup_iff_count_le_one.mp (path identity).nodup _
  · intro identity earlier status later split
    exact (split ▸ path identity).completing_last
  · intro entry listed identity
    exact startedAt_set (upheld.kept entry listed).contract identity (stampedBefore entry listed)
  · intro entry listed identity
    exact completedAt_set (upheld.kept entry listed).contract identity (stampedBefore entry listed)
  · intro entry listed raised isRaised
    have kept := (upheld.kept entry listed).contract
    rw [isRaised] at kept
    cases isCall : entry.call <;> rw [isCall] at kept <;> exact kept
  · intro entry listed
    exact (upheld.kept entry listed).closed

end Interleaving

end PaymentsPlatform.Replay
