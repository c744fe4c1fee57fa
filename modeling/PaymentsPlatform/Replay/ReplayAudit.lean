import PaymentsPlatform.Library.Replies
import PaymentsPlatform.Replay.LedgerHistory

/-!
# The audit of replays

A replay of coordinates that are reserved is suppressed inside the transaction of `reserve`, and
recorded.  A replay with a request id that is reserved for other coordinates is suppressed by a
constraint, and the rollback leaves nothing to record it.
-/

namespace PaymentsPlatform.Replay

open Relational Transactional Database

variable (sha256 : Sha256)

/-- The row that a call leaves in `replay_attempts`. -/
def attempt : Call → Except Raised (Option String) → Option AttemptRow
  | .reserve request _ _ attemptedAt, .ok _ =>
      some (request.attemptRow (request.identity sha256) attemptedAt .requested "RESERVED")
  | .reserve request _ _ attemptedAt, .error raised =>
      if raised = .runtimeError "duplicate replay suppressed" then
        some (request.attemptRow (request.identity sha256) attemptedAt .suppressedDuplicate
          "PRIOR_RESERVATION_EXISTS")
      else none
  | .transition _ _ _ _, _ => none

/-- A call that would reserve its coordinates finds its request id free. -/
def Unclaimed (call : Call) (database : Database) : Prop :=
  match call with
  | .reserve request extraMetadata _ _ =>
      validateRequest request = .ok () →
        rejectProhibitedMetadata (extraMetadata.getD []) = .ok () →
        database.replayLedger.lookup (request.identity sha256) = none →
        ∀ row ∈ database.replayLedger.rows, row.replayRequestId ≠ request.replayRequestId
  | .transition _ _ _ _ => True

instance (call : Call) (database : Database) : Decidable (Unclaimed sha256 call database) :=
  match call with
  | .reserve request extraMetadata _ _ =>
      inferInstanceAs (Decidable (validateRequest request = .ok () →
        rejectProhibitedMetadata (extraMetadata.getD []) = .ok () →
        database.replayLedger.lookup (request.identity sha256) = none →
        ∀ row ∈ database.replayLedger.rows, row.replayRequestId ≠ request.replayRequestId))
  | .transition _ _ _ _ => inferInstanceAs (Decidable True)

/-! ## SQLite without foreign troubles -/

/-- SQLite, with the violation of a constraint as a reply of its own. -/
def constrained : Engine Database Statement (Option ReplayStatus) String where
  perform statement database :=
    match Database.perform statement database with
    | .ok (changed, rows) => .ok (changed, rows.map some)
    | .error _ => .ok (database, [none])
  busy := "database is locked"
  nested := "cannot start a transaction within a transaction"
  noCommit := "cannot commit - no transaction is active"
  noRollback := "cannot rollback - no transaction is active"

/-- The exceptions of `sqlite3`. -/
def heard : Except String (List (Option ReplayStatus)) → Except Raised (List ReplayStatus)
  | .error text => .error (.sqliteError text)
  | .ok rows => if none ∈ rows then .error .integrityError else .ok (rows.filterMap id)

theorem heard_error {reply : Except String (List (Option ReplayStatus))} {raised : Raised}
    (isHeard : heard reply = .error raised) :
    raised = .integrityError ∨ ∃ text, raised = .sqliteError text := by
  rcases reply with text | rows
  · cases isHeard
    exact Or.inr ⟨text, rfl⟩
  · simp only [heard] at isHeard
    split at isHeard
    next =>
      cases isHeard
      exact Or.inl rfl
    next => cases isHeard

theorem error_perform {statement : Statement} {database : Database} {raised : Raised}
    (failed : Database.perform statement database = .error raised) : raised = .integrityError := by
  cases statement with
  | insertLedger row =>
      simp only [Database.perform] at failed
      split at failed
      next => cases failed
      next =>
        cases failed
        rfl
  | selectStatus replayIdentity => cases failed
  | insertAttempt row => cases failed
  | updateLedger newStatus startedAt completedAt resultCode replayIdentity => cases failed

theorem constrained_speaks : Speaks sqlite constrained heard Raised.sqliteError where
  error _ := rfl
  nothing := rfl
  busy := rfl
  nested := rfl
  noCommit := rfl
  noRollback := rfl
  answer statement database := by
    simp only [Engine.answer, sqlite, constrained]
    cases performed : Database.perform statement database with
    | ok answered => simp [heard]
    | error raised => simp [heard, error_perform performed]

/-- SQLite itself meets the calls with operational errors only. -/
def operational {Connection : Type} :
    Action String Connection Call → Action Raised Connection Call :=
  Action.translate Raised.sqliteError

/-- What a call leaves in `replay_attempts`. -/
def auditContract (call : Call) (result : Except Raised (Option String))
    (before after : Database) : Prop :=
  Unclaimed sha256 call before →
    after.replayAttempts = before.replayAttempts ++ (attempt sha256 call result).toList

section Raising

variable {post : Except Raised (Option String) → Database → Database → Prop}

theorem rollbackAndRaise_audited {α : Type} (returned : α → Option String) {raised : Raised}
    (unchanged : ∀ raised, raised ≠ .runtimeError "duplicate replay suppressed" →
      ∀ database, post (.error raised) database database)
    (other : raised ≠ .runtimeError "duplicate replay suppressed")
    (phase : Option (Database × Database)) :
    Meets constrained post
      (Program.translate heard (returned <$> rollbackAndRaise raised : Session (Option String)))
      phase := by
  cases phase with
  | none => exact unchanged raised other
  | some phase =>
      intro reply
      beta_reduce
      cases isHeard : heard reply with
      | ok rows => exact Or.inl (unchanged raised other)
      | error failed =>
          refine Or.inl (unchanged failed ?_)
          rcases heard_error isHeard with rfl | ⟨text, rfl⟩ <;> simp

theorem violation_audited {found working : Database}
    (violated : post (.error (.runtimeError "duplicate replay suppressed")) found found) :
    Meets constrained post
      (Program.translate heard (some <$> reserveFailed .integrityError : Session (Option String)))
      (some (found, working)) := by
  intro reply
  beta_reduce
  cases isHeard : heard reply with
  | ok rows => exact Or.inr ⟨_, rfl, violated⟩
  | error failed =>
      rcases heard_error isHeard with rfl | ⟨text, rfl⟩
      · exact Or.inr ⟨_, rfl, violated⟩
      · exact Or.inr ⟨_, rfl, violated⟩

end Raising

/-! ## Checks before the transaction -/

theorem raised_of_check {condition : Bool} {met raised : Raised} {rest : Except Raised Unit}
    {text : String} (failed : (if condition then .error met else rest) = .error raised)
    (other : met ≠ .runtimeError text)
    (later : rest = .error raised → raised ≠ .runtimeError text) : raised ≠ .runtimeError text := by
  cases condition with
  | true =>
      cases failed
      exact other
  | false => exact later failed

theorem ok_of_check {condition : Bool} {met : Raised} {rest : Except Raised Unit}
    (passed : (if condition then .error met else rest) = .ok ()) :
    condition = false ∧ rest = .ok () := by
  cases condition with
  | true => cases passed
  | false => exact ⟨rfl, passed⟩

theorem validateRequest_raised {request : ReplayRequest} {raised : Raised}
    (invalid : validateRequest request = .error raised) (text : String) :
    raised ≠ .runtimeError text := by
  iterate 10 refine raised_of_check invalid nofun fun invalid => ?_
  cases invalid

theorem complete_of_valid {request : ReplayRequest}
    (valid : validateRequest request = .ok ()) :
    request.sourcePartition.isSome ∧ request.sourceOffset.isSome := by
  obtain ⟨-, valid⟩ := ok_of_check valid
  obtain ⟨-, valid⟩ := ok_of_check valid
  obtain ⟨-, valid⟩ := ok_of_check valid
  obtain ⟨partition, valid⟩ := ok_of_check valid
  obtain ⟨offset, -⟩ := ok_of_check valid
  exact ⟨Option.isNone_eq_false_iff.mp partition, Option.isNone_eq_false_iff.mp offset⟩

theorem rejectProhibitedMetadata_raised {metadata : List String} {raised : Raised}
    (prohibited : rejectProhibitedMetadata metadata = .error raised) (text : String) :
    raised ≠ .runtimeError text := by
  unfold rejectProhibitedMetadata at prohibited
  dsimp only at prohibited
  split at prohibited
  next => cases prohibited
  next =>
    cases prohibited
    nofun

/-! ## What a call leaves -/

variable {sha256}

theorem replayAttempts_of_insertLedger {database changed : Database} {row : LedgerRow}
    (inserted : database.insertLedger row = some changed) :
    changed.replayAttempts = database.replayAttempts := by
  unfold Database.insertLedger at inserted
  split at inserted
  next => cases inserted
  next =>
    split at inserted
    next =>
      cases inserted
      rfl
    next => cases inserted

theorem not_unclaimed_of_violation {request : ReplayRequest} {extraMetadata : Option (List String)}
    {requestedAt attemptedAt : String} {database : Database}
    (valid : validateRequest request = .ok ())
    (clean : rejectProhibitedMetadata (extraMetadata.getD []) = .ok ())
    (absent : database.replayLedger.lookup (request.identity sha256) = none)
    (refused : database.insertLedger (request.ledgerRow (request.identity sha256) requestedAt) =
      none) :
    ¬ Unclaimed sha256 (.reserve request extraMetadata requestedAt attemptedAt) database := by
  intro unclaimed
  have free := Table.lookup_eq_none.mp absent
  have clear : ∀ row ∈ database.replayLedger,
      decide (row.replayRequestId = request.replayRequestId) = false := by
    intro row stored
    exact decide_eq_false (unclaimed valid clean absent row stored)
  obtain ⟨inserted, isInserted⟩ : ∃ inserted, database.replayLedger.insert?
      (fun row => row.replayRequestId = request.replayRequestId)
      (request.ledgerRow (request.identity sha256) requestedAt) = some inserted :=
    Table.insert?_isSome free clear
  have complete : (request.ledgerRow (request.identity sha256) requestedAt).complete = true :=
    Bool.and_eq_true_iff.mpr (complete_of_valid valid)
  unfold Database.insertLedger at refused
  split at refused
  next none => exact absurd (isInserted.symm.trans none) (by simp)
  next =>
    rw [if_pos complete] at refused
    cases refused

variable (sha256)

theorem reserve_audited (request : ReplayRequest) (extraMetadata : Option (List String))
    (requestedAt attemptedAt : String) :
    Meets constrained (auditContract sha256 (.reserve request extraMetadata requestedAt attemptedAt))
      (Program.translate heard
        (Call.program sha256 (.reserve request extraMetadata requestedAt attemptedAt))) none := by
  have unchanged : ∀ raised, raised ≠ .runtimeError "duplicate replay suppressed" → ∀ database,
      auditContract sha256 (.reserve request extraMetadata requestedAt attemptedAt) (.error raised)
        database database := by
    intro raised other database _
    simp [attempt, other]
  have troubled (found working : Database) (text : String) :=
    And.intro
      (rollbackAndRaise_audited some unchanged (Raised.noConfusion : Raised.sqliteError text ≠ _)
        (some (found, working)))
      (rollbackAndRaise_audited some unchanged (Raised.noConfusion : Raised.sqliteError text ≠ _)
        none)
  simp only [Call.program, Replay.reserve]
  cases valid : validateRequest request with
  | error raised => exact unchanged raised (validateRequest_raised valid _)
  | ok _ =>
      cases clean : rejectProhibitedMetadata (extraMetadata.getD []) with
      | error raised => exact unchanged raised (rejectProhibitedMetadata_raised clean _)
      | ok _ =>
          refine And.intro (fun text => unchanged (.sqliteError text) Raised.noConfusion)
            fun found => And.intro (troubled found found) ?_
          intro working statuses selected
          cases selected
          cases existing : found.replayLedger.lookup (request.identity sha256) with
          | some row =>
              refine And.intro (troubled found found) ?_
              intro recorded rows inserted
              cases inserted
              refine And.intro (troubled found _)
                ⟨.error (.runtimeError "duplicate replay suppressed"), rfl, fun _ => ?_⟩
              simp [attempt]
          | none =>
              refine And.intro (troubled found found) ?_
              intro reserved rows inserted
              simp only [constrained, Database.perform] at inserted
              cases isInserted : found.insertLedger
                  (request.ledgerRow (request.identity sha256) requestedAt) with
              | none =>
                  simp only [isInserted] at inserted
                  cases inserted
                  exact violation_audited fun unclaimed =>
                    absurd unclaimed (not_unclaimed_of_violation valid clean existing isInserted)
              | some changed =>
                  simp only [isInserted] at inserted
                  cases inserted
                  refine And.intro (troubled found _) ?_
                  intro recorded rows attempted
                  cases attempted
                  refine And.intro (troubled found _)
                    ⟨.ok (some (request.identity sha256)), rfl, fun _ => ?_⟩
                  have same : reserved.replayAttempts = found.replayAttempts :=
                    replayAttempts_of_insertLedger isInserted
                  simp [attempt, same]

theorem transition_audited (replayIdentity : String) (newStatus : ReplayStatus)
    (resultCode : Option String) (now : String) :
    Meets constrained (auditContract sha256 (.transition replayIdentity newStatus resultCode now))
      (Program.translate heard
        (Call.program sha256 (.transition replayIdentity newStatus resultCode now))) none := by
  have unchanged : ∀ raised, raised ≠ .runtimeError "duplicate replay suppressed" → ∀ database,
      auditContract sha256 (.transition replayIdentity newStatus resultCode now) (.error raised)
        database database := fun _ _ _ _ => (List.append_nil _).symm
  have troubled (found working : Database) {raised : Raised}
      (other : raised ≠ .runtimeError "duplicate replay suppressed") :=
    And.intro (rollbackAndRaise_audited (fun _ : Unit => none) unchanged other (some (found, working)))
      (rollbackAndRaise_audited (fun _ : Unit => none) unchanged other none)
  refine And.intro (fun text => unchanged (.sqliteError text) Raised.noConfusion)
    fun found => And.intro (fun text => troubled found found nofun) ?_
  intro working statuses selected
  cases selected
  cases existing : found.replayLedger.lookup replayIdentity with
  | none =>
      exact (troubled found found (nofun :
        Raised.keyError "replay identity not found" ≠ .runtimeError _)).1
  | some row =>
      change Meets constrained _ (Program.translate heard ((fun _ => none) <$> tryCatch
        (assignStatus replayIdentity newStatus resultCode now row.replayStatus) rollbackAndRaise :
          Session (Option String))) _
      unfold assignStatus
      split
      next refused => exact (troubled found found (nofun : Raised.valueError _ ≠ .runtimeError _)).1
      next allowed =>
        refine And.intro (fun text => troubled found found nofun) ?_
        intro changed rows updated
        cases updated
        exact And.intro (fun text => troubled found _ nofun)
          ⟨.ok none, rfl, fun _ => (List.append_nil _).symm⟩

theorem call_audited (call : Call) :
    Meets constrained (auditContract sha256 call) (Program.translate heard (call.program sha256))
      none := by
  cases call with
  | reserve request extraMetadata requestedAt attemptedAt =>
      exact reserve_audited sha256 request extraMetadata requestedAt attemptedAt
  | transition replayIdentity newStatus resultCode now =>
      exact transition_audited sha256 replayIdentity newStatus resultCode now

/-! ## Every history -/

section Histories

variable {Connection : Type} [DecidableEq Connection]

/-- The table of attempts has the rows of the calls that are done, each after the rows of those
before it. -/
structure Audited (actions : List (Action Raised Connection Call)) : Prop where
  each : ∀ entry ∈ finished sha256 actions, entry.after.replayAttempts =
    entry.before.replayAttempts ++ (attempt sha256 entry.call entry.result).toList
  table : (reached sha256 actions).stored.replayAttempts =
    (finished sha256 actions).filterMap fun entry => attempt sha256 entry.call entry.result

variable {sha256} in
omit [DecidableEq Connection] in
theorem replayAttempts_of_serial {first last : Database} {entries : List (Done Connection)}
    (serial : Serial first entries last)
    (each : ∀ entry ∈ entries, entry.after.replayAttempts =
      entry.before.replayAttempts ++ (attempt sha256 entry.call entry.result).toList) :
    last.replayAttempts = first.replayAttempts ++
      entries.filterMap fun entry => attempt sha256 entry.call entry.result := by
  induction entries generalizing first with
  | nil =>
      cases serial
      exact (List.append_nil _).symm
  | cons entry rest ih =>
      obtain ⟨rfl, later⟩ := serial
      rw [ih later fun other listed => each other (List.mem_cons_of_mem _ listed),
        each entry List.mem_cons_self, List.append_assoc]
      congr 1
      cases found : attempt sha256 entry.call entry.result with
      | none => simp only [List.filterMap_cons, found, Option.toList_none, List.nil_append]
      | some row => simp only [List.filterMap_cons, found, Option.toList_some, List.cons_append,
          List.nil_append]

/-- Whatever connections and statements interleave, every reservation and every suppressed replay
leaves its one row, as long as no request id is used again for other coordinates. -/
theorem replays_audited (actions : List (Action String Connection Call))
    (unclaimed : ∀ entry ∈ finished sha256 (actions.map operational),
      Unclaimed sha256 entry.call entry.before) :
    Audited sha256 (actions.map operational) := by
  have upheld := run_serial (call_audited sha256) Database.empty actions
  obtain ⟨ran, logged⟩ := run_translate (Call.program sha256) constrained_speaks
    (World.initial Database.empty : World Database Statement ReplayStatus Raised
      (Except Raised (Option String)) Connection Call) actions
  have sameLog : Machine.log (step constrained fun call => (Call.program sha256 call).translate heard)
      (report constrained fun call => (Call.program sha256 call).translate heard)
      (World.initial Database.empty) actions = finished sha256 (actions.map operational) := logged
  have sameStored : (Machine.run
      (step constrained fun call => (Call.program sha256 call).translate heard)
      (World.initial Database.empty) actions).stored =
      (reached sha256 (actions.map operational)).stored := congrArg World.stored ran
  have each : ∀ entry ∈ finished sha256 (actions.map operational), entry.after.replayAttempts =
      entry.before.replayAttempts ++ (attempt sha256 entry.call entry.result).toList := by
    intro entry listed
    exact (upheld.kept entry (sameLog ▸ listed)).contract (unclaimed entry listed)
  refine ⟨each, ?_⟩
  have serial := upheld.serial
  rw [sameLog, sameStored] at serial
  rw [replayAttempts_of_serial serial each]
  rfl

/-- A replay of the event at the offset, approved and resolved. -/
def replayOf (requestId : String) (offset : Int) : Call :=
  .reserve
    { replayBatchId := "batch-1"
      replayRequestId := requestId
      sourceTopic := "payments.dlq"
      sourcePartition := some 0
      sourceOffset := some offset
      targetTopic := "payments"
      replayReasonCode := "SCHEMA_FIXED"
      requestedByServiceOrRole := "platform-operator"
      approved := true
      policyResolved := true
      sourceEventReference := none }
    none "2026-01-01T00:00:00+00:00" "2026-01-01T00:00:00+00:00"

/-- Two connections: the second waits for the first and finds its coordinates reserved. -/
def sameEventTwice : List (Action String Bool Call) :=
  [.start true (replayOf "request-1" 7), .advance true none, .advance true none,
    .start false (replayOf "request-2" 7), .advance true none, .advance true none,
    .advance true none] ++ List.replicate 4 (.advance false none)

theorem sameEventTwice_audited : Audited String.ofList (sameEventTwice.map operational) :=
  replays_audited String.ofList sameEventTwice (by decide +kernel)

/-- One request id for two offsets: the second replay is suppressed and not recorded. -/
theorem reusedRequestId_not_audited :
    ¬ ∀ actions : List (Action String Unit Call),
      Audited String.ofList (actions.map operational) := by
  intro audited
  have table := (audited ([.start () (replayOf "request-1" 7)] ++
    List.replicate 5 (.advance () none) ++ [.start () (replayOf "request-1" 8)] ++
    List.replicate 4 (.advance () none))).table
  exact absurd (congrArg List.length table) (by decide +kernel)

end Histories

end PaymentsPlatform.Replay
