import Mathlib.Logic.Relation
import PaymentsPlatform.ObjectStore.LeastPrivilege
import PaymentsPlatform.TransformRuntime.Confinement

/-!
# Runs of the provisioning

`apply` may fail at any command and is run again; `rotate` is run by itself.  Both recognise a
policy only where its user holds no other one (`keepsLeastPrivilege_iff`).
-/

namespace PaymentsPlatform.ObjectStore

open RelyGuarantee
open TransformRuntime.RawToBronze (asciiUnicode)
open TransformRuntime.Urls (Unicode)

section Runs

variable {unicode : Unicode} {source : Source} {server reached : Server}
  {log : List (Command × Server)}

theorem attempt_listUsers {outcome : Except Fault (Dict String (Finset String))}
    (attempt : Attempt perform listUsers server log outcome reached) :
    log = [(.userList, server)] ∧ reached = server ∧
      ((∃ fault, outcome = .error fault) ∨ outcome = .ok server.shown) := by
  rcases attempt_bind attempt with ⟨fault, rfl, first⟩ |
    ⟨reply, middle, early, late, first, second, rfl⟩
  · obtain ⟨rfl, ⟨_, isOk, _⟩ | ⟨_, _, rfl | ⟨_, performed⟩⟩⟩ := attempt_ask first
    · cases isOk
    · exact ⟨rfl, rfl, .inl ⟨fault, rfl⟩⟩
    · cases performed
      exact ⟨rfl, rfl, .inl ⟨fault, rfl⟩⟩
  · obtain ⟨rfl, ⟨_, isOk, performed⟩ | ⟨_, isError, _⟩⟩ := attempt_ask first
    · cases isOk
      cases performed
      obtain ⟨rfl, rfl, rfl⟩ := attempt_done_iff.mp second
      exact ⟨rfl, rfl, .inr (existingUsers_listing _)⟩
    · cases isError

/-- A run of `apply` that gets past the guard: where it comes to, and what it has sent. -/
structure Applied (source : Source) (server : Server) (log : List (Command × Server))
    (outcome : Except Fault Nat) (reached : Server) : Prop where
  admitted : ¬ MisassignedAlone source server
  parted : ∃ issued left, planned source server.shown = issued ++ left ∧
    Executes perform server issued reached ∧ ∀ preserved, outcome = .ok preserved → left = []
  sent : ∀ command middle, (command, middle) ∈ log → command = .userList ∨
    ∃ before later, planned source server.shown = before ++ command :: later ∧
      Executes perform server before middle

theorem applied_of_attempt (ready : Ready source) {outcome : Except Fault Nat}
    (attempt : Attempt perform (applyTo source server.shown) server log outcome reached) :
    (log = [] ∧ reached = server ∧ ∃ fault, outcome = .error fault) ∨
      Applied source server log outcome reached := by
  rw [applyTo_eq] at attempt
  split at attempt
  next =>
    obtain ⟨rfl, rfl, rfl⟩ := attempt_done_iff.mp attempt
    exact .inl ⟨rfl, rfl, _, rfl⟩
  next admitted =>
    refine .inr ⟨fun alone => admitted ((unexpected_iff ready).mpr alone), ?_, ?_⟩
    · rcases attempt_bind attempt with ⟨fault, rfl, first⟩ |
        ⟨nothing, middle, early, late, first, second, rfl⟩
      · obtain ⟨⟨issued, left, parted, executes, -⟩, -⟩ := attempt_issue first
        exact ⟨issued, left, parted, executes, fun _ isOk => by cases isOk⟩
      · obtain ⟨⟨issued, left, parted, executes, finished⟩, -⟩ := attempt_issue first
        obtain ⟨rfl, rfl, rfl⟩ := attempt_done_iff.mp second
        exact ⟨issued, left, parted, executes, fun _ _ => finished nothing rfl⟩
    · rcases attempt_bind attempt with ⟨fault, rfl, first⟩ |
        ⟨nothing, middle, early, late, first, second, rfl⟩
      · intro command middle listed
        exact .inr ((attempt_issue first).2 command middle listed)
      · obtain ⟨rfl, rfl, rfl⟩ := attempt_done_iff.mp second
        intro command middle listed
        rw [List.append_nil] at listed
        exact .inr ((attempt_issue first).2 command middle listed)

theorem attempt_apply (accepted : requireApplyEnvironment unicode source = .ok ())
    {outcome : Except Fault Nat}
    (attempt : Attempt perform (apply unicode source) server log outcome reached) :
    (log = [(.userList, server)] ∧ reached = server ∧ ∃ fault, outcome = .error fault) ∨
      Applied source server log outcome reached := by
  have listed : Attempt perform (listUsers >>= applyTo source) server log outcome reached := by
    unfold apply at attempt
    rw [accepted] at attempt
    exact attempt
  rcases attempt_bind listed with ⟨fault, rfl, first⟩ |
    ⟨existing, middle, early, late, first, second, rfl⟩
  · obtain ⟨isLog, isReached, -⟩ := attempt_listUsers first
    exact .inl ⟨isLog, isReached, fault, rfl⟩
  · obtain ⟨rfl, rfl, ⟨_, isError⟩ | isShown⟩ := attempt_listUsers first
    · cases isError
    · cases isShown
      rcases applied_of_attempt (ready_of_requireApplyEnvironment accepted) second with
        ⟨rfl, rfl, failed⟩ | applied
      · exact .inl ⟨rfl, rfl, failed⟩
      · refine .inr ⟨applied.admitted, applied.parted, ?_⟩
        intro command sentIn among
        rcases List.mem_append.mp among with isList | later
        · exact .inl (Prod.mk.inj (List.mem_singleton.mp isList)).1
        · exact applied.sent command sentIn later

theorem grown_of_attempt (accepted : requireApplyEnvironment unicode source = .ok ())
    {outcome : Except Fault Nat}
    (attempt : Attempt perform (apply unicode source) server log outcome reached) :
    Grown source server reached := by
  rcases attempt_apply accepted attempt with ⟨-, rfl, -⟩ | applied
  · exact .refl reached
  · obtain ⟨issued, left, parted, executes, -⟩ := applied.parted
    exact grown_of_planned parted executes

theorem holds_of_executes_planned (executes : Executes perform server
      (planned source server.shown) reached) {row : Identity} (isRow : row ∈ identities) :
    reached.Holds (source.get row.accessName) row.policy := by
  by_cases isShown : row.policy ∈ (server.shown.get? (source.get row.accessName)).getD ∅
  · have alone := (mem_getD_shown_iff isRow).mp isShown
    exact (grown_of_executes (approved_planned server.shown) executes).kept _ _ alone.holds
  · have listed : Command.policyAttach row.policy (source.get row.accessName) ∈
        planned source server.shown := by
      refine List.mem_append_right _ (List.mem_flatMap.mpr ⟨row, isRow, ?_⟩)
      rw [rowCommands, if_neg isShown]
      exact List.mem_append_right _ (List.mem_singleton_self _)
    obtain ⟨before, later, parted⟩ := List.append_of_mem listed
    rw [parted] at executes
    obtain ⟨middle, -, attached⟩ := executes_append.mp executes
    have approved : ∀ command ∈ later, Approved source command := by
      intro command among
      apply approved_planned server.shown command
      rw [parted]
      exact List.mem_append_right before (List.mem_cons_of_mem _ among)
    cases attached with
    | cons performed rest =>
        refine (grown_of_executes approved rest).kept _ _ ?_
        rw [perform] at performed
        split at performed
        next => cases performed
        next user found =>
          cases performed
          rw [holds_put, if_pos rfl]
          exact Finset.mem_insert_self row.policy user.policies

/-! ## Users that are created -/

/-- The keys of the users that the commands create. -/
def createdKeys (commands : List Command) : List String :=
  commands.filterMap fun
    | .userAdd accessKey _ => some accessKey
    | _ => none

theorem present_of_executes {commands : List Command}
    (executes : Executes perform server commands reached) {accessKey : String}
    (present : (reached.users.get? accessKey).isSome) :
    (server.users.get? accessKey).isSome ∨ accessKey ∈ createdKeys commands := by
  induction executes with
  | nil state => exact .inl present
  | @cons state changed reached command reply rest performed executes ih =>
      rcases ih present with early | later
      · cases command with
        | userList =>
            cases performed
            exact .inl early
        | policyCreate policy =>
            cases performed
            exact .inl early
        | userAdd added secret =>
            rw [perform] at performed
            split at performed
            next named =>
              cases performed
              by_cases isKey : added = accessKey
              · exact .inr (by simp [createdKeys, isKey])
              · refine .inl ?_
                rwa [Server.put, Dict.get?_set_of_ne isKey] at early
            next => cases performed
        | policyAttach policy holder =>
            rw [perform] at performed
            split at performed
            next => cases performed
            next user found =>
              cases performed
              by_cases isKey : holder = accessKey
              · subst isKey
                exact .inl (by rw [found]; rfl)
              · refine .inl ?_
                rwa [Server.put, Dict.get?_set_of_ne isKey] at early
      · refine .inr ?_
        rw [← List.singleton_append, createdKeys, List.filterMap_append]
        exact List.mem_append_right _ later

theorem createdKeys_rowCommands (existing : Dict String (Finset String)) (row : Identity) :
    createdKeys (rowCommands source existing row) =
      if (existing.get? (source.get row.accessName)).isSome then []
      else [source.get row.accessName] := by
  unfold rowCommands createdKeys
  split <;> split <;> rfl

theorem createdKeys_planned (existing : Dict String (Finset String)) :
    createdKeys (planned source existing) = ((identities.map fun row =>
      source.get row.accessName).filter fun accessKey => (existing.get? accessKey).isNone) := by
  have policies : ∀ rows : List Identity,
      createdKeys (rows.map fun row => .policyCreate row.policy) = [] := by
    intro rows
    induction rows with
    | nil => rfl
    | cons row rest ih => exact ih
  have users : ∀ rows : List Identity, createdKeys (rows.flatMap (rowCommands source existing)) =
      (rows.map fun row => source.get row.accessName).filter fun accessKey =>
        (existing.get? accessKey).isNone := by
    intro rows
    induction rows with
    | nil => rfl
    | cons row rest ih =>
        rw [List.flatMap_cons, createdKeys, List.filterMap_append, ← createdKeys, ← createdKeys,
          ih, createdKeys_rowCommands, List.map_cons, List.filter_cons]
        cases existing.get? (source.get row.accessName) <;> rfl
  rw [planned, createdKeys, List.filterMap_append, ← createdKeys, ← createdKeys, policies, users,
    List.nil_append]

theorem absent_of_userAdd (ready : Ready source) {outcome : Except Fault Nat}
    (applied : Applied source server log outcome reached) {accessKey secret : String}
    {middle : Server} (listed : (.userAdd accessKey secret, middle) ∈ log) :
    middle.users.get? accessKey = none := by
  rcases applied.sent _ _ listed with isList | ⟨before, later, parted, executes⟩
  · cases isList
  · have keys := @createdKeys_planned source server.shown
    have split : createdKeys (planned source server.shown) =
        createdKeys before ++ accessKey :: createdKeys later := by
      rw [parted, createdKeys, List.filterMap_append]
      rfl
    have distinct : (createdKeys (planned source server.shown)).Nodup := by
      rw [keys]
      exact ready.distinct.filter _
    have isCreated : accessKey ∈ createdKeys (planned source server.shown) := by
      rw [split]
      exact List.mem_append_right _ List.mem_cons_self
    have fresh : (server.shown.get? accessKey).isNone := by
      rw [keys] at isCreated
      exact (List.mem_filter.mp isCreated).2
    rw [split] at distinct
    cases found : middle.users.get? accessKey with
    | none => rfl
    | some user =>
        rcases present_of_executes executes (by rw [found]; rfl) with present | created
        · rw [← isSome_shown_iff, Option.isNone_iff_eq_none.mp fresh] at present
          cases present
        · exact absurd rfl ((List.nodup_append.mp distinct).2.2 _ created _ List.mem_cons_self)

end Runs

/-! ## Runs in which nothing fails -/

section Alone

variable {unicode : Unicode} {source : Source} {server : Server}

theorem alone_listUsers (server : Server) :
    listUsers.alone perform server = (.ok server.shown, server) := by
  rw [listUsers, Program.alone_bind]
  change (Program.lift (existingUsers (listing server))).alone perform server = _
  rw [existingUsers_listing]
  rfl

theorem alone_apply (accepted : requireApplyEnvironment unicode source = .ok ())
    (admitted : ¬ MisassignedAlone source server) : ∃ preserved reached,
      (apply unicode source).alone perform server = (.ok preserved, reached) := by
  have ready := ready_of_requireApplyEnvironment accepted
  obtain ⟨reached, executes⟩ := @executes_planned source server ready
  refine ⟨identities.countP fun row => (server.shown.get? (source.get row.accessName)).isSome,
    reached, ?_⟩
  have accepts : (apply unicode source) = listUsers >>= applyTo source := by
    unfold apply
    rw [accepted]
    rfl
  have guarded : ¬ (server.shown.items.any
      fun item => unexpected source item.1 item.2) = true :=
    mt (unexpected_iff ready).mp admitted
  rw [accepts, Program.alone_bind, alone_listUsers]
  dsimp only
  rw [applyTo_eq, if_neg guarded, Program.alone_bind, alone_issue executes]
  rfl

theorem find?_label {row : Identity} (isRow : row ∈ identities) :
    identities.find? (fun other => other.label = row.label) = some row := by
  have all : ∀ row ∈ identities,
      identities.find? (fun other => other.label = row.label) = some row := by
    decide +kernel
  exact all row isRow

/-- Alone, `rotate` succeeds for the users that hold their policy and no other one. -/
theorem rotate_succeeds_iff (accepted : requireApplyEnvironment unicode source = .ok ())
    (identity : String) :
    (∃ reached, (rotate unicode source identity).alone perform server = (.ok (), reached)) ↔
      ∃ row ∈ identities, row.label = identity ∧
        server.HoldsAlone (source.get row.accessName) row.policy := by
  have ready := ready_of_requireApplyEnvironment accepted
  unfold rotate
  rw [accepted, Program.lift_ok_bind]
  cases found : identities.find? fun row => decide (row.label = identity) with
  | none =>
      constructor
      · rintro ⟨reached, ran⟩
        cases ran
      · rintro ⟨row, isRow, isLabel, -⟩
        subst isLabel
        rw [find?_label isRow] at found
        cases found
  | some row =>
      have isRow : row ∈ identities := List.mem_of_find?_eq_some found
      have isLabel : row.label = identity := by simpa using List.find?_some found
      have alone : (∃ other ∈ identities, other.label = identity ∧
          server.HoldsAlone (source.get other.accessName) other.policy) ↔
          server.HoldsAlone (source.get row.accessName) row.policy := by
        constructor
        · rintro ⟨other, isOther, sameLabel, holds⟩
          have same := find?_label isOther
          rw [sameLabel, found] at same
          exact Option.some.inj same ▸ holds
        · intro holds
          exact ⟨row, isRow, isLabel, holds⟩
      rw [alone, ← mem_getD_shown_iff isRow]
      dsimp only
      rw [Program.alone_bind, alone_listUsers]
      dsimp only
      cases shows : server.shown.get? (source.get row.accessName) with
      | none =>
          constructor
          · rintro ⟨reached, ran⟩
            cases ran
          · intro listed
            cases listed
      | some policies =>
          dsimp only
          by_cases attached : row.policy ∈ policies
          · rw [if_neg (not_not.mpr attached)]
            refine iff_of_true ?_ attached
            rw [Program.alone_bind]
            have named := ready.named row isRow
            simp only [Program.ask, Program.alone, perform, dif_pos named]
            exact ⟨_, rfl⟩
          · rw [if_pos attached]
            refine iff_of_false ?_ attached
            rintro ⟨reached, ran⟩
            cases ran

end Alone

/-! ## Least privilege -/

section LeastPrivilege

variable (unicode : Unicode) (source : Source) (server : Server)

/-- `apply` was run, failed and was run again, any number of times. -/
def Retried (server reached : Server) : Prop :=
  Relation.ReflTransGen (fun before after => ∃ log fault,
    Attempt perform (apply unicode source) before log (.error fault) after) server reached

/-- What is asked of `apply` and `rotate`, from these users. -/
structure KeepsLeastPrivilege : Prop where
  /-- Nothing is changed where some user holds a managed policy that is not the one for it. -/
  refuses : Misassigned source server → ∀ log outcome reached,
    Attempt perform (apply unicode source) server log outcome reached →
      ∀ command middle, (command, middle) ∈ log → ¬ command.Mutating
  assigns : ∀ log preserved reached,
    Attempt perform (apply unicode source) server log (.ok preserved) reached →
      ∀ accessKey policy, policy ∈ managedPolicies →
        (reached.Holds accessKey policy ↔ Intended source accessKey policy)
  /-- No user that exists is created, after any failures. -/
  preserves : ∀ reached, Retried unicode source server reached → ∀ log outcome last,
    Attempt perform (apply unicode source) reached log outcome last →
      ∀ accessKey secret middle, (.userAdd accessKey secret, middle) ∈ log →
        middle.users.get? accessKey = none
  /-- Where there is nothing to refuse, `apply` succeeds in the end. -/
  recovers : ¬ Misassigned source server → ∀ reached, Retried unicode source server reached →
    ∃ preserved last, (apply unicode source).alone perform reached = (.ok preserved, last)
  rotates : ∀ identity,
    (∃ reached, (rotate unicode source identity).alone perform server = (.ok (), reached)) ↔
      ∃ row ∈ identities, row.label = identity ∧
        server.Holds (source.get row.accessName) row.policy

/-- The policies by which the users are judged are seen in the listing. -/
structure Recognised : Prop where
  misassigned : Misassigned source server → MisassignedAlone source server
  intended : ∀ row ∈ identities, server.Holds (source.get row.accessName) row.policy →
    server.HoldsAlone (source.get row.accessName) row.policy

variable {unicode source server}

theorem Retried.grown (accepted : requireApplyEnvironment unicode source = .ok ())
    {reached : Server} (retried : Retried unicode source server reached) :
    Grown source server reached := by
  induction retried with
  | refl => exact .refl server
  | tail _ step ih =>
      obtain ⟨log, fault, attempt⟩ := step
      exact ih.trans (grown_of_attempt accepted attempt)

theorem KeepsLeastPrivilege.recognised (accepted : requireApplyEnvironment unicode source = .ok ())
    (keeps : KeepsLeastPrivilege unicode source server) : Recognised source server := by
  constructor
  case misassigned =>
    intro misassigned
    by_contra admitted
    obtain ⟨preserved, reached, ran⟩ := alone_apply accepted admitted
    obtain ⟨log, attempt⟩ := attempt_alone (apply unicode source) server
    rw [ran] at attempt
    obtain ⟨accessKey, policy, holds, managed, unintended⟩ :=
      (grown_of_attempt accepted attempt).misassigned_iff.mpr misassigned
    exact unintended ((keeps.assigns log preserved reached attempt accessKey policy managed).mp
      holds)
  case intended =>
    intro row isRow holds
    obtain ⟨other, isOther, sameLabel, alone⟩ := (rotate_succeeds_iff accepted row.label).mp
      ((keeps.rotates row.label).mpr ⟨row, isRow, rfl, holds⟩)
    have same := find?_label isOther
    rw [sameLabel, find?_label isRow] at same
    exact Option.some.inj same ▸ alone

theorem keepsLeastPrivilege_of_recognised
    (accepted : requireApplyEnvironment unicode source = .ok ())
    (recognised : Recognised source server) : KeepsLeastPrivilege unicode source server := by
  have ready := ready_of_requireApplyEnvironment accepted
  constructor
  case refuses =>
    intro misassigned log outcome reached attempt command middle listed
    rcases attempt_apply accepted attempt with ⟨rfl, -, -⟩ | applied
    · obtain ⟨rfl, rfl⟩ := Prod.mk.inj (List.mem_singleton.mp listed)
      exact id
    · exact absurd (recognised.misassigned misassigned) applied.admitted
  case assigns =>
    intro log preserved reached attempt accessKey policy managed
    rcases attempt_apply accepted attempt with ⟨-, -, fault, isError⟩ | applied
    · cases isError
    · obtain ⟨issued, left, parted, executes, finished⟩ := applied.parted
      rw [finished preserved rfl, List.append_nil] at parted
      subst parted
      have grown := grown_of_attempt accepted attempt
      constructor
      · intro holds
        by_contra unintended
        exact applied.admitted (recognised.misassigned (grown.misassigned_iff.mp
          ⟨accessKey, policy, holds, managed, unintended⟩))
      · rintro ⟨row, isRow, rfl, rfl⟩
        exact holds_of_executes_planned executes isRow
  case preserves =>
    intro reached _ log outcome last attempt accessKey secret middle listed
    rcases attempt_apply accepted attempt with ⟨rfl, -, -⟩ | applied
    · cases (Prod.mk.inj (List.mem_singleton.mp listed)).1
    · exact absent_of_userAdd ready applied listed
  case recovers =>
    intro nothing reached retried
    apply alone_apply accepted
    intro alone
    exact nothing ((retried.grown accepted).misassigned_iff.mp alone.misassigned)
  case rotates =>
    intro identity
    rw [rotate_succeeds_iff accepted]
    constructor
    · rintro ⟨row, isRow, isLabel, alone⟩
      exact ⟨row, isRow, isLabel, alone.holds⟩
    · rintro ⟨row, isRow, isLabel, holds⟩
      exact ⟨row, isRow, isLabel, recognised.intended row isRow holds⟩

/-- A policy next to others is not recognised in the listing; otherwise privileges are kept. -/
theorem keepsLeastPrivilege_iff (accepted : requireApplyEnvironment unicode source = .ok ()) :
    KeepsLeastPrivilege unicode source server ↔ Recognised source server :=
  ⟨KeepsLeastPrivilege.recognised accepted, keepsLeastPrivilege_of_recognised accepted⟩

/-- Each variable but the endpoint is set to its own name. -/
def nominalSource : Source := fun name =>
  some (if name = "MINIO_ENDPOINT" then "http://minio:9000" else name)

theorem nominalSource_accepted :
    requireApplyEnvironment asciiUnicode nominalSource = .ok () := by
  have complete : (requiredNames.toFinset.filter fun name =>
      Ingestion.strip Ingestion.isSpace (nominalSource.get name) = "") = ∅ := by
    rw [Finset.filter_eq_empty_iff]
    decide +kernel
  unfold requireApplyEnvironment
  dsimp only
  rw [complete, if_neg (by simp), if_neg (by decide +kernel), if_neg (by decide +kernel)]
  decide +kernel

/-- The user of `raw_ingest` holds these policies; there is no other user. -/
def rawIngestServer (policies : Finset String) : Server where
  users := Dict.empty.set "RAW_INGEST_S3_ACCESS_KEY_ID" ⟨policies, "hidden", true⟩
  named := rfl

theorem get?_rawIngestServer {policies : Finset String} {accessKey : String} {user : User}
    (found : (rawIngestServer policies).users.get? accessKey = some user) :
    accessKey = "RAW_INGEST_S3_ACCESS_KEY_ID" ∧ user = ⟨policies, "hidden", true⟩ := by
  rw [rawIngestServer, Dict.get?_set] at found
  split at found
  next isKey => exact ⟨isKey.symm, (Option.some.inj found).symm⟩
  next => cases found

theorem recognised_rawIngest : Recognised nominalSource (rawIngestServer {"raw-ingest"}) := by
  constructor
  case misassigned =>
    rintro ⟨accessKey, policy, ⟨user, found, held⟩, -, unintended⟩
    obtain ⟨rfl, rfl⟩ := get?_rawIngestServer found
    obtain rfl := Finset.mem_singleton.mp held
    exact absurd ⟨_, List.mem_cons_self, rfl, rfl⟩ unintended
  case intended =>
    rintro row - ⟨user, found, held⟩
    obtain ⟨-, rfl⟩ := get?_rawIngestServer found
    exact ⟨_, found, by rw [Finset.mem_singleton.mp held]⟩

theorem keepsLeastPrivilege_rawIngest :
    KeepsLeastPrivilege asciiUnicode nominalSource (rawIngestServer {"raw-ingest"}) :=
  (keepsLeastPrivilege_iff nominalSource_accepted).mpr recognised_rawIngest

/-- The policy of another service, next to the one for the user, goes unseen. -/
theorem rawIngest_not_keepsLeastPrivilege :
    ¬ KeepsLeastPrivilege asciiUnicode nominalSource
      (rawIngestServer {"raw-ingest", "nessie-catalog"}) := by
  intro keeps
  have misassigned :
      Misassigned nominalSource (rawIngestServer {"raw-ingest", "nessie-catalog"}) := by
    refine ⟨"RAW_INGEST_S3_ACCESS_KEY_ID", "nessie-catalog",
      ⟨⟨{"raw-ingest", "nessie-catalog"}, "hidden", true⟩, rfl, by simp⟩,
      by simp [managedPolicies], ?_⟩
    rintro ⟨row, isRow, isKey, isPolicy⟩
    have others : ∀ row ∈ identities, row.policy = "nessie-catalog" →
        nominalSource.get row.accessName ≠ "RAW_INGEST_S3_ACCESS_KEY_ID" := by
      decide +kernel
    exact others row isRow isPolicy isKey
  obtain ⟨accessKey, policy, ⟨user, found, alone⟩, -⟩ :=
    (keeps.recognised nominalSource_accepted).misassigned misassigned
  obtain ⟨-, rfl⟩ := get?_rawIngestServer found
  have both : ({"raw-ingest", "nessie-catalog"} : Finset String).card = 2 := rfl
  dsimp only at alone
  rw [alone, Finset.card_singleton] at both
  exact absurd both (by decide)

end LeastPrivilege

end PaymentsPlatform.ObjectStore
