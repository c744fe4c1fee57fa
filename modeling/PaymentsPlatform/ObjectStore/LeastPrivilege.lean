import PaymentsPlatform.ObjectStore.Provisioning

/-!
# Least privilege of object-store identities

The listing shows the policies of a user as one text, so that a policy is recognised only where
the user holds no other one.  What `apply` and `rotate` come to, from whatever users and with
whatever commands failing, follows from that.
-/

namespace PaymentsPlatform.ObjectStore

open RelyGuarantee
open TransformRuntime.Urls (Unicode)

/-! ## What the listing shows -/

/-- The policies that `existing_users` finds for a user. -/
def shown (user : User) : Finset String :=
  if policyName user.policies = "" then ∅ else {policyName user.policies}

theorem toList_policyName (policies : Finset String) : (policyName policies).toList =
    [','].intercalate ((policies.sort (· ≤ ·)).map String.toList) := by
  rw [policyName, String.toList_intercalate]
  rfl

theorem policyName_eq_iff {policies : Finset String} {policy : String} (named : policy ≠ "")
    (single : ',' ∉ policy.toList) : policyName policies = policy ↔ policies = {policy} := by
  constructor
  · intro isName
    have isText := congrArg String.toList isName
    rw [toList_policyName] at isText
    have sorted : (policies.sort (· ≤ ·)).toFinset = policies := Finset.sort_toFinset _ _
    rcases isSorted : policies.sort (· ≤ ·) with _ | ⟨first, _ | ⟨second, rest⟩⟩
    · rw [isSorted] at isText
      exact absurd (String.toList_inj.mp isText.symm) named
    · rw [isSorted] at isText sorted
      obtain rfl : first = policy := String.toList_inj.mp (by simpa using isText)
      simpa using sorted.symm
    · rw [isSorted, List.map_cons, List.map_cons, List.intercalate_cons_cons] at isText
      rw [← isText] at single
      exact absurd single (by simp)
  · rintro rfl
    simp [policyName]

theorem existingUser_record {accessKey : String} {user : User} (named : accessKey ≠ "") :
    existingUser (some (record accessKey user)) = .ok (accessKey, shown user) := by
  cases enabled : user.enabled <;>
    simp [existingUser, record, shown, named, enabled, List.lookup_cons]

theorem readUsers_records {users : Dict String (Finset String)} {items : List (String × User)}
    (distinct : (users.items.map Prod.fst ++ items.map Prod.fst).Nodup)
    (named : ∀ item ∈ items, item.1 ≠ "") :
    ∃ found, readUsers users (items.map fun item => some (record item.1 item.2)) = .ok found ∧
      found.items = users.items ++ items.map fun item => (item.1, shown item.2) := by
  induction items generalizing users with
  | nil => exact ⟨users, rfl, by simp⟩
  | cons item rest ih =>
      have fresh : users.get? item.1 = none := by
        refine Dict.get?_eq_none.mpr ?_
        intro listed
        exact (List.nodup_append.mp distinct).2.2 _ listed _ (by simp) rfl
      have isItems : (users.set item.1 (shown item.2)).items = users.items ++ [(item.1, shown item.2)] :=
        Dict.items_set_of_fresh fresh
      obtain ⟨found, isRead, isFound⟩ := @ih (users.set item.1 (shown item.2))
        (by rw [isItems]; simpa using distinct) fun other listed => named other (by simp [listed])
      refine ⟨found, ?_, by rw [isFound, isItems]; simp⟩
      rw [List.map_cons, readUsers, existingUser_record (named item (by simp))]
      simp only [bind, Except.bind, fresh, Option.isSome_none]
      exact isRead

theorem existingUsers_listing (server : Server) :
    existingUsers (listing server) = .ok (server.users.map fun _ user => shown user) := by
  have named : ∀ item ∈ server.users.items, item.1 ≠ "" := by
    rintro ⟨accessKey, user⟩ listed rfl
    rw [Dict.mem_items, server.named] at listed
    cases listed
  obtain ⟨found, isRead, isFound⟩ := @readUsers_records Dict.empty server.users.items
    (by simpa using server.users.distinct) named
  rw [existingUsers, listing, isRead]
  exact congrArg Except.ok (Dict.ext isFound)

theorem mem_shown_iff {user : User} {policy : String} (managed : policy ∈ managedPolicies) :
    policy ∈ shown user ↔ user.policies = {policy} := by
  obtain ⟨named, single⟩ : policy ≠ "" ∧ ',' ∉ policy.toList := by
    have names : ∀ policy ∈ managedPolicies, policy ≠ "" ∧ ',' ∉ policy.toList := by
      decide +kernel
    exact names policy managed
  rw [← policyName_eq_iff named single, shown]
  split
  next blank =>
    constructor
    · intro listed
      cases listed
    · intro isName
      exact absurd (isName.symm.trans blank) named
  next =>
    rw [Finset.mem_singleton]
    exact eq_comm

/-! ## Users and policies -/

def Server.Holds (server : Server) (accessKey policy : String) : Prop :=
  ∃ user, server.users.get? accessKey = some user ∧ policy ∈ user.policies

/-- The user holds the policy and no other one. -/
def Server.HoldsAlone (server : Server) (accessKey policy : String) : Prop :=
  ∃ user, server.users.get? accessKey = some user ∧ user.policies = {policy}

/-- The policy is the one for the key. -/
def Intended (source : Source) (accessKey policy : String) : Prop :=
  ∃ row ∈ identities, source.get row.accessName = accessKey ∧ row.policy = policy

/-- Some user holds a managed policy that is not the one for its key. -/
def Misassigned (source : Source) (server : Server) : Prop :=
  ∃ accessKey policy, server.Holds accessKey policy ∧ policy ∈ managedPolicies ∧
    ¬ Intended source accessKey policy

/-- Some user holds such a policy and no other one. -/
def MisassignedAlone (source : Source) (server : Server) : Prop :=
  ∃ accessKey policy, server.HoldsAlone accessKey policy ∧ policy ∈ managedPolicies ∧
    ¬ Intended source accessKey policy

theorem Server.HoldsAlone.holds {server : Server} {accessKey policy : String}
    (alone : server.HoldsAlone accessKey policy) : server.Holds accessKey policy := by
  obtain ⟨user, found, single⟩ := alone
  exact ⟨user, found, by simp [single]⟩

theorem MisassignedAlone.misassigned {source : Source} {server : Server}
    (alone : MisassignedAlone source server) : Misassigned source server := by
  obtain ⟨accessKey, policy, holds, rest⟩ := alone
  exact ⟨accessKey, policy, holds.holds, rest⟩

section Ready

variable {unicode : Unicode} {source : Source}

/-- What the environment is checked for. -/
structure Ready (source : Source) : Prop where
  named : ∀ row ∈ identities, source.get row.accessName ≠ ""
  distinct : (identities.map fun row => source.get row.accessName).Nodup

theorem ready_of_requireApplyEnvironment
    (accepted : requireApplyEnvironment unicode source = .ok ()) : Ready source := by
  unfold requireApplyEnvironment at accepted
  dsimp only at accepted
  split at accepted
  next => cases accepted
  next complete =>
    split at accepted
    next => cases accepted
    next separate =>
      refine ⟨?_, ?_⟩
      · intro row listed blank
        have isMissing : row.accessName ∈ (requiredNames.toFinset.filter fun name =>
            Ingestion.strip Ingestion.isSpace (source.get name) = "").sort (· ≤ ·) := by
          rw [Finset.mem_sort, Finset.mem_filter, List.mem_toFinset]
          refine ⟨List.mem_append_right _ (List.mem_flatMap.mpr ⟨row, listed, by simp⟩), ?_⟩
          rw [blank]
          rfl
        rw [not_not.mp complete] at isMissing
        cases isMissing
      · exact Multiset.toFinset_card_eq_card_iff_nodup.mp (not_not.mp (not_or.mp separate).1)

theorem mem_managedPolicies {row : Identity} (listed : row ∈ identities) :
    row.policy ∈ managedPolicies := by
  rw [managedPolicies_eq, List.mem_toFinset]
  exact List.mem_map_of_mem listed

theorem intendedPolicyByKey_eq_some_iff (ready : Ready source) {accessKey policy : String} :
    (intendedPolicyByKey source).get? accessKey = some policy ↔
      Intended source accessKey policy := by
  have distinct : ((identities.map fun row => (source.get row.accessName, row.policy)).reverse.map
      Prod.fst).Nodup := by
    rw [List.map_reverse, List.nodup_reverse, List.map_map]
    exact ready.distinct
  rw [intendedPolicyByKey, Dict.get?_ofList]
  constructor
  · intro found
    obtain ⟨row, listed, isRow⟩ := List.mem_map.mp (List.mem_reverse.mp (Dict.mem_of_find found))
    obtain ⟨isKey, isPolicy⟩ := Prod.mk.inj isRow
    exact ⟨row, listed, isKey, isPolicy⟩
  · rintro ⟨row, listed, rfl, rfl⟩
    exact Dict.find_of_mem distinct (List.mem_reverse.mpr (List.mem_map.mpr ⟨row, listed, rfl⟩))

theorem unexpected_iff (ready : Ready source) {server : Server} :
    ((server.users.map fun _ user => shown user).items.any
        fun item => unexpected source item.1 item.2) = true ↔ MisassignedAlone source server := by
  rw [List.any_eq_true]
  constructor
  · rintro ⟨⟨accessKey, policies⟩, listed, isUnexpected⟩
    obtain ⟨user, found, rfl⟩ := Dict.mem_items_map.mp listed
    obtain ⟨policy, isOne⟩ := Finset.nonempty_iff_ne_empty.mpr (of_decide_eq_true isUnexpected)
    obtain ⟨isShown, other⟩ := Finset.mem_filter.mp isOne
    obtain ⟨managed, isShown⟩ := Finset.mem_inter.mp isShown
    exact ⟨accessKey, policy, ⟨user, Dict.mem_items.mp found, (mem_shown_iff managed).mp isShown⟩,
      managed, mt (intendedPolicyByKey_eq_some_iff ready).mpr other⟩
  · rintro ⟨accessKey, policy, ⟨user, found, alone⟩, managed, unintended⟩
    refine ⟨(accessKey, shown user), Dict.mem_items_map.mpr ⟨user, Dict.mem_items.mpr found, rfl⟩,
      decide_eq_true (Finset.nonempty_iff_ne_empty.mp ⟨policy, ?_⟩)⟩
    exact Finset.mem_filter.mpr ⟨Finset.mem_inter.mpr ⟨managed, (mem_shown_iff managed).mpr alone⟩,
      mt (intendedPolicyByKey_eq_some_iff ready).mp unintended⟩

end Ready

/-! ## The commands of `apply` -/

/-- The commands about one identity. -/
def rowCommands (source : Source) (existing : Dict String (Finset String)) (row : Identity) :
    List Command :=
  (if (existing.get? (source.get row.accessName)).isSome then []
    else [.userAdd (source.get row.accessName) (source.get row.secretName)]) ++
  if row.policy ∈ (existing.get? (source.get row.accessName)).getD ∅ then []
  else [.policyAttach row.policy (source.get row.accessName)]

def planned (source : Source) (existing : Dict String (Finset String)) : List Command :=
  identities.map (fun row => .policyCreate row.policy) ++
    identities.flatMap (rowCommands source existing)

section Programs

variable (source : Source) (existing : Dict String (Finset String))

theorem createPolicies_eq (rows : List Identity) :
    createPolicies rows = Program.issue (rows.map fun row => .policyCreate row.policy) := by
  induction rows with
  | nil => rfl
  | cons row rest ih =>
      rw [createPolicies, ih]
      rfl

theorem reconcile_eq (row : Identity) :
    reconcile source existing row = Program.issue (rowCommands source existing row) >>= fun _ =>
      pure (existing.get? (source.get row.accessName)).isSome := by
  unfold reconcile rowCommands
  by_cases present : (existing.get? (source.get row.accessName)).isSome <;>
    by_cases attached : row.policy ∈ (existing.get? (source.get row.accessName)).getD ∅ <;>
    · simp only [present, attached, not_true_eq_false, not_false_eq_true, Bool.false_eq_true,
        if_true, if_false, List.nil_append, List.append_nil, List.singleton_append, Program.issue,
        Program.bind_assoc]
      rfl

theorem reconcileAll_eq (preserved : Nat) (rows : List Identity) :
    reconcileAll source existing preserved rows =
      Program.issue (rows.flatMap (rowCommands source existing)) >>= fun _ =>
        pure (preserved + rows.countP fun row =>
          (existing.get? (source.get row.accessName)).isSome) := by
  induction rows generalizing preserved with
  | nil => rfl
  | cons row rest ih =>
      rw [reconcileAll, List.flatMap_cons, Program.issue_append, Program.bind_assoc, reconcile_eq,
        Program.bind_assoc]
      congr 1
      funext nothing
      change reconcileAll source existing _ rest = _
      rw [ih, List.countP_cons]
      congr 1
      funext nothing
      congr 1
      split <;> omega

theorem applyTo_eq : applyTo source existing =
    if existing.items.any fun item => unexpected source item.1 item.2 then
      Program.raise (.provisionError
        "unexpected managed policy assignment; manual validation required")
    else Program.issue (planned source existing) >>= fun _ =>
      pure (identities.countP fun row =>
        (existing.get? (source.get row.accessName)).isSome) := by
  unfold applyTo planned
  rw [createPolicies_eq, reconcileAll_eq, Program.issue_append, Program.bind_assoc, Nat.zero_add]

end Programs

/-! ## What the commands do -/

/-- A command that gives no user a policy but the one for its key. -/
def Approved (source : Source) : Command → Prop
  | .policyAttach policy accessKey => Intended source accessKey policy
  | _ => True

/-- No user is gone and none has lost a policy, and policies were added as they are intended. -/
structure Grown (source : Source) (before after : Server) : Prop where
  present : ∀ accessKey, (before.users.get? accessKey).isSome → (after.users.get? accessKey).isSome
  kept : ∀ accessKey policy, before.Holds accessKey policy → after.Holds accessKey policy
  added : ∀ accessKey policy, after.Holds accessKey policy →
    before.Holds accessKey policy ∨ Intended source accessKey policy

section Grown

variable {source : Source} {before after later : Server}

theorem Grown.refl (server : Server) : Grown source server server :=
  ⟨fun _ present => present, fun _ _ holds => holds, fun _ _ holds => .inl holds⟩

theorem Grown.trans (first : Grown source before after) (second : Grown source after later) :
    Grown source before later := by
  refine ⟨fun accessKey present => second.present accessKey (first.present accessKey present),
    fun accessKey policy holds => second.kept _ _ (first.kept _ _ holds), ?_⟩
  intro accessKey policy holds
  rcases second.added accessKey policy holds with holds | intended
  · exact first.added accessKey policy holds
  · exact .inr intended

theorem Grown.misassigned_iff (grown : Grown source before after) :
    Misassigned source after ↔ Misassigned source before := by
  constructor
  · rintro ⟨accessKey, policy, holds, managed, unintended⟩
    rcases grown.added accessKey policy holds with holds | intended
    · exact ⟨accessKey, policy, holds, managed, unintended⟩
    · exact absurd intended unintended
  · rintro ⟨accessKey, policy, holds, rest⟩
    exact ⟨accessKey, policy, grown.kept accessKey policy holds, rest⟩

theorem holds_put {server : Server} {accessKey other policy : String} {user : User}
    {named : accessKey ≠ ""} : (server.put accessKey user named).Holds other policy ↔
      if accessKey = other then policy ∈ user.policies else server.Holds other policy := by
  unfold Server.Holds Server.put
  simp only [Dict.get?_set]
  split
  next => simp
  next => rfl

theorem isSome_put {server : Server} {accessKey other : String} {user : User}
    {named : accessKey ≠ ""} (present : (server.users.get? other).isSome) :
    ((server.put accessKey user named).users.get? other).isSome := by
  change ((server.users.set accessKey user).get? other).isSome
  rw [Dict.get?_set]
  split
  next => rfl
  next => exact present

/-- What one command does. -/
theorem grown_of_perform {command : Command} {reply : Reply} (approved : Approved source command)
    (performed : perform command before = .ok (after, reply)) : Grown source before after := by
  cases command with
  | userList =>
      cases performed
      exact .refl _
  | policyCreate policy =>
      cases performed
      exact .refl _
  | userAdd accessKey secret =>
      rw [perform] at performed
      split at performed
      next named =>
        cases performed
        have same (other policy : String) : (before.put accessKey
            ⟨((before.users.get? accessKey).map User.policies).getD ∅, secret, true⟩ named).Holds
              other policy ↔ before.Holds other policy := by
          rw [holds_put]
          split
          next isKey =>
            subst isKey
            cases found : before.users.get? accessKey <;> simp [Server.Holds, found]
          next => rfl
        exact ⟨fun _ => isSome_put, fun _ _ => (same _ _).mpr, fun _ _ => .inl ∘ (same _ _).mp⟩
      next => cases performed
  | policyAttach policy accessKey =>
      rw [perform] at performed
      split at performed
      next => cases performed
      next user found =>
        cases performed
        refine ⟨fun _ => isSome_put, ?_, ?_⟩
        · intro other held holds
          rw [holds_put]
          split
          next isKey =>
            subst isKey
            obtain ⟨holder, isHolder, listed⟩ := holds
            obtain rfl := Option.some.inj (isHolder.symm.trans found)
            exact Finset.mem_insert_of_mem listed
          next => exact holds
        · intro other held holds
          rw [holds_put] at holds
          split at holds
          next isKey =>
            subst isKey
            rcases Finset.mem_insert.mp holds with rfl | listed
            · exact .inr approved
            · exact .inl ⟨user, found, listed⟩
          next => exact .inl holds

theorem grown_of_executes {commands : List Command}
    (approved : ∀ command ∈ commands, Approved source command)
    (executes : Executes perform before commands after) : Grown source before after := by
  induction executes with
  | nil state => exact .refl state
  | cons performed executes ih =>
      exact (grown_of_perform (approved _ List.mem_cons_self) performed).trans
        (ih fun command listed => approved command (List.mem_cons_of_mem _ listed))

end Grown

/-! ## The plan for a listing -/

/-- The users as the listing of the server shows them. -/
def Server.shown (server : Server) : Dict String (Finset String) :=
  server.users.map fun _ user => ObjectStore.shown user

section Planned

variable {source : Source} {server : Server}

theorem get?_shown (accessKey : String) : server.shown.get? accessKey =
    (server.users.get? accessKey).map ObjectStore.shown := by
  rw [Server.shown, Dict.get?_map]

theorem mem_getD_shown_iff {row : Identity} (listed : row ∈ identities) {accessKey : String} :
    row.policy ∈ (server.shown.get? accessKey).getD ∅ ↔ server.HoldsAlone accessKey row.policy := by
  rw [get?_shown]
  cases found : server.users.get? accessKey with
  | none => simp [Server.HoldsAlone, found]
  | some user =>
      simp [Server.HoldsAlone, found, mem_shown_iff (mem_managedPolicies listed)]

theorem isSome_shown_iff {accessKey : String} :
    (server.shown.get? accessKey).isSome ↔ (server.users.get? accessKey).isSome := by
  rw [get?_shown, Option.isSome_map]

theorem approved_rowCommands (existing : Dict String (Finset String)) {row : Identity}
    (isRow : row ∈ identities) :
    ∀ command ∈ rowCommands source existing row, Approved source command := by
  intro command listed
  rcases List.mem_append.mp listed with listed | listed
  · split at listed
    next => cases listed
    next =>
      obtain rfl := List.mem_singleton.mp listed
      exact trivial
  · split at listed
    next => cases listed
    next =>
      obtain rfl := List.mem_singleton.mp listed
      exact ⟨row, isRow, rfl, rfl⟩

theorem approved_planned (existing : Dict String (Finset String)) :
    ∀ command ∈ planned source existing, Approved source command := by
  intro command listed
  rcases List.mem_append.mp listed with listed | listed
  · obtain ⟨row, _, rfl⟩ := List.mem_map.mp listed
    exact trivial
  · obtain ⟨row, isRow, listed⟩ := List.mem_flatMap.mp listed
    exact approved_rowCommands existing isRow command listed

theorem grown_of_planned {issued left : List Command} {existing : Dict String (Finset String)}
    {reached : Server} (parted : planned source existing = issued ++ left)
    (executes : Executes perform server issued reached) : Grown source server reached :=
  grown_of_executes (fun command listed => approved_planned existing command
    (parted ▸ List.mem_append_left left listed)) executes

theorem executes_row {existing : Dict String (Finset String)} {row : Identity}
    (named : source.get row.accessName ≠ "")
    (present : (existing.get? (source.get row.accessName)).isSome →
      (server.users.get? (source.get row.accessName)).isSome) :
    ∃ reached, Executes perform server (rowCommands source existing row) reached := by
  obtain ⟨middle, first, user, found⟩ : ∃ middle,
      Executes perform server (if (existing.get? (source.get row.accessName)).isSome then []
        else [.userAdd (source.get row.accessName) (source.get row.secretName)]) middle ∧
      ∃ user, middle.users.get? (source.get row.accessName) = some user := by
    split
    next listed => exact ⟨server, .nil server, Option.isSome_iff_exists.mp (present listed)⟩
    next => exact ⟨_, .cons (dif_pos named) (.nil _), _, Dict.get?_set_self⟩
  obtain ⟨reached, second⟩ : ∃ reached,
      Executes perform middle (if row.policy ∈ (existing.get? (source.get row.accessName)).getD ∅
        then [] else [.policyAttach row.policy (source.get row.accessName)]) reached := by
    split
    next => exact ⟨middle, .nil middle⟩
    next =>
      have performed : ∃ reached reply, perform (.policyAttach row.policy
          (source.get row.accessName)) middle = .ok (reached, reply) := by
        rw [perform]
        split
        next missing => cases missing.symm.trans found
        next => exact ⟨_, _, rfl⟩
      obtain ⟨reached, reply, performed⟩ := performed
      exact ⟨reached, .cons performed (.nil reached)⟩
  exact ⟨reached, executes_append.mpr ⟨middle, first, second⟩⟩

theorem executes_rows {existing : Dict String (Finset String)} {rows : List Identity}
    (areRows : ∀ row ∈ rows, row ∈ identities)
    (named : ∀ row ∈ rows, source.get row.accessName ≠ "")
    (present : ∀ row ∈ rows, (existing.get? (source.get row.accessName)).isSome →
      (server.users.get? (source.get row.accessName)).isSome) :
    ∃ reached, Executes perform server (rows.flatMap (rowCommands source existing)) reached := by
  induction rows generalizing server with
  | nil => exact ⟨server, .nil server⟩
  | cons row rest ih =>
      obtain ⟨middle, first⟩ := executes_row (named row (by simp)) (present row (by simp))
      have grown := grown_of_executes
        (approved_rowCommands existing (areRows row (by simp))) first
      obtain ⟨reached, second⟩ := @ih middle
        (fun other listed => areRows other (by simp [listed]))
        (fun other listed => named other (by simp [listed]))
        fun other listed isShown => grown.present _ (present other (by simp [listed]) isShown)
      rw [List.flatMap_cons]
      exact ⟨reached, executes_append.mpr ⟨middle, first, second⟩⟩

theorem executes_policies (rows : List Identity) :
    Executes perform server (rows.map fun row => .policyCreate row.policy) server := by
  induction rows with
  | nil => exact .nil server
  | cons row rest ih => exact .cons rfl ih

theorem executes_planned (ready : Ready source) :
    ∃ reached, Executes perform server (planned source server.shown) reached := by
  obtain ⟨reached, executes⟩ := @executes_rows source server server.shown identities
    (fun _ listed => listed) ready.named fun _ _ => isSome_shown_iff.mp
  exact ⟨reached, executes_append.mpr ⟨server, executes_policies identities, executes⟩⟩

end Planned

end PaymentsPlatform.ObjectStore
