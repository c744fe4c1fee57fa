import PaymentsPlatform.AgentApi.Geography

/-!
# What a decision depends on

The early returns of the policy engine come down to three tests: something is denied, an approval
is awaited, a field is masked.  More fields make each of them harder to pass and more roles make
it easier, so decisions are monotone in both.
-/

namespace PaymentsPlatform.AgentApi

/-- `DENY < REQUIRE_APPROVAL < MASK < ALLOW`. -/
def PolicyDecisionType.level : PolicyDecisionType → Nat
  | .deny => 0
  | .requireApproval => 1
  | .mask => 2
  | .allow => 3

def FieldResult.level : FieldResult → Nat
  | .deny => 0
  | .mask => 1
  | .allow => 2

theorem FieldResult.level_le_allow (result : FieldResult) : result.level ≤ allow.level := by
  cases result <;> decide

theorem FieldResult.eq_deny {result : FieldResult} (lowest : result.level = 0) :
    result = deny := by
  cases result with
  | deny => rfl
  | mask | allow => cases lowest

theorem PolicyDecisionType.level_injective : Function.Injective level := by
  intro first second same
  cases first <;> cases second <;> first | rfl | cases same

/-! ## The tests -/

namespace GovernanceRequest

open GovernancePolicyEngine

/-- The reasons for which a request is denied. -/
inductive Denied (request : GovernanceRequest) : Prop
  | role (role : String) : role ∈ request.identity.roles →
      (rolePermissions.lookup role).isNone → Denied request
  | purpose : request.identity.purpose.any (· ∉ approvedPurposes) → Denied request
  | area : request.DeclaresOtherArea → Denied request
  | dataset (permission policy reason : String) :
      classificationPolicy request.resource.classification = some (permission, policy, reason) →
      permission ∉ effectivePermissions request → Denied request
  | field (field : FieldClassification) : field ∈ request.resource.fieldClassifications →
      evaluateField (effectivePermissions request) field = .deny → Denied request

/-- A field of this name is masked. -/
def Masks (request : GovernanceRequest) (name : String) : Prop :=
  ∃ field ∈ request.resource.fieldClassifications,
    evaluateField (effectivePermissions request) field = .mask ∧ field.field = name

end GovernanceRequest

namespace GovernancePolicyEngine

variable (engine : GovernancePolicyEngine) (request : GovernanceRequest)

/-- Sensitive fields without a server-held approval. -/
def awaitsApproval : Bool :=
  containsSensitiveFields request.resource.fieldClassifications &&
    (resolveApproval engine.approvalRegistry request).isNone

/-- What the engine may decide. -/
inductive Decides : PolicyDecision → Prop
  | denied (decision : PolicyDecision) : request.Denied → decision.decision = .deny →
      decision.maskedFields = [] → Decides decision
  | permitted (decision : PolicyDecision) : ¬ request.Denied →
      (∀ name, name ∈ decision.maskedFields ↔ request.Masks name) →
      decision.decision = (if engine.awaitsApproval request then .requireApproval
        else if decision.maskedFields.isEmpty then .allow else .mask) →
      Decides decision

variable {engine request}

/-! ## Fields -/

theorem evaluateFields_of_denied {permissions : List String} {fields : List FieldClassification}
    {field : FieldClassification} (listed : field ∈ fields)
    (denied : evaluateField permissions field = .deny) :
    ∃ first, evaluateFields permissions fields = .error first := by
  induction fields with
  | nil => cases listed
  | cons head rest ih =>
      unfold evaluateFields
      rcases List.mem_cons.mp listed with rfl | later
      · rw [denied]
        exact ⟨_, rfl⟩
      · obtain ⟨first, failed⟩ := ih later
        rw [failed]
        cases evaluateField permissions head <;> exact ⟨_, rfl⟩

theorem evaluateFields_of_none_denied {permissions : List String}
    {fields : List FieldClassification}
    (none : ∀ field ∈ fields, evaluateField permissions field ≠ .deny) :
    evaluateFields permissions fields = .ok
      ((fields.filter fun field => evaluateField permissions field = .mask).map
        FieldClassification.field) := by
  induction fields with
  | nil => rfl
  | cons head rest ih =>
      obtain ⟨first, later⟩ := List.forall_mem_cons.mp none
      unfold evaluateFields
      rw [ih later]
      cases result : evaluateField permissions head with
      | deny => exact absurd result first
      | mask => simp [result, Except.map]
      | allow => simp [result]

/-- The decision on the fields, where nothing else is denied. -/
theorem evaluateAccess_decides
    (only : request.Denied → ∃ field ∈ request.resource.fieldClassifications,
      evaluateField (effectivePermissions request) field = .deny)
    (matched required : List String) :
    engine.Decides request (engine.evaluateAccess request matched required) := by
  unfold evaluateAccess
  by_cases denied : ∃ field ∈ request.resource.fieldClassifications,
      evaluateField (effectivePermissions request) field = .deny
  · obtain ⟨field, listed, denied⟩ := denied
    obtain ⟨first, failed⟩ := evaluateFields_of_denied listed denied
    simp only [failed]
    exact .denied _ (.field field listed denied) rfl rfl
  · have none : ∀ field ∈ request.resource.fieldClassifications,
        evaluateField (effectivePermissions request) field ≠ .deny :=
      fun field listed isDenied => denied ⟨field, listed, isDenied⟩
    have masked : ∀ name, name ∈ (request.resource.fieldClassifications.filter fun field =>
        evaluateField (effectivePermissions request) field = .mask).map
          FieldClassification.field ↔ request.Masks name := by
      intro name
      simp [GovernanceRequest.Masks, and_assoc]
    simp only [evaluateFields_of_none_denied none]
    generalize (request.resource.fieldClassifications.filter fun field =>
      evaluateField (effectivePermissions request) field = .mask).map
        FieldClassification.field = names at masked ⊢
    have notDenied : ¬ request.Denied := fun isDenied => denied (only isDenied)
    by_cases awaits : engine.awaitsApproval request = true
    · have held := awaits
      unfold awaitsApproval at held
      rw [if_pos held]
      exact .permitted _ notDenied masked (by simp [conclude, awaits])
    · have held := awaits
      unfold awaitsApproval at held
      rw [if_neg held]
      by_cases empty : names = []
      · subst empty
        exact .permitted _ notDenied masked (by simp [conclude, awaits])
      · have filled : (!names.isEmpty) = true := by simpa using empty
        rw [if_pos filled]
        refine .permitted _ notDenied ?_ ?_
        · intro name
          rw [← masked name]
          simp [conclude, mem_sortedTexts]
        · have kept : sortedTexts names.dedup ≠ [] := by
            obtain ⟨name, listed⟩ := List.exists_mem_of_ne_nil names empty
            refine List.ne_nil_of_mem (a := name) ?_
            exact mem_sortedTexts.mpr (List.mem_dedup.mpr listed)
          simp [conclude, awaits, kept]

theorem evaluateGeography_eq_deny {denied : PolicyDecision}
    (found : engine.evaluateGeography request = some denied) :
    ∃ reason policy, denied = engine.deny request reason policy [] := by
  unfold evaluateGeography at found
  split at found
  next => exact ⟨_, _, (Option.some.inj found).symm⟩
  next =>
    split at found
    next => exact ⟨_, _, (Option.some.inj found).symm⟩
    next => cases found

/-- What the early returns come down to. -/
theorem evaluate_decides (engine : GovernancePolicyEngine) (request : GovernanceRequest) :
    engine.Decides request (engine.evaluate request) := by
  unfold evaluate
  dsimp only
  split
  next unknown =>
    have filled : request.identity.roles.filter (fun role =>
        (rolePermissions.lookup role).isNone) ≠ [] := by simpa using unknown
    obtain ⟨role, listed⟩ := List.exists_mem_of_ne_nil _ filled
    obtain ⟨held, isUnknown⟩ := List.mem_filter.mp listed
    exact .denied _ (.role role held isUnknown) rfl rfl
  next known =>
    split
    next unrecognised => exact .denied _ (.purpose unrecognised) rfl rfl
    next recognised =>
      split
      next denied found =>
        have other : request.DeclaresOtherArea := by
          by_contra passes
          rw [engine.evaluateGeography_eq_none.mpr passes] at found
          cases found
        obtain ⟨reason, policy, rfl⟩ := evaluateGeography_eq_deny found
        exact .denied _ (.area other) rfl rfl
      next passed =>
        have passes := engine.evaluateGeography_eq_none.mp passed
        have only (granted : ∀ permission policy reason,
            classificationPolicy request.resource.classification =
              some (permission, policy, reason) → permission ∈ effectivePermissions request) :
            request.Denied → ∃ field ∈ request.resource.fieldClassifications,
              evaluateField (effectivePermissions request) field = .deny := by
          intro denied
          cases denied with
          | role role held isUnknown =>
              refine absurd ?_ known
              have listed : role ∈ request.identity.roles.filter fun role =>
                  (rolePermissions.lookup role).isNone := List.mem_filter.mpr ⟨held, isUnknown⟩
              simpa using List.ne_nil_of_mem listed
          | purpose unrecognised => exact absurd unrecognised recognised
          | area other => exact absurd other passes
          | dataset permission policy reason required missing =>
              exact absurd (granted permission policy reason required) missing
          | field field listed denied => exact ⟨field, listed, denied⟩
        split
        next isPublic =>
          apply evaluateAccess_decides
          apply only
          intro permission policy reason required
          rw [isPublic] at required
          cases required
        next permission policy reason required =>
          split
          next granted =>
            apply evaluateAccess_decides
            apply only
            intro other otherPolicy otherReason otherRequired
            rw [required] at otherRequired
            cases otherRequired
            exact granted
          next missing => exact .denied _ (.dataset _ _ _ required missing) rfl rfl

/-! ## Stricter requests -/

/-- Whatever the first request does not pass, the second one does not pass either. -/
structure Stricter (engine : GovernancePolicyEngine) (request stricter : GovernanceRequest) :
    Prop where
  denied : request.Denied → stricter.Denied
  awaits : engine.awaitsApproval request = true → engine.awaitsApproval stricter = true
  masked : ¬ stricter.Denied → ∀ name, request.Masks name → stricter.Masks name

variable {stricter : GovernanceRequest}

theorem Stricter.level_le (order : Stricter engine request stricter) :
    (engine.evaluate stricter).decision.level ≤ (engine.evaluate request).decision.level := by
  cases engine.evaluate_decides stricter with
  | denied _ decision _ =>
      rw [decision]
      exact Nat.zero_le _
  | permitted notDenied masked decision =>
      cases engine.evaluate_decides request with
      | denied isDenied _ _ => exact absurd (order.denied isDenied) notDenied
      | permitted _ maskedBefore decisionBefore =>
          have fewer : (engine.evaluate stricter).maskedFields = [] →
              (engine.evaluate request).maskedFields = [] := by
            intro empty
            apply List.eq_nil_iff_forall_not_mem.mpr
            intro name listed
            have kept := (masked name).mpr
              (order.masked notDenied name ((maskedBefore name).mp listed))
            rw [empty] at kept
            cases kept
          rw [decision, decisionBefore]
          by_cases awaits : engine.awaitsApproval stricter = true
          · rw [if_pos awaits]
            split
            next => exact le_rfl
            next => split <;> decide
          · have passes : ¬ engine.awaitsApproval request = true :=
              fun awaitsBefore => awaits (order.awaits awaitsBefore)
            rw [if_neg awaits, if_neg passes]
            by_cases empty : (engine.evaluate stricter).maskedFields = []
            · simp [empty, fewer empty]
            · rw [if_neg (by simpa using empty)]
              split <;> decide

theorem Stricter.masks (order : Stricter engine request stricter)
    (notDenied : (engine.evaluate stricter).decision ≠ .deny) {name : String}
    (listed : name ∈ (engine.evaluate request).maskedFields) :
    name ∈ (engine.evaluate stricter).maskedFields := by
  cases engine.evaluate_decides stricter with
  | denied _ decision _ => exact absurd decision notDenied
  | permitted permitted masked _ =>
      cases engine.evaluate_decides request with
      | denied _ _ none =>
          rw [none] at listed
          cases listed
      | permitted _ maskedBefore _ =>
          exact (masked name).mpr (order.masked permitted name ((maskedBefore name).mp listed))

theorem maskedFields_of_deny (denied : (engine.evaluate request).decision = .deny) :
    (engine.evaluate request).maskedFields = [] := by
  cases engine.evaluate_decides request with
  | denied _ _ none => exact none
  | permitted _ _ decision =>
      rw [denied] at decision
      split at decision
      next => cases decision
      next => split at decision <;> cases decision

end GovernancePolicyEngine

/-! ## More fields, more roles -/

namespace GovernanceRequest

def withFields (request : GovernanceRequest) (fields : List FieldClassification) :
    GovernanceRequest :=
  { request with resource := { request.resource with fieldClassifications := fields } }

def withRoles (request : GovernanceRequest) (roles : List String) : GovernanceRequest :=
  { request with identity := { request.identity with roles := roles } }

end GovernanceRequest

namespace GovernancePolicyEngine

variable {engine : GovernancePolicyEngine} {request : GovernanceRequest}

theorem stricter_withFields (engine : GovernancePolicyEngine) (request : GovernanceRequest)
    {fields more : List FieldClassification} (subset : fields ⊆ more) :
    engine.Stricter (request.withFields fields) (request.withFields more) where
  denied := by
    intro denied
    cases denied with
    | role role held isUnknown => exact .role role held isUnknown
    | purpose unrecognised => exact .purpose unrecognised
    | area other => exact .area other
    | dataset permission policy reason required missing =>
        exact .dataset permission policy reason required missing
    | field field listed denied => exact .field field (subset listed) denied
  awaits := by
    intro awaits
    obtain ⟨sensitive, unapproved⟩ := Bool.and_eq_true_iff.mp awaits
    refine Bool.and_eq_true_iff.mpr ⟨?_, unapproved⟩
    obtain ⟨field, listed, restricted⟩ := List.any_eq_true.mp sensitive
    exact List.any_eq_true.mpr ⟨field, subset listed, restricted⟩
  masked := by
    rintro - name ⟨field, listed, masked, named⟩
    exact ⟨field, subset listed, masked, named⟩

theorem graded_mono {permissions more : List String} (subset : permissions ⊆ more)
    (permission : String) {held without without' : FieldResult}
    (lower : without.level ≤ without'.level) (better : without.level ≤ held.level) :
    (if permission ∈ permissions then held else without).level ≤
      (if permission ∈ more then held else without').level := by
  by_cases had : permission ∈ permissions
  · rw [if_pos had, if_pos (subset had)]
  · rw [if_neg had]
    split
    next => exact better
    next => exact lower

theorem evaluateField_mono {permissions more : List String} (subset : permissions ⊆ more)
    (field : FieldClassification) :
    (evaluateField permissions field).level ≤ (evaluateField more field).level := by
  unfold evaluateField
  dsimp only
  split
  next => exact le_rfl
  next =>
    split
    next =>
      exact graded_mono subset _ (graded_mono subset _ le_rfl (Nat.zero_le _))
        (FieldResult.level_le_allow _)
    next =>
      split
      next =>
        exact graded_mono subset _ (graded_mono subset _ le_rfl (Nat.zero_le _))
          (FieldResult.level_le_allow _)
      next =>
        split
        next => exact graded_mono subset _ le_rfl (Nat.zero_le _)
        next => exact le_rfl

theorem effectivePermissions_mono {roles : List String}
    (wider : request.identity.roles ⊆ roles) :
    effectivePermissions request ⊆ effectivePermissions (request.withRoles roles) := by
  intro permission held
  obtain ⟨role, listed, gives⟩ := List.mem_flatMap.mp held
  exact List.mem_flatMap.mpr ⟨role, wider listed, gives⟩

theorem stricter_withRoles {roles : List String} (wider : request.identity.roles ⊆ roles)
    (known : ∀ role ∈ roles, (rolePermissions.lookup role).isSome)
    (unbound : ∀ role ∈ ["district_officer", "parish_officer"], role ∈ roles →
      role ∈ request.identity.roles) :
    engine.Stricter (request.withRoles roles) request where
  denied := by
    intro denied
    cases denied with
    | role role held isUnknown =>
        have isKnown := known role held
        rw [Option.isNone_iff_eq_none.mp isUnknown] at isKnown
        cases isKnown
    | purpose unrecognised => exact .purpose unrecognised
    | area other =>
        refine .area (other.imp ?_ ?_)
        · exact fun district => ⟨unbound _ (by simp) district.1, district.2⟩
        · exact fun parish => ⟨unbound _ (by simp) parish.1, parish.2⟩
    | dataset permission policy reason required missing =>
        exact .dataset permission policy reason required
          fun held => missing (effectivePermissions_mono wider held)
    | field field listed denied =>
        refine .field field listed ?_
        have lower := evaluateField_mono (effectivePermissions_mono wider) field
        rw [denied] at lower
        exact FieldResult.eq_deny (Nat.le_zero.mp lower)
  awaits := fun awaits => awaits
  masked := by
    rintro permitted name ⟨field, listed, masked, named⟩
    refine ⟨field, listed, ?_, named⟩
    have lower := evaluateField_mono (effectivePermissions_mono wider) field
    rw [masked] at lower
    cases result : evaluateField (effectivePermissions request) field with
    | deny => exact absurd (.field field listed result) permitted
    | mask => rfl
    | allow => simp [result, FieldResult.level] at lower

/-- More fields never raise the decision nor unmask a field, the order and repetition of fields
does not matter, and more roles never lower the decision nor mask a field of a request that was
not denied. -/
theorem decisions_monotone (engine : GovernancePolicyEngine) (request : GovernanceRequest) :
    (∀ fields more, fields ⊆ more →
        (engine.evaluate (request.withFields more)).decision.level ≤
            (engine.evaluate (request.withFields fields)).decision.level ∧
          ((engine.evaluate (request.withFields more)).decision ≠ .deny →
            (engine.evaluate (request.withFields fields)).maskedFields ⊆
              (engine.evaluate (request.withFields more)).maskedFields)) ∧
      (∀ fields fields', (∀ field, field ∈ fields ↔ field ∈ fields') →
        (engine.evaluate (request.withFields fields)).decision =
            (engine.evaluate (request.withFields fields')).decision ∧
          ∀ name, name ∈ (engine.evaluate (request.withFields fields)).maskedFields ↔
            name ∈ (engine.evaluate (request.withFields fields')).maskedFields) ∧
      ∀ roles, request.identity.roles ⊆ roles →
        (∀ role ∈ roles, (rolePermissions.lookup role).isSome) →
        (∀ role ∈ ["district_officer", "parish_officer"], role ∈ roles →
          role ∈ request.identity.roles) →
        (engine.evaluate request).decision.level ≤
            (engine.evaluate (request.withRoles roles)).decision.level ∧
          ((engine.evaluate request).decision ≠ .deny →
            (engine.evaluate (request.withRoles roles)).maskedFields ⊆
              (engine.evaluate request).maskedFields) := by
  refine ⟨?_, ?_, ?_⟩
  · intro fields more subset
    have order := engine.stricter_withFields request subset
    exact ⟨order.level_le, fun permitted name listed => order.masks permitted listed⟩
  · intro fields fields' same
    have forward := engine.stricter_withFields request fun field => (same field).mp
    have backward := engine.stricter_withFields request fun field => (same field).mpr
    have decision := PolicyDecisionType.level_injective
      (Nat.le_antisymm backward.level_le forward.level_le)
    refine ⟨decision, fun name => ?_⟩
    by_cases denied : (engine.evaluate (request.withFields fields)).decision = .deny
    · rw [maskedFields_of_deny denied, maskedFields_of_deny (decision ▸ denied)]
    · exact ⟨forward.masks (decision ▸ denied), backward.masks denied⟩
  · intro roles wider known unbound
    have order := engine.stricter_withRoles wider known unbound
    exact ⟨order.level_le, fun permitted name listed => order.masks permitted listed⟩

/-! ## A field that is masked instead of denied -/

/-- A programme analyst selects the name of a beneficiary. -/
def namesRequest : GovernanceRequest where
  identity := ⟨"ana-1", ["programme_analyst"], [], none, none, some "programme_monitoring"⟩
  action := "read"
  resource := ⟨"iceberg.silver.slv_pdm_loans", ["beneficiary_name"], .internal,
    [⟨"iceberg.silver.slv_pdm_loans", "beneficiary_name", .restricted, some "beneficiary_name"⟩],
    [("beneficiary_name", "beneficiary_name")], none, none⟩
  approval := none

/-- As an investigator too, the analyst has the name masked, which was denied before. -/
theorem investigator_masks :
    ¬ ∀ (engine : GovernancePolicyEngine) (request : GovernanceRequest) roles,
      request.identity.roles ⊆ roles →
      (∀ role ∈ roles, (rolePermissions.lookup role).isSome) →
      (∀ role ∈ ["district_officer", "parish_officer"], role ∈ roles →
        role ∈ request.identity.roles) →
      (engine.evaluate (request.withRoles roles)).maskedFields ⊆
        (engine.evaluate request).maskedFields := by
  intro monotone
  have subset := monotone ⟨none, fun _ => "0123456789abcdef"⟩ namesRequest
    ["programme_analyst", "investigator"] (by decide) (by decide) (by decide)
  revert subset
  decide +kernel

end GovernancePolicyEngine

end PaymentsPlatform.AgentApi
