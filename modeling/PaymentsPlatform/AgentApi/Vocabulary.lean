import PaymentsPlatform.AgentApi.Decisions

/-!
# The semantic types of the resolver and of the engine

The resolver labels a restricted field with a semantic type, and the engine looks that type up in
lists of its own.  A type that it does not list is masked without a permission, where a listed one
is denied.
-/

namespace PaymentsPlatform.AgentApi

open Library.Fallible

/-- The permissions that are specific to a semantic type. -/
def specificPermissions (semanticType : String) : List String :=
  if semanticType = "beneficiary_name" then
    ["can_view_beneficiary_data", "can_view_beneficiary_identity"]
  else if semanticType ∈ "payment_identifier" :: sensitivePaymentSemanticTypes then
    ["can_view_sensitive_payment_data"]
  else []

/-- The semantic types that the engine knows. -/
def engineSemanticTypes : List String := sensitivePaymentSemanticTypes ++ restrictedSemanticTypes

/-- The roles are known, and give none of the permissions that the field needs. -/
structure GovernanceRequest.Lacks (request : GovernanceRequest) (field : FieldClassification) :
    Prop where
  known : ∀ role ∈ request.identity.roles, (rolePermissions.lookup role).isSome
  general : "can_view_restricted_data" ∉ GovernancePolicyEngine.effectivePermissions request
  specific : ∀ permission ∈ specificPermissions (field.semanticType.getD ""),
    permission ∉ GovernancePolicyEngine.effectivePermissions request

/-- A field that the resolver marks as restricted is denied to everyone who lacks the permissions
for it. -/
def Registry.NeverLetThrough (registry : Registry) (dataset name : String) : Prop :=
  ∀ classification field, registry.classifyDataset dataset = .ok classification →
    registry.classifyField dataset name = .ok field → field.classification = .restricted →
    ∀ (engine : GovernancePolicyEngine) (request : GovernanceRequest),
      request.resource.classification = classification →
      field ∈ request.resource.fieldClassifications → request.Lacks field →
      (engine.evaluate request).decision = .deny

namespace GovernancePolicyEngine

variable {engine : GovernancePolicyEngine} {request : GovernanceRequest}

theorem evaluate_of_denied (denied : request.Denied) :
    (engine.evaluate request).decision = .deny := by
  cases engine.evaluate_decides request with
  | denied _ decision _ => exact decision
  | permitted notDenied _ _ => exact absurd denied notDenied

theorem denied_of_evaluate (decision : (engine.evaluate request).decision = .deny) :
    request.Denied := by
  cases engine.evaluate_decides request with
  | denied denied _ _ => exact denied
  | permitted _ _ permitted =>
      rw [decision] at permitted
      split at permitted
      next => cases permitted
      next => split at permitted <;> cases permitted

end GovernancePolicyEngine

theorem evaluateField_of_listed {request : GovernanceRequest} {field : FieldClassification}
    (restricted : field.classification = .restricted)
    (listed : field.semanticType.getD "" ∈ engineSemanticTypes) (lacks : request.Lacks field) :
    evaluateField (GovernancePolicyEngine.effectivePermissions request) field = .deny := by
  have specific := lacks.specific
  unfold evaluateField specificPermissions at *
  dsimp only
  rw [if_neg (not_not.mpr restricted)]
  split
  next name =>
    rw [if_pos name] at specific
    rw [if_neg (specific _ (by simp)), if_neg (specific _ (by simp))]
  next other =>
    rw [if_neg other] at specific
    split
    next payment =>
      rw [if_pos (List.mem_cons_of_mem _ payment)] at specific
      rw [if_neg (specific _ (by simp)), if_neg lacks.general]
    next =>
      split
      next => rw [if_neg lacks.general]
      next unlisted =>
        rcases List.mem_append.mp listed with payment | identity
        · contradiction
        · contradiction

theorem evaluateField_of_unlisted {permissions : List String} {field : FieldClassification}
    (restricted : field.classification = .restricted)
    (unlisted : field.semanticType.getD "" ∉ engineSemanticTypes) :
    evaluateField permissions field = .mask := by
  obtain ⟨payment, identity⟩ := not_or.mp (mt List.mem_append.mpr unlisted)
  have name : field.semanticType.getD "" ≠ "beneficiary_name" := by
    intro same
    rw [same] at identity
    exact identity (by simp [restrictedSemanticTypes])
  simp only [evaluateField, restricted, ne_eq, not_true_eq_false, if_false, name, payment,
    identity]

/-- An auditor asks for one field of a dataset. -/
def auditorRequest (classification : DataClassification) (field : FieldClassification) :
    GovernanceRequest where
  identity := ⟨"aud-1", ["auditor"], [], none, none, none⟩
  action := "read"
  resource := ⟨field.dataset, [field.field], classification, [field], [], none, none⟩
  approval := none

theorem auditor_permissions (classification : DataClassification) (field : FieldClassification) :
    GovernancePolicyEngine.effectivePermissions (auditorRequest classification field) =
      permissionsOf "auditor" := by
  simp [GovernancePolicyEngine.effectivePermissions, auditorRequest]

theorem auditor_lacks (classification : DataClassification) (field : FieldClassification) :
    (auditorRequest classification field).Lacks field where
  known := by
    simp only [auditorRequest]
    decide
  general := by
    rw [auditor_permissions]
    decide
  specific := by
    intro permission listed
    have all : ∀ permission ∈ ["can_view_beneficiary_data", "can_view_beneficiary_identity",
      "can_view_sensitive_payment_data"], permission ∉ permissionsOf "auditor" := by decide
    rw [auditor_permissions]
    apply all permission
    unfold specificPermissions at listed
    split at listed
    next => exact List.mem_append_left ["can_view_sensitive_payment_data"] listed
    next =>
      split at listed
      next => exact List.mem_append_right ["can_view_beneficiary_data", _] listed
      next => cases listed

theorem auditor_denied {classification : DataClassification} {field : FieldClassification}
    (denied : (auditorRequest classification field).Denied) :
    classification = .restricted ∨ evaluateField
      (GovernancePolicyEngine.effectivePermissions (auditorRequest classification field)) field =
        .deny := by
  cases denied with
  | role role held isUnknown =>
      have isKnown := (auditor_lacks classification field).known role held
      rw [Option.isNone_iff_eq_none.mp isUnknown] at isKnown
      cases isKnown
  | purpose unrecognised => cases unrecognised
  | area other => simp [GovernanceRequest.DeclaresOtherArea, auditorRequest, outside] at other
  | dataset permission policy reason required missing =>
      left
      cases classification with
      | restricted => rfl
      | publicData => cases required
      | internal | confidential =>
          cases required
          rw [auditor_permissions] at missing
          exact absurd (by decide) missing
  | field other listed denied =>
      cases List.mem_singleton.mp listed
      exact .inr denied

theorem letThrough_of_unlisted {registry : Registry} {dataset name : String}
    {classification : DataClassification} {field : FieldClassification}
    (ofDataset : registry.classifyDataset dataset = .ok classification)
    (ofField : registry.classifyField dataset name = .ok field)
    (restricted : field.classification = .restricted) (unrestricted : classification ≠ .restricted)
    (unlisted : field.semanticType.getD "" ∉ engineSemanticTypes) :
    ¬ registry.NeverLetThrough dataset name := by
  intro closed
  have decision := closed classification field ofDataset ofField restricted
    ⟨none, fun text => text⟩ (auditorRequest classification field) rfl
    List.mem_cons_self (auditor_lacks classification field)
  rcases auditor_denied (GovernancePolicyEngine.denied_of_evaluate decision) with
    isRestricted | isDenied
  · exact unrestricted isRestricted
  · rw [evaluateField_of_unlisted restricted unlisted] at isDenied
    cases isDenied

/-- A restricted field is never let through exactly if its dataset is restricted or the engine
knows its semantic type. -/
theorem neverLetThrough_iff (registry : Registry) (dataset name : String) :
    registry.NeverLetThrough dataset name ↔
      ∀ classification field, registry.classifyDataset dataset = .ok classification →
        registry.classifyField dataset name = .ok field → field.classification = .restricted →
        classification = .restricted ∨
          field.semanticType.getD "" ∈ engineSemanticTypes := by
  constructor
  · intro closed classification field ofDataset ofField restricted
    by_contra neither
    obtain ⟨unrestricted, unlisted⟩ := not_or.mp neither
    exact letThrough_of_unlisted ofDataset ofField restricted unrestricted unlisted closed
  · intro known classification field ofDataset ofField restricted engine request same listed lacks
    apply GovernancePolicyEngine.evaluate_of_denied
    rcases known classification field ofDataset ofField restricted with
      isRestricted | knownType
    · refine .dataset "can_view_restricted_data" "restricted_data_policy"
        "Restricted data requires explicit restricted-data permission." ?_ lacks.general
      rw [same, isRestricted]
      rfl
    · exact .field field listed (evaluateField_of_listed restricted knownType lacks)

/-- The engine lists `email`, and the resolver says `email_address`. -/
theorem email_letThrough :
    ¬ platformRegistry.NeverLetThrough "iceberg.silver.slv_pdm_loans" "email" := by
  have ofDataset : platformRegistry.classifyDataset "iceberg.silver.slv_pdm_loans" =
      .ok .internal := by decide +kernel
  have ofField : platformRegistry.classifyField "iceberg.silver.slv_pdm_loans" "email" =
      .ok ⟨"iceberg.silver.slv_pdm_loans", "email", .restricted, some "email_address"⟩ := by
    decide +kernel
  exact letThrough_of_unlisted ofDataset ofField rfl (by decide) (by decide)

end PaymentsPlatform.AgentApi
