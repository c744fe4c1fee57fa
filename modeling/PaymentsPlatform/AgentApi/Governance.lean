import Mathlib.Data.List.Sort
import PaymentsPlatform.AgentApi.Classification

/-!
# The governance policy engine

`governance.py` decides from the roles of an identity, the classification of a
resource and a server-held approval whether a request is allowed, masked, held
back for approval or denied.  Permissions are sets of names; the approval in a
request is only a reference into the registry of `approvals.py`.
-/

namespace PaymentsPlatform.AgentApi

/-! ## Requests -/

structure IdentityContext where
  subjectId : String
  roles : List String
  permissions : List String
  district : Option String
  parish : Option String
  purpose : Option String

structure ApprovalContext where
  approvalId : Option String
  status : String
  approver : Option String
  reason : Option String
  expiresAt : Option String

structure GovernanceRequest where
  identity : IdentityContext
  action : String
  resource : ResourceContext
  approval : Option ApprovalContext

/-! ## Roles -/

/-- `ROLE_PERMISSIONS`. -/
def rolePermissions : List (String × List String) :=
  [("public_viewer", ["can_discover_metadata"]),
    ("parish_officer", ["can_discover_metadata", "can_run_read_queries", "can_generate_insights"]),
    ("district_officer", ["can_discover_metadata", "can_run_read_queries",
      "can_run_data_quality_checks", "can_generate_insights"]),
    ("programme_analyst", ["can_discover_metadata", "can_run_read_queries",
      "can_build_data_sources", "can_build_visualizations", "can_build_dashboards",
      "can_generate_insights", "can_run_data_quality_checks", "can_view_internal_data"]),
    ("auditor", ["can_discover_metadata", "can_run_read_queries", "can_run_data_quality_checks",
      "can_view_data_quality_samples", "can_generate_insights", "can_view_internal_data",
      "can_view_confidential_data", "can_view_governance_evidence"]),
    ("investigator", ["can_discover_metadata", "can_run_read_queries",
      "can_run_data_quality_checks", "can_view_data_quality_samples", "can_generate_insights",
      "can_view_internal_data", "can_view_confidential_data", "can_view_restricted_data",
      "can_view_beneficiary_data", "can_request_sensitive_access",
      "can_view_governance_evidence"]),
    ("platform_operator", ["can_discover_metadata", "can_view_internal_data",
      "can_view_governance_evidence"]),
    ("governance_administrator", ["can_discover_metadata", "can_view_internal_data",
      "can_view_confidential_data", "can_view_restricted_data", "can_view_beneficiary_data",
      "can_view_beneficiary_identity", "can_view_sensitive_payment_data",
      "can_manage_governance_policies", "can_view_governance_evidence",
      "can_approve_sensitive_access"]),
    ("bi_publisher", ["can_discover_metadata", "can_run_read_queries", "can_build_visualizations",
      "can_build_dashboards", "can_view_internal_data", "can_view_confidential_data",
      "can_view_restricted_data", "can_publish_bi_assets", "can_view_governance_evidence"])]

/-- `ROLE_PERMISSIONS.get(role, set())`. -/
def permissionsOf (role : String) : List String := (rolePermissions.lookup role).getD []

/-- `RESTRICTED_SEMANTIC_TYPES`. -/
def restrictedSemanticTypes : List String :=
  ["beneficiary_name", "national_identifier", "phone_number", "email", "account_identifier",
    "bank_account", "payment_account_identifier", "address"]

/-- `SENSITIVE_PAYMENT_SEMANTIC_TYPES`. -/
def sensitivePaymentSemanticTypes : List String :=
  ["account_identifier", "bank_account", "payment_account_identifier", "debtor_identity",
    "creditor_identity", "ultimate_debtor", "ultimate_creditor", "remittance_information"]

/-- `APPROVED_PURPOSES`. -/
def approvedPurposes : List String :=
  ["programme_monitoring", "financial_reconciliation", "audit", "investigation", "data_quality",
    "public_reporting", "system_operations"]

/-! ## Approvals -/

/-- A server-held approval. -/
structure ApprovalRecord where
  approvalId : String
  subjectId : String
  action : String
  dataset : String
  status : String

/-- `resolve_approval`: the record that the request refers to, if it is approved and bound to the
request's subject, action and dataset. -/
def resolveApproval (registry : Option (String → Option ApprovalRecord))
    (request : GovernanceRequest) : Option ApprovalRecord := do
  let get ← registry
  let reference ← request.approval
  let approvalId ← reference.approvalId
  if approvalId.isEmpty then none
  else
    let record ← get approvalId
    if record.status ≠ "approved" then none
    else if record.subjectId ≠ request.identity.subjectId then none
    else if record.action ≠ request.action then none
    else if normalizeDataset record.dataset ≠ normalizeDataset request.resource.dataset then none
    else some record

/-! ## Decisions -/

inductive PolicyDecisionType where
  | allow
  | deny
  | mask
  | requireApproval
  deriving DecidableEq, Repr

structure Evidence where
  roles : List String
  purpose : Option String
  dataset : String
  classification : DataClassification
  fields : List String
  district : Option String
  parish : Option String
  deriving DecidableEq

/-- A denial records only the dataset and its classification. -/
inductive DecisionEvidence where
  | denied (dataset : String) (classification : DataClassification)
  | decided (evidence : Evidence)
  deriving DecidableEq

structure PolicyDecision where
  decisionId : String
  subject : String
  action : String
  resource : String
  decision : PolicyDecisionType
  reasons : List String
  matchedPolicies : List String
  maskedFields : List String
  requiredPermissions : List String
  approvalRequired : Bool
  evidence : DecisionEvidence
  deriving DecidableEq

structure GovernancePolicyEngine where
  approvalRegistry : Option (String → Option ApprovalRecord)
  /-- The first sixteen digits of `hashlib.sha256(text.encode("utf-8")).hexdigest()`. -/
  digest : String → String

/-- `sorted(texts)`. -/
def sortedTexts (texts : List String) : List String := texts.insertionSort (· ≤ ·)

theorem mem_sortedTexts {text : String} {texts : List String} :
    text ∈ sortedTexts texts ↔ text ∈ texts :=
  List.mem_insertionSort _

inductive FieldResult where
  | allow
  | mask
  | deny
  deriving DecidableEq, Repr

/-- `_evaluate_field`. -/
def evaluateField (permissions : List String) (field : FieldClassification) : FieldResult :=
  let semanticType := field.semanticType.getD ""
  if field.classification ≠ .restricted then .allow
  else if semanticType = "beneficiary_name" then
    if "can_view_beneficiary_identity" ∈ permissions then .allow
    else if "can_view_beneficiary_data" ∈ permissions then .mask
    else .deny
  else if semanticType ∈ sensitivePaymentSemanticTypes then
    if "can_view_sensitive_payment_data" ∈ permissions then .allow
    else if "can_view_restricted_data" ∈ permissions then .mask
    else .deny
  else if semanticType ∈ restrictedSemanticTypes then
    if "can_view_restricted_data" ∈ permissions then .mask else .deny
  else .mask

/-- `_contains_sensitive_fields`. -/
def containsSensitiveFields (fields : List FieldClassification) : Bool :=
  fields.any fun field => field.classification = .restricted

/-- The permission that a classification requires, the policy that grants it, and the reason for
which it is refused. -/
def classificationPolicy : DataClassification → Option (String × String × String)
  | .publicData => none
  | .internal => some ("can_view_internal_data", "internal_data_policy",
      "Internal data requires 'can_view_internal_data'.")
  | .confidential => some ("can_view_confidential_data", "confidential_data_policy",
      "Confidential data requires 'can_view_confidential_data'.")
  | .restricted => some ("can_view_restricted_data", "restricted_data_policy",
      "Restricted data requires explicit restricted-data permission.")

/-- The texts are there, not empty, and different: the test of the geographic scopes. -/
def outside (subject resource : Option String) : Bool :=
  match subject, resource with
  | some subject, some resource => !subject.isEmpty && !resource.isEmpty && subject ≠ resource
  | _, _ => false

namespace GovernancePolicyEngine

variable (engine : GovernancePolicyEngine) (request : GovernanceRequest)

/-- Permissions come from the roles only. -/
def effectivePermissions (request : GovernanceRequest) : List String :=
  request.identity.roles.flatMap permissionsOf

/-- `_decision_id`. -/
def decisionId : String :=
  "gov_" ++ engine.digest (request.identity.subjectId ++ ":" ++ request.action ++ ":" ++
    request.resource.dataset ++ ":" ++ ",".intercalate (sortedTexts request.resource.fields))

/-- `_evidence`. -/
def evidence (request : GovernanceRequest) : Evidence where
  roles := sortedTexts request.identity.roles
  purpose := request.identity.purpose
  dataset := request.resource.dataset
  classification := request.resource.classification
  fields := sortedTexts request.resource.fields
  district := request.resource.district
  parish := request.resource.parish

/-- `_deny`. -/
def deny (reason policy : String) (required : List String) : PolicyDecision where
  decisionId := engine.decisionId request
  subject := request.identity.subjectId
  action := request.action
  resource := request.resource.dataset
  decision := .deny
  reasons := [reason]
  matchedPolicies := [policy]
  maskedFields := []
  requiredPermissions := required
  approvalRequired := false
  evidence := .denied request.resource.dataset request.resource.classification

/-- A decision other than a denial. -/
def conclude (decision : PolicyDecisionType) (reason : String) (matched masked required : List String)
    (approvalRequired : Bool) : PolicyDecision where
  decisionId := engine.decisionId request
  subject := request.identity.subjectId
  action := request.action
  resource := request.resource.dataset
  decision := decision
  reasons := [reason]
  matchedPolicies := matched
  maskedFields := masked
  requiredPermissions := required
  approvalRequired := approvalRequired
  evidence := .decided (evidence request)

/-- `_evaluate_geography`. -/
def evaluateGeography : Option PolicyDecision :=
  if "district_officer" ∈ request.identity.roles ∧
      outside request.identity.district request.resource.district then
    some (engine.deny request
      "District officer access is restricted to their assigned district."
      "district_scope_policy" [])
  else if "parish_officer" ∈ request.identity.roles ∧
      outside request.identity.parish request.resource.parish then
    some (engine.deny request "Parish officer access is restricted to their assigned parish."
      "parish_scope_policy" [])
  else none

/-- The fields that are masked, or the first one that is denied. -/
def evaluateFields (permissions : List String) :
    List FieldClassification → Except FieldClassification (List String)
  | [] => .ok []
  | field :: rest =>
      match evaluateField permissions field with
      | .deny => .error field
      | .mask => (evaluateFields permissions rest).map (field.field :: ·)
      | .allow => evaluateFields permissions rest

/-- The decision on the fields, once the dataset itself may be read. -/
def evaluateAccess (matched required : List String) : PolicyDecision :=
  let resource := request.resource
  match evaluateFields (effectivePermissions request) resource.fieldClassifications with
  | .error field =>
      engine.deny request ("Access to field '" ++ field.field ++ "' is not permitted.")
        "restricted_field_policy" []
  | .ok masked =>
      let sensitive := containsSensitiveFields resource.fieldClassifications
      if sensitive && (resolveApproval engine.approvalRegistry request).isNone then
        engine.conclude request .requireApproval
          ("Sensitive beneficiary/payment access requires an independent approval bound to " ++
            "this subject, action and resource. A request-supplied approval status is not " ++
            "accepted as authority.")
          (matched ++ ["sensitive_access_approval"]) masked required true
      else
        let matched := if sensitive then matched ++ ["sensitive_access_approval"] else matched
        if !masked.isEmpty then
          engine.conclude request .mask "Access is permitted with field-level masking." matched
            (sortedTexts masked.dedup) required false
        else
          engine.conclude request .allow "Request satisfies configured governance policies." matched
            [] required false

/-- `GovernancePolicyEngine.evaluate`. -/
def evaluate : PolicyDecision :=
  let permissions := effectivePermissions request
  let unknownRoles :=
    request.identity.roles.filter fun role => (rolePermissions.lookup role).isNone
  if !unknownRoles.isEmpty then
    engine.deny request ("Unknown role(s): " ++ ", ".intercalate unknownRoles ++ ".")
      "fail_closed_unknown_role" []
  else if request.identity.purpose.any (· ∉ approvedPurposes) then
    engine.deny request "Requested access purpose is not recognised." "purpose_validation" []
  else
    match engine.evaluateGeography request with
    | some denied => denied
    | none =>
        match classificationPolicy request.resource.classification with
        | none => engine.evaluateAccess request ["public_resource_access"] []
        | some (permission, policy, reason) =>
            if permission ∈ permissions then engine.evaluateAccess request [policy] [permission]
            else engine.deny request reason policy [permission]

end GovernancePolicyEngine

end PaymentsPlatform.AgentApi
