import PaymentsPlatform.AgentApi.Governance
import PaymentsPlatform.AgentApi.Resolution
import PaymentsPlatform.AgentApi.Runs

/-!
# Governed queries

`ToolRegistry.execute_query` of `tools.py`: a query is classified from its own text, decided on by
the policy engine, run inside a bounding wrapper, and masked by the lineage of its output labels.
-/

namespace PaymentsPlatform.AgentApi

/-! ## Masking -/

def stars (count : Nat) : String := String.ofList (List.replicate count '*')

/-- `mask_phone` and its kin: stars up to the last characters. -/
def maskTail (kept : Nat) (value : String) : String :=
  if value.length ≤ kept then stars value.length
  else stars (value.length - kept) ++ String.ofList (value.toList.drop (value.length - kept))

def maskPhone (value : String) : String := maskTail 4 value

def maskAccount (value : String) : String := maskPhone value

def maskNationalIdentifier (value : String) : String := maskTail 3 value

def maskEmail (value : String) : String :=
  if '@' ∈ value.toList then
    let domain := String.ofList ((value.toList.dropWhile (· ≠ '@')).drop 1)
    match value.toList.takeWhile (· ≠ '@') with
    | [] => "***@" ++ domain
    | first :: _ => String.ofList [first] ++ "***@" ++ domain
  else "***"

/-- `mask_value` of a value that is not null. -/
def maskText (semanticType : Option String) (value : String) : String :=
  if semanticType = some "phone_number" then maskPhone value
  else if semanticType = some "account_identifier" ∨ semanticType = some "bank_account" ∨
      semanticType = some "payment_account_identifier" then maskAccount value
  else if semanticType = some "national_identifier" then maskNationalIdentifier value
  else if semanticType = some "email" then maskEmail value
  else "***"

/-- `mask_value`. -/
def maskValue (semanticType : Option String) : Cell → Cell
  | .null => .null
  | .text value => .text (maskText semanticType value)
  | .other _ shown => .text (maskText semanticType shown)

/-- The source field that the lineage gives for a label, or else the label itself. -/
def sourceKey (resource : ResourceContext) (label : String) : String :=
  let lineage := resource.fieldLineage.foldl
    (fun lineage entry => assign lineage entry.1.toLower entry.2.toLower) []
  (lineage.lookup label.toLower).getD label.toLower

/-- The cells of an output column are masked. -/
def masks (resource : ResourceContext) (decision : PolicyDecision) (label : String) : Bool :=
  sourceKey resource label ∈ decision.maskedFields.map String.toLower

def maskCell (resource : ResourceContext) (decision : PolicyDecision) (label : String)
    (cell : Cell) : Cell :=
  if masks resource decision label then
    match resource.fieldClassifications.reverse.find?
        fun item => item.field.toLower = sourceKey resource label with
    | none => .text "***"
    | some classification => maskValue classification.semanticType cell
  else cell

def maskRow (resource : ResourceContext) (decision : PolicyDecision) :
    List String → List Cell → List Cell
  | label :: labels, cell :: cells =>
      maskCell resource decision label cell :: maskRow resource decision labels cells
  | _, cells => cells

/-- `_mask_query_rows`. -/
def maskQueryRows (columns : List String) (rows : List (List Cell)) (request : GovernanceRequest)
    (decision : PolicyDecision) : List (List Cell) :=
  if decision.decision ≠ .mask then rows
  else rows.map (maskRow request.resource decision columns)

/-! ## Execution -/

inductive ExecutionError where
  | invalid (message : String)
  | denied (reason : String)
  | approvalRequired (reason : String)
  /-- The database has failed the query. -/
  | failed
  deriving DecidableEq

/-- The part of a decision that is returned with the rows. -/
structure GovernanceSummary where
  decisionId : String
  decision : PolicyDecisionType
  maskedFields : List String
  matchedPolicies : List String
  approvalRequired : Bool
  deriving DecidableEq

/-- The result, less the identifier that the database gives the run. -/
structure QueryResult where
  columns : List String
  rows : List (List Cell)
  rowCount : Nat
  governance : GovernanceSummary
  deriving DecidableEq

def ClassificationError.message : ClassificationError → String
  | .unknownDataset message => message
  | .ambiguousDataset message => message
  | .other message => message

/-- The statements that `validate_read_query` lets through: selects, unions, and these in
parentheses. -/
def Query.readOnly : Query → Bool
  | .combine _ .intersect _ _ _ _ => false
  | .combine _ .except _ _ _ _ => false
  | _ => true

/-- `SELECT * FROM (...) AS agent_bounded LIMIT n`. -/
def bounded (query : Query) (maxRows : Nat) : Query :=
  .select .done false [.star] (.derived .cross query "agent_bounded" [] .done) [] [] [] []
    (some maxRows)

theorem run_bounded (engine : Engine) (schema : Schema) (contents : Contents) (query : Query)
    (maxRows : Nat) :
    (bounded query maxRows).run engine schema contents =
      Result.select engine (bounded query maxRows) false
        [("agent_bounded", query.run engine schema contents)] fun frame =>
          ⟨positionLabels (frame.map fun binding => (binding.label, binding.value)), []⟩ := by
  simp [Query.run, bounded, Query.eval, evalAll, Expr.eval, From.eval, From.conditions, With.eval,
    concrete, itemOutputs]

/-- `validate_read_query`: the statement to execute. -/
def validateReadQuery (query : Query) (maxRows : Nat) : Except ExecutionError Query :=
  if query.readOnly then .ok (bounded query maxRows)
  else .error (.invalid "only SELECT or WITH/CTE SELECT queries are allowed")

/-- `"; ".join(decision.reasons) or default`. -/
def joinedReasons (decision : PolicyDecision) (default : String) : String :=
  let reason := "; ".intercalate decision.reasons
  if reason = "" then default else reason

structure ToolRegistry where
  resolver : Registry
  governanceEngine : GovernancePolicyEngine
  governanceRequest : Option GovernanceRequest
  maxRows : Nat

namespace ToolRegistry

variable (tools : ToolRegistry)

/-- `_authoritative_governance_request`. -/
def authoritativeGovernanceRequest (query : Query) (request : GovernanceRequest) :
    Except ExecutionError GovernanceRequest :=
  match tools.resolver.resolveSql query request.resource.district request.resource.parish with
  | .ok resource => .ok { request with resource := resource }
  | .error error => .error (.denied ("Trusted data classification failed: " ++ error.message))

/-- `_enforce_governance_pre_query`. -/
def enforceGovernancePreQuery (request : GovernanceRequest) : Except ExecutionError PolicyDecision :=
  let decision := tools.governanceEngine.evaluate request
  match decision.decision with
  | .deny => .error (.denied (joinedReasons decision "Governance policy denied access."))
  | .requireApproval =>
      .error (.approvalRequired (joinedReasons decision "Governance policy requires approval."))
  | _ => .ok decision

/-- The inner `execute`: what is returned of a run. -/
def execute (result : Result) (request : GovernanceRequest) (decision : PolicyDecision) :
    Except ExecutionError QueryResult :=
  if result.trace.failed then .error .failed
  else
    let rows := maskQueryRows result.table.labels result.table.rows request decision
    .ok {
      columns := result.table.labels
      rows := rows
      rowCount := rows.length
      governance := ⟨decision.decisionId, decision.decision, decision.maskedFields,
        decision.matchedPolicies, decision.approvalRequired⟩ }

/-- `execute_query`. -/
def executeQuery (database : Query → Result) (query : Query) (maxRows : Nat)
    (governanceRequest : Option GovernanceRequest) : Except ExecutionError QueryResult :=
  match governanceRequest.or tools.governanceRequest with
  | none => .error (.denied ("Governance context is required for every governed query. " ++
      "A query without resolved governance authority is denied before execution."))
  | some request => do
      let validated ← validateReadQuery query (min maxRows tools.maxRows)
      let request ← tools.authoritativeGovernanceRequest query request
      let decision ← tools.enforceGovernancePreQuery request
      execute (database validated) request decision

/-- The query is executed: the request that is decided on, and the decision. -/
structure Admission (query : Query) (governanceRequest : Option GovernanceRequest)
    (admitted : GovernanceRequest) (decision : PolicyDecision) : Prop where
  valid : query.readOnly
  request : ∃ request, governanceRequest.or tools.governanceRequest = some request ∧
    tools.authoritativeGovernanceRequest query request = .ok admitted
  decided : tools.enforceGovernancePreQuery admitted = .ok decision

variable {tools} {query : Query} {governanceRequest : Option GovernanceRequest}
  {admitted : GovernanceRequest} {decision : PolicyDecision}

theorem Admission.executeQuery_eq
    (admission : tools.Admission query governanceRequest admitted decision)
    (database : Query → Result) (maxRows : Nat) :
    tools.executeQuery database query maxRows governanceRequest =
      execute (database (bounded query (min maxRows tools.maxRows))) admitted decision := by
  obtain ⟨request, given, resolved⟩ := admission.request
  simp [executeQuery, given, validateReadQuery, admission.valid, resolved, admission.decided, bind,
    Except.bind]

theorem Admission.decision_eq
    (admission : tools.Admission query governanceRequest admitted decision) :
    tools.governanceEngine.evaluate admitted = decision := by
  have decided := admission.decided
  rw [enforceGovernancePreQuery] at decided
  split at decided
  · cases decided
  · cases decided
  · cases decided
    rfl

theorem enforce_of_permitted (permits : (tools.governanceEngine.evaluate admitted).decision = .mask ∨
      (tools.governanceEngine.evaluate admitted).decision = .allow) :
    tools.enforceGovernancePreQuery admitted = .ok (tools.governanceEngine.evaluate admitted) := by
  rw [enforceGovernancePreQuery]
  rcases permits with
    mask | allow
  · simp only [mask]
  · simp only [allow]

theorem authoritative_of_resolved {request : GovernanceRequest} {resource : ResourceContext}
    (resolved : tools.resolver.resolveSql query request.resource.district request.resource.parish =
      .ok resource) :
    tools.authoritativeGovernanceRequest query request =
      .ok { request with resource := resource } := by
  rw [authoritativeGovernanceRequest, resolved]

theorem Admission.resolved
    (admission : tools.Admission query governanceRequest admitted decision) :
    ∃ district parish, tools.resolver.resolveSql query district parish = .ok admitted.resource := by
  obtain ⟨request, -, resolved⟩ := admission.request
  refine ⟨request.resource.district, request.resource.parish, ?_⟩
  rw [authoritativeGovernanceRequest] at resolved
  split at resolved
  next resource found =>
    cases resolved
    exact found
  next => cases resolved

end ToolRegistry

end PaymentsPlatform.AgentApi
