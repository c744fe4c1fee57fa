import PaymentsPlatform.AgentApi.Authority
import PaymentsPlatform.Library.Json

/-!
# The orchestrator and its endpoints

What `orchestrator.py` and the endpoints of `api.py` do with a request until an
agent runs: the middleware verifies the token, the endpoint builds an
`AgentRequest`, and `execute` routes it, reads the governance payload out of its
context, replaces the claimed roles and narrows the permissions.

Verification of tokens and validation of payloads are libraries outside the
repository and are arguments.
-/

namespace PaymentsPlatform.AgentApi

inductive Agent where
  | dataDiscovery
  | analytics
  | visualization
  | dashboard
  | dataQuality
  | insight
  deriving DecidableEq, Repr

/-- `GOVERNED_DATA_AGENTS`. -/
def governedDataAgents : List Agent :=
  [.analytics, .visualization, .dashboard, .dataQuality, .insight]

structure AgentRequest where
  objective : String
  agent : Option Agent
  context : List (String × Json)
  permissions : Permissions

/-- The length that `AgentRequest` requires of an objective. -/
def isObjective (objective : String) : Bool := 3 ≤ objective.length && objective.length ≤ 4000

/-- `any(token in objective for token in tokens)`. -/
def mentions (objective : String) (tokens : List String) : Bool :=
  tokens.any fun token => objective.toLower.toList.tails.any token.toList.isPrefixOf

/-- `route`; `none` is an objective outside the supported scope. -/
def route (request : AgentRequest) : Option Agent :=
  match request.agent with
  | some agent => some agent
  | none =>
      if mentions request.objective ["what changed", "previous period", "deteriorat", "unusual",
          "anomaly", "difference across"] then some .insight
      else if mentions request.objective ["data quality", "complete", "completeness", "missing",
          "duplicate", "unique", "freshness", "stale"] then some .dataQuality
      else if mentions request.objective ["dashboard", "scorecard"] then some .dashboard
      else if mentions request.objective ["visualize", "visualise", "chart", "graph"] then
        some .visualization
      else if mentions request.objective ["what table", "which dataset", "where is", "what data",
          "columns", "schema"] then some .dataDiscovery
      else if mentions request.objective ["performance", "worst", "best", "average", "total",
          "rate", "trend", " by "] then some .analytics
      else none

/-- `GovernanceRequest.model_validate`. -/
abbrev Validate := List (String × Json) → Except String GovernanceRequest

/-- `_governance_request`. -/
def governanceRequest (validate : Validate) (request : AgentRequest) :
    Except String (Option GovernanceRequest) :=
  match Json.get request.context "governance" with
  | .null => .ok none
  | .object payload =>
      match validate payload with
      | .ok governance => .ok (some governance)
      | .error message => .error ("Invalid governance context: " ++ message)
  | _ => .error "context.governance must be an object"

/-- The settings that the orchestrator reads; the server refuses to start without a row limit. -/
structure OrchestratorSettings where
  maxRows : Int
  positive : 1 ≤ maxRows

structure Orchestrator where
  settings : OrchestratorSettings
  resolver : ServerAuthorityResolver

/-- How far a request gets. -/
inductive Outcome where
  | unsupported
  | governanceContextError (message : String)
  | governanceContextRequired (agent : Agent) (permissions : Permissions)
  | started (agent : Agent) (permissions : Permissions) (governance : Option GovernanceRequest)

namespace Orchestrator

variable (orchestrator : Orchestrator)

/-- `_authoritative_governance`: the claimed roles are replaced by the authorised ones, and the
claimed permissions are dropped. -/
def authoritativeGovernance (governance : GovernanceRequest) : GovernanceRequest :=
  { governance with
    identity := { governance.identity with
      roles := orchestrator.resolver.authorisedRoles governance.identity
      permissions := [] } }

def effectivePermissions (request : AgentRequest) (governance : Option GovernanceRequest) :
    Permissions :=
  narrowPermissions request.permissions
    (orchestrator.resolver.resolve (governance.map GovernanceRequest.identity))
    orchestrator.settings.maxRows

/-- `execute`, until the agent runs with its tools. -/
def execute (validate : Validate) (request : AgentRequest) : Outcome :=
  match route request with
  | none => .unsupported
  | some agent =>
      match governanceRequest validate request with
      | .error message => .governanceContextError message
      | .ok claimed =>
          let governance := claimed.map orchestrator.authoritativeGovernance
          if agent ∈ governedDataAgents ∧ governance.isNone then
            .governanceContextRequired agent (orchestrator.effectivePermissions request none)
          else
            .started agent (orchestrator.effectivePermissions request governance) governance

end Orchestrator

/-! ## Endpoints -/

/-- The fields of `InsightRequest` that go into the context when they are not null. -/
structure InsightRequest where
  objective : String
  dataset : Option Json
  metric : Option Json
  dimension : Option Json
  comparison : Option Json
  threshold : Option Json
  permissions : Permissions

/-- `BuildWorkflowRequest`, and what the agent sees of a `DashboardAgentRequest`. -/
structure WorkflowRequest where
  objective : String
  context : List (String × Json)
  permissions : Permissions

/-- The endpoints that run an agent, with their bodies. -/
inductive HttpBody where
  | query (request : AgentRequest)
  | dataQuality (request : AgentRequest)
  | insights (request : InsightRequest)
  | visualize (request : WorkflowRequest)
  | build (request : WorkflowRequest)
  | dashboard (request : WorkflowRequest)

def InsightRequest.context (request : InsightRequest) : List (String × Json) :=
  [("dataset", request.dataset), ("metric", request.metric), ("dimension", request.dimension),
    ("comparison", request.comparison), ("threshold", request.threshold)].filterMap
      fun (name, value) => value.map fun present => (name, present)

/-- The request that an endpoint hands to the orchestrator; the objective of a dashboard is
checked only here. -/
def HttpBody.agentRequest : HttpBody → Option AgentRequest
  | .query request => some request
  | .dataQuality request => some { request with agent := some .dataQuality }
  | .insights request =>
      some ⟨request.objective, some .insight, request.context, request.permissions⟩
  | .visualize request =>
      some ⟨request.objective, some .visualization, request.context, request.permissions⟩
  | .build request =>
      some ⟨request.objective, some .analytics, request.context, request.permissions⟩
  | .dashboard request =>
      if isObjective request.objective then
        some ⟨request.objective, some .dashboard, request.context, request.permissions⟩
      else none

structure HttpRequest where
  authorization : Option String
  body : HttpBody

/-- What a request comes to, with authentication enabled. -/
inductive HttpOutcome where
  | unauthenticated (category : String)
  | invalid
  | executed (subject : String) (outcome : Outcome)

/-- `authentication_hook`, followed by the endpoint.  The verified subject is kept with the
request, where the endpoints do not look. -/
def Orchestrator.handle (orchestrator : Orchestrator) (validate : Validate)
    (verify : Option String → Except String String) (request : HttpRequest) : HttpOutcome :=
  match verify request.authorization with
  | .error category => .unauthenticated category
  | .ok subject =>
      match request.body.agentRequest with
      | none => .invalid
      | some agentRequest => .executed subject (orchestrator.execute validate agentRequest)

end PaymentsPlatform.AgentApi
