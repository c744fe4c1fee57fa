import PaymentsPlatform.AgentApi.Governance

/-!
# Server-derived authority

`authority.py` turns the roles that the server binds to a subject into
capabilities of the agent platform, and narrows the permissions of a request to
them.  Governance permissions and capabilities are two vocabularies; the former
are names, the latter are the flags of `models.Permissions`.
-/

namespace PaymentsPlatform.AgentApi

/-- The boolean fields of `Permissions`. -/
inductive Capability where
  | canDiscoverMetadata
  | canExecuteReadQueries
  | canBuildVisualizations
  | canBuildDashboards
  | canPublishBiAssets
  | canRunDataQualityChecks
  | canViewDataQualitySamples
  | canGenerateInsights
  deriving DecidableEq, Repr

/-- `models.Permissions`. -/
structure Permissions where
  permits : Capability → Bool
  maxRows : Int

/-- `DEFAULT_AGENT_CAPABILITIES`. -/
def defaultAgentCapabilities : List Capability :=
  [.canDiscoverMetadata, .canExecuteReadQueries, .canBuildVisualizations, .canBuildDashboards,
    .canRunDataQualityChecks, .canGenerateInsights]

/-- `PRIVILEGED_CAPABILITIES`. -/
def privilegedCapabilities : List Capability := [.canPublishBiAssets, .canViewDataQualitySamples]

/-- `AGENT_CAPABILITY_BY_GOVERNANCE_PERMISSION`. -/
def agentCapabilityByGovernancePermission : List (String × Capability) :=
  [("can_discover_metadata", .canDiscoverMetadata),
    ("can_run_read_queries", .canExecuteReadQueries),
    ("can_build_visualizations", .canBuildVisualizations),
    ("can_build_dashboards", .canBuildDashboards),
    ("can_run_data_quality_checks", .canRunDataQualityChecks),
    ("can_generate_insights", .canGenerateInsights),
    ("can_view_data_quality_samples", .canViewDataQualitySamples)]

/-- `capabilities_for_roles`, in the vocabulary of governance. -/
def capabilitiesForRoles (roles : List String) : List String := roles.flatMap permissionsOf

/-- `agent_capabilities_for_roles`. -/
def agentCapabilitiesForRoles (roles : List String) : List Capability :=
  (capabilitiesForRoles roles).filterMap fun permission =>
    agentCapabilityByGovernancePermission.lookup permission

inductive AuthoritySource where
  | serverConfiguration
  | identityRoles
  deriving DecidableEq, Repr

structure Authority where
  subjectId : String
  capabilities : List Capability
  roles : List String
  source : AuthoritySource
  authenticated : Bool

structure ServerAuthorityResolver where
  serverCapabilities : List Capability
  /-- The roles that the server binds to each subject. -/
  roleAuthorities : String → List String

namespace ServerAuthorityResolver

variable (resolver : ServerAuthorityResolver)

/-- The roles that the server authorises, out of those that the identity claims. -/
def authorisedRoles (identity : IdentityContext) : List String :=
  sortedTexts ((resolver.roleAuthorities identity.subjectId).dedup.filter (· ∈ identity.roles))

/-- `resolve`, on the request path, where nothing is authenticated. -/
def resolve (identity : Option IdentityContext) : Authority :=
  match identity with
  | none => ⟨"", resolver.serverCapabilities, [], .serverConfiguration, false⟩
  | some identity =>
      let roles := resolver.authorisedRoles identity
      let granted := resolver.serverCapabilities.filter fun capability =>
        capability ∈ agentCapabilitiesForRoles roles && capability ∉ privilegedCapabilities
      ⟨identity.subjectId, granted, roles, .identityRoles, false⟩

end ServerAuthorityResolver

/-- `narrow_permissions`: every flag is requested and granted, and the rows are bounded. -/
def narrowPermissions (requested : Permissions) (authority : Authority) (serverMaxRows : Int) :
    Permissions where
  permits capability := requested.permits capability && capability ∈ authority.capabilities
  maxRows := max 1 (min requested.maxRows serverMaxRows)

end PaymentsPlatform.AgentApi
