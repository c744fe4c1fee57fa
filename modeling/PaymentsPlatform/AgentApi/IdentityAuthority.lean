import PaymentsPlatform.AgentApi.Orchestrator

/-!
# Whose authority a request gets

A request is given the roles that the server binds to the subject which its
governance payload names, out of those that it claims.  The first part says that
nothing else in the payload widens this authority (`authority_narrows_only`); the
second, that the subject of the payload need not be the one whose token was
verified (`verified_identity_decides_iff`).
-/

namespace PaymentsPlatform.AgentApi

/-! ## Authorised roles -/

section Roles

variable {resolver : ServerAuthorityResolver} {identity other : IdentityContext}

theorem mem_authorisedRoles {role : String} :
    role ∈ resolver.authorisedRoles identity ↔
      role ∈ resolver.roleAuthorities identity.subjectId ∧ role ∈ identity.roles := by
  simp [ServerAuthorityResolver.authorisedRoles, mem_sortedTexts]

/-- Two identities of one subject that claim the same roles, as far as the server binds them. -/
structure SameClaim (resolver : ServerAuthorityResolver) (identity other : IdentityContext) :
    Prop where
  subject : identity.subjectId = other.subjectId
  roles : ∀ role ∈ resolver.roleAuthorities identity.subjectId,
    (role ∈ identity.roles ↔ role ∈ other.roles)

theorem SameClaim.authorisedRoles_eq (same : SameClaim resolver identity other) :
    resolver.authorisedRoles identity = resolver.authorisedRoles other := by
  have kept : (resolver.roleAuthorities identity.subjectId).dedup.filter (· ∈ identity.roles) =
      (resolver.roleAuthorities identity.subjectId).dedup.filter (· ∈ other.roles) := by
    apply List.filter_congr
    intro role mem
    rw [decide_eq_decide]
    exact same.roles role (List.mem_dedup.mp mem)
  rw [ServerAuthorityResolver.authorisedRoles, kept, same.subject,
    ServerAuthorityResolver.authorisedRoles]

end Roles

/-- A role confers a capability, through one of its governance permissions. -/
def Confers (role : String) (capability : Capability) : Prop :=
  ∃ permission ∈ permissionsOf role,
    agentCapabilityByGovernancePermission.lookup permission = some capability

theorem mem_agentCapabilitiesForRoles {roles : List String} {capability : Capability} :
    capability ∈ agentCapabilitiesForRoles roles ↔ ∃ role ∈ roles, Confers role capability := by
  simp only [agentCapabilitiesForRoles, capabilitiesForRoles, List.mem_filterMap, List.mem_flatMap,
    Confers]
  constructor
  · rintro ⟨permission, ⟨role, isRole, grants⟩, translated⟩
    exact ⟨role, isRole, permission, grants, translated⟩
  · rintro ⟨role, isRole, permission, grants, translated⟩
    exact ⟨permission, ⟨role, isRole, grants⟩, translated⟩

/-! ## A request only narrows -/

section Narrowing

variable (orchestrator : Orchestrator)

theorem permits_effectivePermissions {request : AgentRequest} {governance : GovernanceRequest}
    {capability : Capability}
    (permits : (orchestrator.effectivePermissions request
      (some (orchestrator.authoritativeGovernance governance))).permits capability = true) :
    request.permissions.permits capability = true ∧ capability ∉ privilegedCapabilities ∧
      ∃ role ∈ orchestrator.resolver.roleAuthorities governance.identity.subjectId,
        role ∈ governance.identity.roles ∧ Confers role capability := by
  obtain ⟨requested, isGranted⟩ := Bool.and_eq_true_iff.mp permits
  have granted := of_decide_eq_true isGranted
  simp only [Option.map_some, ServerAuthorityResolver.resolve, Bool.and_eq_true,
    decide_eq_true_eq, List.mem_filter, mem_agentCapabilitiesForRoles] at granted
  obtain ⟨-, ⟨role, isRole, confers⟩, unprivileged⟩ := granted
  have authorised := mem_authorisedRoles.mp isRole
  have claimed := mem_authorisedRoles.mp authorised.2
  exact ⟨requested, unprivileged, role, claimed.1, claimed.2, confers⟩

theorem maxRows_effectivePermissions (request : AgentRequest)
    (governance : Option GovernanceRequest) :
    1 ≤ (orchestrator.effectivePermissions request governance).maxRows ∧
      (orchestrator.effectivePermissions request governance).maxRows ≤
        orchestrator.settings.maxRows := by
  have positive := orchestrator.settings.positive
  simp only [Orchestrator.effectivePermissions, narrowPermissions]
  omega

/-- Two governance payloads that differ only in what the server does not rely on: the claimed
permissions, the claimed roles that the server does not bind to the subject, and all of the
approval but its reference. -/
structure SameReliance (resolver : ServerAuthorityResolver)
    (governance other : GovernanceRequest) : Prop where
  claim : SameClaim resolver governance.identity other.identity
  district : governance.identity.district = other.identity.district
  parish : governance.identity.parish = other.identity.parish
  purpose : governance.identity.purpose = other.identity.purpose
  action : governance.action = other.action
  resource : governance.resource = other.resource
  approval : governance.approval.bind ApprovalContext.approvalId =
    other.approval.bind ApprovalContext.approvalId

variable {orchestrator} {governance other : GovernanceRequest}

theorem authoritativeGovernance_eq (same : SameReliance orchestrator.resolver governance other) :
    orchestrator.authoritativeGovernance governance =
      { orchestrator.authoritativeGovernance other with approval := governance.approval } := by
  obtain ⟨claim, district, parish, purpose, action, resource, -⟩ := same
  simp only [Orchestrator.authoritativeGovernance, claim.authorisedRoles_eq, claim.subject,
    district, parish, purpose, action, resource]

theorem resolveApproval_congr (registry : Option (String → Option ApprovalRecord))
    (request : GovernanceRequest) {approval : Option ApprovalContext}
    (same : approval.bind ApprovalContext.approvalId =
      request.approval.bind ApprovalContext.approvalId) :
    resolveApproval registry { request with approval := approval } =
      resolveApproval registry request := by
  have reference {β : Type} (next : String → Option β) (approval : Option ApprovalContext) :
      (approval.bind fun reference => reference.approvalId.bind next) =
        (approval.bind ApprovalContext.approvalId).bind next := by
    cases approval <;> rfl
  simp only [resolveApproval, bind, reference, same]

theorem evaluate_approval (engine : GovernancePolicyEngine) (request : GovernanceRequest)
    {approval : Option ApprovalContext}
    (same : approval.bind ApprovalContext.approvalId =
      request.approval.bind ApprovalContext.approvalId) :
    engine.evaluate { request with approval := approval } = engine.evaluate request := by
  have access (matched required : List String) :
      engine.evaluateAccess { request with approval := approval } matched required =
        engine.evaluateAccess request matched required := by
    unfold GovernancePolicyEngine.evaluateAccess
    rw [resolveApproval_congr engine.approvalRegistry request same]
    rfl
  unfold GovernancePolicyEngine.evaluate
  simp only [access]
  rfl

end Narrowing

theorem authority_narrows_only (orchestrator : Orchestrator) (engine : GovernancePolicyEngine)
    (request : AgentRequest) (governance : GovernanceRequest) :
    let effective := orchestrator.effectivePermissions request
      (some (orchestrator.authoritativeGovernance governance))
    (∀ capability, effective.permits capability = true →
      request.permissions.permits capability = true ∧ capability ∉ privilegedCapabilities ∧
        ∃ role ∈ orchestrator.resolver.roleAuthorities governance.identity.subjectId,
          role ∈ governance.identity.roles ∧ Confers role capability) ∧
      (1 ≤ effective.maxRows ∧ effective.maxRows ≤ orchestrator.settings.maxRows) ∧
      ∀ other, SameReliance orchestrator.resolver governance other →
        effective = orchestrator.effectivePermissions request
            (some (orchestrator.authoritativeGovernance other)) ∧
          ∀ resource,
            engine.evaluate
                { orchestrator.authoritativeGovernance governance with resource := resource } =
              engine.evaluate
                { orchestrator.authoritativeGovernance other with resource := resource } := by
  intro effective
  refine ⟨fun capability permits => permits_effectivePermissions orchestrator permits,
    maxRows_effectivePermissions orchestrator request _, fun other same => ⟨?_, fun resource => ?_⟩⟩
  · have seen := authoritativeGovernance_eq same
    simp only [effective, Orchestrator.effectivePermissions, Option.map_some, seen]
  · rw [authoritativeGovernance_eq same]
    exact evaluate_approval engine
      { orchestrator.authoritativeGovernance other with resource := resource } same.approval

/-! ## The verified subject -/

/-- The subject that the governance payload of a body names, if there is a valid payload. -/
def HttpBody.claimedSubject (validate : Validate) (body : HttpBody) : Option String := do
  let request ← body.agentRequest
  let governance ← (governanceRequest validate request).toOption.join
  return governance.identity.subjectId

/-- The body is handed to an agent. -/
def HttpBody.IsRouted (body : HttpBody) : Prop := (body.agentRequest.bind route).isSome

/-- The roles that decide are bound to the verified subject, and approvals are looked up for it. -/
def DecidedBy (resolver : ServerAuthorityResolver) (subject : String) : HttpOutcome → Prop
  | .executed _ (.started _ _ (some governance)) =>
      governance.identity.subjectId = subject ∧
        (∀ role ∈ governance.identity.roles, role ∈ resolver.roleAuthorities subject) ∧
        ∀ role ∈ resolver.authorisedRoles governance.identity, role ∈ resolver.roleAuthorities subject
  | _ => True

section Verified

variable (orchestrator : Orchestrator)

theorem decidedBy_authoritative_iff (agent : Agent) (permissions : Permissions)
    (governance : GovernanceRequest) (verified subject : String) :
    DecidedBy orchestrator.resolver subject (.executed verified
        (.started agent permissions (some (orchestrator.authoritativeGovernance governance)))) ↔
      governance.identity.subjectId = subject := by
  constructor
  · exact fun decided => decided.1
  · rintro rfl
    refine ⟨rfl, fun role isRole => (mem_authorisedRoles.mp isRole).1, fun role isRole => ?_⟩
    exact (mem_authorisedRoles.mp isRole).1

theorem verified_identity_decides_iff (orchestrator : Orchestrator) (validate : Validate)
    (verify : Option String → Except String String) (request : HttpRequest) (subject : String)
    (verified : verify request.authorization = .ok subject) :
    DecidedBy orchestrator.resolver subject (orchestrator.handle validate verify request) ↔
      ¬ request.body.IsRouted ∨ ∀ claimed ∈ request.body.claimedSubject validate,
        claimed = subject := by
  rw [Orchestrator.handle, verified]
  dsimp only
  cases built : request.body.agentRequest with
  | none => simp [DecidedBy, HttpBody.IsRouted, built]
  | some agentRequest =>
      have claimed_eq : request.body.claimedSubject validate =
          ((governanceRequest validate agentRequest).toOption.join).map
            fun governance => governance.identity.subjectId := by
        simp [HttpBody.claimedSubject, built, Option.map_eq_bind]
      have routed_iff : request.body.IsRouted ↔ (route agentRequest).isSome := by
        simp [HttpBody.IsRouted, built]
      rw [claimed_eq, routed_iff]
      dsimp only
      unfold Orchestrator.execute
      cases route agentRequest with
      | none => simp [DecidedBy]
      | some agent =>
          cases governanceRequest validate agentRequest with
          | error message => simp [DecidedBy, Except.toOption]
          | ok claimed =>
              cases claimed with
              | none =>
                  dsimp only [Option.map_none]
                  split <;> simp [DecidedBy, Except.toOption]
              | some governance =>
                  have started := decidedBy_authoritative_iff orchestrator agent
                    (orchestrator.effectivePermissions agentRequest
                      (some (orchestrator.authoritativeGovernance governance))) governance subject
                    subject
                  simpa [Except.toOption] using started

end Verified

/-! ## An analyst and a publisher -/

/-- The bindings of two subjects. -/
def sampleOrchestrator : Orchestrator where
  settings := ⟨1000, by decide⟩
  resolver := {
    serverCapabilities := defaultAgentCapabilities
    roleAuthorities := fun subject =>
      if subject = "f1-analyst" then ["programme_analyst"]
      else if subject = "f1-publisher" then ["bi_publisher"]
      else [] }

def sampleGovernance (subjectId : String) (roles : List String) : GovernanceRequest where
  identity := ⟨subjectId, roles, [], none, none, some "programme_monitoring"⟩
  action := "read"
  resource := ⟨"iceberg.silver.slv_pdm_loans", [], .internal, [], [], none, none⟩
  approval := none

/-- Payloads that name a subject and a role. -/
def sampleValidate : Validate := fun payload =>
  match Json.get payload "subject_id", Json.get payload "role" with
  | .string subjectId, .string role => .ok (sampleGovernance subjectId [role])
  | _, _ => .error "identity: Field required"

def sampleVerify : Option String → Except String String
  | some "Bearer analyst" => .ok "f1-analyst"
  | _ => .error "InvalidToken"

def allPermissions : Permissions := ⟨fun _ => true, 5000⟩

/-- A request with the analyst's token, whose body names a subject and a role. -/
def analystRequest (subjectId role : String) : HttpRequest where
  authorization := some "Bearer analyst"
  body := .query {
    objective := "total repayment by district"
    agent := some .analytics
    context := [("governance",
      .object [("subject_id", .string subjectId), ("role", .string role)])]
    permissions := allPermissions }

def sampleEngine : GovernancePolicyEngine where
  approvalRegistry := none
  digest _ := "0123456789abcdef"

/-- The same claim with an unbound role, with permissions and with an approval of one's own. -/
def widenedGovernance : GovernanceRequest :=
  { sampleGovernance "f1-analyst" ["governance_administrator", "programme_analyst"] with
    approval := some ⟨none, "approved", some "f1-analyst", none, none⟩ }

theorem widened_narrowed :
    sampleOrchestrator.effectivePermissions
        ⟨"total repayment by district", none, [], allPermissions⟩
        (some (sampleOrchestrator.authoritativeGovernance
          (sampleGovernance "f1-analyst" ["programme_analyst"]))) =
      sampleOrchestrator.effectivePermissions
        ⟨"total repayment by district", none, [], allPermissions⟩
        (some (sampleOrchestrator.authoritativeGovernance widenedGovernance)) := by
  have same : SameReliance sampleOrchestrator.resolver
      (sampleGovernance "f1-analyst" ["programme_analyst"]) widenedGovernance :=
    ⟨⟨rfl, by decide⟩, rfl, rfl, rfl, rfl, rfl, rfl⟩
  exact ((authority_narrows_only sampleOrchestrator sampleEngine
    ⟨"total repayment by district", none, [], allPermissions⟩
    (sampleGovernance "f1-analyst" ["programme_analyst"])).2.2 widenedGovernance same).1

theorem analyst_decided_by_analyst :
    DecidedBy sampleOrchestrator.resolver "f1-analyst"
      (sampleOrchestrator.handle sampleValidate sampleVerify
        (analystRequest "f1-analyst" "programme_analyst")) := by
  refine (verified_identity_decides_iff sampleOrchestrator sampleValidate sampleVerify
    (analystRequest "f1-analyst" "programme_analyst") "f1-analyst" rfl).mpr (.inr ?_)
  intro claimed isClaimed
  have named : (analystRequest "f1-analyst" "programme_analyst").body.claimedSubject
      sampleValidate = some "f1-analyst" := rfl
  rw [named] at isClaimed
  exact (Option.mem_some_iff.mp isClaimed).symm

/-- With the analyst's token the body selects the publisher's binding. -/
theorem analyst_decided_by_publisher :
    sampleVerify (analystRequest "f1-publisher" "bi_publisher").authorization =
        .ok "f1-analyst" ∧
      ¬ DecidedBy sampleOrchestrator.resolver "f1-analyst"
        (sampleOrchestrator.handle sampleValidate sampleVerify
          (analystRequest "f1-publisher" "bi_publisher")) := by
  refine ⟨rfl, fun decided => ?_⟩
  have bound := decided.2.1 "bi_publisher" (by decide)
  exact absurd bound (by decide)

end PaymentsPlatform.AgentApi
