import PaymentsPlatform.AgentApi.Disclosure

/-!
# Geographic scope

The policy engine compares the area that an officer is assigned to with the area that the request
declares.  No row is ever compared with either of them, and a request that declares no area passes.
-/

namespace PaymentsPlatform.AgentApi

open Library.Fallible

/-! ## Areas -/

/-- The rows that lie in the area are the same, in every table. -/
def AgreeWithin (level area : String) (contents contents' : Contents) : Prop :=
  ∀ reference, (contents reference).filter (fun row => row level = .text area) =
    (contents' reference).filter fun row => row level = .text area

namespace GovernanceRequest

/-- An officer of one area declares another one. -/
def DeclaresOtherArea (request : GovernanceRequest) : Prop :=
  "district_officer" ∈ request.identity.roles ∧
      outside request.identity.district request.resource.district ∨
    "parish_officer" ∈ request.identity.roles ∧
      outside request.identity.parish request.resource.parish

instance (request : GovernanceRequest) : Decidable request.DeclaresOtherArea :=
  inferInstanceAs (Decidable (_ ∨ _))

/-- The same request by someone who is assigned to no area, for no area. -/
def withoutArea (request : GovernanceRequest) : GovernanceRequest :=
  { request with
    identity := { request.identity with district := none, parish := none }
    resource := { request.resource with district := none, parish := none } }

end GovernanceRequest

section WithoutArea

variable (request : GovernanceRequest)

@[simp]
theorem GovernanceRequest.withoutArea_roles :
    request.withoutArea.identity.roles = request.identity.roles := rfl

@[simp]
theorem GovernanceRequest.withoutArea_purpose :
    request.withoutArea.identity.purpose = request.identity.purpose := rfl

@[simp]
theorem GovernanceRequest.withoutArea_classification :
    request.withoutArea.resource.classification = request.resource.classification := rfl

@[simp]
theorem GovernanceRequest.withoutArea_fieldClassifications :
    request.withoutArea.resource.fieldClassifications = request.resource.fieldClassifications :=
  rfl

@[simp]
theorem effectivePermissions_withoutArea :
    GovernancePolicyEngine.effectivePermissions request.withoutArea =
      GovernancePolicyEngine.effectivePermissions request := rfl

@[simp]
theorem resolveApproval_withoutArea (registry : Option (String → Option ApprovalRecord)) :
    resolveApproval registry request.withoutArea = resolveApproval registry request := rfl

theorem GovernanceRequest.withoutArea_passes : ¬ request.withoutArea.DeclaresOtherArea := by
  simp [DeclaresOtherArea, withoutArea, outside]

end WithoutArea

/-- Nothing outside of the area of an officer influences what the query returns. -/
def ToolRegistry.Scoped (tools : ToolRegistry) (query : Query) (maxRows : Nat)
    (request : GovernanceRequest) : Prop :=
  ∀ role level area,
    (role, level, some area) ∈ [("district_officer", "district", request.identity.district),
      ("parish_officer", "parish", request.identity.parish)] →
    role ∈ request.identity.roles →
    ∀ engine schema contents contents', AgreeWithin level area contents contents' →
      tools.executeQuery (Query.run engine schema contents) query maxRows (some request) =
        tools.executeQuery (Query.run engine schema contents') query maxRows (some request)

/-! ## Decisions -/

namespace GovernancePolicyEngine

variable (engine : GovernancePolicyEngine) {request : GovernanceRequest}

theorem evaluateGeography_eq_none :
    engine.evaluateGeography request = none ↔ ¬ request.DeclaresOtherArea := by
  unfold evaluateGeography GovernanceRequest.DeclaresOtherArea
  split
  next district => simp [district]
  next district =>
    split
    next parish => simp [parish]
    next parish => simp [district, parish]

theorem evaluate_of_other (other : request.DeclaresOtherArea) :
    (engine.evaluate request).decision = .deny := by
  unfold evaluate
  dsimp only
  split
  next => rfl
  next =>
    split
    next => rfl
    next =>
      split
      next denied found => exact evaluateGeography_denies found
      next passed => exact absurd other ((engine.evaluateGeography_eq_none).mp passed)

/-- The decisions differ in their evidence at most. -/
def SameButEvidence (decision decision' : PolicyDecision) : Prop :=
  ∃ evidence, decision = { decision' with evidence := evidence }

theorem evaluateAccess_withoutArea (matched required : List String) :
    SameButEvidence (engine.evaluateAccess request matched required)
      (engine.evaluateAccess request.withoutArea matched required) := by
  simp only [evaluateAccess, effectivePermissions_withoutArea, resolveApproval_withoutArea,
    GovernanceRequest.withoutArea_fieldClassifications]
  cases evaluateFields (effectivePermissions request) request.resource.fieldClassifications with
  | error field => exact ⟨_, rfl⟩
  | ok masked =>
      dsimp only
      by_cases held : (containsSensitiveFields request.resource.fieldClassifications &&
          (resolveApproval engine.approvalRegistry request).isNone) = true
      · simp only [held, if_true]
        exact ⟨_, rfl⟩
      · simp only [held]
        by_cases some : (!masked.isEmpty) = true
        · simp only [some, if_true]
          exact ⟨_, rfl⟩
        · simp only [some]
          exact ⟨_, rfl⟩

theorem evaluate_withoutArea (passes : ¬ request.DeclaresOtherArea) :
    SameButEvidence (engine.evaluate request) (engine.evaluate request.withoutArea) := by
  have passed := (engine.evaluateGeography_eq_none).mpr passes
  have passedWithout := (engine.evaluateGeography_eq_none).mpr request.withoutArea_passes
  simp only [evaluate, passed, passedWithout, effectivePermissions_withoutArea,
    GovernanceRequest.withoutArea_roles, GovernanceRequest.withoutArea_purpose,
    GovernanceRequest.withoutArea_classification]
  by_cases unknown : (!(request.identity.roles.filter fun role =>
      (rolePermissions.lookup role).isNone).isEmpty) = true
  · simp only [unknown, if_true]
    exact ⟨_, rfl⟩
  · simp only [unknown]
    by_cases unrecognised : (request.identity.purpose.any (· ∉ approvedPurposes)) = true
    · simp only [unrecognised, if_true]
      exact ⟨_, rfl⟩
    · simp only [unrecognised]
      cases classificationPolicy request.resource.classification with
      | none => exact engine.evaluateAccess_withoutArea _ _
      | some policy =>
          obtain ⟨permission, policy, reason⟩ := policy
          dsimp only
          by_cases granted : permission ∈ effectivePermissions request
          · simp only [granted, if_true]
            exact engine.evaluateAccess_withoutArea _ _
          · simp only [granted, if_false]
            exact ⟨_, rfl⟩

end GovernancePolicyEngine

/-! ## Queries -/

theorem resolveSql_area (registry : Registry) (query : Query) (district parish : Option String) :
    registry.resolveSql query district parish =
      (registry.resolveSql query none none).map fun resource =>
        { resource with district := district, parish := parish } := by
  unfold Registry.resolveSql
  split
  next => rfl
  next dataset named =>
    dsimp only
    cases projectionLineageFromSql registry query dataset with
    | error error => rfl
    | ok lineage =>
        simp only [Registry.resolveResource, bind, Except.bind]
        cases registry.classifyDataset (normalizeDataset dataset) with
        | error error => rfl
        | ok classification =>
            dsimp only
            cases (Registry.canonicalFields (projectedFieldsFromSql query)).mapM
                (registry.classifyField (normalizeDataset dataset)) with
            | error error => rfl
            | ok fieldClassifications => rfl
  next => rfl

namespace ToolRegistry

variable {tools : ToolRegistry} {query : Query} {request admitted : GovernanceRequest}

theorem authoritative_eq : tools.authoritativeGovernanceRequest query request =
    match tools.resolver.resolveSql query none none with
    | .ok resource => .ok { request with resource := { resource with
        district := request.resource.district, parish := request.resource.parish } }
    | .error error => .error (.denied ("Trusted data classification failed: " ++ error.message)) := by
  rw [authoritativeGovernanceRequest, resolveSql_area]
  cases tools.resolver.resolveSql query none none <;> rfl

theorem execute_congr {result : Result} {request request' : GovernanceRequest}
    {decision decision' : PolicyDecision}
    (lineage : request.resource.fieldLineage = request'.resource.fieldLineage)
    (fields : request.resource.fieldClassifications = request'.resource.fieldClassifications)
    (same : GovernancePolicyEngine.SameButEvidence decision decision') :
    execute result request decision = execute result request' decision' := by
  obtain ⟨evidence, rfl⟩ := same
  have keys : sourceKey request.resource = sourceKey request'.resource := by
    funext label
    simp only [sourceKey, lineage]
  have cells : maskCell request.resource { decision' with evidence := evidence } =
      maskCell request'.resource decision' := by
    funext label cell
    unfold maskCell masks
    rw [keys, fields]
  have rows : maskRow request.resource { decision' with evidence := evidence } =
      maskRow request'.resource decision' := by
    funext labels row
    induction labels generalizing row with
    | nil => cases row <;> rfl
    | cons label labels ih =>
        cases row with
        | nil => rfl
        | cons cell cells' => simp only [maskRow, ih, cells]
  simp only [execute, maskQueryRows, rows]

theorem enforce_of_other (tools : ToolRegistry) (admitted : GovernanceRequest)
    (other : admitted.DeclaresOtherArea) :
    ∃ error, tools.enforceGovernancePreQuery admitted = .error error := by
  simp only [enforceGovernancePreQuery, tools.governanceEngine.evaluate_of_other other]
  exact ⟨_, rfl⟩

theorem enforce_congr {other : GovernanceRequest}
    (same : GovernancePolicyEngine.SameButEvidence (tools.governanceEngine.evaluate admitted)
      (tools.governanceEngine.evaluate other)) :
    (∃ error, tools.enforceGovernancePreQuery admitted = .error error ∧
        tools.enforceGovernancePreQuery other = .error error) ∨
      ∃ decision decision', GovernancePolicyEngine.SameButEvidence decision decision' ∧
        tools.enforceGovernancePreQuery admitted = .ok decision ∧
        tools.enforceGovernancePreQuery other = .ok decision' := by
  obtain ⟨evidence, same⟩ := same
  simp only [enforceGovernancePreQuery, joinedReasons, same]
  generalize tools.governanceEngine.evaluate other = decided
  cases decided with
  | mk _ _ _ _ decision =>
      cases decision with
      | deny | requireApproval => exact .inl ⟨_, rfl, rfl⟩
      | allow | mask => exact .inr ⟨_, _, ⟨evidence, rfl⟩, rfl, rfl⟩

theorem decided_withoutArea (admitted : GovernanceRequest)
    (passes : ¬ admitted.DeclaresOtherArea) (result : Result) :
    (tools.enforceGovernancePreQuery admitted >>= execute result admitted) =
      (tools.enforceGovernancePreQuery admitted.withoutArea >>=
        execute result admitted.withoutArea) := by
  have same := tools.governanceEngine.evaluate_withoutArea passes
  rcases enforce_congr same with
    ⟨error, refused, refusedWithout⟩ | ⟨decision, decision', alike, passed, passedWithout⟩
  · rw [refused, refusedWithout]
    rfl
  · rw [passed, passedWithout]
    exact execute_congr rfl rfl alike

/-- A request for another area is refused before any row is read, and for every other request the
area plays no part. -/
theorem executeQuery_area (tools : ToolRegistry) (query : Query) (maxRows : Nat)
    (request : GovernanceRequest) :
    (request.DeclaresOtherArea → ∃ error, ∀ database,
        tools.executeQuery database query maxRows (some request) = .error error) ∧
      (¬ request.DeclaresOtherArea → ∀ database,
        tools.executeQuery database query maxRows (some request) =
          tools.executeQuery database query maxRows (some request.withoutArea)) := by
  simp only [executeQuery, Option.some_or, authoritative_eq]
  cases validateReadQuery query (min maxRows tools.maxRows) with
  | error error => exact ⟨fun _ => ⟨error, fun _ => rfl⟩, fun _ _ => rfl⟩
  | ok validated =>
      cases tools.resolver.resolveSql query none none with
      | error error => exact ⟨fun _ => ⟨_, fun _ => rfl⟩, fun _ _ => rfl⟩
      | ok resource =>
          constructor
          · intro other
            obtain ⟨error, refused⟩ := tools.enforce_of_other { request with
              resource := { resource with district := request.resource.district,
                                          parish := request.resource.parish } } other
            exact ⟨error, fun database => congrArg (fun decided => decided >>= _) refused⟩
          · intro passes database
            exact decided_withoutArea { request with
              resource := { resource with district := request.resource.district,
                                          parish := request.resource.parish } } passes _

/-! ## A request that declares no area -/

def districtData : Reference := ⟨"iceberg", "consumption", "pdm_district_data"⟩

/-- `SELECT district FROM iceberg.consumption.pdm_district_data`. -/
def allDistricts : Query :=
  .select .done false [.column "" "district"] (.table .cross districtData "" [] .done) [] [] [] []
    none

def districtsResource : ResourceContext where
  dataset := "iceberg.consumption.pdm_district_data"
  fields := ["district"]
  classification := .publicData
  fieldClassifications := [⟨"iceberg.consumption.pdm_district_data", "district", .publicData, none⟩]
  fieldLineage := [("district", "district")]
  district := none
  parish := none

/-- An officer of Kabale, who declares no area. -/
def officerRequest : GovernanceRequest where
  identity := ⟨"officer-1", ["district_officer"], [], some "Kabale", none,
    some "programme_monitoring"⟩
  action := "read"
  resource := ⟨"", [], .publicData, [], [], none, none⟩
  approval := none

/-- A row for each district. -/
def districtRows (names : List String) : Contents := fun reference =>
  if reference = districtData then names.map fun name _ => .text name else []

def districtColumns : Schema := fun _ => ["district"]

theorem allDistricts_resolved :
    platformRegistry.resolveSql allDistricts none none = .ok districtsResource := by
  have datasets : datasetsFromSql allDistricts = ["iceberg.consumption.pdm_district_data"] := by
    decide +kernel
  have fields : projectedFieldsFromSql allDistricts = ["district"] := by decide +kernel
  have lineage : projectionLineageFromSql platformRegistry allDistricts
      "iceberg.consumption.pdm_district_data" = .ok [("district", "district")] := by
    decide +kernel
  rw [resolveSql_single datasets, fields, lineage]
  decide +kernel

theorem allDistricts_bounded (names : List String)
    (listed : names ∈ [["Kabale"], ["Kabale", "Arua"]]) :
    Returns ((bounded allDistricts 100).run coalescing districtColumns (districtRows names))
      ⟨["district"], names.map fun name => [.text name]⟩ := by
  revert names
  unfold Returns
  decide +kernel

def officerAdmitted : GovernanceRequest := { officerRequest with resource := districtsResource }

theorem officer_decision :
    analystTools.governanceEngine.evaluate officerAdmitted =
      analystTools.governanceEngine.conclude officerAdmitted .allow
        "Request satisfies configured governance policies." ["public_resource_access"] []
        [] false := by
  simp [GovernancePolicyEngine.evaluate, GovernancePolicyEngine.evaluateGeography,
    GovernancePolicyEngine.evaluateAccess, GovernancePolicyEngine.evaluateFields, evaluateField,
    GovernancePolicyEngine.effectivePermissions, permissionsOf, rolePermissions, List.lookup_cons,
    approvedPurposes, classificationPolicy, containsSensitiveFields, outside,
    officerAdmitted, officerRequest, districtsResource]

theorem officer_admitted :
    analystTools.Admission allDistricts (some officerRequest) officerAdmitted
      (analystTools.governanceEngine.evaluate officerAdmitted) where
  valid := rfl
  request := ⟨officerRequest, rfl, authoritative_of_resolved allDistricts_resolved⟩
  decided := enforce_of_permitted (.inr (by rw [officer_decision]; rfl))

theorem officer_executed (names : List String)
    (listed : names ∈ [["Kabale"], ["Kabale", "Arua"]]) : ∃ result,
    analystTools.executeQuery (Query.run coalescing districtColumns (districtRows names))
      allDistricts 100 (some officerRequest) = .ok result ∧
      result.rows = names.map fun name => [.text name] := by
  obtain ⟨result, executed, -, rows⟩ :=
    officer_admitted.executed 100 (allDistricts_bounded names listed)
  refine ⟨result, executed, ?_⟩
  rw [rows, maskQueryRows, if_pos (by simp [officer_decision, GovernancePolicyEngine.conclude])]

/-- The officer of Kabale is shown the rows of Arua. -/
theorem officer_not_scoped : ¬ analystTools.Scoped allDistricts 100 officerRequest := by
  intro closed
  obtain ⟨result, executed, rows⟩ := officer_executed ["Kabale"] (by simp)
  obtain ⟨result', executed', rows'⟩ := officer_executed ["Kabale", "Arua"] (by simp)
  have agree : AgreeWithin "district" "Kabale" (districtRows ["Kabale"])
      (districtRows ["Kabale", "Arua"]) := by
    intro reference
    rw [districtRows, districtRows]
    split <;> simp
  have same := closed "district_officer" "district" "Kabale" (by simp [officerRequest])
    (by simp [officerRequest]) coalescing districtColumns _ _ agree
  rw [executed, executed'] at same
  cases same
  rw [rows] at rows'
  simp at rows'

end ToolRegistry

end PaymentsPlatform.AgentApi
