import PaymentsPlatform.AgentApi.Masking
import PaymentsPlatform.AgentApi.StarProjections

/-!
# Disclosure without approval

Without an approval a query is executed only if no field that it writes in a select list is
restricted.  Which rows it returns depends on the columns of its other clauses, which are not
classified: restricted columns show through them and through nothing else that is written.
-/

namespace PaymentsPlatform.AgentApi

open Library.Fallible

/-! ## Restricted columns -/

namespace Registry

/-- `classify_field` marks the field as restricted. -/
def restricts (registry : Registry) (dataset field : String) : Bool :=
  match registry.classifyField dataset field with
  | .ok classification => classification.classification = .restricted
  | .error _ => false

/-- A column that is restricted in the dataset of its table. -/
def restrictedColumn (registry : Registry) (reference : Reference) (column : String) : Bool :=
  registry.restricts (normalizeDataset reference.dataset) column

theorem restricts_congr (registry : Registry) (dataset : String) {field field' : String}
    (same : normalizeIdentifier field = normalizeIdentifier field') :
    registry.restricts dataset field = registry.restricts dataset field' := by
  simp only [restricts, classifyField, fieldClassification, same]

end Registry

theorem sensitive_of_writes {registry : Registry} {query : Query} {district parish : Option String}
    {resource : ResourceContext}
    (resolved : registry.resolveSql query district parish = .ok resource) {field : String}
    (written : query.Writes field) (restricted : registry.restricts resource.dataset field) :
    containsSensitiveFields resource.fieldClassifications := by
  obtain ⟨dataset, lineage, -, -, rest⟩ := resolveSql_ok resolved
  obtain ⟨-, mapped, named, -⟩ := resolveResource_ok rest
  obtain ⟨name, projected, filled, filledTwice, same⟩ := written
  have canonical : normalizeIdentifier (normalizeIdentifier name) ∈
      Registry.canonicalFields (projectedFieldsFromSql query) := by
    rw [canonicalFields_eq, mem_distinctTexts, List.mem_map]
    refine ⟨⟨normalizeIdentifier name, ?_, rfl⟩, filledTwice⟩
    exact mem_distinctTexts.mpr ⟨List.mem_map_of_mem projected, filled⟩
  obtain ⟨position, inside, here⟩ := List.mem_iff_getElem.mp canonical
  have classified := mapM_ok mapped
  have found := classified.get inside (classified.length_eq ▸ inside)
  rw [List.get_eq_getElem, List.get_eq_getElem, here] at found
  rw [← Registry.restricts_congr registry resource.dataset same, named, Registry.restricts, found]
    at restricted
  exact List.any_eq_true.mpr ⟨_, List.getElem_mem _, restricted⟩

/-! ## Allowed requests -/

namespace GovernancePolicyEngine

variable {engine : GovernancePolicyEngine} {request : GovernanceRequest}

theorem evaluateGeography_denies {decision : PolicyDecision}
    (evaluated : engine.evaluateGeography request = some decision) : decision.decision = .deny := by
  rw [evaluateGeography] at evaluated
  split at evaluated
  · cases evaluated
    rfl
  · split at evaluated
    · cases evaluated
      rfl
    · cases evaluated

theorem evaluateAccess_not_allow {matched required : List String}
    (sensitive : containsSensitiveFields request.resource.fieldClassifications)
    (unapproved : resolveApproval engine.approvalRegistry request = none) :
    (engine.evaluateAccess request matched required).decision ≠ .allow := by
  rw [evaluateAccess]
  split
  · simp [deny]
  · simp [sensitive, unapproved, conclude]

theorem not_sensitive_of_allow (allow : (engine.evaluate request).decision = .allow)
    (unapproved : resolveApproval engine.approvalRegistry request = none) :
    ¬ containsSensitiveFields request.resource.fieldClassifications := by
  intro sensitive
  rw [evaluate] at allow
  split at allow
  · simp [deny] at allow
  split at allow
  · simp [deny] at allow
  split at allow
  next denied evaluated =>
    rw [evaluateGeography_denies evaluated] at allow
    cases allow
  split at allow
  · exact evaluateAccess_not_allow sensitive unapproved allow
  split at allow
  · exact evaluateAccess_not_allow sensitive unapproved allow
  · simp [deny] at allow

end GovernancePolicyEngine

/-! ## Disclosure -/

/-- A column of the dataset that was reached by writing its name, and is classified by it. -/
structure Origin.Classified (dataset : String) (origin : Origin) : Prop where
  named : origin.named
  plain : PlainName origin.field
  governed : normalizeDataset origin.reference.dataset = dataset

namespace ToolRegistry

/-- The query is executed over a dataset that is not restricted, with an `ALLOW` decision and no
approval. -/
structure Unapproved (tools : ToolRegistry) (query : Query)
    (governanceRequest : Option GovernanceRequest) (admitted : GovernanceRequest)
    (decision : PolicyDecision) : Prop where
  admission : tools.Admission query governanceRequest admitted decision
  unrestricted : admitted.resource.classification ≠ .restricted
  allow : decision.decision = .allow
  unapproved : resolveApproval tools.governanceEngine.approvalRegistry admitted = none

/-- Whatever the database: over contents that differ in restricted columns only, the query returns
the same. -/
def SameResults (tools : ToolRegistry) (schema : Schema) (query : Query) (maxRows : Nat)
    (governanceRequest : Option GovernanceRequest) : Prop :=
  ∀ engine contents contents', AgreeOutside tools.resolver.restrictedColumn contents contents' →
    tools.executeQuery (Query.run engine schema contents) query maxRows governanceRequest =
      tools.executeQuery (Query.run engine schema contents') query maxRows governanceRequest

/-- Without an approval, nothing restricted shows in the result. -/
def NoDisclosure (tools : ToolRegistry) (schema : Schema) (query : Query) (maxRows : Nat)
    (governanceRequest : Option GovernanceRequest) : Prop :=
  ∀ admitted decision, tools.Unapproved query governanceRequest admitted decision →
    tools.SameResults schema query maxRows governanceRequest

/-- A restricted column is exposed only as one that the policy engine has classified. -/
def ExposesClassified (tools : ToolRegistry) (schema : Schema) (query : Query) (maxRows : Nat)
    (admitted : GovernanceRequest) : Prop :=
  ∀ origin ∈ ((bounded query (min maxRows tools.maxRows)).shape schema).reads,
    ¬ origin.Classified admitted.resource.dataset →
    tools.resolver.restrictedColumn origin.reference origin.field = false

/-- What is disclosed is disclosed by the choice of rows, and by every clause that makes it from a
restricted column. -/
structure DisclosesByClauses (tools : ToolRegistry) (schema : Schema) (query : Query)
    (maxRows : Nat) (governanceRequest : Option GovernanceRequest) : Prop where
  chosen : ∀ engine contents contents',
    AgreeOutside tools.resolver.restrictedColumn contents contents' →
    ((bounded query (min maxRows tools.maxRows)).run engine schema contents).trace =
      ((bounded query (min maxRows tools.maxRows)).run engine schema contents').trace →
    tools.executeQuery (Query.run engine schema contents) query maxRows governanceRequest =
      tools.executeQuery (Query.run engine schema contents') query maxRows governanceRequest
  clauses : tools.SameResults schema query maxRows governanceRequest ↔
    ∀ origin ∈ ((bounded query (min maxRows tools.maxRows)).shape schema).guards,
      tools.resolver.restrictedColumn origin.reference origin.field = false

variable {tools : ToolRegistry} {schema : Schema} {query : Query} {maxRows : Nat}
  {governanceRequest : Option GovernanceRequest} {admitted : GovernanceRequest}
  {decision : PolicyDecision}

theorem projectedColumns_bounded {name : String}
    (projected : name ∈ projectedColumns (bounded query maxRows).render) :
    name ∈ projectedColumns query.render := by
  have star : ¬ ∃ expression ∈ projections (bounded query maxRows).render,
      ¬ expression.label.isStar ∧ name ∈ columnNames expression := by
    rintro ⟨expression, member, plain, -⟩
    rw [bounded, Query.render] at member
    cases List.mem_singleton.mp member
    exact plain rfl
  have bare : name ∉ projectedColumns (.node .star []) := by
    rw [mem_projectedColumns_other rfl]
    exact projectedUnder_nil name
  have source : name ∈ projectedColumns (.node (.subquery "agent_bounded") [query.render]) ↔
      ProjectedUnder name [query.render] := mem_projectedColumns_other rfl
  rw [bounded, Query.render, mem_projectedColumns_node] at projected
  rcases projected with
    own | below
  · exact absurd own star
  · simpa [renderAll, Expr.render, From.render, With.render, clause, projectedUnder_fromClauses,
      bare, source] using below

theorem Unapproved.classified
    (executed : tools.Unapproved query governanceRequest admitted decision) {origin : Origin}
    (read : origin ∈ ((bounded query maxRows).shape schema).reads)
    (classified : origin.Classified admitted.resource.dataset) :
    tools.resolver.restrictedColumn origin.reference origin.field = false := by
  by_contra restricted
  obtain ⟨district, parish, resolved⟩ := executed.admission.resolved
  have written := writes_of_plain
    (projectedColumns_bounded (shape_named_written read classified.named)) classified.plain
  have sensitive : containsSensitiveFields admitted.resource.fieldClassifications := by
    apply sensitive_of_writes resolved written
    simpa [Registry.restrictedColumn, classified.governed] using restricted
  have allow : (tools.governanceEngine.evaluate admitted).decision = .allow := by
    rw [executed.admission.decision_eq, executed.allow]
  exact GovernancePolicyEngine.not_sensitive_of_allow allow executed.unapproved sensitive

theorem execute_allow (allow : decision.decision = .allow) {result : Result}
    {returned : QueryResult} (executed : execute result admitted decision = .ok returned) :
    returned.rows = result.table.rows := by
  rw [(execute_ok executed).2, maskQueryRows, if_pos (by simp [allow])]

theorem not_failed_of_execute {result : Result} {returned : QueryResult}
    (executed : execute result admitted decision = .ok returned) : result.trace.failed = false := by
  rw [execute] at executed
  split at executed
  · cases executed
  next fine => simpa using fine

theorem Unapproved.same_of_chosen
    (executed : tools.Unapproved query governanceRequest admitted decision) {engine : Engine}
    {contents contents' : Contents}
    (agree : AgreeOutside tools.resolver.restrictedColumn contents contents')
    (trace : ((bounded query (min maxRows tools.maxRows)).run engine schema contents).trace =
      ((bounded query (min maxRows tools.maxRows)).run engine schema contents').trace)
    (reads : Clean tools.resolver.restrictedColumn
      ((bounded query (min maxRows tools.maxRows)).shape schema).reads) :
    tools.executeQuery (Query.run engine schema contents) query maxRows governanceRequest =
      tools.executeQuery (Query.run engine schema contents') query maxRows governanceRequest := by
  have tables := (value_scalar (runs_alike engine schema agree
    (bounded query (min maxRows tools.maxRows)))).tables (by simp [trace]) reads
  simp only [List.map_singleton, List.cons.injEq, and_true] at tables
  rw [executed.admission.executeQuery_eq, executed.admission.executeQuery_eq, execute, execute,
    trace, tables]

theorem Unapproved.same_results_iff
    (executed : tools.Unapproved query governanceRequest admitted decision) :
    tools.SameResults schema query maxRows governanceRequest ↔
      Clean tools.resolver.restrictedColumn
        ((bounded query (min maxRows tools.maxRows)).shape schema).guards ∧
      Clean tools.resolver.restrictedColumn
        ((bounded query (min maxRows tools.maxRows)).shape schema).reads := by
  constructor
  · intro closed
    have shown := runs_shown schema true (fun _ _ => false) tools.resolver.restrictedColumn
      (bounded query (min maxRows tools.maxRows))
    have same := closed (revealing true) _ _ (marking_agree _)
    rw [executed.admission.executeQuery_eq, executed.admission.executeQuery_eq] at same
    have unmarked : ∀ origins, dirty (fun _ _ => false) origins = false := by simp [dirty]
    obtain ⟨returned, first⟩ : ∃ returned, execute ((bounded query (min maxRows tools.maxRows)).run
        (revealing true) schema (marking fun _ _ => false)) admitted decision = .ok returned :=
      execute_of_not_failed (by rw [shown.failed.1, unmarked]; rfl)
    have second := same.symm.trans first
    have guards : dirty tools.resolver.restrictedColumn
        ((bounded query (min maxRows tools.maxRows)).shape schema).guards = false := by
      simpa [not_failed_of_execute second] using shown.failed.2
    have reads : dirty tools.resolver.restrictedColumn
        ((bounded query (min maxRows tools.maxRows)).shape schema).reads = false := by
      have marks := rows_marked shown.rows
      rw [← execute_allow executed.allow first, unmarked] at marks
      rw [← execute_allow executed.allow second, marks.1] at marks
      exact marks.2.symm
    exact ⟨clean_of_not_dirty guards, clean_of_not_dirty reads⟩
  · rintro ⟨guards, reads⟩ engine contents contents' agree
    exact executed.same_of_chosen agree ((runs_alike engine schema agree _).trace guards) reads

/-- Where restricted columns are exposed only as classified ones, they show through the choice of
rows only, and do so exactly when some clause reads one. -/
theorem Unapproved.discloses_by_clauses
    (executed : tools.Unapproved query governanceRequest admitted decision)
    (exposed : tools.ExposesClassified schema query maxRows admitted) :
    tools.DisclosesByClauses schema query maxRows governanceRequest := by
  have reads : Clean tools.resolver.restrictedColumn
      ((bounded query (min maxRows tools.maxRows)).shape schema).reads := by
    intro origin read
    by_cases classified : origin.Classified admitted.resource.dataset
    · exact executed.classified read classified
    · exact exposed origin read classified
  refine ⟨fun engine contents contents' agree trace => ?_, ?_⟩
  · exact executed.same_of_chosen agree trace reads
  · rw [executed.same_results_iff, and_iff_left reads]
    rfl

/-! ## A filter -/

def loans : Reference := ⟨"iceberg", "silver", "slv_pdm_loans"⟩

/-- `SELECT district FROM iceberg.silver.slv_pdm_loans WHERE account_number = 'A1'`. -/
def filteredAccount : Query :=
  .select .done false [.column "" "district"] (.table .cross loans "" [] .done)
    [.call (.typed "eq") [.column "" "account_number", .literal "A1"]] [] [] [] none

/-- What the query is resolved to. -/
def filteredResource : ResourceContext where
  dataset := "iceberg.silver.slv_pdm_loans"
  fields := ["district"]
  classification := .internal
  fieldClassifications := [⟨"iceberg.silver.slv_pdm_loans", "district", .publicData, none⟩]
  fieldLineage := [("district", "district")]
  district := none
  parish := none

def analystRequest : GovernanceRequest where
  identity := ⟨"ana-1", ["programme_analyst"], [], none, none, some "programme_monitoring"⟩
  action := "read"
  resource := ⟨"", [], .publicData, [], [], none, none⟩
  approval := none

def analystTools : ToolRegistry where
  resolver := platformRegistry
  governanceEngine := ⟨none, fun _ => "0123456789abcdef"⟩
  governanceRequest := none
  maxRows := 100

/-- Keeps the rows for which every clause mentions the account. -/
def filtering : Engine :=
  { coalescing with
    choose := fun _ matrix => ⟨((List.range (matrix.length - 1)).filter fun row =>
      (matrix[row]?.getD []).all fun tables =>
        tables.any fun table => .text "A1" ∈ table.rows.flatten).map fun row => [row], false⟩ }

/-- One loan in Gulu. -/
def oneLoan (account : String) : Contents := fun reference =>
  if reference = loans then
    [fun field => if field = "account_number" then .text account else .text "Gulu"]
  else []

def loanColumns : Schema := fun _ => ["district", "account_number"]

theorem oneLoan_agree (account account' : String) :
    AgreeOutside platformRegistry.restrictedColumn (oneLoan account) (oneLoan account') := by
  intro reference
  rw [oneLoan, oneLoan]
  split
  next same =>
    refine .cons (fun field visible => ?_) .nil
    by_cases named : field = "account_number"
    · have restricted : platformRegistry.restrictedColumn loans "account_number" = true := by
        decide +kernel
      rw [same, named, restricted] at visible
      cases visible
    · rw [if_neg named, if_neg named]
  next => exact .nil

theorem filtered_resolved :
    platformRegistry.resolveSql filteredAccount none none = .ok filteredResource := by
  have datasets : datasetsFromSql filteredAccount = ["iceberg.silver.slv_pdm_loans"] := by
    decide +kernel
  have fields : projectedFieldsFromSql filteredAccount = ["district"] := by decide +kernel
  have lineage : projectionLineageFromSql platformRegistry filteredAccount
      "iceberg.silver.slv_pdm_loans" = .ok [("district", "district")] := by
    decide +kernel
  rw [resolveSql_single datasets, fields, lineage]
  decide +kernel

theorem filtered_returns (account : String) :
    Returns (filteredAccount.run filtering loanColumns (oneLoan account))
      ⟨["district"], if account = "A1" then [[.text "Gulu"]] else []⟩ := by
  by_cases same : account = "A1" <;>
    simp [same, @eq_comm _ "A1", Returns, Query.run, filteredAccount, Query.eval, evalAll, Expr.eval,
      From.eval, From.conditions, With.eval, concrete, Context.table, Context.enter, resolve,
      Result.select, Result.sourceRows, combinations, emptyFrame, bindings, itemOutputs, outputLabel,
      positionLabels, Body.itemAt, Body.compared, Result.tables, Result.traceOf, Result.ofCell,
      filtering, coalescing, oneLoan, loans, loanColumns]

theorem filtered_bounded (account : String) :
    Returns ((bounded filteredAccount 100).run filtering loanColumns (oneLoan account))
      ⟨["district"], if account = "A1" then [[.text "Gulu"]] else []⟩ := by
  obtain ⟨table, fine⟩ := filtered_returns account
  rw [run_bounded]
  generalize filteredAccount.run filtering loanColumns (oneLoan account) = result at table fine
  by_cases same : account = "A1" <;>
    simp [same, Returns, table, fine, Result.select, Result.sourceRows, combinations, emptyFrame,
      bindings, positionLabels, Body.itemAt, Body.compared, Result.tables, Result.traceOf,
      Result.ofCell, filtering, coalescing]

/-- The request that is decided on. -/
def filteredRequest : GovernanceRequest := { analystRequest with resource := filteredResource }

theorem filtered_decision :
    analystTools.governanceEngine.evaluate filteredRequest =
      analystTools.governanceEngine.conclude filteredRequest .allow
        "Request satisfies configured governance policies." ["internal_data_policy"] []
        ["can_view_internal_data"] false := by
  simp [GovernancePolicyEngine.evaluate, GovernancePolicyEngine.evaluateGeography,
    GovernancePolicyEngine.evaluateAccess, GovernancePolicyEngine.evaluateFields, evaluateField,
    GovernancePolicyEngine.effectivePermissions, permissionsOf, rolePermissions, List.lookup_cons,
    approvedPurposes, classificationPolicy, containsSensitiveFields,
    filteredRequest, analystRequest, filteredResource]

theorem filtered_unapproved :
    analystTools.Unapproved filteredAccount (some analystRequest) filteredRequest
      (analystTools.governanceEngine.evaluate filteredRequest) where
  admission :=
    { valid := rfl
      request := ⟨analystRequest, rfl, authoritative_of_resolved filtered_resolved⟩
      decided := enforce_of_permitted (Or.inr (by rw [filtered_decision]; rfl)) }
  unrestricted := by decide
  allow := by rw [filtered_decision]; rfl
  unapproved := rfl

theorem filtered_executed (account : String) : ∃ result,
    analystTools.executeQuery (Query.run filtering loanColumns (oneLoan account))
      filteredAccount 100 (some analystRequest) = .ok result ∧
      result.rows = if account = "A1" then [[.text "Gulu"]] else [] := by
  obtain ⟨result, executed, -, rows⟩ :=
    filtered_unapproved.admission.executed 100 (filtered_bounded account)
  refine ⟨result, executed, ?_⟩
  rw [rows, maskQueryRows, if_pos (by simp [filtered_unapproved.allow])]

theorem filtered_exposes :
    analystTools.ExposesClassified loanColumns filteredAccount 100 filteredRequest := by
  have reads : ((bounded filteredAccount 100).shape loanColumns).reads =
      [⟨loans, "district", true⟩] := by
    simp [Query.shape, bounded, filteredAccount, Query.eval, evalAll, Expr.eval, From.eval,
      From.conditions, With.eval, symbolic, Context.table, Context.enter, resolve, Shape.select,
      Shape.reads, Shape.sourceRows, combinations, emptyFrame, bindings, itemOutputs, outputLabel,
      positionLabels, Body.itemAt, Flow.ofColumn, Flow.nothing, loans, loanColumns]
  have district : platformRegistry.restrictedColumn loans "district" = false := by decide +kernel
  intro origin read _
  have same : origin = ⟨loans, "district", true⟩ := by
    rw [← List.mem_singleton, ← reads]
    exact read
  rw [same]
  exact district

/-- The account number is read in the filter, and shows in nothing but the choice of rows. -/
theorem filtered_discloses_by_clauses :
    analystTools.DisclosesByClauses loanColumns filteredAccount 100 (some analystRequest) :=
  filtered_unapproved.discloses_by_clauses filtered_exposes

/-- Whether a loan has the account number is told by the number of rows. -/
theorem filtered_discloses :
    ¬ analystTools.NoDisclosure loanColumns filteredAccount 100 (some analystRequest) := by
  intro closed
  obtain ⟨result, executed, rows⟩ := filtered_executed "A1"
  obtain ⟨result', executed', rows'⟩ := filtered_executed "B2"
  have same := closed filteredRequest _ filtered_unapproved filtering _ _
    (oneLoan_agree "A1" "B2")
  rw [executed, executed'] at same
  cases same
  rw [rows] at rows'
  simp at rows'

end ToolRegistry

end PaymentsPlatform.AgentApi
