import PaymentsPlatform.Ingestion.SourceRecord
import PaymentsPlatform.Library.Segments

/-!
# The sheets of the programme workbook

`SHEET_PLAN` of `sheets.py` with its columns, and who owns each column.  A header is the label of
its column; read back without case and with its blanks as underscores it is the field again.
-/

namespace PaymentsPlatform.Programme

open Ingestion (isSpace strip)

/-! ## Columns -/

inductive Column where
  | id | title | phaseId | owner | status | plannedStart | plannedFinish | actualStart
  | actualFinish | calculatedPercentComplete | calculatedScheduleVarianceDays | calculatedRag
  | calculatedDaysToFinish | evidencePath | requirementIds | componentIds | controlIds | testIds
  | dependencies | notes | name | criticality | plannedDate | forecastDate | actualDate
  | gateCriteria | taskIds | acceptanceState | dependsOn | type | predecessorId | successorId
  | targetDate | severity | mitigationTaskIds | probability | impact | raisedDate | dueDate
  | riskAcceptance | residualRiskAcceptance | decisionDate | deciderRole | decisionRationale
  | affectedScope | requester | description | activity | responsible | accountable | consulted
  | informed | role | allocationPct | startDate | endDate | engagement | organisation | channel
  | audience | cadence | category | basis | currency | approvedAmount | forecastAmount
  | budgetApproved | budgetApprover | measurement | benefitAcceptance | benefitAcceptedBy
  | benefitAcceptanceDate | subject | decision | conditions | approverRole | acceptanceCriteriaIds
  | businessRequirementIds | targetMetric | sloIds | verifiedBy | requirementId | criterion
  | evidenceRequired | verificationMethod | businessRequirementId | functionalRequirementIds
  | nonFunctionalRequirementIds | adrIds | dataProductIds | evidenceIds | releaseIds | runbookIds
  | acceptanceIds | version | location | topLevel | documentDate | bytes | sha256 | technologyIds
  | sourcePath | sourceComponent | targetComponent | direction | protocol | path | method
  | ownerComponent | authentication | classification | layer | productIds | contractIds | assetIds
  | kind | compatibility | contractVersion | dimension | assetId | ruleLogic | level | control
  | retentionDays | maskingRequired | upstream | downstream | assetClass | enforcementStatus
  | capability | task | metrics | backend | metric | outcome | observedOn | controlType
  | enforcement | implementation | verificationStatus | threatIds | source | remediation | provider
  | rotationDue | lastRotated | purpose | validFrom | expiresOn | scope | reviewType | reviewerRole
  | lastReviewed | nextDue | framework | controlReference | mappedControlIds | assessmentStatus
  | technicalStatus | testResult | testCount | lastTestRun | componentId | evidenceType | observedAt
  | releasedOn | gitSha | environmentId | deployedOn | pipeline | versionConstraint | sha | summary
  | authorDate | author | sliDefinition | target | designTarget | measuredValue | signalType
  | resolvedOn | rootCause | correctiveAction | scenario | lastTested | rto | rpo | topic
  | deliveredOn | sheet | changeType | recordId | detail | columnName | definition | ownership
  deriving DecidableEq

/-- The field of a record that a column shows. -/
def Column.field : Column → String
  | .id => "id"
  | .title => "title"
  | .phaseId => "phase_id"
  | .owner => "owner"
  | .status => "status"
  | .plannedStart => "planned_start"
  | .plannedFinish => "planned_finish"
  | .actualStart => "actual_start"
  | .actualFinish => "actual_finish"
  | .calculatedPercentComplete => "calculated_percent_complete"
  | .calculatedScheduleVarianceDays => "calculated_schedule_variance_days"
  | .calculatedRag => "calculated_rag"
  | .calculatedDaysToFinish => "calculated_days_to_finish"
  | .evidencePath => "evidence_path"
  | .requirementIds => "requirement_ids"
  | .componentIds => "component_ids"
  | .controlIds => "control_ids"
  | .testIds => "test_ids"
  | .dependencies => "dependencies"
  | .notes => "notes"
  | .name => "name"
  | .criticality => "criticality"
  | .plannedDate => "planned_date"
  | .forecastDate => "forecast_date"
  | .actualDate => "actual_date"
  | .gateCriteria => "gate_criteria"
  | .taskIds => "task_ids"
  | .acceptanceState => "acceptance_state"
  | .dependsOn => "depends_on"
  | .type => "type"
  | .predecessorId => "predecessor_id"
  | .successorId => "successor_id"
  | .targetDate => "target_date"
  | .severity => "severity"
  | .mitigationTaskIds => "mitigation_task_ids"
  | .probability => "probability"
  | .impact => "impact"
  | .raisedDate => "raised_date"
  | .dueDate => "due_date"
  | .riskAcceptance => "risk_acceptance"
  | .residualRiskAcceptance => "residual_risk_acceptance"
  | .decisionDate => "decision_date"
  | .deciderRole => "decider_role"
  | .decisionRationale => "decision_rationale"
  | .affectedScope => "affected_scope"
  | .requester => "requester"
  | .description => "description"
  | .activity => "activity"
  | .responsible => "responsible"
  | .accountable => "accountable"
  | .consulted => "consulted"
  | .informed => "informed"
  | .role => "role"
  | .allocationPct => "allocation_pct"
  | .startDate => "start_date"
  | .endDate => "end_date"
  | .engagement => "engagement"
  | .organisation => "organisation"
  | .channel => "channel"
  | .audience => "audience"
  | .cadence => "cadence"
  | .category => "category"
  | .basis => "basis"
  | .currency => "currency"
  | .approvedAmount => "approved_amount"
  | .forecastAmount => "forecast_amount"
  | .budgetApproved => "budget_approved"
  | .budgetApprover => "budget_approver"
  | .measurement => "measurement"
  | .benefitAcceptance => "benefit_acceptance"
  | .benefitAcceptedBy => "benefit_accepted_by"
  | .benefitAcceptanceDate => "benefit_acceptance_date"
  | .subject => "subject"
  | .decision => "decision"
  | .conditions => "conditions"
  | .approverRole => "approver_role"
  | .acceptanceCriteriaIds => "acceptance_criteria_ids"
  | .businessRequirementIds => "business_requirement_ids"
  | .targetMetric => "target_metric"
  | .sloIds => "slo_ids"
  | .verifiedBy => "verified_by"
  | .requirementId => "requirement_id"
  | .criterion => "criterion"
  | .evidenceRequired => "evidence_required"
  | .verificationMethod => "verification_method"
  | .businessRequirementId => "business_requirement_id"
  | .functionalRequirementIds => "functional_requirement_ids"
  | .nonFunctionalRequirementIds => "non_functional_requirement_ids"
  | .adrIds => "adr_ids"
  | .dataProductIds => "data_product_ids"
  | .evidenceIds => "evidence_ids"
  | .releaseIds => "release_ids"
  | .runbookIds => "runbook_ids"
  | .acceptanceIds => "acceptance_ids"
  | .version => "version"
  | .location => "location"
  | .topLevel => "top_level"
  | .documentDate => "document_date"
  | .bytes => "bytes"
  | .sha256 => "sha256"
  | .technologyIds => "technology_ids"
  | .sourcePath => "source_path"
  | .sourceComponent => "source_component"
  | .targetComponent => "target_component"
  | .direction => "direction"
  | .protocol => "protocol"
  | .path => "path"
  | .method => "method"
  | .ownerComponent => "owner_component"
  | .authentication => "authentication"
  | .classification => "classification"
  | .layer => "layer"
  | .productIds => "product_ids"
  | .contractIds => "contract_ids"
  | .assetIds => "asset_ids"
  | .kind => "kind"
  | .compatibility => "compatibility"
  | .contractVersion => "contract_version"
  | .dimension => "dimension"
  | .assetId => "asset_id"
  | .ruleLogic => "rule_logic"
  | .level => "level"
  | .control => "control"
  | .retentionDays => "retention_days"
  | .maskingRequired => "masking_required"
  | .upstream => "upstream"
  | .downstream => "downstream"
  | .assetClass => "asset_class"
  | .enforcementStatus => "enforcement_status"
  | .capability => "capability"
  | .task => "task"
  | .metrics => "metrics"
  | .backend => "backend"
  | .metric => "metric"
  | .outcome => "outcome"
  | .observedOn => "observed_on"
  | .controlType => "control_type"
  | .enforcement => "enforcement"
  | .implementation => "implementation"
  | .verificationStatus => "verification_status"
  | .threatIds => "threat_ids"
  | .source => "source"
  | .remediation => "remediation"
  | .provider => "provider"
  | .rotationDue => "rotation_due"
  | .lastRotated => "last_rotated"
  | .purpose => "purpose"
  | .validFrom => "valid_from"
  | .expiresOn => "expires_on"
  | .scope => "scope"
  | .reviewType => "review_type"
  | .reviewerRole => "reviewer_role"
  | .lastReviewed => "last_reviewed"
  | .nextDue => "next_due"
  | .framework => "framework"
  | .controlReference => "control_reference"
  | .mappedControlIds => "mapped_control_ids"
  | .assessmentStatus => "assessment_status"
  | .technicalStatus => "technical_status"
  | .testResult => "test_result"
  | .testCount => "test_count"
  | .lastTestRun => "last_test_run"
  | .componentId => "component_id"
  | .evidenceType => "evidence_type"
  | .observedAt => "observed_at"
  | .releasedOn => "released_on"
  | .gitSha => "git_sha"
  | .environmentId => "environment_id"
  | .deployedOn => "deployed_on"
  | .pipeline => "pipeline"
  | .versionConstraint => "version_constraint"
  | .sha => "sha"
  | .summary => "summary"
  | .authorDate => "author_date"
  | .author => "author"
  | .sliDefinition => "sli_definition"
  | .target => "target"
  | .designTarget => "design_target"
  | .measuredValue => "measured_value"
  | .signalType => "signal_type"
  | .resolvedOn => "resolved_on"
  | .rootCause => "root_cause"
  | .correctiveAction => "corrective_action"
  | .scenario => "scenario"
  | .lastTested => "last_tested"
  | .rto => "rto"
  | .rpo => "rpo"
  | .topic => "topic"
  | .deliveredOn => "delivered_on"
  | .sheet => "sheet"
  | .changeType => "change_type"
  | .recordId => "record_id"
  | .detail => "detail"
  | .columnName => "column"
  | .definition => "definition"
  | .ownership => "ownership"

/-! ## Ownership -/

inductive Ownership where
  | human | machine | shared
  deriving DecidableEq

/-- The columns among `human_fields`. -/
def humanFields : List Column :=
  [.riskAcceptance, .residualRiskAcceptance, .budgetApproved, .budgetApprover, .benefitAcceptance,
    .benefitAcceptedBy, .benefitAcceptanceDate, .notes, .decisionRationale, .dueDate, .targetDate,
    .actualStart, .actualFinish, .plannedStart, .plannedFinish]

/-- The columns among `shared_fields`. -/
def sharedFields : List Column :=
  [.id, .title, .description, .owner, .status, .version]

/-- The columns among `machine_fields`. -/
def machineFields : List Column :=
  [.technicalStatus, .testResult, .testCount, .lastTestRun, .gitSha, .evidencePath, .evidenceType,
    .sourcePath, .calculatedPercentComplete, .calculatedScheduleVarianceDays, .calculatedRag,
    .calculatedDaysToFinish, .contractVersion, .category, .severity]

/-- What the policy does not list is `HUMAN`. -/
def classifyField (column : Column) : Ownership :=
  if humanFields.contains column then .human
  else if sharedFields.contains column then .shared
  else if machineFields.contains column then .machine
  else .human

def Column.isHuman (column : Column) : Bool := classifyField column = .human

/-! ## Sheets -/

/-- What the records of a register are sorted by. -/
inductive SortBy where
  | byId | bySeverity | byStatus

structure SheetDefinition where
  name : String
  /-- Empty if the sheet shows no register. -/
  register : String
  columns : List Column
  sortBy : SortBy

/-- `TASK_COLUMNS`. -/
def taskColumns : List Column :=
  [.id, .title, .phaseId, .owner, .status, .plannedStart, .plannedFinish, .actualStart,
    .actualFinish, .calculatedPercentComplete, .calculatedScheduleVarianceDays, .calculatedRag,
    .calculatedDaysToFinish, .evidencePath, .requirementIds, .componentIds, .controlIds, .testIds,
    .dependencies, .notes]

/-- `SHEET_PLAN`. -/
def sheetPlan : List SheetDefinition :=
  [⟨"Index", "", [], .byId⟩,
   ⟨"Executive Dashboard", "", [], .byId⟩,
   ⟨"Programme Dashboard", "", [], .byId⟩,
   ⟨"Master Tracker", "tasks", taskColumns, .byId⟩,
   ⟨"Gantt", "tasks", [], .byId⟩,
   ⟨"Milestones", "milestones",
    [.id, .name, .phaseId, .criticality, .status, .plannedDate, .forecastDate, .actualDate,
      .calculatedRag, .owner, .evidencePath, .notes], .byStatus⟩,
   ⟨"Phases", "phases",
    [.id, .name, .status, .plannedStart, .plannedFinish, .actualStart, .actualFinish, .owner,
      .calculatedPercentComplete, .calculatedRag, .gateCriteria, .evidencePath, .notes], .byId⟩,
   ⟨"Deliverables", "deliverables",
    [.id, .name, .phaseId, .owner, .status, .plannedStart, .plannedFinish,
      .calculatedPercentComplete, .calculatedRag, .taskIds, .evidencePath, .acceptanceState,
      .notes], .byId⟩,
   ⟨"Dependencies", "dependencies",
    [.id, .name, .dependsOn, .type, .owner, .status, .predecessorId, .successorId, .targetDate,
      .notes], .byId⟩,
   ⟨"RAID", "raid",
    [.id, .type, .title, .severity, .status, .owner, .mitigationTaskIds, .controlIds, .probability,
      .impact, .raisedDate, .dueDate, .riskAcceptance, .residualRiskAcceptance, .evidencePath,
      .notes], .bySeverity⟩,
   ⟨"Decision Log", "decisions",
    [.id, .title, .decisionDate, .status, .deciderRole, .decisionRationale, .affectedScope,
      .evidencePath, .notes], .byId⟩,
   ⟨"Change Requests", "change_requests",
    [.id, .title, .raisedDate, .status, .requester, .description, .impact, .decisionDate,
      .evidencePath, .notes], .byId⟩,
   ⟨"RACI", "raci", [.id, .activity, .responsible, .accountable, .consulted, .informed], .byId⟩,
   ⟨"Resources", "resources",
    [.id, .name, .role, .allocationPct, .startDate, .endDate, .notes], .byId⟩,
   ⟨"Stakeholders", "stakeholders", [.id, .name, .role, .engagement, .organisation, .notes], .byId⟩,
   ⟨"Communications", "communications",
    [.id, .channel, .audience, .cadence, .owner, .notes], .byId⟩,
   ⟨"Budget", "budget",
    [.id, .category, .basis, .currency, .approvedAmount, .forecastAmount, .budgetApproved,
      .budgetApprover, .notes], .byId⟩,
   ⟨"Benefits", "benefits",
    [.id, .name, .owner, .measurement, .status, .benefitAcceptance, .benefitAcceptedBy,
      .benefitAcceptanceDate, .notes], .byId⟩,
   ⟨"Acceptance", "acceptance",
    [.id, .subject, .decision, .decisionDate, .conditions, .approverRole, .evidencePath,
      .notes], .byId⟩,
   ⟨"Business Requirements", "business_requirements",
    [.id, .title, .status, .description, .owner, .acceptanceCriteriaIds, .evidencePath,
      .notes], .byId⟩,
   ⟨"Functional Requirements", "functional_requirements",
    [.id, .title, .status, .businessRequirementIds, .description, .componentIds, .controlIds,
      .testIds, .evidencePath, .notes], .byId⟩,
   ⟨"Non-Functional Requirements", "non_functional_requirements",
    [.id, .title, .category, .status, .businessRequirementIds, .targetMetric, .controlIds, .sloIds,
      .verifiedBy, .evidencePath, .notes], .byId⟩,
   ⟨"Acceptance Criteria", "acceptance_criteria",
    [.id, .requirementId, .criterion, .evidenceRequired, .verificationMethod, .status,
      .evidencePath, .notes], .byId⟩,
   ⟨"Traceability", "traceability",
    [.id, .businessRequirementId, .functionalRequirementIds, .nonFunctionalRequirementIds,
      .componentIds, .adrIds, .dataProductIds, .controlIds, .testIds, .evidenceIds, .releaseIds,
      .sloIds, .runbookIds, .acceptanceIds, .notes], .byId⟩,
   ⟨"ADR Register", "adrs",
    [.id, .title, .status, .decisionDate, .version, .location, .evidencePath, .decisionRationale,
      .notes], .byId⟩,
   ⟨"Documentation", "documentation",
    [.id, .title, .location, .topLevel, .documentDate, .status, .bytes, .sha256, .owner,
      .notes], .byId⟩,
   ⟨"Architecture Components", "components",
    [.id, .name, .category, .status, .technologyIds, .requirementIds, .controlIds, .sourcePath,
      .notes], .byId⟩,
   ⟨"Technologies", "technologies",
    [.id, .name, .category, .status, .version, .sourcePath, .notes], .byId⟩,
   ⟨"Integrations", "integrations",
    [.id, .name, .sourceComponent, .targetComponent, .direction, .status, .protocol, .sourcePath,
      .notes], .byId⟩,
   ⟨"APIs", "apis",
    [.id, .path, .method, .ownerComponent, .status, .authentication, .sourcePath, .notes], .byId⟩,
   ⟨"Environments", "environments",
    [.id, .name, .classification, .status, .sourcePath, .notes], .byId⟩,
   ⟨"Configuration", "configuration",
    [.id, .name, .location, .classification, .status, .owner, .notes], .byId⟩,
   ⟨"Data Assets", "data_assets",
    [.id, .name, .layer, .status, .productIds, .contractIds, .controlIds, .sourcePath,
      .evidencePath, .notes], .byId⟩,
   ⟨"Data Products", "data_products",
    [.id, .name, .audience, .status, .assetIds, .contractIds, .classification, .sourcePath,
      .evidencePath, .notes], .byId⟩,
   ⟨"Data Contracts", "data_contracts",
    [.id, .name, .kind, .location, .compatibility, .status, .contractVersion, .sha256,
      .notes], .byId⟩,
   ⟨"Data Quality", "data_quality",
    [.id, .name, .type, .dimension, .status, .assetId, .ruleLogic, .evidencePath, .notes], .byId⟩,
   ⟨"Classification", "data_classification",
    [.id, .name, .level, .control, .retentionDays, .maskingRequired, .evidencePath, .notes], .byId⟩,
   ⟨"Lineage", "lineage", [.id, .name, .upstream, .downstream, .evidencePath, .notes], .byId⟩,
   ⟨"Retention", "retention",
    [.id, .name, .assetClass, .retentionDays, .enforcementStatus, .evidencePath, .notes], .byId⟩,
   ⟨"AI Agents", "agents",
    [.id, .name, .capability, .status, .ownerComponent, .sourcePath, .testIds, .evidencePath,
      .notes], .byId⟩,
   ⟨"AI Models", "models",
    [.id, .name, .task, .status, .version, .metrics, .sourcePath, .evidencePath, .notes], .byId⟩,
   ⟨"AI RAG", "rag", [.id, .name, .status, .backend, .sourcePath, .notes], .byId⟩,
   ⟨"AI Evaluations", "ai_evaluations",
    [.id, .subject, .metric, .outcome, .observedOn, .evidencePath, .notes], .byId⟩,
   ⟨"AI Provenance", "ai_provenance",
    [.id, .subject, .method, .status, .evidencePath, .notes], .byId⟩,
   ⟨"AI Authority", "ai_authority",
    [.id, .name, .controlType, .enforcement, .sourcePath, .evidencePath, .notes], .byId⟩,
   ⟨"AI Risks", "ai_risks",
    [.id, .title, .category, .severity, .status, .owner, .controlIds, .notes], .bySeverity⟩,
   ⟨"Security Controls", "security_controls",
    [.id, .title, .controlType, .implementation, .verificationStatus, .componentIds, .threatIds,
      .testIds, .sourcePath, .evidencePath, .notes], .byId⟩,
   ⟨"Threat Register", "threats",
    [.id, .title, .category, .severity, .status, .controlIds, .evidencePath, .notes], .bySeverity⟩,
   ⟨"Vulnerabilities", "vulnerabilities",
    [.id, .title, .severity, .status, .source, .remediation, .targetDate, .evidencePath,
      .notes], .bySeverity⟩,
   ⟨"Secrets Metadata", "secrets_metadata",
    [.id, .name, .owner, .provider, .status, .rotationDue, .lastRotated, .evidencePath,
      .notes], .byId⟩,
   ⟨"Certificates", "certificates",
    [.id, .name, .subject, .purpose, .status, .validFrom, .expiresOn, .notes], .byId⟩,
   ⟨"Access Reviews", "access_reviews",
    [.id, .scope, .reviewType, .status, .reviewerRole, .lastReviewed, .nextDue, .notes], .byId⟩,
   ⟨"Compliance", "compliance",
    [.id, .framework, .controlReference, .mappedControlIds, .assessmentStatus, .evidencePath,
      .notes], .byId⟩,
   ⟨"Test Register", "tests",
    [.id, .name, .level, .scope, .status, .technicalStatus, .testResult, .testCount, .lastTestRun,
      .requirementIds, .sourcePath, .evidencePath, .notes], .byId⟩,
   ⟨"Defects", "defects",
    [.id, .title, .severity, .status, .raisedDate, .owner, .componentId, .evidencePath,
      .notes], .bySeverity⟩,
   ⟨"Evidence Register", "evidence",
    [.id, .title, .evidenceType, .location, .status, .sha256, .bytes, .observedAt, .notes], .byId⟩,
   ⟨"Releases", "releases",
    [.id, .name, .version, .status, .releasedOn, .gitSha, .componentIds, .evidencePath,
      .notes], .byId⟩,
   ⟨"Deployments", "deployments",
    [.id, .environmentId, .componentId, .status, .deployedOn, .gitSha, .evidencePath,
      .notes], .byId⟩,
   ⟨"CI and CD Controls", "cicd_controls",
    [.id, .name, .pipeline, .controlType, .status, .sourcePath, .evidencePath, .notes], .byId⟩,
   ⟨"Dependency Inventory", "dependencies_sbom",
    [.id, .name, .scope, .versionConstraint, .status, .sourcePath, .notes], .byId⟩,
   ⟨"Git Evidence", "git_evidence",
    [.id, .sha, .summary, .authorDate, .author, .evidencePath], .byId⟩,
   ⟨"SLA and SLO", "slos",
    [.id, .name, .sliDefinition, .target, .status, .componentIds, .evidencePath, .notes], .byId⟩,
   ⟨"Capacity", "capacity",
    [.id, .subject, .metric, .designTarget, .measuredValue, .status, .evidencePath, .notes], .byId⟩,
   ⟨"Monitoring", "monitoring",
    [.id, .name, .signalType, .status, .sourcePath, .evidencePath, .notes], .byId⟩,
   ⟨"Incidents", "incidents",
    [.id, .title, .severity, .status, .raisedDate, .resolvedOn, .impact, .evidencePath,
      .notes], .bySeverity⟩,
   ⟨"Problems and RCA", "problems",
    [.id, .title, .status, .rootCause, .correctiveAction, .evidencePath, .notes], .byId⟩,
   ⟨"Runbooks", "runbooks", [.id, .name, .scenario, .location, .owner, .lastTested, .notes], .byId⟩,
   ⟨"Backup and Restore", "backup_restore",
    [.id, .name, .scope, .status, .lastTested, .rto, .rpo, .evidencePath, .notes], .byId⟩,
   ⟨"Disaster Recovery", "dr",
    [.id, .name, .rto, .rpo, .status, .lastTested, .evidencePath, .notes], .byId⟩,
   ⟨"Training", "training", [.id, .topic, .audience, .status, .deliveredOn, .owner, .notes], .byId⟩,
   ⟨"Change Log", "change_log", [.id, .sheet, .changeType, .recordId, .detail], .byId⟩,
   ⟨"Data Dictionary", "data_dictionary",
    [.id, .sheet, .columnName, .definition, .ownership], .byId⟩]

/-- `GANTT_ANCHOR_COLUMNS`. -/
def ganttAnchorColumns : List Column :=
  [.id, .title, .phaseId, .owner, .status, .plannedStart, .plannedFinish,
    .calculatedPercentComplete, .calculatedRag]

/-- `SHEET_TASKS`. -/
def sheetTasks : SheetDefinition := ⟨"Master Tracker", "tasks", taskColumns, .byId⟩

/-! ## Labels -/

/-- `special` of `header_label`. -/
def specialLabels : List (List Char × List Char) :=
  [("id", "ID"), ("rag", "RAG"), ("slo", "SLO"), ("cns", "CNS"), ("dbt", "dbt"), ("ui", "UI"),
    ("url", "URL"), ("sha", "SHA"), ("sso", "SSO")].map fun (part, label) =>
      (part.toList, label.toList)

/-- `str.capitalize`, of ASCII. -/
def capitalize : List Char → List Char
  | [] => []
  | first :: rest => first.toUpper :: rest.map Char.toLower

def labelOf (part : List Char) : List Char :=
  (specialLabels.lookup (part.map Char.toLower)).getD (capitalize part)

def headerLabel (column : Column) : String :=
  String.ofList ([' '].intercalate ((column.field.toList.splitOn '_').map labelOf))

/-- `str.title`, of ASCII. -/
def title (inWord : Bool) : List Char → List Char
  | [] => []
  | c :: rest => (if inWord then c.toLower else c.toUpper) :: title c.isAlpha rest

def spaced (text : List Char) : List Char := text.map fun c => if c = '_' then ' ' else c

def underscored (text : List Char) : List Char := text.map fun c => if c = ' ' then '_' else c

/-- Whether a header is read as that of a column. -/
def isHeaderOf (label : String) (column : Column) : Bool :=
  let key := (strip isSpace label).toList
  let field := column.field.toList
  key ≠ [] && (key = title false (spaced field) || key.map Char.toLower = field.map Char.toLower ||
    underscored (key.map Char.toLower) = field.map Char.toLower)

/-! ## How fields are written -/

def isFieldChar (c : Char) : Bool := c.isLower || c.isDigit || c = '_'

/-- In small letters, digits and underscores, none of them at an end. -/
def isPlain (field : List Char) : Bool :=
  field.all isFieldChar && field.head?.any (· ≠ '_') && field.getLast?.any (· ≠ '_')

def Column.isCalculated (column : Column) : Bool :=
  "calculated_".toList.isPrefixOf column.field.toList

theorem column_sound (column : Column) : isPlain column.field.toList = true ∧
    (column.isHuman = true → ['c', 'a', 'l', 'c', 'u', 'l', 'a', 't', 'e', 'd', '_'].isPrefixOf
      column.field.toList = false) := by
  cases column <;> decide +kernel

theorem isPlain_field (column : Column) : isPlain column.field.toList = true :=
  (column_sound column).1

theorem isCalculated_of_isHuman {column : Column} (human : column.isHuman = true) :
    column.isCalculated = false := (column_sound column).2 human

theorem head?_columns : ∀ definition ∈ sheetPlan,
    definition.columns = [] ∨ definition.columns.head? = some .id := by
  decide

theorem sheetPlan_sound : (∀ definition ∈ sheetPlan, (definition.columns.map Column.field).Nodup) ∧
    (sheetPlan.map SheetDefinition.name).Nodup ∧
    ((sheetPlan.filter (!·.columns.isEmpty)).map SheetDefinition.register).Nodup := by
  decide +kernel

theorem nodup_fields : ∀ definition ∈ sheetPlan, (definition.columns.map Column.field).Nodup :=
  sheetPlan_sound.1

theorem nodup_names : (sheetPlan.map SheetDefinition.name).Nodup := sheetPlan_sound.2.1

theorem nodup_registers :
    ((sheetPlan.filter (!·.columns.isEmpty)).map SheetDefinition.register).Nodup :=
  sheetPlan_sound.2.2

theorem of_isFieldChar {c : Char} (isField : isFieldChar c = true) :
    c.toLower = c ∧ c.toUpper.toLower = c ∧ isSpace c = false := by
  have bounded : c.toNat < 128 := by
    unfold isFieldChar Char.isLower at isField
    simp only [Bool.or_eq_true, Char.isDigit, Bool.and_eq_true, decide_eq_true_eq] at isField
    rcases isField with (⟨-, small⟩ | ⟨-, small⟩) | rfl
    · exact Nat.lt_of_le_of_lt (UInt32.le_iff_toNat_le.mp small) (by decide)
    · exact Nat.lt_of_le_of_lt (UInt32.le_iff_toNat_le.mp small) (by decide)
    · decide
  have each : ∀ code < 128, isFieldChar (Char.ofNat code) = true →
      (Char.ofNat code).toLower = Char.ofNat code ∧
        (Char.ofNat code).toUpper.toLower = Char.ofNat code ∧
          isSpace (Char.ofNat code) = false := by
    decide
  rw [← Char.ofNat_toNat c] at isField ⊢
  exact each _ bounded isField

section Field

variable {column : Column}

theorem isFieldChar_of_mem {c : Char} (listed : c ∈ column.field.toList) :
    isFieldChar c = true := by
  have plain := isPlain_field column
  simp only [isPlain, Bool.and_eq_true, List.all_eq_true] at plain
  exact plain.1.1 c listed

theorem map_toLower_field : column.field.toList.map Char.toLower = column.field.toList := by
  rw [List.map_congr_left fun c listed => (of_isFieldChar (isFieldChar_of_mem listed)).1,
    List.map_id']

theorem blank_notMem_field : ' ' ∉ column.field.toList := by
  intro listed
  have noSpace := (of_isFieldChar (isFieldChar_of_mem listed)).2.2
  revert noSpace
  decide

theorem underscored_field : underscored column.field.toList = column.field.toList := by
  have kept : ∀ c ∈ column.field.toList, (if c = ' ' then '_' else c) = c := by
    intro c listed
    rw [if_neg]
    rintro rfl
    exact blank_notMem_field listed
  rw [underscored, List.map_congr_left kept, List.map_id']

theorem underscored_spaced_field :
    underscored (spaced column.field.toList) = column.field.toList := by
  have kept : ∀ c ∈ column.field.toList,
      (fun c => if c = ' ' then '_' else c) (if c = '_' then ' ' else c) = c := by
    intro c listed
    by_cases isUnderscore : c = '_'
    · simp [isUnderscore]
    · have noBlank : c ≠ ' ' := fun isBlank => blank_notMem_field (isBlank ▸ listed)
      simp [isUnderscore, noBlank]
  rw [underscored, spaced, List.map_map]
  exact (List.map_congr_left kept).trans (List.map_id' _)

end Field

/-! ## Reading a label back -/

theorem map_toLower_labelOf {part : List Char} (isField : ∀ c ∈ part, isFieldChar c = true) :
    (labelOf part).map Char.toLower = part := by
  have small : part.map Char.toLower = part := by
    rw [List.map_congr_left fun c listed => (of_isFieldChar (isField c listed)).1, List.map_id']
  rw [labelOf, small]
  cases isSpecial : specialLabels.lookup part with
  | some label =>
      have each : ∀ special ∈ specialLabels, special.2.map Char.toLower = special.1 := by
        decide
      obtain ⟨before, after, listed, -⟩ := List.lookup_eq_some_iff.mp isSpecial
      exact each (part, label) (by simp [listed])
  | none =>
      cases part with
      | nil => rfl
      | cons first rest =>
          have again : rest.map Char.toLower = rest := (List.cons.inj small).2
          rw [Option.getD_none, capitalize, List.map_cons, again, again,
            (of_isFieldChar (isField first List.mem_cons_self)).2.1]

theorem underscored_headerLabel (column : Column) :
    underscored ((headerLabel column).toList.map Char.toLower) = column.field.toList := by
  let restore (c : Char) : Char := if c.toLower = ' ' then '_' else c.toLower
  let parts := column.field.toList.splitOn '_'
  have joined : Segments.absolute '_' parts = '_' :: column.field.toList :=
    Segments.absolute_splitOn _
  have part_by_part : ∀ part ∈ parts, (labelOf part).map restore = part := by
    intro part isPart
    have inField : ∀ c ∈ part, c ∈ column.field.toList := by
      intro c listed
      have found : c ∈ '_' :: column.field.toList :=
        joined ▸ Segments.mem_absolute_of_mem isPart listed
      rcases List.mem_cons.mp found with rfl | found
      · exact absurd listed (Segments.notMem_of_mem_splitOn isPart)
      · exact found
    have lowered := map_toLower_labelOf fun c listed => isFieldChar_of_mem (inField c listed)
    have noBlank : ' ' ∉ part := fun listed => blank_notMem_field (inField _ listed)
    have kept : ∀ c ∈ labelOf part, restore c = c.toLower := by
      intro c listed
      apply if_neg
      intro isBlank
      apply noBlank
      rw [← lowered, ← isBlank]
      exact List.mem_map_of_mem listed
    rw [List.map_congr_left kept, lowered]
  have labels : parts.map labelOf ≠ [] := by simp [parts, List.splitOn_ne_nil]
  have restored : (Segments.absolute ' ' (parts.map labelOf)).map restore =
      Segments.absolute '_' parts := by
    rw [Segments.absolute, Segments.absolute, List.map_flatMap, List.flatMap_map]
    apply List.flatMap_congr
    intro part isPart
    rw [List.map_cons, part_by_part part isPart]
    rfl
  rw [← Segments.cons_intercalate labels, joined] at restored
  rw [headerLabel, String.toList_ofList, underscored, List.map_map]
  exact (List.cons.inj restored).2

theorem strip_headerLabel (column : Column) :
    strip isSpace (headerLabel column) = headerLabel column := by
  have plain := isPlain_field column
  simp only [isPlain, Bool.and_eq_true] at plain
  have read := underscored_headerLabel column
  rw [underscored, List.map_map] at read
  have visible {c : Char} (listed : c ∈ (headerLabel column).toList)
      (noUnderscore : (if c.toLower = ' ' then '_' else c.toLower) ≠ '_') : isSpace c = false := by
    by_contra space
    rw [Bool.not_eq_false] at space
    rw [Ingestion.toLower_of_isSpace space] at noUnderscore
    have noBlank : c ≠ ' ' := fun isBlank => noUnderscore (if_pos isBlank)
    have found : c ∈ column.field.toList := by
      rw [← read, List.mem_map]
      refine ⟨c, listed, ?_⟩
      simp [Ingestion.toLower_of_isSpace space, noBlank]
    rw [(of_isFieldChar (isFieldChar_of_mem found)).2.2] at space
    cases space
  refine Ingestion.strip_of_ends ?_ ?_
  · intro c isFirst
    refine visible (List.mem_of_mem_head? isFirst) ?_
    have first := plain.1.2
    rw [← read, List.head?_map, isFirst] at first
    simpa using first
  · intro c isLast
    refine visible (List.mem_of_mem_getLast? isLast) ?_
    have last := plain.2
    rw [← read, List.getLast?_map, isLast] at last
    simpa using last

theorem map_toLower_title (inWord : Bool) {text : List Char}
    (small : ∀ c ∈ text, c.toLower = c ∧ c.toUpper.toLower = c) :
    (title inWord text).map Char.toLower = text := by
  induction text generalizing inWord with
  | nil => rfl
  | cons c rest ih =>
      have first := small c List.mem_cons_self
      rw [title, List.map_cons, ih c.isAlpha fun c listed =>
        small c (List.mem_cons_of_mem _ listed)]
      cases inWord with
      | true => simp [first.1]
      | false => simp [first.2]

theorem map_toLower_title_spaced (column : Column) :
    (title false (spaced column.field.toList)).map Char.toLower = spaced column.field.toList := by
  apply map_toLower_title
  intro c listed
  obtain ⟨original, isOriginal, rfl⟩ := List.mem_map.mp listed
  have small := of_isFieldChar (isFieldChar_of_mem isOriginal)
  split
  · decide
  · exact ⟨small.1, small.2.1⟩

theorem isHeaderOf_headerLabel {column other : Column} :
    isHeaderOf (headerLabel column) other = true ↔ other.field = column.field := by
  have read := underscored_headerLabel column
  rw [isHeaderOf, strip_headerLabel, map_toLower_field]
  simp only [Bool.and_eq_true, Bool.or_eq_true, decide_eq_true_eq]
  constructor
  · rintro ⟨-, (isTitle | isLower) | isUnderscored⟩
    · rw [isTitle, map_toLower_title_spaced, underscored_spaced_field] at read
      exact String.toList_inj.mp read
    · rw [isLower, underscored_field] at read
      exact String.toList_inj.mp read
    · exact String.toList_inj.mp (isUnderscored.symm.trans read)
  · intro same
    refine ⟨?_, .inr (read.trans (congrArg String.toList same.symm))⟩
    intro noLabel
    rw [noLabel] at read
    have plain := isPlain_field column
    rw [← read] at plain
    cases plain

end PaymentsPlatform.Programme
