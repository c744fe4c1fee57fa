import PaymentsPlatform.AgentApi.DataQualityFindings
import PaymentsPlatform.Warehouse.DqResults

/-!
# The summary of the recorded results

`existing_results_summary` of `data_quality.py`, and the branch of `DataQualityAgent.run` that it
answers.  The statement counts the verdicts that are false; the table that it reads gives a verdict
that is unknown the status of a failure.

The statement is executed inside the bounding wrapper, which keeps no order: any of its rows may be
the ones that are returned.
-/

namespace PaymentsPlatform.AgentApi.DataQuality

open Library.Fallible
open Warehouse (DqResult DqSources EntityType RuleCode)

/-! ## The statement -/

/-- A row that the statement returns. -/
structure RuleCheck where
  entityType : EntityType
  ruleCode : RuleCode
  checkedRows : Nat
  failedRows : Nat
  deriving DecidableEq

/-- `GROUP BY entity_type, rule_code`. -/
def ruleKey (result : DqResult) : EntityType × RuleCode := (result.entityType, result.ruleCode)

/-- `COUNT(*)` and `COUNT_IF(NOT rule_passed)` of a group. -/
def checkOf (key : EntityType × RuleCode) (group : Multiset DqResult) : RuleCheck where
  entityType := key.1
  ruleCode := key.2
  checkedRows := group.card
  failedRows := Bag.countWhere (fun result => result.rulePassed.not) group

def ruleChecks (results : Multiset DqResult) : Multiset RuleCheck :=
  Bag.groupBy ruleKey checkOf results

/-- The rows that a statement bounded to `maxRows` may return. -/
structure Answers (results : Multiset DqResult) (maxRows : Nat) (checks : List RuleCheck) :
    Prop where
  le : (checks : Multiset RuleCheck) ≤ ruleChecks results
  length : checks.length = min maxRows (ruleChecks results).card

def RuleCheck.cells (check : RuleCheck) : List Cell :=
  [.text check.entityType.text, .text check.ruleCode.text, countCell check.checkedRows,
    countCell check.failedRows]

def checksTable (checks : List RuleCheck) : Table :=
  ⟨["entity_type", "rule_code", "checked_rows", "failed_rows"], checks.map RuleCheck.cells⟩

def summarySql (dataset : Reference) : String :=
  "SELECT entity_type, rule_code, COUNT(*) AS checked_rows, " ++
    "COUNT_IF(NOT rule_passed) AS failed_rows FROM " ++ datasetSql dataset ++
    " GROUP BY entity_type, rule_code ORDER BY failed_rows DESC, entity_type, rule_code"

def summaryQuery (dataset : Reference) : Query :=
  .select .done false
    [.column "" "entity_type", .column "" "rule_code",
      .aliased (call "count" [.star]) "checked_rows",
      .aliased (call "countif" [call "not" [.column "" "rule_passed"]]) "failed_rows"]
    (.table .cross dataset "" [] .done) []
    [.column "" "entity_type", .column "" "rule_code"] []
    [call "desc" [.column "" "failed_rows"], .column "" "entity_type", .column "" "rule_code"] none

/-! ## existing_results_summary -/

/-- A row by its labels. -/
abbrev Check := List (String × Cell)

structure ExistingResults where
  dataset : String
  checks : List Check
  /-- The `row_count` of the evidence. -/
  rowCount : Nat
  deriving DecidableEq

inductive TrustStatus where
  | issuesDetected
  | passedEvaluatedRules
  deriving DecidableEq

/-- What `DataQualityAgent.run` returns, less the evidence that it repeats. -/
structure ExistingReport where
  dataset : String
  trustStatus : TrustStatus
  existingResultsSummary : ExistingResults
  explanation : String
  deriving DecidableEq

def dqResultsReference : Reference := ⟨"iceberg", "silver", "slv_pdm_dq_results"⟩

def dqResultsDataset : String := "iceberg.silver.slv_pdm_dq_results"

/-- `int(item["failed_rows"] or 0)`. -/
def failedRowsOf (check : Check) : Except DQError Int :=
  intOf ((check.lookup "failed_rows").getD .null)

namespace DataQualityEngine

variable {Value : Type} (engine : DataQualityEngine Value)

/-- The summary, where Trino returns the rows `checks`. -/
def existingResultsSummary (checks : List RuleCheck) (permissions : Permissions)
    (dataset : String) : Except DQError ExistingResults :=
  if !permissions.permits .canRunDataQualityChecks then
    .error (.permissionDenied "data-quality permission is required")
  else if !permissions.permits .canExecuteReadQueries then
    .error (.permissionDenied "read-query permission is required")
  else do
    let reference ← qualified dataset
    if ¬ ["entity_type", "rule_code", "rule_passed"] ⊆ engine.describeTable reference then
      .error (.toolError (dataset ++ " is not the repository DQ results contract"))
    else
      let result ← engine.execute (summarySql reference) (summaryQuery reference)
        (some (checksTable checks)) 100
      let rows := result.rows.map result.columns.zip
      return { dataset := dataset, checks := rows, rowCount := rows.length }

/-- The answer that `run` builds from the summary. -/
def reportOf (summary : ExistingResults) (failures : Int) : ExistingReport where
  dataset := summary.dataset
  trustStatus := if failures ≠ 0 then .issuesDetected else .passedEvaluatedRules
  existingResultsSummary := summary
  explanation := "Observed " ++ toString failures ++ " failed rows in repository-owned " ++
    "financial, referential, and reconciliation checks."

/-- `DataQualityAgent.run` when it is asked for the existing results. -/
def existingReport (checks : List RuleCheck) (permissions : Permissions) :
    Except DQError ExistingReport :=
  if !permissions.permits .canRunDataQualityChecks then
    .error (.permissionDenied "data-quality permission is required")
  else do
    let summary ← engine.existingResultsSummary checks permissions dqResultsDataset
    let failed ← summary.checks.mapM failedRowsOf
    return reportOf summary failed.sum

/-- The caller may read the recorded results, and none of their columns is masked. -/
structure ReadsResults (permissions : Permissions) : Prop where
  runs : permissions.permits .canRunDataQualityChecks = true
  executes : permissions.permits .canExecuteReadQueries = true
  described : ["entity_type", "rule_code", "rule_passed"] ⊆ engine.describeTable dqResultsReference
  allows : engine.Allows (summarySql dqResultsReference)
  unmasked : ∃ admitted decision,
    engine.tools.Admission (summaryQuery dqResultsReference) none admitted decision ∧
      decision.decision ≠ .mask

end DataQualityEngine

/-! ## Agreement with the recorded results -/

/-- The rows of a rule whose status is a failure. -/
def failures (results : Multiset DqResult) (key : EntityType × RuleCode) : Nat :=
  (results.filter fun result => ruleKey result = key ∧ result.ruleStatus = .fail).card

/-- The check is about the rule. -/
def IsAbout (check : Check) (key : EntityType × RuleCode) : Prop :=
  check.lookup "entity_type" = some (.text key.1.text) ∧
    check.lookup "rule_code" = some (.text key.2.text)

/-- The report counts the failures of each rule, leaves out no rule that has one, and trusts the
results exactly if there is none. -/
structure ExistingReport.AgreesWith (report : ExistingReport) (results : Multiset DqResult) :
    Prop where
  counted : ∀ check ∈ report.existingResultsSummary.checks, ∀ key, IsAbout check key →
    failedRowsOf check = .ok (failures results key)
  reported : ∀ result ∈ results, result.ruleStatus = .fail →
    ∃ check ∈ report.existingResultsSummary.checks, IsAbout check (ruleKey result)
  trusted : report.trustStatus = .passedEvaluatedRules ↔
    ∀ result ∈ results, result.ruleStatus ≠ .fail

/-- The rows that the statement may return are at most as many as the request and the settings
allow. -/
def DataQualityEngine.summaryRows {Value : Type} (engine : DataQualityEngine Value) : Nat :=
  min 100 engine.tools.maxRows

/-- The report agrees with the results, whichever rows Trino returns. -/
def DataQualityEngine.SummaryAgrees {Value : Type} (engine : DataQualityEngine Value)
    (permissions : Permissions) (results : Multiset DqResult) : Prop :=
  ∀ checks, Answers results engine.summaryRows checks →
    ∃ report, engine.existingReport checks permissions = .ok report ∧ report.AgreesWith results

/-! ## Reading the rows -/

/-- A row as it is returned. -/
def RuleCheck.labelled (check : RuleCheck) : Check :=
  ["entity_type", "rule_code", "checked_rows", "failed_rows"].zip check.cells

theorem failedRowsOf_labelled (check : RuleCheck) :
    failedRowsOf check.labelled = .ok check.failedRows :=
  intOf_countCell check.failedRows

theorem isAbout_labelled {check : RuleCheck} {key : EntityType × RuleCode} :
    IsAbout check.labelled key ↔ (check.entityType, check.ruleCode) = key := by
  have entityType : check.labelled.lookup "entity_type" = some (.text check.entityType.text) := rfl
  have ruleCode : check.labelled.lookup "rule_code" = some (.text check.ruleCode.text) := rfl
  rw [IsAbout, entityType, ruleCode, Prod.ext_iff]
  constructor
  · intro ⟨sameType, sameCode⟩
    exact ⟨EntityType.text_injective (Cell.text.inj (Option.some.inj sameType)),
      RuleCode.text_injective (Cell.text.inj (Option.some.inj sameCode))⟩
  · intro ⟨sameType, sameCode⟩
    exact ⟨sameType ▸ rfl, sameCode ▸ rfl⟩

theorem mapM_failedRowsOf (checks : List RuleCheck) :
    (checks.map RuleCheck.labelled).mapM failedRowsOf =
      .ok (checks.map fun check => (check.failedRows : Int)) := by
  induction checks with
  | nil => rfl
  | cons check checks ih =>
      rw [List.map_cons, List.mapM_cons, failedRowsOf_labelled, ih]
      rfl

theorem sum_failedRows_eq_zero {checks : List RuleCheck} :
    (checks.map fun check => (check.failedRows : Int)).sum = 0 ↔
      ∀ check ∈ checks, check.failedRows = 0 := by
  induction checks with
  | nil => simp
  | cons check checks ih =>
      have nonnegative : 0 ≤ (checks.map fun check => (check.failedRows : Int)).sum := by
        refine List.sum_nonneg fun count member => ?_
        obtain ⟨other, -, rfl⟩ := List.mem_map.mp member
        exact Int.natCast_nonneg _
      rw [List.map_cons, List.sum_cons, List.forall_mem_cons, ← ih]
      omega

/-- The summary of the rows that Trino returns. -/
def summaryOf (checks : List RuleCheck) : ExistingResults :=
  ⟨dqResultsDataset, checks.map RuleCheck.labelled, (checks.map RuleCheck.labelled).length⟩

section

variable {Value : Type} {engine : DataQualityEngine Value} {permissions : Permissions}

theorem existingResultsSummary_eq (reads : engine.ReadsResults permissions)
    (checks : List RuleCheck) :
    engine.existingResultsSummary checks permissions dqResultsDataset = .ok (summaryOf checks) := by
  obtain ⟨admitted, decision, admission, plain⟩ := reads.unmasked
  obtain ⟨result, executed, columns, rows⟩ :=
    execute_of_admission reads.allows admission (checksTable checks) 100
  rw [maskQueryRows, if_pos plain] at rows
  have isQualified : qualified dqResultsDataset = .ok dqResultsReference := by rfl
  have labelled : result.rows.map result.columns.zip = checks.map RuleCheck.labelled := by
    rw [rows, columns]
    exact List.map_map
  rw [DataQualityEngine.existingResultsSummary, reads.runs, reads.executes, isQualified]
  simp only [Bool.not_true, Bool.false_eq_true, if_false, bind, Except.bind, reads.described,
    not_true_eq_false, executed, labelled]
  rfl

theorem existingReport_eq (reads : engine.ReadsResults permissions) (checks : List RuleCheck) :
    engine.existingReport checks permissions = .ok (DataQualityEngine.reportOf (summaryOf checks)
      (checks.map fun check => (check.failedRows : Int)).sum) := by
  rw [DataQualityEngine.existingReport, reads.runs, existingResultsSummary_eq reads]
  simp only [Bool.not_true, Bool.false_eq_true, if_false, bind, Except.bind, summaryOf,
    mapM_failedRowsOf]
  rfl

end

theorem trustStatus_reportOf {checks : List RuleCheck} :
    (DataQualityEngine.reportOf (summaryOf checks)
      (checks.map fun check => (check.failedRows : Int)).sum).trustStatus =
        .passedEvaluatedRules ↔ ∀ check ∈ checks, check.failedRows = 0 := by
  rw [← sum_failedRows_eq_zero]
  simp only [DataQualityEngine.reportOf, ne_eq, ite_not]
  split
  next none => simp [none]
  next some => simp [some]

/-! ## Counting the failures -/

section

variable {results : Multiset DqResult}

theorem mem_ruleChecks {check : RuleCheck} :
    check ∈ ruleChecks results ↔ ∃ result ∈ results, check = checkOf (ruleKey result)
      (results.filter fun other => ruleKey other = ruleKey result) :=
  Bag.mem_groupBy

theorem nodup_keys_ruleChecks :
    ((ruleChecks results).map fun check => (check.entityType, check.ruleCode)).Nodup :=
  Bag.nodup_map_groupBy (fun _ _ => rfl) results

theorem failedRows_checkOf (key : EntityType × RuleCode) :
    (checkOf key (results.filter fun other => ruleKey other = key)).failedRows =
      (results.filter fun result => ruleKey result = key ∧ result.rulePassed = some false).card := by
  simp only [checkOf, Bag.countWhere, Truth.holds_not, Multiset.filter_filter, and_comm]

theorem failedRows_eq_failures_iff {key : EntityType × RuleCode} :
    (checkOf key (results.filter fun other => ruleKey other = key)).failedRows =
        failures results key ↔
      ∀ result ∈ results, ruleKey result = key → result.rulePassed.isSome := by
  have fails (result : DqResult) (isFalse : result.rulePassed = some false) :
      result.ruleStatus = .fail := by
    rw [DqResult.ruleStatus_eq_fail, isFalse]
    decide
  rw [failedRows_checkOf, failures]
  constructor
  · intro same result member ofKey
    have le : (results.filter fun result => ruleKey result = key ∧
        result.rulePassed = some false) ≤
        results.filter fun result => ruleKey result = key ∧ result.ruleStatus = .fail :=
      Multiset.monotone_filter_right results fun result both => ⟨both.1, fails result both.2⟩
    have equal := Multiset.eq_of_le_of_card_le le same.ge
    cases passed : result.rulePassed with
    | some value => rfl
    | none =>
        have failed : result ∈ results.filter fun result =>
            ruleKey result = key ∧ result.ruleStatus = .fail := by
          rw [Multiset.mem_filter, DqResult.ruleStatus_eq_fail, passed]
          exact ⟨member, ofKey, nofun⟩
        rw [← equal, Multiset.mem_filter, passed] at failed
        cases failed.2.2
  · intro known
    refine congrArg Multiset.card (Multiset.filter_congr fun result member => ?_)
    refine and_congr_right fun ofKey => ⟨fails result, fun failed => ?_⟩
    obtain ⟨value, isKnown⟩ := Option.isSome_iff_exists.mp (known result member ofKey)
    rw [DqResult.ruleStatus_eq_fail, isKnown] at failed
    cases value with
    | false => exact isKnown
    | true => exact absurd rfl failed

theorem failures_ne_zero {result : DqResult} (member : result ∈ results)
    (failed : result.ruleStatus = .fail) : failures results (ruleKey result) ≠ 0 := by
  have counted : 0 < failures results (ruleKey result) :=
    Multiset.card_pos_iff_exists_mem.mpr ⟨result, Multiset.mem_filter.mpr ⟨member, rfl, failed⟩⟩
  omega

theorem Answers.exists_key {maxRows : Nat} {checks : List RuleCheck}
    (answers : Answers results maxRows checks) {check : RuleCheck} (listed : check ∈ checks) :
    ∃ result ∈ results, check = checkOf (ruleKey result)
      (results.filter fun other => ruleKey other = ruleKey result) :=
  mem_ruleChecks.mp (Multiset.mem_of_le answers.le (Multiset.mem_coe.mpr listed))

theorem exists_answers (results : Multiset DqResult) (maxRows : Nat) :
    ∃ checks, Answers results maxRows checks := by
  obtain ⟨checks, le, length⟩ := Bag.exists_part (min_le_right maxRows (ruleChecks results).card)
  exact ⟨checks, le, length⟩

theorem exists_answers_without {maxRows : Nat} (cut : maxRows < (ruleChecks results).card)
    {check : RuleCheck} (member : check ∈ ruleChecks results) :
    ∃ checks, Answers results maxRows checks ∧ check ∉ checks := by
  have fits : maxRows ≤ ((ruleChecks results).erase check).card := by
    rw [Multiset.card_erase_of_mem member]
    exact Nat.le_pred_of_lt cut
  obtain ⟨checks, le, length⟩ := Bag.exists_part fits
  refine ⟨checks, ⟨le.trans (Multiset.erase_le _ _), by omega⟩, fun listed => ?_⟩
  have distinct := nodup_keys_ruleChecks.of_map _ (s := ruleChecks results)
  exact distinct.notMem_erase (Multiset.mem_of_le le (Multiset.mem_coe.mpr listed))

theorem Answers.coe_eq {maxRows : Nat} {checks : List RuleCheck}
    (answers : Answers results maxRows checks) (fits : (ruleChecks results).card ≤ maxRows) :
    (checks : Multiset RuleCheck) = ruleChecks results := by
  refine Multiset.eq_of_le_of_card_le answers.le ?_
  rw [Multiset.coe_card, answers.length]
  omega

end

/-! ## When the report agrees -/

section

variable {Value : Type} {engine : DataQualityEngine Value} {permissions : Permissions}
  {results : Multiset DqResult}

theorem agreesWith_iff {checks : List RuleCheck} :
    (DataQualityEngine.reportOf (summaryOf checks)
      (checks.map fun check => (check.failedRows : Int)).sum).AgreesWith results ↔
      (∀ check ∈ checks, check.failedRows = failures results (check.entityType, check.ruleCode)) ∧
        (∀ result ∈ results, result.ruleStatus = .fail →
          ∃ check ∈ checks, (check.entityType, check.ruleCode) = ruleKey result) ∧
        ((∀ check ∈ checks, check.failedRows = 0) ↔
          ∀ result ∈ results, result.ruleStatus ≠ .fail) := by
  constructor
  · intro agrees
    refine ⟨fun check listed => ?_, fun result member failed => ?_,
      trustStatus_reportOf.symm.trans agrees.trusted⟩
    · have counted := agrees.counted check.labelled (List.mem_map_of_mem listed) _
        (isAbout_labelled.mpr rfl)
      rw [failedRowsOf_labelled] at counted
      exact Int.ofNat.inj (Except.ok.inj counted)
    · obtain ⟨row, listed, isAbout⟩ := agrees.reported result member failed
      obtain ⟨check, isCheck, rfl⟩ := List.mem_map.mp listed
      exact ⟨check, isCheck, isAbout_labelled.mp isAbout⟩
  · intro ⟨counted, reported, trusted⟩
    refine ⟨fun row listed key isAbout => ?_, fun result member failed => ?_,
      trustStatus_reportOf.trans trusted⟩
    · obtain ⟨check, isCheck, rfl⟩ := List.mem_map.mp listed
      rw [failedRowsOf_labelled, counted check isCheck, isAbout_labelled.mp isAbout]
    · obtain ⟨check, isCheck, ofRule⟩ := reported result member failed
      exact ⟨check.labelled, List.mem_map_of_mem isCheck, isAbout_labelled.mpr ofRule⟩

theorem summaryAgrees_iff_of_reads (reads : engine.ReadsResults permissions) :
    engine.SummaryAgrees permissions results ↔
      ∀ checks, Answers results engine.summaryRows checks →
        (DataQualityEngine.reportOf (summaryOf checks)
          (checks.map fun check => (check.failedRows : Int)).sum).AgreesWith results := by
  refine forall_congr' fun checks => imp_congr_right fun _ => ?_
  rw [existingReport_eq reads]
  constructor
  · intro ⟨report, returned, agrees⟩
    cases returned
    exact agrees
  · intro agrees
    exact ⟨_, rfl, agrees⟩

theorem isSome_of_summaryAgrees (reads : engine.ReadsResults permissions)
    (agrees : engine.SummaryAgrees permissions results) {result : DqResult}
    (member : result ∈ results) : result.rulePassed.isSome := by
  by_cases failed : result.ruleStatus = .fail
  · obtain ⟨checks, answers⟩ := exists_answers results engine.summaryRows
    obtain ⟨counted, reported, -⟩ :=
      agreesWith_iff.mp ((summaryAgrees_iff_of_reads reads).mp agrees checks answers)
    obtain ⟨check, listed, ofRule⟩ := reported result member failed
    have same := counted check listed
    obtain ⟨other, -, rfl⟩ := answers.exists_key listed
    have isRule : ruleKey other = ruleKey result := ofRule
    exact failedRows_eq_failures_iff.mp same result member isRule.symm
  · rw [DqResult.ruleStatus_eq_fail, not_not] at failed
    exact failed ▸ rfl

theorem card_le_of_summaryAgrees (reads : engine.ReadsResults permissions)
    (agrees : engine.SummaryAgrees permissions results) {result : DqResult}
    (member : result ∈ results) (failed : result.rulePassed = some false) :
    (ruleChecks results).card ≤ engine.summaryRows := by
  by_contra cut
  have isCheck := mem_ruleChecks.mpr ⟨result, member, rfl⟩
  obtain ⟨checks, answers, absent⟩ := exists_answers_without (Nat.lt_of_not_le cut) isCheck
  obtain ⟨-, reported, -⟩ :=
    agreesWith_iff.mp ((summaryAgrees_iff_of_reads reads).mp agrees checks answers)
  have hasFailed : result.ruleStatus = .fail := by
    rw [DqResult.ruleStatus_eq_fail, failed]
    decide
  obtain ⟨check, listed, ofRule⟩ := reported result member hasFailed
  obtain ⟨other, -, rfl⟩ := answers.exists_key listed
  have isRule : ruleKey other = ruleKey result := ofRule
  rw [isRule] at listed
  exact absent listed

theorem summaryAgrees_of_known (reads : engine.ReadsResults permissions)
    (known : ∀ result ∈ results, result.rulePassed.isSome)
    (fits : (∀ result ∈ results, result.rulePassed ≠ some false) ∨
      (ruleChecks results).card ≤ engine.summaryRows) :
    engine.SummaryAgrees permissions results := by
  refine (summaryAgrees_iff_of_reads reads).mpr fun checks answers => ?_
  have counted (check : RuleCheck) (listed : check ∈ checks) :
      check.failedRows = failures results (check.entityType, check.ruleCode) := by
    obtain ⟨result, -, rfl⟩ := answers.exists_key listed
    exact failedRows_eq_failures_iff.mpr fun other member _ => known other member
  have reported (result : DqResult) (member : result ∈ results)
      (failed : result.ruleStatus = .fail) :
      ∃ check ∈ checks, (check.entityType, check.ruleCode) = ruleKey result := by
    rcases fits with none | fits
    · obtain ⟨value, isKnown⟩ := Option.isSome_iff_exists.mp (known result member)
      rw [DqResult.ruleStatus_eq_fail, isKnown] at failed
      cases value with
      | false => exact absurd isKnown (none result member)
      | true => exact absurd rfl failed
    · have isCheck := mem_ruleChecks.mpr ⟨result, member, rfl⟩
      rw [← answers.coe_eq fits, Multiset.mem_coe] at isCheck
      exact ⟨_, isCheck, rfl⟩
  refine agreesWith_iff.mpr ⟨counted, reported, ?_⟩
  constructor
  · intro none result member failed
    obtain ⟨check, listed, ofRule⟩ := reported result member failed
    refine failures_ne_zero member failed ?_
    rw [← ofRule, ← counted check listed]
    exact none check listed
  · intro none check listed
    rw [counted check listed, failures, Multiset.card_eq_zero, Multiset.filter_eq_nil]
    exact fun result member both => none result member both.2

/-- The report agrees with the recorded results exactly when no verdict about a loan lacks what it
compares, and no rule is cut off beside one that fails. -/
theorem summaryAgrees_iff {sources : DqSources} (reads : engine.ReadsResults permissions) :
    engine.SummaryAgrees permissions sources.slvPdmDqResults ↔
      (∀ loan ∈ sources.slvPdmLoans, loan.VerdictsKnown) ∧
        ((∀ result ∈ sources.slvPdmDqResults, result.rulePassed ≠ some false) ∨
          (sources.slvPdmDqResults.map ruleKey).dedup.card ≤ engine.summaryRows) := by
  have rules : (ruleChecks sources.slvPdmDqResults).card =
      (sources.slvPdmDqResults.map ruleKey).dedup.card := Bag.card_groupBy _
  rw [← DqSources.forall_isSome_iff, ← rules]
  constructor
  · intro agrees
    refine ⟨fun result => isSome_of_summaryAgrees reads agrees, ?_⟩
    by_cases none : ∀ result ∈ sources.slvPdmDqResults, result.rulePassed ≠ some false
    · exact .inl none
    · simp only [not_forall, not_not] at none
      obtain ⟨result, member, failed⟩ := none
      exact .inr (card_le_of_summaryAgrees reads agrees member failed)
  · intro ⟨known, fits⟩
    exact summaryAgrees_of_known reads known fits

end

/-! ## A loan without a date -/

open ToolRegistry (analystTools)

def resultsEngine : DataQualityEngine String :=
  { loansEngine with describeTable := fun _ => ["entity_type", "rule_code", "rule_passed"] }

/-- The three columns, none of which is more than internal. -/
def resultsResource : ResourceContext where
  dataset := dqResultsDataset
  fields := ["entity_type", "rule_code", "rule_passed"]
  classification := .internal
  fieldClassifications := ["entity_type", "rule_code", "rule_passed"].map fun field =>
    ⟨dqResultsDataset, field, .internal, none⟩
  fieldLineage := [("entity_type", "entity_type"), ("rule_code", "rule_code"),
    ("failed_rows", "rule_passed")]
  district := none
  parish := none

theorem resultsEngine_reads : resultsEngine.ReadsResults checker where
  runs := by decide
  executes := by decide
  described := by decide
  allows := by
    rw [DataQualityEngine.Allows]
    decide +kernel
  unmasked := by
    have resolved : analystTools.resolver.resolveSql (summaryQuery dqResultsReference)
        ToolRegistry.analystRequest.resource.district
          ToolRegistry.analystRequest.resource.parish = .ok resultsResource := by
      decide +kernel
    have allowed : (analystTools.governanceEngine.evaluate
        { ToolRegistry.analystRequest with resource := resultsResource }).decision = .allow := by
      decide +kernel
    refine ⟨{ ToolRegistry.analystRequest with resource := resultsResource }, _,
      ⟨rfl, ⟨ToolRegistry.analystRequest, rfl,
        ToolRegistry.authoritative_of_resolved resolved⟩,
      ToolRegistry.enforce_of_permitted (.inr allowed)⟩, ?_⟩
    rw [show resultsEngine.tools.governanceEngine = analystTools.governanceEngine from rfl, allowed]
    decide

/-- The one date of the loan. -/
def newYear : Calendar.Date := ⟨2026, 1, 1, by decide⟩

/-- A loan that is within all its limits. -/
def disbursedLoan (cashoutDate : Option Calendar.Date) : Warehouse.LoanAccount where
  loanId := some "LOAN-000001"
  beneficiaryId := none
  saccoId := none
  businessPlanId := none
  applicationDate := some newYear
  approvalDate := some newYear
  verificationDate := some newYear
  disbursementDate := some newYear
  cashoutDate := cashoutDate
  asOfDate := some newYear
  amountApproved := some 1000000
  amountDisbursed := some 1000000
  amountRepaid := some 0
  lastPaymentDate := none
  updatedAt := none
  amountRequested := some 1000000
  principalRepaid := some 0
  interestCharged := some 0
  interestPaid := some 0
  principalOutstandingBalance := some 1000000
  interestOutstandingBalance := some 0
  outstandingBalance := some 1000000
  loanStatus := some "DISBURSED"

def loanSources (cashoutDate : Option Calendar.Date) : DqSources where
  slvPdmLoans := {disbursedLoan cashoutDate}

theorem cashedOut_summaryAgrees :
    resultsEngine.SummaryAgrees checker (loanSources (some newYear)).slvPdmDqResults := by
  refine (summaryAgrees_iff resultsEngine_reads).mpr ⟨fun loan member => ?_, .inr (by decide +kernel)⟩
  rw [Multiset.mem_singleton.mp member]
  exact ⟨fun _ _ _ => rfl, fun _ _ _ => rfl,
    fun _ => .inl (Warehouse.LoanAccount.holds_stages.mp (by decide +kernel)), nofun⟩

/-- The order of the dates is a failure that no count has. -/
theorem uncashed_not_summaryAgrees :
    ¬ ∀ (engine : DataQualityEngine String) (permissions : Permissions) (sources : DqSources),
      engine.ReadsResults permissions →
        engine.SummaryAgrees permissions sources.slvPdmDqResults := by
  intro always
  have agrees := always resultsEngine checker (loanSources none) resultsEngine_reads
  have known := DqSources.forall_isSome_iff.mp
    (fun result => isSome_of_summaryAgrees resultsEngine_reads agrees) (disbursedLoan none)
    (Multiset.mem_singleton_self _)
  rcases known.ofDisbursed rfl with ordered | disordered
  · exact absurd (Warehouse.LoanAccount.holds_stages.mpr ordered) (by decide +kernel)
  · exact absurd (Warehouse.LoanAccount.stages_eq_false.mpr disordered) (by decide +kernel)

end PaymentsPlatform.AgentApi.DataQuality
