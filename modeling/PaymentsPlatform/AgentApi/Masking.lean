import PaymentsPlatform.AgentApi.QueryExecution
import PaymentsPlatform.AgentApi.Revealing

/-!
# Masking of governed queries

Masking follows one source field for each output label.  A result depends on every field that the
expressions of a column read, through whatever derived tables and set operations lie between, and
the two agree exactly on the queries whose dependent columns all have masked labels.
-/

namespace PaymentsPlatform.AgentApi

open Library (Forall₃)

/-! ## Masked rows -/

theorem clean_of_not_dirty {hidden : Reference → String → Bool} {origins : List Origin}
    (plain : dirty hidden origins = false) : Clean hidden origins := by
  simpa [dirty, Clean] using plain

/-! ## Soundness -/

namespace ToolRegistry

variable {tools : ToolRegistry} {schema : Schema} {query : Query} {maxRows : Nat}
  {governanceRequest : Option GovernanceRequest} {admitted : GovernanceRequest}
  {decision : PolicyDecision}

theorem execute_ok {result : Result} {returned : QueryResult}
    (executed : execute result admitted decision = .ok returned) :
    returned.columns = result.table.labels ∧
      returned.rows = maskQueryRows result.table.labels result.table.rows admitted decision := by
  rw [execute] at executed
  split at executed
  · cases executed
  · cases executed
    exact ⟨rfl, rfl⟩

theorem execute_of_not_failed {result : Result} (fine : result.trace.failed = false) :
    ∃ returned, execute result admitted decision = .ok returned := by
  rw [execute, fine]
  exact ⟨_, rfl⟩

/-- The run returns the table and does not fail. -/
def Returns (result : Result) (table : Table) : Prop :=
  result.table = table ∧ result.trace.failed = false

theorem Admission.executed (admission : tools.Admission query governanceRequest admitted decision)
    {database : Query → Result} {table : Table} (maxRows : Nat)
    (returns : Returns (database (bounded query (min maxRows tools.maxRows))) table) :
    ∃ result, tools.executeQuery database query maxRows governanceRequest = .ok result ∧
      result.columns = table.labels ∧
      result.rows = maskQueryRows table.labels table.rows admitted decision := by
  obtain ⟨result, executed⟩ : ∃ result, execute (database (bounded query
      (min maxRows tools.maxRows))) admitted decision = .ok result :=
    execute_of_not_failed returns.2
  obtain ⟨columns, rows⟩ := execute_ok executed
  rw [returns.1] at columns rows
  exact ⟨result, (admission.executeQuery_eq _ _).trans executed, columns, rows⟩

def beneficiaries : Reference := ⟨"iceberg", "silver", "slv_pdm_beneficiaries"⟩

/-- Selects over one source without clauses: every row is returned, and an expression is the first
of its values that is not null. -/
def coalescing : Engine where
  choose _ matrix := ⟨(List.range (matrix.length - 1)).map fun row => [row], false⟩
  apply _ _ values groups group :=
    let row := ((groups[group]?.bind List.head?).bind fun row => values[row]?).getD []
    ((row.flatMap fun table => table.rows.flatten).find? (· ≠ .null)).getD .null
  arrange _ _ _ := ⟨[], true⟩

/-- One beneficiary without a district. -/
def nameless (name : String) : Contents := fun reference =>
  if reference = beneficiaries then
    [fun field => if field = "beneficiary_name" then .text name else .null]
  else []

end ToolRegistry

end PaymentsPlatform.AgentApi
