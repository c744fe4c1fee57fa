import PaymentsPlatform.AgentApi.DataQualityMasking
import PaymentsPlatform.AgentApi.DataQualityRules

/-!
# True findings

`run_rule` reads its counts from the result that Trino returns, masked.  The finding is true exactly
when the check is executed unmasked over one dataset, with literals that Trino compares, and the
counts of the statement are those of the rule.
-/

namespace PaymentsPlatform.AgentApi.DataQuality

open Library.Fallible

/-! ## Masked counts are no numbers -/

theorem integer_repr (count : Nat) : integer (Nat.repr count) = some (count : Int) := by
  have digits : ∀ digit ∈ count.repr.toList, digit.isDigit = true := by
    intro digit listed
    rw [Nat.toList_repr] at listed
    exact Nat.isDigit_of_mem_toDigits (by decide) (by decide) listed
  have isNatural : integer.natural count.repr.toList = some count := by
    have filled : count.repr.toList ≠ [] := by
      rw [ne_eq, String.toList_eq_nil_iff]
      exact Nat.repr_ne_empty
    rw [integer.natural, if_pos ⟨filled, List.all_eq_true.mpr digits⟩, Nat.toList_repr,
      Nat.ofDigitChars_ten_toDigits]
  unfold integer
  split
  next rest split => exact absurd (digits '-' (by simp [split])) (by decide)
  next rest split => exact absurd (digits '+' (by simp [split])) (by decide)
  next => rw [isNatural, Option.map_some, Int.ofNat_eq_natCast]

theorem intOf_countCell (count : Nat) : intOf (countCell count) = .ok count := by
  simp [intOf, countCell, intOf.parsed, integer_repr]

section Executed

variable {Value : Type} {engine : DataQualityEngine Value} {sql : String} {query : Query}
  {table : Option Table} {maxRows : Nat} {result : QueryResult}

theorem admission_of_executeQuery {tools : ToolRegistry} {database : Query → Result}
    {governanceRequest : Option GovernanceRequest}
    (executed : tools.executeQuery database query maxRows governanceRequest = .ok result) :
    ∃ admitted decision, tools.Admission query governanceRequest admitted decision ∧
      ToolRegistry.execute (database (bounded query (min maxRows tools.maxRows))) admitted
        decision = .ok result := by
  unfold ToolRegistry.executeQuery at executed
  split at executed
  next => cases executed
  next request given =>
    obtain ⟨validated, isValid, executed⟩ := bind_ok executed
    obtain ⟨admitted, isAdmitted, executed⟩ := bind_ok executed
    obtain ⟨decision, decided, executed⟩ := bind_ok executed
    unfold validateReadQuery at isValid
    split at isValid
    next readOnly =>
      cases isValid
      exact ⟨admitted, decision, ⟨readOnly, ⟨request, given, isAdmitted⟩, decided⟩, executed⟩
    next => cases isValid

/-- The text is not longer than the settings allow. -/
def DataQualityEngine.Allows (engine : DataQualityEngine Value) (sql : String) : Prop :=
  sql.length ≤ engine.maxQueryLength

theorem execute_ok (executed : engine.execute sql query table maxRows = .ok result) :
    engine.Allows sql ∧ ∃ admitted decision answer,
      engine.tools.Admission query none admitted decision ∧ table = some answer ∧
        result.columns = answer.labels ∧
        result.rows = maskQueryRows answer.labels answer.rows admitted decision := by
  unfold DataQualityEngine.execute at executed
  split at executed
  next => cases executed
  next short =>
    cases run : engine.tools.executeQuery (fun _ => answered table) query maxRows none with
    | error error =>
        rw [run] at executed
        cases executed
    | ok returned =>
        rw [run] at executed
        cases executed
        obtain ⟨admitted, decision, admission, ran⟩ := admission_of_executeQuery run
        obtain ⟨request, given, -⟩ := admission.request
        refine ⟨?_, admitted, decision, ?_⟩
        · by_contra long
          apply short
          rw [Option.none_or] at given
          exact ⟨given ▸ rfl, Nat.lt_of_not_le long⟩
        · cases table with
          | none => simp [answered, ToolRegistry.execute] at ran
          | some answer =>
              obtain ⟨columns, rows⟩ := ToolRegistry.execute_ok ran
              exact ⟨answer, admission, rfl, columns, rows⟩

theorem execute_of_admission (allows : engine.Allows sql) {admitted : GovernanceRequest}
    {decision : PolicyDecision}
    (admission : engine.tools.Admission query none admitted decision) (answer : Table)
    (maxRows : Nat) :
    ∃ result, engine.execute sql query (some answer) maxRows = .ok result ∧
      result.columns = answer.labels ∧
      result.rows = maskQueryRows answer.labels answer.rows admitted decision := by
  have returns : ToolRegistry.Returns (answered (some answer)) answer :=
    ⟨rfl, by simp [answered]⟩
  obtain ⟨result, executed, columns, rows⟩ :=
    @ToolRegistry.Admission.executed _ _ _ _ _ admission (fun _ => answered (some answer)) answer
      maxRows returns
  refine ⟨result, ?_, columns, rows⟩
  rw [DataQualityEngine.execute, if_neg fun long => absurd allows (Nat.not_le_of_lt long.2),
    executed]
  rfl

end Executed

/-! ## Calls of tools -/

section Calls

variable {Value : Type} {engine : DataQualityEngine Value} {sql : String} {query : Query}
  {table : Option Table} {maxRows : Nat} {calls after : ToolCalls} {result : QueryResult}

end Calls

/-! ## Statements of rules -/

section Compiled

variable {Value : Type} {rule : DQRule} {dataset : Reference} {statement : Statement}
  {sample : Option Sample}

theorem dataset_ne_empty {reference : Reference}
    (named : PlainName reference.catalog ∧ PlainName reference.schema ∧ PlainName reference.name) :
    reference.dataset ≠ "" := by
  obtain ⟨catalog, schema, name⟩ := named
  intro empty
  rw [Reference.dataset, List.filter_cons_of_pos (by simpa using catalog.1),
    List.filter_cons_of_pos (by simpa using schema.1),
    List.filter_cons_of_pos (by simpa using name.1), List.filter_nil,
    ← String.toList_eq_nil_iff] at empty
  simp [String.intercalate_cons_cons] at empty

theorem dataset_of_qualified {text : String} {reference : Reference}
    (isReference : qualified text = .ok reference) : reference.dataset ≠ "" := by
  unfold qualified at isReference
  split at isReference
  next catalog schema name _ =>
    split at isReference
    next identifiers =>
      cases isReference
      simp only [Bool.and_eq_true] at identifiers
      exact dataset_ne_empty ⟨plainName_of_isIdentifier identifiers.1.1,
        plainName_of_isIdentifier identifiers.1.2, plainName_of_isIdentifier identifiers.2⟩
    next => cases isReference
  next => cases isReference

theorem Compiled.named (isDataset : qualified rule.dataset = .ok dataset)
    (isIdentifier : ToolPool.isIdentifier rule.field = true)
    (compiled : Compiled rule dataset statement sample) : statement.Named := by
  have filled := dataset_of_qualified isDataset
  have plain := plainName_of_isIdentifier isIdentifier
  have alone {statement : Statement} (tables : statement.references = [dataset])
      (columns : ∀ column ∈ statement.columns, column = rule.field) : statement.Named := by
    constructor
    · intro reference listed
      rw [tables, List.mem_singleton] at listed
      exact listed ▸ filled
    · intro column listed
      exact columns column listed ▸ plain
  cases compiled with
  | notNull _ =>
      exact alone rfl (by simp [Statement.columns, Statement.reads, Failure.field, Checked.columns])
  | unique _ => exact alone rfl (by simp [Statement.columns, Statement.reads])
  | acceptedValues values _ _ | range least greatest _ _ _ =>
      exact alone rfl (by simp [Statement.columns, Statement.reads, Failure.field, Checked.columns])
  | referentialIntegrity text referenceField reference _ _ _ isReference isField =>
      constructor
      · intro other listed
        rcases List.mem_pair.mp listed with rfl | rfl
        · exact filled
        · exact dataset_of_qualified isReference
      · intro column listed
        rcases List.mem_pair.mp listed with rfl | rfl
        · exact plain
        · exact plainName_of_isIdentifier isField

end Compiled

/-! ## Admission -/

section Admission

variable {Value : Type} {engine : DataQualityEngine Value} {rule : DQRule} {statement : Statement}
  {sample : Option Sample} {permissions : Permissions} {request : GovernanceRequest}
  {calls : ToolCalls}

end Admission

/-! ## Runs -/

section Runs

variable {Value : Type} [DecidableEq Value] {engine : DataQualityEngine Value}
  {tables : Tables Value} {rule : DQRule} {permissions : Permissions} {statement : Statement}
  {sample : Option Sample} {extraFields : List String} {request : GovernanceRequest}
  {counts : Nat × Nat} {calls after : ToolCalls}

end Runs

/-! ## Districts -/

open ToolRegistry (analystTools filteredResource loans)

/-- Compares texts. -/
def textTrino : Trino String where
  constant _ _ value := match value with
    | .string text => some text
    | _ => none
  comparable _ _ _ _ := true
  equal first second := first = second
  less first second := first < second

def loansEngine : DataQualityEngine String where
  tools := { analystTools with governanceRequest := some ToolRegistry.analystRequest }
  maxQueryLength := 20000
  dqMaxSampleRows := 5
  describeTable _ := ["district", "account_number"]
  trino := textTrino
  sampleRows _ := []
  str _ := ""
  digest _ := "0123456789ab"

/-- May check, and may not view samples. -/
def checker : Permissions where
  permits capability := capability ∈ defaultAgentCapabilities
  maxRows := 100

/-- The resource of the one column. -/
def districtResource : ResourceContext := { filteredResource with fieldLineage := [] }

end PaymentsPlatform.AgentApi.DataQuality
