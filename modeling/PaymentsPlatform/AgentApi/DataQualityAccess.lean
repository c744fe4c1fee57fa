import PaymentsPlatform.AgentApi.DataQuality
import PaymentsPlatform.AgentApi.Decisions
import PaymentsPlatform.AgentApi.PlainQueries

/-!
# When a check may be executed

A query over one dataset is admitted as soon as each column of its select lists may be read by
itself; one over two datasets never is.
-/

namespace PaymentsPlatform.AgentApi

open Library (RoseTree)
open Library.RoseTree (Under)
open Library.Fallible

namespace GovernancePolicyEngine

variable {engine : GovernancePolicyEngine} {request : GovernanceRequest}

/-- The decision lets the query through. -/
def Permits (engine : GovernancePolicyEngine) (request : GovernanceRequest) : Prop :=
  (engine.evaluate request).decision = .allow ∨ (engine.evaluate request).decision = .mask

theorem permits_iff :
    engine.Permits request ↔ ¬ request.Denied ∧ engine.awaitsApproval request = false := by
  unfold Permits
  cases engine.evaluate_decides request with
  | denied denied decision _ => simp [denied, decision]
  | permitted notDenied _ decision =>
      rw [decision]
      cases awaits : engine.awaitsApproval request with
      | true => simp
      | false =>
          rw [if_neg (by simp)]
          split <;> simp [notDenied]

theorem awaitsApproval_eq_false : engine.awaitsApproval request = false ↔
    ∀ field ∈ request.resource.fieldClassifications, field.classification = .restricted →
      (resolveApproval engine.approvalRegistry request).isSome := by
  rw [awaitsApproval, Bool.and_eq_false_iff, containsSensitiveFields, List.any_eq_false]
  constructor
  · rintro (none | held) field listed restricted
    · exact absurd (decide_eq_true restricted) (none field listed)
    · simpa using held
  · intro held
    by_cases sensitive : ∃ field ∈ request.resource.fieldClassifications,
        field.classification = .restricted
    · obtain ⟨field, listed, restricted⟩ := sensitive
      right
      simpa using held field listed restricted
    · left
      intro field listed restricted
      exact sensitive ⟨field, listed, of_decide_eq_true restricted⟩

theorem permits_of_each {resource : ResourceContext}
    (some_part : ∃ part, engine.Permits { request with resource := part } ∧
      part.dataset = resource.dataset ∧ part.classification = resource.classification ∧
      part.district = resource.district ∧ part.parish = resource.parish)
    (each : ∀ field ∈ resource.fieldClassifications, ∃ part,
      engine.Permits { request with resource := part } ∧ part.dataset = resource.dataset ∧
        field ∈ part.fieldClassifications) :
    engine.Permits { request with resource := resource } := by
  rw [permits_iff, awaitsApproval_eq_false]
  constructor
  · intro denied
    obtain ⟨part, permitted, -, sameClass, sameDistrict, sameParish⟩ := some_part
    apply (permits_iff.mp permitted).1
    cases denied with
    | role role held isUnknown => exact .role role held isUnknown
    | purpose unrecognised => exact .purpose unrecognised
    | area other =>
        apply GovernanceRequest.Denied.area
        unfold GovernanceRequest.DeclaresOtherArea at other ⊢
        simpa only [sameDistrict, sameParish] using other
    | dataset permission policy reason required missing =>
        exact .dataset permission policy reason (sameClass ▸ required) missing
    | field field listed denied =>
        obtain ⟨other, otherPermitted, -, isListed⟩ := each field listed
        exact absurd (.field field isListed denied) (permits_iff.mp otherPermitted).1
  · intro field listed restricted
    obtain ⟨part, permitted, sameDataset, isListed⟩ := each field listed
    have held := awaitsApproval_eq_false.mp (permits_iff.mp permitted).2 field isListed restricted
    unfold resolveApproval at held ⊢
    simpa only [sameDataset] using held

end GovernancePolicyEngine

namespace ToolRegistry

variable {tools : ToolRegistry} {request : GovernanceRequest} {query : Query} {dataset : String}

/-- The request may read the field of the dataset, maybe masked. -/
def MayRead (tools : ToolRegistry) (request : GovernanceRequest) (dataset field : String) : Prop :=
  ∃ resource, tools.resolver.resolveResource dataset [normalizeIdentifier field] []
      request.resource.district request.resource.parish = .ok resource ∧
    tools.governanceEngine.Permits { request with resource := resource }

section MayRead

variable {resolver : Registry} {fields : List String} {lineage : List (String × String)}
  {district parish : Option String} {resource : ResourceContext}

theorem resolveResource_scope
    (resolved : resolver.resolveResource dataset fields lineage district parish = .ok resource) :
    resource.district = district ∧ resource.parish = parish := by
  obtain ⟨classification, -, rest⟩ := bind_ok resolved
  obtain ⟨classifications, -, rest⟩ := bind_ok rest
  cases rest
  exact ⟨rfl, rfl⟩

theorem classifyField_of_resolved {field : String}
    (resolved : resolver.resolveResource dataset [normalizeIdentifier field] lineage district
      parish = .ok resource) (filled : normalizeIdentifier (normalizeIdentifier field) ≠ "") :
    ∃ classification, resolver.classifyField (normalizeDataset dataset)
        (normalizeIdentifier (normalizeIdentifier field)) = .ok classification ∧
      classification ∈ resource.fieldClassifications := by
  obtain ⟨-, mapped, -, -⟩ := resolveResource_ok resolved
  have single : Registry.canonicalFields [normalizeIdentifier field] =
      [normalizeIdentifier (normalizeIdentifier field)] := by
    simp [Registry.canonicalFields, filled]
  rw [single] at mapped
  obtain ⟨classification, rest, found, -, same⟩ :=
    List.forall₂_cons_left_iff.mp (mapM_ok mapped)
  exact ⟨classification, found, same ▸ List.mem_cons_self⟩

theorem mem_canonical_projected {name : String}
    (listed : name ∈ Registry.canonicalFields (projectedFieldsFromSql query)) :
    ∃ column ∈ projectedColumns query.render,
      name = normalizeIdentifier (normalizeIdentifier column) ∧ name ≠ "" := by
  rw [canonicalFields_eq, mem_distinctTexts, List.mem_map] at listed
  obtain ⟨⟨projected, isProjected, rfl⟩, filled⟩ := listed
  obtain ⟨isColumn, -⟩ := mem_distinctTexts.mp isProjected
  obtain ⟨column, written, rfl⟩ := List.mem_map.mp isColumn
  exact ⟨column, written, rfl, filled⟩

/-- A query over one dataset is executed when each of its columns may be read. -/
theorem admission_of_mayRead (given : tools.governanceRequest = some request)
    (readOnly : query.readOnly = true) (named : datasetsFromSql query = [dataset])
    (starless : ¬ query.ExpandsStar) {field : String}
    (known : tools.MayRead request dataset field)
    (each : ∀ column ∈ projectedColumns query.render, tools.MayRead request dataset column) :
    ∃ admitted decision, tools.Admission query none admitted decision := by
  obtain ⟨part, partResolved, partPermitted⟩ := known
  obtain ⟨partClass, -, partDataset, -⟩ := resolveResource_ok partResolved
  have classified : ∀ name ∈ Registry.canonicalFields (projectedFieldsFromSql query),
      ∃ other, tools.governanceEngine.Permits { request with resource := other } ∧
        other.dataset = normalizeDataset dataset ∧ ∃ classification,
          tools.resolver.classifyField (normalizeDataset dataset) name = .ok classification ∧
            classification ∈ other.fieldClassifications := by
    intro name listed
    obtain ⟨column, written, rfl, filled⟩ := mem_canonical_projected listed
    obtain ⟨other, resolved, permitted⟩ := each column written
    exact ⟨other, permitted, (resolveResource_ok resolved).2.2.1,
      classifyField_of_resolved resolved filled⟩
  have classifies : tools.resolver.Classifies dataset (projectedFieldsFromSql query) := by
    obtain ⟨classifications, mapped, -⟩ : ∃ classifications,
        (Registry.canonicalFields (projectedFieldsFromSql query)).mapM
          (tools.resolver.classifyField (normalizeDataset dataset)) = .ok classifications ∧
        ∀ classification ∈ classifications, True := by
      apply mapM_forall.mpr
      intro name listed
      obtain ⟨-, -, -, classification, found, -⟩ := classified name listed
      exact ⟨classification, found, trivial⟩
    rw [Registry.Classifies, Registry.resolveResource, partClass, mapped]
    exact ⟨_, rfl⟩
  obtain ⟨resource, resolved⟩ : ∃ resource, tools.resolver.resolveSql query
      request.resource.district request.resource.parish = .ok resource :=
    succeeds_resolveSql.mpr ⟨dataset, named, classifies, fun expands => absurd expands starless⟩
  refine ⟨{ request with resource := resource }, _, readOnly,
    ⟨request, given, authoritative_of_resolved resolved⟩, enforce_of_permitted (Or.symm ?_)⟩
  obtain ⟨other, lineage, otherNamed, -, rest⟩ := resolveSql_ok resolved
  rw [named] at otherNamed
  cases otherNamed
  obtain ⟨resourceClass, mapped, resourceDataset, -⟩ := resolveResource_ok rest
  obtain ⟨partDistrict, partParish⟩ := resolveResource_scope partResolved
  obtain ⟨resourceDistrict, resourceParish⟩ := resolveResource_scope rest
  apply GovernancePolicyEngine.permits_of_each
  · refine ⟨part, partPermitted, partDataset.trans resourceDataset.symm, ?_,
      partDistrict.trans resourceDistrict.symm, partParish.trans resourceParish.symm⟩
    rw [partClass] at resourceClass
    exact Except.ok.inj resourceClass
  · intro classification listed
    obtain ⟨name, isName, found⟩ := exists_of_mem_mapM mapped listed
    obtain ⟨permitting, permitted, sameDataset, known, isKnown, isListed⟩ := classified name isName
    rw [found] at isKnown
    cases isKnown
    exact ⟨permitting, permitted, sameDataset.trans resourceDataset.symm, isListed⟩

end MayRead

end ToolRegistry

/-! ## Statements of rules -/

namespace DataQuality

def Checked.columns : Checked → List String
  | .rows => []
  | .values field => [field]

/-- The tables of a statement. -/
def Statement.references : Statement → List Reference
  | .failures _ _ dataset => [dataset]
  | .duplicates _ dataset => [dataset]
  | .orphans _ dataset _ reference => [dataset, reference]

/-- The columns of a statement, each in its table. -/
def Statement.reads : Statement → List (Reference × String)
  | .failures checked failure dataset =>
      (failure.field :: checked.columns).map fun column => (dataset, column)
  | .duplicates field dataset => [(dataset, field)]
  | .orphans field dataset referenceField reference =>
      [(dataset, field), (reference, referenceField)]

def Statement.columns (statement : Statement) : List String := statement.reads.map Prod.snd

section Plain

variable {str : Json → String} {columns : List String}

theorem plain_call {key : String} {arguments : List Expr}
    (plain : ∀ argument ∈ arguments, argument.Plain columns) :
    (call key arguments).Plain columns := .call plain

theorem plain_call_one {key : String} {argument : Expr} (plain : argument.Plain columns) :
    (call key [argument]).Plain columns :=
  plain_call (List.forall_mem_singleton.mpr plain)

theorem plain_call_two {key : String} {first second : Expr} (plain : first.Plain columns)
    (also : second.Plain columns) : (call key [first, second]).Plain columns :=
  plain_call (List.forall_mem_cons.mpr ⟨plain, List.forall_mem_singleton.mpr also⟩)

theorem plain_nullTest {column : Expr} (plain : column.Plain columns) :
    (nullTest column).Plain columns :=
  plain_call_two plain (.literal "NULL")

theorem plain_valueTest {column : Expr} (plain : column.Plain columns) :
    (valueTest column).Plain columns :=
  plain_call_one (plain_nullTest plain)

theorem Failure.plain {failure : Failure} (listed : failure.field ∈ columns) :
    (failure.tree str).Plain columns := by
  have column : (Expr.column "" failure.field).Plain columns := .column listed
  have comparison (key : String) (bound : Json) :
      (call key [.column "" failure.field, .literal (literalText str bound)]).Plain columns :=
    plain_call_two column (.literal _)
  cases failure with
  | isNull field => exact plain_nullTest column
  | notIn field values =>
      apply plain_call_two (plain_valueTest column)
      apply plain_call_one
      apply plain_call
      intro part isPart
      rcases List.mem_cons.mp isPart with
        rfl | isLiteral
      · exact column
      · obtain ⟨value, -, rfl⟩ := List.mem_map.mp isLiteral
        exact .literal _
  | outside field least greatest =>
      apply plain_call_two (plain_valueTest column)
      apply plain_call
      intro clause isClause
      rcases List.mem_append.mp isClause with
        isBelow | isAbove
      · obtain ⟨bound, -, rfl⟩ := Option.map_eq_some_iff.mp (Option.mem_toList.mp isBelow)
        exact comparison "lt" bound
      · obtain ⟨bound, -, rfl⟩ := Option.map_eq_some_iff.mp (Option.mem_toList.mp isAbove)
        exact comparison "gt" bound

theorem plain_count {qualifier field : String} (listed : field ∈ columns) :
    (call "count" [.column qualifier field]).Plain columns :=
  plain_call_one (.column listed)

theorem plain_countRows : (call "count" [.star]).Plain columns := plain_call_one .star

theorem Checked.plain {checked : Checked} (listed : checked.columns ⊆ columns) :
    checked.tree.Plain columns := by
  cases checked with
  | rows => exact plain_countRows
  | values field => exact plain_count (listed List.mem_cons_self)

end Plain

def Sample.dataset : Sample → Reference
  | .failures _ _ dataset => dataset
  | .duplicates _ dataset => dataset

def Sample.field : Sample → String
  | .failures field _ _ => field
  | .duplicates field _ => field

/-- The sample of a failure shows the field that fails. -/
def Sample.Fits : Sample → Prop
  | .failures field failure _ => failure.field = field
  | .duplicates _ _ => True

end DataQuality

/-! ## Admission -/

section Admission

variable {tools : ToolRegistry} {request : GovernanceRequest} {columns : List String}
  {references : List Reference} {dataset : String}

theorem PlainSelect.admission (select : PlainSelect columns references)
    (given : tools.governanceRequest = some request) (filled : dataset ≠ "")
    (some_reference : references ≠ []) (one : ∀ reference ∈ references, reference.dataset = dataset)
    (some_column : columns ≠ []) (each : ∀ column ∈ columns, tools.MayRead request dataset column) :
    ∃ admitted decision, tools.Admission select.query none admitted decision := by
  obtain ⟨reference, isReference⟩ := List.exists_mem_of_ne_nil _ some_reference
  obtain ⟨column, isColumn⟩ := List.exists_mem_of_ne_nil _ some_column
  have named : datasetsFromSql select.query = [dataset] := by
    apply List.perm_singleton.mp
    apply (List.perm_ext_iff_of_nodup (nodup_distinctTexts _) (List.nodup_singleton dataset)).mpr
    intro name
    rw [List.mem_singleton, ← datasetsFromSql, select.mem_datasetsFromSql]
    constructor
    · rintro ⟨-, other, listed, rfl⟩
      exact one other listed
    · rintro rfl
      exact ⟨filled, reference, isReference, one reference isReference⟩
  exact ToolRegistry.admission_of_mayRead given rfl named select.not_expandsStar
    (each column isColumn) fun name projected => each name (select.mem_columns_of_projected projected)

end Admission

end PaymentsPlatform.AgentApi
