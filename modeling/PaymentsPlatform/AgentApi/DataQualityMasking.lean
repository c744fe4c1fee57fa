import PaymentsPlatform.AgentApi.DataQualityAccess

/-!
# Masked counts

The counts of a check have the columns that they are computed from as their lineage.  Where a column
is masked, so is a count: the decision on a check allows it only if each of its columns is allowed.
-/

namespace PaymentsPlatform.AgentApi

open Library (RoseTree)
open Library.Fallible

/-! ## Identifiers -/

theorem toList_toLower (text : String) : text.toLower.toList = text.toList.map Char.toLower :=
  String.toList_map ..

theorem of_identifierCharacter {character : Char}
    (isPart : (character.isAlphanum || character = '_') = true) :
    stripped character = false ∧ stripped character.toLower = false ∧
      character.toLower.toLower = character.toLower := by
  have each : ∀ code < 128, ((Char.ofNat code).isAlphanum || Char.ofNat code = '_') = true →
      stripped (Char.ofNat code) = false ∧ stripped (Char.ofNat code).toLower = false ∧
        (Char.ofNat code).toLower.toLower = (Char.ofNat code).toLower := by
    decide +kernel
  have ascii : character.toNat < 128 := by
    unfold Char.isAlphanum Char.isAlpha Char.isUpper Char.isLower Char.isDigit at isPart
    simp only [Bool.or_eq_true, Bool.and_eq_true, decide_eq_true_eq] at isPart
    rcases isPart with ((⟨-, upper⟩ | ⟨-, upper⟩) | ⟨-, upper⟩) | rfl
    · exact Nat.lt_of_le_of_lt upper (by decide)
    · exact Nat.lt_of_le_of_lt upper (by decide)
    · exact Nat.lt_of_le_of_lt upper (by decide)
    · decide
  have found := each character.toNat ascii
  rw [Char.ofNat_toNat] at found
  exact found isPart

theorem of_isIdentifier {name : String} (isIdentifier : ToolPool.isIdentifier name = true) :
    name ≠ "" ∧ ∀ character ∈ name.toList,
      (character.isAlphanum || character = '_') = true := by
  unfold ToolPool.isIdentifier at isIdentifier
  split at isIdentifier
  next => cases isIdentifier
  next first rest shape =>
    obtain ⟨start, others⟩ := (Bool.and_eq_true _ _).mp isIdentifier
    constructor
    · rintro rfl
      cases shape
    · intro character member
      rw [shape] at member
      rcases List.mem_cons.mp member with
        rfl | later
      · simp only [Bool.or_eq_true, Char.isAlphanum] at start ⊢
        exact start.imp_left Or.inl
      · exact List.all_eq_true.mp others character later

theorem plainName_of_isIdentifier {name : String}
    (isIdentifier : ToolPool.isIdentifier name = true) : PlainName name := by
  obtain ⟨filled, each⟩ := of_isIdentifier isIdentifier
  have once : normalizeIdentifier name = name.toLower :=
    normalizeIdentifier_of_kept fun character member =>
      (of_identifierCharacter (each character member)).1
  rw [PlainName, once]
  constructor
  · intro empty
    have none := congrArg String.toList empty
    rw [toList_toLower] at none
    exact filled (String.toList_eq_nil_iff.mp (List.map_eq_nil_iff.mp none))
  · rw [normalizeIdentifier_of_kept]
    · rw [← String.toList_inj, toList_toLower, toList_toLower, List.map_map]
      exact List.map_congr_left fun character member =>
        (of_identifierCharacter (each character member)).2.2
    · intro character member
      rw [toList_toLower] at member
      obtain ⟨original, isOriginal, rfl⟩ := List.mem_map.mp member
      exact (of_identifierCharacter (each original isOriginal)).2.1

/-! ## Lineage -/

section Lineage

variable {columns : List String} {references : List Reference}

theorem PlainSelect.lineage (select : PlainSelect columns references) (registry : Registry)
    (dataset : String) :
    projectionLineageFromSql registry select.query dataset =
      .ok ((renderAll select.items).foldl projectColumns []) := by
  have top := select.projections_query
  obtain ⟨rest, visited, below⟩ := RoseTree.exists_walk_eq
    (.select select.items.length) select.parts
  have noOthers (lineage : List (String × String)) : rest.foldlM (fun lineage tree =>
      (projections tree).foldlM (project registry dataset select.query.render tree) lineage)
        lineage = .ok lineage := by
    clear visited
    induction rest with
    | nil => rfl
    | cons tree rest ih =>
        obtain ⟨part, listed, inside⟩ := below tree List.mem_cons_self
        rw [List.foldlM_cons, select.projections_of_part listed inside]
        exact ih fun other member =>
          below other (List.mem_cons_of_mem _ member)
  have items (values : List Expr) (named : ∀ item ∈ values, item.render.label.isStar = false)
      (lineage : List (String × String)) :
      (renderAll values).foldlM (project registry dataset select.query.render
        select.query.render) lineage = .ok ((renderAll values).foldl projectColumns lineage) := by
    induction values generalizing lineage with
    | nil => rfl
    | cons item rest ih =>
        obtain ⟨first, others⟩ := List.forall_mem_cons.mp named
        rw [renderAll, List.foldlM_cons, List.foldl_cons, project, if_neg (by simp [first])]
        exact ih others _
  rw [projectionLineageFromSql, select.render_query, visited, List.foldlM_cons,
    ← select.render_query, top, items select.items fun item listed => (select.named item listed).2]
  exact noOthers _

end Lineage

namespace DataQuality

section Columns

variable {str : Json → String} {statement : Statement} {column : String}

end Columns

end DataQuality

/-! ## Decisions -/

namespace GovernancePolicyEngine

variable {engine : GovernancePolicyEngine} {request : GovernanceRequest}

end GovernancePolicyEngine

namespace ToolRegistry

variable {tools : ToolRegistry} {request admitted : GovernanceRequest} {decision : PolicyDecision}
  {query : Query}

theorem Admission.permits (admission : tools.Admission query none admitted decision) :
    tools.governanceEngine.Permits admitted := by
  have decided := admission.decided
  unfold GovernancePolicyEngine.Permits
  unfold enforceGovernancePreQuery at decided
  dsimp only at decided
  split at decided
  next => cases decided
  next => cases decided
  next notDeny notApproval =>
    cases isDecision : (tools.governanceEngine.evaluate admitted).decision with
    | deny => exact absurd isDecision notDeny
    | requireApproval => exact absurd isDecision notApproval
    | allow => exact Or.inl rfl
    | mask => exact Or.inr rfl

theorem Admission.given (given : tools.governanceRequest = some request)
    (admission : tools.Admission query none admitted decision) :
    ∃ resource, tools.resolver.resolveSql query request.resource.district
      request.resource.parish = .ok resource ∧ admitted = { request with resource := resource } := by
  obtain ⟨other, isOther, resolved⟩ := admission.request
  rw [Option.none_or, given] at isOther
  cases isOther
  rw [authoritativeGovernanceRequest] at resolved
  split at resolved
  next resource found =>
    cases resolved
    exact ⟨resource, found, rfl⟩
  next => cases resolved

end ToolRegistry

namespace DataQuality

/-! ## Masked checks -/

section Decision

variable {tools : ToolRegistry} {request admitted : GovernanceRequest} {decision : PolicyDecision}
  {statement : Statement} {str : Json → String}

/-- The statement's tables and columns are named by identifiers. -/
structure Statement.Named (statement : Statement) : Prop where
  datasets : ∀ reference ∈ statement.references, reference.dataset ≠ ""
  columns : ∀ column ∈ statement.columns, PlainName column

end Decision

end DataQuality

end PaymentsPlatform.AgentApi
