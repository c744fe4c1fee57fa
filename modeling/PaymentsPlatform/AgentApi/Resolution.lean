import PaymentsPlatform.AgentApi.Sql
import PaymentsPlatform.Library.Fallible

/-!
# What `resolve_sql` returns

A query is resolved when it names one dataset, the dataset and the projected fields can be
classified, and no star needs a column list that the platform does not hold.
-/

namespace PaymentsPlatform.AgentApi

open Library (RoseTree)
open Library.Fallible

/-! ## Lists of names -/

theorem mem_distinctTexts_from (kept texts : List String) (text : String) :
    text ∈ texts.foldl
        (fun kept text => if text ≠ "" ∧ text ∉ kept then kept ++ [text] else kept) kept ↔
      text ∈ kept ∨ text ∈ texts ∧ text ≠ "" := by
  induction texts generalizing kept with
  | nil => simp
  | cons first rest ih =>
      rw [List.foldl_cons, ih]
      split
      next fresh =>
        rw [List.mem_append, List.mem_singleton, List.mem_cons]
        constructor
        · rintro ((kept | rfl) | later)
          · exact Or.inl kept
          · exact Or.inr ⟨Or.inl rfl, fresh.1⟩
          · exact Or.inr ⟨Or.inr later.1, later.2⟩
        · rintro (kept | ⟨rfl | later, filled⟩)
          · exact Or.inl (Or.inl kept)
          · exact Or.inl (Or.inr rfl)
          · exact Or.inr ⟨later, filled⟩
      next stale =>
        rw [List.mem_cons]
        constructor
        · rintro (kept | later)
          · exact Or.inl kept
          · exact Or.inr ⟨Or.inr later.1, later.2⟩
        · rintro (kept | ⟨rfl | later, filled⟩)
          · exact Or.inl kept
          · exact Or.inl (by simpa [filled] using stale)
          · exact Or.inr ⟨later, filled⟩

@[simp]
theorem mem_distinctTexts {texts : List String} {text : String} :
    text ∈ distinctTexts texts ↔ text ∈ texts ∧ text ≠ "" := by
  rw [distinctTexts, mem_distinctTexts_from]
  simp

theorem nodup_distinctTexts (texts : List String) : (distinctTexts texts).Nodup := by
  have kept : ∀ list : List String, list.Nodup → (texts.foldl
      (fun kept text => if text ≠ "" ∧ text ∉ kept then kept ++ [text] else kept) list).Nodup := by
    induction texts with
    | nil => exact fun list nodup => nodup
    | cons first rest ih =>
        intro list nodup
        rw [List.foldl_cons]
        apply ih
        split
        · next fresh =>
            rw [List.nodup_append]
            refine ⟨nodup, List.nodup_singleton first, ?_⟩
            intro text member other single same
            rw [same, List.mem_singleton.mp single] at member
            exact fresh.2 member
        · exact nodup
  exact kept [] List.nodup_nil

theorem canonicalFields_eq (fields : List String) :
    Registry.canonicalFields fields = distinctTexts (fields.map normalizeIdentifier) := by
  rw [Registry.canonicalFields, distinctTexts, List.foldl_map]

/-! ## Stars -/

/-- Some star of the query is expanded from the trusted column list. -/
def Query.ExpandsStar (query : Query) : Prop :=
  ∃ select ∈ query.render.subtrees, ∃ expression ∈ projections select,
    expandedStar query.render select expression

variable {registry : Registry} {query : Query} {dataset : String}

theorem succeeds_project (tree select : RoseTree Node) (lineage : List (String × String))
    (expression : RoseTree Node) :
    Succeeds (project registry dataset tree select lineage expression) ↔
      (expandedStar tree select expression → Succeeds (registry.columnsForStar dataset)) := by
  rw [project]
  split
  next star =>
    split
    next expanded =>
      simp only [expanded, forall_const]
      cases registry.columnsForStar dataset with
      | error error => simp [Except.map]
      | ok columns => simp [Except.map]
    next exempt => simp [exempt]
  next plain =>
    have exempt : ¬ expandedStar tree select expression := by simp [expandedStar, plain]
    exact ⟨fun _ expanded => absurd expanded exempt, fun _ => succeeds_ok _⟩

theorem project_error {tree select : RoseTree Node} {lineage : List (String × String)}
    {expression : RoseTree Node} {error : ClassificationError}
    (failed : project registry dataset tree select lineage expression = .error error) :
    registry.columnsForStar dataset = .error error := by
  rw [project] at failed
  split at failed
  · split at failed
    · cases columns : registry.columnsForStar dataset with
      | error other =>
          rw [columns] at failed
          cases failed
          rfl
      | ok columns => simp [columns, Except.map] at failed
    · cases failed
  · cases failed

theorem succeeds_projectionLineage :
    Succeeds (projectionLineageFromSql registry query dataset) ↔
      (query.ExpandsStar → Succeeds (registry.columnsForStar dataset)) := by
  have selects : ∀ lineage, ∀ select ∈ query.render.walk,
      Succeeds ((projections select).foldlM (project registry dataset query.render select) lineage) ↔
        ∀ expression ∈ projections select, expandedStar query.render select expression →
          Succeeds (registry.columnsForStar dataset) :=
    fun lineage select _ => succeeds_foldlM
      (fun lineage expression _ => succeeds_project query.render select lineage expression) lineage
  rw [projectionLineageFromSql, succeeds_foldlM selects]
  constructor
  · rintro every ⟨select, member, expression, within, expanded⟩
    exact every select (RoseTree.mem_walk.mpr member) expression within expanded
  · intro held select member expression within expanded
    exact held ⟨select, RoseTree.mem_walk.mp member, expression, within, expanded⟩

theorem projectionLineage_error {error : ClassificationError}
    (failed : projectionLineageFromSql registry query dataset = .error error) :
    registry.columnsForStar dataset = .error error :=
  foldlM_error (fun _ _ _ _ failed =>
    foldlM_error (fun _ _ _ _ failed => project_error failed) failed) failed

/-! ## Resources -/

theorem columnsForStar_error {error : ClassificationError}
    (failed : registry.columnsForStar dataset = .error error) :
    ∃ message, error = .other message := by
  rw [Registry.columnsForStar] at failed
  split at failed
  · cases failed
  · cases failed
    exact ⟨_, rfl⟩

theorem classifyDataset_error {error : ClassificationError}
    (failed : registry.classifyDataset dataset = .error error) :
    ∃ message, error = .unknownDataset message := by
  rw [Registry.classifyDataset] at failed
  split at failed
  · cases failed
  · cases failed
    exact ⟨_, rfl⟩

theorem classifyField_ok {field : String} {classification : FieldClassification}
    (found : registry.classifyField dataset field = .ok classification) :
    classification.field = normalizeIdentifier field := by
  obtain ⟨datasetClassification, -, rest⟩ := bind_ok found
  cases rest
  rw [Registry.fieldClassification]
  split
  · rfl
  · split
    · rfl
    · split <;> rfl

theorem classifyField_error {field : String} {error : ClassificationError}
    (failed : registry.classifyField dataset field = .error error) :
    ∃ message, error = .unknownDataset message := by
  rcases bind_error failed with
    first | ⟨classification, -, rest⟩
  · exact classifyDataset_error first
  · cases rest

theorem resolveResource_ok {fields : List String} {lineage : List (String × String)}
    {district parish : Option String} {resource : ResourceContext}
    (resolved : registry.resolveResource dataset fields lineage district parish = .ok resource) :
    registry.classifyDataset (normalizeDataset dataset) = .ok resource.classification ∧
      (Registry.canonicalFields fields).mapM (registry.classifyField (normalizeDataset dataset)) =
        .ok resource.fieldClassifications ∧
      resource.dataset = normalizeDataset dataset ∧ resource.fieldLineage = lineage := by
  obtain ⟨classification, found, rest⟩ := bind_ok resolved
  obtain ⟨classifications, mapped, rest⟩ := bind_ok rest
  cases rest
  exact ⟨found, mapped, rfl, rfl⟩

theorem fieldClassifications_fields {fields : List String} {lineage : List (String × String)}
    {district parish : Option String} {resource : ResourceContext}
    (resolved : registry.resolveResource dataset fields lineage district parish = .ok resource) :
    resource.fieldClassifications.map FieldClassification.field =
      (Registry.canonicalFields fields).map normalizeIdentifier := by
  obtain ⟨-, mapped, -, -⟩ := resolveResource_ok resolved
  have each := (mapM_ok mapped).imp fun _ _ found => classifyField_ok found
  generalize Registry.canonicalFields fields = canonical at each ⊢
  generalize resource.fieldClassifications = classifications at each ⊢
  induction each with
  | nil => rfl
  | cons head _ ih => rw [List.map_cons, List.map_cons, head, ih]

theorem resolveResource_error {fields : List String} {lineage : List (String × String)}
    {district parish : Option String} {error : ClassificationError}
    (failed : registry.resolveResource dataset fields lineage district parish = .error error) :
    ∃ message, error = .unknownDataset message := by
  rcases bind_error failed with
    first | ⟨classification, -, rest⟩
  · exact classifyDataset_error first
  · rcases bind_error rest with
      later | ⟨classifications, -, rest⟩
    · exact mapM_error (fun field _ error failed => classifyField_error failed) later
    · cases rest

/-- The dataset and the fields are known to the registry. -/
def Registry.Classifies (registry : Registry) (dataset : String) (fields : List String) : Prop :=
  Succeeds (registry.resolveResource dataset fields [] none none)

theorem succeeds_resolveResource {fields : List String} {lineage : List (String × String)}
    {district parish : Option String} :
    Succeeds (registry.resolveResource dataset fields lineage district parish) ↔
      registry.Classifies dataset fields := by
  rw [Registry.Classifies, Registry.resolveResource, Registry.resolveResource]
  cases registry.classifyDataset (normalizeDataset dataset) with
  | error error => simp [bind, Except.bind]
  | ok classification =>
      cases (Registry.canonicalFields fields).mapM
          (registry.classifyField (normalizeDataset dataset)) with
      | error error => simp [bind, Except.bind]
      | ok classifications => simp [bind, Except.bind, pure, Except.pure]

/-! ## Queries -/

variable {district parish : Option String}

theorem resolveSql_single (named : datasetsFromSql query = [dataset]) :
    registry.resolveSql query district parish = (do
      let lineage ← projectionLineageFromSql registry query dataset
      registry.resolveResource dataset (projectedFieldsFromSql query) lineage district parish) := by
  simp only [Registry.resolveSql, named]

theorem resolveSql_ok {resource : ResourceContext}
    (resolved : registry.resolveSql query district parish = .ok resource) :
    ∃ dataset lineage, datasetsFromSql query = [dataset] ∧
      projectionLineageFromSql registry query dataset = .ok lineage ∧
      registry.resolveResource dataset (projectedFieldsFromSql query) lineage district parish =
        .ok resource := by
  match named : datasetsFromSql query with
  | [] => simp [Registry.resolveSql, named] at resolved
  | [dataset] =>
      rw [resolveSql_single named] at resolved
      obtain ⟨lineage, traced, rest⟩ := bind_ok resolved
      exact ⟨dataset, lineage, rfl, traced, rest⟩
  | first :: second :: rest => simp [Registry.resolveSql, named] at resolved

theorem succeeds_resolveSql :
    Succeeds (registry.resolveSql query district parish) ↔
      ∃ dataset, datasetsFromSql query = [dataset] ∧
        registry.Classifies dataset (projectedFieldsFromSql query) ∧
        (query.ExpandsStar → Succeeds (registry.columnsForStar dataset)) := by
  constructor
  · rintro ⟨resource, resolved⟩
    obtain ⟨dataset, lineage, named, traced, rest⟩ := resolveSql_ok resolved
    exact ⟨dataset, named, succeeds_resolveResource.mp ⟨resource, rest⟩,
      succeeds_projectionLineage.mp ⟨lineage, traced⟩⟩
  · rintro ⟨dataset, named, classified, held⟩
    obtain ⟨lineage, traced⟩ := succeeds_projectionLineage.mpr held
    rw [resolveSql_single named, traced]
    exact succeeds_resolveResource.mpr classified

theorem resolveSql_ambiguous :
    (∃ message, registry.resolveSql query district parish = .error (.ambiguousDataset message)) ↔
      1 < (datasetsFromSql query).length := by
  match named : datasetsFromSql query with
  | [] => simp [Registry.resolveSql, named]
  | [dataset] =>
      rw [resolveSql_single named]
      simp only [List.length_cons, List.length_nil, Nat.zero_add, Nat.lt_irrefl, iff_false]
      rintro ⟨message, failed⟩
      rcases bind_error failed with
        first | ⟨lineage, -, rest⟩
      · obtain ⟨message, impossible⟩ := columnsForStar_error (projectionLineage_error first)
        cases impossible
      · obtain ⟨message, impossible⟩ := resolveResource_error rest
        cases impossible
  | first :: second :: rest => simp [Registry.resolveSql, named]

end PaymentsPlatform.AgentApi
