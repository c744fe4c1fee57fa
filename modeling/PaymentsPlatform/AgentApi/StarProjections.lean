import PaymentsPlatform.AgentApi.Dependencies
import PaymentsPlatform.AgentApi.Scoping

/-!
# Star projections

Policy evaluates the columns that are written in the select lists of a query.  A column that a
result exposes through stars alone is among them only by chance, and a star is refused for want of
a column list only when it is bare and its select does not start from a derived table.
-/

namespace PaymentsPlatform.AgentApi

open Library (RoseTree)
open Library.RoseTree (Under)
open Library.Fallible

/-! ## Written columns -/

/-- A name in some select list of one of the trees. -/
def ProjectedUnder (name : String) (trees : List (RoseTree Node)) : Prop :=
  ∃ tree ∈ trees, name ∈ projectedColumns tree

@[simp]
theorem projectedUnder_nil (name : String) : ¬ ProjectedUnder name [] := by
  simp [ProjectedUnder]

@[simp]
theorem projectedUnder_cons (name : String) (tree : RoseTree Node) (trees : List (RoseTree Node)) :
    ProjectedUnder name (tree :: trees) ↔
      name ∈ projectedColumns tree ∨ ProjectedUnder name trees := by
  simp [ProjectedUnder]

@[simp]
theorem projectedUnder_append (name : String) (left right : List (RoseTree Node)) :
    ProjectedUnder name (left ++ right) ↔
      ProjectedUnder name left ∨ ProjectedUnder name right := by
  simp [ProjectedUnder, or_and_right, exists_or]

theorem mem_columnNames {tree : RoseTree Node} {name : String} :
    name ∈ columnNames tree ↔ ∃ qualifier, .column qualifier name ∈ tree.labels := by
  simp only [columnNames, RoseTree.labels, List.mem_filterMap, List.mem_map, RoseTree.mem_walk]
  constructor
  · rintro ⟨node, member, found⟩
    cases shape : node.label <;> simp only [shape, Node.column?, reduceCtorEq, Option.some.injEq]
      at found
    next qualifier other => exact ⟨qualifier, node, member, found ▸ shape⟩
  · rintro ⟨qualifier, node, member, found⟩
    exact ⟨node, member, by rw [found, Node.column?]⟩

theorem mem_projectedColumns {tree : RoseTree Node} {name : String} :
    name ∈ projectedColumns tree ↔ ∃ node ∈ tree.subtrees, ∃ expression ∈ projections node,
      ¬ expression.label.isStar ∧ name ∈ columnNames expression := by
  simp only [projectedColumns, List.mem_flatMap, List.mem_filter, RoseTree.mem_walk,
    Bool.not_eq_true', Bool.not_eq_true, and_assoc]

theorem mem_projectedColumns_node {label : Node} {children : List (RoseTree Node)} {name : String} :
    name ∈ projectedColumns (.node label children) ↔
      (∃ expression ∈ projections (.node label children), ¬ expression.label.isStar ∧
        name ∈ columnNames expression) ∨ ProjectedUnder name children := by
  simp only [ProjectedUnder, mem_projectedColumns]
  constructor
  · rintro ⟨node, member, own⟩
    rcases RoseTree.mem_subtrees_node.mp member with
      rfl | ⟨child, within, inner⟩
    · exact Or.inl own
    · exact Or.inr ⟨child, within, node, inner, own⟩
  · rintro (own | ⟨child, within, node, inner, own⟩)
    · exact ⟨_, RoseTree.mem_subtrees_self _, own⟩
    · exact ⟨node, RoseTree.subtrees_of_child within inner, own⟩

theorem mem_projectedColumns_other {label : Node} {children : List (RoseTree Node)} {name : String}
    (plain : projections (.node label children) = []) :
    name ∈ projectedColumns (.node label children) ↔ ProjectedUnder name children := by
  simp [mem_projectedColumns_node, plain]

theorem projectedUnder_clause {kind : Node} {name : String}
    (plain : ∀ children, projections (.node kind children) = []) (parts : List (RoseTree Node)) :
    ProjectedUnder name (clause kind parts) ↔ ProjectedUnder name parts := by
  cases parts with
  | nil => rfl
  | cons part parts => simp [clause, mem_projectedColumns_other (plain _)]

theorem projectedUnder_fromClauses (name : String) (sources : List (List (RoseTree Node))) :
    ProjectedUnder name (fromClauses sources) ↔ ProjectedUnder name sources.flatten := by
  have start : ∀ source, name ∈ projectedColumns (.node .fromClause source) ↔
      ProjectedUnder name source := fun source => mem_projectedColumns_other rfl
  have joined : ∀ source, name ∈ projectedColumns (.node .join source) ↔
      ProjectedUnder name source := fun source => mem_projectedColumns_other rfl
  have joins : ∀ rest : List (List (RoseTree Node)),
      ProjectedUnder name (rest.map (.node .join)) ↔ ProjectedUnder name rest.flatten := by
    intro rest
    induction rest with
    | nil => simp
    | cons source rest ih => simp [ih, joined]
  cases sources with
  | nil => simp [fromClauses]
  | cons first rest => simp [fromClauses, joins, start]

theorem column_of_projected {tree : RoseTree Node} {name : String}
    (projected : name ∈ projectedColumns tree) :
    ∃ qualifier, .column qualifier name ∈ tree.labels := by
  obtain ⟨node, member, expression, within, -, column⟩ := mem_projectedColumns.mp projected
  have child : expression ∈ node.children := by
    rw [projections] at within
    split at within
    · exact List.mem_of_mem_take within
    · simp at within
  have below : expression ∈ tree.subtrees := by
    apply RoseTree.subtrees_trans _ member
    cases node with
    | node label children =>
        exact RoseTree.subtrees_of_child child (RoseTree.mem_subtrees_self expression)
  obtain ⟨qualifier, found⟩ := mem_columnNames.mp column
  obtain ⟨inner, lower, same⟩ := List.mem_map.mp found
  exact ⟨qualifier, List.mem_map.mpr ⟨inner, RoseTree.subtrees_trans lower below, same⟩⟩

theorem length_renderAll (values : List Expr) : (renderAll values).length = values.length := by
  induction values with
  | nil => rfl
  | cons value rest ih => rw [renderAll, List.length_cons, List.length_cons, ih]

/-! ## Named origins are written -/

section Known

variable {known : String → Prop} {schema : Schema}

/-- The origins that a reference has named are known by their names. -/
def Known (known : String → Prop) (origins : List Origin) : Prop :=
  ∀ origin ∈ origins, origin.named → known origin.field

theorem known_flatMap {α : Type} {list : List α} {origins : α → List Origin}
    (each : ∀ entry ∈ list, Known known (origins entry)) : Known known (list.flatMap origins) := by
  intro origin member
  obtain ⟨entry, within, inner⟩ := List.mem_flatMap.mp member
  exact each entry within origin inner

def KnownFrame (known : String → Prop) (frame : Frame Flow) : Prop :=
  ∀ binding ∈ frame, Known known binding.value.reads

structure KnownContext (known : String → Prop) (context : Context (symbolic schema)) : Prop where
  ctes : ∀ cte ∈ context.ctes, Known known (Shape.reads cte.2)
  frames : ∀ frame ∈ context.frames, KnownFrame known frame

theorem KnownContext.enter {context : Context (symbolic schema)}
    (context' : KnownContext known context) {frame : Frame Flow} (inner : KnownFrame known frame) :
    KnownContext known (context.enter frame) :=
  ⟨context'.ctes, List.forall_mem_cons.mpr ⟨inner, context'.frames⟩⟩

theorem KnownContext.define {context : Context (symbolic schema)}
    (context' : KnownContext known context) (name : String) {shape : Shape}
    (inner : Known known shape.reads) : KnownContext known (context.define name shape) :=
  ⟨List.forall_mem_cons.mpr ⟨inner, context'.ctes⟩, context'.frames⟩

theorem KnownContext.resolve {context : Context (symbolic schema)}
    (context' : KnownContext known context) {qualifier name : String} {flow : Flow}
    (found : resolve context.frames qualifier name = some flow) : Known known flow.reads := by
  obtain ⟨frame, member, bound⟩ := List.exists_of_findSome?_eq_some found
  obtain ⟨binding, located, rfl⟩ := Option.map_eq_some_iff.mp bound
  exact context'.frames frame member binding (List.mem_of_find?_eq_some located)

theorem KnownContext.table {context : Context (symbolic schema)}
    (context' : KnownContext known context) (reference : Reference) :
    Known known (Shape.reads (context.table reference)) := by
  have physical : Known known (Shape.reads ((symbolic schema).physical reference)) := by
    intro origin member named
    simp only [symbolic, Shape.reads, List.flatten_cons, List.flatten_nil, List.append_nil,
      List.mem_flatten, List.mem_map] at member
    obtain ⟨origins, ⟨field, -, rfl⟩, single⟩ := member
    rw [List.mem_singleton.mp single] at named
    cases named
  rw [Context.table]
  split
  · cases found : context.ctes.lookup reference.name with
    | none => exact physical
    | some shape =>
        obtain ⟨before, after, split, -⟩ := List.lookup_eq_some_iff.mp found
        exact context'.ctes (reference.name, shape) (by simp [split])
  · exact physical

theorem known_combinations {sources : List (String × Shape)}
    (each : ∀ source ∈ sources, Known known source.2.reads) :
    ∀ frame ∈ combinations Flow.nothing (Shape.sourceRows sources), KnownFrame known frame := by
  induction sources with
  | nil =>
      intro frame member
      simp only [Shape.sourceRows, List.map_nil, combinations, List.mem_singleton] at member
      simp [member, KnownFrame]
  | cons source rest ih =>
      obtain ⟨first, later⟩ := List.forall_mem_cons.mp each
      intro frame member
      simp only [Shape.sourceRows, List.map_cons, combinations, List.mem_flatMap, List.mem_map,
        List.mem_append, List.mem_singleton] at member
      obtain ⟨row, chosen, others, member, rfl⟩ := member
      intro binding within
      rcases List.mem_append.mp within with
        here | there
      · have value : binding.value ∈ row := by
          rw [bindings] at here
          obtain ⟨position, bound, rfl⟩ := List.mem_iff_getElem.mp here
          simp
        rcases chosen with
          ⟨origins, original, rfl⟩ | rfl
        · obtain ⟨column, inside, same⟩ := List.mem_map.mp value
          intro origin read
          rw [← same] at read
          exact first origin (List.mem_flatten.mpr
            ⟨column, List.mem_flatten.mpr ⟨origins, original, inside⟩, read⟩)
        · obtain ⟨label, -, same⟩ := List.mem_map.mp value
          rw [← same]
          simp [Flow.nothing, Known]
      · exact ih later others member binding there

theorem known_itemOutputs {frame : Frame Flow} (inner : KnownFrame known frame) {item : Expr}
    {flow : Flow} (own : Known known flow.reads) :
    ∀ output ∈ itemOutputs frame item flow, Known known output.2.reads := by
  intro output member
  cases item
  case star =>
    obtain ⟨binding, within, rfl⟩ := List.mem_map.mp member
    exact inner binding within
  case tableStar qualifier =>
    obtain ⟨binding, within, rfl⟩ := List.mem_map.mp member
    exact inner binding (List.mem_of_mem_filter within)
  all_goals
    rw [itemOutputs, List.mem_singleton] at member
    · rw [member]
      exact own
    all_goals simp

theorem mem_positionLabels {β : Type} {outputs : List (String × β)} {output : String × β}
    (member : output ∈ positionLabels outputs) : ∃ original ∈ outputs, output.2 = original.2 := by
  obtain ⟨position, bound, rfl⟩ := List.mem_mapIdx.mp member
  exact ⟨outputs[position], List.getElem_mem bound, rfl⟩

theorem known_select {distinct : Bool} {sources : List (String × Shape)}
    {body : Frame Flow → Body Flow}
    (each : ∀ source ∈ sources, Known known source.2.reads)
    (items : ∀ frame, KnownFrame known frame →
      ∀ output ∈ (body frame).items, Known known output.2.reads) :
    Known known (Shape.select distinct sources body).reads := by
  simp only [Shape.select, Shape.reads, List.flatten_cons, List.flatten_nil, List.append_nil,
    ← List.flatMap_def, List.flatMap_map]
  refine known_flatMap fun position _ => known_flatMap fun frame member => ?_
  rw [Body.itemAt]
  cases found : (body frame).items[position]? with
  | none => simp [Flow.nothing, Known]
  | some output =>
      exact items frame (known_combinations each frame member) output
        (List.mem_of_getElem? found)

theorem not_isStar_of_column {value : Expr} {qualifier name : String}
    (column : .column qualifier name ∈ value.render.labels) : ¬ value.render.label.isStar := by
  cases value
  case star => simp [Expr.render] at column
  case subquery wrapped query =>
    cases wrapped
    · cases query <;> simp [Expr.render, Query.render, RoseTree.label, Node.isStar]
    · simp [Expr.render, RoseTree.label, Node.isStar]
  all_goals simp [Expr.render, RoseTree.label, Node.isStar]

theorem mem_renderAll {values : List Expr} {tree : RoseTree Node} (member : tree ∈ renderAll values) :
    ∃ value ∈ values, tree = value.render := by
  induction values with
  | nil => simp [renderAll] at member
  | cons value rest ih =>
      rcases List.mem_cons.mp member with
        rfl | later
      · exact ⟨value, List.mem_cons_self, rfl⟩
      · obtain ⟨other, within, same⟩ := ih later
        exact ⟨other, List.mem_cons_of_mem _ within, same⟩

mutual

theorem Expr.known (value : Expr) {context : Context (symbolic schema)}
    (scope : KnownContext known context)
    (columns : ∀ qualifier name, .column qualifier name ∈ value.render.labels → known name) :
    Known known (Flow.reads (value.eval (symbolic schema) context)) := by
  match value with
  | .star => simp [Expr.eval, symbolic, Flow.nothing, Known]
  | .tableStar _ => simp [Expr.eval, symbolic, Flow.nothing, Known]
  | .literal _ => simp [Expr.eval, symbolic, Flow.nothing, Known]
  | .column qualifier name =>
      rw [Expr.eval]
      cases found : resolve context.frames qualifier name with
      | none => simp [symbolic, Flow.nothing, Known]
      | some flow =>
          intro origin member named
          obtain ⟨source, within, rfl⟩ := List.mem_map.mp member
          simp only [Bool.or_eq_true, decide_eq_true_eq] at named
          rcases named with
            before | same
          · exact scope.resolve found source within before
          · exact same ▸ columns qualifier name (by simp [Expr.render])
  | .call _ arguments =>
      rw [Expr.eval]
      exact known_flatMap (known_evalAll arguments scope fun qualifier name under =>
        columns qualifier name (by simpa [Expr.render] using under))
  | .aliased value _ =>
      exact Expr.known value scope fun qualifier name under =>
        columns qualifier name (by simpa [Expr.render] using under)
  | .subquery true query =>
      refine Query.known query scope fun name projected => ?_
      obtain ⟨qualifier, column⟩ := column_of_projected projected
      exact columns qualifier name (by simpa [Expr.render] using column)
  | .subquery false query =>
      refine Query.known query scope fun name projected => ?_
      obtain ⟨qualifier, column⟩ := column_of_projected projected
      exact columns qualifier name column

theorem known_evalAll (values : List Expr) {context : Context (symbolic schema)}
    (scope : KnownContext known context)
    (columns : ∀ qualifier name, Under (.column qualifier name) (renderAll values) → known name) :
    ∀ flow ∈ evalAll (symbolic schema) context values, Known known (Flow.reads flow) := by
  match values with
  | [] => simp [evalAll]
  | value :: rest =>
      simp only [renderAll, RoseTree.under_cons] at columns
      rw [evalAll, List.forall_mem_cons]
      exact ⟨Expr.known value scope fun qualifier name under =>
          columns qualifier name (Or.inl under),
        known_evalAll rest scope fun qualifier name under =>
          columns qualifier name (Or.inr under)⟩

theorem From.known (sources : From) {context : Context (symbolic schema)}
    (scope : KnownContext known context)
    (projected : ∀ name, ProjectedUnder name sources.render.flatten → known name) :
    ∀ source ∈ sources.eval (symbolic schema) context, Known known (Shape.reads source.2) := by
  match sources with
  | .done => simp [From.eval]
  | .table _ reference _ on rest =>
      simp only [From.render, List.flatten_cons, List.cons_append, projectedUnder_cons,
        projectedUnder_append] at projected
      rw [From.eval, List.forall_mem_cons]
      exact ⟨scope.table reference,
        From.known rest scope fun name later => projected name (Or.inr (Or.inr later))⟩
  | .derived _ query correlation on rest =>
      have wrapped : ∀ name, name ∈ projectedColumns (.node (.subquery correlation) [query.render]) ↔
          ProjectedUnder name [query.render] := fun name => mem_projectedColumns_other rfl
      simp only [From.render, List.flatten_cons, List.cons_append, projectedUnder_cons,
        projectedUnder_append, wrapped, projectedUnder_nil, or_false] at projected
      rw [From.eval, List.forall_mem_cons]
      exact ⟨Query.known query scope fun name inner => projected name (Or.inl inner),
        From.known rest scope fun name later => projected name (Or.inr (Or.inr later))⟩

theorem With.known (ctes : With) {context : Context (symbolic schema)}
    (scope : KnownContext known context)
    (projected : ∀ name, ProjectedUnder name ctes.render → known name) :
    KnownContext known (ctes.eval (symbolic schema) context) := by
  match ctes with
  | .done => exact scope
  | .cte cteName query rest =>
      have wrapped : ∀ name, name ∈ projectedColumns (.node (.cte cteName) [query.render]) ↔
          ProjectedUnder name [query.render] := fun name => mem_projectedColumns_other rfl
      simp only [With.render, projectedUnder_cons, wrapped, projectedUnder_nil, or_false]
        at projected
      have inner := Query.known query scope fun name inside => projected name (Or.inl inside)
      exact With.known rest (scope.define cteName inner) fun name later =>
        projected name (Or.inr later)

/-- An origin that has been named is a column of some select list. -/
theorem Query.known (query : Query) {context : Context (symbolic schema)}
    (scope : KnownContext known context)
    (projected : ∀ name ∈ projectedColumns query.render, known name) :
    Known known (Shape.reads (query.eval (symbolic schema) context)) := by
  match query with
  | .select ctes distinct items sources filter group having order limit =>
      have own : projections (Query.render (.select ctes distinct items sources filter group having
          order limit)) = renderAll items := by
        simp only [Query.render, projections, RoseTree.label, RoseTree.children, List.append_assoc]
        rw [List.take_append_of_le_length (Nat.le_of_eq (length_renderAll items).symm),
          List.take_of_length_le (Nat.le_of_eq (length_renderAll items))]
      have written : ∀ qualifier name, Under (.column qualifier name) (renderAll items) →
          known name := by
        rintro qualifier name ⟨tree, member, column⟩
        obtain ⟨value, -, rfl⟩ := mem_renderAll member
        exact projected name (mem_projectedColumns.mpr ⟨_, RoseTree.mem_subtrees_self _, value.render,
          own ▸ member, not_isStar_of_column column, mem_columnNames.mpr ⟨qualifier, column⟩⟩)
      have inner : ∀ name, ProjectedUnder name (fromClauses sources.render) ∨
          ProjectedUnder name (clause .withClause ctes.render) → known name := by
        intro name inside
        apply projected
        rw [Query.render, mem_projectedColumns_node]
        simp only [projectedUnder_append]
        tauto
      have defined := With.known ctes scope fun name inside =>
        inner name (Or.inr ((projectedUnder_clause (fun _ => rfl) _).mpr inside))
      apply known_select
      · exact From.known sources defined fun name inside =>
          inner name (Or.inl ((projectedUnder_fromClauses name _).mpr inside))
      · intro frame within output member
        obtain ⟨original, listed, same⟩ := mem_positionLabels member
        obtain ⟨⟨item, flow⟩, paired, listed⟩ := List.mem_flatMap.mp listed
        rw [same]
        exact known_itemOutputs within (known_evalAll items (defined.enter within) written flow
          (List.of_mem_zip paired).2) original listed
  | .combine ctes operation left right order limit =>
      have wrapped : ∀ name children, name ∈ projectedColumns (.node .setOperation children) ↔
          ProjectedUnder name children := fun name children => mem_projectedColumns_other rfl
      simp only [Query.render, wrapped, projectedUnder_append, projectedUnder_cons,
        projectedUnder_nil, or_false] at projected
      have defined := With.known ctes scope fun name inside =>
        projected name (Or.inr ((projectedUnder_clause (fun _ => rfl) _).mpr inside))
      have leftKnown := Query.known left defined fun name inside =>
        projected name (Or.inl (Or.inl (Or.inl inside)))
      have rightKnown := Query.known right defined fun name inside =>
        projected name (Or.inl (Or.inl (Or.inr inside)))
      intro origin member
      rw [Query.eval] at member
      simp only [symbolic, Shape.combine, Shape.reads, List.flatten_append, List.mem_append] at member
      rcases member with
        first | second
      · exact leftKnown origin first
      · exact rightKnown origin second
  | .parens query =>
      have wrapped : ∀ name, name ∈ projectedColumns (.node (.subquery "") [query.render]) ↔
          ProjectedUnder name [query.render] := fun name => mem_projectedColumns_other rfl
      simp only [Query.render, wrapped, projectedUnder_cons, projectedUnder_nil, or_false]
        at projected
      exact Query.known query scope projected

end

end Known

/-! ## Stars fail closed -/

/-- A star in the select list ranges over a physical table among the sources. -/
def Scope.StarOverTable (scope : Scope) : Prop :=
  ∃ entry ∈ scope.tables, ¬ entry.1.resolvesTo scope.visible ∧
    (.star ∈ scope.items ∨
      .tableStar (if entry.2 = "" then entry.1.name else entry.2) ∈ scope.items)

/-- Some star of the query, at any depth, ranges over a physical table. -/
def Query.StarOverTable (query : Query) : Prop := ∃ scope ∈ query.scopes [], scope.StarOverTable

/-- The name survives normalisation, and normalising it again changes nothing. -/
def PlainName (name : String) : Prop :=
  normalizeIdentifier name ≠ "" ∧
    normalizeIdentifier (normalizeIdentifier name) = normalizeIdentifier name

/-- The field is written in some select list of the query, as `resolve_sql` normalises it. -/
def Query.Writes (query : Query) (field : String) : Prop :=
  ∃ name ∈ projectedColumns query.render, normalizeIdentifier name ≠ "" ∧
    normalizeIdentifier (normalizeIdentifier name) ≠ "" ∧
    normalizeIdentifier (normalizeIdentifier (normalizeIdentifier name)) = normalizeIdentifier field

/-- Every physical column that a resolved query exposes is classified, and without a column list
no star over a physical table is resolved. -/
structure Query.StarsFailClosed (registry : Registry) (schema : Schema) (query : Query) : Prop where
  present : ∀ district parish resource, registry.resolveSql query district parish = .ok resource →
    ∀ origin ∈ (query.shape schema).reads, ∃ classification ∈ resource.fieldClassifications,
      classification.field = normalizeIdentifier origin.field
  refused : (∀ dataset ∈ datasetsFromSql query, ¬ Succeeds (registry.columnsForStar dataset)) →
    query.StarOverTable → ∀ district parish, ¬ Succeeds (registry.resolveSql query district parish)

/-- The query names one dataset, and the registry knows it and the projected fields. -/
def Query.Governs (registry : Registry) (query : Query) (dataset : String) : Prop :=
  datasetsFromSql query = [dataset] ∧ registry.Classifies dataset (projectedFieldsFromSql query)

/-- Where stars fail closed: a column that stars alone expose is written in a select list as well,
and where there is no column list, a star over a physical table comes with one that is expanded. -/
structure Query.StarsWritten (registry : Registry) (schema : Schema) (query : Query) : Prop where
  written : ∀ dataset, query.Governs registry dataset →
    (query.ExpandsStar → Succeeds (registry.columnsForStar dataset)) →
    ∀ origin ∈ (query.shape schema).reads, ¬ (origin.named ∧ PlainName origin.field) →
      query.Writes origin.field
  expanded : ∀ dataset, query.Governs registry dataset →
    ¬ Succeeds (registry.columnsForStar dataset) → query.StarOverTable → query.ExpandsStar

theorem classified_iff_writes {registry : Registry} {query : Query} {district parish : Option String}
    {resource : ResourceContext}
    (resolved : registry.resolveSql query district parish = .ok resource) (field : String) :
    (∃ classification ∈ resource.fieldClassifications,
      classification.field = normalizeIdentifier field) ↔ query.Writes field := by
  obtain ⟨dataset, lineage, -, -, rest⟩ := resolveSql_ok resolved
  rw [← List.mem_map, fieldClassifications_fields rest, canonicalFields_eq]
  simp only [projectedFieldsFromSql, Query.Writes, List.mem_map, mem_distinctTexts]
  constructor
  · rintro ⟨twice, ⟨⟨once, ⟨⟨name, member, rfl⟩, filled⟩, rfl⟩, filledTwice⟩, same⟩
    exact ⟨name, member, filled, filledTwice, same⟩
  · rintro ⟨name, member, filled, filledTwice, same⟩
    exact ⟨_, ⟨⟨_, ⟨⟨name, member, rfl⟩, filled⟩, rfl⟩, filledTwice⟩, same⟩

theorem shape_named_written {schema : Schema} {query : Query} {origin : Origin}
    (member : origin ∈ (query.shape schema).reads) (named : origin.named) :
    origin.field ∈ projectedColumns query.render :=
  Query.known query ⟨by simp, by simp⟩ (fun _ written => written) origin member named

theorem writes_of_plain {query : Query} {field : String}
    (member : field ∈ projectedColumns query.render) (plain : PlainName field) :
    query.Writes field :=
  ⟨field, member, plain.1, by rw [plain.2]; exact plain.1, by rw [plain.2, plain.2]⟩

/-- Stars fail closed exactly on the queries that write what they star. -/
theorem stars_fail_closed_iff (registry : Registry) (schema : Schema) (query : Query) :
    query.StarsFailClosed registry schema ↔ query.StarsWritten registry schema := by
  constructor
  · intro closed
    refine ⟨?_, ?_⟩
    · intro dataset governs held origin exposed _
      obtain ⟨resource, resolved⟩ : Succeeds (registry.resolveSql query none none) :=
        succeeds_resolveSql.mpr ⟨dataset, governs.1, governs.2, held⟩
      exact (classified_iff_writes resolved origin.field).mp
        (closed.present none none resource resolved origin exposed)
    · intro dataset governs missing star
      by_contra plain
      refine closed.refused ?_ star none none ?_
      · intro other member
        rw [governs.1, List.mem_singleton] at member
        exact member ▸ missing
      · exact succeeds_resolveSql.mpr ⟨dataset, governs.1, governs.2,
          fun expands => absurd expands plain⟩
  · intro written
    refine ⟨?_, ?_⟩
    · intro district parish resource resolved origin exposed
      obtain ⟨dataset, named, classified, held⟩ := succeeds_resolveSql.mp ⟨resource, resolved⟩
      rw [classified_iff_writes resolved]
      by_cases direct : origin.named ∧ PlainName origin.field
      · exact writes_of_plain (shape_named_written exposed direct.1) direct.2
      · exact written.written dataset ⟨named, classified⟩ held origin exposed direct
    · intro missing star district parish resolved
      obtain ⟨dataset, named, classified, held⟩ := succeeds_resolveSql.mp resolved
      have unlisted := missing dataset (by simp [named])
      exact unlisted (held (written.expanded dataset ⟨named, classified⟩ unlisted star))

/-- `SELECT t.* FROM iceberg.silver.slv_pdm_loans AS t`. -/
def qualifiedStar : Query :=
  .select .done false [.tableStar "t"]
    (.table .cross ⟨"iceberg", "silver", "slv_pdm_loans"⟩ "t" [] .done) [] [] [] [] none

/-- A qualified star is resolved although the platform holds no column list. -/
theorem qualifiedStar_resolved :
    ¬ qualifiedStar.StarsFailClosed platformRegistry fun _ => ["loan_id", "account_number"] := by
  intro closed
  have datasets : datasetsFromSql qualifiedStar = ["iceberg.silver.slv_pdm_loans"] := by
    decide +kernel
  have resolved : (platformRegistry.resolveSql qualifiedStar none none).toBool := by
    decide +kernel
  refine closed.refused ?_ ?_ none none ?_
  · intro dataset member
    rw [datasets, List.mem_singleton] at member
    rintro ⟨columns, listed⟩
    rw [member] at listed
    revert listed
    simp [Registry.columnsForStar, platformRegistry]
  · exact ⟨⟨[], [.tableStar "t"], [(⟨"iceberg", "silver", "slv_pdm_loans"⟩, "t")]⟩,
      List.mem_cons_self, (⟨"iceberg", "silver", "slv_pdm_loans"⟩, "t"), List.mem_cons_self,
      by decide, Or.inr List.mem_cons_self⟩
  · cases outcome : platformRegistry.resolveSql qualifiedStar none none with
    | error error => simp [outcome, Except.toBool] at resolved
    | ok resource => exact succeeds_ok resource

end PaymentsPlatform.AgentApi
