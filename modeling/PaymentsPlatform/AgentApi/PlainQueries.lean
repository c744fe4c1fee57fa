import PaymentsPlatform.AgentApi.StarProjections

/-!
# Selects without queries inside

A select over tables whose expressions hold no further query names the datasets of these tables,
projects columns of its own items, and has no star to expand.
-/

namespace PaymentsPlatform.AgentApi

open Library (RoseTree)
open Library.RoseTree (Under)

/-- The expression holds no query, and its columns are among the given ones. -/
inductive Expr.Plain (columns : List String) : Expr → Prop where
  | star : Plain columns .star
  | literal (text : String) : Plain columns (.literal text)
  | column {qualifier name : String} : name ∈ columns → Plain columns (.column qualifier name)
  | call {operator : Operator} {arguments : List Expr} :
      (∀ argument ∈ arguments, Plain columns argument) → Plain columns (.call operator arguments)
  | aliased {value : Expr} {name : String} : Plain columns value →
      Plain columns (.aliased value name)

/-- The label of a node in a plain expression. -/
inductive Node.Inner (columns : List String) : Node → Prop where
  | star : Inner columns .star
  | literal (text : String) : Inner columns (.literal text)
  | column {qualifier name : String} : name ∈ columns → Inner columns (.column qualifier name)
  | call (operator : Operator) : Inner columns (.call operator)
  | aliased (name : String) : Inner columns (.aliased name)

/-- Tables, joined on plain conditions. -/
inductive From.Plain (columns : List String) : From → List Reference → Prop where
  | done : Plain columns .done []
  | table {join : JoinKind} {reference : Reference} {correlation : String} {on : List Expr}
      {rest : From} {references : List Reference} :
      (∀ condition ∈ on, condition.Plain columns) → Plain columns rest references →
      Plain columns (.table join reference correlation on rest) (reference :: references)

variable {columns : List String} {label : Node}

theorem under_renderAll {values : List Expr} :
    Under label (renderAll values) ↔ ∃ value ∈ values, label ∈ value.render.labels := by
  induction values with
  | nil => simp [renderAll]
  | cons value rest ih => simp [renderAll, ih]

theorem Expr.Plain.inner {value : Expr} (plain : value.Plain columns)
    (inside : label ∈ value.render.labels) : label.Inner columns := by
  induction plain with
  | star =>
      simp only [Expr.render, RoseTree.mem_labels_node, RoseTree.under_nil, or_false] at inside
      exact inside ▸ .star
  | literal text =>
      simp only [Expr.render, RoseTree.mem_labels_node, RoseTree.under_nil, or_false] at inside
      exact inside ▸ .literal text
  | column listed =>
      simp only [Expr.render, RoseTree.mem_labels_node, RoseTree.under_nil, or_false] at inside
      exact inside ▸ .column listed
  | @call operator arguments _ ih =>
      rw [Expr.render, RoseTree.mem_labels_node] at inside
      rcases inside with
        rfl | below
      · exact .call operator
      · obtain ⟨argument, listed, inArgument⟩ := under_renderAll.mp below
        exact ih argument listed inArgument
  | @aliased value name _ ih =>
      rw [Expr.render, RoseTree.mem_labels_node, RoseTree.under_cons] at inside
      rcases inside with
        rfl | inValue | ⟨tree, none, -⟩
      · exact .aliased name
      · exact ih inValue
      · cases none

theorem inner_of_under {values : List Expr} (plain : ∀ value ∈ values, value.Plain columns)
    (inside : Under label (renderAll values)) : label.Inner columns := by
  obtain ⟨value, listed, inValue⟩ := under_renderAll.mp inside
  exact (plain value listed).inner inValue

theorem From.Plain.inner_or_table {sources : From} {references : List Reference}
    (plain : sources.Plain columns references) (inside : Under label sources.render.flatten) :
    label.Inner columns ∨ ∃ reference ∈ references, label = .table reference := by
  induction plain with
  | done => simp [From.render] at inside
  | @table join reference correlation on rest references conditions _ ih =>
      simp only [From.render, List.flatten_cons, RoseTree.under_append, RoseTree.under_cons,
        RoseTree.mem_labels_node, RoseTree.under_nil, or_false] at inside
      rcases inside with
        (rfl | inConditions) | inRest
      · exact Or.inr ⟨reference, List.mem_cons_self, rfl⟩
      · exact Or.inl (inner_of_under conditions inConditions)
      · rcases ih inRest with
          inner | ⟨other, listed, same⟩
        · exact Or.inl inner
        · exact Or.inr ⟨other, List.mem_cons_of_mem _ listed, same⟩

theorem From.Plain.table_under {sources : From} {references : List Reference}
    (plain : sources.Plain columns references) {reference : Reference}
    (listed : reference ∈ references) : Under (.table reference) sources.render.flatten := by
  induction plain with
  | done => cases listed
  | @table join first correlation on rest references _ _ ih =>
      simp only [From.render, List.flatten_cons, RoseTree.under_append, RoseTree.under_cons,
        RoseTree.mem_labels_node]
      rcases List.mem_cons.mp listed with
        rfl | later
      · exact Or.inl (Or.inl (Or.inl rfl))
      · exact Or.inr (ih later)

/-! ## Selects -/

/-- A select over tables, without queries in its expressions; `columns` are those of its items. -/
structure PlainSelect (columns : List String) (references : List Reference) where
  items : List Expr
  sources : From
  filter : List Expr := []
  group : List Expr := []
  having : List Expr := []
  order : List Expr := []
  others : List String
  named : ∀ item ∈ items, item.Plain columns ∧ item.render.label.isStar = false
  tables : sources.Plain others references
  plain : ∀ value ∈ filter ++ group ++ having ++ order, value.Plain others

namespace PlainSelect

variable {references : List Reference} (select : PlainSelect columns references)

def query : Query :=
  .select .done false select.items select.sources select.filter select.group select.having
    select.order none

/-- The nodes below the select. -/
def parts : List (RoseTree Node) :=
  renderAll select.items ++ fromClauses select.sources.render ++
    clause .filter (renderAll select.filter) ++ clause .group (renderAll select.group) ++
    clause .having (renderAll select.having) ++
    clause .order ((renderAll select.order).map fun term => .node .ordered [term])

theorem render_query :
    select.query.render = .node (.select select.items.length) select.parts := by
  rw [query, Query.render, With.render, clause, List.append_nil, parts]

theorem under_parts (clauseless : label ∉ [.fromClause, .join, .filter, .group, .having, .order,
    .ordered]) (inside : Under label select.parts) :
    label.Inner columns ∨ label.Inner select.others ∨
      ∃ reference ∈ references, label = .table reference := by
  simp only [List.mem_cons, List.not_mem_nil, or_false, not_or] at clauseless
  obtain ⟨noFrom, noJoin, noFilter, noGroup, noHaving, noOrder, noOrdered⟩ := clauseless
  simp only [parts, RoseTree.under_append, under_fromClauses noFrom noJoin, under_clause noFilter,
    under_clause noGroup, under_clause noHaving, under_clause noOrder,
    under_ordered noOrdered] at inside
  have plain {values : List Expr} (part : ∀ value ∈ values, value ∈ select.filter ++
      select.group ++ select.having ++ select.order) (inValues : Under label (renderAll values)) :
      label.Inner select.others :=
    inner_of_under (fun value listed => select.plain value (part value listed)) inValues
  rcases inside with
    ((((inItems | inSources) | inFilter) | inGroup) | inHaving) | inOrder
  · exact Or.inl (inner_of_under (fun item listed => (select.named item listed).1) inItems)
  · exact Or.inr (select.tables.inner_or_table inSources)
  · exact Or.inr (Or.inl (plain (fun value listed => by simp [listed]) inFilter))
  · exact Or.inr (Or.inl (plain (fun value listed => by simp [listed]) inGroup))
  · exact Or.inr (Or.inl (plain (fun value listed => by simp [listed]) inHaving))
  · exact Or.inr (Or.inl (plain (fun value listed => by simp [listed]) inOrder))

theorem table_mem_labels {reference : Reference} :
    .table reference ∈ select.query.render.labels ↔ reference ∈ references := by
  rw [render_query, RoseTree.mem_labels_node]
  constructor
  · rintro (isSelect | below)
    · cases isSelect
    · rcases select.under_parts (by simp) below with
        inner | inner | ⟨other, listed, same⟩
      · cases inner
      · cases inner
      · cases same
        exact listed
  · intro listed
    right
    simp only [parts, RoseTree.under_append]
    refine Or.inl (Or.inl (Or.inl (Or.inl (Or.inr ?_))))
    rw [under_fromClauses (by simp) (by simp)]
    exact select.tables.table_under listed

theorem cteNames_eq : cteNames select.query.render = [] := by
  rw [cteNames, List.filterMap_eq_nil_iff]
  intro tree visited
  have listed : tree.label ∈ select.query.render.labels :=
    List.mem_map_of_mem (RoseTree.mem_walk.mp visited)
  cases shape : tree.label with
  | cte name =>
      rw [shape, render_query, RoseTree.mem_labels_node] at listed
      rcases listed with isSelect | below
      · cases isSelect
      · rcases select.under_parts (by simp) below with
          inner | inner | ⟨other, -, same⟩
        · cases inner
        · cases inner
        · cases same
  | _ => rfl

theorem mem_datasetsFromSql {name : String} : name ∈ datasetsFromSql select.query ↔
    name ≠ "" ∧ ∃ reference ∈ references, reference.dataset = name := by
  simp only [datasetsFromSql, mem_distinctTexts, List.mem_map, List.mem_filter,
    mem_tableReferences, select.table_mem_labels, select.cteNames_eq, Reference.shadowed,
    List.not_mem_nil, decide_false, Bool.and_false, Bool.not_false, and_true]
  exact And.comm

theorem projections_of_part {tree part : RoseTree Node} (listed : part ∈ select.parts)
    (inside : tree ∈ part.subtrees) : projections tree = [] := by
  have below : Under tree.label select.parts := ⟨part, listed, List.mem_map_of_mem inside⟩
  unfold projections
  split
  next count isSelect =>
    rw [isSelect] at below
    rcases select.under_parts (by simp) below with
      inner | inner | ⟨other, -, same⟩
    · cases inner
    · cases inner
    · cases same
  next => rfl

theorem projections_query :
    projections select.query.render = renderAll select.items := by
  rw [render_query, projections, RoseTree.label, RoseTree.children, parts]
  simp only [List.append_assoc]
  rw [List.take_left']
  exact length_renderAll select.items

theorem item_of_projection {tree expression : RoseTree Node}
    (visited : tree ∈ select.query.render.subtrees) (projected : expression ∈ projections tree) :
    ∃ item ∈ select.items, expression = item.render := by
  have top := select.projections_query
  rw [render_query] at visited top
  rcases RoseTree.mem_subtrees_node.mp visited with
    rfl | ⟨part, listed, inside⟩
  · rw [top] at projected
    exact mem_renderAll projected
  · rw [select.projections_of_part listed inside] at projected
    cases projected

theorem mem_columns_of_projected {name : String}
    (projected : name ∈ projectedColumns select.query.render) : name ∈ columns := by
  obtain ⟨tree, visited, expression, isProjection, -, written⟩ := mem_projectedColumns.mp projected
  obtain ⟨item, listed, rfl⟩ := select.item_of_projection visited isProjection
  obtain ⟨qualifier, inside⟩ := mem_columnNames.mp written
  cases (select.named item listed).1.inner inside with
  | column isColumn => exact isColumn

theorem not_expandsStar : ¬ select.query.ExpandsStar := by
  rintro ⟨tree, visited, expression, isProjection, expanded⟩
  obtain ⟨item, listed, rfl⟩ := select.item_of_projection visited isProjection
  rw [expandedStar, (select.named item listed).2] at expanded
  cases expanded

end PlainSelect

end PaymentsPlatform.AgentApi
