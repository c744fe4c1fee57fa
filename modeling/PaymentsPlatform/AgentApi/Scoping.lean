import PaymentsPlatform.AgentApi.Resolution

/-!
# The tables that a query reads

SQL resolves a bare table name to the common table expression of that name that is visible where
the name is written, and to a physical table when there is none.  `datasets_from_sql` instead
takes away every bare name that is the name of a common table expression anywhere in the query.
-/

namespace PaymentsPlatform.AgentApi

open Library (RoseTree)
open Library.RoseTree (Under)

/-! ## Scopes -/

/-- A select, and the common table expressions that its sources can name. -/
structure Scope where
  visible : List String
  items : List Expr
  /-- The table references among its sources, with their aliases. -/
  tables : List (Reference × String)

def From.tables : From → List (Reference × String)
  | .done => []
  | .table _ reference correlation _ rest => (reference, correlation) :: rest.tables
  | .derived _ _ _ _ rest => rest.tables

def With.names : With → List String
  | .done => []
  | .cte name _ rest => rest.names ++ [name]

mutual

def Expr.scopes (visible : List String) : Expr → List Scope
  | .call _ arguments => scopesAll visible arguments
  | .aliased value _ => value.scopes visible
  | .subquery _ query => query.scopes visible
  | _ => []

def scopesAll (visible : List String) : List Expr → List Scope
  | [] => []
  | value :: rest => value.scopes visible ++ scopesAll visible rest

def From.scopes (visible : List String) : From → List Scope
  | .done => []
  | .table _ _ _ on rest => scopesAll visible on ++ rest.scopes visible
  | .derived _ query _ on rest =>
      query.scopes visible ++ scopesAll visible on ++ rest.scopes visible

def With.scopes (visible : List String) : With → List Scope
  | .done => []
  | .cte name query rest => query.scopes visible ++ rest.scopes (name :: visible)

/-- The selects of a query, wherever they stand. -/
def Query.scopes (visible : List String) : Query → List Scope
  | .select ctes _ items sources filter group having order _ =>
      let inner := ctes.names ++ visible
      ctes.scopes visible ++ ⟨inner, items, sources.tables⟩ :: (scopesAll inner items ++
        sources.scopes inner ++ scopesAll inner filter ++ scopesAll inner group ++
        scopesAll inner having ++ scopesAll inner order)
  | .combine ctes _ left right order _ =>
      let inner := ctes.names ++ visible
      ctes.scopes visible ++ left.scopes inner ++ right.scopes inner ++ scopesAll inner order
  | .parens query => query.scopes visible

end

namespace Reference

/-- The reference names a visible common table expression. -/
def resolvesTo (visible : List String) (reference : Reference) : Bool :=
  reference.catalog = "" && reference.schema = "" && reference.name ∈ visible

end Reference

/-- The physical tables among the sources. -/
def Scope.physical (scope : Scope) : List Reference :=
  (scope.tables.map Prod.fst).filter fun reference => !reference.resolvesTo scope.visible

/-- The physical tables that a query reads. -/
def Query.physical (query : Query) : List Reference := (query.scopes []).flatMap Scope.physical

/-! ## The tree and the scopes -/

/-- The references among the sources of some of the scopes. -/
def Mentions (scopes : List Scope) (reference : Reference) : Prop :=
  ∃ scope ∈ scopes, reference ∈ scope.tables.map Prod.fst

@[simp]
theorem mentions_nil (reference : Reference) : ¬ Mentions [] reference := by
  simp [Mentions]

@[simp]
theorem mentions_cons (scope : Scope) (scopes : List Scope) (reference : Reference) :
    Mentions (scope :: scopes) reference ↔
      reference ∈ scope.tables.map Prod.fst ∨ Mentions scopes reference := by
  simp [Mentions]

@[simp]
theorem mentions_append (left right : List Scope) (reference : Reference) :
    Mentions (left ++ right) reference ↔ Mentions left reference ∨ Mentions right reference := by
  simp [Mentions, or_and_right, exists_or]

theorem under_clause {label kind : Node} (other : label ≠ kind)
    (parts : List (RoseTree Node)) : Under label (clause kind parts) ↔ Under label parts := by
  cases parts with
  | nil => rfl
  | cons part parts => simp [clause, other]

theorem under_fromClauses {label : Node} (noFrom : label ≠ .fromClause) (noJoin : label ≠ .join)
    (sources : List (List (RoseTree Node))) :
    Under label (fromClauses sources) ↔ Under label sources.flatten := by
  have joins : ∀ rest : List (List (RoseTree Node)),
      Under label (rest.map (.node .join)) ↔ Under label rest.flatten := by
    intro rest
    induction rest with
    | nil => simp
    | cons source rest ih => simp [ih, noJoin]
  cases sources with
  | nil => simp [fromClauses]
  | cons first rest => simp [fromClauses, joins, noFrom]

theorem under_ordered {label : Node} (other : label ≠ .ordered) (terms : List (RoseTree Node)) :
    Under label (terms.map fun term => .node .ordered [term]) ↔ Under label terms := by
  induction terms with
  | nil => simp
  | cons term terms ih => simp [ih, other]

mutual

theorem Expr.table_mem_labels (visible : List String) (reference : Reference) (value : Expr) :
    Node.table reference ∈ value.render.labels ↔ Mentions (value.scopes visible) reference := by
  match value with
  | .star => simp [Expr.render, Expr.scopes]
  | .tableStar qualifier => simp [Expr.render, Expr.scopes]
  | .column qualifier name => simp [Expr.render, Expr.scopes]
  | .literal text => simp [Expr.render, Expr.scopes]
  | .call operator arguments =>
      simp [Expr.render, Expr.scopes, table_under_renderAll visible reference arguments]
  | .aliased value name =>
      simp [Expr.render, Expr.scopes, Expr.table_mem_labels visible reference value]
  | .subquery true query =>
      simp [Expr.render, Expr.scopes, Query.table_mem_labels visible reference query]
  | .subquery false query =>
      simp [Expr.render, Expr.scopes, Query.table_mem_labels visible reference query]

theorem table_under_renderAll (visible : List String) (reference : Reference)
    (values : List Expr) :
    Under (Node.table reference) (renderAll values) ↔
      Mentions (scopesAll visible values) reference := by
  match values with
  | [] => simp [renderAll, scopesAll]
  | value :: rest =>
      simp [renderAll, scopesAll, Expr.table_mem_labels visible reference value,
        table_under_renderAll visible reference rest]

theorem From.table_under (visible : List String) (reference : Reference) (sources : From) :
    Under (Node.table reference) sources.render.flatten ↔
      reference ∈ sources.tables.map Prod.fst ∨ Mentions (sources.scopes visible) reference := by
  match sources with
  | .done => simp [From.render, From.tables, From.scopes]
  | .table _ written correlation on rest =>
      simp [From.render, From.tables, From.scopes, table_under_renderAll visible reference on,
        From.table_under visible reference rest]
      tauto
  | .derived _ query correlation on rest =>
      simp [From.render, From.tables, From.scopes, table_under_renderAll visible reference on,
        Query.table_mem_labels visible reference query, From.table_under visible reference rest]
      tauto

theorem With.table_under (visible : List String) (reference : Reference) (ctes : With) :
    Under (Node.table reference) ctes.render ↔ Mentions (ctes.scopes visible) reference := by
  match ctes with
  | .done => simp [With.render, With.scopes]
  | .cte name query rest =>
      simp [With.render, With.scopes, Query.table_mem_labels visible reference query,
        With.table_under (name :: visible) reference rest]

theorem Query.table_mem_labels (visible : List String) (reference : Reference) (query : Query) :
    Node.table reference ∈ query.render.labels ↔ Mentions (query.scopes visible) reference := by
  match query with
  | .select ctes distinct items sources filter group having order limit =>
      simp [Query.render, Query.scopes, under_clause, under_fromClauses, under_ordered,
        With.table_under visible reference ctes,
        table_under_renderAll (ctes.names ++ visible) reference,
        From.table_under (ctes.names ++ visible) reference sources]
      tauto
  | .combine ctes operation left right order limit =>
      simp [Query.render, Query.scopes, under_clause, under_ordered,
        With.table_under visible reference ctes,
        table_under_renderAll (ctes.names ++ visible) reference order,
        Query.table_mem_labels (ctes.names ++ visible) reference left,
        Query.table_mem_labels (ctes.names ++ visible) reference right]
      tauto
  | .parens query =>
      simp [Query.render, Query.scopes, Query.table_mem_labels visible reference query]

end

theorem With.under_of_names {name : String} {ctes : With} (member : name ∈ ctes.names) :
    Under (.cte name) ctes.render := by
  match ctes with
  | .done => simp [With.names] at member
  | .cte other query rest =>
      rw [With.names, List.mem_append, List.mem_singleton] at member
      rw [With.render, Library.RoseTree.under_cons]
      rcases member with
        later | rfl
      · exact Or.inr (With.under_of_names later)
      · exact Or.inl (by simp)

section Visible

variable {known : String → Prop}

/-- The names that the sources of the scopes can mean. -/
def AllVisible (known : String → Prop) (scopes : List Scope) : Prop :=
  ∀ scope ∈ scopes, ∀ name ∈ scope.visible, known name

@[simp]
theorem allVisible_nil : AllVisible known [] := by
  simp [AllVisible]

@[simp]
theorem allVisible_cons (scope : Scope) (scopes : List Scope) :
    AllVisible known (scope :: scopes) ↔
      (∀ name ∈ scope.visible, known name) ∧ AllVisible known scopes := by
  simp [AllVisible]

@[simp]
theorem allVisible_append (left right : List Scope) :
    AllVisible known (left ++ right) ↔ AllVisible known left ∧ AllVisible known right := by
  simp [AllVisible, or_imp, forall_and]

theorem known_inner {visible : List String} (ctes : With)
    (outer : ∀ name ∈ visible, known name)
    (written : ∀ name, Under (.cte name) ctes.render → known name) :
    ∀ name ∈ ctes.names ++ visible, known name := by
  intro name member
  rcases List.mem_append.mp member with
    inner | above
  · exact written name (With.under_of_names inner)
  · exact outer name above

mutual

theorem Expr.allVisible (visible : List String) (outer : ∀ name ∈ visible, known name)
    (value : Expr) (written : ∀ name, .cte name ∈ value.render.labels → known name) :
    AllVisible known (value.scopes visible) := by
  match value with
  | .star => simp [Expr.scopes]
  | .tableStar qualifier => simp [Expr.scopes]
  | .column qualifier name => simp [Expr.scopes]
  | .literal text => simp [Expr.scopes]
  | .call operator arguments =>
      exact allVisible_scopesAll visible outer arguments
        (fun name under => written name (by simpa [Expr.render] using under))
  | .aliased value name =>
      exact Expr.allVisible visible outer value
        (fun name under => written name (by simpa [Expr.render] using under))
  | .subquery true query =>
      exact Query.allVisible visible outer query
        (fun name under => written name (by simpa [Expr.render] using under))
  | .subquery false query => exact Query.allVisible visible outer query written

theorem allVisible_scopesAll (visible : List String) (outer : ∀ name ∈ visible, known name)
    (values : List Expr) (written : ∀ name, Under (.cte name) (renderAll values) → known name) :
    AllVisible known (scopesAll visible values) := by
  match values with
  | [] => simp [scopesAll]
  | value :: rest =>
      rw [scopesAll, allVisible_append]
      simp only [renderAll, Library.RoseTree.under_cons] at written
      exact ⟨Expr.allVisible visible outer value fun name under => written name (Or.inl under),
        allVisible_scopesAll visible outer rest fun name under => written name (Or.inr under)⟩

theorem From.allVisible (visible : List String) (outer : ∀ name ∈ visible, known name)
    (sources : From) (written : ∀ name, Under (.cte name) sources.render.flatten → known name) :
    AllVisible known (sources.scopes visible) := by
  match sources with
  | .done => simp [From.scopes]
  | .table _ _ _ on rest =>
      rw [From.scopes, allVisible_append]
      simp only [From.render, List.flatten_cons, List.cons_append, Library.RoseTree.under_cons,
        Library.RoseTree.under_append] at written
      exact ⟨allVisible_scopesAll visible outer on
          fun name under => written name (Or.inr (Or.inl under)),
        From.allVisible visible outer rest fun name under => written name (Or.inr (Or.inr under))⟩
  | .derived _ query _ on rest =>
      rw [From.scopes, allVisible_append, allVisible_append]
      simp only [From.render, List.flatten_cons, List.cons_append, Library.RoseTree.under_cons,
        Library.RoseTree.under_append] at written
      exact ⟨⟨Query.allVisible visible outer query
            fun name under => written name (Or.inl (by simpa using under)),
          allVisible_scopesAll visible outer on
            fun name under => written name (Or.inr (Or.inl under))⟩,
        From.allVisible visible outer rest fun name under => written name (Or.inr (Or.inr under))⟩

theorem With.allVisible (visible : List String) (outer : ∀ name ∈ visible, known name)
    (ctes : With) (written : ∀ name, Under (.cte name) ctes.render → known name) :
    AllVisible known (ctes.scopes visible) := by
  match ctes with
  | .done => simp [With.scopes]
  | .cte name query rest =>
      rw [With.scopes, allVisible_append]
      simp only [With.render, Library.RoseTree.under_cons] at written
      have head : known name := written name (Or.inl (by simp))
      exact ⟨Query.allVisible visible outer query
          fun name under => written name (Or.inl (by simpa using Or.inr under)),
        With.allVisible (name :: visible) (List.forall_mem_cons.mpr ⟨head, outer⟩) rest
          fun name under => written name (Or.inr under)⟩

theorem Query.allVisible (visible : List String) (outer : ∀ name ∈ visible, known name)
    (query : Query) (written : ∀ name, .cte name ∈ query.render.labels → known name) :
    AllVisible known (query.scopes visible) := by
  match query with
  | .select ctes distinct items sources filter group having order limit =>
      simp only [Query.render, Library.RoseTree.mem_labels_node, Library.RoseTree.under_append,
        under_clause, under_fromClauses, under_ordered, ne_eq, reduceCtorEq, not_false_eq_true,
        false_or] at written
      have inner := known_inner ctes outer fun name under => written name (Or.inr under)
      simp only [Query.scopes, allVisible_append, allVisible_cons]
      exact ⟨With.allVisible visible outer ctes fun name under => written name (by tauto), inner,
        ⟨⟨⟨⟨allVisible_scopesAll _ inner items fun name under => written name (by tauto),
          From.allVisible _ inner sources fun name under => written name (by tauto)⟩,
          allVisible_scopesAll _ inner filter fun name under => written name (by tauto)⟩,
          allVisible_scopesAll _ inner group fun name under => written name (by tauto)⟩,
          allVisible_scopesAll _ inner having fun name under => written name (by tauto)⟩,
          allVisible_scopesAll _ inner order fun name under => written name (by tauto)⟩
  | .combine ctes operation left right order limit =>
      simp only [Query.render, Library.RoseTree.mem_labels_node, Library.RoseTree.under_append,
        Library.RoseTree.under_cons, Library.RoseTree.under_nil, under_clause, under_ordered, ne_eq,
        reduceCtorEq, not_false_eq_true, false_or, or_false] at written
      have inner := known_inner ctes outer fun name under => written name (Or.inr under)
      simp only [Query.scopes, allVisible_append]
      exact ⟨⟨⟨With.allVisible visible outer ctes fun name under => written name (by tauto),
          Query.allVisible _ inner left fun name under => written name (by tauto)⟩,
          Query.allVisible _ inner right fun name under => written name (by tauto)⟩,
          allVisible_scopesAll _ inner order fun name under => written name (by tauto)⟩
  | .parens query =>
      exact Query.allVisible visible outer query
        fun name under => written name (by simpa [Query.render] using under)

end

end Visible

/-! ## The datasets that are found -/

theorem mem_tableReferences {tree : RoseTree Node} {reference : Reference} :
    reference ∈ tableReferences tree ↔ .table reference ∈ tree.labels := by
  simp only [tableReferences, Library.RoseTree.labels, List.mem_filterMap, List.mem_map,
    Library.RoseTree.mem_walk]
  constructor
  · rintro ⟨node, member, found⟩
    refine ⟨node, member, ?_⟩
    cases shape : node.label <;> simp_all [Node.table?]
  · rintro ⟨node, member, found⟩
    exact ⟨node, member, by rw [found, Node.table?]⟩

theorem mem_cteNames {tree : RoseTree Node} {name : String} (written : .cte name ∈ tree.labels)
    (filled : name ≠ "") : normalizeIdentifier name ∈ cteNames tree := by
  obtain ⟨node, member, found⟩ := List.mem_map.mp written
  refine List.mem_filterMap.mpr ⟨node, Library.RoseTree.mem_walk.mpr member, ?_⟩
  rw [found, Node.cte?, if_neg filled, Option.map_some]

variable {query : Query} {reference : Reference}

theorem mem_datasetsFromSql {name : String} :
    name ∈ datasetsFromSql query ↔ name ≠ "" ∧ ∃ reference, Mentions (query.scopes []) reference ∧
      ¬ reference.shadowed (cteNames query.render) ∧ reference.dataset = name := by
  simp only [datasetsFromSql, mem_distinctTexts, List.mem_map, List.mem_filter, mem_tableReferences,
    Query.table_mem_labels [], Bool.not_eq_true', Bool.not_eq_true, and_assoc]
  exact And.comm

theorem mem_physical :
    reference ∈ query.physical ↔ ∃ scope ∈ query.scopes [],
      reference ∈ scope.tables.map Prod.fst ∧ ¬ reference.resolvesTo scope.visible := by
  simp [Query.physical, Scope.physical]

theorem mentions_of_physical (physical : reference ∈ query.physical) :
    Mentions (query.scopes []) reference := by
  obtain ⟨scope, member, within, -⟩ := mem_physical.mp physical
  exact ⟨scope, member, within⟩

theorem physical_of_unshadowed (mentioned : Mentions (query.scopes []) reference)
    (plain : ¬ reference.shadowed (cteNames query.render)) (filled : reference.dataset ≠ "") :
    reference ∈ query.physical := by
  obtain ⟨scope, member, within⟩ := mentioned
  refine mem_physical.mpr ⟨scope, member, within, ?_⟩
  intro resolved
  simp only [Reference.resolvesTo, Bool.and_eq_true, decide_eq_true_eq] at resolved
  obtain ⟨⟨catalog, schema⟩, visible⟩ := resolved
  have written : .cte reference.name ∈ query.render.labels :=
    Query.allVisible [] (by simp) query (fun name under => under) scope member reference.name visible
  have empty : normalizeIdentifier "" = "" := by decide +kernel
  apply plain
  simp only [Reference.shadowed, catalog, schema, empty, Bool.and_eq_true, decide_eq_true_eq,
    true_and]
  apply mem_cteNames written
  intro nameless
  simp [Reference.dataset, catalog, schema, nameless, empty] at filled

/-! ## Completeness -/

/-- `datasets_from_sql` finds the physical tables that are read, and `resolve_sql` decides on the
only one. -/
structure Query.DatasetsComplete (registry : Registry) (query : Query) : Prop where
  exactly : ∀ name, name ∈ datasetsFromSql query ↔
    ∃ reference ∈ query.physical, reference.dataset = name
  alone : ∀ district parish resource, registry.resolveSql query district parish = .ok resource →
    ∃ reference, (∀ other, other ∈ query.physical ↔ other = reference) ∧
      resource.dataset = normalizeDataset reference.dataset
  ambiguous : ∀ reference ∈ query.physical, ∀ other ∈ query.physical, reference ≠ other →
    ∀ district parish, ∃ message,
      registry.resolveSql query district parish = .error (.ambiguousDataset message)

/-- Every dataset that is read has a name, and is read under a reference that is not also the name
of a common table expression elsewhere in the query; different tables are not all read under one
name. -/
structure Query.PlainScoping (query : Query) : Prop where
  found : ∀ reference ∈ query.physical, reference.dataset ≠ "" ∧
    ∃ other ∈ query.physical, other.dataset = reference.dataset ∧
      ¬ other.shadowed (cteNames query.render)
  apart : ∀ reference ∈ query.physical, ∀ other ∈ query.physical, reference ≠ other →
    ∃ one ∈ query.physical, ∃ another ∈ query.physical, one.dataset ≠ another.dataset

theorem one_lt_length {list : List String} {first second : String} (one : first ∈ list)
    (other : second ∈ list) (different : first ≠ second) : 1 < list.length := by
  match list with
  | [single] =>
      rw [List.mem_singleton] at one other
      exact absurd (one.trans other.symm) different
  | _ :: _ :: rest => simp

/-- Extraction is complete exactly on the queries whose common table expressions shadow no table
that is read outside of their scope. -/
theorem datasets_complete_iff (registry : Registry) (query : Query) :
    query.DatasetsComplete registry ↔ query.PlainScoping := by
  constructor
  · intro complete
    refine ⟨?_, ?_⟩
    · intro reference physical
      have member := (complete.exactly reference.dataset).mpr ⟨reference, physical, rfl⟩
      obtain ⟨filled, other, mentioned, plain, same⟩ := mem_datasetsFromSql.mp member
      have otherFilled : other.dataset ≠ "" := by rwa [same]
      exact ⟨filled, other, physical_of_unshadowed mentioned plain otherFilled, same, plain⟩
    · intro reference physical other also different
      have several := resolveSql_ambiguous.mp
        (complete.ambiguous reference physical other also different none none)
      have nodup : (datasetsFromSql query).Nodup := nodup_distinctTexts _
      match named : datasetsFromSql query with
      | [] => simp [named] at several
      | [single] => simp [named] at several
      | first :: second :: rest =>
          rw [named] at nodup
          have differ : first ≠ second := by
            intro same
            simp [same] at nodup
          obtain ⟨one, within, oneNamed⟩ := (complete.exactly first).mp (by simp [named])
          obtain ⟨another, beside, anotherNamed⟩ := (complete.exactly second).mp (by simp [named])
          exact ⟨one, within, another, beside, by rwa [oneNamed, anotherNamed]⟩
  · intro plain
    have exactly : ∀ name, name ∈ datasetsFromSql query ↔
        ∃ reference ∈ query.physical, reference.dataset = name := by
      intro name
      constructor
      · intro member
        obtain ⟨filled, reference, mentioned, unshadowed, named⟩ := mem_datasetsFromSql.mp member
        have referenceFilled : reference.dataset ≠ "" := by rwa [named]
        exact ⟨reference, physical_of_unshadowed mentioned unshadowed referenceFilled, named⟩
      · rintro ⟨reference, physical, rfl⟩
        obtain ⟨filled, other, also, same, unshadowed⟩ := plain.found reference physical
        exact mem_datasetsFromSql.mpr ⟨filled, other, mentions_of_physical also, unshadowed, same⟩
    refine ⟨exactly, ?_, ?_⟩
    · intro district parish resource resolved
      obtain ⟨dataset, lineage, single, -, rest⟩ := resolveSql_ok resolved
      simp only [single, List.mem_singleton] at exactly
      obtain ⟨reference, physical, named⟩ := (exactly dataset).mp rfl
      have unique : ∀ other ∈ query.physical, other.dataset = dataset :=
        fun other also => (exactly _).mpr ⟨other, also, rfl⟩
      refine ⟨reference, ?_, ?_⟩
      · intro other
        constructor
        · intro also
          by_contra different
          obtain ⟨one, within, another, beside, differ⟩ :=
            plain.apart other also reference physical different
          exact differ ((unique one within).trans (unique another beside).symm)
        · rintro rfl
          exact physical
      · rw [(resolveResource_ok rest).2.2.1, named]
    · intro reference physical other also different district parish
      obtain ⟨one, within, another, beside, differ⟩ :=
        plain.apart reference physical other also different
      apply resolveSql_ambiguous.mpr
      exact one_lt_length ((exactly _).mpr ⟨one, within, rfl⟩)
        ((exactly _).mpr ⟨another, beside, rfl⟩) differ

/-- The outer source is a physical table; the derived table beside it defines a common table
expression of the same name over a public dataset. -/
def shadowedBeneficiaries : Query :=
  .select .done false [.column "" "beneficiary_name"]
    (.table .cross ⟨"", "", "slv_pdm_beneficiaries"⟩ "" []
      (.derived .cross
        (.select
          (.cte "slv_pdm_beneficiaries"
            (.select .done false [.column "" "district"]
              (.table .cross ⟨"iceberg", "consumption", "pdm_district_data"⟩ "" [] .done)
              [] [] [] [] none)
            .done)
          false [.column "" "district"]
          (.table .cross ⟨"", "", "slv_pdm_beneficiaries"⟩ "" [] .done) [] [] [] [] none)
        "d" [] .done))
    [] [] [] [] none

theorem datasetsFromSql_shadowedBeneficiaries :
    datasetsFromSql shadowedBeneficiaries = ["iceberg.consumption.pdm_district_data"] := by
  have references : tableReferences shadowedBeneficiaries.render =
      [⟨"", "", "slv_pdm_beneficiaries"⟩, ⟨"", "", "slv_pdm_beneficiaries"⟩,
        ⟨"iceberg", "consumption", "pdm_district_data"⟩] := by
    decide +kernel
  have names : cteNames shadowedBeneficiaries.render = ["slv_pdm_beneficiaries"] := by
    decide +kernel
  rw [datasetsFromSql, references, names]
  decide +kernel

/-- The beneficiaries are read and the policy decides on the public dataset alone. -/
theorem shadowedBeneficiaries_incomplete :
    ¬ shadowedBeneficiaries.DatasetsComplete platformRegistry := by
  intro complete
  let beneficiaries : Reference := ⟨"", "", "slv_pdm_beneficiaries"⟩
  have physical : beneficiaries ∈ shadowedBeneficiaries.physical := by decide +kernel
  have named : beneficiaries.dataset = "slv_pdm_beneficiaries" := by decide +kernel
  have found := (complete.exactly _).mpr ⟨beneficiaries, physical, named⟩
  rw [datasetsFromSql_shadowedBeneficiaries] at found
  simp at found

end PaymentsPlatform.AgentApi
