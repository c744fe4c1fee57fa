import PaymentsPlatform.AgentApi.Classification
import PaymentsPlatform.Library.RoseTree

/-!
# Read queries

The syntax of the queries that agents send, its tree as `sqlglot` parses it, and what
`classification.py` reads off that tree: the datasets, the projected fields, and the source field
of each output label.  Identifiers are held without quotes and folded to lower case, as Trino
compares them; a part that is not written is the empty text.
-/

namespace PaymentsPlatform.AgentApi

open Library (RoseTree)

/-! ## Syntax -/

/-- A table reference as it is written. -/
structure Reference where
  catalog : String
  schema : String
  name : String
  deriving DecidableEq, Repr

inductive Operator where
  /-- A class of `sqlglot` whose first argument is its `this`. -/
  | typed (key : String)
  /-- A class without a `this`, as of `CONCAT` and of `CASE WHEN`. -/
  | listed (key : String)
  /-- What has a name of its own: another function, or a window that is named. -/
  | anonymous (name : String)
  | cast (type : String)
  deriving DecidableEq, Repr

inductive JoinKind where
  | cross
  | inner
  | left
  | right
  | full
  deriving DecidableEq, Repr

inductive SetOperation where
  | unionAll
  | union
  | intersect
  | except
  deriving DecidableEq, Repr

mutual

inductive Expr where
  | star
  | tableStar (qualifier : String)
  | column (qualifier name : String)
  /-- A number, a text, `NULL`, or a unit as in `EXTRACT(YEAR FROM …)`. -/
  | literal (text : String)
  | call (operator : Operator) (arguments : List Expr)
  | aliased (value : Expr) (name : String)
  /-- A query in an expression: `EXISTS` takes it bare, elsewhere it is wrapped. -/
  | subquery (wrapped : Bool) (query : Query)

/-- The sources of a select, each with its join conditions. -/
inductive From where
  | done
  | table (join : JoinKind) (reference : Reference) (correlation : String) (on : List Expr)
      (rest : From)
  | derived (join : JoinKind) (query : Query) (correlation : String) (on : List Expr) (rest : From)

/-- Common table expressions; each one sees those before it. -/
inductive With where
  | done
  | cte (name : String) (query : Query) (rest : With)

inductive Query where
  | select (ctes : With) (distinct : Bool) (items : List Expr) (sources : From)
      (filter group having order : List Expr) (limit : Option Nat)
  | combine (ctes : With) (operation : SetOperation) (left right : Query) (order : List Expr)
      (limit : Option Nat)
  | parens (query : Query)

end

/-! ## The tree of a query -/

/-- The classes of `sqlglot.exp` that tell queries apart. -/
inductive Node where
  /-- A select, whose first children are its projections. -/
  | select (projections : Nat)
  | setOperation
  | fromClause
  | join
  | filter
  | group
  | having
  | order
  | ordered
  | withClause
  | cte (name : String)
  | subquery (correlation : String)
  | table (reference : Reference)
  | star
  | column (qualifier name : String)
  | literal (text : String)
  | call (operator : Operator)
  | aliased (name : String)

namespace Node

def table? : Node → Option Reference
  | .table reference => some reference
  | _ => none

def column? : Node → Option String
  | .column _ name => some name
  | _ => none

/-- The name of a common table expression that has one. -/
def cte? : Node → Option String
  | .cte name => if name = "" then none else some name
  | _ => none

/-- The alias of a derived table that has one. -/
def derived? : Node → Option String
  | .subquery correlation => if correlation = "" then none else some correlation
  | _ => none

def isStar : Node → Bool
  | .star => true
  | _ => false

end Node

/-- A clause stands in the tree when it has something to hold. -/
def clause (kind : Node) : List (RoseTree Node) → List (RoseTree Node)
  | [] => []
  | part :: parts => [.node kind (part :: parts)]

/-- The first source stands under `FROM`, each further one under a join. -/
def fromClauses : List (List (RoseTree Node)) → List (RoseTree Node)
  | [] => []
  | first :: joins => .node .fromClause first :: joins.map (.node .join)

mutual

def Expr.render : Expr → RoseTree Node
  | .star => .node .star []
  | .tableStar qualifier => .node (.column qualifier "*") [.node .star []]
  | .column qualifier name => .node (.column qualifier name) []
  | .literal text => .node (.literal text) []
  | .call operator arguments => .node (.call operator) (renderAll arguments)
  | .aliased value name => .node (.aliased name) [value.render]
  | .subquery true query => .node (.subquery "") [query.render]
  | .subquery false query => query.render

def renderAll : List Expr → List (RoseTree Node)
  | [] => []
  | value :: rest => value.render :: renderAll rest

/-- Each source, followed by its join conditions. -/
def From.render : From → List (List (RoseTree Node))
  | .done => []
  | .table _ reference _ on rest =>
      (.node (.table reference) [] :: renderAll on) :: rest.render
  | .derived _ query correlation on rest =>
      (.node (.subquery correlation) [query.render] :: renderAll on) :: rest.render

def With.render : With → List (RoseTree Node)
  | .done => []
  | .cte name query rest => .node (.cte name) [query.render] :: rest.render

def Query.render : Query → RoseTree Node
  | .select ctes _ items sources filter group having order _ =>
      .node (.select items.length)
        (renderAll items ++ fromClauses sources.render ++ clause .filter (renderAll filter) ++
          clause .group (renderAll group) ++ clause .having (renderAll having) ++
          clause .order ((renderAll order).map fun term => .node .ordered [term]) ++
          clause .withClause ctes.render)
  | .combine ctes _ left right order _ =>
      .node .setOperation
        ([left.render, right.render] ++
          clause .order ((renderAll order).map fun term => .node .ordered [term]) ++
          clause .withClause ctes.render)
  | .parens query => .node (.subquery "") [query.render]

end

/-! ## Reading the tree -/

/-- The texts that are not empty, each once, in the order of their first occurrence. -/
def distinctTexts (texts : List String) : List String :=
  texts.foldl (fun kept text => if text ≠ "" ∧ text ∉ kept then kept ++ [text] else kept) []

namespace Reference

/-- The dotted name of a dataset: the normalised parts that are not empty. -/
def dataset (reference : Reference) : String :=
  ".".intercalate ([normalizeIdentifier reference.catalog, normalizeIdentifier reference.schema,
    normalizeIdentifier reference.name].filter (· ≠ ""))

/-- The reference has neither catalog nor schema, and one of the names. -/
def shadowed (names : List String) (reference : Reference) : Bool :=
  normalizeIdentifier reference.catalog = "" && normalizeIdentifier reference.schema = "" &&
    normalizeIdentifier reference.name ∈ names

end Reference

/-- The normalised names of all common table expressions, wherever they stand. -/
def cteNames (tree : RoseTree Node) : List String :=
  tree.walk.filterMap fun node => node.label.cte?.map normalizeIdentifier

def tableReferences (tree : RoseTree Node) : List Reference :=
  tree.walk.filterMap fun node => node.label.table?

/-- `datasets_from_sql`. -/
def datasetsFromSql (query : Query) : List String :=
  distinctTexts (((tableReferences query.render).filter fun reference =>
    !reference.shadowed (cteNames query.render)).map Reference.dataset)

/-- The expressions of a select, and nothing for another node. -/
def projections (node : RoseTree Node) : List (RoseTree Node) :=
  match node.label with
  | .select count => node.children.take count
  | _ => []

/-- The names of the columns in an expression, nearest to its root first. -/
def columnNames (expression : RoseTree Node) : List String :=
  expression.walk.filterMap fun node => node.label.column?

/-- The column names in the select lists of all selects, wherever they stand. -/
def projectedColumns (tree : RoseTree Node) : List String :=
  tree.walk.flatMap fun node =>
    ((projections node).filter fun expression => !expression.label.isStar).flatMap columnNames

/-- `projected_fields_from_sql`. -/
def projectedFieldsFromSql (query : Query) : List String :=
  distinctTexts ((projectedColumns query.render).map normalizeIdentifier)

/-- `alias_or_name`: an operator or a function has the text of its first operand for a name, if
that is a literal or a star, and a cast the name of what it casts. -/
def aliasOrName : RoseTree Node → String
  | .node (.aliased name) _ => name
  | .node (.column _ name) _ => name
  | .node (.literal text) _ => text
  | .node (.subquery correlation) _ => correlation
  | .node (.call (.anonymous name)) _ => name
  | .node (.call (.cast _)) (value :: _) => aliasOrName value
  | .node (.call (.typed _)) (.node (.literal text) _ :: _) => text
  | .node (.call (.typed _)) (.node .star _ :: _) => "*"
  | .node .star _ => "*"
  | _ => ""

/-- The normalised aliases of the derived tables. -/
def derivedAliases (tree : RoseTree Node) : List String :=
  tree.walk.filterMap fun node => node.label.derived?.map normalizeIdentifier

/-- The first source of the select is a derived table. -/
def derivedSource (select : RoseTree Node) : Bool :=
  select.children.any fun part => match part with
    | .node .fromClause (.node (.subquery _) _ :: _) => true
    | _ => false

/-- `lineage[label] = source`. -/
def assign (lineage : List (String × String)) (label source : String) : List (String × String) :=
  if lineage.any (·.1 = label) then
    lineage.map fun entry => if entry.1 = label then (label, source) else entry
  else lineage ++ [(label, source)]

/-- A star that is not over a derived table: it is expanded from the trusted column list. -/
def expandedStar (tree select expression : RoseTree Node) : Bool :=
  expression.label.isStar && !(derivedSource select || "" ∈ derivedAliases tree)

/-- What an expression other than a star adds to the lineage: its output label stands for the
first of its columns. -/
def projectColumns (lineage : List (String × String)) (expression : RoseTree Node) :
    List (String × String) :=
  match columnNames expression with
  | [] => lineage
  | first :: _ =>
      let source := normalizeIdentifier first
      let name := aliasOrName expression
      if source = "" then lineage
      else assign lineage (normalizeIdentifier (if name = "" then source else name)) source

/-- What an expression of a select list adds to the lineage. -/
def project (registry : Registry) (dataset : String) (tree select : RoseTree Node)
    (lineage : List (String × String)) (expression : RoseTree Node) :
    Except ClassificationError (List (String × String)) :=
  if expression.label.isStar then
    if expandedStar tree select expression then
      (registry.columnsForStar dataset).map fun columns =>
        columns.foldl (fun lineage column => assign lineage column column) lineage
    else .ok lineage
  else .ok (projectColumns lineage expression)

/-- `projection_lineage_from_sql`. -/
def projectionLineageFromSql (registry : Registry) (query : Query) (dataset : String) :
    Except ClassificationError (List (String × String)) :=
  query.render.walk.foldlM (fun lineage select =>
    (projections select).foldlM (project registry dataset query.render select) lineage) []

/-- `resolve_sql`. -/
def Registry.resolveSql (registry : Registry) (query : Query) (district parish : Option String) :
    Except ClassificationError ResourceContext :=
  match datasetsFromSql query with
  | [] => .error (.unknownDataset "Query does not reference a trusted governed dataset")
  | [dataset] => do
      let fields := projectedFieldsFromSql query
      let lineage ← projectionLineageFromSql registry query dataset
      registry.resolveResource dataset fields lineage district parish
  | datasets => .error (.ambiguousDataset ("Query references multiple governed datasets; " ++
      "multi-resource policy evaluation is not yet supported: " ++ ", ".intercalate datasets))

end PaymentsPlatform.AgentApi
