import PaymentsPlatform.AgentApi.Evaluation

/-!
# What a result depends on

The symbolic meaning of a query: for every output column the physical columns that its cells are
computed from, and for the query as a whole the columns on which it depends which rows are
returned.  Every physical table stands for one symbolic row; the branches of a set operation stay
apart as rows of their own.
-/

namespace PaymentsPlatform.AgentApi

/-- A physical column that something is computed from. -/
structure Origin where
  reference : Reference
  field : String
  /-- A column reference of this name led to it; stars alone did not. -/
  named : Bool
  deriving DecidableEq, Repr

/-- What an expression is computed from, and what the rows of its subqueries depend on. -/
structure Flow where
  reads : List Origin
  guards : List Origin

/-- The origins of each column, in each symbolic row, and what the choice of rows depends on. -/
structure Shape where
  labels : List String
  rows : List (List (List Origin))
  guards : List Origin

/-! ## Combinations of source rows -/

section Combinations

variable {β : Type}

/-- The scope in which every source has run out of rows. -/
def emptyFrame (null : β) (sources : List (String × List String)) : Frame β :=
  sources.flatMap fun source => bindings source.1 source.2 (source.2.map fun _ => null)

/-- A row of each source; an outer join also takes a row of nulls. -/
def combinations (null : β) : List (String × List String × List (List β)) → List (Frame β)
  | [] => [[]]
  | (qualifier, labels, rows) :: rest =>
      (rows ++ [labels.map fun _ => null]).flatMap fun row =>
        (combinations null rest).map fun frame => bindings qualifier labels row ++ frame

/-- The value of an output column for one combination. -/
def Body.itemAt (null : β) (body : Body β) (position : Nat) : β :=
  (body.items[position]?.map Prod.snd).getD null

/-- What the choice of rows compares: `DISTINCT` compares the outputs, too. -/
def Body.compared (distinct : Bool) (body : Body β) : List β :=
  body.clauses ++ if distinct then body.items.map Prod.snd else []

end Combinations

/-! ## The symbolic domain -/

namespace Flow

def nothing : Flow := ⟨[], []⟩

/-- A column of a source, whose own rows are accounted for with the source. -/
def ofColumn (origins : List Origin) : Flow := ⟨origins, []⟩

def all (flow : Flow) : List Origin := flow.reads ++ flow.guards

end Flow

namespace Shape

def sourceRows (sources : List (String × Shape)) : List (String × List String × List (List Flow)) :=
  sources.map fun source =>
    (source.1, source.2.labels, source.2.rows.map fun row => row.map Flow.ofColumn)

/-- All origins of a relation's cells. -/
def reads (shape : Shape) : List Origin := shape.rows.flatten.flatten

def select (distinct : Bool) (sources : List (String × Shape)) (body : Frame Flow → Body Flow) :
    Shape :=
  let bodies := (combinations Flow.nothing (sourceRows sources)).map body
  let labels := (body (emptyFrame Flow.nothing
    (sources.map fun source => (source.1, source.2.labels)))).items.map Prod.fst
  { labels := labels
    rows := [(List.range labels.length).map fun position =>
      bodies.flatMap fun body => (body.itemAt Flow.nothing position).reads]
    guards := sources.flatMap (fun source => source.2.guards) ++ bodies.flatMap fun body =>
      (body.compared distinct).flatMap Flow.all ++ body.items.flatMap fun item => item.2.guards }

def combine (operation : SetOperation) (left right : Shape) (terms : Frame Flow → List Flow) :
    Shape :=
  let rows := left.rows ++ right.rows
  { labels := left.labels
    rows := rows
    guards := left.guards ++ right.guards ++
      (if operation = .unionAll then [] else rows.flatten.flatten) ++
      rows.flatMap fun row =>
        (terms (bindings "" left.labels (row.map Flow.ofColumn))).flatMap Flow.all }

end Shape

/-- The columns that each physical table has. -/
abbrev Schema := Reference → List String

def symbolic (schema : Schema) : Domain where
  Rel := Shape
  Val := Flow
  constant := Flow.nothing
  refer name flow :=
    { flow with reads := flow.reads.map fun origin =>
        { origin with named := origin.named || origin.field = name } }
  gather flows := ⟨flows.flatMap Flow.reads, flows.flatMap Flow.guards⟩
  scalar shape := ⟨shape.reads, shape.guards⟩
  physical reference :=
    ⟨schema reference, [(schema reference).map fun field => [⟨reference, field, false⟩]], []⟩
  select _ := Shape.select
  combine _ := Shape.combine

/-- The shape of a query that stands by itself. -/
def Query.shape (schema : Schema) (query : Query) : Shape := query.eval (symbolic schema) ⟨[], []⟩

end PaymentsPlatform.AgentApi
