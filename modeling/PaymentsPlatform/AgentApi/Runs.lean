import PaymentsPlatform.AgentApi.Dependencies

/-!
# Running a query

The rows that a database returns.  How expressions are evaluated and which rows `WHERE`, `GROUP
BY`, `HAVING`, `ORDER BY`, `DISTINCT`, joins and `LIMIT` keep is up to the database, which sees for
each combination of source rows only the values that the expressions in question mention.
-/

namespace PaymentsPlatform.AgentApi

/-- A value of a result: null, a text, or anything else as `str` shows it. -/
inductive Cell where
  | null
  | text (value : String)
  | other (kind shown : String)
  deriving DecidableEq, Repr

structure Table where
  labels : List String
  rows : List (List Cell)
  deriving DecidableEq

/-- The rows that a select or a set operation keeps: each output row stands for a group of source
combinations.  Evaluation can also fail, and the query with it. -/
structure Choice where
  groups : List (List Nat)
  fails : Bool
  deriving DecidableEq

/-- The choices of a run, at every select. -/
inductive Trace where
  | node (choice : Choice) (parts : List Trace)

namespace Trace

/-- Runs that are only put together. -/
def gathered (parts : List Trace) : Trace := .node ⟨[], false⟩ parts

mutual

/-- Some choice of the run has failed. -/
def failed : Trace → Bool
  | .node choice parts => choice.fails || failedAny parts

def failedAny : List Trace → Bool
  | [] => false
  | trace :: rest => trace.failed || failedAny rest

end

theorem failedAny_eq (traces : List Trace) : failedAny traces = traces.any failed := by
  induction traces with
  | nil => rfl
  | cons trace rest ih => rw [failedAny, ih, List.any_cons]

@[simp]
theorem failed_node (choice : Choice) (parts : List Trace) :
    (node choice parts).failed = (choice.fails || parts.any failed) := by
  rw [failed, failedAny_eq]

@[simp]
theorem failed_gathered (parts : List Trace) : (gathered parts).failed = parts.any failed := by
  simp [gathered]

end Trace

structure Result where
  table : Table
  trace : Trace

/-- The part of the database that no code of the platform decides. -/
structure Engine where
  /-- From the values in the clauses of a select, for each combination of source rows. -/
  choose : Query → List (List (List Table)) → Choice
  /-- An output column, from the values in its expression, for one of the groups. -/
  apply : Query → Nat → List (List Table) → List (List Nat) → Nat → Cell
  /-- From the rows of a set operation that compares them, and the values in its `ORDER BY`. -/
  arrange : Query → List (List Cell) → List (List (List Table)) → Choice

/-- The rows of each physical table, by column names. -/
abbrev Contents := Reference → List (String → Cell)

namespace Result

/-- The value of a source column. -/
def ofCell (cell : Cell) : List Result := [⟨⟨[], [[cell]]⟩, .gathered []⟩]

def sourceRows (sources : List (String × Result)) :
    List (String × List String × List (List (List Result))) :=
  sources.map fun source =>
    (source.1, source.2.table.labels, source.2.table.rows.map fun row => row.map ofCell)

/-- The tables that the values of some expressions mention. -/
def tables (values : List (List Result)) : List (List Table) :=
  values.map fun leaves => leaves.map Result.table

def traceOf (values : List (List Result)) : Trace :=
  .gathered (values.map fun leaves => .gathered (leaves.map Result.trace))

variable (engine : Engine)

def select (query : Query) (distinct : Bool) (sources : List (String × Result))
    (body : Frame (List Result) → Body (List Result)) : Result :=
  let bodies := (combinations (ofCell .null) (sourceRows sources)).map body
  let labels := (body (emptyFrame (ofCell .null)
    (sources.map fun source => (source.1, source.2.table.labels)))).items.map Prod.fst
  let choice := engine.choose query (bodies.map fun body => tables (body.compared distinct))
  { table :=
      { labels := labels
        rows := (List.range choice.groups.length).map fun group =>
          (List.range labels.length).map fun position =>
            engine.apply query position (tables (bodies.map fun body => body.itemAt [] position))
              choice.groups group }
    trace := .node choice
      [.gathered (sources.map fun source => source.2.trace),
        .gathered (bodies.map fun body => traceOf (body.clauses ++ body.items.map Prod.snd))] }

def combine (query : Query) (operation : SetOperation) (left right : Result)
    (terms : Frame (List Result) → List (List Result)) : Result :=
  let rows := left.table.rows ++ right.table.rows
  let values := rows.map fun row => terms (bindings "" left.table.labels (row.map ofCell))
  let choice := engine.arrange query (if operation = .unionAll then rows.map fun _ => [] else rows)
    (values.map tables)
  { table :=
      { labels := left.table.labels
        rows := choice.groups.flatten.filterMap fun position => rows[position]? }
    trace := .node choice [left.trace, right.trace, .gathered (values.map traceOf)] }

end Result

def concrete (engine : Engine) (schema : Schema) (contents : Contents) : Domain where
  Rel := Result
  Val := List Result
  constant := []
  refer _ leaves := leaves
  gather values := values.flatten
  scalar result := [result]
  physical reference :=
    ⟨⟨schema reference, (contents reference).map fun row => (schema reference).map row⟩,
      .gathered []⟩
  select := Result.select engine
  combine := Result.combine engine

/-- A run of a query that stands by itself. -/
def Query.run (engine : Engine) (schema : Schema) (contents : Contents) (query : Query) : Result :=
  query.eval (concrete engine schema contents) ⟨[], []⟩

end PaymentsPlatform.AgentApi
