import Mathlib.Data.Rat.Defs
import Mathlib.Algebra.Order.Ring.Unbundled.Rat
import PaymentsPlatform.AgentApi.Parameters
import PaymentsPlatform.AgentApi.QueryExecution
import PaymentsPlatform.AgentApi.ToolPool
import PaymentsPlatform.Library.BagQueries

/-!
# Data quality checks

`DataQualityEngine.run_rule` of `data_quality.py`, for the rules about single rows.  A rule is
compiled to a statement of one of three shapes, which is held once and read three ways: as the text
that is sent, as the tree that the query is governed by, and as the counts that Trino answers.

How Trino reads a literal next to a column and compares values is a parameter, and so are the rows
of a sample and `str`.  Limits are natural numbers, and one row is cut by no limit that the settings
allow.
-/

namespace PaymentsPlatform.AgentApi.DataQuality

open Parameters (literal quoteIdentifier)
open ToolPool (isIdentifier)

/-! ## Rules -/

inductive RuleType where
  | notNull
  | unique
  | acceptedValues
  | range
  | referentialIntegrity
  deriving DecidableEq

/-- A rule about single rows, which names its field. -/
structure DQRule where
  dataset : String
  ruleType : RuleType
  field : String
  parameters : List (String × Json)
  named : field ≠ ""

inductive DQError where
  | permissionDenied (message : String)
  | toolError (message : String)
  | query (error : ExecutionError)
  | toolLimitExceeded (message : String)
  /-- `int` of a text that is not a number. -/
  | valueError
  deriving DecidableEq

/-- `_qualified`. -/
def qualified (dataset : String) : Except DQError Reference :=
  match (dataset.toList.splitOn '.').map String.ofList with
  | [catalog, schema, table] =>
      if isIdentifier catalog && isIdentifier schema && isIdentifier table then
        .ok ⟨catalog, schema, table⟩
      else .error (.toolError "dataset must be a three-part catalog.schema.table identifier")
  | _ => .error (.toolError "dataset must be a three-part catalog.schema.table identifier")

/-- `_field` accepts the name. -/
def checkField (value : String) : Except DQError Unit :=
  if isIdentifier value then .ok ()
  else .error (.toolError ("invalid field identifier: " ++ value))

/-! ## Statements -/

/-- What makes a row fail, in `COUNT_IF` and in the `WHERE` of a sample. -/
inductive Failure where
  /-- `{field} IS NULL`. -/
  | isNull (field : String)
  /-- `{field} IS NOT NULL AND {field} NOT IN (...)`. -/
  | notIn (field : String) (values : List Json)
  /-- `{field} IS NOT NULL AND ({field} < ... OR {field} > ...)`. -/
  | outside (field : String) (least greatest : Option Json)

/-- `COUNT(*)` or `COUNT({field})`. -/
inductive Checked where
  | rows
  | values (field : String)

inductive Statement where
  /-- `SELECT {checked} AS checked_rows, COUNT_IF({failure}) AS failed_rows FROM {dataset}`. -/
  | failures (checked : Checked) (failure : Failure) (dataset : Reference)
  /-- The statement of `unique`. -/
  | duplicates (field : String) (dataset : Reference)
  /-- The statement of `referential_integrity`. -/
  | orphans (field : String) (dataset : Reference) (referenceField : String) (reference : Reference)

/-- `sample_sql`. -/
inductive Sample where
  | failures (field : String) (failure : Failure) (dataset : Reference)
  | duplicates (field : String) (dataset : Reference)

/-! ### Texts -/

section Texts

-- `str`, of a float, a list or a dictionary.
variable (str : Json → String)

def quoted (name : String) : String := String.ofList (quoteIdentifier name)

def datasetSql (reference : Reference) : String :=
  ".".intercalate [quoted reference.catalog, quoted reference.schema, quoted reference.name]

/-- `_literal`. -/
def literalText : Json → String
  | .null => "NULL"
  | .bool value => if value then "TRUE" else "FALSE"
  | .int value => toString value
  | .float value => str (.float value)
  | .string text => String.ofList (literal text)
  | value => String.ofList (literal (str value))

def Failure.sql : Failure → String
  | .isNull field => quoted field ++ " IS NULL"
  | .notIn field values => quoted field ++ " IS NOT NULL AND " ++ quoted field ++ " NOT IN (" ++
      ", ".intercalate (values.map (literalText str)) ++ ")"
  | .outside field least greatest =>
      let clauses := (least.map fun bound => quoted field ++ " < " ++ literalText str bound).toList ++
        (greatest.map fun bound => quoted field ++ " > " ++ literalText str bound).toList
      quoted field ++ " IS NOT NULL AND (" ++ " OR ".intercalate clauses ++ ")"

def Checked.sql : Checked → String
  | .rows => "COUNT(*)"
  | .values field => "COUNT(" ++ quoted field ++ ")"

def Statement.sql : Statement → String
  | .failures checked failure dataset => "SELECT " ++ checked.sql ++
      " AS checked_rows, COUNT_IF(" ++ failure.sql str ++ ") AS failed_rows FROM " ++
      datasetSql dataset
  | .duplicates field dataset => "SELECT COUNT(" ++ quoted field ++ ") AS checked_rows, COUNT(" ++
      quoted field ++ ") - COUNT(DISTINCT " ++ quoted field ++ ") AS failed_rows FROM " ++
      datasetSql dataset
  | .orphans field dataset referenceField reference => "SELECT COUNT(l." ++ quoted field ++
      ") AS checked_rows, COUNT_IF(l." ++ quoted field ++ " IS NOT NULL AND r." ++
      quoted referenceField ++ " IS NULL) AS failed_rows FROM " ++ datasetSql dataset ++
      " l LEFT JOIN " ++ datasetSql reference ++ " r ON l." ++ quoted field ++ " = r." ++
      quoted referenceField

def Sample.sql : Sample → String
  | .failures field failure dataset => "SELECT " ++ quoted field ++ " AS failed_value FROM " ++
      datasetSql dataset ++ " WHERE " ++ failure.sql str
  | .duplicates field dataset => "SELECT " ++ quoted field ++
      ", COUNT(*) AS duplicate_count FROM " ++ datasetSql dataset ++ " WHERE " ++ quoted field ++
      " IS NOT NULL GROUP BY " ++ quoted field ++
      " HAVING COUNT(*) > 1 ORDER BY duplicate_count DESC"

end Texts

/-! ### Trees -/

section Trees

variable (str : Json → String)

def call (key : String) (arguments : List Expr) : Expr := .call (.typed key) arguments

def nullTest (column : Expr) : Expr := call "is" [column, .literal "NULL"]

def valueTest (column : Expr) : Expr := call "not" [nullTest column]

def Failure.tree : Failure → Expr
  | .isNull field => nullTest (.column "" field)
  | .notIn field values => call "and" [valueTest (.column "" field),
      call "not" [call "in" (.column "" field ::
        values.map fun value => .literal (literalText str value))]]
  | .outside field least greatest => call "and" [valueTest (.column "" field),
      call "or" ((least.map fun bound =>
          call "lt" [.column "" field, .literal (literalText str bound)]).toList ++
        (greatest.map fun bound =>
          call "gt" [.column "" field, .literal (literalText str bound)]).toList)]

def Checked.tree : Checked → Expr
  | .rows => call "count" [.star]
  | .values field => call "count" [.column "" field]

/-- `SELECT ... AS checked_rows, ... AS failed_rows FROM ...`. -/
def countsQuery (checked failed : Expr) (sources : From) : Query :=
  .select .done false [.aliased checked "checked_rows", .aliased failed "failed_rows"] sources
    [] [] [] [] none

def Statement.query : Statement → Query
  | .failures checked failure dataset =>
      countsQuery checked.tree (call "countif" [failure.tree str])
        (.table .cross dataset "" [] .done)
  | .duplicates field dataset =>
      countsQuery (call "count" [.column "" field])
        (call "sub" [call "count" [.column "" field],
          call "count" [call "distinct" [.column "" field]]])
        (.table .cross dataset "" [] .done)
  | .orphans field dataset referenceField reference =>
      countsQuery (call "count" [.column "l" field])
        (call "countif" [call "and" [valueTest (.column "l" field),
          nullTest (.column "r" referenceField)]])
        (.table .cross dataset "l" [] (.table .left reference "r"
          [call "eq" [.column "l" field, .column "r" referenceField]] .done))

def Sample.query : Sample → Query
  | .failures field failure dataset =>
      .select .done false [.aliased (.column "" field) "failed_value"]
        (.table .cross dataset "" [] .done) [failure.tree str] [] [] [] none
  | .duplicates field dataset =>
      .select .done false [.column "" field, .aliased (call "count" [.star]) "duplicate_count"]
        (.table .cross dataset "" [] .done) [valueTest (.column "" field)] [.column "" field]
        [call "gt" [call "count" [.star], .literal "1"]]
        [call "desc" [.column "" "duplicate_count"]] none

end Trees

/-! ### Counts -/

/-- A row by its columns, of which any may be null. -/
abbrev Row (Value : Type) := String → Option Value

/-- The rows of each dataset, by its normalised name. -/
abbrev Tables (Value : Type) := String → Multiset (Row Value)

structure Trino (Value : Type) where
  /-- The value of a literal next to a column, if the two can be compared. -/
  constant : Reference → String → Json → Option Value
  /-- The two columns can be compared. -/
  comparable : Reference → String → Reference → String → Bool
  equal : Value → Value → Bool
  less : Value → Value → Bool

section Counts

variable {Value : Type} (trino : Trino Value)

/-- What `_literal` writes next to a column, unless the statement is refused: `nan` and `inf` are
written without quotes, and there is no such column. -/
def Trino.operand (reference : Reference) (field : String) : Json → Option (Option Value)
  | .null => some none
  | .float .nan => none
  | .float (.infinite _) => none
  | value => (trino.constant reference field value).map some

def Failure.operands : Failure → List Json
  | .isNull _ => []
  | .notIn _ values => values
  | .outside _ least greatest => least.toList ++ greatest.toList

def Failure.field : Failure → String
  | .isNull field => field
  | .notIn field _ => field
  | .outside field _ _ => field

/-- Every comparison is one that Trino makes. -/
def Failure.accepted (dataset : Reference) (failure : Failure) : Bool :=
  failure.operands.all fun value => (trino.operand dataset failure.field value).isSome

def Failure.truth (dataset : Reference) (row : Row Value) : Failure → Truth
  | .isNull field => some (row field).isNone
  | .notIn field values => Truth.and (some (row field).isSome)
      (Truth.any (values.map fun value =>
        compared trino.equal (row field) (trino.operand dataset field value).join)).not
  | .outside field least greatest => Truth.and (some (row field).isSome)
      (Truth.any ((least.map fun bound =>
          compared trino.less (row field) (trino.operand dataset field bound).join).toList ++
        (greatest.map fun bound => compared (fun value bound => trino.less bound value) (row field)
          (trino.operand dataset field bound).join).toList))

def Checked.count (rows : Multiset (Row Value)) : Checked → Nat
  | .rows => rows.card
  | .values field => (rows.filterMap fun row => row field).card

/-- `l LEFT JOIN r ON l.{field} = r.{referenceField}`. -/
def joined (field referenceField : String) (rows references : Multiset (Row Value)) :
    Multiset (Row Value × Option (Row Value)) :=
  Bag.leftJoin rows references fun row reference =>
    compared trino.equal (row field) (reference referenceField)

/-- The counts of checked and failed rows, unless the statement is refused. -/
def Statement.answer [DecidableEq Value] (tables : Tables Value) : Statement → Option (Nat × Nat)
  | .failures checked failure dataset =>
      let rows := tables dataset.dataset
      if failure.accepted trino dataset then
        some (checked.count rows, Bag.countWhere (failure.truth trino dataset) rows)
      else none
  | .duplicates field dataset =>
      let values := (tables dataset.dataset).filterMap fun row => row field
      some (values.card, values.card - values.dedup.card)
  | .orphans field dataset referenceField reference =>
      let rows := joined trino field referenceField (tables dataset.dataset)
        (tables reference.dataset)
      if trino.comparable dataset field reference referenceField then
        some ((rows.filterMap fun row => row.1 field).card,
          Bag.countWhere (fun row => Truth.and (some (row.1 field).isSome)
            (some (row.2.bind fun reference => reference referenceField).isNone)) rows)
      else none

/-- The sample is not refused. -/
def Sample.accepted : Sample → Bool
  | .failures _ failure dataset => failure.accepted trino dataset
  | .duplicates _ _ => true

end Counts

/-! ## The engine -/

/-- `Permissions` and the settings apart, what a check depends on. -/
structure DataQualityEngine (Value : Type) where
  tools : ToolRegistry
  maxQueryLength : Nat
  dqMaxSampleRows : Nat
  /-- The column names that `describe_table` returns. -/
  describeTable : Reference → List String
  trino : Trino Value
  /-- The rows that Trino returns for a sample. -/
  sampleRows : Sample → List (List Cell)
  str : Json → String
  /-- The first twelve digits of the SHA-256 hash. -/
  digest : String → String

inductive Status where
  | passed
  | failed
  deriving DecidableEq

/-- The finding, less what it repeats of the rule, and its evidence. -/
structure DQFinding where
  fields : List String
  status : Status
  checkedRows : Int
  failedRows : Int
  failureRate : ℚ
  sample : List (List (String × Cell))
  recommendation : String
  warnings : List String
  deriving DecidableEq

/-- `_recommendation`. -/
def recommendation (ruleType : RuleType) (failed : Int) : String :=
  if failed = 0 then "No remediation is indicated; continue monitoring this rule."
  else
    match ruleType with
    | .notNull => "Investigate upstream records missing the required field."
    | .unique => "Investigate duplicate ingestion or natural-key construction."
    | .acceptedValues => "Review source mapping and reference categories."
    | .range => "Review out-of-range source values and metric semantics."
    | .referentialIntegrity => "Investigate missing dimension/reference records upstream."

/-- `int(text)`, of a text without blanks and underscores. -/
def integer (shown : String) : Option Int :=
  match shown.toList with
  | '-' :: digits => (natural digits).map fun value => -(value : Int)
  | '+' :: digits => (natural digits).map Int.ofNat
  | digits => (natural digits).map Int.ofNat
where
  natural (digits : List Char) : Option Nat :=
    if digits ≠ [] ∧ digits.all Char.isDigit then some (Nat.ofDigitChars 10 digits 0) else none

/-- `int(value or 0)`. -/
def intOf : Cell → Except DQError Int
  | .null => .ok 0
  | .text shown => parsed shown
  | .other _ shown => parsed shown
where
  parsed (shown : String) : Except DQError Int :=
    if shown = "" then .ok 0
    else
      match integer shown with
      | some value => .ok value
      | none => .error .valueError

def countCell (count : Nat) : Cell := .other "bigint" (Nat.repr count)

/-- What Trino returns; without a table it has refused the statement. -/
def answered : Option Table → Result
  | some table => ⟨table, .gathered []⟩
  | none => ⟨⟨[], []⟩, .node ⟨[], true⟩ []⟩

def countsTable (counts : Nat × Nat) : Table :=
  ⟨["checked_rows", "failed_rows"], [[countCell counts.1, countCell counts.2]]⟩

/-- The calls that a `ToolRegistry` has made, and `max_tool_calls`. -/
structure ToolCalls where
  made : Nat
  limit : Nat

/-- `_call` reserves a call, unless the limit is reached. -/
def ToolCalls.reserve (calls : ToolCalls) : Except DQError ToolCalls :=
  if calls.limit ≤ calls.made then
    .error (.toolLimitExceeded ("tool-call limit " ++ toString calls.limit ++ " exceeded"))
  else .ok { calls with made := calls.made + 1 }

namespace DataQualityEngine

variable {Value : Type} (engine : DataQualityEngine Value)

/-- `_compile`: the statement, the sample, the further fields, and the calls of tools. -/
def compile (rule : DQRule) (dataset : Reference) (calls : ToolCalls) :
    Except DQError (Statement × Option Sample × List String × ToolCalls) := do
  checkField rule.field
  let failures (checked : Checked) (failure : Failure) :
      Statement × Option Sample × List String × ToolCalls :=
    (.failures checked failure dataset, some (.failures rule.field failure dataset), [], calls)
  match rule.ruleType with
  | .notNull => return failures .rows (.isNull rule.field)
  | .unique =>
      return (.duplicates rule.field dataset, some (.duplicates rule.field dataset), [], calls)
  | .acceptedValues =>
      match rule.parameters.lookup "values" with
      | some (.array (value :: values)) =>
          return failures (.values rule.field) (.notIn rule.field (value :: values))
      | _ => .error (.toolError "accepted_values requires a non-empty values list")
  | .range =>
      match rule.parameters.lookup "min", rule.parameters.lookup "max" with
      | none, none => .error (.toolError "range requires min and/or max")
      | least, greatest => return failures (.values rule.field) (.outside rule.field least greatest)
  | .referentialIntegrity =>
      match rule.parameters.lookup "reference_dataset", rule.parameters.lookup "reference_field" with
      | some (.string text), some (.string referenceField) => do
          let reference ← qualified text
          let calls ← calls.reserve
          if referenceField ∉ engine.describeTable reference then
            .error (.toolError ("reference field " ++ referenceField ++ " is not present in " ++ text))
          else
            checkField referenceField
            return (.orphans rule.field dataset referenceField reference, none, [referenceField],
              calls)
      | _, _ => .error (.toolError
          "referential_integrity requires reference_dataset and reference_field")

/-- The part of `run_rule` before the statement is executed. -/
def prepare (rule : DQRule) (calls : ToolCalls) :
    Except DQError (Statement × Option Sample × List String × ToolCalls) := do
  let dataset ← qualified rule.dataset
  let calls ← calls.reserve
  if rule.field ∉ engine.describeTable dataset then
    .error (.toolError ("field " ++ rule.field ++ " is not present in " ++ rule.dataset))
  else engine.compile rule dataset calls

/-- `execute_query`, with the bound on the length of the text. -/
def execute (sql : String) (query : Query) (table : Option Table) (maxRows : Nat) :
    Except DQError QueryResult :=
  if engine.tools.governanceRequest.isSome ∧ sql.length > engine.maxQueryLength then
    .error (.query (.invalid "query is empty or exceeds the configured maximum length"))
  else
    (engine.tools.executeQuery (fun _ => answered table) query maxRows none).mapError .query

/-- `execute_query` as a call of a tool, which is reserved once the query is admitted. -/
def call (sql : String) (query : Query) (table : Option Table) (maxRows : Nat)
    (calls : ToolCalls) : Except DQError (QueryResult × ToolCalls) := do
  let _ ← engine.execute sql query (some ⟨[], []⟩) maxRows
  let calls ← calls.reserve
  let result ← engine.execute sql query table maxRows
  return (result, calls)

/-- `_masked`. -/
def masked (row : List (String × Cell)) : List (String × Cell) :=
  row.map fun entry =>
    if entry.1.endsWith "count" then entry
    else
      match entry.2 with
      | .null => entry
      | .text shown => (entry.1, .text ("masked:" ++ engine.digest shown))
      | .other _ shown => (entry.1, .text ("masked:" ++ engine.digest shown))

/-- The rows of the sample, each value masked. -/
def sampleOf (sample : Sample) (permissions : Permissions) (calls : ToolCalls) :
    Except DQError (List (List (String × Cell)) × ToolCalls) := do
  let limit := min (min engine.dqMaxSampleRows permissions.maxRows.toNat) 5
  let table : Table := ⟨match sample with
    | .failures _ _ _ => ["failed_value"]
    | .duplicates field _ => [field, "duplicate_count"],
    (engine.sampleRows sample).take (min limit engine.tools.maxRows)⟩
  let (sampled, calls) ← engine.call (sample.sql engine.str) (sample.query engine.str)
    (if sample.accepted engine.trino then some table else none) limit calls
  return ((sampled.rows.take limit).map fun cells => engine.masked (sampled.columns.zip cells), calls)

/-- The sample of the failures, for who may view it. -/
def failureSample (sample : Option Sample) (failed : Int) (permissions : Permissions)
    (calls : ToolCalls) : Except DQError (List (List (String × Cell)) × ToolCalls) :=
  match sample with
  | some sample =>
      if failed ≠ 0 ∧ permissions.permits .canViewDataQualitySamples then
        engine.sampleOf sample permissions calls
      else .ok ([], calls)
  | none => .ok ([], calls)

/-- The finding that `run_rule` returns. -/
def finding (rule : DQRule) (extraFields : List String) (checked failed : Int)
    (sample : List (List (String × Cell))) (permissions : Permissions) : DQFinding where
  fields := rule.field :: extraFields
  status := if failed ≠ 0 then .failed else .passed
  checkedRows := checked
  failedRows := failed
  failureRate := if checked ≠ 0 then (failed : ℚ) / checked else 0
  sample := sample
  recommendation := recommendation rule.ruleType failed
  warnings :=
    if failed ≠ 0 ∧ !permissions.permits .canViewDataQualitySamples then
      ["Raw failure samples were withheld by default permission policy"]
    else []

/-- The part of `run_rule` from the execution of the statement on. -/
def check [DecidableEq Value] (tables : Tables Value) (rule : DQRule) (statement : Statement)
    (sample : Option Sample) (extraFields : List String) (permissions : Permissions)
    (calls : ToolCalls) : Except DQError (DQFinding × ToolCalls) := do
  let (result, calls) ← engine.call (statement.sql engine.str) (statement.query engine.str)
    ((statement.answer engine.trino tables).map countsTable) 1 calls
  match result.rows with
  | [] => .error (.toolError "DQ aggregate returned no result")
  | cells :: _ => do
      let row := result.columns.zip cells
      let checked ← intOf ((row.lookup "checked_rows").getD .null)
      let failed ← intOf ((row.lookup "failed_rows").getD .null)
      let (shown, calls) ← engine.failureSample sample failed permissions calls
      return (finding rule extraFields checked failed shown permissions, calls)

/-- `run_rule`. -/
def runRule [DecidableEq Value] (tables : Tables Value) (rule : DQRule)
    (permissions : Permissions) (calls : ToolCalls) : Except DQError (DQFinding × ToolCalls) :=
  if !permissions.permits .canRunDataQualityChecks then
    .error (.permissionDenied "data-quality permission is required")
  else if !permissions.permits .canExecuteReadQueries then
    .error (.permissionDenied "read-query permission is required")
  else
    engine.prepare rule calls >>= fun (statement, sample, extraFields, calls) =>
      engine.check tables rule statement sample extraFields permissions calls

end DataQualityEngine

end PaymentsPlatform.AgentApi.DataQuality
