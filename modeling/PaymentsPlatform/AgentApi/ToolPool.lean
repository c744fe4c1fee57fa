import PaymentsPlatform.AgentApi.Authority
import PaymentsPlatform.Library.Json
import PaymentsPlatform.Library.Machine

/-!
# The shared tool pool

`_execute_bounded` and `_call` of `tools.py` over the one `ThreadPoolExecutor` of all requests,
and the tools that call other tools from inside it: the checks of `data_quality.py` and the data
source builder.  Of what a tool makes of its answers, the calls that follow are kept.
-/

namespace PaymentsPlatform.AgentApi.ToolPool

/-! ## Tools -/

/-- How a call ends for the one that waits for it. -/
inductive Outcome where
  | returned (answer : Json)
  /-- An exception of the tool; a transient one is tried again. -/
  | raised (isTransient : Bool)
  /-- `ToolTimeout`. -/
  | timedOut

/-- `_is_transient`. -/
def Outcome.isTransient : Outcome → Bool
  | returned _ => false
  | raised isTransient => isTransient
  | timedOut => true

/-- A function that runs in the pool, by the tools that it calls from there. -/
inductive Work where
  | finish (outcome : Outcome)
  | call (tool : String) (next : Outcome → Work)

/-- A call whose exceptions are not caught. -/
def calling (tool : String) (next : Json → Work) : Work :=
  .call tool fun outcome =>
    match outcome with
    | .returned answer => next answer
    | failure => .finish failure

/-- An exception that is not transient. -/
def raise : Work := .finish (.raised false)

/-- The end of a tool; what it returns is left out. -/
def done : Work := .finish (.returned .null)

def describeTable (next : Json → Work) : Work := calling "metadata.describe_table" next

/-- What governance says to the queries of a request. -/
structure QueryGovernance where
  /-- There is a governance request. -/
  given : Bool
  /-- The policy lets the query through. -/
  permits : Bool

/-- `execute_query`. -/
def executeQuery (governance : QueryGovernance) (next : Json → Work) : Work :=
  if !governance.given then raise
  else calling "query.validate" fun _ =>
    if !governance.permits then raise else calling "query.execute" next

section Answers

/-- `value[key]`. -/
def member (value : Json) (key : String) : Json :=
  match value with
  | .object members => Json.get members key
  | _ => .null

def elements : Json → List Json
  | .array elements => elements
  | _ => []

def text : Json → String
  | .string text => text
  | _ => ""

/-- `{row["column_name"] for row in rows}`. -/
def columnNames (rows : Json) : List String :=
  (elements rows).map fun row => text (member row "column_name")

/-- `int(row.get(name) or 0)`, of the first row of a result. -/
def count (result : Json) (name : String) : Int :=
  match Json.get (((elements (member result "columns")).map text).zip
      (elements ((elements (member result "rows")).headD .null))) name with
  | .int value => value
  | _ => 0

/-- `IDENTIFIER.fullmatch`. -/
def isIdentifier (value : String) : Bool :=
  match value.toList with
  | [] => false
  | first :: rest => (first.isAlpha || first = '_') && rest.all fun c => c.isAlphanum || c = '_'

/-- `_qualified` accepts the dataset. -/
def isQualified (dataset : String) : Bool :=
  let parts := (dataset.toList.splitOn '.').map String.ofList
  parts.length = 3 && parts.all isIdentifier

/-- `token in value`. -/
def contains (value token : String) : Bool := value.toList.tails.any token.toList.isPrefixOf

end Answers

section DataQuality

inductive RuleType where
  | notNull
  | unique
  | acceptedValues
  | range
  | referentialIntegrity
  | freshness
  | volume
  | customReadOnlyCheck
  deriving DecidableEq

structure DQRule where
  dataset : String
  ruleType : RuleType
  field : Option String
  parameters : List (String × Json)

/-- `_compile`: whether there is a query for a sample. -/
def compile (rule : DQRule) (next : Bool → Work) : Work :=
  let hasField := (rule.field.getD "") ≠ ""
  let has := fun key => rule.parameters.any (·.1 = key)
  if hasField ∧ !isIdentifier (rule.field.getD "") then raise
  else
    match rule.ruleType with
    | .notNull => next hasField
    | .unique => next true
    | .acceptedValues =>
        if (elements (Json.get rule.parameters "values")).isEmpty then raise else next hasField
    | .range => if has "min" || has "max" then next hasField else raise
    | .referentialIntegrity =>
        match Json.get rule.parameters "reference_dataset",
          Json.get rule.parameters "reference_field" with
        | .string reference, .string referenceField =>
            if !isQualified reference then raise
            else describeTable fun rows =>
              if referenceField ∉ columnNames rows then raise
              else if !isIdentifier referenceField then raise
              else next false
        | _, _ => raise
    | .freshness =>
        match Json.get rule.parameters "max_age_days" with
        | .bool _ => next false
        | .int days => if days < 0 then raise else next false
        | .float (.finite mantissa _) => if mantissa < 0 then raise else next false
        | .float (.infinite negative) => if negative then raise else next false
        | .float .nan => next false
        | _ => raise
    | .volume => if has "min_rows" || has "max_rows" then next false else raise
    | .customReadOnlyCheck => raise

/-- `DataQualityEngine.run_rule`, the function of `dq.run_rule`. -/
def runRule (governance : QueryGovernance) (permissions : Permissions) (rule : DQRule) : Work :=
  if !permissions.permits .canRunDataQualityChecks then raise
  else if !permissions.permits .canExecuteReadQueries then raise
  else if !isQualified rule.dataset then raise
  else describeTable fun rows =>
    if (rule.field.getD "") ≠ "" ∧ (rule.field.getD "") ∉ columnNames rows then raise
    else compile rule fun hasSample => executeQuery governance fun result =>
      if (elements (member result "rows")).isEmpty then raise
      else if count result "failed_rows" ≠ 0 ∧ hasSample ∧
          permissions.permits .canViewDataQualitySamples then
        executeQuery governance fun _ => done
      else done

/-- `profile`, the function of `dq.profile`. -/
def profile (governance : QueryGovernance) (permissions : Permissions) (dataset : String)
    (fields : List String) : Work :=
  if !permissions.permits .canRunDataQualityChecks then raise
  else if !permissions.permits .canExecuteReadQueries then raise
  else if !isQualified dataset then raise
  else describeTable fun rows =>
    if ¬ fields ⊆ columnNames rows then raise
    else if !fields.all isIdentifier then raise
    else executeQuery governance fun _ => done

/-- `existing_results_summary`, the function of `dq.summary`. -/
def existingResultsSummary (governance : QueryGovernance) (permissions : Permissions)
    (dataset : String) : Work :=
  if !permissions.permits .canRunDataQualityChecks then raise
  else if !permissions.permits .canExecuteReadQueries then raise
  else if !isQualified dataset then raise
  else describeTable fun rows =>
    if ¬ ["entity_type", "rule_code", "rule_passed"] ⊆ columnNames rows then raise
    else executeQuery governance fun _ => done

end DataQuality

section Builder

structure Measure where
  expression : String
  aggregation : String

structure JoinSpec where
  leftDataset : String
  rightDataset : String
  leftField : String
  rightField : String

structure DataSourceBuildRequest where
  datasets : List String
  dimensions : List String
  measures : List Measure
  joins : List JoinSpec
  permissions : Permissions

/-- `AGGREGATIONS`. -/
def aggregations : List String := ["sum", "avg", "min", "max", "count", "count_distinct"]

/-- `NUMERIC_TYPES`. -/
def numericTypes : List String :=
  ["tinyint", "smallint", "integer", "bigint", "real", "double", "decimal"]

/-- The measure is one of the columns, of a type that the aggregation accepts. -/
def measureFits (columns : Json) (measure : Measure) : Bool :=
  let types := (elements columns).filter fun row =>
    text (member row "column_name") = measure.expression
  measure.aggregation.toLower ∈ aggregations && isIdentifier measure.expression &&
    match types.getLast? with
    | none => false
    | some row => measure.aggregation.toLower ∈ ["count", "count_distinct"] ||
        numericTypes.any (contains (text (member row "data_type")).toLower)

/-- `_validate_join`, one join after the other. -/
def validateJoins (dataset : String) (columns : Json) : List JoinSpec → Work
  | [] => done
  | join :: rest =>
      if join.leftDataset ≠ dataset then raise
      else if join.leftField ∉ columnNames columns then raise
      else if (join.rightDataset.toList.splitOn '.').length ≠ 3 then raise
      else describeTable fun joined =>
        if join.rightField ∉ columnNames joined then raise else validateJoins dataset columns rest

/-- `DataSourceBuilder.build`, the function of `builder.datasource.build`. -/
def buildDataSource (request : DataSourceBuildRequest) : Work :=
  if !request.permissions.permits .canDiscoverMetadata then raise
  else if !request.permissions.permits .canExecuteReadQueries then raise
  else
    match request.datasets with
    | [dataset] =>
        let parts := dataset.toList.splitOn '.'
        if parts.length ≠ 3 ∨ [] ∈ parts then raise
        else describeTable fun columns =>
          if (elements columns).isEmpty then raise
          else if ¬ request.dimensions ⊆ columnNames columns then raise
          else if !request.measures.all (measureFits columns) then raise
          else validateJoins dataset columns request.joins
    | _ => raise

end Builder

/-! ## The pool -/

/-- `max_workers` of `_TOOL_EXECUTOR`. -/
def maxWorkers : Nat := 8

structure ToolSettings where
  maxToolCalls : Nat
  toolMaxRetries : Nat

/-- What is submitted: a tool that calls no other, or a function that may. -/
inductive Task where
  | leaf (tool : String)
  | function (work : Work)

/-- A task in the queue; the number of its future is its ticket. -/
structure Queued where
  ticket : Nat
  request : Nat
  task : Task

inductive Phase where
  | leaf (tool : String)
  | running (work : Work)
  /-- In `_call`, on the future of a tool, at this attempt. -/
  | waiting (ticket : Nat) (tool : String) (attempts : Nat) (next : Outcome → Work)

/-- A task that has just been taken. -/
def Phase.ofTask : Task → Phase
  | .leaf tool => .leaf tool
  | .function work => .running work

/-- A worker that has a task. -/
structure Worker where
  ticket : Nat
  request : Nat
  phase : Phase

def Queued.taken (queued : Queued) : Worker :=
  ⟨queued.ticket, queued.request, Phase.ofTask queued.task⟩

/-- The thread of a request in `_call`. -/
structure Client where
  request : Nat
  task : Task
  ticket : Nat
  attempts : Nat
  settled : Option Outcome

structure Pool where
  queue : List Queued := []
  workers : List Worker := []
  outcomes : Nat → Option Outcome := fun _ => none
  clients : List Client := []
  /-- The number of the next future. -/
  tickets : Nat := 0
  /-- `len(self.calls)` of each request. -/
  calls : Nat → Nat := fun _ => 0
  /-- The futures whose deadline has passed, in order. -/
  timeouts : List Nat := []

inductive Waiter where
  | worker (position : Nat)
  | client (position : Nat)

inductive Action where
  /-- A request calls a tool. -/
  | submit (request : Nat) (task : Task)
  /-- A free worker takes the first task of the queue. -/
  | start
  /-- A worker goes on; a tool that calls no other ends as given. -/
  | advance (position : Nat) (outcome : Outcome)
  /-- A request goes on with what its call has come to. -/
  | settle (position : Nat)
  /-- A deadline passes. -/
  | expire (waiter : Waiter)

namespace Pool

variable (settings : ToolSettings) (pool : Pool)

/-- `_TOOL_EXECUTOR.submit`. -/
def enqueue (request : Nat) (task : Task) : Pool :=
  { pool with queue := pool.queue ++ [⟨pool.tickets, request, task⟩], tickets := pool.tickets + 1 }

/-- The loop of `_call` goes round again. -/
def retries (outcome : Outcome) (attempts : Nat) : Bool :=
  outcome.isTransient && attempts ≤ settings.toolMaxRetries

/-- A call of a request itself, within its limit. -/
def submit (request : Nat) (task : Task) : Pool :=
  if settings.maxToolCalls ≤ pool.calls request then pool
  else { pool.enqueue request task with
    calls := Function.update pool.calls request (pool.calls request + 1)
    clients := pool.clients ++ [⟨request, task, pool.tickets, 1, none⟩] }

def start : Pool :=
  match pool.queue with
  | [] => pool
  | first :: rest =>
      if maxWorkers ≤ pool.workers.length then pool
      else { pool with
        queue := rest
        workers := pool.workers ++ [first.taken] }

def setPhase (position : Nat) (worker : Worker) (phase : Phase) : Pool :=
  { pool with workers := pool.workers.set position { worker with phase := phase } }

/-- The task of a worker ends, and the worker is free. -/
def finish (position : Nat) (worker : Worker) (outcome : Outcome) : Pool :=
  { pool with
    workers := pool.workers.eraseIdx position
    outcomes := Function.update pool.outcomes worker.ticket (some outcome) }

/-- A worker that waits hears how its call has ended. -/
def answerWorker (position : Nat) (worker : Worker) (tool : String) (attempts : Nat)
    (next : Outcome → Work) (outcome : Outcome) : Pool :=
  if retries settings outcome attempts then
    (pool.enqueue worker.request (.leaf tool)).setPhase position worker
      (.waiting pool.tickets tool (attempts + 1) next)
  else pool.setPhase position worker (.running (next outcome))

def advance (position : Nat) (outcome : Outcome) : Pool :=
  match pool.workers[position]? with
  | none => pool
  | some worker =>
      match worker.phase with
      | .leaf _ => pool.finish position worker outcome
      | .running (.finish result) => pool.finish position worker result
      | .running (.call tool next) =>
          if settings.maxToolCalls ≤ pool.calls worker.request then
            pool.setPhase position worker (.running (next (.raised false)))
          else
            ({ pool with
              calls := Function.update pool.calls worker.request
                (pool.calls worker.request + 1) }.enqueue worker.request (.leaf tool)).setPhase
              position worker (.waiting pool.tickets tool 1 next)
      | .waiting ticket tool attempts next =>
          match pool.outcomes ticket with
          | none => pool
          | some answer => pool.answerWorker settings position worker tool attempts next answer

/-- A request that waits hears how its call has ended. -/
def answerClient (position : Nat) (client : Client) (outcome : Outcome) : Pool :=
  if retries settings outcome client.attempts then
    { pool.enqueue client.request client.task with
      clients := pool.clients.set position
        { client with ticket := pool.tickets, attempts := client.attempts + 1 } }
  else { pool with clients := pool.clients.set position { client with settled := some outcome } }

def settle (position : Nat) : Pool :=
  match pool.clients[position]? with
  | none => pool
  | some client =>
      match client.settled, pool.outcomes client.ticket with
      | none, some outcome => pool.answerClient settings position client outcome
      | _, _ => pool

/-- The worker waits for a call that has not ended. -/
def isBlocked (worker : Worker) : Bool :=
  match worker.phase with
  | .waiting ticket _ _ _ => (pool.outcomes ticket).isNone
  | _ => false

/-- Nothing can happen but that time passes: what answers at once has answered. -/
def isQuiescent : Bool :=
  (pool.queue.isEmpty || maxWorkers ≤ pool.workers.length) && pool.workers.all pool.isBlocked &&
    pool.clients.all fun client => client.settled.isSome || (pool.outcomes client.ticket).isNone

def expire (waiter : Waiter) : Pool :=
  if pool.isQuiescent then
    match waiter with
    | .worker position =>
        match pool.workers[position]? with
        | some ⟨ticket, request, .waiting awaited tool attempts next⟩ =>
            { pool with timeouts := pool.timeouts ++ [awaited] }.answerWorker settings position
              ⟨ticket, request, .waiting awaited tool attempts next⟩ tool attempts next .timedOut
        | _ => pool
    | .client position =>
        match pool.clients[position]? with
        | some client =>
            if client.settled.isSome then pool
            else { pool with timeouts := pool.timeouts ++ [client.ticket] }.answerClient settings
              position client .timedOut
        | none => pool
  else pool

def step (pool : Pool) : Action → Pool
  | .submit request task => pool.submit settings request task
  | .start => pool.start
  | .advance position outcome => pool.advance settings position outcome
  | .settle position => pool.settle settings position
  | .expire waiter => pool.expire settings waiter

end Pool

end PaymentsPlatform.AgentApi.ToolPool
