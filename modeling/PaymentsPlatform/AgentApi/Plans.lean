import PaymentsPlatform.AgentApi.Governance
import PaymentsPlatform.Library.Dict
import PaymentsPlatform.Library.Json

/-!
# Plans of several agents

`MultiAgentOrchestrator`: a plan is validated and put into an order in which
dependencies come first, and its steps run in that order, each behind the policy
guard.

Guard, handlers and planner are arguments.  A run keeps the questions and calls it
has made, in order; `late` says whether the elapsed budget is used up when a step
is reached.
-/

namespace PaymentsPlatform.AgentApi.Plans

/-- An exception: `type(error).__name__` and `str(error)`. -/
structure Raised where
  name : String
  message : String
  deriving DecidableEq, Repr

def planValidationError (message : String) : Raised := ⟨"PlanValidationError", message⟩

def executionLimitError (message : String) : Raised := ⟨"ExecutionLimitError", message⟩

inductive StepStatus where
  | pending
  | running
  | failed
  | denied
  | requiresApproval
  | completed
  | skipped
  deriving DecidableEq, Repr

inductive OrchestrationStatus where
  | failed
  | partially
  | denied
  | requiresApproval
  | completed
  deriving DecidableEq, Repr

structure AgentTask where
  objective : String
  identity : IdentityContext
  requestedAgent : Option String
  context : List (String × Json)

structure AgentEvidence where
  agent : String
  kind : String
  reference : String
  tool : Option String
  request : List (String × Json)
  details : List (String × Json)

structure AgentFailure where
  category : String
  message : String
  retryable : Bool := false
  deriving DecidableEq

structure AgentStep where
  stepId : String
  agent : String
  objective : String
  dependencies : List String := []
  requiredTools : List String := []
  permissionRequirements : List String := []
  status : StepStatus := .pending
  evidence : List AgentEvidence := []
  failure : Option AgentFailure := none

structure AgentPlan where
  planId : String
  steps : List AgentStep

structure AgentResult where
  status : StepStatus := .completed
  output : List (String × Json) := []
  evidence : List AgentEvidence := []
  toolCalls : Nat := 0
  failure : Option AgentFailure := none

structure ExecutionContext where
  requestId : String
  identity : IdentityContext
  maxSteps : Nat
  maxToolCalls : Nat
  maxDepth : Nat

structure OrchestrationResult where
  requestId : String
  plan : AgentPlan
  status : OrchestrationStatus
  outputs : List (String × List (String × Json))
  evidence : List AgentEvidence
  failures : List AgentFailure

/-- `KNOWN_AGENTS`. -/
def knownAgents : List String :=
  ["data_discovery", "analytics", "visualization", "dashboard", "data_quality", "insight",
    "governance", "knowledge"]

/-! ## The order of the steps -/

/-- What `visit` has seen. -/
structure Visits where
  ordered : List AgentStep
  visiting : List String
  visited : List String

/-- `visit`; `budget` is `max_depth + 1 - depth`. -/
def visit (byId : Dict String AgentStep) : Nat → String → Visits → Except Raised Visits
  | 0, _, _ => .error (executionLimitError "maximum plan depth exceeded")
  | budget + 1, stepId, visits =>
      if stepId ∈ visits.visiting then .error (planValidationError "circular plan")
      else if stepId ∈ visits.visited then .ok visits
      else
        match byId.get? stepId with
        | none => .error ⟨"KeyError", stepId⟩
        | some step => do
            let entered := { visits with visiting := stepId :: visits.visiting }
            let left ← step.dependencies.foldlM
              (fun visits dependency => visit byId budget dependency visits) entered
            return {
              ordered := left.ordered ++ [step]
              visiting := left.visiting.erase stepId
              visited := stepId :: left.visited }

/-- The checks that `validate_plan` makes of one step. -/
def validateStep (byId : Dict String AgentStep) (step : AgentStep) : Except Raised Unit :=
  if step.agent ∉ knownAgents then .error (planValidationError "unknown agent")
  else if step.dependencies.any fun dependency => (byId.get? dependency).isNone then
    .error (planValidationError "unknown dependency")
  else .ok ()

namespace AgentPlan

def ids (plan : AgentPlan) : List String := plan.steps.map AgentStep.stepId

/-- `{step.step_id: step for step in plan.steps}`. -/
def byId (plan : AgentPlan) : Dict String AgentStep :=
  .ofList (plan.steps.map fun step => (step.stepId, step))

end AgentPlan

def validatePlan (plan : AgentPlan) (context : ExecutionContext) :
    Except Raised (List AgentStep) :=
  if plan.steps.length > context.maxSteps then
    .error (executionLimitError "maximum plan step count exceeded")
  else if ¬ plan.ids.Nodup then .error (planValidationError "duplicate step_id")
  else do
    plan.steps.forM (validateStep plan.byId)
    let visits ← plan.ids.foldlM
      (fun visits stepId => visit plan.byId context.maxDepth stepId visits) ⟨[], [], []⟩
    return visits.ordered

/-! ## The execution -/

abbrev Handler := AgentStep → AgentTask → Dict String AgentResult → Except Raised AgentResult

structure MultiAgentOrchestrator where
  handlers : Dict String Handler
  policyGuard : AgentStep → AgentTask → String → Except Raised String
  planner : AgentTask → Except Raised AgentPlan

/-- The decisions that stop what they are about. -/
def blocking : List String := ["DENY", "REQUIRE_APPROVAL"]

/-- What a run does, in order. -/
inductive Event where
  | asked (step : AgentStep) (phase decision : String)
  | invoked (step : AgentStep) (passed : Dict String AgentResult)
  | settled (step : AgentStep) (result : AgentResult)

structure Progress where
  results : Dict String AgentResult
  totalTools : Nat
  steps : List AgentStep
  events : List Event
  raised : Option Raised

namespace Progress

def fail (progress : Progress) (raised : Raised) : Progress :=
  { progress with raised := some raised }

def record (progress : Progress) (event : Event) : Progress :=
  { progress with events := progress.events ++ [event] }

/-- `results[step.step_id] = result`, with what is written back into the step of the plan. -/
def settle (progress : Progress) (step : AgentStep) (result : AgentResult)
    (write : AgentStep → AgentStep) : Progress :=
  { progress with
    results := progress.results.set step.stepId result
    steps := progress.steps.map fun stored => if stored.stepId = step.stepId then write stored else stored
    events := progress.events ++ [.settled step result] }

end Progress

/-- `any(results[dep].status != StepStatus.COMPLETED for dep in dependencies)`. -/
def anyIncomplete (results : Dict String AgentResult) : List String → Except Raised Bool
  | [] => .ok false
  | dependency :: rest =>
      match results.get? dependency with
      | none => .error ⟨"KeyError", dependency⟩
      | some result => if result.status ≠ .completed then .ok true else anyIncomplete results rest

/-- `{dependency: results[dependency] for dependency in dependencies}`. -/
def passedResults (results : Dict String AgentResult) (dependencies : List String) :
    Dict String AgentResult :=
  .ofList (dependencies.filterMap fun dependency =>
    (results.get? dependency).map fun result => (dependency, result))

/-- The failure of a step for which a decision stands. -/
def policyFailure (decision : String) : AgentFailure := ⟨"PolicyDecision", decision, false⟩

def dependencyFailure : AgentFailure :=
  ⟨"DependencyFailure", "required dependency did not complete", false⟩

/-- `try: result = handler(...)`. -/
def caught : Except Raised AgentResult → AgentResult
  | .ok result => result
  | .error raised =>
      { status := .failed, failure := some ⟨raised.name, raised.message, false⟩ }

namespace MultiAgentOrchestrator

variable (orchestrator : MultiAgentOrchestrator) (task : AgentTask) (context : ExecutionContext)
  (late : String → Bool)

/-- The end of the loop body, with the result of the handler. -/
def finish (progress : Progress) (step : AgentStep) (result : AgentResult) : Progress :=
  if progress.totalTools + result.toolCalls > context.maxToolCalls then
    progress.fail (executionLimitError "maximum tool call count exceeded")
  else
    { progress with totalTools := progress.totalTools + result.toolCalls }.settle step result
      fun stored =>
        { stored with
          status := result.status
          evidence := result.evidence
          failure := result.failure }

/-- A step that runs no handler. -/
def withhold (progress : Progress) (step : AgentStep) (status : StepStatus)
    (failure : AgentFailure) : Progress :=
  progress.settle step { status := status, failure := some failure } fun stored =>
    { stored with status := status, failure := some failure }

/-- A step that the guard lets pass. -/
def handle (progress : Progress) (step : AgentStep) : Progress :=
  match orchestrator.handlers.get? step.agent with
  | none =>
      finish context progress step
        { status := .failed, failure := some ⟨"HandlerUnavailable", step.agent, false⟩ }
  | some handler =>
      finish context
        (progress.record (.invoked step (passedResults progress.results step.dependencies))) step
        (caught (handler step task (passedResults progress.results step.dependencies)))

/-- A step whose dependencies have completed. -/
def askGuard (progress : Progress) (step : AgentStep) : Progress :=
  match orchestrator.policyGuard step task "before_tool" with
  | .error raised => progress.fail raised
  | .ok decision =>
      let asked := progress.record (.asked step "before_tool" decision)
      if decision ∈ blocking then
        withhold asked step (if decision = "DENY" then .denied else .requiresApproval)
          (policyFailure decision)
      else orchestrator.handle task context asked step

/-- The body of the loop over the ordered steps. -/
def advance (progress : Progress) (step : AgentStep) : Progress :=
  match progress.raised with
  | some _ => progress
  | none =>
      if late step.stepId then
        progress.fail (executionLimitError "elapsed execution budget exceeded")
      else
        match anyIncomplete progress.results step.dependencies with
        | .error raised => progress.fail raised
        | .ok true => withhold progress step .skipped dependencyFailure
        | .ok false => orchestrator.askGuard task context progress step

/-- `AgentStep(step_id=..., agent="governance", objective=task.objective)`. -/
def gate (stepId : String) : AgentStep :=
  { stepId := stepId, agent := "governance", objective := task.objective }

/-- The status of the whole, by the final decision and the statuses of the steps. -/
def overallStatus (finalDecision : String) (statuses : List StepStatus) : OrchestrationStatus :=
  if finalDecision = "DENY" ∨ .denied ∈ statuses then .denied
  else if finalDecision = "REQUIRE_APPROVAL" ∨ .requiresApproval ∈ statuses then .requiresApproval
  else if statuses ≠ [] ∧ ∀ status ∈ statuses, status = .completed then .completed
  else if .completed ∈ statuses then .partially
  else .failed

/-- What a run has done, and what it returns or raises. -/
structure Execution where
  events : List Event
  outcome : Except Raised OrchestrationResult

/-- The loop over the ordered steps. -/
def runSteps (plan : AgentPlan) (ordered : List AgentStep) (events : List Event) : Progress :=
  ordered.foldl (orchestrator.advance task context late) ⟨.empty, 0, plan.steps, events, none⟩

/-- The result once the final decision is known. -/
def collect (plan : AgentPlan) (progress : Progress) (finalDecision : String) :
    OrchestrationResult where
  requestId := context.requestId
  plan := { plan with steps := progress.steps }
  status := overallStatus finalDecision (progress.results.values.map AgentResult.status)
  outputs := progress.results.items.filterMap fun item =>
    if item.2.output.isEmpty then none else some (item.1, item.2.output)
  evidence := progress.results.values.flatMap AgentResult.evidence
  failures := progress.results.values.filterMap AgentResult.failure

/-- The steps and the final gate. -/
def executePlan (plan : AgentPlan) (events : List Event) : Execution :=
  match validatePlan plan context with
  | .error raised => ⟨events, .error raised⟩
  | .ok ordered =>
      let progress := orchestrator.runSteps task context late plan ordered events
      match progress.raised with
      | some raised => ⟨progress.events, .error raised⟩
      | none =>
          match orchestrator.policyGuard (gate task "final") task "before_return" with
          | .error raised => ⟨progress.events, .error raised⟩
          | .ok finalDecision =>
              ⟨progress.events ++ [.asked (gate task "final") "before_return" finalDecision],
                .ok (collect context plan progress finalDecision)⟩

/-- What is returned when the first gate stays closed. -/
def withheld (plan : Option AgentPlan) (precheck : String) : OrchestrationResult where
  requestId := context.requestId
  plan := plan.getD ⟨"policy-precheck", []⟩
  status := if precheck = "DENY" then .denied else .requiresApproval
  outputs := []
  evidence := []
  failures := [policyFailure precheck]

def execute (plan : Option AgentPlan) : Execution :=
  match orchestrator.policyGuard (gate task "precheck") task "before_plan" with
  | .error raised => ⟨[], .error raised⟩
  | .ok precheck =>
      let events := [.asked (gate task "precheck") "before_plan" precheck]
      if precheck ∈ blocking then ⟨events, .ok (withheld context plan precheck)⟩
      else
        match plan with
        | some plan => orchestrator.executePlan task context late plan events
        | none =>
            match orchestrator.planner task with
            | .error raised => ⟨events, .error raised⟩
            | .ok plan => orchestrator.executePlan task context late plan events

end MultiAgentOrchestrator

end PaymentsPlatform.AgentApi.Plans
