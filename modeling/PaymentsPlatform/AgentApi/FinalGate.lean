import PaymentsPlatform.AgentApi.PlanDiscipline

/-!
# The final gate

The decision before the return sets the status of the result and nothing else: what the
handlers put out is returned whatever it is.  It conceals their outputs only where no
handler runs at all (`finalGate_conceals_iff`).
-/

namespace PaymentsPlatform.AgentApi.Plans

open DependencyOrder MultiAgentOrchestrator

/-- What two runs have to share of a step. -/
def AgentStep.profile (step : AgentStep) : String × StepStatus × Option AgentFailure :=
  (step.stepId, step.status, step.failure)

/-- With the final gate closed, other handlers under the same names make no difference to the
result as long as every step ends in the same status with the same failure. -/
def FinalGateConceals (orchestrator : MultiAgentOrchestrator) (task : AgentTask)
    (context : ExecutionContext) (late : String → Bool) (plan : AgentPlan) : Prop :=
  ∀ decision ∈ blocking,
    orchestrator.policyGuard (gate task "final") task "before_return" = .ok decision →
    ∀ handlers : Dict String Handler,
      (∀ agent, (handlers.get? agent).isSome = (orchestrator.handlers.get? agent).isSome) →
    ∀ result other, (orchestrator.execute task context late (some plan)).outcome = .ok result →
      (MultiAgentOrchestrator.execute { orchestrator with handlers := handlers } task context late
        (some plan)).outcome = .ok other →
      other.plan.steps.map AgentStep.profile = result.plan.steps.map AgentStep.profile →
      other = result

/-- No handler is reached: the first gate is closed, or it is closed or there is no handler for
each step that waits for no other. -/
def StaysClosed (orchestrator : MultiAgentOrchestrator) (task : AgentTask) (plan : AgentPlan) :
    Prop :=
  (∃ precheck ∈ blocking,
    orchestrator.policyGuard (gate task "precheck") task "before_plan" = .ok precheck) ∨
  ∀ step ∈ plan.steps, step.dependencies = [] →
    (∃ decision ∈ blocking, orchestrator.policyGuard step task "before_tool" = .ok decision) ∨
      orchestrator.handlers.get? step.agent = none

variable {orchestrator : MultiAgentOrchestrator} {task : AgentTask} {context : ExecutionContext}
  {late : String → Bool} {plan : AgentPlan} {handlers : Dict String Handler}

/-! ## Where no handler runs -/

/-- Nothing has completed so far, and each step that is done has its result. -/
structure Idle (done : List String) (progress : Progress) : Prop where
  known : ∀ stepId ∈ done, (progress.results.get? stepId).isSome
  incomplete : ∀ stepId result, progress.results.get? stepId = some result →
    result.status ≠ .completed

theorem anyIncomplete_of_idle {done : List String} {progress : Progress} (idle : Idle done progress)
    {dependencies : List String} (found : ∀ dependency ∈ dependencies, dependency ∈ done)
    (some_dependency : dependencies ≠ []) :
    anyIncomplete progress.results dependencies = .ok true := by
  cases dependencies with
  | nil => exact absurd rfl some_dependency
  | cons dependency rest =>
      have isDone := idle.known dependency (found dependency List.mem_cons_self)
      obtain ⟨result, isResult⟩ := Option.isSome_iff_exists.mp isDone
      simp [anyIncomplete, isResult, idle.incomplete dependency result isResult]

theorem Idle.settle {done : List String} {progress : Progress} (idle : Idle done progress)
    {stepId : String} {result : AgentResult} (unfinished : result.status ≠ .completed)
    {next : Progress} (results : next.results = progress.results.set stepId result) :
    Idle (done ++ [stepId]) next where
  known := by
    intro other listed
    rw [results, Dict.get?_set]
    by_cases same : stepId = other
    · simp [same]
    · have earlier : other ∈ done := by simpa [Ne.symm same] using listed
      simpa [same] using idle.known other earlier
  incomplete := by
    intro other known isResult
    rw [results, Dict.get?_set] at isResult
    split at isResult
    next =>
      cases isResult
      exact unfinished
    next => exact idle.incomplete other known isResult

theorem results_finish {progress : Progress} {step : AgentStep} {result : AgentResult}
    (live : (finish context progress step result).raised = none) :
    (finish context progress step result).results = progress.results.set step.stepId result := by
  unfold finish at live ⊢
  split at live
  next => cases live
  next within => rw [if_neg within, Progress.settle]

theorem handle_of_none {progress : Progress} {step : AgentStep}
    (unavailable : orchestrator.handlers.get? step.agent = none) :
    orchestrator.handle task context progress step = finish context progress step
      { status := .failed, failure := some ⟨"HandlerUnavailable", step.agent, false⟩ } := by
  rw [handle, unavailable]

section Closed

variable (closed : ∀ step ∈ plan.steps, step.dependencies = [] →
    (∃ decision ∈ blocking, orchestrator.policyGuard step task "before_tool" = .ok decision) ∨
      orchestrator.handlers.get? step.agent = none)
  (sameAgents : ∀ agent, (handlers.get? agent).isSome = (orchestrator.handlers.get? agent).isSome)

variable (context late)

include closed sameAgents

/-- The step ends without a handler, and so whatever the handlers are. -/
theorem advance_closed {done : List String} {progress : Progress} {step : AgentStep}
    (inPlan : step ∈ plan.steps) (found : ∀ dependency ∈ step.dependencies, dependency ∈ done)
    (idle : progress.raised = none → Idle done progress) :
    MultiAgentOrchestrator.advance { orchestrator with handlers := handlers } task context late
        progress step = orchestrator.advance task context late progress step ∧
      ((orchestrator.advance task context late progress step).raised = none →
        Idle (done ++ [step.stepId]) (orchestrator.advance task context late progress step)) := by
  unfold advance
  cases live : progress.raised with
  | some raised => exact ⟨rfl, fun alive => by rw [live] at alive; cases alive⟩
  | none =>
      have before := idle live
      simp only
      split
      next => exact ⟨rfl, fun alive => by cases alive⟩
      next =>
        by_cases free : step.dependencies = []
        · rw [free]
          simp only [anyIncomplete]
          unfold askGuard
          simp only
          cases answered : orchestrator.policyGuard step task "before_tool" with
          | error raised => exact ⟨rfl, fun alive => by cases alive⟩
          | ok decision =>
              simp only
              split
              next blocked =>
                refine ⟨rfl, fun _ => before.settle ?_ rfl⟩
                split <;> simp
              next cleared =>
                have unavailable := (closed step inPlan free).resolve_left (by
                  rintro ⟨other, blocked, same⟩
                  rw [answered] at same
                  cases same
                  exact cleared blocked)
                have otherUnavailable : handlers.get? step.agent = none := by
                  have same := sameAgents step.agent
                  rw [unavailable] at same
                  simpa using same
                rw [handle_of_none unavailable, handle_of_none otherUnavailable]
                exact ⟨rfl, fun alive => before.settle (by simp) (results_finish alive)⟩
        · rw [anyIncomplete_of_idle before found free]
          exact ⟨rfl, fun _ => before.settle (by simp) rfl⟩

theorem foldl_closed {ordered : List AgentStep} {done : List String} {progress : Progress}
    (ready : Ready AgentStep.stepId AgentStep.dependencies done ordered)
    (inPlan : ∀ step ∈ ordered, step ∈ plan.steps)
    (idle : progress.raised = none → Idle done progress) :
    ordered.foldl (MultiAgentOrchestrator.advance { orchestrator with handlers := handlers } task
        context late) progress =
      ordered.foldl (orchestrator.advance task context late) progress := by
  induction ordered generalizing done progress with
  | nil => rfl
  | cons step rest ih =>
      obtain ⟨-, found, later⟩ := ready
      have next := advance_closed context late closed sameAgents (inPlan step List.mem_cons_self) found idle
      rw [List.foldl_cons, List.foldl_cons, next.1]
      exact ih later (fun other listed => inPlan other (List.mem_cons_of_mem _ listed))
        next.2

end Closed

/-! ## Where a handler runs -/

section Shadowing

variable (target : String)

/-- The result of the target step, with one more output. -/
def altered (stepId : String) (result : AgentResult) : AgentResult :=
  if stepId = target then { result with output := ("", .null) :: result.output } else result

/-- Handlers that return what has been recorded, but for the output of the target. -/
def replaying (results : Dict String AgentResult) (handlers : Dict String Handler) :
    Dict String Handler :=
  handlers.map fun _ _ step _ _ =>
    .ok (altered target step.stepId ((results.get? step.stepId).getD {}))

/-- Two runs that differ in the output of the target. -/
structure Shadows (progress other : Progress) : Prop where
  results : other.results = progress.results.map (altered target)
  totalTools : other.totalTools = progress.totalTools
  steps : other.steps = progress.steps
  raised : other.raised = progress.raised

variable {target}

@[simp]
theorem altered_status (stepId : String) (result : AgentResult) :
    (altered target stepId result).status = result.status := by
  unfold altered
  split <;> rfl

@[simp]
theorem altered_evidence (stepId : String) (result : AgentResult) :
    (altered target stepId result).evidence = result.evidence := by
  unfold altered
  split <;> rfl

@[simp]
theorem altered_failure (stepId : String) (result : AgentResult) :
    (altered target stepId result).failure = result.failure := by
  unfold altered
  split <;> rfl

@[simp]
theorem altered_toolCalls (stepId : String) (result : AgentResult) :
    (altered target stepId result).toolCalls = result.toolCalls := by
  unfold altered
  split <;> rfl

theorem altered_other {stepId : String} (other : stepId ≠ target) (result : AgentResult) :
    altered target stepId result = result := if_neg other

theorem anyIncomplete_altered (results : Dict String AgentResult) (dependencies : List String) :
    anyIncomplete (results.map (altered target)) dependencies =
      anyIncomplete results dependencies := by
  induction dependencies with
  | nil => rfl
  | cons dependency rest ih =>
      simp only [anyIncomplete, Dict.get?_map]
      cases results.get? dependency with
      | none => rfl
      | some result => simp [ih]

variable {progress other : Progress} {step : AgentStep}

theorem shadows_settle (shadows : Shadows target progress other) {result : AgentResult}
    {write : AgentStep → AgentStep} {others : AgentResult}
    (isAltered : others = altered target step.stepId result) :
    Shadows target (progress.settle step result write) (other.settle step others write) where
  results := by
    simp only [Progress.settle]
    rw [shadows.results, isAltered, Dict.map_set]
  totalTools := shadows.totalTools
  steps := by simp only [Progress.settle, shadows.steps]
  raised := shadows.raised

theorem shadows_record (shadows : Shadows target progress other) (event others : Event) :
    Shadows target (progress.record event) (other.record others) :=
  ⟨shadows.results, shadows.totalTools, shadows.steps, shadows.raised⟩

theorem shadows_finish (shadows : Shadows target progress other) {result others : AgentResult}
    (isAltered : others = altered target step.stepId result)
    (live : (finish context progress step result).raised = none) :
    Shadows target (finish context progress step result) (finish context other step others) := by
  unfold finish at live ⊢
  have sameTools : other.totalTools + others.toolCalls = progress.totalTools + result.toolCalls := by
    rw [shadows.totalTools, isAltered, altered_toolCalls]
  split at live
  next => cases live
  next within =>
    rw [sameTools, if_neg within, if_neg within]
    have counted : Shadows target
        { progress with totalTools := progress.totalTools + result.toolCalls }
        { other with totalTools := progress.totalTools + result.toolCalls } :=
      ⟨shadows.results, rfl, shadows.steps, shadows.raised⟩
    rw [show others.status = result.status by rw [isAltered, altered_status],
      show others.evidence = result.evidence by rw [isAltered, altered_evidence],
      show others.failure = result.failure by rw [isAltered, altered_failure]]
    exact shadows_settle counted isAltered

/-- The target waits for nothing, passes its gate and has a handler. -/
structure Reached (orchestrator : MultiAgentOrchestrator) (task : AgentTask) (step : AgentStep) :
    Prop where
  free : step.dependencies = []
  cleared : ∀ decision, orchestrator.policyGuard step task "before_tool" = .ok decision →
    decision ∉ blocking
  registered : orchestrator.handlers.get? step.agent ≠ none

section Step

variable {results : Dict String AgentResult} (shadows : Shadows target progress other)
  (reached : step.stepId = target → Reached orchestrator task step)

include shadows reached

theorem shadows_handle
    (live : (orchestrator.handle task context progress step).raised = none)
    (recorded : results.get? step.stepId =
      (orchestrator.handle task context progress step).results.get? step.stepId) :
    Shadows target (orchestrator.handle task context progress step)
      (MultiAgentOrchestrator.handle
        { orchestrator with handlers := replaying target results orchestrator.handlers } task context
        other step) := by
  cases registered : orchestrator.handlers.get? step.agent with
  | none =>
      have elsewhere : step.stepId ≠ target := fun same =>
        (reached same).registered registered
      have otherUnregistered :
          (replaying target results orchestrator.handlers).get? step.agent = none := by
        rw [replaying, Dict.get?_map, registered, Option.map_none]
      rw [handle_of_none registered] at live ⊢
      rw [handle_of_none otherUnregistered]
      exact shadows_finish shadows (altered_other elsewhere _).symm live
  | some handler =>
      have otherRegistered : (replaying target results orchestrator.handlers).get? step.agent =
          some fun step _ _ =>
            .ok (altered target step.stepId ((results.get? step.stepId).getD {})) := by
        rw [replaying, Dict.get?_map, registered, Option.map_some]
      unfold handle at live recorded ⊢
      simp only [registered] at live recorded ⊢
      simp only [otherRegistered]
      rw [results_finish live, Dict.get?_set_self] at recorded
      rw [recorded]
      exact shadows_finish (shadows_record shadows _ _) rfl live

theorem shadows_advance (live : (orchestrator.advance task context late progress step).raised = none)
    (recorded : results.get? step.stepId =
      (orchestrator.advance task context late progress step).results.get? step.stepId) :
    Shadows target (orchestrator.advance task context late progress step)
      (MultiAgentOrchestrator.advance
        { orchestrator with handlers := replaying target results orchestrator.handlers } task context
        late other step) := by
  have sameAnswer : anyIncomplete other.results step.dependencies =
      anyIncomplete progress.results step.dependencies := by
    rw [shadows.results, anyIncomplete_altered]
  unfold advance at live recorded ⊢
  cases alive : progress.raised with
  | some raised => simp [alive] at live
  | none =>
      have otherAlive : other.raised = none := shadows.raised.trans alive
      simp only [alive] at live recorded ⊢
      simp only [otherAlive, sameAnswer]
      by_cases isLate : late step.stepId
      · rw [if_pos isLate] at live
        cases live
      · rw [if_neg isLate] at live recorded ⊢
        rw [if_neg isLate]
        cases complete : anyIncomplete progress.results step.dependencies with
        | error raised =>
            rw [complete] at live
            cases live
        | ok incomplete =>
            cases incomplete with
            | true =>
                have elsewhere : step.stepId ≠ target := by
                  intro same
                  rw [(reached same).free] at complete
                  cases complete
                exact shadows_settle shadows (altered_other elsewhere _).symm
            | false =>
                simp only [complete] at live recorded ⊢
                unfold askGuard at live recorded ⊢
                cases answered : orchestrator.policyGuard step task "before_tool" with
                | error raised =>
                    rw [answered] at live
                    cases live
                | ok decision =>
                    simp only [answered] at live recorded ⊢
                    have asked := shadows_record shadows
                      (.asked step "before_tool" decision) (.asked step "before_tool" decision)
                    by_cases blocked : decision ∈ blocking
                    · have elsewhere : step.stepId ≠ target := fun same =>
                        (reached same).cleared decision answered blocked
                      rw [if_pos blocked, if_pos blocked]
                      exact shadows_settle asked (altered_other elsewhere _).symm
                    · rw [if_neg blocked] at live recorded ⊢
                      rw [if_neg blocked]
                      exact shadows_handle asked reached live recorded

end Step

end Shadowing

/-! ## Whole runs -/

section Runs

variable {ordered : List AgentStep} {done : List String} {progress other : Progress}

theorem foldl_raised {raised : Raised} (failed : progress.raised = some raised) :
    ordered.foldl (orchestrator.advance task context late) progress = progress := by
  induction ordered with
  | nil => rfl
  | cons step rest ih =>
      have unchanged : orchestrator.advance task context late progress step = progress := by
        rw [advance, failed]
      rw [List.foldl_cons, unchanged]
      exact ih

theorem results_advance {step : AgentStep} {stepId : String} (distinct : step.stepId ≠ stepId) :
    (orchestrator.advance task context late progress step).results.get? stepId =
      progress.results.get? stepId := by
  cases live : progress.raised with
  | some raised => rw [advance, live]
  | none =>
      have advanced : Advanced orchestrator task progress step
          (orchestrator.advance task context late progress step) := advanced_advance live
      generalize orchestrator.advance task context late progress step = next at advanced ⊢
      cases advanced with
      | failed consulted raised made => rfl
      | settled => exact Dict.get?_set_of_ne distinct

theorem results_foldl (ready : Ready AgentStep.stepId AgentStep.dependencies done ordered)
    {stepId : String} (isDone : stepId ∈ done) :
    (ordered.foldl (orchestrator.advance task context late) progress).results.get? stepId =
      progress.results.get? stepId := by
  induction ordered generalizing done progress with
  | nil => rfl
  | cons step rest ih =>
      have distinct : step.stepId ≠ stepId := by
        rintro rfl
        exact ready.1 isDone
      rw [List.foldl_cons, ih ready.2.2 (List.mem_append_left _ isDone),
        results_advance distinct]

theorem shadows_foldl {target : String} {results : Dict String AgentResult}
    (ready : Ready AgentStep.stepId AgentStep.dependencies done ordered)
    (reached : ∀ step ∈ ordered, step.stepId = target → Reached orchestrator task step)
    (shadows : Shadows target progress other)
    (live : (ordered.foldl (orchestrator.advance task context late) progress).raised = none)
    (recorded : ∀ step ∈ ordered, results.get? step.stepId =
      (ordered.foldl (orchestrator.advance task context late) progress).results.get? step.stepId) :
    Shadows target (ordered.foldl (orchestrator.advance task context late) progress)
      (ordered.foldl (MultiAgentOrchestrator.advance
        { orchestrator with handlers := replaying target results orchestrator.handlers } task context
        late) other) := by
  induction ordered generalizing done progress other with
  | nil => exact shadows
  | cons step rest ih =>
      obtain ⟨-, -, later⟩ := ready
      rw [List.foldl_cons] at live recorded ⊢
      have alive : (orchestrator.advance task context late progress step).raised = none := by
        by_contra failed
        obtain ⟨raised, isRaised⟩ := Option.ne_none_iff_exists'.mp failed
        rw [foldl_raised isRaised] at live
        exact failed live
      have now := recorded step List.mem_cons_self
      rw [results_foldl later (List.mem_append_right _ (List.mem_singleton.mpr rfl))] at now
      apply ih later
      · exact fun other listed => reached other (List.mem_cons_of_mem _ listed)
      · exact shadows_advance shadows (reached step List.mem_cons_self) alive now
      · exact live
      · exact fun other listed => recorded other (List.mem_cons_of_mem _ listed)

end Runs

/-- A run that gets past the first gate and returns. -/
structure RanTo (orchestrator : MultiAgentOrchestrator) (task : AgentTask)
    (context : ExecutionContext) (late : String → Bool) (plan : AgentPlan)
    (ordered : List AgentStep) (progress : Progress) (decision : String) : Prop where
  cleared : ∃ precheck ∉ blocking,
    orchestrator.policyGuard (gate task "precheck") task "before_plan" = .ok precheck ∧
    progress = orchestrator.runSteps task context late plan ordered
      [.asked (gate task "precheck") "before_plan" precheck]
  accepted : validatePlan plan context = .ok ordered
  live : progress.raised = none
  decided : orchestrator.policyGuard (gate task "final") task "before_return" = .ok decision

theorem RanTo.outcome {ordered : List AgentStep} {progress : Progress} {decision : String}
    (ran : RanTo orchestrator task context late plan ordered progress decision) :
    (orchestrator.execute task context late (some plan)).outcome =
      .ok (collect context plan progress decision) := by
  obtain ⟨⟨precheck, cleared, answered, rfl⟩, accepted, live, decided⟩ := ran
  unfold execute
  rw [answered]
  simp only [if_neg cleared, executePlan, accepted, live, decided]

theorem ranTo_of_outcome {result : OrchestrationResult}
    (returned : (orchestrator.execute task context late (some plan)).outcome = .ok result)
    (opened : ¬ ∃ precheck ∈ blocking,
      orchestrator.policyGuard (gate task "precheck") task "before_plan" = .ok precheck) :
    ∃ ordered progress decision,
      RanTo orchestrator task context late plan ordered progress decision := by
  unfold execute at returned
  cases answered : orchestrator.policyGuard (gate task "precheck") task "before_plan" with
  | error raised =>
      rw [answered] at returned
      cases returned
  | ok precheck =>
      have cleared : precheck ∉ blocking := fun blocked => opened ⟨precheck, blocked, answered⟩
      simp only [answered, if_neg cleared, executePlan] at returned
      cases accepted : validatePlan plan context with
      | error raised =>
          rw [accepted] at returned
          cases returned
      | ok ordered =>
          simp only [accepted] at returned
          cases live : (orchestrator.runSteps task context late plan ordered
              [.asked (gate task "precheck") "before_plan" precheck]).raised with
          | some raised =>
              simp only [live] at returned
              cases returned
          | none =>
              simp only [live] at returned
              cases decided : orchestrator.policyGuard (gate task "final") task "before_return" with
              | error raised =>
                  rw [decided] at returned
                  cases returned
              | ok decision =>
                  exact ⟨ordered, _, decision, ⟨precheck, cleared, answered, rfl⟩, accepted, live,
                    decided⟩

theorem outcome_of_staysClosed (closed : StaysClosed orchestrator task plan)
    (sameAgents : ∀ agent, (handlers.get? agent).isSome = (orchestrator.handlers.get? agent).isSome) :
    (MultiAgentOrchestrator.execute { orchestrator with handlers := handlers } task context late
        (some plan)).outcome =
      (orchestrator.execute task context late (some plan)).outcome := by
  unfold execute
  simp only
  cases answered : orchestrator.policyGuard (gate task "precheck") task "before_plan" with
  | error raised => rfl
  | ok precheck =>
      simp only
      split
      next => rfl
      next cleared =>
        unfold executePlan
        cases accepted : validatePlan plan context with
        | error raised => rfl
        | ok ordered =>
            have validated := validatePlan_validated accepted
            have roots := closed.resolve_left (by
              rintro ⟨other, blocked, same⟩
              rw [answered] at same
              cases same
              exact cleared blocked)
            have sameRun : MultiAgentOrchestrator.runSteps { orchestrator with handlers := handlers }
                task context late plan ordered [.asked (gate task "precheck") "before_plan" precheck] =
                orchestrator.runSteps task context late plan ordered
                  [.asked (gate task "precheck") "before_plan" precheck] :=
              foldl_closed context late roots sameAgents validated.ready
                (fun step listed => (validated.mem step).mp listed)
                fun _ => ⟨by simp, by simp⟩
            simp only
            rw [sameRun]

theorem outputs_altered {target : String} {progress other : Progress} {decision : String}
    {result : AgentResult} (shadows : Shadows target progress other)
    (found : progress.results.get? target = some result) :
    (collect context plan other decision).outputs ≠
      (collect context plan progress decision).outputs := by
  intro same
  have shown : (target, ("", Json.null) :: result.output) ∈
      (collect context plan other decision).outputs := by
    apply List.mem_filterMap.mpr
    refine ⟨(target, altered target target result), ?_, ?_⟩
    · rw [shadows.results, Dict.mem_items_map]
      exact ⟨result, Dict.mem_items.mpr found, rfl⟩
    · simp [altered]
  rw [same] at shown
  obtain ⟨⟨stepId, known⟩, listed, isShown⟩ := List.mem_filterMap.mp shown
  split at isShown
  next => cases isShown
  next =>
    obtain ⟨rfl, isOutput⟩ := Prod.mk.inj (Option.some.inj isShown)
    have isResult := Dict.mem_items.mp listed
    rw [found] at isResult
    cases isResult
    have lengths := congrArg List.length isOutput
    simp at lengths

/-- The final gate conceals what the handlers put out exactly where no handler is reached. -/
theorem finalGate_conceals_iff {result : OrchestrationResult}
    (closed : ∃ decision ∈ blocking,
      orchestrator.policyGuard (gate task "final") task "before_return" = .ok decision)
    (returned : (orchestrator.execute task context late (some plan)).outcome = .ok result) :
    FinalGateConceals orchestrator task context late plan ↔ StaysClosed orchestrator task plan := by
  constructor
  · intro conceals
    by_contra someReached
    obtain ⟨opened, roots⟩ := not_or.mp someReached
    obtain ⟨ordered, progress, decision, ran⟩ := ranTo_of_outcome returned opened
    have outcome := ran.outcome
    obtain ⟨⟨precheck, cleared, answered, rfl⟩, accepted, live, decided⟩ := ran
    obtain ⟨known, blocked, isKnown⟩ := closed
    rw [decided] at isKnown
    cases isKnown
    have validated := validatePlan_validated accepted
    push Not at roots
    obtain ⟨root, inPlan, free, unblocked, registered⟩ := roots
    have reached : ∀ step ∈ ordered, step.stepId = root.stepId → Reached orchestrator task step := by
      intro step listed same
      rw [eq_of_stepId validated.distinct inPlan ((validated.mem step).mp listed) same]
      exact ⟨free, fun other isOther isBlocked => unblocked other isBlocked isOther, registered⟩
    have alive := (upheld_runSteps validated answered cleared).live live
    have inOrdered : root.stepId ∈ ordered.map AgentStep.stepId :=
      List.mem_map_of_mem ((validated.mem root).mpr inPlan)
    obtain ⟨rootResult, isResult⟩ := Option.isSome_iff_exists.mp ((alive.known _).mpr inOrdered)
    -- the same run with one more output of the root
    have start : Shadows root.stepId
        ⟨.empty, 0, plan.steps, [.asked (gate task "precheck") "before_plan" precheck], none⟩
        ⟨.empty, 0, plan.steps, [.asked (gate task "precheck") "before_plan" precheck], none⟩ :=
      ⟨rfl, rfl, rfl, rfl⟩
    have shadows := shadows_foldl validated.ready reached start live fun _ _ => rfl
    have otherRan : RanTo { orchestrator with
          handlers := replaying root.stepId (orchestrator.runSteps task context late plan ordered
            [.asked (gate task "precheck") "before_plan" precheck]).results orchestrator.handlers }
        task context late plan ordered _ decision :=
      ⟨⟨precheck, cleared, answered, rfl⟩, accepted, shadows.raised.trans live, decided⟩
    apply outputs_altered shadows isResult
    apply congrArg OrchestrationResult.outputs
    refine conceals decision blocked decided _ ?_ _ _ outcome otherRan.outcome ?_
    · intro agent
      rw [replaying, Dict.get?_map, Option.isSome_map]
    · exact congrArg (List.map AgentStep.profile) shadows.steps
  · rintro stays decision - - handlers sameAgents first second isFirst isSecond -
    rw [outcome_of_staysClosed stays sameAgents, isFirst] at isSecond
    exact (Except.ok.inj isSecond).symm

/-! ## A return that is denied -/

def sampleTask : AgentTask :=
  ⟨"Total the payments", ⟨"u-1", [], [], none, none, none⟩, none, []⟩

def sampleContext : ExecutionContext := ⟨"r-1", ⟨"u-1", [], [], none, none, none⟩, 8, 20, 6⟩

def sampleStep : AgentStep :=
  { stepId := "step-1", agent := "analytics", objective := "Total the payments" }

def samplePlan : AgentPlan := ⟨"plan-1", [sampleStep]⟩

/-- A handler that puts out an amount. -/
def totalling (amount : Int) : Dict String Handler :=
  Dict.empty.set "analytics" fun _ _ _ => .ok { output := [("amount", .int amount)] }

/-- The guard denies the return. -/
def denied (handlers : Dict String Handler) : MultiAgentOrchestrator where
  handlers := handlers
  policyGuard _ _ phase := .ok (if phase = "before_return" then "DENY" else "ALLOW")
  planner _ := .ok samplePlan

theorem samplePlan_accepted : validatePlan samplePlan sampleContext = .ok [sampleStep] := by
  rfl

theorem denied_ran (amount : Int) : RanTo (denied (totalling amount)) sampleTask sampleContext
    (fun _ => false) samplePlan [sampleStep]
    ((denied (totalling amount)).runSteps sampleTask sampleContext (fun _ => false) samplePlan
      [sampleStep] [.asked (gate sampleTask "precheck") "before_plan" "ALLOW"]) "DENY" where
  cleared := ⟨"ALLOW", by simp [blocking], rfl, rfl⟩
  accepted := samplePlan_accepted
  live := rfl
  decided := rfl

/-- The amount is returned all the same. -/
theorem denied_shows : ¬ FinalGateConceals (denied (totalling 1)) sampleTask sampleContext
    (fun _ => false) samplePlan := by
  intro conceals
  have same := conceals "DENY" (by simp [blocking]) rfl (totalling 2) (fun agent => by
    simp only [denied, totalling, Dict.get?_set, Dict.get?_empty]
    split <;> rfl) _ _ (denied_ran 1).outcome (denied_ran 2).outcome rfl
  have outputs := congrArg OrchestrationResult.outputs same
  have shown : ∀ amount, (collect sampleContext samplePlan
      ((denied (totalling amount)).runSteps sampleTask sampleContext (fun _ => false) samplePlan
        [sampleStep] [.asked (gate sampleTask "precheck") "before_plan" "ALLOW"]) "DENY").outputs =
      [("step-1", [("amount", .int amount)])] := fun amount => rfl
  rw [shown, shown] at outputs
  simp at outputs

theorem denied_iff : FinalGateConceals (denied (totalling 1)) sampleTask sampleContext
    (fun _ => false) samplePlan ↔ StaysClosed (denied (totalling 1)) sampleTask samplePlan :=
  finalGate_conceals_iff ⟨"DENY", by simp [blocking], rfl⟩ (denied_ran 1).outcome

end PaymentsPlatform.AgentApi.Plans
