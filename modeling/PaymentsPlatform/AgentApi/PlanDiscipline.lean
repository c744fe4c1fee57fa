import PaymentsPlatform.AgentApi.PlanOrder

/-!
# The discipline of an execution

Whatever the handlers return or raise, a handler is called once at most, after the
gates and with the results of its dependencies; a step behind one that did not
complete is skipped; and the status that is returned follows from the steps and
the final gate.
-/

namespace PaymentsPlatform.AgentApi.Plans

open DependencyOrder MultiAgentOrchestrator

variable (orchestrator : MultiAgentOrchestrator) (task : AgentTask) (context : ExecutionContext)
  (late : String → Bool)

/-! ## One step -/

/-- What a step asks and calls before it ends. -/
inductive Consulted (progress : Progress) (step : AgentStep) : List Event → Prop where
  | silent : Consulted progress step []
  | asked (decision : String)
      (answered : orchestrator.policyGuard step task "before_tool" = .ok decision) :
      Consulted progress step [.asked step "before_tool" decision]
  | invoked (decision : String)
      (answered : orchestrator.policyGuard step task "before_tool" = .ok decision)
      (cleared : decision ∉ blocking)
      (complete : anyIncomplete progress.results step.dependencies = .ok false) :
      Consulted progress step [.asked step "before_tool" decision,
        .invoked step (passedResults progress.results step.dependencies)]

/-- All that the body of the loop can do. -/
inductive Advanced (progress : Progress) (step : AgentStep) : Progress → Prop where
  | failed (consulted : List Event) (raised : Raised)
      (made : Consulted orchestrator task progress step consulted) :
      Advanced progress step
        { progress with events := progress.events ++ consulted, raised := some raised }
  | settled (consulted : List Event) (result : AgentResult) (totalTools : Nat)
      (write : AgentStep → AgentStep)
      (made : Consulted orchestrator task progress step consulted)
      (sameId : ∀ stored, (write stored).stepId = stored.stepId)
      (sameDependencies : ∀ stored, (write stored).dependencies = stored.dependencies)
      (status : ∀ stored, (write stored).status = result.status)
      (skips : anyIncomplete progress.results step.dependencies = .ok true →
        result.status = .skipped) :
      Advanced progress step
        { results := progress.results.set step.stepId result
          totalTools := totalTools
          steps := progress.steps.map fun stored =>
            if stored.stepId = step.stepId then write stored else stored
          events := progress.events ++ consulted ++ [.settled step result]
          raised := progress.raised }

variable {orchestrator task context late} {progress : Progress} {step : AgentStep}

theorem advanced_finish {consulted : List Event} {result : AgentResult}
    (made : Consulted orchestrator task progress step consulted)
    (complete : anyIncomplete progress.results step.dependencies = .ok false) :
    Advanced orchestrator task progress step
      (finish context { progress with events := progress.events ++ consulted } step result) := by
  unfold finish
  split
  next => exact .failed consulted _ made
  next =>
    refine .settled consulted result _ _ made (fun _ => rfl) (fun _ => rfl) (fun _ => rfl) ?_
    intro incomplete
    rw [complete] at incomplete
    cases incomplete

theorem advanced_withhold {consulted : List Event} {status : StepStatus} {failure : AgentFailure}
    (made : Consulted orchestrator task progress step consulted)
    (skips : anyIncomplete progress.results step.dependencies = .ok true → status = .skipped) :
    Advanced orchestrator task progress step
      (withhold { progress with events := progress.events ++ consulted } step status failure) :=
  .settled consulted { status := status, failure := some failure } _ _ made (fun _ => rfl)
    (fun _ => rfl) (fun _ => rfl) skips

theorem advanced_askGuard (complete : anyIncomplete progress.results step.dependencies = .ok false) :
    Advanced orchestrator task progress step
      (orchestrator.askGuard task context progress step) := by
  have noSkip : anyIncomplete progress.results step.dependencies ≠ .ok true := by
    rw [complete]
    exact fun same => by cases same
  unfold askGuard
  cases answered : orchestrator.policyGuard step task "before_tool" with
  | error raised =>
      have nothing : Consulted orchestrator task progress step [] := .silent
      simpa [Progress.fail] using Advanced.failed [] raised nothing
  | ok decision =>
      have made : Consulted orchestrator task progress step
          [.asked step "before_tool" decision] := .asked decision answered
      simp only
      split
      next => exact advanced_withhold made fun incomplete => absurd incomplete noSkip
      next cleared =>
        unfold handle
        split
        next => exact advanced_finish made complete
        next handler registered =>
          have called := Consulted.invoked decision answered cleared complete
          simp only [Progress.record, List.append_assoc]
          exact advanced_finish called complete

theorem advanced_advance (live : progress.raised = none) :
    Advanced orchestrator task progress step
      (orchestrator.advance task context late progress step) := by
  have nothing : Consulted orchestrator task progress step [] := .silent
  have failed : ∀ raised, Advanced orchestrator task progress step (progress.fail raised) := by
    intro raised
    simpa [Progress.fail] using Advanced.failed [] raised nothing
  unfold advance
  rw [live]
  simp only
  split
  next => exact failed _
  next =>
    cases complete : anyIncomplete progress.results step.dependencies with
    | error raised => exact failed raised
    | ok incomplete =>
        cases incomplete with
        | false => exact advanced_askGuard complete
        | true =>
            have skipped : Advanced orchestrator task progress step (withhold
                { progress with events := progress.events ++ [] } step .skipped
                dependencyFailure) := advanced_withhold nothing fun _ => rfl
            simpa using skipped

/-! ## The calls of a run -/

section Calls

variable (orchestrator task)

/-- What has to come before the call of a handler. -/
structure Due (before : List Event) (step : AgentStep) (passed : Dict String AgentResult) :
    Prop where
  admitted : ∃ precheck, .asked (gate task "precheck") "before_plan" precheck ∈ before ∧
    orchestrator.policyGuard (gate task "precheck") task "before_plan" = .ok precheck ∧
    precheck ∉ blocking
  cleared : ∃ decision, .asked step "before_tool" decision ∈ before ∧
    orchestrator.policyGuard step task "before_tool" = .ok decision ∧ decision ∉ blocking
  /-- What is passed for a dependency is its result, and that is complete. -/
  supplied : ∀ dependency ∈ step.dependencies, ∃ source result,
    .settled source result ∈ before ∧ source.stepId = dependency ∧
      result.status = .completed ∧ passed.get? dependency = some result
  direct : ∀ dependency, (passed.get? dependency).isSome → dependency ∈ step.dependencies
  once : ∀ other others, .invoked other others ∈ before → other.stepId ≠ step.stepId

/-- Every call of a handler is due where it is made. -/
def Disciplined (events : List Event) : Prop :=
  ∀ before step passed after, events = before ++ .invoked step passed :: after →
    Due orchestrator task before step passed

variable {orchestrator task}

theorem disciplined_nil : Disciplined orchestrator task [] := by
  intro before step passed after split
  cases before <;> cases split

theorem Disciplined.concat {events : List Event} {event : Event}
    (disciplined : Disciplined orchestrator task events)
    (due : ∀ step passed, event = .invoked step passed → Due orchestrator task events step passed) :
    Disciplined orchestrator task (events ++ [event]) := by
  intro before step passed after split
  rcases List.eq_nil_or_concat after with
    rfl | ⟨earlier, last, rfl⟩
  · obtain ⟨rfl, same⟩ := List.append_inj' split rfl
    exact due step passed (List.singleton_inj.mp same)
  · rw [List.concat_eq_append, ← List.cons_append, ← List.append_assoc] at split
    obtain ⟨rfl, -⟩ := List.append_inj' split rfl
    exact disciplined before step passed earlier rfl

end Calls

/-! ## Results so far -/

section Results

variable {results : Dict String AgentResult}

theorem anyIncomplete_false {dependencies : List String}
    (complete : anyIncomplete results dependencies = .ok false) :
    ∀ dependency ∈ dependencies, ∃ result, results.get? dependency = some result ∧
      result.status = .completed := by
  induction dependencies with
  | nil => simp
  | cons dependency rest ih =>
      unfold anyIncomplete at complete
      split at complete
      next => cases complete
      next result found =>
        split at complete
        next => cases complete
        next isComplete =>
          have first : result.status = .completed := by simpa using isComplete
          exact List.forall_mem_cons.mpr ⟨⟨result, found, first⟩, ih complete⟩

theorem anyIncomplete_ok {dependencies : List String}
    (found : ∀ dependency ∈ dependencies, (results.get? dependency).isSome) :
    ∃ incomplete, anyIncomplete results dependencies = .ok incomplete := by
  induction dependencies with
  | nil => exact ⟨false, rfl⟩
  | cons dependency rest ih =>
      obtain ⟨first, later⟩ := List.forall_mem_cons.mp found
      obtain ⟨result, isFirst⟩ := Option.isSome_iff_exists.mp first
      unfold anyIncomplete
      rw [isFirst]
      simp only
      split
      next => exact ⟨true, rfl⟩
      next => exact ih later

theorem passedResults_get? {dependencies : List String} {dependency : String}
    (listed : dependency ∈ dependencies) {result : AgentResult}
    (found : results.get? dependency = some result) :
    (passedResults results dependencies).get? dependency = some result := by
  have some_passed : ((passedResults results dependencies).get? dependency).isSome := by
    rw [passedResults, Dict.isSome_get?_ofList, List.mem_map]
    exact ⟨(dependency, result), List.mem_filterMap.mpr ⟨dependency, listed, by simp [found]⟩, rfl⟩
  obtain ⟨passed, isPassed⟩ := Option.isSome_iff_exists.mp some_passed
  obtain ⟨source, -, same⟩ := List.mem_filterMap.mp (Dict.mem_of_get?_ofList isPassed)
  obtain ⟨known, isKnown, pair⟩ := Option.map_eq_some_iff.mp same
  cases pair
  rw [isPassed, ← isKnown, found]

theorem mem_of_passedResults {dependencies : List String} {dependency : String}
    (passed : ((passedResults results dependencies).get? dependency).isSome) :
    dependency ∈ dependencies := by
  rw [passedResults, Dict.isSome_get?_ofList, List.mem_map] at passed
  obtain ⟨⟨name, result⟩, listed, rfl⟩ := passed
  obtain ⟨source, inDependencies, same⟩ := List.mem_filterMap.mp listed
  obtain ⟨known, -, pair⟩ := Option.map_eq_some_iff.mp same
  cases pair
  exact inDependencies

end Results

/-! ## A run that has not failed -/

/-- The parts of a step that no run changes. -/
def AgentStep.shape (step : AgentStep) : String × List String := (step.stepId, step.dependencies)

/-- Where a run stands that has raised nothing: which steps are done, and with what. -/
structure Live (plan : AgentPlan) (done : List String) (progress : Progress) : Prop where
  known : ∀ stepId, (progress.results.get? stepId).isSome ↔ stepId ∈ done
  recorded : ∀ stepId result, progress.results.get? stepId = some result →
    ∃ source, .settled source result ∈ progress.events ∧ source.stepId = stepId
  called : ∀ step passed, .invoked step passed ∈ progress.events → step.stepId ∈ done
  shape : progress.steps.map AgentStep.shape = plan.steps.map AgentStep.shape
  statuses : ∀ step ∈ progress.steps, ∀ result,
    progress.results.get? step.stepId = some result → step.status = result.status
  skipped : ∀ step ∈ progress.steps, ∀ result,
    progress.results.get? step.stepId = some result → ∀ dependency ∈ step.dependencies,
      ∃ source, progress.results.get? dependency = some source ∧
        (source.status ≠ .completed → result.status = .skipped)

/-- The invariant of the loop. -/
structure Upheld (orchestrator : MultiAgentOrchestrator) (task : AgentTask) (plan : AgentPlan)
    (done : List String) (progress : Progress) : Prop where
  disciplined : Disciplined orchestrator task progress.events
  admitted : ∃ precheck, .asked (gate task "precheck") "before_plan" precheck ∈ progress.events ∧
    orchestrator.policyGuard (gate task "precheck") task "before_plan" = .ok precheck ∧
    precheck ∉ blocking
  live : progress.raised = none → Live plan done progress

section Loop

variable {plan : AgentPlan} {done : List String}

theorem disciplined_consulted (upheld : Upheld orchestrator task plan done progress)
    (live : progress.raised = none) (fresh : step.stepId ∉ done) {consulted : List Event}
    (made : Consulted orchestrator task progress step consulted) :
    Disciplined orchestrator task (progress.events ++ consulted) := by
  cases made with
  | silent => simpa using upheld.disciplined
  | asked decision answered =>
      exact upheld.disciplined.concat fun _ _ same => by cases same
  | invoked decision answered cleared complete =>
      have asked : Disciplined orchestrator task
          (progress.events ++ [.asked step "before_tool" decision]) :=
        upheld.disciplined.concat fun _ _ same => by cases same
      rw [List.append_cons]
      apply asked.concat
      intro called passed same
      cases same
      have alive := upheld.live live
      refine ⟨?_, ⟨decision, by simp, answered, cleared⟩, ?_, ?_, ?_⟩
      · obtain ⟨precheck, listed, isPrecheck, open_⟩ := upheld.admitted
        exact ⟨precheck, List.mem_append_left _ listed, isPrecheck, open_⟩
      · intro dependency listed
        obtain ⟨result, found, completed⟩ := anyIncomplete_false complete dependency listed
        obtain ⟨source, settled, named⟩ := alive.recorded dependency result found
        exact ⟨source, result, List.mem_append_left _ settled, named, completed,
          passedResults_get? listed found⟩
      · intro dependency passed
        exact mem_of_passedResults passed
      · intro other others listed
        have earlier : Event.invoked other others ∈ progress.events := by simpa using listed
        rintro same
        exact fresh (same ▸ alive.called other others earlier)

theorem eq_of_stepId (distinct : plan.ids.Nodup) {other : AgentStep} (inPlan : step ∈ plan.steps)
    (otherInPlan : other ∈ plan.steps) (same : other.stepId = step.stepId) : other = step :=
  List.inj_on_of_nodup_map distinct otherInPlan inPlan same

theorem Live.dependencies_eq (alive : Live plan done progress) (distinct : plan.ids.Nodup)
    (inPlan : step ∈ plan.steps) {stored : AgentStep} (listed : stored ∈ progress.steps)
    (same : stored.stepId = step.stepId) : stored.dependencies = step.dependencies := by
  have shaped : stored.shape ∈ plan.steps.map AgentStep.shape := by
    rw [← alive.shape]
    exact List.mem_map_of_mem listed
  obtain ⟨other, otherInPlan, sameShape⟩ := List.mem_map.mp shaped
  obtain ⟨sameId, sameDependencies⟩ := Prod.mk.inj sameShape
  rw [← sameDependencies, eq_of_stepId distinct inPlan otherInPlan (sameId.trans same)]

/-- A settled step is one more that is done. -/
theorem live_settled (alive : Live plan done progress) (distinct : plan.ids.Nodup)
    (inPlan : step ∈ plan.steps) (fresh : step.stepId ∉ done)
    (found : ∀ dependency ∈ step.dependencies, dependency ∈ done)
    {consulted : List Event} (made : Consulted orchestrator task progress step consulted)
    {result : AgentResult} {totalTools : Nat} {write : AgentStep → AgentStep}
    (sameId : ∀ stored, (write stored).stepId = stored.stepId)
    (sameDependencies : ∀ stored, (write stored).dependencies = stored.dependencies)
    (status : ∀ stored, (write stored).status = result.status)
    (skips : anyIncomplete progress.results step.dependencies = .ok true →
      result.status = .skipped) :
    Live plan (done ++ [step.stepId])
      { results := progress.results.set step.stepId result
        totalTools := totalTools
        steps := progress.steps.map fun stored =>
          if stored.stepId = step.stepId then write stored else stored
        events := progress.events ++ consulted ++ [.settled step result]
        raised := progress.raised } where
  known := by
    intro stepId
    rw [Dict.get?_set]
    by_cases same : step.stepId = stepId
    · simp [same]
    · simp [same, Ne.symm same, alive.known]
  recorded := by
    intro stepId other isResult
    rw [Dict.get?_set] at isResult
    split at isResult
    next same =>
      cases isResult
      exact ⟨step, by simp, same⟩
    next =>
      obtain ⟨source, listed, named⟩ := alive.recorded stepId other isResult
      exact ⟨source, by simp [listed], named⟩
  called := by
    intro called passed listed
    have cases_ : Event.invoked called passed ∈ progress.events ∨
        Event.invoked called passed ∈ consulted := by simpa using listed
    rcases cases_ with
      earlier | now
    · exact List.mem_append_left _ (alive.called called passed earlier)
    · have same : called = step := by
        cases made <;> simp at now
        exact now.1
      simp [same]
  shape := by
    rw [← alive.shape, List.map_map]
    apply List.map_congr_left
    intro stored _
    by_cases same : stored.stepId = step.stepId <;>
      simp [AgentStep.shape, same, sameId, sameDependencies]
  statuses := by
    intro changed listed other isResult
    obtain ⟨stored, storedListed, rfl⟩ := List.mem_map.mp listed
    by_cases same : stored.stepId = step.stepId
    · rw [if_pos same] at isResult ⊢
      rw [sameId, same, Dict.get?_set_self] at isResult
      cases isResult
      exact status stored
    · rw [if_neg same] at isResult ⊢
      rw [Dict.get?_set_of_ne (Ne.symm same)] at isResult
      exact alive.statuses stored storedListed other isResult
  skipped := by
    intro changed listed other isResult dependency depends
    obtain ⟨stored, storedListed, rfl⟩ := List.mem_map.mp listed
    have elsewhere : dependency ∈ done → step.stepId ≠ dependency := by
      rintro isDone rfl
      exact fresh isDone
    by_cases same : stored.stepId = step.stepId
    · rw [if_pos same] at isResult depends
      rw [sameId, same, Dict.get?_set_self] at isResult
      cases isResult
      rw [sameDependencies, alive.dependencies_eq distinct inPlan storedListed same] at depends
      have isDone := found dependency depends
      obtain ⟨source, isSource⟩ := Option.isSome_iff_exists.mp ((alive.known dependency).mpr isDone)
      refine ⟨source, by rwa [Dict.get?_set_of_ne (elsewhere isDone)], ?_⟩
      intro unfinished
      obtain ⟨incomplete, answer⟩ := anyIncomplete_ok fun name listed =>
        (alive.known name).mpr (found name listed)
      cases incomplete with
      | true => exact skips answer
      | false =>
          obtain ⟨known, isKnown, completed⟩ := anyIncomplete_false answer dependency depends
          rw [isSource] at isKnown
          cases isKnown
          exact absurd completed unfinished
    · rw [if_neg same] at isResult depends
      rw [Dict.get?_set_of_ne (Ne.symm same)] at isResult
      obtain ⟨source, isSource, rule⟩ :=
        alive.skipped stored storedListed other isResult dependency depends
      have isDone := (alive.known dependency).mp (by rw [isSource]; rfl)
      exact ⟨source, by rwa [Dict.get?_set_of_ne (elsewhere isDone)], rule⟩

theorem upheld_advance (distinct : plan.ids.Nodup) (inPlan : step ∈ plan.steps)
    (fresh : step.stepId ∉ done) (found : ∀ dependency ∈ step.dependencies, dependency ∈ done)
    (upheld : Upheld orchestrator task plan done progress) :
    Upheld orchestrator task plan (done ++ [step.stepId])
      (orchestrator.advance task context late progress step) := by
  cases live : progress.raised with
  | some raised =>
      have unchanged : orchestrator.advance task context late progress step = progress := by
        rw [advance, live]
      rw [unchanged]
      refine ⟨upheld.disciplined, upheld.admitted, ?_⟩
      intro alive
      rw [live] at alive
      cases alive
  | none =>
      obtain ⟨precheck, listed, admitted⟩ := upheld.admitted
      have advanced : Advanced orchestrator task progress step
          (orchestrator.advance task context late progress step) := advanced_advance live
      generalize orchestrator.advance task context late progress step = next at advanced
      cases advanced with
      | failed consulted raised made =>
          refine ⟨disciplined_consulted upheld live fresh made,
            ⟨precheck, List.mem_append_left _ listed, admitted⟩, ?_⟩
          intro alive
          cases alive
      | settled consulted result totalTools write made sameId sameDependencies status skips =>
          refine ⟨?_, ⟨precheck, ?_, admitted⟩, ?_⟩
          · exact (disciplined_consulted upheld live fresh made).concat fun _ _ same => by cases same
          · exact List.mem_append_left _ (List.mem_append_left _ listed)
          · intro _
            exact live_settled (upheld.live live) distinct inPlan fresh found made sameId
              sameDependencies status skips

theorem upheld_runSteps {ordered : List AgentStep} (validated : Validated plan ordered)
    {precheck : String}
    (answered : orchestrator.policyGuard (gate task "precheck") task "before_plan" = .ok precheck)
    (cleared : precheck ∉ blocking) :
    Upheld orchestrator task plan (ordered.map AgentStep.stepId)
      (orchestrator.runSteps task context late plan ordered
        [.asked (gate task "precheck") "before_plan" precheck]) := by
  have start : Upheld orchestrator task plan []
      ⟨.empty, 0, plan.steps, [.asked (gate task "precheck") "before_plan" precheck], none⟩ := by
    refine ⟨?_, ⟨precheck, List.mem_singleton.mpr rfl, answered, cleared⟩, ?_⟩
    · exact disciplined_nil.concat fun _ _ same => by cases same
    · intro _
      exact ⟨by simp, by simp, by simp, rfl, by simp, by simp⟩
  have kept : ∀ done progress, ∀ step ∈ ordered, step.stepId ∉ done →
      (∀ dependency ∈ step.dependencies, dependency ∈ done) →
      Upheld orchestrator task plan done progress →
      Upheld orchestrator task plan (done ++ [step.stepId])
        (orchestrator.advance task context late progress step) :=
    fun _ _ step listed fresh found =>
      upheld_advance validated.distinct ((validated.mem step).mp listed) fresh found
  simpa [runSteps] using validated.ready.foldl_invariant kept start

end Loop

/-! ## The result -/

/-- The first step waits for the second. -/
def DependsOn (steps : List AgentStep) (step other : AgentStep) : Prop :=
  step ∈ steps ∧ other ∈ steps ∧ other.stepId ∈ step.dependencies

/-- What the steps, as they are returned, and the final decision say of the whole. -/
structure Concluded (steps : List AgentStep) (finalDecision : String)
    (status : OrchestrationStatus) : Prop where
  skipped : ∀ step other, Relation.TransGen (DependsOn steps) step other →
    other.status ≠ .completed → step.status = .skipped
  completed : steps ≠ [] → (status = .completed ↔
    finalDecision ∉ blocking ∧ ∀ step ∈ steps, step.status = .completed)
  denied : (finalDecision = "DENY" ∨ ∃ step ∈ steps, step.status = .denied) → status = .denied

section Conclusion

variable {plan : AgentPlan} {done : List String}

theorem Live.stored_id (alive : Live plan done progress) {stepId : String} :
    stepId ∈ progress.steps.map AgentStep.stepId ↔ stepId ∈ plan.ids := by
  have ids : progress.steps.map AgentStep.stepId = plan.ids := by
    have same := congrArg (List.map Prod.fst) alive.shape
    simpa [AgentStep.shape, AgentPlan.ids, Function.comp_def] using same
  rw [ids]

theorem Live.mem_statuses (alive : Live plan done progress) (all : ∀ stepId, stepId ∈ done ↔ stepId ∈ plan.ids)
    {status : StepStatus} : status ∈ progress.results.values.map AgentResult.status ↔
      ∃ step ∈ progress.steps, step.status = status := by
  constructor
  · intro listed
    obtain ⟨result, isValue, rfl⟩ := List.mem_map.mp listed
    obtain ⟨⟨stepId, value⟩, isItem, rfl⟩ := List.mem_map.mp isValue
    have found := Dict.mem_items.mp isItem
    have isDone := (alive.known stepId).mp (by rw [found]; rfl)
    obtain ⟨step, inSteps, rfl⟩ := List.mem_map.mp (alive.stored_id.mpr ((all stepId).mp isDone))
    exact ⟨step, inSteps, alive.statuses step inSteps value found⟩
  · rintro ⟨step, inSteps, rfl⟩
    have isDone := (all step.stepId).mpr (alive.stored_id.mp (List.mem_map_of_mem inSteps))
    obtain ⟨result, found⟩ := Option.isSome_iff_exists.mp ((alive.known step.stepId).mpr isDone)
    rw [alive.statuses step inSteps result found]
    exact List.mem_map_of_mem (List.mem_map_of_mem (Dict.mem_items.mpr found))

theorem overallStatus_completed {finalDecision : String} {statuses : List StepStatus} :
    overallStatus finalDecision statuses = .completed ↔
      finalDecision ∉ blocking ∧ statuses ≠ [] ∧ ∀ status ∈ statuses, status = .completed := by
  have allowed : finalDecision ∉ blocking ↔
      finalDecision ≠ "DENY" ∧ finalDecision ≠ "REQUIRE_APPROVAL" := by simp [blocking]
  rw [allowed]
  unfold overallStatus
  split
  next stopped =>
    refine iff_of_false (by simp) ?_
    rintro ⟨⟨notDeny, -⟩, -, all⟩
    rcases stopped with
      isDeny | listed
    · exact notDeny isDeny
    · cases all _ listed
  next =>
    split
    next stopped =>
      refine iff_of_false (by simp) ?_
      rintro ⟨⟨-, notApproval⟩, -, all⟩
      rcases stopped with
        isApproval | listed
      · exact notApproval isApproval
      · cases all _ listed
    next notDenied notApproval =>
      rw [not_or] at notDenied notApproval
      split
      next all => exact iff_of_true rfl ⟨⟨notDenied.1, notApproval.1⟩, all⟩
      next incomplete =>
        refine iff_of_false ?_ fun all => incomplete all.2
        split <;> simp

theorem concluded_collect (alive : Live plan done progress)
    (all : ∀ stepId, stepId ∈ done ↔ stepId ∈ plan.ids) (finalDecision : String) :
    Concluded progress.steps finalDecision (collect context plan progress finalDecision).status := by
  have direct : ∀ step other, DependsOn progress.steps step other →
      other.status ≠ .completed → step.status = .skipped := by
    rintro step other ⟨inSteps, otherInSteps, depends⟩ unfinished
    have isDone := (all step.stepId).mpr (alive.stored_id.mp (List.mem_map_of_mem inSteps))
    obtain ⟨result, found⟩ := Option.isSome_iff_exists.mp ((alive.known step.stepId).mpr isDone)
    obtain ⟨source, isSource, rule⟩ :=
      alive.skipped step inSteps result found other.stepId depends
    rw [alive.statuses step inSteps result found]
    apply rule
    rwa [← alive.statuses other otherInSteps source isSource]
  refine ⟨?_, ?_, ?_⟩
  · intro step other chain
    -- on the length of the chain: a step that is skipped has not completed
    induction chain with
    | single depends => exact direct step _ depends
    | tail _ depends ih =>
        intro unfinished
        apply ih
        rw [direct _ _ depends unfinished]
        exact fun impossible => by cases impossible
  · intro some_step
    change overallStatus finalDecision _ = _ ↔ _
    rw [overallStatus_completed]
    have nonempty : progress.results.values.map AgentResult.status ≠ [] := by
      obtain ⟨step, inSteps⟩ := List.exists_mem_of_ne_nil _ some_step
      exact List.ne_nil_of_mem ((alive.mem_statuses all).mpr ⟨step, inSteps, rfl⟩)
    constructor
    · rintro ⟨cleared, -, each⟩
      exact ⟨cleared, fun step inSteps =>
        each _ ((alive.mem_statuses all).mpr ⟨step, inSteps, rfl⟩)⟩
    · rintro ⟨cleared, each⟩
      refine ⟨cleared, nonempty, ?_⟩
      intro status listed
      obtain ⟨step, inSteps, rfl⟩ := (alive.mem_statuses all).mp listed
      exact each step inSteps
  · intro stopped
    change overallStatus finalDecision _ = _
    rw [overallStatus, if_pos]
    rcases stopped with
      isDeny | ⟨step, inSteps, isDenied⟩
    · exact Or.inl isDeny
    · exact Or.inr ((alive.mem_statuses all).mpr ⟨step, inSteps, isDenied⟩)

end Conclusion

/-- The plan that is executed: the one given, or the planner's. -/
def Chosen (orchestrator : MultiAgentOrchestrator) (task : AgentTask) (given : Option AgentPlan)
    (plan : AgentPlan) : Prop :=
  given = some plan ∨ given = none ∧ orchestrator.planner task = .ok plan

/-- What holds of an execution. -/
structure ExecutionDiscipline (orchestrator : MultiAgentOrchestrator) (task : AgentTask)
    (context : ExecutionContext) (given : Option AgentPlan) (execution : Execution) : Prop where
  disciplined : Disciplined orchestrator task execution.events
  validated : ∀ step passed, .invoked step passed ∈ execution.events →
    ∃ plan ordered, Chosen orchestrator task given plan ∧
      validatePlan plan context = .ok ordered ∧ step ∈ plan.steps
  /-- The result is that of a closed first gate, or of the executed plan. -/
  returned : ∀ result, execution.outcome = .ok result →
    (∃ precheck ∈ blocking,
      orchestrator.policyGuard (gate task "precheck") task "before_plan" = .ok precheck ∧
      result.status = (if precheck = "DENY" then .denied else .requiresApproval)) ∨
    ∃ plan finalDecision, Chosen orchestrator task given plan ∧
      orchestrator.policyGuard (gate task "final") task "before_return" = .ok finalDecision ∧
      result.plan.steps.map AgentStep.shape = plan.steps.map AgentStep.shape ∧
      Concluded result.plan.steps finalDecision result.status

section Execution

variable {plan : AgentPlan} {given : Option AgentPlan}

theorem invoked_advance {called : AgentStep} {passed : Dict String AgentResult}
    (invoked : .invoked called passed ∈
      (orchestrator.advance task context late progress step).events) :
    .invoked called passed ∈ progress.events ∨ called = step := by
  cases live : progress.raised with
  | some raised =>
      rw [advance, live] at invoked
      exact Or.inl invoked
  | none =>
      have advanced : Advanced orchestrator task progress step
          (orchestrator.advance task context late progress step) := advanced_advance live
      have own : ∀ consulted, Consulted orchestrator task progress step consulted →
          .invoked called passed ∈ consulted → called = step := by
        intro consulted made listed
        cases made <;> simp at listed
        exact listed.1
      generalize orchestrator.advance task context late progress step = next at advanced invoked
      cases advanced with
      | failed consulted raised made =>
          rcases List.mem_append.mp invoked with
            earlier | now
          · exact Or.inl earlier
          · exact Or.inr (own consulted made now)
      | settled consulted result totalTools write made sameId sameDependencies status skips =>
          have now : .invoked called passed ∈ progress.events ∨
              .invoked called passed ∈ consulted := by simpa using invoked
          exact now.imp_right (own consulted made)

theorem invoked_mem {ordered : List AgentStep} {called : AgentStep}
    {passed : Dict String AgentResult}
    (invoked : .invoked called passed ∈
      (ordered.foldl (orchestrator.advance task context late) progress).events) :
    .invoked called passed ∈ progress.events ∨ called ∈ ordered := by
  induction ordered generalizing progress with
  | nil => exact Or.inl invoked
  | cons step rest ih =>
      rcases ih invoked with
        now | later
      · exact (invoked_advance now).imp_right fun same => List.mem_cons.mpr (Or.inl same)
      · exact Or.inr (List.mem_cons_of_mem _ later)

theorem executePlan_disciplined (chosen : Chosen orchestrator task given plan) {precheck : String}
    (answered : orchestrator.policyGuard (gate task "precheck") task "before_plan" = .ok precheck)
    (cleared : precheck ∉ blocking) :
    ExecutionDiscipline orchestrator task context given
      (orchestrator.executePlan task context late plan
        [.asked (gate task "precheck") "before_plan" precheck]) := by
  unfold executePlan
  cases accepted : validatePlan plan context with
  | error raised =>
      refine ⟨?_, by simp, by simp⟩
      exact disciplined_nil.concat fun _ _ same => by cases same
  | ok ordered =>
      have validated := validatePlan_validated accepted
      have upheld : Upheld orchestrator task plan (ordered.map AgentStep.stepId)
          (orchestrator.runSteps task context late plan ordered
            [.asked (gate task "precheck") "before_plan" precheck]) :=
        upheld_runSteps validated answered cleared
      have fromPlan : ∀ step passed, .invoked step passed ∈
          (orchestrator.runSteps task context late plan ordered
            [.asked (gate task "precheck") "before_plan" precheck]).events →
          ∃ plan ordered, Chosen orchestrator task given plan ∧
            validatePlan plan context = .ok ordered ∧ step ∈ plan.steps := by
        intro step passed invoked
        exact ⟨plan, ordered, chosen, accepted,
          (validated.mem step).mp ((invoked_mem invoked).resolve_left (by simp))⟩
      simp only
      cases live : (orchestrator.runSteps task context late plan ordered
          [.asked (gate task "precheck") "before_plan" precheck]).raised with
      | some raised => exact ⟨upheld.disciplined, fromPlan, by simp⟩
      | none =>
          simp only
          cases decided : orchestrator.policyGuard (gate task "final") task "before_return" with
          | error raised => exact ⟨upheld.disciplined, fromPlan, by simp⟩
          | ok finalDecision =>
              have alive := upheld.live live
              refine ⟨upheld.disciplined.concat fun _ _ same => (by cases same), ?_, ?_⟩
              · intro step passed invoked
                exact fromPlan step passed (by simpa using invoked)
              · intro result isResult
                cases isResult
                refine Or.inr ⟨plan, finalDecision, chosen, decided, alive.shape, ?_⟩
                apply concluded_collect alive
                intro stepId
                constructor
                · intro listed
                  obtain ⟨step, inOrdered, rfl⟩ := List.mem_map.mp listed
                  exact List.mem_map_of_mem ((validated.mem step).mp inOrdered)
                · intro listed
                  obtain ⟨step, inPlan, rfl⟩ := List.mem_map.mp listed
                  exact List.mem_map_of_mem ((validated.mem step).mpr inPlan)

theorem execute_disciplined (orchestrator : MultiAgentOrchestrator) (task : AgentTask)
    (context : ExecutionContext) (late : String → Bool) (given : Option AgentPlan) :
    ExecutionDiscipline orchestrator task context given
      (orchestrator.execute task context late given) := by
  unfold execute
  cases answered : orchestrator.policyGuard (gate task "precheck") task "before_plan" with
  | error raised => exact ⟨disciplined_nil, by simp, by simp⟩
  | ok precheck =>
      have alone : Disciplined orchestrator task
          [.asked (gate task "precheck") "before_plan" precheck] :=
        disciplined_nil.concat fun _ _ same => by cases same
      simp only
      split
      next closed =>
        refine ⟨alone, by simp, ?_⟩
        intro result isResult
        cases isResult
        exact Or.inl ⟨precheck, closed, answered, rfl⟩
      next cleared =>
        cases given with
        | some plan => exact executePlan_disciplined (Or.inl rfl) answered cleared
        | none =>
            simp only
            cases planned : orchestrator.planner task with
            | error raised => exact ⟨alone, by simp, by simp⟩
            | ok plan => exact executePlan_disciplined (Or.inr ⟨rfl, planned⟩) answered cleared

end Execution

end PaymentsPlatform.AgentApi.Plans
