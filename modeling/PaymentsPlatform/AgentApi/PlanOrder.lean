import PaymentsPlatform.AgentApi.Plans
import PaymentsPlatform.Library.DependencyOrder
import PaymentsPlatform.Library.Fallible

/-!
# The order of a validated plan

`validate_plan` lists every step of the plan once, after the steps that it
depends on.
-/

namespace PaymentsPlatform.AgentApi.Plans

open DependencyOrder PaymentsPlatform.Library.Fallible

/-- Steps listed after their dependencies. -/
abbrev ReadySteps (ordered : List AgentStep) : Prop :=
  Ready AgentStep.stepId AgentStep.dependencies [] ordered

/-- What holds between two visits: the ordered steps are those visited, each after its
dependencies. -/
structure Visits.Sound (byId : Dict String AgentStep) (visits : Visits) : Prop where
  ready : ReadySteps visits.ordered
  stored : ∀ step ∈ visits.ordered, byId.get? step.stepId = some step
  visited : ∀ stepId, stepId ∈ visits.visited ↔ stepId ∈ visits.ordered.map AgentStep.stepId

/-- What a visit leaves of the ones before it; a step being visited stays unvisited. -/
structure Visits.Extends (earlier visits : Visits) : Prop where
  visiting : visits.visiting = earlier.visiting
  visited : ∀ stepId ∈ earlier.visited, stepId ∈ visits.visited
  open_ : ∀ stepId ∈ earlier.visiting, stepId ∉ earlier.visited → stepId ∉ visits.visited

theorem Visits.Extends.refl (visits : Visits) : visits.Extends visits :=
  ⟨rfl, fun _ seen => seen, fun _ _ unseen => unseen⟩

theorem Visits.Extends.trans {first second third : Visits} (before : first.Extends second)
    (after : second.Extends third) : first.Extends third where
  visiting := after.visiting.trans before.visiting
  visited := fun stepId seen => after.visited stepId (before.visited stepId seen)
  open_ := fun stepId isOpen unseen =>
    after.open_ stepId (before.visiting ▸ isOpen) (before.open_ stepId isOpen unseen)

/-- What one visit achieves. -/
structure Visits.Visited (byId : Dict String AgentStep) (earlier : Visits) (stepIds : List String)
    (visits : Visits) : Prop extends earlier.Extends visits where
  sound : visits.Sound byId
  reached : ∀ stepId ∈ stepIds, stepId ∈ visits.visited

section Loop

variable {byId : Dict String AgentStep}

theorem visited_foldlM {budget : Nat}
    (each : ∀ (earlier : Visits) (stepId : String) (visits : Visits), earlier.Sound byId →
      visit byId budget stepId earlier = .ok visits → earlier.Visited byId [stepId] visits)
    {stepIds : List String} {earlier visits : Visits} (sound : earlier.Sound byId)
    (returned : stepIds.foldlM (fun visits stepId => visit byId budget stepId visits) earlier =
      .ok visits) :
    earlier.Visited byId stepIds visits := by
  induction stepIds generalizing earlier with
  | nil =>
      cases returned
      exact ⟨Visits.Extends.refl _, sound, by simp⟩
  | cons stepId rest ih =>
      rw [List.foldlM_cons] at returned
      obtain ⟨middle, visitedFirst, returned⟩ := bind_ok returned
      have first := each earlier stepId middle sound visitedFirst
      have later := ih first.sound returned
      refine ⟨first.toExtends.trans later.toExtends, later.sound, ?_⟩
      intro other listed
      rcases List.mem_cons.mp listed with
        rfl | inRest
      · exact later.visited _ (first.reached _ (List.mem_singleton.mpr rfl))
      · exact later.reached other inRest

theorem visit_visited (keyed : ∀ stepId step, byId.get? stepId = some step → step.stepId = stepId)
    (budget : Nat) (earlier : Visits) (stepId : String) (visits : Visits)
    (sound : earlier.Sound byId) (returned : visit byId budget stepId earlier = .ok visits) :
    earlier.Visited byId [stepId] visits := by
  induction budget generalizing earlier stepId visits with
  | zero => cases returned
  | succ budget ih =>
      unfold visit at returned
      split at returned
      next => cases returned
      next closed =>
        split at returned
        next seen =>
          cases returned
          exact ⟨Visits.Extends.refl _, sound, by simpa using seen⟩
        next unseen =>
          split at returned
          next => cases returned
          next step found =>
            obtain ⟨left, visitedAll, returned⟩ := bind_ok returned
            cases returned
            have named := keyed stepId step found
            have entered : Visits.Sound byId { earlier with visiting := stepId :: earlier.visiting } :=
              ⟨sound.ready, sound.stored, sound.visited⟩
            have all := visited_foldlM ih entered visitedAll
            -- the step itself has not been visited while its dependencies were
            have fresh : stepId ∉ left.visited :=
              all.open_ stepId List.mem_cons_self unseen
            refine ⟨⟨?_, ?_, ?_⟩, ⟨?_, ?_, ?_⟩, ?_⟩
            · rw [all.visiting, List.erase_cons_head]
            · intro other seen
              exact List.mem_cons_of_mem _ (all.visited other seen)
            · intro other isOpen otherUnseen
              rw [List.mem_cons, not_or]
              refine ⟨?_, all.open_ other (List.mem_cons_of_mem _ isOpen) otherUnseen⟩
              rintro rfl
              exact closed isOpen
            · apply ready_concat.mpr
              refine ⟨all.sound.ready, ?_, ?_⟩
              · rw [List.nil_append, ← all.sound.visited, named]
                exact fresh
              · intro dependency listed
                rw [List.nil_append, ← all.sound.visited]
                exact all.reached dependency listed
            · intro other listed
              rcases List.mem_append.mp listed with
                before | now
              · exact all.sound.stored other before
              · rw [List.mem_singleton.mp now, named]
                exact found
            · intro other
              simp [all.sound.visited, named, or_comm]
            · simp

end Loop

section Plan

variable {plan : AgentPlan} {context : ExecutionContext} {ordered : List AgentStep}

/-- What `validate_plan` returns: the steps of the plan, dependencies first. -/
structure Validated (plan : AgentPlan) (ordered : List AgentStep) : Prop where
  distinct : plan.ids.Nodup
  ready : ReadySteps ordered
  mem : ∀ step, step ∈ ordered ↔ step ∈ plan.steps

theorem byId_get? (distinct : plan.ids.Nodup) {stepId : String} {step : AgentStep} :
    plan.byId.get? stepId = some step ↔ step ∈ plan.steps ∧ step.stepId = stepId := by
  have keys : (plan.steps.map fun step => (step.stepId, step)).map Prod.fst = plan.ids := by
    simp [AgentPlan.ids, Function.comp_def]
  rw [AgentPlan.byId, Dict.get?_ofList_of_nodup (keys ▸ distinct), List.mem_map]
  constructor
  · rintro ⟨listed, inPlan, same⟩
    cases same
    exact ⟨inPlan, rfl⟩
  · rintro ⟨inPlan, rfl⟩
    exact ⟨step, inPlan, rfl⟩

theorem validatePlan_validated (accepted : validatePlan plan context = .ok ordered) :
    Validated plan ordered := by
  unfold validatePlan at accepted
  split at accepted
  next => cases accepted
  split at accepted
  next => cases accepted
  next unique =>
  have distinct : plan.ids.Nodup := not_not.mp unique
  obtain ⟨-, -, accepted⟩ := bind_ok accepted
  obtain ⟨visits, visitedAll, accepted⟩ := bind_ok accepted
  cases accepted
  have start : Visits.Sound plan.byId ⟨[], [], []⟩ := ⟨trivial, by simp, by simp⟩
  have keyed : ∀ stepId step, plan.byId.get? stepId = some step → step.stepId = stepId :=
    fun stepId step found => ((byId_get? distinct).mp found).2
  have all := visited_foldlM (visit_visited keyed context.maxDepth) start visitedAll
  refine ⟨distinct, all.sound.ready, ?_⟩
  intro step
  constructor
  · intro listed
    exact ((byId_get? distinct).mp (all.sound.stored step listed)).1
  · intro inPlan
    have reached := all.reached step.stepId (List.mem_map_of_mem inPlan)
    rw [all.sound.visited] at reached
    obtain ⟨other, listed, sameId⟩ := List.mem_map.mp reached
    have stored := all.sound.stored other listed
    rw [sameId, (byId_get? distinct).mpr ⟨inPlan, rfl⟩] at stored
    cases stored
    exact listed

end Plan

end PaymentsPlatform.AgentApi.Plans
