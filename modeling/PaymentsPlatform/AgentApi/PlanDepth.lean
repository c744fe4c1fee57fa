import Mathlib.Data.List.Chain
import Mathlib.Data.List.Perm.Subperm
import Mathlib.Logic.Relation
import PaymentsPlatform.AgentApi.PlanOrder

/-!
# The depth of a plan

`visit` counts the steps from the one it was started at, and stops at a step that it has seen.  So
the depth that it compares with `max_depth` is one of its own traversal: listed with dependencies
first, every acyclic plan has depth two.
-/

namespace PaymentsPlatform.AgentApi.Plans

open DependencyOrder PaymentsPlatform.Library.Fallible Relation

/-! ## Chains of dependencies -/

namespace AgentPlan

variable (plan : AgentPlan)

def DependsOn (stepId dependency : String) : Prop :=
  ∃ step ∈ plan.steps, step.stepId = stepId ∧ dependency ∈ step.dependencies

def Acyclic : Prop := ∀ stepId, ¬ TransGen plan.DependsOn stepId stepId

/-- Steps of the plan, each depending on the next one. -/
def IsDependencyChain (chain : List String) : Prop :=
  chain.IsChain plan.DependsOn ∧ ∀ stepId ∈ chain, stepId ∈ plan.ids

/-- No dependency chain has more steps. -/
def Shallow (depth : Nat) : Prop := ∀ chain, plan.IsDependencyChain chain → chain.length ≤ depth

/-- What a plan must be apart from its depth. -/
structure WellFormed (context : ExecutionContext) : Prop where
  steps : plan.steps.length ≤ context.maxSteps
  unique : plan.ids.Nodup
  agents : ∀ step ∈ plan.steps, step.agent ∈ knownAgents
  dependencies : ∀ step ∈ plan.steps, ∀ dependency ∈ step.dependencies, dependency ∈ plan.ids
  acyclic : plan.Acyclic

def Bounded (context : ExecutionContext) : Prop :=
  plan.WellFormed context ∧ plan.Shallow context.maxDepth

def Accepted (context : ExecutionContext) : Prop := ∃ ordered, validatePlan plan context = .ok ordered

/-- Every dependency of a step stands before it. -/
def DependenciesFirst (ordered : List AgentStep) : Prop :=
  ∀ before step after, ordered = before ++ step :: after →
    ∀ dependency ∈ step.dependencies, dependency ∈ before.map AgentStep.stepId

/-- The verdict is the one of the graph, in whatever order the steps are listed. -/
structure Decided (context : ExecutionContext) : Prop where
  verdict : plan.Accepted context ↔ plan.Bounded context
  listing : ∀ listed : AgentPlan, listed.steps.Perm plan.steps →
    (listed.Accepted context ↔ plan.Accepted context)
  order : ∀ ordered, validatePlan plan context = .ok ordered →
    ordered.Perm plan.steps ∧ DependenciesFirst ordered

variable {plan} {listed : AgentPlan} {context : ExecutionContext}

theorem perm_ids (perm : listed.steps.Perm plan.steps) : listed.ids.Perm plan.ids := perm.map _

theorem dependsOn_iff (perm : listed.steps.Perm plan.steps) {stepId dependency : String} :
    listed.DependsOn stepId dependency ↔ plan.DependsOn stepId dependency := by
  simp only [DependsOn, perm.mem_iff]

theorem dependsOn_eq (perm : listed.steps.Perm plan.steps) : listed.DependsOn = plan.DependsOn :=
  funext fun _ => funext fun _ => propext (dependsOn_iff perm)

theorem WellFormed.of_perm (wellFormed : plan.WellFormed context)
    (perm : listed.steps.Perm plan.steps) : listed.WellFormed context where
  steps := perm.length_eq ▸ wellFormed.steps
  unique := (perm_ids perm).nodup_iff.mpr wellFormed.unique
  agents step member := wellFormed.agents step (perm.mem_iff.mp member)
  dependencies step member dependency isDependency := (perm_ids perm).mem_iff.mpr
    (wellFormed.dependencies step (perm.mem_iff.mp member) dependency isDependency)
  acyclic := by
    rw [Acyclic, dependsOn_eq perm]
    exact wellFormed.acyclic

theorem Shallow.of_perm {depth : Nat} (shallow : plan.Shallow depth)
    (perm : listed.steps.Perm plan.steps) : listed.Shallow depth := by
  intro chain ⟨isChain, ofPlan⟩
  rw [dependsOn_eq perm] at isChain
  exact shallow chain ⟨isChain, fun stepId member =>
    (perm_ids perm).mem_iff.mp (ofPlan stepId member)⟩

theorem IsDependencyChain.nodup {chain : List String} (isChain : plan.IsDependencyChain chain)
    (acyclic : plan.Acyclic) : chain.Nodup := by
  have reaches : chain.Pairwise (TransGen plan.DependsOn) :=
    (isChain.1.imp fun _ _ => TransGen.single).pairwise
  refine List.Pairwise.imp ?_ reaches
  rintro first _ path rfl
  exact acyclic first path

theorem shallow_of_acyclic (acyclic : plan.Acyclic) : plan.Shallow plan.steps.length := by
  intro chain isChain
  have le := ((isChain.nodup acyclic).subperm isChain.2).length_le
  rwa [ids, List.length_map] at le

end AgentPlan

/-! ## Visits that succeed -/

section Visits

variable {plan : AgentPlan} {context : ExecutionContext}

theorem foldlM_visit_ok {byId : Dict String AgentStep} {budget : Nat} {stepIds : List String}
    {visiting : List String}
    (each : ∀ stepId ∈ stepIds, ∀ visits : Visits, visits.visiting = visiting →
      ∃ left, visit byId budget stepId visits = .ok left ∧ left.visiting = visiting)
    {visits : Visits} (same : visits.visiting = visiting) :
    ∃ left, stepIds.foldlM (fun visits stepId => visit byId budget stepId visits) visits =
      .ok left ∧ left.visiting = visiting := by
  induction stepIds generalizing visits with
  | nil => exact ⟨visits, rfl, same⟩
  | cons stepId rest ih =>
      obtain ⟨middle, visited, kept⟩ := each stepId List.mem_cons_self visits same
      rw [List.foldlM_cons, visited]
      exact ih (fun other listed => each other (List.mem_cons_of_mem _ listed)) kept

/-- A visit succeeds if the budget is that of the chains from the step, and the open steps are
above it. -/
theorem visit_ok (wellFormed : plan.WellFormed context) (budget : Nat) {stepId : String}
    (listed : stepId ∈ plan.ids)
    (enough : ∀ chain, plan.IsDependencyChain (stepId :: chain) → chain.length + 1 ≤ budget)
    {visits : Visits} (above : ∀ other ∈ visits.visiting, TransGen plan.DependsOn other stepId) :
    ∃ left, visit plan.byId budget stepId visits = .ok left ∧ left.visiting = visits.visiting := by
  induction budget generalizing stepId visits with
  | zero =>
      have few := enough [] ⟨List.isChain_singleton _, by simpa using listed⟩
      omega
  | succ budget ih =>
      unfold visit
      split
      next isOpen => exact absurd (above stepId isOpen) (wellFormed.acyclic stepId)
      next =>
        split
        next => exact ⟨visits, rfl, rfl⟩
        next =>
          obtain ⟨step, inPlan, rfl⟩ := List.mem_map.mp listed
          rw [(byId_get? wellFormed.unique).mpr ⟨inPlan, rfl⟩]
          have each : ∀ dependency ∈ step.dependencies, ∀ entered : Visits,
              entered.visiting = step.stepId :: visits.visiting →
                ∃ left, visit plan.byId budget dependency entered = .ok left ∧
                  left.visiting = step.stepId :: visits.visiting := by
            intro dependency isDependency entered same
            have edge : plan.DependsOn step.stepId dependency := ⟨step, inPlan, rfl, isDependency⟩
            rw [← same]
            refine ih
              (wellFormed.dependencies step inPlan dependency isDependency) ?_ ?_
            · rintro chain ⟨isChain, ofPlan⟩
              have longer := enough (dependency :: chain)
                ⟨List.isChain_cons_cons.mpr ⟨edge, isChain⟩, List.forall_mem_cons.mpr
                  ⟨listed, ofPlan⟩⟩
              rw [List.length_cons] at longer
              omega
            · intro other isOpen
              rw [same] at isOpen
              rcases List.mem_cons.mp isOpen with rfl | earlier
              · exact .single edge
              · exact (above other earlier).tail edge
          let entered : Visits := { visits with visiting := step.stepId :: visits.visiting }
          obtain ⟨left, visited, kept⟩ := foldlM_visit_ok each (rfl : entered.visiting = _)
          refine ⟨⟨left.ordered ++ [step], left.visiting.erase step.stepId,
            step.stepId :: left.visited⟩, ?_, ?_⟩
          · dsimp only
            rw [visited]
            rfl
          · rw [kept, List.erase_cons_head]

theorem visit_ready {byId : Dict String AgentStep} {budget : Nat} (deep : 2 ≤ budget)
    {step : AgentStep} (found : byId.get? step.stepId = some step) {visits : Visits}
    (closed : visits.visiting = []) (fresh : step.stepId ∉ visits.visited)
    (ready : ∀ dependency ∈ step.dependencies, dependency ∈ visits.visited) :
    visit byId budget step.stepId visits =
      .ok ⟨visits.ordered ++ [step], [], step.stepId :: visits.visited⟩ := by
  obtain ⟨budget, rfl⟩ := Nat.exists_eq_add_of_le' deep
  have seen : ∀ dependencies : List String, (∀ dependency ∈ dependencies,
      dependency ∈ visits.visited) → dependencies.foldlM (fun visits dependency =>
        visit byId (budget + 1) dependency visits) { visits with visiting := [step.stepId] } =
        .ok { visits with visiting := [step.stepId] } := by
    intro dependencies visited
    induction dependencies with
    | nil => rfl
    | cons dependency rest ih =>
        have inVisited := visited dependency List.mem_cons_self
        have different : dependency ≠ step.stepId := fun same => fresh (same ▸ inVisited)
        have returned : visit byId (budget + 1) dependency
            { visits with visiting := [step.stepId] } =
            .ok { visits with visiting := [step.stepId] } := by
          rw [visit, if_neg (by simpa using different), if_pos inVisited]
        rw [List.foldlM_cons, returned]
        exact ih fun other listed => visited other (List.mem_cons_of_mem _ listed)
  rw [visit, if_neg (by simp [closed]), if_neg fresh, found]
  dsimp only
  rw [closed, seen step.dependencies ready]
  change Except.ok _ = _
  rw [List.erase_cons_head]

theorem foldlM_visit_ready {byId : Dict String AgentStep} {budget : Nat} (deep : 2 ≤ budget)
    {nodes : List AgentStep} (found : ∀ step ∈ nodes, byId.get? step.stepId = some step)
    {done : List String} (ready : Ready AgentStep.stepId AgentStep.dependencies done nodes)
    {visits : Visits} (closed : visits.visiting = [])
    (visited : ∀ stepId, stepId ∈ visits.visited ↔ stepId ∈ done) :
    ∃ left, (nodes.map AgentStep.stepId).foldlM
      (fun visits stepId => visit byId budget stepId visits) visits = .ok left := by
  induction nodes generalizing done visits with
  | nil => exact ⟨visits, rfl⟩
  | cons step rest ih =>
      obtain ⟨fresh, dependencies, later⟩ := ready
      rw [List.map_cons, List.foldlM_cons, visit_ready deep (found step List.mem_cons_self) closed
        (fun seen => fresh ((visited _).mp seen))
        (fun dependency isDependency => (visited _).mpr (dependencies dependency isDependency))]
      refine ih (fun other listed => found other (List.mem_cons_of_mem _ listed))
        later rfl fun stepId => ?_
      rw [List.mem_cons, List.mem_append, List.mem_singleton, visited, or_comm]

end Visits

/-! ## Accepted plans -/

namespace AgentPlan

variable {plan : AgentPlan} {context : ExecutionContext}

theorem validateStep_ok {byId : Dict String AgentStep} {step : AgentStep} :
    validateStep byId step = .ok () ↔ step.agent ∈ knownAgents ∧
      ∀ dependency ∈ step.dependencies, (byId.get? dependency).isSome := by
  unfold validateStep
  split
  next unknown => simp [unknown]
  next known =>
    split
    next missing =>
      obtain ⟨dependency, isDependency, none⟩ := List.any_eq_true.mp missing
      simp only [reduceCtorEq, false_iff, not_and, not_forall]
      intro _
      exact ⟨dependency, isDependency, by simpa using none⟩
    next present =>
      simp only [List.any_eq_true, not_exists, not_and, Bool.not_eq_true,
        Option.isNone_eq_false_iff] at present
      exact ⟨fun _ => ⟨not_not.mp known, present⟩, fun _ => rfl⟩

theorem forM_validateStep_ok {byId : Dict String AgentStep} {steps : List AgentStep} :
    steps.forM (validateStep byId) = .ok () ↔ ∀ step ∈ steps, validateStep byId step = .ok () := by
  induction steps with
  | nil => exact ⟨fun _ step member => absurd member List.not_mem_nil, fun _ => rfl⟩
  | cons step rest ih =>
      rw [List.forall_mem_cons, ← ih]
      change (do validateStep byId step; rest.forM (validateStep byId)) = .ok () ↔ _
      cases checked : validateStep byId step with
      | error raised => exact ⟨nofun, nofun⟩
      | ok _ => exact ⟨fun later => ⟨rfl, later⟩, And.right⟩

theorem isSome_byId (unique : plan.ids.Nodup) {stepId : String} :
    (plan.byId.get? stepId).isSome ↔ stepId ∈ plan.ids := by
  simp only [Option.isSome_iff_exists, byId_get? unique, ids, List.mem_map]

theorem accepted_iff : plan.Accepted context ↔
    plan.steps.length ≤ context.maxSteps ∧ plan.ids.Nodup ∧
      (∀ step ∈ plan.steps, step.agent ∈ knownAgents) ∧
      (∀ step ∈ plan.steps, ∀ dependency ∈ step.dependencies, dependency ∈ plan.ids) ∧
      ∃ visits, plan.ids.foldlM
        (fun visits stepId => visit plan.byId context.maxDepth stepId visits) ⟨[], [], []⟩ =
          .ok visits := by
  have checks (unique : plan.ids.Nodup) :
      plan.steps.forM (validateStep plan.byId) = .ok () ↔
        (∀ step ∈ plan.steps, step.agent ∈ knownAgents) ∧
        ∀ step ∈ plan.steps, ∀ dependency ∈ step.dependencies, dependency ∈ plan.ids := by
    simp only [forM_validateStep_ok, validateStep_ok, isSome_byId unique, ← forall₂_and]
  constructor
  · rintro ⟨ordered, accepted⟩
    unfold validatePlan at accepted
    split at accepted
    next => cases accepted
    next few =>
      split at accepted
      next => cases accepted
      next unique =>
        obtain ⟨⟨⟩, checked, accepted⟩ := bind_ok accepted
        obtain ⟨visits, visitedAll, -⟩ := bind_ok accepted
        obtain ⟨agents, dependencies⟩ := (checks (not_not.mp unique)).mp checked
        exact ⟨not_lt.mp few, not_not.mp unique, agents, dependencies, visits, visitedAll⟩
  · rintro ⟨few, unique, agents, dependencies, visits, visitedAll⟩
    refine ⟨visits.ordered, ?_⟩
    rw [validatePlan, if_neg (not_lt.mpr few), if_neg (not_not.mpr unique),
      (checks unique).mpr ⟨agents, dependencies⟩]
    change (plan.ids.foldlM (fun visits stepId => visit plan.byId context.maxDepth stepId visits)
      ⟨[], [], []⟩ >>= fun visits => pure visits.ordered) = _
    rw [visitedAll]
    rfl

theorem nodup_stepIds {done : List String} {ordered : List AgentStep}
    (ready : Ready AgentStep.stepId AgentStep.dependencies done ordered) :
    (ordered.map AgentStep.stepId).Nodup := by
  induction ordered generalizing done with
  | nil => exact List.nodup_nil
  | cons step rest ih =>
      refine List.nodup_cons.mpr ⟨fun repeated => ?_, ih ready.2.2⟩
      obtain ⟨other, listed, same⟩ := List.mem_map.mp repeated
      exact ready.2.2.fresh listed (same ▸ List.mem_append_right _ (List.mem_singleton.mpr rfl))

theorem perm_of_validated {ordered : List AgentStep} (validated : Validated plan ordered) :
    ordered.Perm plan.steps :=
  (List.perm_ext_iff_of_nodup (nodup_stepIds validated.ready).of_map
    validated.distinct.of_map).mpr validated.mem

theorem dependenciesFirst_of_ready {ordered : List AgentStep} (ready : ReadySteps ordered) :
    DependenciesFirst ordered := by
  rintro before step after rfl
  have later := (ready_append.mp ready).2
  exact later.2.1

theorem acyclic_of_validated {ordered : List AgentStep} (validated : Validated plan ordered) :
    plan.Acyclic := by
  have earlier (stepId dependency : String) (edge : plan.DependsOn stepId dependency) :
      (ordered.map AgentStep.stepId).idxOf dependency <
        (ordered.map AgentStep.stepId).idxOf stepId := by
    obtain ⟨step, inPlan, rfl, isDependency⟩ := edge
    obtain ⟨before, after, rfl⟩ := List.append_of_mem ((validated.mem step).mpr inPlan)
    have first := dependenciesFirst_of_ready validated.ready before step after rfl dependency
      isDependency
    have fresh : step.stepId ∉ before.map AgentStep.stepId := (ready_append.mp validated.ready).2.1
    rw [List.map_append, List.idxOf_append_of_mem first, List.idxOf_append_of_notMem fresh]
    exact (List.idxOf_lt_length_of_mem first).trans_le (Nat.le_add_right _ _)
  intro stepId cycle
  have less : ∀ {first second}, TransGen plan.DependsOn first second →
      (ordered.map AgentStep.stepId).idxOf second <
        (ordered.map AgentStep.stepId).idxOf first := by
    intro first second path
    induction path with
    | single edge => exact earlier _ _ edge
    | tail _ edge ih => exact (earlier _ _ edge).trans ih
  exact lt_irrefl _ (less cycle)

theorem WellFormed.of_accepted (accepted : plan.Accepted context) : plan.WellFormed context := by
  obtain ⟨few, unique, agents, dependencies, -⟩ := accepted_iff.mp accepted
  obtain ⟨ordered, validated⟩ := accepted
  exact ⟨few, unique, agents, dependencies, acyclic_of_validated (validatePlan_validated validated)⟩

theorem Bounded.accepted (bounded : plan.Bounded context) : plan.Accepted context := by
  obtain ⟨wellFormed, shallow⟩ := bounded
  have each : ∀ stepId ∈ plan.ids, ∀ visits : Visits, visits.visiting = [] →
      ∃ left, visit plan.byId context.maxDepth stepId visits = .ok left ∧ left.visiting = [] := by
    intro stepId listed visits closed
    rw [← closed]
    exact visit_ok wellFormed context.maxDepth listed (fun chain => shallow (stepId :: chain))
      (by simp [closed])
  obtain ⟨visits, visitedAll, -⟩ := foldlM_visit_ok each (rfl : (⟨[], [], []⟩ : Visits).visiting = [])
  exact accepted_iff.mpr ⟨wellFormed.steps, wellFormed.unique, wellFormed.agents,
    wellFormed.dependencies, visits, visitedAll⟩

theorem WellFormed.exists_ready (wellFormed : plan.WellFormed context) :
    ∃ ordered, ordered.Perm plan.steps ∧ ReadySteps ordered := by
  let generous : ExecutionContext := { context with maxDepth := plan.steps.length }
  have bounded : plan.Bounded generous := by
    refine ⟨⟨wellFormed.steps, wellFormed.unique, wellFormed.agents, wellFormed.dependencies,
      wellFormed.acyclic⟩, shallow_of_acyclic wellFormed.acyclic⟩
  obtain ⟨ordered, validated⟩ := bounded.accepted
  have isValidated := validatePlan_validated validated
  exact ⟨ordered, perm_of_validated isValidated, isValidated.ready⟩

theorem WellFormed.accepted_of_ready (wellFormed : plan.WellFormed context)
    (deep : 2 ≤ context.maxDepth) (ready : ReadySteps plan.steps) : plan.Accepted context := by
  obtain ⟨visits, visitedAll⟩ := foldlM_visit_ready deep
    (fun step member => (byId_get? wellFormed.unique).mpr ⟨member, rfl⟩) ready
    (rfl : (⟨[], [], []⟩ : Visits).visiting = []) (fun _ => Iff.rfl)
  exact accepted_iff.mpr ⟨wellFormed.steps, wellFormed.unique, wellFormed.agents,
    wellFormed.dependencies, visits, visitedAll⟩

/-! ## Depth one -/

theorem dependencies_eq_nil {byId : Dict String AgentStep} {stepIds : List String}
    {visits left : Visits} (known : ∀ stepId ∈ visits.visited, ∀ step,
      byId.get? stepId = some step → step.dependencies = [])
    (returned : stepIds.foldlM (fun visits stepId => visit byId 1 stepId visits) visits =
      .ok left) :
    ∀ stepId ∈ stepIds, ∀ step, byId.get? stepId = some step → step.dependencies = [] := by
  induction stepIds generalizing visits with
  | nil => exact fun stepId listed => absurd listed List.not_mem_nil
  | cons first rest ih =>
      rw [List.foldlM_cons] at returned
      obtain ⟨middle, visited, returned⟩ := bind_ok returned
      unfold visit at visited
      split at visited
      next => cases visited
      next =>
        split at visited
        next seen =>
          cases visited
          exact List.forall_mem_cons.mpr ⟨known first seen, ih known returned⟩
        next =>
          split at visited
          next => cases visited
          next step found =>
            obtain ⟨entered, visitedAll, visited⟩ := bind_ok visited
            cases visited
            have none : step.dependencies = [] ∧ entered.visited = visits.visited := by
              cases dependencies : step.dependencies with
              | nil =>
                  rw [dependencies] at visitedAll
                  cases visitedAll
                  exact ⟨rfl, rfl⟩
              | cons dependency others =>
                  rw [dependencies, List.foldlM_cons] at visitedAll
                  cases visitedAll
            have ofFirst : ∀ other, byId.get? first = some other → other.dependencies = [] := by
              intro other same
              cases found.symm.trans same
              exact none.1
            refine List.forall_mem_cons.mpr ⟨ofFirst, ih ?_ returned⟩
            rw [none.2]
            exact List.forall_mem_cons.mpr ⟨ofFirst, known⟩

theorem shallow_of_accepted (accepted : plan.Accepted context) (flat : context.maxDepth ≤ 1) :
    plan.Shallow context.maxDepth := by
  obtain ⟨-, unique, -, -, visits, visitedAll⟩ := accepted_iff.mp accepted
  rintro chain ⟨isChain, ofPlan⟩
  rcases Nat.le_one_iff_eq_zero_or_eq_one.mp flat with none | one
  · rw [none] at visitedAll
    cases listed : plan.ids with
    | nil =>
        obtain rfl : chain = [] := List.eq_nil_iff_forall_not_mem.mpr fun stepId member =>
          List.not_mem_nil (listed ▸ ofPlan stepId member)
        exact Nat.zero_le _
    | cons stepId rest =>
        rw [listed, List.foldlM_cons] at visitedAll
        cases visitedAll
  · rw [one] at visitedAll ⊢
    have independent := dependencies_eq_nil (fun stepId seen => absurd seen List.not_mem_nil)
      visitedAll
    match chain, isChain, ofPlan with
    | [], _, _ => exact Nat.zero_le _
    | [stepId], _, _ => exact le_rfl
    | first :: second :: rest, isChain, ofPlan =>
        obtain ⟨step, inPlan, rfl, isDependency⟩ := (List.isChain_cons_cons.mp isChain).1
        rw [independent step.stepId (ofPlan _ List.mem_cons_self) step
          ((byId_get? unique).mpr ⟨inPlan, rfl⟩)] at isDependency
        exact absurd isDependency List.not_mem_nil

/-! ## When validation decides -/

/-- Validation decides a plan as the graph does, unless the plan is well formed, `max_depth` allows
two steps or more and a chain is longer than `max_depth`. -/
theorem decided_iff (plan : AgentPlan) (context : ExecutionContext) : plan.Decided context ↔
    ¬ (plan.WellFormed context ∧ 2 ≤ context.maxDepth ∧ ¬ plan.Shallow context.maxDepth) := by
  constructor
  · rintro decided ⟨wellFormed, deep, tooDeep⟩
    obtain ⟨ordered, perm, ready⟩ := wellFormed.exists_ready
    let listed : AgentPlan := { plan with steps := ordered }
    have accepted : listed.Accepted context :=
      (wellFormed.of_perm (perm : listed.steps.Perm plan.steps)).accepted_of_ready deep ready
    exact tooDeep (decided.verdict.mp ((decided.listing listed perm).mp accepted)).2
  · intro condition
    have shallow {listed : AgentPlan} (perm : listed.steps.Perm plan.steps)
        (accepted : listed.Accepted context) : listed.Bounded context := by
      have wellFormed := WellFormed.of_accepted accepted
      refine ⟨wellFormed, ?_⟩
      by_cases deep : 2 ≤ context.maxDepth
      · by_contra tooDeep
        exact condition ⟨wellFormed.of_perm perm.symm, deep,
          fun shallow => tooDeep (shallow.of_perm perm)⟩
      · exact shallow_of_accepted accepted (by omega)
    refine ⟨⟨shallow (.refl _), Bounded.accepted⟩, fun listed perm => ⟨?_, ?_⟩, fun ordered
      validated => ?_⟩
    · intro accepted
      obtain ⟨wellFormed, isShallow⟩ := shallow perm accepted
      exact Bounded.accepted ⟨wellFormed.of_perm perm.symm, isShallow.of_perm perm.symm⟩
    · intro accepted
      obtain ⟨wellFormed, isShallow⟩ := shallow (.refl _) accepted
      exact Bounded.accepted ⟨wellFormed.of_perm perm, isShallow.of_perm perm⟩
    · have isValidated := validatePlan_validated validated
      exact ⟨perm_of_validated isValidated, dependenciesFirst_of_ready isValidated.ready⟩

/-- A chain of three steps, listed from its last one. -/
def threeSteps : AgentPlan where
  planId := "plan-three-steps"
  steps := [
    { stepId := "step-1", agent := "data_discovery", objective := "dashboard" },
    { stepId := "step-2", agent := "analytics", objective := "dashboard",
      dependencies := ["step-1"] },
    { stepId := "step-3", agent := "dashboard", objective := "dashboard",
      dependencies := ["step-2"] }]

/-- At most two steps may depend on each other. -/
def twoDeep : ExecutionContext where
  requestId := "request"
  identity := ⟨"analyst", ["analyst"], [], none, none, none⟩
  maxSteps := 8
  maxToolCalls := 20
  maxDepth := 2

/-- The plan is accepted in this order, and not in the opposite one. -/
theorem threeSteps_not_decided :
    ¬ ∀ (plan : AgentPlan) (context : ExecutionContext), plan.Decided context := by
  intro decided
  have accepted : threeSteps.Accepted twoDeep := ⟨_, rfl⟩
  have bounded := ((decided threeSteps twoDeep).verdict.mp accepted).2
  have few := bounded ["step-3", "step-2", "step-1"] ⟨by
    refine List.isChain_cons_cons.mpr ⟨⟨_, List.mem_cons_of_mem _ (List.mem_cons_of_mem _
      List.mem_cons_self), rfl, List.mem_cons_self⟩, List.isChain_cons_cons.mpr
        ⟨⟨_, List.mem_cons_of_mem _ List.mem_cons_self, rfl, List.mem_cons_self⟩,
          List.isChain_singleton _⟩⟩, by decide⟩
  exact absurd few (by decide)

end AgentPlan

end PaymentsPlatform.AgentApi.Plans
