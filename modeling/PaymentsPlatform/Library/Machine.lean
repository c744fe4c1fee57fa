import Mathlib.Data.List.Basic

/-!
# Runs of a deterministic machine

A run is a list of actions taken in order.  The rules here carry a fact about
one step to every run: an invariant, an invariant of the runs whose every
action is permitted where it is taken, an invariant of an abstract machine that
simulates the steps, the log of what the steps report, and the runs in which a
second machine cannot be told from the first.
-/

namespace Machine

universe u v w

variable {State : Type u} {Action : Type v} {Report : Type w}
  (step : State → Action → State)

/-- The state after the actions, in order. -/
def run (state : State) (actions : List Action) : State := actions.foldl step state

@[simp]
theorem run_nil (state : State) : run step state [] = state := rfl

@[simp]
theorem run_cons (state : State) (action : Action) (rest : List Action) :
    run step state (action :: rest) = run step (step state action) rest := rfl

@[simp]
theorem run_append (state : State) (first second : List Action) :
    run step state (first ++ second) = run step (run step state first) second :=
  List.foldl_append

theorem run_invariant_of_mem {Invariant : State → Prop} {actions : List Action}
    (kept : ∀ state, ∀ action ∈ actions, Invariant state → Invariant (step state action))
    {state : State} (holds : Invariant state) : Invariant (run step state actions) := by
  induction actions generalizing state with
  | nil => exact holds
  | cons action rest ih =>
      apply ih
      · intro state action listed
        exact kept state action (List.mem_cons_of_mem _ listed)
      · exact kept state action List.mem_cons_self holds

theorem run_invariant {Invariant : State → Prop}
    (kept : ∀ state action, Invariant state → Invariant (step state action))
    {state : State} (holds : Invariant state) (actions : List Action) :
    Invariant (run step state actions) :=
  run_invariant_of_mem step (fun state action _ => kept state action) holds

section Along

/-- Every action is permitted in the state it is taken in. -/
def Along (permitted : State → Action → Prop) : State → List Action → Prop
  | _, [] => True
  | state, action :: rest =>
      permitted state action ∧ Along permitted (step state action) rest

variable {permitted : State → Action → Prop}

@[simp]
theorem along_nil (state : State) : Along step permitted state [] := trivial

@[simp]
theorem along_cons {state : State} {action : Action} {rest : List Action} :
    Along step permitted state (action :: rest) ↔
      permitted state action ∧ Along step permitted (step state action) rest := Iff.rfl

instance decidableAlong [∀ state action, Decidable (permitted state action)] :
    ∀ state actions, Decidable (Along step permitted state actions)
  | _, [] => .isTrue trivial
  | state, action :: rest =>
      have := decidableAlong (step state action) rest
      inferInstanceAs (Decidable (permitted state action ∧ Along step permitted _ rest))

@[simp]
theorem along_append {state : State} {first second : List Action} :
    Along step permitted state (first ++ second) ↔
      Along step permitted state first ∧
        Along step permitted (run step state first) second := by
  induction first generalizing state with
  | nil => simp
  | cons action rest ih => simp [ih, and_assoc]

theorem along_of_prefixes {state : State} {actions : List Action}
    (every : ∀ before action rest, actions = before ++ action :: rest →
      permitted (run step state before) action) :
    Along step permitted state actions := by
  induction actions generalizing state with
  | nil => trivial
  | cons action rest ih =>
      refine ⟨every [] action rest rfl, ih fun before next later split => ?_⟩
      exact every (action :: before) next later (by rw [split, List.cons_append])

theorem run_invariant_along {Invariant : State → Prop}
    (kept : ∀ state action, permitted state action → Invariant state →
      Invariant (step state action))
    {state : State} (holds : Invariant state) {actions : List Action}
    (along : Along step permitted state actions) :
    Invariant (run step state actions) := by
  induction actions generalizing state with
  | nil => exact holds
  | cons action rest ih =>
      exact ih (kept state action along.1 holds) along.2

/-- Where a step leads to a good state exactly if it is permitted, the states of a run are all
good exactly if its steps are all permitted. -/
theorem good_iff_along {Invariant Good : State → Prop}
    (kept : ∀ state action, Invariant state → Invariant (step state action))
    (exact : ∀ state action, Invariant state → Good state →
      (Good (step state action) ↔ permitted state action))
    {state : State} (holds : Invariant state) (good : Good state) (actions : List Action) :
    (∀ before rest, actions = before ++ rest → Good (run step state before)) ↔
      Along step permitted state actions := by
  induction actions generalizing state with
  | nil => simpa using good
  | cons action rest ih =>
      rw [along_cons, ← exact state action holds good]
      constructor
      · intro every
        have next : Good (step state action) := every [action] rest rfl
        refine ⟨next, (ih (kept state action holds) next).mp ?_⟩
        intro before later split
        exact every (action :: before) later (by rw [split, List.cons_append])
      · rintro ⟨next, along⟩ before later split
        cases before with
        | nil => exact good
        | cons first before =>
            obtain ⟨rfl, rfl⟩ := List.cons.inj split
            exact (ih (kept state action holds) next).mpr along before later rfl

end Along

section Simulation

variable {Abstract : Type u} {Move : Type v} (apply : Abstract → Move → Abstract)
  (abstraction : State → Abstract) (permitted : Action → Abstract → Move → Prop)

/-- Every step is, seen through the abstraction, a list of permitted moves. -/
def Simulates : Prop :=
  ∀ state action, ∃ moves, Along apply (permitted action) (abstraction state) moves ∧
    abstraction (step state action) = run apply (abstraction state) moves

variable {step apply abstraction permitted}

theorem Simulates.step_invariant (simulates : Simulates step apply abstraction permitted)
    {Invariant : Abstract → Prop} {state : State} {action : Action}
    (kept : ∀ abstract move, permitted action abstract move → Invariant abstract →
      Invariant (apply abstract move))
    (holds : Invariant (abstraction state)) :
    Invariant (abstraction (step state action)) := by
  obtain ⟨moves, along, same⟩ := simulates state action
  rw [same]
  exact run_invariant_along apply kept holds along

theorem Simulates.run_invariant (simulates : Simulates step apply abstraction permitted)
    {Invariant : Abstract → Prop}
    (kept : ∀ action abstract move, permitted action abstract move → Invariant abstract →
      Invariant (apply abstract move))
    {state : State} (holds : Invariant (abstraction state)) (actions : List Action) :
    Invariant (abstraction (run step state actions)) := by
  induction actions generalizing state with
  | nil => exact holds
  | cons action rest ih =>
      exact ih (simulates.step_invariant (kept action) holds)

end Simulation

section Twins

variable {Observation : Type w} (twin : State → Action → State)
  (observed twinObserved : State → Action → Observation)

/-- Each machine shows the same at each action of the run. -/
def Alike (state twinState : State) (actions : List Action) : Prop :=
  ∀ before action rest, actions = before ++ action :: rest →
    observed (run step state before) action = twinObserved (run twin twinState before) action

/-- Where the permitted actions are those that both show alike, and these lead both to one
state, runs are alike exactly as long as their actions are permitted. -/
theorem alike_iff_along {permitted : State → Action → Prop}
    (shown : ∀ state action, observed state action = twinObserved state action ↔
      permitted state action)
    (together : ∀ state action, permitted state action → twin state action = step state action)
    (state : State) (actions : List Action) :
    Alike step twin observed twinObserved state state actions ↔
      Along step permitted state actions := by
  induction actions generalizing state with
  | nil => simp [Alike]
  | cons action rest ih =>
      rw [along_cons, ← ih]
      constructor
      · intro alike
        have allowed := (shown state action).mp (alike [] action rest rfl)
        refine ⟨allowed, fun before next later split => ?_⟩
        have shownLater := alike (action :: before) next later (by rw [split, List.cons_append])
        rwa [run_cons, run_cons, together state action allowed] at shownLater
      · rintro ⟨allowed, alike⟩ before next later split
        cases before with
        | nil =>
            cases split
            exact (shown state action).mpr allowed
        | cons first before =>
            rw [List.cons_append, List.cons.injEq] at split
            obtain ⟨rfl, split⟩ := split
            rw [run_cons, run_cons, together state action allowed]
            exact alike before next later split

end Twins

section Log

/-- What the steps of a run report, in order. -/
def log (report : State → Action → List Report) : State → List Action → List Report
  | _, [] => []
  | state, action :: rest => report state action ++ log report (step state action) rest

variable (report : State → Action → List Report)

@[simp]
theorem log_nil (state : State) : log step report state [] = [] := rfl

@[simp]
theorem log_cons (state : State) (action : Action) (rest : List Action) :
    log step report state (action :: rest) =
      report state action ++ log step report (step state action) rest := rfl

@[simp]
theorem log_append (state : State) (first second : List Action) :
    log step report state (first ++ second) =
      log step report state first ++ log step report (run step state first) second := by
  induction first generalizing state with
  | nil => simp
  | cons action rest ih => simp [ih, List.append_assoc]

theorem log_invariant {Invariant : State → List Report → Prop}
    (kept : ∀ state action reported, Invariant state reported →
      Invariant (step state action) (reported ++ report state action))
    {state : State} {reported : List Report} (holds : Invariant state reported)
    (actions : List Action) :
    Invariant (run step state actions) (reported ++ log step report state actions) := by
  induction actions generalizing state reported with
  | nil => simpa using holds
  | cons action rest ih =>
      have next := ih (kept state action reported holds)
      simpa [List.append_assoc] using next

theorem log_sublist {Label : Type u} {label : Report → Label} {brought : Action → Option Label}
    (each : ∀ state action, ((report state action).map label).Sublist (brought action).toList)
    (state : State) (actions : List Action) :
    ((log step report state actions).map label).Sublist (actions.filterMap brought) := by
  induction actions generalizing state with
  | nil => exact List.nil_sublist _
  | cons action rest ih =>
      have split : (action :: rest).filterMap brought =
          (brought action).toList ++ rest.filterMap brought := by
        cases isBrought : brought action <;> simp [isBrought]
      rw [log_cons, List.map_append, split]
      exact (each state action).append (ih _)

end Log

end Machine
