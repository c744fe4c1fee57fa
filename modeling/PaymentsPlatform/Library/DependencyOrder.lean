import Mathlib.Data.List.Basic

/-!
# Orders in which dependencies come first

A list of nodes is ready after some keys are done when each node is new and
its dependencies are done before it.
-/

namespace DependencyOrder

universe u v

variable {Node : Type u} {Key : Type v} (key : Node → Key) (dependencies : Node → List Key)

/-- Each node is new and finds its dependencies done. -/
def Ready : List Key → List Node → Prop
  | _, [] => True
  | done, node :: rest =>
      key node ∉ done ∧ (∀ dependency ∈ dependencies node, dependency ∈ done) ∧
        Ready (done ++ [key node]) rest

variable {key dependencies} {done : List Key} {nodes later : List Node}

theorem ready_append : Ready key dependencies done (nodes ++ later) ↔
    Ready key dependencies done nodes ∧
      Ready key dependencies (done ++ nodes.map key) later := by
  induction nodes generalizing done with
  | nil => simp [Ready]
  | cons node rest ih =>
      simp [Ready, ih, and_assoc]

theorem ready_concat {node : Node} : Ready key dependencies done (nodes ++ [node]) ↔
    Ready key dependencies done nodes ∧ key node ∉ done ++ nodes.map key ∧
      ∀ dependency ∈ dependencies node, dependency ∈ done ++ nodes.map key := by
  rw [ready_append]
  simp [Ready]

theorem Ready.fresh (ready : Ready key dependencies done nodes) {node : Node} (listed : node ∈ nodes) :
    key node ∉ done := by
  obtain ⟨before, after, rfl⟩ := List.append_of_mem listed
  have later := (ready_append.mp ready).2
  intro known
  exact later.1 (List.mem_append_left _ known)

theorem Ready.foldl_invariant {State : Type u} {step : State → Node → State}
    {Invariant : List Key → State → Prop}
    (kept : ∀ done state, ∀ node ∈ nodes, key node ∉ done →
      (∀ dependency ∈ dependencies node, dependency ∈ done) → Invariant done state →
      Invariant (done ++ [key node]) (step state node))
    (ready : Ready key dependencies done nodes) {state : State} (holds : Invariant done state) :
    Invariant (done ++ nodes.map key) (nodes.foldl step state) := by
  induction nodes generalizing done state with
  | nil => simpa using holds
  | cons node rest ih =>
      obtain ⟨fresh, found, later⟩ := ready
      have reached := ih
        (fun done state other listed => kept done state other (List.mem_cons_of_mem _ listed)) later
        (kept done state node List.mem_cons_self fresh found holds)
      simpa [List.append_assoc] using reached

end DependencyOrder
