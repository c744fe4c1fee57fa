import PaymentsPlatform.Library.RelyGuarantee

/-!
# A client by itself

A program that runs alone, each of its statements answered by the store: what it comes to, and
a rule for what every such run comes to.
-/

namespace RelyGuarantee

variable {State Statement Reply Fault α β : Type}

namespace Program

/-- The outcome of the program and the state that it leaves. -/
def alone (perform : Statement → State → Except Fault (State × Reply)) :
    Program Statement Reply Fault α → State → Except Fault α × State
  | .done outcome, state => (outcome, state)
  | .execute statement next, state =>
      match perform statement state with
      | .ok (changed, reply) => (next (.ok reply)).alone perform changed
      | .error fault => (next (.error fault)).alone perform state

variable {perform : Statement → State → Except Fault (State × Reply)}
  {program : Program Statement Reply Fault α} {after : α → Program Statement Reply Fault β}
  {state : State}

theorem alone_bind : (program >>= after).alone perform state =
    match program.alone perform state with
    | (.ok value, reached) => (after value).alone perform reached
    | (.error fault, reached) => (.error fault, reached) := by
  change (program.bind after).alone perform state = _
  induction program generalizing state with
  | done outcome => cases outcome <;> rfl
  | execute statement next ih =>
      simp only [Program.bind, alone]
      split <;> exact ih _

theorem alone_attempt : program.attempt.alone perform state =
    (.ok (program.alone perform state).1, (program.alone perform state).2) := by
  induction program generalizing state with
  | done outcome => rfl
  | execute statement next ih =>
      simp only [attempt, alone]
      split <;> exact ih _

end Program

/-- From whatever state, the program alone comes to such an outcome. -/
structure Always (perform : Statement → State → Except Fault (State × Reply))
    (program : Program Statement Reply Fault α) (post : Except Fault α → Prop) : Prop where
  comes : ∀ state, post (program.alone perform state).1

namespace Always

variable {perform : Statement → State → Except Fault (State × Reply)}
  {program : Program Statement Reply Fault α}

theorem any (program : Program Statement Reply Fault α) :
    Always perform program fun _ => True := ⟨fun _ => trivial⟩

theorem done {post : Except Fault α → Prop} {outcome : Except Fault α} (met : post outcome) :
    Always perform (.done outcome) post := ⟨fun _ => met⟩

theorem bind {middle : Except Fault α → Prop} {post : Except Fault β → Prop}
    {after : α → Program Statement Reply Fault β} (first : Always perform program middle)
    (returned : ∀ value, middle (.ok value) → Always perform (after value) post)
    (raised : ∀ fault, middle (.error fault) → post (.error fault)) :
    Always perform (program >>= after) post := by
  refine ⟨fun state => ?_⟩
  have met := first.comes state
  rw [Program.alone_bind]
  cases ran : program.alone perform state with
  | mk outcome reached =>
      rw [ran] at met
      cases outcome with
      | ok value => exact (returned value met).comes reached
      | error fault => exact raised fault met

theorem attempt {post : Except Fault α → Prop} (always : Always perform program post) :
    Always perform program.attempt fun outcome => ∃ ended, outcome = .ok ended ∧ post ended := by
  refine ⟨fun state => ?_⟩
  rw [Program.alone_attempt]
  exact ⟨_, rfl, always.comes state⟩

theorem refused {statement : Statement}
    (refuses : ∀ state, ∃ fault, perform statement state = .error fault) :
    Always perform (Program.ask statement) fun outcome => ∃ fault, outcome = .error fault := by
  refine ⟨fun state => ?_⟩
  obtain ⟨fault, isRefused⟩ := refuses state
  refine ⟨fault, ?_⟩
  simp only [Program.ask, Program.alone, isRefused]

end Always

end RelyGuarantee
