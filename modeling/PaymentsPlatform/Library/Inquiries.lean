import Mathlib.Init

/-!
# Programs that ask

A program may ask its surroundings, and an answer decides how it goes on.  What it comes to
depends on the answers to the questions that it can ask and on nothing else: surroundings that
answer these alike cannot be told apart by its outcome.
-/

namespace Inquiries

variable {Question : Type} {Answer : Question → Type} {Fault α β : Type}

/-- What is left of a program. -/
inductive Inquiry (Answer : Question → Type) (Fault α : Type) where
  | done (outcome : Except Fault α)
  | ask (question : Question) (next : Answer question → Inquiry Answer Fault α)

namespace Inquiry

def bind (program : Inquiry Answer Fault α) (after : α → Inquiry Answer Fault β) :
    Inquiry Answer Fault β :=
  match program with
  | done (.ok value) => after value
  | done (.error fault) => done (.error fault)
  | ask question next => ask question fun answer => (next answer).bind after

instance : Monad (Inquiry Answer Fault) where
  pure value := done (.ok value)
  bind := bind

/-- The answer to a question. -/
def answerTo (question : Question) : Inquiry Answer Fault (Answer question) :=
  ask question fun answer => done (.ok answer)

/-- A computation that asks nothing. -/
def lift (outcome : Except Fault α) : Inquiry Answer Fault α := done outcome

def raise (fault : Fault) : Inquiry Answer Fault α := done (.error fault)

/-- The outcome in surroundings that give these answers. -/
def run (answers : ∀ question, Answer question) : Inquiry Answer Fault α → Except Fault α
  | done outcome => outcome
  | ask question next => (next (answers question)).run answers

/-- The program asks no questions but these. -/
def Asks (allowed : Question → Prop) : Inquiry Answer Fault α → Prop
  | done _ => True
  | ask question next => allowed question ∧ ∀ answer, (next answer).Asks allowed

section Run

variable {answers others : ∀ question, Answer question} {program : Inquiry Answer Fault α}
  {after : α → Inquiry Answer Fault β}

@[simp]
theorem run_bind : (program >>= after).run answers =
    program.run answers >>= fun value => (after value).run answers := by
  change (program.bind after).run answers = _
  induction program with
  | done outcome => cases outcome <;> rfl
  | ask question next ih => exact ih (answers question)

theorem run_bind_eq_ok {result : β} : (program >>= after).run answers = .ok result ↔
    ∃ value, program.run answers = .ok value ∧ (after value).run answers = .ok result := by
  rw [run_bind]
  cases program.run answers with
  | error fault =>
      constructor
      · intro failed
        cases failed
      · rintro ⟨_, failed, _⟩
        cases failed
  | ok value =>
      constructor
      · exact fun ran => ⟨value, rfl, ran⟩
      · rintro ⟨other, same, ran⟩
        cases same
        exact ran

@[simp]
theorem run_pure (value : α) :
    (pure value : Inquiry Answer Fault α).run answers = .ok value := rfl

theorem Asks.run_eq {allowed : Question → Prop} (asks : program.Asks allowed)
    (agree : ∀ question, allowed question → answers question = others question) :
    program.run answers = program.run others := by
  induction program with
  | done outcome => rfl
  | ask question next ih =>
      obtain ⟨isAllowed, later⟩ := asks
      rw [run, run, ← agree question isAllowed]
      exact ih (answers question) (later (answers question))

end Run

section Asks

variable {allowed wider : Question → Prop} {program : Inquiry Answer Fault α}
  {after : α → Inquiry Answer Fault β}

theorem Asks.done (outcome : Except Fault α) :
    (done outcome : Inquiry Answer Fault α).Asks allowed := trivial

theorem Asks.pure (value : α) : (Pure.pure value : Inquiry Answer Fault α).Asks allowed := trivial

theorem Asks.bind (first : program.Asks allowed) (rest : ∀ value, (after value).Asks allowed) :
    (program >>= after).Asks allowed := by
  change (program.bind after).Asks allowed
  induction program with
  | done outcome =>
      cases outcome with
      | ok value => exact rest value
      | error fault => exact trivial
  | ask question next ih =>
      exact ⟨first.1, fun answer => ih answer (first.2 answer)⟩

theorem Asks.mono (asks : program.Asks allowed)
    (implies : ∀ question, allowed question → wider question) : program.Asks wider := by
  induction program with
  | done outcome => exact trivial
  | ask question next ih =>
      exact ⟨implies question asks.1, fun answer => ih answer (asks.2 answer)⟩

theorem Asks.foldlM {step : β → α → Inquiry Answer Fault β} {list : List α}
    (each : ∀ state, ∀ entry ∈ list, (step state entry).Asks allowed) (state : β) :
    (list.foldlM step state).Asks allowed := by
  induction list generalizing state with
  | nil => exact trivial
  | cons entry rest ih =>
      rw [List.foldlM_cons]
      apply Asks.bind (each state entry List.mem_cons_self)
      intro next
      exact ih
        (fun state other listed => each state other (List.mem_cons_of_mem entry listed)) next

end Asks

end Inquiry

end Inquiries
