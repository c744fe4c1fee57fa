import PaymentsPlatform.Library.SoleClient

/-!
# Attempts

A run of a program by itself in which any statement may fail, with its effect or without.  A
program that sends one statement after another stops at the first one that fails, so that it has
come to where a first part of its statements leads.
-/

namespace RelyGuarantee

variable {State Statement Reply Fault α β : Type}

/-- A run of the program, with the statements that it sends and the state that each is sent in. -/
inductive Attempt (perform : Statement → State → Except Fault (State × Reply)) :
    Program Statement Reply Fault α → State → List (Statement × State) → Except Fault α → State →
      Prop
  | done (outcome : Except Fault α) (state : State) :
      Attempt perform (.done outcome) state [] outcome state
  | answered {statement : Statement} {next : Except Fault Reply → Program Statement Reply Fault α}
      {state changed reached : State} {reply : Reply} {log : List (Statement × State)}
      {outcome : Except Fault α} (performed : perform statement state = .ok (changed, reply))
      (rest : Attempt perform (next (.ok reply)) changed log outcome reached) :
      Attempt perform (.execute statement next) state ((statement, state) :: log) outcome reached
  | failed {statement : Statement} {next : Except Fault Reply → Program Statement Reply Fault α}
      {state reached : State} {log : List (Statement × State)} {outcome : Except Fault α}
      (fault : Fault) (rest : Attempt perform (next (.error fault)) state log outcome reached) :
      Attempt perform (.execute statement next) state ((statement, state) :: log) outcome reached
  | lost {statement : Statement} {next : Except Fault Reply → Program Statement Reply Fault α}
      {state changed reached : State} {reply : Reply} {log : List (Statement × State)}
      {outcome : Except Fault α} (performed : perform statement state = .ok (changed, reply))
      (fault : Fault) (rest : Attempt perform (next (.error fault)) changed log outcome reached) :
      Attempt perform (.execute statement next) state ((statement, state) :: log) outcome reached

/-- The statements, one after the other. -/
def Program.issue : List Statement → Program Statement Reply Fault Unit
  | [] => .done (.ok ())
  | statement :: rest => Program.ask statement >>= fun _ => Program.issue rest

theorem Program.bind_assoc {γ : Type} (program : Program Statement Reply Fault α)
    (after : α → Program Statement Reply Fault β) (later : β → Program Statement Reply Fault γ) :
    program >>= after >>= later = program >>= fun value => after value >>= later := by
  change (program.bind after).bind later = program.bind fun value => (after value).bind later
  induction program with
  | done outcome => cases outcome <;> rfl
  | execute statement next ih =>
      simp only [Program.bind, ih]

theorem Program.lift_ok_bind (value : α) (after : α → Program Statement Reply Fault β) :
    Program.lift (.ok value) >>= after = after value := rfl

theorem Program.issue_append (statements others : List Statement) :
    (Program.issue (statements ++ others) : Program Statement Reply Fault Unit) =
      Program.issue statements >>= fun _ => Program.issue others := by
  induction statements with
  | nil => rfl
  | cons statement rest ih =>
      rw [List.cons_append, Program.issue, Program.issue, ih, Program.bind_assoc]

/-- The statements succeed in this order. -/
inductive Executes (perform : Statement → State → Except Fault (State × Reply)) :
    State → List Statement → State → Prop
  | nil (state : State) : Executes perform state [] state
  | cons {state changed reached : State} {statement : Statement} {reply : Reply}
      {rest : List Statement} (performed : perform statement state = .ok (changed, reply))
      (executes : Executes perform changed rest reached) :
      Executes perform state (statement :: rest) reached

section Rules

variable {perform : Statement → State → Except Fault (State × Reply)}
  {program : Program Statement Reply Fault α} {after : α → Program Statement Reply Fault β}
  {state reached : State} {log : List (Statement × State)}

theorem attempt_done_iff {outcome result : Except Fault α} :
    Attempt perform (.done outcome) state log result reached ↔
      log = [] ∧ result = outcome ∧ reached = state := by
  constructor
  · intro attempt
    cases attempt
    exact ⟨rfl, rfl, rfl⟩
  · rintro ⟨rfl, rfl, rfl⟩
    exact .done _ _

theorem attempt_alone (program : Program Statement Reply Fault α) (state : State) :
    ∃ log, Attempt perform program state log (program.alone perform state).1
      (program.alone perform state).2 := by
  induction program generalizing state with
  | done outcome => exact ⟨[], .done outcome state⟩
  | execute statement next ih =>
      rw [Program.alone]
      cases performed : perform statement state with
      | ok answer =>
          obtain ⟨log, rest⟩ := ih (.ok answer.2) answer.1
          exact ⟨_, .answered performed rest⟩
      | error fault =>
          obtain ⟨log, rest⟩ := ih (.error fault) state
          exact ⟨_, .failed fault rest⟩

theorem attempt_bind {outcome : Except Fault β}
    (attempt : Attempt perform (program >>= after) state log outcome reached) :
    (∃ fault, outcome = .error fault ∧ Attempt perform program state log (.error fault) reached) ∨
      ∃ value middle early late, Attempt perform program state early (.ok value) middle ∧
        Attempt perform (after value) middle late outcome reached ∧ log = early ++ late := by
  change Attempt perform (program.bind after) state log outcome reached at attempt
  induction program generalizing state log with
  | done result =>
      cases result with
      | error fault =>
          obtain ⟨rfl, rfl, rfl⟩ := attempt_done_iff.mp attempt
          exact .inl ⟨fault, rfl, .done _ _⟩
      | ok value => exact .inr ⟨value, state, [], log, .done _ _, attempt, rfl⟩
  | execute statement next ih =>
      cases attempt with
      | answered performed rest =>
          rcases ih _ rest with ⟨fault, isOutcome, first⟩ |
            ⟨value, middle, early, late, first, second, rfl⟩
          · exact .inl ⟨fault, isOutcome, .answered performed first⟩
          · exact .inr ⟨value, middle, _, late, .answered performed first, second, rfl⟩
      | failed fault rest =>
          rcases ih _ rest with ⟨fault, isOutcome, first⟩ |
            ⟨value, middle, early, late, first, second, rfl⟩
          · exact .inl ⟨fault, isOutcome, .failed _ first⟩
          · exact .inr ⟨value, middle, _, late, .failed _ first, second, rfl⟩
      | lost performed fault rest =>
          rcases ih _ rest with ⟨fault, isOutcome, first⟩ |
            ⟨value, middle, early, late, first, second, rfl⟩
          · exact .inl ⟨fault, isOutcome, .lost performed _ first⟩
          · exact .inr ⟨value, middle, _, late, .lost performed _ first, second, rfl⟩

theorem attempt_ask {statement : Statement} {outcome : Except Fault Reply}
    (attempt : Attempt perform (Program.ask statement) state log outcome reached) :
    log = [(statement, state)] ∧
      ((∃ reply, outcome = .ok reply ∧ perform statement state = .ok (reached, reply)) ∨
        ∃ fault, outcome = .error fault ∧
          (reached = state ∨ ∃ reply, perform statement state = .ok (reached, reply))) := by
  cases attempt with
  | answered performed rest =>
      obtain ⟨rfl, rfl, rfl⟩ := attempt_done_iff.mp rest
      exact ⟨rfl, .inl ⟨_, rfl, performed⟩⟩
  | failed fault rest =>
      obtain ⟨rfl, rfl, rfl⟩ := attempt_done_iff.mp rest
      exact ⟨rfl, .inr ⟨fault, rfl, .inl rfl⟩⟩
  | lost performed fault rest =>
      obtain ⟨rfl, rfl, rfl⟩ := attempt_done_iff.mp rest
      exact ⟨rfl, .inr ⟨fault, rfl, .inr ⟨_, performed⟩⟩⟩

/-- Where statements sent one after the other come to. -/
theorem attempt_issue {statements : List Statement} {outcome : Except Fault Unit}
    (attempt : Attempt perform (Program.issue statements) state log outcome reached) :
    (∃ issued left, statements = issued ++ left ∧ Executes perform state issued reached ∧
        (∀ nothing, outcome = .ok nothing → left = [])) ∧
      ∀ statement middle, (statement, middle) ∈ log →
        ∃ before later, statements = before ++ statement :: later ∧
          Executes perform state before middle := by
  induction statements generalizing state log with
  | nil =>
      obtain ⟨rfl, rfl, rfl⟩ := attempt_done_iff.mp attempt
      exact ⟨⟨[], [], rfl, .nil _, fun _ _ => rfl⟩, by simp⟩
  | cons statement rest ih =>
      rcases attempt_bind attempt with ⟨fault, rfl, first⟩ |
        ⟨reply, middle, early, late, first, second, rfl⟩
      · obtain ⟨rfl, ⟨_, isError, _⟩ | ⟨_, _, reaches⟩⟩ := attempt_ask first
        · cases isError
        · refine ⟨?_, ?_⟩
          · rcases reaches with rfl | ⟨reply, performed⟩
            · exact ⟨[], statement :: rest, rfl, .nil _, fun _ isOk => by cases isOk⟩
            · exact ⟨[statement], rest, rfl, .cons performed (.nil _), fun _ isOk => by cases isOk⟩
          · intro other sentIn listed
            obtain ⟨rfl, rfl⟩ := Prod.mk.inj (List.mem_singleton.mp listed)
            exact ⟨[], rest, rfl, .nil _⟩
      · obtain ⟨rfl, ⟨_, isOk, performed⟩ | ⟨_, isError, _⟩⟩ := attempt_ask first
        · obtain ⟨⟨issued, left, rfl, executes, finished⟩, sent⟩ := ih second
          refine ⟨⟨statement :: issued, left, rfl, .cons performed executes, finished⟩, ?_⟩
          intro other sentIn listed
          rcases List.mem_append.mp listed with listed | listed
          · obtain ⟨rfl, rfl⟩ := Prod.mk.inj (List.mem_singleton.mp listed)
            exact ⟨[], _, rfl, .nil _⟩
          · obtain ⟨before, later, parted, executes⟩ := sent other sentIn listed
            exact ⟨statement :: before, later, by rw [parted]; rfl, .cons performed executes⟩
        · cases isError

theorem alone_issue {statements : List Statement} (executes : Executes perform state statements reached) :
    (Program.issue statements).alone perform state = (.ok (), reached) := by
  induction executes with
  | nil state => rfl
  | cons performed executes ih =>
      rw [Program.issue, Program.alone_bind]
      simp only [Program.ask, Program.alone, performed]
      exact ih

theorem executes_append {statements others : List Statement} :
    Executes perform state (statements ++ others) reached ↔
      ∃ middle, Executes perform state statements middle ∧
        Executes perform middle others reached := by
  induction statements generalizing state with
  | nil =>
      constructor
      · intro executes
        exact ⟨state, .nil state, executes⟩
      · rintro ⟨middle, nothing, executes⟩
        cases nothing
        exact executes
  | cons statement rest ih =>
      constructor
      · intro executes
        cases executes with
        | cons performed executes =>
            obtain ⟨middle, first, second⟩ := ih.mp executes
            exact ⟨middle, .cons performed first, second⟩
      · rintro ⟨middle, executes, second⟩
        cases executes with
        | cons performed first =>
            exact .cons performed (ih.mpr ⟨middle, first, second⟩)

end Rules

end RelyGuarantee
