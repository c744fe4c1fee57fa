import PaymentsPlatform.Library.Machine
import Mathlib.Logic.Function.Basic

/-!
# Clients of a shared store

Clients run programs against a store, a statement at a time, and their statements interleave
in any order.  A statement may fail, with its effect or without, and a client may be killed at
any statement.  Each client guarantees something of its steps and relies on something of the
steps of the others.

A program is `Safe` from a state if each of its statements, from every state that the assertion
before it allows, keeps the invariant and the guarantee, where no step that the client relies on
disturbs the assertion.  Where every client's program is safe, every run keeps the invariant and
every step its client's guarantee, and what a program has reached at its end holds ever after.
-/

namespace RelyGuarantee

variable {Client State Statement Choice Reply Fault α β : Type}

/-- What is left of a client's program; a statement that fails is answered with a fault. -/
inductive Program (Statement Reply Fault α : Type) where
  | done (outcome : Except Fault α)
  | execute (statement : Statement) (next : Except Fault Reply → Program Statement Reply Fault α)

namespace Program

def bind (program : Program Statement Reply Fault α)
    (after : α → Program Statement Reply Fault β) : Program Statement Reply Fault β :=
  match program with
  | done (.ok value) => after value
  | done (.error fault) => done (.error fault)
  | execute statement next => execute statement fun reply => (next reply).bind after

instance : Monad (Program Statement Reply Fault) where
  pure value := done (.ok value)
  bind := bind

def ask (statement : Statement) : Program Statement Reply Fault Reply := execute statement done

/-- A computation that needs no statement. -/
def lift (outcome : Except Fault α) : Program Statement Reply Fault α := done outcome

def raise (fault : Fault) : Program Statement Reply Fault α := lift (.error fault)

/-- The outcome of a program, whether it returns or raises. -/
def attempt (program : Program Statement Reply Fault α) :
    Program Statement Reply Fault (Except Fault α) :=
  match program with
  | done outcome => done (.ok outcome)
  | execute statement next => execute statement fun reply => (next reply).attempt

end Program

/-- What the statements do, what holds throughout, and what each client relies on and
guarantees. -/
structure Rules (Client State Statement Choice Reply Fault : Type) where
  perform : Choice → Statement → State → Except Fault (State × Reply)
  Invariant : State → Prop
  rely : Client → State → State → Prop
  guarantee : Client → State → State → Prop
  guarantee_refl : ∀ client state, guarantee client state state
  compatible : ∀ client other before after, client ≠ other → Invariant before →
    guarantee client before after → rely other before after

/-- A condition for a program that returns and one for a program that raises. -/
def ends (returns : α → State → Prop) (raises : State → Prop) :
    Except Fault α → State → Prop
  | .ok value => returns value
  | .error _ => raises

variable (rules : Rules Client State Statement Choice Reply Fault) (client : Client)

namespace Rules

/-- No step that the client relies on disturbs the assertion. -/
def Stable (assertion : State → Prop) : Prop :=
  ∀ before after, rules.rely client before after → assertion before → assertion after

def Safe (post : Except Fault α → State → Prop) :
    Program Statement Reply Fault α → State → Prop
  | .done outcome, state => post outcome state
  | .execute statement next, state =>
      ∃ assertion : State → Prop, assertion state ∧ rules.Stable client assertion ∧
        ∀ state, rules.Invariant state → assertion state →
          (∀ fault, Safe post (next (.error fault)) state) ∧
          ∀ choice changed reply, rules.perform choice statement state = .ok (changed, reply) →
            rules.Invariant changed ∧ rules.guarantee client state changed ∧
              Safe post (next (.ok reply)) changed ∧
              ∀ fault, Safe post (next (.error fault)) changed

/-- From every state that the one condition allows, the program is safe for the other. -/
structure Triple (pre : State → Prop) (program : Program Statement Reply Fault α)
    (post : Except Fault α → State → Prop) : Prop where
  safe : ∀ state, rules.Invariant state → pre state → rules.Safe client post program state

/-- No statement of the program changes the state. -/
def Reading : Program Statement Reply Fault α → Prop
  | .done _ => True
  | .execute statement next =>
      (∀ choice state changed reply, rules.perform choice statement state = .ok (changed, reply) →
        changed = state) ∧ ∀ reply, Reading (next reply)

end Rules

variable {rules client} {post other : Except Fault α → State → Prop}
  {program : Program Statement Reply Fault α} {pre : State → Prop}

section Safe

theorem Rules.Safe.execute {statement : Statement}
    {next : Except Fault Reply → Program Statement Reply Fault α}
    {next' : Except Fault Reply → Program Statement Reply Fault β}
    {post' : Except Fault β → State → Prop} {state : State}
    (safe : rules.Safe client post (.execute statement next) state)
    (onward : ∀ reply state, rules.Invariant state → rules.Safe client post (next reply) state →
      rules.Safe client post' (next' reply) state) :
    rules.Safe client post' (.execute statement next') state := by
  obtain ⟨assertion, asserted, stable, performs⟩ := safe
  refine ⟨assertion, asserted, stable, fun state holds asserted => ?_⟩
  obtain ⟨failed, answered⟩ := performs state holds asserted
  refine ⟨fun fault => onward _ _ holds (failed fault), ?_⟩
  intro choice changed reply performed
  obtain ⟨kept, allowed, later, failing⟩ := answered choice changed reply performed
  exact ⟨kept, allowed, onward _ _ kept later, fun fault => onward _ _ kept (failing fault)⟩

theorem Rules.Safe.mono {state : State} (holds : rules.Invariant state)
    (weaker : ∀ outcome state, rules.Invariant state → post outcome state → other outcome state)
    (safe : rules.Safe client post program state) : rules.Safe client other program state := by
  induction program generalizing state with
  | done outcome => exact weaker outcome state holds safe
  | execute statement next ih =>
      exact safe.execute fun reply state kept later => ih reply kept later

theorem Rules.Safe.stable (stays : ∀ outcome, rules.Stable client (post outcome)) :
    rules.Stable client (rules.Safe client post program) := by
  cases program with
  | done outcome => exact stays outcome
  | execute statement next =>
      rintro before after moved ⟨assertion, asserted, stable, performs⟩
      exact ⟨assertion, stable before after moved asserted, stable, performs⟩

theorem Rules.Safe.bind {after : α → Program Statement Reply Fault β}
    {post : Except Fault β → State → Prop} {state : State}
    (safe : rules.Safe client (ends (fun value => rules.Safe client post (after value))
      fun state => ∀ fault, post (.error fault) state) program state) :
    rules.Safe client post (program >>= after) state := by
  change rules.Safe client post (program.bind after) state
  induction program generalizing state with
  | done outcome =>
      cases outcome with
      | ok value => exact safe
      | error fault => exact safe fault
  | execute statement next ih =>
      exact safe.execute fun reply state _ later => ih reply later

theorem Rules.Safe.attempt {post : Except Fault (Except Fault α) → State → Prop} {state : State}
    (safe : rules.Safe client (fun outcome => post (.ok outcome)) program state) :
    rules.Safe client post program.attempt state := by
  induction program generalizing state with
  | done outcome => exact safe
  | execute statement next ih =>
      exact safe.execute fun reply state _ later => ih reply later

theorem Rules.Safe.frame {frame : State → Prop} {state : State}
    (reading : rules.Reading program) (stable : rules.Stable client frame) (framed : frame state)
    (safe : rules.Safe client post program state) :
    rules.Safe client (fun outcome state => frame state ∧ post outcome state) program state := by
  induction program generalizing state with
  | done outcome => exact ⟨framed, safe⟩
  | execute statement next ih =>
      obtain ⟨unchanged, rest⟩ := reading
      obtain ⟨assertion, asserted, stays, performs⟩ := safe
      refine ⟨fun state => frame state ∧ assertion state, ⟨framed, asserted⟩, ?_, ?_⟩
      · intro before after moved both
        exact ⟨stable before after moved both.1, stays before after moved both.2⟩
      · rintro state holds ⟨framed, asserted⟩
        obtain ⟨failed, answered⟩ := performs state holds asserted
        refine ⟨fun fault => ih _ (rest _) framed (failed fault), ?_⟩
        intro choice changed reply performed
        obtain ⟨kept, allowed, onward, failing⟩ := answered choice changed reply performed
        cases unchanged choice state changed reply performed
        exact ⟨kept, allowed, ih _ (rest _) framed onward,
          fun fault => ih _ (rest _) framed (failing fault)⟩

end Safe

section Reading

theorem Rules.Reading.bind {after : α → Program Statement Reply Fault β}
    (first : rules.Reading program) (rest : ∀ value, rules.Reading (after value)) :
    rules.Reading (program >>= after) := by
  change rules.Reading (program.bind after)
  induction program with
  | done outcome =>
      cases outcome with
      | ok value => exact rest value
      | error fault => exact trivial
  | execute statement next ih =>
      exact ⟨first.1, fun reply => ih reply (first.2 reply)⟩

theorem Rules.Reading.ask {statement : Statement}
    (unchanged : ∀ choice state changed reply,
      rules.perform choice statement state = .ok (changed, reply) → changed = state) :
    rules.Reading (Program.ask statement) := ⟨unchanged, fun _ => trivial⟩

theorem Rules.Reading.lift (outcome : Except Fault α) :
    rules.Reading (Program.lift outcome) := trivial

end Reading

section Triples

variable {weaker : State → Prop} {returns : α → State → Prop} {raises : State → Prop}

theorem Rules.Triple.weaken (triple : rules.Triple client pre program post)
    (stronger : ∀ state, rules.Invariant state → weaker state → pre state)
    (implies : ∀ outcome state, rules.Invariant state → post outcome state →
      other outcome state) :
    rules.Triple client weaker program other :=
  ⟨fun state holds met => (triple.safe state holds (stronger state holds met)).mono holds implies⟩

theorem Rules.Triple.lift (outcome : Except Fault α)
    (met : ∀ state, rules.Invariant state → pre state → post outcome state) :
    rules.Triple client pre (Program.lift outcome) post := ⟨met⟩

theorem Rules.Triple.pure (value : α)
    (met : ∀ state, rules.Invariant state → pre state → post (.ok value) state) :
    rules.Triple client pre (pure value) post := ⟨met⟩

theorem Rules.Triple.bind (middle : α → State → Prop)
    {after : α → Program Statement Reply Fault β} {returns : β → State → Prop}
    (first : rules.Triple client pre program (ends middle raises))
    (rest : ∀ value, rules.Triple client (middle value) (after value) (ends returns raises)) :
    rules.Triple client pre (program >>= after) (ends returns raises) := by
  constructor
  intro state holds met
  apply Rules.Safe.bind
  apply (first.safe state holds met).mono holds
  intro outcome state holds reached
  cases outcome with
  | ok value => exact (rest value).safe state holds reached
  | error fault => exact fun _ => reached

theorem Rules.Triple.bind_lift {outcome : Except Fault α}
    {after : α → Program Statement Reply Fault β} {returns : β → State → Prop}
    (failed : ∀ state, pre state → raises state)
    (rest : ∀ value, outcome = .ok value →
      rules.Triple client pre (after value) (ends returns raises)) :
    rules.Triple client pre (Program.lift outcome >>= after) (ends returns raises) := by
  cases outcome with
  | ok value => exact rest value rfl
  | error fault => exact ⟨fun state _ met => failed state met⟩

theorem Rules.Triple.attempt (middle : Except Fault α → State → Prop)
    {after : Except Fault α → Program Statement Reply Fault β}
    {post : Except Fault β → State → Prop}
    (first : rules.Triple client pre program middle)
    (rest : ∀ outcome, rules.Triple client (middle outcome) (after outcome) post) :
    rules.Triple client pre (program.attempt >>= after) post := by
  constructor
  intro state holds met
  apply Rules.Safe.bind
  apply Rules.Safe.attempt
  apply (first.safe state holds met).mono holds
  intro outcome state holds reached
  exact (rest outcome).safe state holds reached

theorem Rules.Triple.ask {statement : Statement} {returns : Reply → State → Prop}
    (stable : rules.Stable client pre)
    (failed : ∀ state, rules.Invariant state → pre state → raises state)
    (performed : ∀ state choice changed reply, rules.Invariant state → pre state →
      rules.perform choice statement state = .ok (changed, reply) →
      rules.Invariant changed ∧ rules.guarantee client state changed ∧ returns reply changed ∧
        raises changed) :
    rules.Triple client pre (Program.ask statement) (ends returns raises) := by
  constructor
  intro state holds met
  refine ⟨pre, met, stable, fun state holds met => ⟨fun _ => failed state holds met, ?_⟩⟩
  intro choice changed reply answered
  obtain ⟨kept, allowed, returned, raised⟩ :=
    performed state choice changed reply holds met answered
  exact ⟨kept, allowed, returned, fun _ => raised⟩

theorem Rules.Triple.read {statement : Statement} {returns : Reply → State → Prop}
    (reading : rules.Reading (Program.ask statement)) (stable : rules.Stable client pre)
    (failed : ∀ state, rules.Invariant state → pre state → raises state)
    (performed : ∀ state choice reply, rules.Invariant state → pre state →
      rules.perform choice statement state = .ok (state, reply) → returns reply state) :
    rules.Triple client pre (Program.ask statement) (ends returns raises) := by
  apply Rules.Triple.ask stable failed
  intro state choice changed reply holds met answered
  cases reading.1 choice state changed reply answered
  exact ⟨holds, rules.guarantee_refl client state,
    performed state choice reply holds met answered, failed state holds met⟩

theorem Rules.Reading.keeps (reading : rules.Reading program) (stable : rules.Stable client pre)
    (failed : ∀ state, pre state → raises state) :
    rules.Triple client pre program (ends (fun _ => pre) raises) := by
  constructor
  intro state holds met
  induction program generalizing state with
  | done outcome =>
      cases outcome with
      | ok value => exact met
      | error fault => exact failed state met
  | execute statement next ih =>
      obtain ⟨unchanged, rest⟩ := reading
      refine ⟨pre, met, stable, fun state holds met => ?_⟩
      refine ⟨fun fault => ih _ (rest _) state holds met, ?_⟩
      intro choice changed reply performed
      cases unchanged choice state changed reply performed
      exact ⟨holds, rules.guarantee_refl client state,
        ih _ (rest _) state holds met,
        fun fault => ih _ (rest _) state holds met⟩

theorem Rules.Triple.frame {frame : State → Prop} (triple : rules.Triple client pre program post)
    (reading : rules.Reading program) (stable : rules.Stable client frame) :
    rules.Triple client (fun state => frame state ∧ pre state) program
      fun outcome state => frame state ∧ post outcome state := by
  constructor
  intro state holds met
  exact (triple.safe state holds met.2).frame reading stable met.1

end Triples

/-! ## Statements that are answered -/

/-- So many statements of the program, each answered with this choice, lead from the one state and
program to the others. -/
inductive Reaches (perform : Choice → Statement → State → Except Fault (State × Reply))
    (choice : Choice) :
    Nat → State → Program Statement Reply Fault α → State → Program Statement Reply Fault α → Prop
  | refl (state : State) (program : Program Statement Reply Fault α) :
      Reaches perform choice 0 state program state program
  | answer {statement : Statement} {next : Except Fault Reply → Program Statement Reply Fault α}
      {count : Nat} {state changed final : State} {reply : Reply}
      {left : Program Statement Reply Fault α}
      (answered : perform choice statement state = .ok (changed, reply))
      (onward : Reaches perform choice count changed (next (.ok reply)) final left) :
      Reaches perform choice (count + 1) state (.execute statement next) final left

namespace Reaches

variable {perform : Choice → Statement → State → Except Fault (State × Reply)} {choice : Choice}
  {count more : Nat} {state middle final : State}
  {program between left : Program Statement Reply Fault α}

theorem trans (first : Reaches perform choice count state program middle between)
    (second : Reaches perform choice more middle between final left) :
    Reaches perform choice (more + count) state program final left := by
  induction first with
  | refl state program => exact second
  | answer answered _ ih => exact .answer answered (ih second)

theorem bind (after : α → Program Statement Reply Fault β)
    (first : Reaches perform choice count state program final left) :
    Reaches perform choice count state (program.bind after) final (left.bind after) := by
  induction first with
  | refl state program => exact .refl state _
  | answer answered _ ih => exact .answer answered ih

theorem attempt (first : Reaches perform choice count state program final left) :
    Reaches perform choice count state program.attempt final left.attempt := by
  induction first with
  | refl state program => exact .refl state _
  | answer answered _ ih => exact .answer answered ih

theorem andThen {value : α} {after : α → Program Statement Reply Fault β}
    {left : Program Statement Reply Fault β}
    (first : Reaches perform choice count state program middle (.done (.ok value)))
    (second : Reaches perform choice more middle (after value) final left) :
    Reaches perform choice (more + count) state (program >>= after) final left :=
  (first.bind after).trans second

theorem attempted {value : α} {after : Except Fault α → Program Statement Reply Fault β}
    {left : Program Statement Reply Fault β}
    (first : Reaches perform choice count state program middle (.done (.ok value)))
    (second : Reaches perform choice more middle (after (.ok value)) final left) :
    Reaches perform choice (more + count) state (program.attempt >>= after) final left :=
  (first.attempt.bind after).trans second

theorem ask {statement : Statement} {reply : Reply}
    {after : Reply → Program Statement Reply Fault α}
    (answered : perform choice statement state = .ok (middle, reply))
    (second : Reaches perform choice more middle (after reply) final left) :
    Reaches perform choice (more + 1) state (Program.ask statement >>= after) final left :=
  .answer answered second

theorem lift {value : α} {after : α → Program Statement Reply Fault β}
    {left : Program Statement Reply Fault β}
    (second : Reaches perform choice more middle (after value) final left) :
    Reaches perform choice more middle (Program.lift (.ok value) >>= after) final left := second

end Reaches

section Running

variable [DecidableEq Client]

/-- The store and what is left of each client's program; nothing is left of a client that was
killed. -/
structure World (Client State Statement Reply Fault α : Type) where
  state : State
  clients : Client → Option (Program Statement Reply Fault α)

inductive Event (Choice Fault : Type) where
  | answer (choice : Choice)
  /-- The statement fails, perhaps with its effect. -/
  | trouble (fault : Fault) (effect : Option Choice)
  | kill (effect : Option Choice)

structure Action (Client Choice Fault : Type) where
  actor : Client
  event : Event Choice Fault

variable (perform : Choice → Statement → State → Except Fault (State × Reply))

/-- What a statement that was not answered leaves behind. -/
def affected (statement : Statement) (state : State) : Option Choice → State
  | none => state
  | some choice =>
      match perform choice statement state with
      | .ok (changed, _) => changed
      | .error _ => state

/-- The state after a statement, and what is left of the program that it was part of. -/
def advance (statement : Statement) (next : Except Fault Reply → Program Statement Reply Fault α)
    (state : State) : Event Choice Fault → State × Option (Program Statement Reply Fault α)
  | .answer choice =>
      match perform choice statement state with
      | .ok (changed, reply) => (changed, some (next (.ok reply)))
      | .error fault => (state, some (next (.error fault)))
  | .trouble fault effect => (affected perform statement state effect, some (next (.error fault)))
  | .kill effect => (affected perform statement state effect, none)

def step (world : World Client State Statement Reply Fault α)
    (action : Action Client Choice Fault) : World Client State Statement Reply Fault α :=
  match world.clients action.actor with
  | some (.execute statement next) =>
      let reached := advance perform statement next world.state action.event
      ⟨reached.1, Function.update world.clients action.actor reached.2⟩
  | _ => world

variable {statement : Statement} {next : Except Fault Reply → Program Statement Reply Fault α}

theorem affected_cases (statement : Statement) (state : State) (effect : Option Choice) :
    affected perform statement state effect = state ∨ ∃ choice reply,
      perform choice statement state = .ok (affected perform statement state effect, reply) := by
  cases effect with
  | none => exact .inl rfl
  | some choice =>
      cases performed : perform choice statement state with
      | ok result => exact .inr ⟨choice, result.2, by simp [affected, performed]⟩
      | error fault => exact .inl (by simp [affected, performed])

/-- The state is as it was or as the statement makes it; the program goes on with the reply or
with a fault, or is gone. -/
theorem advance_cases (next : Except Fault Reply → Program Statement Reply Fault α)
    (state : State) (event : Event Choice Fault) :
    ((advance perform statement next state event).1 = state ∧
      ∀ program ∈ (advance perform statement next state event).2,
        ∃ fault, program = next (.error fault)) ∨
    ∃ choice reply,
      perform choice statement state = .ok ((advance perform statement next state event).1, reply) ∧
      ∀ program ∈ (advance perform statement next state event).2,
        program = next (.ok reply) ∨ ∃ fault, program = next (.error fault) := by
  cases event with
  | answer choice =>
      cases performed : perform choice statement state with
      | ok result =>
          refine .inr ⟨choice, result.2, by simp [advance, performed], ?_⟩
          intro program left
          exact .inl (by simpa [advance, performed, eq_comm] using left)
      | error fault =>
          refine .inl ⟨by simp [advance, performed], ?_⟩
          intro program left
          exact ⟨fault, by simpa [advance, performed, eq_comm] using left⟩
  | trouble fault effect =>
      have onward : ∀ program ∈ (advance perform statement next state (.trouble fault effect)).2,
          ∃ fault, program = next (.error fault) := by
        intro program left
        exact ⟨fault, by simpa [advance, eq_comm] using left⟩
      rcases affected_cases perform statement state effect with same | ⟨choice, reply, performed⟩
      · exact .inl ⟨same, onward⟩
      · exact .inr ⟨choice, reply, performed, fun program left => .inr (onward program left)⟩
  | kill effect =>
      rcases affected_cases perform statement state effect with same | ⟨choice, reply, performed⟩
      · exact .inl ⟨same, by simp [advance]⟩
      · exact .inr ⟨choice, reply, performed, by simp [advance]⟩

theorem step_execute {world : World Client State Statement Reply Fault α}
    {action : Action Client Choice Fault}
    (left : world.clients action.actor = some (.execute statement next)) :
    step perform world action =
      ⟨(advance perform statement next world.state action.event).1,
        Function.update world.clients action.actor
          (advance perform statement next world.state action.event).2⟩ := by
  simp [step, left]

theorem step_of_ended {world : World Client State Statement Reply Fault α}
    {action : Action Client Choice Fault}
    (ended : ∀ statement next, world.clients action.actor ≠ some (.execute statement next)) :
    step perform world action = world := by
  unfold step
  split
  next statement next left => exact absurd left (ended statement next)
  next => rfl

variable (rules) (post : Client → Except Fault α → State → Prop)

/-- The invariant holds, and what is left of every client's program is safe. -/
structure Sound (world : World Client State Statement Reply Fault α) : Prop where
  invariant : rules.Invariant world.state
  safe : ∀ client program, world.clients client = some program →
    rules.Safe client (post client) program world.state

variable {rules post} {world : World Client State Statement Reply Fault α}

omit [DecidableEq Client] in
theorem sound_initial {programs : Client → Program Statement Reply Fault α}
    {pre : Client → State → Prop} {state : State} (holds : rules.Invariant state)
    (triples : ∀ client, rules.Triple client (pre client) (programs client) (post client))
    (met : ∀ client, pre client state) :
    Sound rules post ⟨state, fun client => some (programs client)⟩ where
  invariant := holds
  safe client program left := by
    cases left
    exact (triples client).safe state holds (met client)

omit [DecidableEq Client] in
theorem Rules.Safe.advance {post : Except Fault α → State → Prop} {state : State}
    (safe : rules.Safe client post (.execute statement next) state)
    (holds : rules.Invariant state) (event : Event Choice Fault) :
    rules.Invariant (advance rules.perform statement next state event).1 ∧
      rules.guarantee client state (advance rules.perform statement next state event).1 ∧
      ∀ program ∈ (RelyGuarantee.advance rules.perform statement next state event).2,
        rules.Safe client post program
          (RelyGuarantee.advance rules.perform statement next state event).1 := by
  obtain ⟨assertion, asserted, -, performs⟩ := safe
  obtain ⟨failed, answered⟩ := performs state holds asserted
  rcases advance_cases rules.perform next state event with
    ⟨same, onward⟩ | ⟨choice, reply, performed, onward⟩
  · rw [same]
    refine ⟨holds, rules.guarantee_refl _ _, fun program left => ?_⟩
    obtain ⟨fault, rfl⟩ := onward program left
    exact failed fault
  · obtain ⟨kept, allowed, returned, raised⟩ := answered choice _ reply performed
    refine ⟨kept, allowed, fun program left => ?_⟩
    rcases onward program left with rfl | ⟨fault, rfl⟩
    · exact returned
    · exact raised fault

theorem sound_step (stays : ∀ client outcome, rules.Stable client (post client outcome))
    (sound : Sound rules post world) (action : Action Client Choice Fault) :
    Sound rules post (step rules.perform world action) ∧
      rules.guarantee action.actor world.state (step rules.perform world action).state := by
  by_cases running : ∃ statement next,
      world.clients action.actor = some (.execute statement next)
  · obtain ⟨statement, next, left⟩ := running
    obtain ⟨kept, allowed, own⟩ := (sound.safe _ _ left).advance sound.invariant action.event
    rw [step_execute rules.perform left]
    refine ⟨⟨kept, fun client program leftNow => ?_⟩, allowed⟩
    by_cases same : client = action.actor
    · subst same
      exact own program (by simpa using leftNow)
    · dsimp only at leftNow
      rw [Function.update_of_ne same] at leftNow
      exact Rules.Safe.stable (stays client) _ _
        (rules.compatible _ _ _ _ (Ne.symm same) sound.invariant allowed)
        (sound.safe client program leftNow)
  · rw [step_of_ended rules.perform (by simpa using running)]
    exact ⟨sound, rules.guarantee_refl _ _⟩

theorem sound_run (stays : ∀ client outcome, rules.Stable client (post client outcome))
    (sound : Sound rules post world) (actions : List (Action Client Choice Fault)) :
    Sound rules post (Machine.run (step rules.perform) world actions) := by
  apply Machine.run_invariant _ _ sound
  intro world action holds
  exact (sound_step stays holds action).1

omit [DecidableEq Client] in
theorem Sound.reached (sound : Sound rules post world) {client : Client}
    {outcome : Except Fault α} (ended : world.clients client = some (.done outcome)) :
    post client outcome world.state :=
  sound.safe client _ ended

/-! ### Clients that only read -/

variable (rules world) in
/-- Whatever is left of the client's program only reads. -/
def Idle (client : Client) : Prop :=
  ∀ program, world.clients client = some program → rules.Reading program

theorem Idle.step {client : Client} (idle : Idle rules world client)
    (action : Action Client Choice Fault) :
    Idle rules (step rules.perform world action) client ∧
      (action.actor = client → (step rules.perform world action).state = world.state) := by
  by_cases running : ∃ statement next,
      world.clients action.actor = some (.execute statement next)
  · obtain ⟨statement, next, left⟩ := running
    rw [step_execute rules.perform left]
    by_cases same : action.actor = client
    · obtain ⟨unchanged, rest⟩ := idle _ (same ▸ left)
      have onward :=
        @advance_cases _ _ _ _ _ _ rules.perform statement next world.state action.event
      refine ⟨fun program leftNow => ?_, fun _ => ?_⟩
      · rw [same] at leftNow
        simp only [Function.update_self] at leftNow
        rcases onward with ⟨-, failing⟩ | ⟨choice, reply, -, going⟩
        · obtain ⟨fault, rfl⟩ := failing program leftNow
          exact rest _
        · rcases going program leftNow with rfl | ⟨fault, rfl⟩
          · exact rest _
          · exact rest _
      · rcases onward with ⟨kept, -⟩ | ⟨choice, reply, performed, -⟩
        · exact kept
        · exact unchanged choice world.state _ reply performed
    · refine ⟨fun program leftNow => idle program ?_, fun actor => absurd actor same⟩
      dsimp only at leftNow
      rwa [Function.update_of_ne (Ne.symm same)] at leftNow
  · rw [step_of_ended rules.perform (by simpa using running)]
    exact ⟨idle, fun _ => rfl⟩

theorem Idle.run {client : Client} (idle : Idle rules world client)
    (actions : List (Action Client Choice Fault)) :
    Idle rules (Machine.run (RelyGuarantee.step rules.perform) world actions) client := by
  induction actions generalizing world with
  | nil => exact idle
  | cons action rest ih => exact ih (idle.step action).1

end Running

end RelyGuarantee
