import PaymentsPlatform.AgentApi.ToolPool
import PaymentsPlatform.Library.Dict

/-!
# The budget of a request

`_call` of `tools.py` with the records that it keeps, over any tree of calls within calls.  An
attempt that misses its deadline is left running and may go on calling.
-/

namespace PaymentsPlatform.AgentApi.ToolBudget

open ToolPool (ToolSettings)

/-! ## Exceptions -/

inductive Failure where
  | toolTimeout
  | toolLimitExceeded
  /-- An `OSError`, as `TimeoutError` and `ConnectionError` are. -/
  | osError (name : String)
  /-- Any other `Exception`. -/
  | exception (name : String)
  /-- What `except Exception` lets through. -/
  | exit (name : String)
  deriving DecidableEq

/-- `_is_transient`. -/
def Failure.isTransient : Failure → Bool
  | toolTimeout => true
  | osError _ => true
  | _ => false

/-- `type(exc).__name__`. -/
def Failure.category : Failure → String
  | toolTimeout => "ToolTimeout"
  | toolLimitExceeded => "ToolLimitExceeded"
  | osError name => name
  | exception name => name
  | exit name => name

/-- `isinstance(exc, Exception)`. -/
def Failure.isException : Failure → Bool
  | exit _ => false
  | _ => true

/-- What a call returns or raises. -/
abbrev Outcome := Except Failure Json

/-- The outcome is a value or an `Exception`. -/
def Ordinary : Outcome → Prop
  | .ok _ => True
  | .error failure => failure.isException = true

/-! ## The registry -/

/-- A function, by the calls that it makes and what it meets between them. -/
inductive Work where
  | finish (outcome : Outcome)
  | outside (next : Json → Work)
  | call (name : String) (function : Work) (next : Outcome → Work)

inductive Status where
  | completed
  | failed
  deriving DecidableEq

structure ToolCall where
  tool : String
  status : Status
  metadata : List (String × Json)

inductive Phase where
  /-- About to submit the function. -/
  | submitting
  /-- On the future of the thread. -/
  | waiting (thread : Nat)
  | finished (outcome : Outcome)

/-- A `_call`. -/
structure Call where
  record : ToolCall
  function : Work
  attempts : Nat
  phase : Phase

inductive Stage where
  | running (work : Work)
  /-- In `_call`. -/
  | calling (call : Nat) (next : Outcome → Work)
  | ended (outcome : Outcome)

/-- A thread, with the call that submitted what it runs if it is one of the pool. -/
structure Thread where
  attemptOf : Option Nat
  stage : Stage

structure ToolRegistry where
  calls : List Call
  threads : List Thread

/-- What befalls a thread while it takes a step. -/
inductive Event where
  | answered (answer : Json)
  /-- The deadline of `future.result` passes. -/
  | deadline
  /-- The pool is shut down. -/
  | refused

structure Action where
  thread : Nat
  event : Event

/-- `_execute_bounded` on a future, once it is submitted. -/
def executeBounded (ended : Option Outcome) : Event → Option Outcome
  | .deadline =>
      match ended with
      | some (.error failure) => some (.error failure)
      -- the function has returned after the deadline, and `future.exception()` is `None`
      | some (.ok _) => some (.error (.exception "TypeError"))
      | none => some (.error .toolTimeout)
  | _ => ended

section Calls

variable (settings : ToolSettings)

/-- The loop of `_call` after an attempt. -/
def Call.hear (call : Call) : Outcome → Call
  | .ok answer =>
      { call with
        record := { call.record with
          status := .completed
          metadata :=
            if call.attempts > 1 then
              Dict.put "retries" (.int (call.attempts - 1)) call.record.metadata
            else call.record.metadata }
        phase := .finished (.ok answer) }
  | .error (.exit name) => { call with phase := .finished (.error (.exit name)) }
  | .error failure =>
      { call with
        record := { call.record with
          status := .failed
          metadata := [("error_category", .string failure.category),
            ("attempts", .int call.attempts)] }
        phase :=
          if !failure.isTransient || call.attempts > settings.toolMaxRetries then
            .finished (.error failure)
          else .submitting }

/-- The call as it is recorded. -/
def Call.recorded (name : String) (function : Work) : Call :=
  ⟨⟨name, .completed, []⟩, function, 0, .submitting⟩

def Call.submitted (call : Call) (thread : Nat) : Call :=
  { call with attempts := call.attempts + 1, phase := .waiting thread }

end Calls

namespace ToolRegistry

variable (registry : ToolRegistry)

def ended (thread : Nat) : Option Outcome :=
  match registry.threads[thread]?.map Thread.stage with
  | some (.ended outcome) => some outcome
  | _ => none

def setStage (thread : Nat) (stage : Stage) : ToolRegistry :=
  { registry with threads := registry.threads.modify thread fun found => { found with stage := stage } }

/-- What a call hears in `_execute_bounded`. -/
def heard (call : Call) (event : Event) : Option Outcome :=
  match call.phase, event with
  | .submitting, .refused => some (.error (.exception "RuntimeError"))
  | .waiting thread, event => executeBounded (registry.ended thread) event
  | _, _ => none

/-- The call that the action makes hear something, and what. -/
def hearing (action : Action) : Option (Nat × Outcome) :=
  match registry.threads[action.thread]?.map Thread.stage with
  | some (.calling position _) =>
      (registry.calls[position]?).bind fun call =>
        (registry.heard call action.event).map (position, ·)
  | _ => none

/-- A step of a thread that runs a function. -/
def work (settings : ToolSettings) (thread : Nat) (event : Event) : Work → ToolRegistry
  | .finish outcome => registry.setStage thread (.ended outcome)
  | .outside next =>
      match event with
      | .answered answer => registry.setStage thread (.running (next answer))
      | _ => registry
  | .call name function next =>
      if registry.calls.length ≥ settings.maxToolCalls then
        registry.setStage thread (.running (next (.error .toolLimitExceeded)))
      else
        { registry.setStage thread (.calling registry.calls.length next) with
          calls := registry.calls ++ [.recorded name function] }

/-- A step of a thread in `_call`. -/
def await (settings : ToolSettings) (thread : Nat) (event : Event) (position : Nat)
    (next : Outcome → Work) (call : Call) : ToolRegistry :=
  match registry.heard call event with
  | some outcome =>
      let attempted :=
        match call.phase with
        | .submitting => { call with attempts := call.attempts + 1 }
        | _ => call
      { registry with calls := registry.calls.set position (attempted.hear settings outcome) }
  | none =>
      match call.phase with
      | .submitting =>
          { calls := registry.calls.set position (call.submitted registry.threads.length)
            threads := registry.threads ++ [⟨some position, .running call.function⟩] }
      | .waiting _ => registry
      | .finished outcome => registry.setStage thread (.running (next outcome))

def step (settings : ToolSettings) (registry : ToolRegistry) (action : Action) : ToolRegistry :=
  match registry.threads[action.thread]?.map Thread.stage with
  | some (.running work) => registry.work settings action.thread action.event work
  | some (.calling position next) =>
      match registry.calls[position]? with
      | some call => registry.await settings action.thread action.event position next call
      | none => registry
  | _ => registry

/-- Threads of the request, before any call. -/
def initial (works : List Work) : ToolRegistry :=
  ⟨[], works.map fun work => ⟨none, .running work⟩⟩

def attempted : List (Option Nat) := registry.threads.map Thread.attemptOf

/-- How often the function of the call has been submitted. -/
def submissions (position : Nat) : Nat := registry.attempted.count (some position)

/-! ## One step -/

@[simp]
theorem attempted_setStage (thread : Nat) (stage : Stage) :
    (registry.setStage thread stage).attempted = registry.attempted := by
  simp only [attempted, setStage]
  apply List.ext_getElem?
  intro position
  rw [List.getElem?_map, List.getElem?_map, List.getElem?_modify]
  split <;> cases registry.threads[position]? <;> rfl

/-- What a step does to the calls and to what the pool is given, by what it makes heard. -/
inductive Change (settings : ToolSettings) (registry after : ToolRegistry) :
    Option (Nat × Outcome) → Prop where
  | silent (calls : after.calls = registry.calls)
      (attempted : after.attempted = registry.attempted) : Change settings registry after none
  | recorded (name : String) (function : Work)
      (room : registry.calls.length < settings.maxToolCalls)
      (calls : after.calls = registry.calls ++ [.recorded name function])
      (attempted : after.attempted = registry.attempted) : Change settings registry after none
  | submitted (position thread : Nat) (call : Call) (found : registry.calls[position]? = some call)
      (phase : call.phase = .submitting)
      (calls : after.calls = registry.calls.set position (call.submitted thread))
      (attempted : after.attempted = registry.attempted ++ [some position]) :
      Change settings registry after none
  | heard (position : Nat) (call hearer : Call) (outcome : Outcome)
      (found : registry.calls[position]? = some call)
      (hears : (call.phase = .submitting ∧ hearer = { call with attempts := call.attempts + 1 }) ∨
        ((∃ thread, call.phase = .waiting thread) ∧ hearer = call))
      (calls : after.calls = registry.calls.set position (hearer.hear settings outcome))
      (attempted : after.attempted = registry.attempted) :
      Change settings registry after (some (position, outcome))

variable {settings : ToolSettings} {registry}

theorem work_change (thread : Nat) (event : Event) (work : Work) :
    Change settings registry (registry.work settings thread event work) none := by
  cases work with
  | finish outcome => exact .silent rfl (attempted_setStage ..)
  | outside next =>
      cases event with
      | answered answer => exact .silent rfl (attempted_setStage ..)
      | deadline => exact .silent rfl rfl
      | refused => exact .silent rfl rfl
  | call name function next =>
      simp only [work]
      split
      next => exact .silent rfl (attempted_setStage ..)
      next room => exact .recorded name function (Nat.not_le.mp room) rfl (attempted_setStage ..)

theorem await_change {position : Nat} {call : Call} (found : registry.calls[position]? = some call)
    (thread : Nat) (event : Event) (next : Outcome → Work) :
    Change settings registry (registry.await settings thread event position next call)
      ((registry.heard call event).map (position, ·)) := by
  unfold await
  cases isHeard : registry.heard call event with
  | some outcome =>
      cases phase : call.phase with
      | submitting => exact .heard position call _ outcome found (Or.inl ⟨phase, rfl⟩) rfl rfl
      | waiting future =>
          exact .heard position call _ outcome found (Or.inr ⟨⟨future, phase⟩, rfl⟩) rfl rfl
      | finished ended =>
          simp only [heard, phase] at isHeard
          cases isHeard
  | none =>
      cases phase : call.phase with
      | submitting =>
          refine .submitted position registry.threads.length call found phase rfl ?_
          simp [attempted]
      | waiting future => exact .silent rfl rfl
      | finished ended => exact .silent rfl (attempted_setStage ..)

theorem step_change (action : Action) :
    Change settings registry (registry.step settings action) (registry.hearing action) := by
  unfold step hearing
  cases registry.threads[action.thread]?.map Thread.stage with
  | none => exact .silent rfl rfl
  | some stage =>
      cases stage with
      | running work => exact work_change action.thread action.event work
      | ended outcome => exact .silent rfl rfl
      | calling position next =>
          cases found : registry.calls[position]? with
          | none =>
              simp only [found]
              exact .silent rfl rfl
          | some call =>
              simp only [found]
              exact await_change found action.thread action.event next

end ToolRegistry

section Hearing

variable {settings : ToolSettings} (call : Call)

@[simp]
theorem hear_attempts (outcome : Outcome) :
    (call.hear settings outcome).attempts = call.attempts := by
  rcases outcome with failure | answer
  · cases failure <;> rfl
  · rfl

theorem hear_phase (outcome : Outcome) :
    ((call.hear settings outcome).phase = .submitting ∧
        (∃ failure, outcome = .error failure ∧ failure.isTransient = true) ∧
        call.attempts ≤ settings.toolMaxRetries) ∨
      (call.hear settings outcome).phase = .finished outcome := by
  rcases outcome with failure | answer
  · cases failure with
    | exit name => exact Or.inr rfl
    | toolLimitExceeded => exact Or.inr rfl
    | exception name => exact Or.inr rfl
    | toolTimeout =>
        by_cases spent : call.attempts > settings.toolMaxRetries
        · exact Or.inr (by simp [Call.hear, spent])
        · exact Or.inl ⟨by simp [Call.hear, spent, Failure.isTransient], ⟨_, rfl, rfl⟩,
            Nat.not_lt.mp spent⟩
    | osError name =>
        by_cases spent : call.attempts > settings.toolMaxRetries
        · exact Or.inr (by simp [Call.hear, spent])
        · exact Or.inl ⟨by simp [Call.hear, spent, Failure.isTransient], ⟨_, rfl, rfl⟩,
            Nat.not_lt.mp spent⟩
  · exact Or.inr rfl

theorem hear_status {outcome : Outcome} (ordinary : Ordinary outcome) :
    (call.hear settings outcome).record.status = .completed ↔ ∃ answer, outcome = .ok answer := by
  rcases outcome with failure | answer
  · cases failure with
    | exit name => cases ordinary
    | toolLimitExceeded => simp [Call.hear]
    | exception name => simp [Call.hear]
    | toolTimeout => simp [Call.hear]
    | osError name => simp [Call.hear]
  · exact iff_of_true rfl ⟨answer, rfl⟩

end Hearing

/-! ## Every run -/

section Runs

variable (settings : ToolSettings)

/-- What holds of a call that has been submitted so often. -/
structure Call.Sound (submissions : Nat) (call : Call) : Prop where
  counted : submissions ≤ call.attempts
  bounded : call.attempts ≤ settings.toolMaxRetries + 1
  again : call.phase = .submitting → call.attempts ≤ settings.toolMaxRetries
  told : ∀ outcome, call.phase = .finished outcome → Ordinary outcome →
    (call.record.status = .completed ↔ ∃ answer, outcome = .ok answer)

structure Sound (registry : ToolRegistry) : Prop where
  budget : registry.calls.length ≤ settings.maxToolCalls
  known : ∀ position, some position ∈ registry.attempted → position < registry.calls.length
  calls : ∀ position (call : Call), registry.calls[position]? = some call →
    call.Sound settings (registry.submissions position)

variable {settings}

theorem recorded_sound (name : String) (function : Work) :
    (Call.recorded name function).Sound settings 0 where
  counted := Nat.le_refl 0
  bounded := Nat.zero_le _
  again _ := Nat.zero_le _
  told _ finished := nomatch finished

theorem submitted_sound {submissions : Nat} {call : Call} (sound : call.Sound settings submissions)
    (phase : call.phase = .submitting) (thread : Nat) :
    (call.submitted thread).Sound settings (submissions + 1) where
  counted := Nat.succ_le_succ sound.counted
  bounded := Nat.succ_le_succ (sound.again phase)
  again submitting := nomatch submitting
  told _ finished := nomatch finished

theorem hear_sound {submissions : Nat} {call : Call}
    (counted : submissions ≤ call.attempts) (bounded : call.attempts ≤ settings.toolMaxRetries + 1)
    (outcome : Outcome) : (call.hear settings outcome).Sound settings submissions where
  counted := by rwa [hear_attempts]
  bounded := by rwa [hear_attempts]
  again submitting := by
    rcases hear_phase call outcome with ⟨-, -, left⟩ | finished
    · rwa [hear_attempts]
    · rw [finished] at submitting
      cases submitting
  told ended isEnded ordinary := by
    rcases hear_phase call outcome with ⟨submitting, -⟩ | finished
    · rw [submitting] at isEnded
      cases isEnded
    · cases finished.symm.trans isEnded
      exact hear_status call ordinary

variable {registry after : ToolRegistry}

theorem sound_of_set (sound : Sound settings registry) {position : Nat} {changed : Call}
    (listed : position < registry.calls.length)
    (calls : after.calls = registry.calls.set position changed)
    (known : ∀ other, some other ∈ after.attempted → some other ∈ registry.attempted ∨ other = position)
    (others : ∀ other, other ≠ position → after.submissions other = registry.submissions other)
    (soundNow : changed.Sound settings (after.submissions position)) : Sound settings after where
  budget := by
    rw [calls, List.length_set]
    exact sound.budget
  known other isAttempted := by
    rw [calls, List.length_set]
    rcases known other isAttempted with before | rfl
    · exact sound.known other before
    · exact listed
  calls other call found := by
    rw [calls, List.getElem?_set] at found
    split at found
    next same =>
      subst same
      cases found
      exact soundNow
    next distinct =>
      rw [others other (Ne.symm distinct)]
      exact sound.calls other call found

/-- A step keeps the calls sound. -/
theorem step_sound (sound : Sound settings registry) (action : Action) :
    Sound settings (registry.step settings action) := by
  have change : ToolRegistry.Change settings registry (registry.step settings action) _ :=
    ToolRegistry.step_change action
  generalize registry.hearing action = heard at change
  cases change with
  | silent calls attempted =>
      refine ⟨calls ▸ sound.budget, ?_, ?_⟩
      · rw [attempted, calls]
        exact sound.known
      · simp only [ToolRegistry.submissions, attempted, calls]
        exact sound.calls
  | recorded name function room calls attempted =>
      have fresh : registry.submissions registry.calls.length = 0 :=
        List.count_eq_zero.mpr fun listed => (sound.known _ listed).false
      refine ⟨by simpa [calls] using Nat.succ_le_of_lt room, ?_, ?_⟩
      · intro position listed
        rw [attempted] at listed
        simpa [calls] using Nat.lt_succ_of_lt (sound.known position listed)
      · intro position call found
        have same : (registry.step settings action).submissions = registry.submissions := by
          funext position
          simp only [ToolRegistry.submissions, attempted]
        rw [same]
        rw [calls] at found
        by_cases earlier : position < registry.calls.length
        · rw [List.getElem?_append_left earlier] at found
          exact sound.calls position call found
        · rw [List.getElem?_append_right (Nat.not_lt.mp earlier), List.getElem?_singleton] at found
          split at found
          next atEnd =>
            cases found
            have last : position = registry.calls.length := by omega
            rw [last, fresh]
            exact recorded_sound name function
          next => cases found
  | submitted position thread call found phase calls attempted =>
      have count (other : Nat) : (registry.step settings action).submissions other =
          registry.submissions other + if position = other then 1 else 0 := by
        simp [ToolRegistry.submissions, attempted, List.count_singleton]
      refine sound_of_set sound (List.getElem?_eq_some_iff.mp found).1 calls ?_ ?_ ?_
      · intro other listed
        rw [attempted] at listed
        rcases List.mem_append.mp listed with before | now
        · exact Or.inl before
        · exact Or.inr (Option.some.inj (List.mem_singleton.mp now))
      · intro other distinct
        rw [count, if_neg distinct.symm, Nat.add_zero]
      · rw [count, if_pos rfl]
        exact submitted_sound (sound.calls position call found) phase thread
  | heard position call hearer outcome found hears calls attempted =>
      have same : (registry.step settings action).submissions = registry.submissions := by
        funext position
        simp only [ToolRegistry.submissions, attempted]
      have soundCall := sound.calls position call found
      refine sound_of_set sound (List.getElem?_eq_some_iff.mp found).1 calls ?_ ?_ ?_
      · intro other listed
        exact Or.inl (attempted ▸ listed)
      · intro other distinct
        rw [same]
      · rw [same]
        rcases hears with ⟨phase, rfl⟩ | ⟨-, rfl⟩
        · exact hear_sound (Nat.le_succ_of_le soundCall.counted)
            (Nat.succ_le_succ (soundCall.again phase)) outcome
        · exact hear_sound soundCall.counted soundCall.bounded outcome

/-- The call is done and its function has been submitted so often. -/
def Settled (position submissions : Nat) (outcome : Outcome) (registry : ToolRegistry) : Prop :=
  registry.submissions position = submissions ∧
    ∃ call, registry.calls[position]? = some call ∧ call.phase = .finished outcome

theorem step_settled {position submissions : Nat} {outcome : Outcome}
    (settled : Settled position submissions outcome registry) (action : Action) :
    Settled position submissions outcome (registry.step settings action) := by
  obtain ⟨counted, call, found, finished⟩ := settled
  have change : ToolRegistry.Change settings registry (registry.step settings action) _ :=
    ToolRegistry.step_change action
  generalize registry.hearing action = heard at change
  cases change with
  | silent calls attempted =>
      refine ⟨?_, call, ?_, finished⟩
      · rwa [ToolRegistry.submissions, attempted]
      · rwa [calls]
  | recorded name function room calls attempted =>
      refine ⟨?_, call, ?_, finished⟩
      · rwa [ToolRegistry.submissions, attempted]
      · rw [calls, List.getElem?_append_left (List.getElem?_eq_some_iff.mp found).1]
        exact found
  | submitted other thread submitting foundOther phase calls attempted =>
      have distinct : other ≠ position := by
        rintro rfl
        cases foundOther.symm.trans found
        cases phase.symm.trans finished
      refine ⟨?_, call, ?_, finished⟩
      · simpa [ToolRegistry.submissions, attempted, distinct] using counted
      · rwa [calls, List.getElem?_set_ne distinct]
  | heard other waiting hearer heard foundOther hears calls attempted =>
      have distinct : other ≠ position := by
        rintro rfl
        cases foundOther.symm.trans found
        rcases hears with ⟨phase, -⟩ | ⟨⟨thread, phase⟩, -⟩
        · cases phase.symm.trans finished
        · cases phase.symm.trans finished
      refine ⟨?_, call, ?_, finished⟩
      · rwa [ToolRegistry.submissions, attempted]
      · rwa [calls, List.getElem?_set_ne distinct]

theorem settled_of_hearing {action : Action} {position : Nat} {failure : Failure}
    (hears : registry.hearing action = some (position, .error failure))
    (permanent : failure.isTransient = false) :
    Settled position (registry.submissions position) (.error failure)
      (registry.step settings action) := by
  have change : ToolRegistry.Change settings registry (registry.step settings action) _ :=
    ToolRegistry.step_change action
  rw [hears] at change
  cases change with
  | heard position call hearer outcome found hears calls attempted =>
      refine ⟨by simp only [ToolRegistry.submissions, attempted], hearer.hear settings (.error failure), ?_, ?_⟩
      · rw [calls, List.getElem?_set_self (List.getElem?_eq_some_iff.mp found).1]
      · rcases hear_phase hearer (.error failure) with ⟨-, ⟨other, isError, transient⟩, -⟩ | finished
        · cases isError
          rw [permanent] at transient
          cases transient
        · exact finished

/-- The registry of a request whose threads have taken the steps. -/
def reached (settings : ToolSettings) (works : List Work) (actions : List Action) : ToolRegistry :=
  Machine.run (ToolRegistry.step settings) (ToolRegistry.initial works) actions

/-- What `_call` promises of a run. -/
structure Controlled (settings : ToolSettings) (works : List Work) (actions : List Action) :
    Prop where
  budget : (reached settings works actions).calls.length ≤ settings.maxToolCalls
  submitted : ∀ position,
    (reached settings works actions).submissions position ≤ settings.toolMaxRetries + 1
  /-- After a failure that is not transient the function is not submitted again, and the failure
  is what the call raises. -/
  permanent : ∀ earlier action later, actions = earlier ++ action :: later →
    ∀ position failure,
      (reached settings works earlier).hearing action = some (position, .error failure) →
      failure.isTransient = false →
      Settled position ((reached settings works earlier).submissions position) (.error failure)
        (reached settings works actions)
  told : ∀ call ∈ (reached settings works actions).calls, ∀ outcome,
    call.phase = .finished outcome → Ordinary outcome →
    (call.record.status = .completed ↔ ∃ answer, outcome = .ok answer)

theorem initial_sound (settings : ToolSettings) (works : List Work) :
    Sound settings (.initial works) where
  budget := Nat.zero_le _
  known position listed := by simp [ToolRegistry.attempted, ToolRegistry.initial] at listed
  calls position call found := by simp [ToolRegistry.initial] at found

/-- Whatever tree of calls the threads run, in whatever order and with whatever failures. -/
theorem toolCalls_controlled (settings : ToolSettings) (works : List Work)
    (actions : List Action) : Controlled settings works actions := by
  have sound : Sound settings (reached settings works actions) := by
    have kept : ∀ registry action, Sound settings registry →
        Sound settings (ToolRegistry.step settings registry action) :=
      fun _ action sound => step_sound sound action
    exact Machine.run_invariant _ kept (initial_sound settings works) actions
  refine ⟨sound.budget, ?_, ?_, ?_⟩
  · intro position
    rcases found : (reached settings works actions).calls[position]? with _ | call
    · have unknown : (reached settings works actions).submissions position = 0 :=
        List.count_eq_zero.mpr fun listed =>
          absurd (sound.known position listed) (Nat.not_lt.mpr (List.getElem?_eq_none_iff.mp found))
      rw [unknown]
      exact Nat.zero_le _
    · have soundCall := sound.calls position call found
      exact soundCall.counted.trans soundCall.bounded
  · rintro earlier action later rfl position failure hears permanent
    have kept : ∀ registry action,
        Settled position ((reached settings works earlier).submissions position) (.error failure)
          registry →
        Settled position ((reached settings works earlier).submissions position) (.error failure)
          (ToolRegistry.step settings registry action) :=
      fun _ action settled => step_settled settled action
    have ran : reached settings works (earlier ++ action :: later) =
        Machine.run (ToolRegistry.step settings)
          ((reached settings works earlier).step settings action) later :=
      Machine.run_append _ _ earlier (action :: later)
    rw [ran]
    exact Machine.run_invariant _ kept (settled_of_hearing hears permanent) later
  · intro call listed
    obtain ⟨position, found⟩ := List.getElem?_of_mem listed
    exact (sound.calls position call found).told

end Runs

end PaymentsPlatform.AgentApi.ToolBudget
