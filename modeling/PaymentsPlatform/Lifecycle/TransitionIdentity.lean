import PaymentsPlatform.Library.Separated
import PaymentsPlatform.Lifecycle.PoisonPill

/-!
# The identity of a transition

Consumers of the transitions topic keep the first transition of each `transition_id`.  The id is
made of the correlation id and the event id with a colon between them, and either may contain
colons.
-/

namespace PaymentsPlatform.Lifecycle

open Separated (Shifted)

/-- The transition is what the operator emits for the event: in whatever state, thus also once
the event id has expired, and at whatever time. -/
def Observes (runtime : Runtime) (event : NormalisedEvent) (transition : Transition) : Prop :=
  ∃ keyed now next state,
    processElement runtime event now keyed = .ok (next, [.state state, .transition transition])

/-- A consumer that suppresses the transitions whose id it has seen. -/
def suppressRepeated (seen : List String) : List Transition → List Transition
  | [] => []
  | transition :: rest =>
      if transition.transitionId ∈ seen then suppressRepeated seen rest
      else transition :: suppressRepeated (seen ++ [transition.transitionId]) rest

/-- The ids of the two events' transitions tell them apart, and nothing else does. -/
structure Identified (runtime : Runtime) (event other : NormalisedEvent) : Prop where
  equal : makeTransitionId runtime event.correlationId event.eventId =
      makeTransitionId runtime other.correlationId other.eventId ↔
    event.correlationId = other.correlationId ∧ event.eventId = other.eventId
  /-- No transition is suppressed for one of another event. -/
  kept : ∀ topic : List Transition,
    (∀ transition ∈ topic, Observes runtime event transition ∨ Observes runtime other transition) →
      ∀ transition ∈ topic, ∃ first ∈ suppressRepeated [] topic,
        first.correlationId = transition.correlationId ∧ first.eventId = transition.eventId
  replayed : ∀ transition again, Observes runtime event transition →
    Observes runtime event again → transition.transitionId = again.transitionId

/-- The joined text of the one pair of ids is that of the other with its seam at a later colon. -/
def Straddles (event other : NormalisedEvent) : Prop :=
  Shifted ':' event.correlationId.toList event.eventId.toList other.correlationId.toList
    other.eventId.toList

/-! ## Ids of transitions -/

section

variable {runtime : Runtime} {event other : NormalisedEvent} {transition : Transition}

theorem Observes.ids (observed : Observes runtime event transition) :
    transition.transitionId = makeTransitionId runtime event.correlationId event.eventId ∧
      transition.correlationId = event.correlationId ∧ transition.eventId = event.eventId := by
  obtain ⟨keyed, now, next, state, processed⟩ := observed
  unfold processElement at processed
  split at processed
  next => simp at processed
  next =>
    split at processed
    next => simp at processed
    next =>
      simp only [Except.ok.injEq, Prod.mk.injEq, List.cons.injEq, Record.transition.injEq]
        at processed
      rw [← processed.2.2.1]
      exact ⟨rfl, rfl, rfl⟩

theorem makeTransitionId_eq_iff (injective : Function.Injective runtime.uuid5)
    (event other : NormalisedEvent) :
    makeTransitionId runtime event.correlationId event.eventId =
        makeTransitionId runtime other.correlationId other.eventId ↔
      (event.correlationId = other.correlationId ∧ event.eventId = other.eventId) ∨
        Straddles event other ∨ Straddles other event := by
  have joined (correlationId eventId : String) :
      (correlationId ++ ":" ++ eventId).toList = correlationId.toList ++ ':' :: eventId.toList := by
    simp
  rw [makeTransitionId, makeTransitionId, injective.eq_iff, ← String.toList_inj, joined, joined,
    Separated.append_cons_eq_iff, String.toList_inj, String.toList_inj]
  rfl

/-! ## Consumers -/

theorem suppressRepeated_sublist (seen : List String) (topic : List Transition) :
    (suppressRepeated seen topic).Sublist topic := by
  induction topic generalizing seen with
  | nil => exact List.Sublist.slnil
  | cons transition rest ih =>
      rw [suppressRepeated]
      split
      next => exact (ih seen).cons transition
      next => exact (ih _).cons_cons transition

theorem exists_mem_suppressRepeated (seen : List String) {topic : List Transition}
    (listed : transition ∈ topic) :
    transition.transitionId ∈ seen ∨
      ∃ first ∈ suppressRepeated seen topic, first.transitionId = transition.transitionId := by
  induction topic generalizing seen with
  | nil => cases listed
  | cons head rest ih =>
      rw [suppressRepeated]
      rcases List.mem_cons.mp listed with rfl | later
      · split
        next known => exact .inl known
        next => exact .inr ⟨transition, List.mem_cons_self, rfl⟩
      · split
        next => exact ih seen later
        next =>
          rcases ih (seen ++ [head.transitionId]) later with known | found
          · rcases List.mem_append.mp known with before | here
            · exact .inl before
            · exact .inr ⟨head, List.mem_cons_self, (List.mem_singleton.mp here).symm⟩
          · obtain ⟨first, isFirst, same⟩ := found
            exact .inr ⟨first, List.mem_cons_of_mem head isFirst, same⟩

theorem kept_of_equal
    (equal : makeTransitionId runtime event.correlationId event.eventId =
        makeTransitionId runtime other.correlationId other.eventId →
      event.correlationId = other.correlationId ∧ event.eventId = other.eventId)
    {topic : List Transition}
    (observed : ∀ transition ∈ topic,
      Observes runtime event transition ∨ Observes runtime other transition)
    (listed : transition ∈ topic) :
    ∃ first ∈ suppressRepeated [] topic,
      first.correlationId = transition.correlationId ∧ first.eventId = transition.eventId := by
  rcases exists_mem_suppressRepeated [] listed with impossible | ⟨first, isFirst, same⟩
  · cases impossible
  · refine ⟨first, isFirst, ?_⟩
    have isObserved := observed first ((suppressRepeated_sublist [] topic).subset isFirst)
    rcases isObserved with one | one <;> rcases observed transition listed with another | another
    · rw [one.ids.2.1, one.ids.2.2, another.ids.2.1, another.ids.2.2]
      exact ⟨rfl, rfl⟩
    · rw [one.ids.1, another.ids.1] at same
      rw [one.ids.2.1, one.ids.2.2, another.ids.2.1, another.ids.2.2]
      exact equal same
    · rw [one.ids.1, another.ids.1] at same
      rw [one.ids.2.1, one.ids.2.2, another.ids.2.1, another.ids.2.2]
      exact ⟨(equal same.symm).1.symm, (equal same.symm).2.symm⟩
    · rw [one.ids.2.1, one.ids.2.2, another.ids.2.1, another.ids.2.2]
      exact ⟨rfl, rfl⟩

theorem identified_of_not_straddles (injective : Function.Injective runtime.uuid5)
    (apart : ¬ Straddles event other ∧ ¬ Straddles other event) :
    Identified runtime event other := by
  have equal := makeTransitionId_eq_iff injective event other
  simp only [apart.1, apart.2, or_false] at equal
  exact {
    equal := equal
    kept := fun _ observed _ listed => kept_of_equal equal.mp observed listed
    replayed := fun _ _ observed again => observed.ids.1.trans again.ids.1.symm }

theorem not_straddles_of_identified (injective : Function.Injective runtime.uuid5)
    (identified : Identified runtime event other) :
    ¬ Straddles event other ∧ ¬ Straddles other event := by
  have equal := makeTransitionId_eq_iff injective event other
  constructor
  · intro straddles
    have same := identified.equal.mp (equal.mpr (.inr (.inl straddles)))
    exact straddles.ne (congrArg String.toList same.1)
  · intro straddles
    have same := identified.equal.mp (equal.mpr (.inr (.inr straddles)))
    exact straddles.ne (congrArg String.toList same.1.symm)

/-- Of any two events, the ids of their transitions identify them exactly if the seam of the
joined text cannot lie at another colon. -/
theorem identified_iff (injective : Function.Injective runtime.uuid5)
    (event other : NormalisedEvent) :
    Identified runtime event other ↔ ¬ Straddles event other ∧ ¬ Straddles other event :=
  ⟨not_straddles_of_identified injective, identified_of_not_straddles injective⟩

end

/-! ## A correlation id with a colon -/

def correlationBody (correlationId : String) : String :=
  "\x7b\"correlation_id\": \"" ++ correlationId ++ "\"\x7d"

def correlationRuntime : Runtime :=
  { sampleRuntime with
    loads := fun text =>
      if text = correlationBody "PAY" then .ok (.object [("correlation_id", .string "PAY")])
      else if text = correlationBody "PAY:1" then
        .ok (.object [("correlation_id", .string "PAY:1")])
      else sampleRuntime.loads text }

def correlatedEnvelope (correlationId eventId : String) : Envelope :=
  { sampleEnvelope (correlationBody correlationId) with eventId := some eventId }

/-- The event that the envelope is passed on as. -/
def correlatedEvent (correlationId eventId : String) : NormalisedEvent :=
  normalisedEvent correlationRuntime (correlatedEnvelope correlationId eventId) eventId
    [("correlation_id", .string correlationId)] (.string correlationId)

theorem correlationRuntime_uuid5_injective : Function.Injective correlationRuntime.uuid5 :=
  fun _ _ same => same

/-- Without a colon in the correlation ids the events are told apart. -/
theorem plainCorrelation_identified :
    Identified correlationRuntime (correlatedEvent "PAY" "1:2") (correlatedEvent "PAY" "2") := by
  apply (identified_iff correlationRuntime_uuid5_injective _ _).mpr
  constructor
  · intro straddles
    exact straddles.ne rfl
  · intro straddles
    exact straddles.ne rfl

/-- Both envelopes are let through, and their transitions have one id. -/
theorem colonCorrelation_not_identified :
    parseEnvelope correlationRuntime (correlatedEnvelope "PAY" "1:2") =
        .ok (some (correlatedEvent "PAY" "1:2")) ∧
      parseEnvelope correlationRuntime (correlatedEnvelope "PAY:1" "2") =
        .ok (some (correlatedEvent "PAY:1" "2")) ∧
      Function.Injective correlationRuntime.uuid5 ∧
      ¬ Identified correlationRuntime (correlatedEvent "PAY" "1:2")
        (correlatedEvent "PAY:1" "2") := by
  refine ⟨rfl, rfl, correlationRuntime_uuid5_injective, ?_⟩
  intro identified
  apply (not_straddles_of_identified correlationRuntime_uuid5_injective identified).1
  exact ⟨['1'], by decide, by decide⟩

end PaymentsPlatform.Lifecycle
