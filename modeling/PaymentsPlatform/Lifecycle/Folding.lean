import Mathlib.Data.List.Forall2
import PaymentsPlatform.Lifecycle.Skeleton

/-!
# Folding the events of one correlation id

The keyed state of a correlation id is a function of the first deliveries of
its events: `run_firsts` removes every later one.  On first deliveries the fold
is the plain recursion `history`, which pairs each state with its transition, and
the facts about a whole run are inductions over it.
-/

namespace PaymentsPlatform.Lifecycle

/-- An event, and the clock reading at which it is processed. -/
abbrev Delivery := NormalisedEvent × String

/-- The stage, the status and the timestamp are texts. -/
structure NormalisedEvent.Texts (event : NormalisedEvent) : Prop where
  stage : ∃ text, event.technicalStage = .string text
  status : ∃ text, event.technicalStatus = .string text
  timestamp : ∃ text, event.eventTimestamp = .string text

/-- The deliveries of one correlation id, one after the other. -/
def run (runtime : Runtime) (keyed : KeyedState) :
    List Delivery → Except Raised (KeyedState × List Record)
  | [] => .ok (keyed, [])
  | (event, now) :: rest =>
      match processElement runtime event now keyed with
      | .error raised => .error raised
      | .ok (next, records) =>
          (run runtime next rest).map fun (last, later) => (last, records ++ later)

/-- The deliveries whose event id has not been seen before. -/
def firsts (seen : List String) : List Delivery → List Delivery
  | [] => []
  | (event, now) :: rest =>
      if event.eventId ∈ seen then firsts seen rest
      else (event, now) :: firsts (seen ++ [event.eventId]) rest

/-- A sequence in which copies of events have been inserted, each after its first copy. -/
inductive Redelivered (deliveries : List Delivery) : List Delivery → Prop where
  | once : Redelivered deliveries deliveries
  | again {before after : List Delivery} {event : NormalisedEvent} (first now : String) :
      Redelivered deliveries (before ++ after) → (event, first) ∈ before →
        Redelivered deliveries (before ++ (event, now) :: after)

/-! ## First deliveries -/

section Firsts

variable {runtime : Runtime}

theorem seenEventIds_processElement {event : NormalisedEvent} {now : String}
    {keyed next : KeyedState} {records : List Record} (fresh : event.eventId ∉ keyed.seenEventIds)
    (processed : processElement runtime event now keyed = .ok (next, records)) :
    next.seenEventIds = keyed.seenEventIds ++ [event.eventId] := by
  unfold processElement at processed
  rw [if_neg fresh] at processed
  split at processed
  next => simp at processed
  next =>
    simp only [Except.ok.injEq, Prod.mk.injEq] at processed
    rw [← processed.1]

theorem processElement_seen {event : NormalisedEvent} {keyed : KeyedState}
    (seen : event.eventId ∈ keyed.seenEventIds) (now : String) :
    processElement runtime event now keyed = .ok (keyed, []) := by
  rw [processElement, if_pos seen]

theorem run_firsts (runtime : Runtime) (deliveries : List Delivery) (keyed : KeyedState) :
    run runtime keyed deliveries = run runtime keyed (firsts keyed.seenEventIds deliveries) := by
  induction deliveries generalizing keyed with
  | nil => rfl
  | cons delivery rest ih =>
      obtain ⟨event, now⟩ := delivery
      by_cases seen : event.eventId ∈ keyed.seenEventIds
      · rw [firsts, if_pos seen, run, processElement_seen seen]
        dsimp only
        rw [ih keyed]
        cases run runtime keyed (firsts keyed.seenEventIds rest) <;> rfl
      · rw [firsts, if_neg seen, run, run]
        cases processed : processElement runtime event now keyed with
        | error raised => rfl
        | ok answer =>
            obtain ⟨next, records⟩ := answer
            dsimp only
            rw [ih next, seenEventIds_processElement seen processed]

theorem firsts_insert {seen : List String} {before after : List Delivery}
    {event : NormalisedEvent} (now : String)
    (repeated : event.eventId ∈ seen ∨ ∃ first, (event, first) ∈ before) :
    firsts seen (before ++ (event, now) :: after) = firsts seen (before ++ after) := by
  induction before generalizing seen with
  | nil =>
      have isSeen : event.eventId ∈ seen := by simpa using repeated
      simp [firsts, isSeen]
  | cons delivery rest ih =>
      obtain ⟨other, time⟩ := delivery
      have restRepeated {more : List String} (kept : seen ⊆ more)
          (added : other.eventId ∈ more) :
          event.eventId ∈ more ∨ ∃ first, (event, first) ∈ rest := by
        rcases repeated with
          isSeen | ⟨first, mem⟩
        · exact .inl (kept isSeen)
        · rcases List.mem_cons.mp mem with
            same | later
          · rw [Prod.mk.injEq] at same
            exact .inl (same.1 ▸ added)
          · exact .inr ⟨first, later⟩
      simp only [List.cons_append, firsts]
      split
      next known => exact ih (restRepeated (fun _ mem => mem) known)
      next => rw [ih (restRepeated (by simp) (by simp))]

theorem Redelivered.firsts_eq {deliveries redelivered : List Delivery}
    (copies : Redelivered deliveries redelivered) : firsts [] redelivered = firsts [] deliveries := by
  induction copies with
  | once => rfl
  | again first now _ mem ih =>
      rw [firsts_insert now (.inr ⟨first, mem⟩), ih]

end Firsts

/-! ## The history of first deliveries -/

/-- The text of a status. -/
def statusText : Json → String
  | .string text => text
  | _ => ""

/-- The event reports a retry, in whatever case. -/
def NormalisedEvent.isRetry (event : NormalisedEvent) : Bool :=
  (statusText event.technicalStatus).toLower = "retrying"

/-- The state after a first delivery. -/
def advance (previous : Option LifecycleState) (delivery : Delivery) : LifecycleState :=
  currentState delivery.1 delivery.2 previous (statusText delivery.1.technicalStatus).toLower

/-- Each first delivery's state and transition. -/
def history (runtime : Runtime) (previous : Option LifecycleState) :
    List Delivery → List (LifecycleState × Transition)
  | [] => []
  | delivery :: rest =>
      (advance previous delivery, transitionOf runtime delivery.1 delivery.2 previous) ::
        history runtime (some (advance previous delivery)) rest

/-- The state after all of them. -/
def finalState (previous : Option LifecycleState) (deliveries : List Delivery) :
    Option LifecycleState :=
  deliveries.foldl (fun previous delivery => some (advance previous delivery)) previous

/-- The records of one first delivery. -/
def recordsOf (entry : LifecycleState × Transition) : List Record :=
  [.state entry.1, .transition entry.2]

section Texts

variable {runtime : Runtime}

theorem processElement_fresh {event : NormalisedEvent} {keyed : KeyedState}
    (texts : event.Texts) (fresh : event.eventId ∉ keyed.seenEventIds) (now : String) :
    processElement runtime event now keyed =
      .ok (⟨keyed.seenEventIds ++ [event.eventId], some (advance keyed.state (event, now))⟩,
        recordsOf (advance keyed.state (event, now), transitionOf runtime event now keyed.state)) := by
  obtain ⟨text, isText⟩ := texts.status
  rw [processElement, if_neg fresh]
  simp only [isText, lower, advance, statusText, recordsOf]

theorem run_eq (runtime : Runtime) {deliveries : List Delivery}
    (texts : ∀ delivery ∈ deliveries, delivery.1.Texts) (keyed : KeyedState) :
    run runtime keyed deliveries =
      .ok (⟨keyed.seenEventIds ++
            (firsts keyed.seenEventIds deliveries).map fun delivery => delivery.1.eventId,
          finalState keyed.state (firsts keyed.seenEventIds deliveries)⟩,
        (history runtime keyed.state (firsts keyed.seenEventIds deliveries)).flatMap recordsOf) := by
  induction deliveries generalizing keyed with
  | nil => simp [run, firsts, finalState, history]
  | cons delivery rest ih =>
      obtain ⟨event, now⟩ := delivery
      have restTexts : ∀ delivery ∈ rest, delivery.1.Texts :=
        fun delivery mem => texts delivery (List.mem_cons_of_mem _ mem)
      by_cases seen : event.eventId ∈ keyed.seenEventIds
      · rw [run, firsts, if_pos seen, processElement_seen seen]
        dsimp only
        rw [ih restTexts]
        rfl
      · have isText : event.Texts := texts (event, now) (by simp)
        rw [run, firsts, if_neg seen, processElement_fresh isText seen]
        dsimp only
        rw [ih restTexts]
        simp [Except.map, finalState, history]

end Texts

/-! ## Facts about a history -/

/-- Each transition leaves the stage and the status that the one before has reached. -/
def Chained (stage status : Json) : List Transition → Prop
  | [] => True
  | transition :: rest =>
      transition.fromStage = stage ∧ transition.fromStatus = status ∧
        Chained transition.toStage transition.toStatus rest

theorem history_chained (runtime : Runtime) (previous : Option LifecycleState)
    (deliveries : List Delivery) :
    Chained ((previous.map LifecycleState.currentStage).getD .null)
      ((previous.map LifecycleState.currentStatus).getD .null)
      ((history runtime previous deliveries).map Prod.snd) := by
  induction deliveries generalizing previous with
  | nil => trivial
  | cons delivery rest ih =>
      exact ⟨rfl, rfl, ih (some (advance previous delivery))⟩

/-- The records of an entry are those of the delivery's event. -/
structure Describes (delivery : Delivery) (entry : LifecycleState × Transition) : Prop where
  lastEventId : entry.1.lastEventId = delivery.1.eventId
  currentStage : entry.1.currentStage = delivery.1.technicalStage
  currentStatus : entry.1.currentStatus = delivery.1.technicalStatus
  lastEventTimestamp : entry.1.lastEventTimestamp = delivery.1.eventTimestamp
  eventId : entry.2.eventId = delivery.1.eventId
  toStage : entry.2.toStage = delivery.1.technicalStage
  toStatus : entry.2.toStatus = delivery.1.technicalStatus
  eventTimestamp : entry.2.eventTimestamp = delivery.1.eventTimestamp

theorem history_describes (runtime : Runtime) (previous : Option LifecycleState)
    (deliveries : List Delivery) :
    List.Forall₂ Describes deliveries (history runtime previous deliveries) := by
  induction deliveries generalizing previous with
  | nil => exact .nil
  | cons delivery rest ih =>
      exact .cons ⟨rfl, rfl, rfl, rfl, rfl, rfl, rfl, rfl⟩
        (ih (some (advance previous delivery)))

theorem finalState_retryCount (previous : Option LifecycleState) (deliveries : List Delivery) :
    ((finalState previous deliveries).map LifecycleState.retryCount).getD 0 =
      (previous.map LifecycleState.retryCount).getD 0 +
        deliveries.countP fun delivery => delivery.1.isRetry := by
  induction deliveries generalizing previous with
  | nil => simp [finalState]
  | cons delivery rest ih =>
      have counted : (advance previous delivery).retryCount =
          (previous.map LifecycleState.retryCount).getD 0 +
            if delivery.1.isRetry then 1 else 0 := by
        simp [advance, currentState, NormalisedEvent.isRetry]
      have later := ih (some (advance previous delivery))
      rw [List.countP_cons]
      simp only [finalState, List.foldl_cons, Option.map_some, Option.getD_some] at later ⊢
      omega

theorem finalState_firstSeenAt (state : LifecycleState) (deliveries : List Delivery) :
    (finalState (some state) deliveries).map LifecycleState.firstSeenAt =
      some state.firstSeenAt := by
  induction deliveries generalizing state with
  | nil => rfl
  | cons delivery rest ih =>
      have kept : (advance (some state) delivery).firstSeenAt = state.firstSeenAt := rfl
      rw [finalState, List.foldl_cons, ← finalState, ih, kept]

theorem finalState_lastEventId (previous : Option LifecycleState) (deliveries : List Delivery) :
    (finalState previous deliveries).map LifecycleState.lastEventId =
      (deliveries.getLast?.map fun delivery => delivery.1.eventId).or
        (previous.map LifecycleState.lastEventId) := by
  induction deliveries generalizing previous with
  | nil => rfl
  | cons delivery rest ih =>
      have reached : (advance previous delivery).lastEventId = delivery.1.eventId := rfl
      rw [finalState, List.foldl_cons, ← finalState, ih, Option.map_some, reached,
        List.getLast?_cons]
      cases rest.getLast? <;> rfl

/-! ## Whole runs -/

/-- The keyed state of a correlation id that has not been seen. -/
def KeyedState.initial : KeyedState := ⟨[], none⟩

/-- What a run of deliveries has emitted and left. -/
structure Folded (deliveries : List Delivery) (keyed : KeyedState) (records : List Record) :
    Prop where
  /-- One state and one transition record for each first delivery, in order, and the
  transitions form a chain from null. -/
  emitted : ∃ entries : List (LifecycleState × Transition),
    records = entries.flatMap recordsOf ∧ List.Forall₂ Describes (firsts [] deliveries) entries ∧
      Chained .null .null (entries.map Prod.snd)
  /-- The state of a run that has a delivery at all. -/
  state : ∀ first ∈ deliveries.head?, ∃ last ∈ (firsts [] deliveries).getLast?,
    ∃ state, keyed.state = some state ∧ state.firstSeenAt = first.2 ∧
      state.lastEventId = last.1.eventId ∧
      state.retryCount = (firsts [] deliveries).countP fun delivery => delivery.1.isRetry

/-- What one more delivery does after those before: a repeated event changes nothing, any other
emits two records. -/
def DeliveredOnce (runtime : Runtime) (before : List Delivery) (event : NormalisedEvent)
    (now : String) : Prop :=
  ∃ keyed records, run runtime .initial before = .ok (keyed, records) ∧
    if event.eventId ∈ before.map fun delivery => delivery.1.eventId then
      processElement runtime event now keyed = .ok (keyed, [])
    else
      ∃ next entry, Describes (event, now) entry ∧
        processElement runtime event now keyed = .ok (next, recordsOf entry)

theorem mem_firsts_eventIds (identity : String) (seen : List String) (deliveries : List Delivery) :
    identity ∈ seen ++ (firsts seen deliveries).map (fun delivery => delivery.1.eventId) ↔
      identity ∈ seen ++ deliveries.map fun delivery => delivery.1.eventId := by
  induction deliveries generalizing seen with
  | nil => rfl
  | cons delivery rest ih =>
      obtain ⟨event, now⟩ := delivery
      rw [firsts]
      split
      next known =>
        rw [ih seen]
        simp only [List.map_cons, List.mem_append, List.mem_cons]
        constructor
        · rintro (isSeen | later)
          · exact .inl isSeen
          · exact .inr (.inr later)
        · rintro (isSeen | rfl | later)
          · exact .inl isSeen
          · exact .inl known
          · exact .inr later
      next =>
        have later := ih (seen ++ [event.eventId])
        simpa only [List.map_cons, List.append_assoc, List.cons_append, List.nil_append] using later

theorem folded_run {runtime : Runtime} {deliveries : List Delivery}
    (texts : ∀ delivery ∈ deliveries, delivery.1.Texts) :
    ∃ keyed records, run runtime .initial deliveries = .ok (keyed, records) ∧
      Folded deliveries keyed records := by
  refine ⟨_, _, run_eq runtime texts .initial, ?_, ?_⟩
  · exact ⟨_, rfl, history_describes runtime none (firsts [] deliveries),
      history_chained runtime none (firsts [] deliveries)⟩
  · intro first isFirst
    rcases deliveries with
      _ | ⟨delivery, rest⟩
    · simp at isFirst
    · obtain rfl : delivery = first := by simpa using isFirst
      have kept : firsts [] (delivery :: rest) =
          delivery :: firsts [delivery.1.eventId] rest := by
        simp [firsts]
      have counted := finalState_retryCount none (firsts [] (delivery :: rest))
      have named := finalState_lastEventId none (firsts [] (delivery :: rest))
      have dated := finalState_firstSeenAt (advance none delivery)
        (firsts [delivery.1.eventId] rest)
      rw [kept] at counted named
      obtain ⟨state, isFinal, firstSeen⟩ := Option.map_eq_some_iff.mp dated
      have isState : finalState none (delivery :: firsts [delivery.1.eventId] rest) = some state :=
        isFinal
      obtain ⟨last, isLast⟩ : ∃ last,
          (delivery :: firsts [delivery.1.eventId] rest).getLast? = some last :=
        ⟨_, List.getLast?_cons⟩
      rw [isState] at counted named
      rw [isLast] at named
      refine ⟨last, ?_, state, ?_, firstSeen, ?_, ?_⟩
      · rw [kept, isLast]
        exact rfl
      · simp only [KeyedState.initial, kept, isState]
      · simpa using named
      · simpa [kept] using counted

theorem deliveredOnce {runtime : Runtime} {before : List Delivery} {event : NormalisedEvent}
    (texts : ∀ delivery ∈ before, delivery.1.Texts) (isText : event.Texts) (now : String) :
    DeliveredOnce runtime before event now := by
  refine ⟨_, _, run_eq runtime texts .initial, ?_⟩
  have seen_iff := mem_firsts_eventIds event.eventId [] before
  simp only [List.nil_append] at seen_iff
  split
  next repeated => exact processElement_seen (seen_iff.mpr repeated) now
  next fresh =>
    exact ⟨_, _, ⟨rfl, rfl, rfl, rfl, rfl, rfl, rfl, rfl⟩,
      processElement_fresh isText (fun seen => fresh (seen_iff.mp seen)) now⟩

theorem lifecycle_folds (runtime : Runtime) (deliveries : List Delivery)
    (texts : ∀ delivery ∈ deliveries, delivery.1.Texts) :
    (∃ keyed records, run runtime .initial deliveries = .ok (keyed, records) ∧
        Folded deliveries keyed records) ∧
      (∀ before event now after, deliveries = before ++ (event, now) :: after →
        DeliveredOnce runtime before event now) ∧
      ∀ redelivered, Redelivered deliveries redelivered →
        run runtime .initial redelivered = run runtime .initial deliveries := by
  refine ⟨folded_run texts, ?_, ?_⟩
  · rintro before event now after rfl
    exact deliveredOnce (fun delivery mem => texts delivery (by simp [mem]))
      (texts (event, now) (by simp)) now
  · intro redelivered copies
    rw [run_firsts, run_firsts runtime deliveries]
    exact congrArg (run runtime .initial) copies.firsts_eq

/-! ## A retried payment -/

def sampleRuntime : Runtime where
  jobName := "j1-lifecycle-state-skeleton"
  loads _ := .error ⟨"JSONDecodeError", "Expecting value: line 1 column 1 (char 0)"⟩
  str _ := ""
  reprTooDeep _ := false
  nestsTooDeep _ := false
  encodes _ := true
  encodes_empty := rfl
  uuid5 name := name

def sampleEvent (eventId stage status : String) : NormalisedEvent where
  correlationId := "c-1"
  eventId := eventId
  messageId := none
  eventType := none
  sourceSystem := some "wendi"
  technicalStage := .string stage
  technicalStatus := .string status
  eventTimestamp := .string "2026-09-18T12:00:00Z"
  kafkaTopic := some "wendi.pain001"
  kafkaPartition := some 0
  kafkaOffset := some 7

def retriedPayment : List Delivery :=
  [(sampleEvent "e-1" "SUBMITTED" "ok", "t1"), (sampleEvent "e-2" "SUBMITTED" "Retrying", "t2"),
    (sampleEvent "e-1" "SUBMITTED" "ok", "t3"), (sampleEvent "e-3" "SETTLED" "ok", "t4")]

theorem sampleEvent_texts (eventId stage status : String) :
    (sampleEvent eventId stage status).Texts :=
  ⟨⟨stage, rfl⟩, ⟨status, rfl⟩, ⟨_, rfl⟩⟩

theorem retriedPayment_folds :
    ∃ keyed records, run sampleRuntime .initial retriedPayment = .ok (keyed, records) ∧
      Folded retriedPayment keyed records := by
  have texts : ∀ delivery ∈ retriedPayment, delivery.1.Texts := by
    intro delivery mem
    simp only [retriedPayment, List.mem_cons, List.not_mem_nil, or_false] at mem
    rcases mem with
      rfl | rfl | rfl | rfl <;> exact sampleEvent_texts _ _ _
  exact (lifecycle_folds sampleRuntime retriedPayment texts).1

end PaymentsPlatform.Lifecycle
