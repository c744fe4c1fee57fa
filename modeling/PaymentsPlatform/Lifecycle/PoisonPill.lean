import PaymentsPlatform.Lifecycle.Folding

/-!
# Envelopes that fail the job

An exception in an operator restarts the job, which reads the same envelope
again.  `Harmless` says, in terms of the body of an envelope and of the event ids
that are still remembered, which envelopes are dropped or give rows of the sinks'
types; a run, whichever event ids expire before which envelope, is free of
failures exactly when each of its envelopes is harmless where it is read
(`fineRun_iff_harmless`).
-/

namespace PaymentsPlatform.Lifecycle

/-- The value is a text. -/
def IsText (value : Json) : Prop := ∃ text, value = .string text

/-- The value fits a text column: it is a text that can be written in UTF-8. -/
def FitsText (runtime : Runtime) (value : Json) : Prop :=
  ∃ text, value = .string text ∧ runtime.encodes text

/-- The value fits a nullable text column. -/
def FitsNullable (runtime : Runtime) (value : Json) : Prop := value = .null ∨ FitsText runtime value

/-- The stages, the statuses and the timestamps of the rows fit text columns; only what a first
transition comes from is null. -/
structure Rows.Fit (runtime : Runtime) (rows : Rows) : Prop where
  states : ∀ row ∈ rows.states, FitsText runtime row.currentStage ∧
    FitsText runtime row.currentStatus ∧ FitsText runtime row.lastEventTimestamp ∧
    ∀ stage ∈ row.stageHistory, FitsText runtime stage
  transitions : ∀ row ∈ rows.transitions, FitsNullable runtime row.fromStage ∧
    FitsNullable runtime row.fromStatus ∧ FitsText runtime row.toStage ∧
    FitsText runtime row.toStatus ∧ FitsText runtime row.eventTimestamp

/-- The envelope is dropped or gives rows that fit the sinks. -/
def Fine (runtime : Runtime) (result : Except Raised (Job × Rows)) : Prop :=
  match result with
  | .error _ => False
  | .ok (_, rows) => rows.Fit runtime

/-- The three fields that the rows copy from a body. -/
def bodyFields : List String := ["technical_stage", "technical_status", "event_timestamp"]

/-- The body can be passed on: nothing in it is nested too deeply, and its correlation id has a
UTF-8 form. -/
structure PassesOn (runtime : Runtime) (members : List (String × Json)) (correlationId : Json) :
    Prop where
  id : runtime.reprTooDeep correlationId = false
  fields : ∀ field ∈ bodyFields, runtime.nestsTooDeep (textField members field) = false
  encodes : runtime.encodes (runtime.text correlationId)

/-- The text is JSON or is refused as such and, unless the envelope is dropped, its body can be
passed on, and is repeated or has in the three fields nothing or what fits a text column. -/
def HarmlessBody (runtime : Runtime) (job : Job) (eventId text : String) : Prop :=
  (∀ raised, runtime.loads text = .error raised → raised.name = "JSONDecodeError") ∧
    ∀ members, runtime.loads text = .ok (.object members) →
      ∀ correlationId ∈ usableCorrelationId members, PassesOn runtime members correlationId ∧
        (eventId ∈ (job (runtime.text correlationId)).seenEventIds ∨
          ∀ field ∈ bodyFields, (Json.get members field).truthy →
            FitsText runtime (Json.get members field))

/-- The envelope has no event id, no text, or a harmless one. -/
def Harmless (runtime : Runtime) (job : Job) (row : Envelope) : Prop :=
  ∀ eventId ∈ row.eventId, eventId ≠ "" → ∀ text ∈ row.parsedEventData, text ≠ "" →
    HarmlessBody runtime job eventId text

/-- The Kafka coordinate of the envelope is there. -/
def Envelope.Provenance (row : Envelope) : Prop :=
  row.kafkaTopic.isSome ∧ row.kafkaPartition.isSome ∧ row.kafkaOffset.isSome

/-- An envelope as it is read: the time, and the entries of `seen_event_ids` that the last
`J1_DEDUP_TTL_HOURS` hours have not refreshed. -/
structure Arrival where
  row : Envelope
  now : String
  expired : String → String → Bool

/-- `Job.process`, in the state that the arrival finds. -/
def Job.arrive (runtime : Runtime) (job : Job) (arrival : Arrival) : Except Raised (Job × Rows) :=
  (job.expire arrival.expired).process runtime arrival.row arrival.now

/-- Every envelope of the run is dropped or gives rows that fit the sinks. -/
def FineRun (runtime : Runtime) (job : Job) : List Arrival → Prop
  | [] => True
  | arrival :: rest =>
      Fine runtime (job.arrive runtime arrival) ∧
        ∀ next rows, job.arrive runtime arrival = .ok (next, rows) → FineRun runtime next rest

/-- Every envelope of the run is harmless in the state in which it is read. -/
def HarmlessRun (runtime : Runtime) (job : Job) : List Arrival → Prop
  | [] => True
  | arrival :: rest =>
      Harmless runtime (job.expire arrival.expired) arrival.row ∧
        ∀ next rows, job.arrive runtime arrival = .ok (next, rows) → HarmlessRun runtime next rest

/-! ## The keyed states -/

structure LifecycleState.Fits (runtime : Runtime) (state : LifecycleState) : Prop where
  stage : FitsText runtime state.currentStage
  status : FitsText runtime state.currentStatus
  history : ∀ stage ∈ state.stageHistory, FitsText runtime stage

/-- The invariant of the runs whose envelopes are harmless. -/
def Job.Fits (runtime : Runtime) (job : Job) : Prop :=
  ∀ correlationId, ∀ state ∈ (job correlationId).state, state.Fits runtime

structure NormalisedEvent.Fits (runtime : Runtime) (event : NormalisedEvent) : Prop where
  stage : FitsText runtime event.technicalStage
  status : FitsText runtime event.technicalStatus
  timestamp : FitsText runtime event.eventTimestamp

section Columns

variable {runtime : Runtime}

theorem FitsText.isText {value : Json} (fits : FitsText runtime value) : IsText value :=
  fits.imp fun _ both => both.1

theorem Job.initial_fits : Job.initial.Fits runtime := by
  intro correlationId state mem
  simp [Job.initial] at mem

theorem Job.Fits.expire {job : Job} (fits : job.Fits runtime)
    (expired : String → String → Bool) : (job.expire expired).Fits runtime := fits

theorem extendHistory_fits {history : List Json} {stage : Json}
    (fits : ∀ earlier ∈ history, FitsText runtime earlier) (isText : FitsText runtime stage) :
    ∀ later ∈ extendHistory history stage, FitsText runtime later := by
  intro later mem
  unfold extendHistory at mem
  split at mem
  next =>
    rcases List.mem_append.mp mem with
      earlier | last
    · exact fits later earlier
    · rw [List.mem_singleton.mp last]
      exact isText
  next => exact fits later mem

theorem currentState_fits {event : NormalisedEvent} (fits : event.Fits runtime)
    (now status : String) {previous : Option LifecycleState}
    (held : ∀ state ∈ previous, state.Fits runtime) :
    (currentState event now previous status).Fits runtime := by
  refine ⟨fits.stage, fits.status, ?_⟩
  apply extendHistory_fits _ fits.stage
  cases previous with
  | none => simp
  | some state => exact (held state rfl).history

end Columns

/-! ## One event -/

section Deliver

variable (runtime : Runtime) {job : Job} {event : NormalisedEvent} (now : String)

theorem deliver_unencodable (job : Job) {event : NormalisedEvent}
    (unencodable : runtime.encodes event.correlationId = false) :
    ∃ raised, job.deliver runtime event now = .error raised := by
  refine ⟨⟨"UnicodeEncodeError", "surrogates not allowed"⟩, ?_⟩
  simp only [Job.deliver, keyed, unencodable, bind, Except.bind, Bool.false_eq_true, if_false]

theorem deliver_seen (encodes : runtime.encodes event.correlationId)
    (seen : event.eventId ∈ (job event.correlationId).seenEventIds) :
    job.deliver runtime event now = .ok (job, ⟨[], []⟩) := by
  simp [Job.deliver, keyed, encodes, processElement_seen seen, extractRows, bind, Except.bind, pure,
    Except.pure]

theorem deliver_failed (fresh : event.eventId ∉ (job event.correlationId).seenEventIds)
    (notText : ¬ IsText event.technicalStatus) :
    ∃ raised, job.deliver runtime event now = .error raised := by
  have failed : ∃ raised, lower event.technicalStatus = .error raised := by
    cases status : event.technicalStatus with
    | string text => exact absurd ⟨text, status⟩ notText
    | _ => exact ⟨_, rfl⟩
  obtain ⟨raised, failed⟩ := failed
  by_cases encodes : runtime.encodes event.correlationId
  · refine ⟨raised, ?_⟩
    simp [Job.deliver, keyed, encodes, processElement, fresh, failed, bind, Except.bind]
  · exact deliver_unencodable runtime now job (by simpa using encodes)

theorem deliver_fresh (encodes : runtime.encodes event.correlationId)
    (fresh : event.eventId ∉ (job event.correlationId).seenEventIds)
    (isText : IsText event.technicalStatus) {topic : String} {partition offset : Int}
    (isTopic : event.kafkaTopic = some topic) (isPartition : event.kafkaPartition = some partition)
    (isOffset : event.kafkaOffset = some offset) :
    ∃ status,
      job.deliver runtime event now =
        .ok (Function.update job event.correlationId
            ⟨(job event.correlationId).seenEventIds ++ [event.eventId],
              some (currentState event now (job event.correlationId).state status)⟩,
          ⟨[stateRow (currentState event now (job event.correlationId).state status)],
            [transitionRow (transitionOf runtime event now (job event.correlationId).state) topic
              partition offset]⟩) := by
  obtain ⟨text, isStatus⟩ := isText
  have extracted : extractTransitionPayload
      (.transition (transitionOf runtime event now (job event.correlationId).state)) =
        .ok [transitionRow (transitionOf runtime event now (job event.correlationId).state) topic
          partition offset] := by
    simp only [extractTransitionPayload, transitionOf, isTopic, isPartition, isOffset]
  refine ⟨text.toLower, ?_⟩
  simp [Job.deliver, keyed, encodes, processElement, fresh, isStatus, lower, extractRows, bind,
    Except.bind, pure, Except.pure, extracted, extractStatePayload, List.mapM_cons]
  rfl

theorem rows_fit_iff (event : NormalisedEvent) {previous : Option LifecycleState}
    (held : ∀ state ∈ previous, state.Fits runtime) (status topic : String)
    (partition offset : Int) :
    Rows.Fit runtime ⟨[stateRow (currentState event now previous status)],
        [transitionRow (transitionOf runtime event now previous) topic partition offset]⟩ ↔
      event.Fits runtime := by
  constructor
  · intro rows
    obtain ⟨stage, status, timestamp, -⟩ := rows.states _ (List.mem_singleton.mpr rfl)
    exact ⟨stage, status, timestamp⟩
  · intro fits
    constructor
    · intro row mem
      rw [List.mem_singleton.mp mem]
      exact ⟨fits.stage, fits.status, fits.timestamp,
        (currentState_fits fits now status held).history⟩
    · intro row mem
      rw [List.mem_singleton.mp mem]
      refine ⟨?_, ?_, fits.stage, fits.status, fits.timestamp⟩
      · cases previous with
        | none => exact .inl rfl
        | some state => exact .inr (held state rfl).stage
      · cases previous with
        | none => exact .inl rfl
        | some state => exact .inr (held state rfl).status

variable {runtime} in
theorem update_fits (held : job.Fits runtime) {state : LifecycleState} (fits : state.Fits runtime)
    (correlationId : String) (seen : List String) :
    Job.Fits runtime (Function.update job correlationId ⟨seen, some state⟩) := by
  intro other present mem
  by_cases same : other = correlationId
  · subst same
    rw [Function.update_self, Option.mem_some_iff] at mem
    exact mem ▸ fits
  · rw [Function.update_of_ne same] at mem
    exact held other present mem

theorem fine_deliver_iff (held : job.Fits runtime) {topic : String} {partition offset : Int}
    (isTopic : event.kafkaTopic = some topic) (isPartition : event.kafkaPartition = some partition)
    (isOffset : event.kafkaOffset = some offset) :
    (Fine runtime (job.deliver runtime event now) ↔ runtime.encodes event.correlationId ∧
        (event.eventId ∈ (job event.correlationId).seenEventIds ∨ event.Fits runtime)) ∧
      (Fine runtime (job.deliver runtime event now) → ∀ next rows,
        job.deliver runtime event now = .ok (next, rows) → next.Fits runtime) := by
  by_cases encodes : runtime.encodes event.correlationId
  swap
  · obtain ⟨raised, failed⟩ := deliver_unencodable runtime now job (by simpa using encodes)
    rw [failed]
    exact ⟨iff_of_false id fun both => encodes both.1, fun fine => fine.elim⟩
  by_cases seen : event.eventId ∈ (job event.correlationId).seenEventIds
  · rw [deliver_seen runtime now encodes seen]
    refine ⟨iff_of_true ⟨by simp, by simp⟩ ⟨encodes, .inl seen⟩, ?_⟩
    rintro - next rows same
    simp only [Except.ok.injEq, Prod.mk.injEq] at same
    exact same.1 ▸ held
  by_cases isText : IsText event.technicalStatus
  · obtain ⟨status, delivered⟩ :=
      deliver_fresh runtime now encodes seen isText isTopic isPartition isOffset
    have fine_iff := rows_fit_iff runtime now event (held event.correlationId) status topic
      partition offset
    rw [delivered]
    refine ⟨fine_iff.trans (by simp [encodes, seen]), ?_⟩
    rintro fine next rows same
    simp only [Except.ok.injEq, Prod.mk.injEq] at same
    rw [← same.1]
    exact update_fits held (currentState_fits (fine_iff.mp fine) now status
      (held event.correlationId)) _ _
  · obtain ⟨raised, failed⟩ := deliver_failed runtime now seen isText
    rw [failed]
    refine ⟨iff_of_false id ?_, fun fine => fine.elim⟩
    rintro ⟨-, isSeen | fits⟩
    · exact seen isSeen
    · exact isText fits.status.isText

end Deliver

/-! ## One envelope -/

theorem fitsText_textField_iff (runtime : Runtime) (members : List (String × Json))
    (field : String) :
    FitsText runtime (textField members field) ↔
      ((Json.get members field).truthy → FitsText runtime (Json.get members field)) := by
  unfold textField Json.orElse
  split
  next truthy => simp [truthy]
  next falsy => simp [falsy, FitsText, runtime.encodes_empty]

theorem normalisedEvent_fits_iff {runtime : Runtime} {row : Envelope} {eventId : String}
    {members : List (String × Json)} {correlationId : Json} :
    (∀ field ∈ bodyFields, (Json.get members field).truthy →
        FitsText runtime (Json.get members field)) ↔
      (normalisedEvent runtime row eventId members correlationId).Fits runtime := by
  simp only [← fitsText_textField_iff, bodyFields, List.mem_cons, List.not_mem_nil, or_false,
    forall_eq_or_imp, forall_eq]
  constructor
  · rintro ⟨stage, status, timestamp⟩
    exact ⟨stage, status, timestamp⟩
  · intro fits
    exact ⟨fits.stage, fits.status, fits.timestamp⟩

section Dumped

variable {runtime : Runtime} (row : Envelope) (eventId : String) {members : List (String × Json)}
  {correlationId : Json}

theorem any_copied_iff (correlationId : Json) :
    (normalisedEvent runtime row eventId members correlationId).copied.any runtime.nestsTooDeep =
        false ↔
      ∀ field ∈ bodyFields, runtime.nestsTooDeep (textField members field) = false := by
  simp [NormalisedEvent.copied, bodyFields, normalisedEvent]

theorem dumped_of_tooDeep
    (tooDeep : ¬ (runtime.reprTooDeep correlationId = false ∧
      ∀ field ∈ bodyFields, runtime.nestsTooDeep (textField members field) = false)) :
    (if runtime.reprTooDeep correlationId then .error recursionError
      else dumped runtime (normalisedEvent runtime row eventId members correlationId)) =
      .error recursionError := by
  rw [← any_copied_iff row eventId correlationId] at tooDeep
  by_cases deepId : runtime.reprTooDeep correlationId = false
  · have deepField := Bool.eq_true_of_not_eq_false fun shallow => tooDeep ⟨deepId, shallow⟩
    simp [dumped, deepId, deepField]
  · simp [Bool.eq_true_of_not_eq_false deepId]

theorem dumped_of_shallow
    (shallow : runtime.reprTooDeep correlationId = false ∧
      ∀ field ∈ bodyFields, runtime.nestsTooDeep (textField members field) = false) :
    (if runtime.reprTooDeep correlationId then .error recursionError
      else dumped runtime (normalisedEvent runtime row eventId members correlationId)) =
      .ok (some (normalisedEvent runtime row eventId members correlationId)) := by
  have shallowFields := (any_copied_iff row eventId correlationId).mpr shallow.2
  simp [dumped, shallow.1, shallowFields]

end Dumped

/-- An envelope is dropped without a row. -/
def Dropped (runtime : Runtime) (row : Envelope) : Prop := parseEnvelope runtime row = .ok none

section Process

variable {runtime : Runtime} {job : Job} {row : Envelope}

theorem dropped_of_no_eventId (absent : ∀ eventId ∈ row.eventId, eventId = "") :
    Dropped runtime row := by
  unfold Dropped parseEnvelope
  cases named : row.eventId with
  | none => rfl
  | some eventId => simp [absent eventId named]

/-- An envelope with an event id and a text goes by what `json.loads` answers. -/
theorem parseEnvelope_eq (runtime : Runtime) {eventId text : String}
    (named : row.eventId = some eventId) (isNamed : eventId ≠ "")
    (read : row.parsedEventData = some text) (isRead : text ≠ "") :
    parseEnvelope runtime row =
      match runtime.loads text with
      | .ok (.object members) =>
          match usableCorrelationId members with
          | none => .ok none
          | some correlationId =>
              if runtime.reprTooDeep correlationId then .error recursionError
              else dumped runtime (normalisedEvent runtime row eventId members correlationId)
      | .ok _ => .ok none
      | .error raised =>
          if raised.name = "JSONDecodeError" then .ok none else .error raised := by
  have unempty : eventId.isEmpty = false := by simpa using isNamed
  have readable : text.isEmpty = false := by simpa using isRead
  simp only [parseEnvelope, named, unempty, parsedBody, read, readable, Bool.false_eq_true,
    if_false]
  cases runtime.loads text with
  | ok body => cases body <;> rfl
  | error raised => by_cases decode : raised.name = "JSONDecodeError" <;> simp [decode]

theorem dropped_of_no_text {eventId : String} (named : row.eventId = some eventId)
    (unread : ∀ text ∈ row.parsedEventData, text = "") : Dropped runtime row := by
  have body : parsedBody runtime row.parsedEventData = .ok .null := by
    cases read : row.parsedEventData with
    | none => rfl
    | some text => simp [parsedBody, unread text read]
  unfold Dropped parseEnvelope
  simp [named, body]

theorem fine_of_dropped (held : job.Fits runtime) (now : String) (dropped : Dropped runtime row)
    (harmless : Harmless runtime job row) :
    (Fine runtime (job.process runtime row now) ↔ Harmless runtime job row) ∧
      (Fine runtime (job.process runtime row now) → ∀ next rows,
        job.process runtime row now = .ok (next, rows) → next.Fits runtime) := by
  have processed : job.process runtime row now = .ok (job, ⟨[], []⟩) := by
    rw [Job.process, dropped]
  rw [processed]
  refine ⟨iff_of_true ⟨by simp, by simp⟩ harmless, ?_⟩
  rintro - next rows same
  simp only [Except.ok.injEq, Prod.mk.injEq] at same
  exact same.1 ▸ held

theorem fine_process_iff (runtime : Runtime) (held : job.Fits runtime)
    (provenance : row.Provenance) (now : String) :
    (Fine runtime (job.process runtime row now) ↔ Harmless runtime job row) ∧
      (Fine runtime (job.process runtime row now) → ∀ next rows,
        job.process runtime row now = .ok (next, rows) → next.Fits runtime) := by
  by_cases absent : ∀ eventId ∈ row.eventId, eventId = ""
  · exact fine_of_dropped held now (dropped_of_no_eventId absent)
      fun eventId named isNamed => absurd (absent eventId named) isNamed
  obtain ⟨eventId, named, isNamed⟩ : ∃ eventId, row.eventId = some eventId ∧ eventId ≠ "" := by
    simpa using absent
  by_cases unread : ∀ text ∈ row.parsedEventData, text = ""
  · exact fine_of_dropped held now (dropped_of_no_text named unread)
      fun _ _ _ text read isRead => absurd (unread text read) isRead
  obtain ⟨text, read, isRead⟩ : ∃ text, row.parsedEventData = some text ∧ text ≠ "" := by
    simpa using unread
  have parsed := parseEnvelope_eq runtime named isNamed read isRead
  have harmless_iff : Harmless runtime job row ↔ HarmlessBody runtime job eventId text := by
    simp [Harmless, named, isNamed, read, isRead]
  cases loaded : runtime.loads text with
  | error raised =>
      rw [loaded] at parsed
      by_cases decode : raised.name = "JSONDecodeError"
      · refine fine_of_dropped held now (by simpa [Dropped, decode] using parsed)
          (harmless_iff.mpr ?_)
        simp [HarmlessBody, loaded, decode]
      · have processed : job.process runtime row now = .error raised := by
          simp [Job.process, parsed, decode]
        rw [processed, harmless_iff]
        refine ⟨iff_of_false id ?_, fun fine => fine.elim⟩
        rintro ⟨refused, -⟩
        exact decode (refused raised loaded)
  | ok body =>
      rw [loaded] at parsed
      cases body with
      | object members =>
          cases usable : usableCorrelationId members with
          | none =>
              refine fine_of_dropped held now (by simpa [Dropped, usable] using parsed)
                (harmless_iff.mpr ?_)
              simp [HarmlessBody, loaded, usable]
          | some correlationId =>
              have body_iff : HarmlessBody runtime job eventId text ↔
                  PassesOn runtime members correlationId ∧
                    (eventId ∈ (job (runtime.text correlationId)).seenEventIds ∨
                      (normalisedEvent runtime row eventId members correlationId).Fits runtime) := by
                rw [← normalisedEvent_fits_iff]
                simp [HarmlessBody, loaded, usable]
              by_cases shallow : runtime.reprTooDeep correlationId = false ∧
                  ∀ field ∈ bodyFields, runtime.nestsTooDeep (textField members field) = false
              swap
              · have processed : job.process runtime row now = .error recursionError := by
                  simp only [usable, dumped_of_tooDeep row eventId shallow] at parsed
                  rw [Job.process, parsed]
                rw [processed, harmless_iff, body_iff]
                exact ⟨iff_of_false id fun both => shallow ⟨both.1.id, both.1.fields⟩,
                  fun fine => fine.elim⟩
              have processed : job.process runtime row now = job.deliver runtime
                  (normalisedEvent runtime row eventId members correlationId) now := by
                simp only [usable, dumped_of_shallow row eventId shallow] at parsed
                rw [Job.process, parsed]
              have passesOn_iff : PassesOn runtime members correlationId ↔
                  runtime.encodes (runtime.text correlationId) :=
                ⟨PassesOn.encodes, fun encodes => ⟨shallow.1, shallow.2, encodes⟩⟩
              rw [passesOn_iff] at body_iff
              obtain ⟨topic, isTopic⟩ := Option.isSome_iff_exists.mp provenance.1
              obtain ⟨partition, isPartition⟩ := Option.isSome_iff_exists.mp provenance.2.1
              obtain ⟨offset, isOffset⟩ := Option.isSome_iff_exists.mp provenance.2.2
              rw [processed, harmless_iff, body_iff]
              exact fine_deliver_iff runtime now held isTopic isPartition isOffset
      | _ =>
          refine fine_of_dropped held now parsed (harmless_iff.mpr ?_)
          simp [HarmlessBody, loaded]

end Process

/-! ## Whole runs -/

theorem fineRun_iff {runtime : Runtime} {job : Job} (held : job.Fits runtime)
    {arrivals : List Arrival}
    (provenance : ∀ arrival ∈ arrivals, arrival.row.Provenance) :
    FineRun runtime job arrivals ↔ HarmlessRun runtime job arrivals := by
  induction arrivals generalizing job with
  | nil => rfl
  | cons arrival rest ih =>
      obtain ⟨fine_iff, kept⟩ := fine_process_iff runtime (held.expire arrival.expired)
        (provenance arrival (by simp)) arrival.now
      have restProvenance : ∀ later ∈ rest, later.row.Provenance :=
        fun later mem => provenance later (List.mem_cons_of_mem _ mem)
      constructor
      · rintro ⟨fine, later⟩
        refine ⟨fine_iff.mp fine, fun next rows processed => ?_⟩
        exact (ih (kept fine next rows processed) restProvenance).mp
          (later next rows processed)
      · rintro ⟨harmless, later⟩
        have fine := fine_iff.mpr harmless
        refine ⟨fine, fun next rows processed => ?_⟩
        exact (ih (kept fine next rows processed) restProvenance).mpr
          (later next rows processed)

theorem fineRun_iff_harmless (runtime : Runtime) (arrivals : List Arrival)
    (provenance : ∀ arrival ∈ arrivals, arrival.row.Provenance) :
    FineRun runtime .initial arrivals ↔ HarmlessRun runtime .initial arrivals :=
  fineRun_iff Job.initial_fits provenance

/-- The bodies of a settled payment and of one whose status is a number. -/
def settledBody : String :=
  "\x7b\"correlation_id\": \"c-1\", \"technical_status\": \"settled\"\x7d"

def numericStatusBody : String := "\x7b\"correlation_id\": \"c-1\", \"technical_status\": 1\x7d"

def bodyRuntime : Runtime :=
  { sampleRuntime with
    loads := fun text =>
      if text = settledBody then
        .ok (.object [("correlation_id", .string "c-1"), ("technical_status", .string "settled")])
      else if text = numericStatusBody then
        .ok (.object [("correlation_id", .string "c-1"), ("technical_status", .int 1)])
      else sampleRuntime.loads text }

def sampleEnvelope (body : String) : Envelope where
  eventId := some "e-1"
  messageId := none
  eventType := none
  sourceSystem := some "wendi"
  parsedEventData := some body
  kafkaTopic := some "wendi.pain001"
  kafkaPartition := some 0
  kafkaOffset := some 7

/-- Nothing has expired before the envelope is read. -/
def sampleArrival (body : String) : Arrival where
  row := sampleEnvelope body
  now := "t1"
  expired _ _ := false

theorem settled_fine : FineRun bodyRuntime .initial [sampleArrival settledBody] := by
  refine (fineRun_iff_harmless bodyRuntime [sampleArrival settledBody] ?_).mpr
    ⟨?_, fun _ _ _ => trivial⟩
  · intro arrival mem
    rw [List.mem_singleton.mp mem]
    exact ⟨rfl, rfl, rfl⟩
  · have loaded : bodyRuntime.loads settledBody = .ok (.object
        [("correlation_id", .string "c-1"), ("technical_status", .string "settled")]) := by
      simp [bodyRuntime]
    rintro eventId - - text read -
    obtain rfl : settledBody = text := by simpa [sampleArrival, sampleEnvelope] using read
    constructor
    · simp [loaded]
    · rintro members isLoaded correlationId -
      obtain rfl : _ = members := by simpa [loaded] using isLoaded
      refine ⟨⟨rfl, fun _ _ => rfl, rfl⟩, .inr fun field mem truthy => ?_⟩
      simp only [bodyFields, List.mem_cons, List.not_mem_nil, or_false] at mem
      rcases mem with
        rfl | rfl | rfl
      · exact absurd truthy (by decide)
      · exact ⟨"settled", rfl, rfl⟩
      · exact absurd truthy (by decide)

/-- The status of the second body has no `lower`. -/
theorem numericStatus_not_fine :
    Envelope.Provenance (sampleEnvelope numericStatusBody) ∧
      (Job.process bodyRuntime .initial (sampleEnvelope numericStatusBody) "t1").toOption = none ∧
      ¬ FineRun bodyRuntime .initial [sampleArrival numericStatusBody] := by
  have failed : Job.process bodyRuntime .initial (sampleEnvelope numericStatusBody) "t1" =
      .error ⟨"AttributeError", "'int' object has no attribute 'lower'"⟩ := by
    rfl
  refine ⟨⟨rfl, rfl, rfl⟩, by rw [failed]; rfl, ?_⟩
  rintro ⟨fine, -⟩
  have arrived : Job.arrive bodyRuntime .initial (sampleArrival numericStatusBody) =
      .error ⟨"AttributeError", "'int' object has no attribute 'lower'"⟩ := failed
  rw [arrived] at fine
  exact fine

end PaymentsPlatform.Lifecycle
