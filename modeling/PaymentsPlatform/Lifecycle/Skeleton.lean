import PaymentsPlatform.Library.Json

/-!
# The lifecycle-state job

Job J1 of `j1_lifecycle_state_skeleton.py`: `ParseEnvelope` reads a technical
event out of an envelope, `LifecycleSkeleton` folds the events of one
correlation id into its keyed state, and two extractors turn each record into a
row of a sink table.  What travels between the operators as a JSON text is here
the value that the text encodes.

Clock readings and the functions of Python's libraries are arguments.  A text of
the model may stand for a Python text with a lone surrogate, which has no UTF-8
form: the runtime tells which.  An exception fails the job, which restarts from
the state before the element.
-/

namespace PaymentsPlatform.Lifecycle

/-- An exception: `type(error).__name__` and `str(error)`. -/
structure Raised where
  name : String
  message : String
  deriving DecidableEq, Repr

structure Runtime where
  jobName : String
  /-- `json.loads`. -/
  loads : String → Except Raised Json
  /-- `str(value)`, of what is not a text. -/
  str : Json → String
  /-- `str(value)` recurses too deeply. -/
  reprTooDeep : Json → Bool
  /-- A text with the value in it is too deeply nested to be dumped, and loaded again by the
  next operator. -/
  nestsTooDeep : Json → Bool
  /-- The text has a UTF-8 form. -/
  encodes : String → Bool
  encodes_empty : encodes "" = true
  /-- `str(uuid.uuid5(uuid.NAMESPACE_URL, name))`, of a name that has a UTF-8 form. -/
  uuid5 : String → String

/-! ## Parsing the envelope -/

/-- A row of the projection; every column may be null. -/
structure Envelope where
  eventId : Option String
  messageId : Option String
  eventType : Option String
  sourceSystem : Option String
  parsedEventData : Option String
  kafkaTopic : Option String
  kafkaPartition : Option Int
  kafkaOffset : Option Int

structure NormalisedEvent where
  correlationId : String
  eventId : String
  messageId : Option String
  eventType : Option String
  sourceSystem : Option String
  technicalStage : Json
  technicalStatus : Json
  eventTimestamp : Json
  kafkaTopic : Option String
  kafkaPartition : Option Int
  kafkaOffset : Option Int

/-- `UNKNOWN_KEY`. -/
def unknownKey : String := "unknown"

/-- `str(value)`. -/
def Runtime.text (runtime : Runtime) : Json → String
  | .string text => text
  | value => runtime.str value

/-- The body of an envelope: `None` if there is no text or it is not JSON. -/
def parsedBody (runtime : Runtime) (parsedEventData : Option String) : Except Raised Json :=
  match parsedEventData with
  | none => .ok .null
  | some text =>
      if text.isEmpty then .ok .null
      else
        match runtime.loads text with
        | .ok body => .ok body
        | .error raised => if raised.name = "JSONDecodeError" then .ok .null else .error raised

/-- The correlation id of a body, unless the envelope is dropped for the lack of one. -/
def usableCorrelationId (members : List (String × Json)) : Option Json :=
  let correlationId := Json.get members "correlation_id"
  if !correlationId.truthy || correlationId.eq (.string unknownKey) then none
  else some correlationId

/-- `body.get(field) or ""`. -/
def textField (members : List (String × Json)) (field : String) : Json :=
  (Json.get members field).orElse (.string "")

/-- The event that an envelope with a usable correlation id is passed on as. -/
def normalisedEvent (runtime : Runtime) (row : Envelope) (eventId : String)
    (members : List (String × Json)) (correlationId : Json) : NormalisedEvent where
  correlationId := runtime.text correlationId
  eventId := eventId
  messageId := row.messageId
  eventType := row.eventType
  sourceSystem := row.sourceSystem
  technicalStage := textField members "technical_stage"
  technicalStatus := textField members "technical_status"
  eventTimestamp := textField members "event_timestamp"
  kafkaTopic := row.kafkaTopic
  kafkaPartition := row.kafkaPartition
  kafkaOffset := row.kafkaOffset

/-- The members of the event that are copied from the body. -/
def NormalisedEvent.copied (event : NormalisedEvent) : List Json :=
  [event.technicalStage, event.technicalStatus, event.eventTimestamp]

def recursionError : Raised := ⟨"RecursionError", "maximum recursion depth exceeded"⟩

/-- The event as a text. -/
def dumped (runtime : Runtime) (event : NormalisedEvent) :
    Except Raised (Option NormalisedEvent) :=
  if event.copied.any runtime.nestsTooDeep then .error recursionError else .ok (some event)

/-- `ParseEnvelope.process_element`; `none` is a dropped envelope. -/
def parseEnvelope (runtime : Runtime) (row : Envelope) :
    Except Raised (Option NormalisedEvent) :=
  match row.eventId with
  | none => .ok none
  | some eventId =>
      if eventId.isEmpty then .ok none
      else
        match parsedBody runtime row.parsedEventData with
        | .error raised => .error raised
        | .ok (.object members) =>
            match usableCorrelationId members with
            | none => .ok none
            | some correlationId =>
                if runtime.reprTooDeep correlationId then .error recursionError
                else dumped runtime (normalisedEvent runtime row eventId members correlationId)
        | .ok _ => .ok none

/-! ## Folding the events of one correlation id -/

structure LifecycleState where
  correlationId : String
  currentStage : Json
  currentStatus : Json
  lastEventId : String
  lastEventTimestamp : Json
  lastProcessingTimestamp : String
  firstSeenAt : String
  updatedAt : String
  stageHistory : List Json
  retryCount : Nat
  slaDeadline : Json
  slaBreached : Bool
  endToEndId : Json
  instructionId : Json
  schemaVersion : String

structure Transition where
  transitionId : String
  correlationId : String
  eventId : String
  fromStage : Json
  fromStatus : Json
  toStage : Json
  toStatus : Json
  eventTimestamp : Json
  processingTimestamp : String
  sourceTopic : Option String
  sourcePartition : Option Int
  sourceOffset : Option Int
  jobId : String
  schemaVersion : String

/-- The records of `process_element`, told apart by their `__type`. -/
inductive Record where
  | state (payload : LifecycleState)
  | transition (payload : Transition)

/-- The keyed state of one correlation id. -/
structure KeyedState where
  seenEventIds : List String
  state : Option LifecycleState

def makeTransitionId (runtime : Runtime) (correlationId eventId : String) : String :=
  runtime.uuid5 (correlationId ++ ":" ++ eventId)

/-- The stage is appended unless it is empty or the last one already. -/
def extendHistory (history : List Json) (stage : Json) : List Json :=
  if stage.truthy && (history.isEmpty || !(history.getLastD .null).eq stage) then
    history ++ [stage]
  else history

def typeName : Json → String
  | .null => "NoneType"
  | .bool _ => "bool"
  | .int _ => "int"
  | .float _ => "float"
  | .string _ => "str"
  | .array _ => "list"
  | .object _ => "dict"

/-- `value.lower()`.  Outside ASCII no letter has a lower case that occurs in the one word that
the result is compared with. -/
def lower : Json → Except Raised String
  | .string text => .ok text.toLower
  | value => .error ⟨"AttributeError",
      "'" ++ typeName value ++ "' object has no attribute 'lower'"⟩

/-- The state after a first delivery of the event. -/
def currentState (event : NormalisedEvent) (now : String) (previous : Option LifecycleState)
    (status : String) : LifecycleState where
  correlationId := event.correlationId
  currentStage := event.technicalStage
  currentStatus := event.technicalStatus
  lastEventId := event.eventId
  lastEventTimestamp := event.eventTimestamp
  lastProcessingTimestamp := now
  firstSeenAt := (previous.map LifecycleState.firstSeenAt).getD now
  updatedAt := now
  stageHistory :=
    extendHistory ((previous.map LifecycleState.stageHistory).getD []) event.technicalStage
  retryCount := (previous.map LifecycleState.retryCount).getD 0 +
    if status = "retrying" then 1 else 0
  slaDeadline := .null
  slaBreached := false
  -- `ParseEnvelope` passes on neither of the two.
  endToEndId := .null
  instructionId := .null
  schemaVersion := "1.0.0"

def transitionOf (runtime : Runtime) (event : NormalisedEvent) (now : String)
    (previous : Option LifecycleState) : Transition where
  transitionId := makeTransitionId runtime event.correlationId event.eventId
  correlationId := event.correlationId
  eventId := event.eventId
  fromStage := (previous.map LifecycleState.currentStage).getD .null
  fromStatus := (previous.map LifecycleState.currentStatus).getD .null
  toStage := event.technicalStage
  toStatus := event.technicalStatus
  eventTimestamp := event.eventTimestamp
  processingTimestamp := now
  sourceTopic := event.kafkaTopic
  sourcePartition := event.kafkaPartition
  sourceOffset := event.kafkaOffset
  jobId := runtime.jobName
  schemaVersion := "1.0.0"

/-- `LifecycleSkeleton.process_element`. -/
def processElement (runtime : Runtime) (event : NormalisedEvent) (now : String)
    (keyed : KeyedState) : Except Raised (KeyedState × List Record) :=
  if event.eventId ∈ keyed.seenEventIds then .ok (keyed, [])
  else
    match lower event.technicalStatus with
    | .error raised => .error raised
    | .ok status =>
        let current := currentState event now keyed.state status
        .ok (⟨keyed.seenEventIds ++ [event.eventId], some current⟩,
          [.state current, .transition (transitionOf runtime event now keyed.state)])

/-! ## Rows of the sinks -/

structure StateRow where
  correlationId : String
  currentStage : Json
  currentStatus : Json
  lastEventId : String
  lastEventTimestamp : Json
  lastProcessingTimestamp : String
  firstSeenAt : String
  updatedAt : String
  stageHistory : List Json
  retryCount : Nat
  slaDeadline : Json
  slaBreached : Bool
  endToEndId : Json
  instructionId : Json
  schemaVersion : String

structure TransitionRow where
  transitionId : String
  correlationId : String
  eventId : String
  fromStage : Json
  toStage : Json
  fromStatus : Json
  toStatus : Json
  eventTimestamp : Json
  processingTimestamp : String
  sourceTopic : String
  sourcePartition : Int
  sourceOffset : Int
  jobId : String
  schemaVersion : String

def stateRow (payload : LifecycleState) : StateRow where
  correlationId := payload.correlationId
  currentStage := payload.currentStage
  currentStatus := payload.currentStatus
  lastEventId := payload.lastEventId
  lastEventTimestamp := payload.lastEventTimestamp
  lastProcessingTimestamp := payload.lastProcessingTimestamp
  firstSeenAt := payload.firstSeenAt
  updatedAt := payload.updatedAt
  stageHistory := payload.stageHistory
  retryCount := payload.retryCount
  slaDeadline := payload.slaDeadline
  slaBreached := payload.slaBreached
  endToEndId := payload.endToEndId
  instructionId := payload.instructionId
  schemaVersion := payload.schemaVersion

def transitionRow (payload : Transition) (topic : String) (partition offset : Int) :
    TransitionRow where
  transitionId := payload.transitionId
  correlationId := payload.correlationId
  eventId := payload.eventId
  fromStage := payload.fromStage
  toStage := payload.toStage
  fromStatus := payload.fromStatus
  toStatus := payload.toStatus
  eventTimestamp := payload.eventTimestamp
  processingTimestamp := payload.processingTimestamp
  sourceTopic := topic
  sourcePartition := partition
  sourceOffset := offset
  jobId := payload.jobId
  schemaVersion := payload.schemaVersion

def extractStatePayload : Record → List StateRow
  | .state payload => [stateRow payload]
  | .transition _ => []

/-- The mandatory provenance fields that are null. -/
def missingProvenance (payload : Transition) : List String :=
  (if payload.sourceTopic.isNone then ["source_topic"] else []) ++
    (if payload.sourcePartition.isNone then ["source_partition"] else []) ++
    if payload.sourceOffset.isNone then ["source_offset"] else []

def extractTransitionPayload : Record → Except Raised (List TransitionRow)
  | .state _ => .ok []
  | .transition payload =>
      match payload.sourceTopic, payload.sourcePartition, payload.sourceOffset with
      | some topic, some partition, some offset =>
          .ok [transitionRow payload topic partition offset]
      | _, _, _ => .error ⟨"ValueError",
          "LifecycleTransition missing mandatory Kafka provenance: " ++
            ", ".intercalate (missingProvenance payload)⟩

/-! ## The job -/

/-- Keyed states by correlation id. -/
abbrev Job := String → KeyedState

def Job.initial : Job := fun _ => ⟨[], none⟩

structure Rows where
  states : List StateRow
  transitions : List TransitionRow

/-- Both extractors, over the records of one element. -/
def extractRows (records : List Record) : Except Raised Rows := do
  let transitions ← records.mapM extractTransitionPayload
  return ⟨records.flatMap extractStatePayload, transitions.flatten⟩

/-- The job once the entries of `seen_event_ids` that are `expired` are no longer returned. -/
def Job.expire (job : Job) (expired : String → String → Bool) : Job := fun correlationId =>
  { job correlationId with
    seenEventIds := (job correlationId).seenEventIds.filter fun eventId =>
      !expired correlationId eventId }

/-- `key_by`: the key is a `Types.STRING`, which is written in UTF-8. -/
def keyed (runtime : Runtime) (event : NormalisedEvent) : Except Raised Unit :=
  if runtime.encodes event.correlationId then .ok ()
  else .error ⟨"UnicodeEncodeError", "surrogates not allowed"⟩

/-- A parsed event through `key_by`, the keyed operator and the extractors. -/
def Job.deliver (runtime : Runtime) (job : Job) (event : NormalisedEvent) (now : String) :
    Except Raised (Job × Rows) := do
  keyed runtime event
  let (keyed, records) ← processElement runtime event now (job event.correlationId)
  let rows ← extractRows records
  return (Function.update job event.correlationId keyed, rows)

/-- One envelope through the whole pipeline, at the clock reading `now`. -/
def Job.process (runtime : Runtime) (job : Job) (row : Envelope) (now : String) :
    Except Raised (Job × Rows) :=
  match parseEnvelope runtime row with
  | .error raised => .error raised
  | .ok none => .ok (job, ⟨[], []⟩)
  | .ok (some event) => job.deliver runtime event now

end PaymentsPlatform.Lifecycle
