import PaymentsPlatform.Ingestion.SourceRecord

/-!
# Processing one source record

`process_message` decodes, stores and commits a record, and publishes it to
the retry topic or to the DLQ when that fails.  What the services around it
answer is not up to the consumer: an `Attempt` scripts every answer of one pass
of the retry loop, each success or exception, so that a statement over all
scripts is one over every pattern of failures.

The world is the trace of what the outside has seen so far, on top of the Raw
objects that were there before.
-/

namespace PaymentsPlatform.Ingestion

/-- What happens to `put_object`.  A call that raises may have stored the object. -/
structure Put where
  raised : Option Raised
  kept : Bool

/-- What happens to a publication: `json.dumps` or `produce` raises and nothing is sent, or
`flush` answers, and the delivery callback is called or not. -/
structure Publication where
  refused : Option Raised
  flushed : Except Raised Nat
  called : Bool
  error : Option String

/-- Kafka has acknowledged the record. -/
def Publication.acknowledged (publication : Publication) : Bool :=
  publication.called && publication.error.isNone

/-- The answers to the calls of one pass of the retry loop, in the order of the calls. -/
structure Attempt where
  deserialized : Except Raised (Option Event)
  client : Option Raised
  enriched : Option Raised
  head : Option Raised
  serialized : Option Raised
  put : Put
  commit : Option Raised
  envelope : Option Raised
  now : String
  retryPublication : Publication
  slept : Option Raised
  dlqPublication : Publication
  dlqCommit : Option Raised

inductive Effect where
  | stored (key : String)
  | published (topic : String) (key : Option String) (envelope : FailureEnvelope)
      (acknowledged : Bool)
  | commit (msg : Message) (succeeded : Bool)
  deriving DecidableEq

structure World where
  existing : List String
  trace : List Effect

namespace World

def perform (world : World) (effect : Effect) : World :=
  { world with trace := world.trace ++ [effect] }

/-- The object is in the bucket. -/
def Holds (world : World) (key : String) : Prop :=
  key ∈ world.existing ∨ .stored key ∈ world.trace

instance (world : World) (key : String) : Decidable (world.Holds key) :=
  inferInstanceAs (Decidable (_ ∨ _))

/-- The topic has acknowledged an envelope with this failure identity. -/
def Acknowledged (world : World) (topic failureId : String) : Prop :=
  ∃ key envelope, .published topic key envelope true ∈ world.trace ∧
    envelope.failureId = failureId

end World

/-! ## The services -/

/-- The answer of a call that returns nothing of use. -/
def answer : Option Raised → Except Raised Unit
  | none => .ok ()
  | some raised => .error raised

/-- The codes with which `head_object` says that there is no such object. -/
def notFoundCodes : List String := ["404", "NoSuchKey", "NotFound"]

def Raised.isNotFound (raised : Raised) : Bool :=
  match raised.errorClass with
  | .clientError code => code ∈ notFoundCodes
  | _ => false

def headObject (attempt : Attempt) (key : String) (world : World) : Except Raised Unit :=
  match attempt.head with
  | some raised => .error raised
  | none =>
      if world.Holds key then .ok ()
      else .error ⟨.clientError "404", "ClientError", "Not Found"⟩

def putObject (attempt : Attempt) (key : String) (world : World) : Except Raised Unit × World :=
  match attempt.put.raised with
  | none => (.ok (), world.perform (.stored key))
  | some raised => (.error raised, if attempt.put.kept then world.perform (.stored key) else world)

/-- `consumer.commit(msg, asynchronous=False)`. -/
def commit (outcome : Option Raised) (msg : Message) (world : World) :
    Except Raised Unit × World :=
  (answer outcome, world.perform (.commit msg outcome.isNone))

/-! ## The consumer -/

def publishFailure (publication : Publication) (topic : String) (envelope : FailureEnvelope)
    (key : Option String) (world : World) : Except Raised Bool × World :=
  match publication.refused with
  | some raised => (.error raised, world)
  | none =>
      let metadataKey := if key.isNone then envelope.businessKey else key
      let next := world.perform (.published topic metadataKey envelope publication.acknowledged)
      match publication.flushed with
      | .error raised => (.error raised, next)
      | .ok remaining => (.ok (remaining = 0 && publication.called && publication.error.isNone), next)

/-- The inner `try` of `store_event_to_s3`: look the object up, else serialize and put it. -/
def storeObject (attempt : Attempt) (key : String) (world : World) :
    Except Raised String × World :=
  match headObject attempt key world with
  | .ok () => (.ok key, world)
  | .error raised =>
      if raised.isNotFound then
        match attempt.serialized with
        | some raised => (.error raised, world)
        | none =>
            match putObject attempt key world with
            | (.ok (), next) => (.ok key, next)
            | (.error raised, next) => (.error raised, next)
      else
        (.error raised, world)

/-- The handlers of `store_event_to_s3`: storage errors are raised again as they are, errors
of the record become permanent, all others pass. -/
def Raised.handledByStore (raised : Raised) : Raised :=
  match raised.errorClass with
  | .avroException | .typeError | .valueError => permanentProcessingError raised.message
  | _ => raised

/-- `store_event_to_s3` before its `try`.  Building the Avro record reads the event, and there
is none when the deserializer answers `None`. -/
def prepareStore (settings : Settings) (attempt : Attempt) (event : Option Event)
    (msg : Message) (timestamp : Nat) : Except Raised String := do
  answer attempt.client
  let key ← deterministicS3Key settings msg.topic msg.partition msg.offset timestamp
  if event.isNone then
    .error ⟨.other, "AttributeError", "'NoneType' object has no attribute 'get'"⟩
  answer attempt.enriched
  return key

def storeEventToS3 (settings : Settings) (attempt : Attempt) (event : Option Event)
    (msg : Message) (timestamp : Nat) (world : World) : Except Raised String × World :=
  match prepareStore settings attempt event msg timestamp with
  | .error raised => (.error raised, world)
  | .ok key =>
      match storeObject attempt key world with
      | (.ok key, next) => (.ok key, next)
      | (.error raised, next) => (.error raised.handledByStore, next)

def storeThenCommit (settings : Settings) (attempt : Attempt) (event : Option Event)
    (msg : Message) (timestamp : Nat) (world : World) : Except Raised String × World :=
  match storeEventToS3 settings attempt event msg timestamp world with
  | (.error raised, next) => (.error raised, next)
  | (.ok key, next) =>
      match commit attempt.commit msg next with
      | (.error raised, next) => (.error raised, next)
      | (.ok (), next) => (.ok key, next)

def shouldSendToDlq (settings : Settings) (error : Raised) (attempt : Nat) : Bool :=
  error.errorClass = .permanentProcessingError ∨ settings.maxProcessingRetries ≤ attempt

def publishDlqThenCommit (settings : Settings) (attempt : Attempt) (msg : Message)
    (envelope : FailureEnvelope) (world : World) : Except Raised Bool × World :=
  match publishFailure attempt.dlqPublication settings.kafkaDlqTopic envelope
      (some envelope.failureId) world with
  | (.error raised, next) => (.error raised, next)
  | (.ok false, next) => (.ok false, next)
  | (.ok true, next) =>
      match commit attempt.dlqCommit msg next with
      | (.error raised, next) => (.error raised, next)
      | (.ok (), next) => (.ok true, next)

/-- The body of the `try` of the retry loop.  The event stays decoded for later passes. -/
def processOnce (settings : Settings) (attempt : Attempt) (msg : Message)
    (event : Option Event) (world : World) : Option Event × Except Raised Unit × World :=
  let decoded : Except Raised (Option Event) :=
    if event.isNone then
      attempt.deserialized.mapError fun raised => permanentProcessingError raised.message
    else .ok event
  match decoded with
  | .error raised => (event, .error raised, world)
  | .ok event =>
      match sourceTimestamp msg with
      | .error raised => (event, .error raised, world)
      | .ok timestamp =>
          match storeThenCommit settings attempt event msg timestamp world with
          | (.error raised, next) => (event, .error raised, next)
          | (.ok _, next) => (event, .ok (), next)

/-- What leaves `process_message` as an exception. -/
inductive Escape where
  | dlqPublishFailed (envelope : FailureEnvelope)
  | raised (raised : Raised)
  deriving DecidableEq

/-- `"ok"` and `"dlq"`. -/
inductive Outcome where
  | ok
  | dlq
  deriving DecidableEq

/-- The `except` clause on the way to the DLQ. -/
def sendToDlq (settings : Settings) (attempt : Attempt) (msg : Message) (event : Option Event)
    (error : Raised) (attemptNumber : Nat) (firstFailure : String) (world : World) :
    Except Escape (Option Outcome) × World :=
  match attempt.envelope with
  | some raised => (.error (.raised raised), world)
  | none =>
      let envelope := failureEnvelope msg event error attemptNumber firstFailure attempt.now
      match publishDlqThenCommit settings attempt msg envelope world with
      | (.error _, next) => (.error (.dlqPublishFailed envelope), next)
      | (.ok true, next) => (.ok (some .dlq), next)
      | (.ok false, next) => (.error (.dlqPublishFailed envelope), next)

/-- The `except` clause on the way to the next pass: `none` is `continue`. -/
def sendToRetry (settings : Settings) (attempt : Attempt) (msg : Message) (event : Option Event)
    (error : Raised) (attemptNumber : Nat) (firstFailure : String) (world : World) :
    Option Escape × World :=
  match attempt.envelope with
  | some raised => (some (.raised raised), world)
  | none =>
      let envelope := failureEnvelope msg event error (attemptNumber + 1) firstFailure attempt.now
      match publishFailure attempt.retryPublication settings.kafkaRetryTopic envelope none world with
      | (.error raised, next) => (some (.raised raised), next)
      | (.ok _, next) => (attempt.slept.map Escape.raised, next)

theorem sendToDlq_snd (settings : Settings) (attempt : Attempt) (msg : Message)
    (event : Option Event) (error : Raised) (attemptNumber : Nat) (firstFailure : String)
    (world : World) :
    (sendToDlq settings attempt msg event error attemptNumber firstFailure world).2 =
      if attempt.envelope.isNone then
        (publishDlqThenCommit settings attempt msg
          (failureEnvelope msg event error attemptNumber firstFailure attempt.now) world).2
      else world := by
  unfold sendToDlq
  cases attempt.envelope with
  | some raised => rfl
  | none =>
      dsimp only
      generalize publishDlqThenCommit settings attempt msg _ world = ran
      rcases ran with ⟨raised | _ | _, next⟩
      · rfl
      · rfl
      · rfl

theorem sendToRetry_snd (settings : Settings) (attempt : Attempt) (msg : Message)
    (event : Option Event) (error : Raised) (attemptNumber : Nat) (firstFailure : String)
    (world : World) :
    (sendToRetry settings attempt msg event error attemptNumber firstFailure world).2 =
      if attempt.envelope.isNone then
        (publishFailure attempt.retryPublication settings.kafkaRetryTopic
          (failureEnvelope msg event error (attemptNumber + 1) firstFailure attempt.now) none
          world).2
      else world := by
  unfold sendToRetry
  cases attempt.envelope with
  | some raised => rfl
  | none =>
      dsimp only
      generalize publishFailure attempt.retryPublication settings.kafkaRetryTopic _ none world = ran
      rcases ran with ⟨raised | published, next⟩
      · rfl
      · rfl

/-- The passes of the retry loop that remain.  When none is left the function falls off its
end and returns `None`. -/
def processFrom (settings : Settings) (attempts : Nat → Attempt) (msg : Message)
    (firstFailure : String) :
    (remaining attemptNumber : Nat) → Option Event → World →
      Except Escape (Option Outcome) × World
  | 0, _, _, world => (.ok none, world)
  | remaining + 1, attemptNumber, event, world =>
      let attempt := attempts attemptNumber
      match processOnce settings attempt msg event world with
      | (_, .ok (), next) => (.ok (some .ok), next)
      | (event, .error error, next) =>
          if shouldSendToDlq settings error attemptNumber then
            sendToDlq settings attempt msg event error attemptNumber firstFailure next
          else
            match sendToRetry settings attempt msg event error attemptNumber firstFailure next with
            | (some escape, next) => (.error escape, next)
            | (none, next) =>
                processFrom settings attempts msg firstFailure remaining (attemptNumber + 1) event
                  next

/-- `process_message`; `range(MAX_PROCESSING_RETRIES + 1)` is empty for negative settings. -/
def processMessage (settings : Settings) (attempts : Nat → Attempt) (firstFailure : String)
    (msg : Message) (world : World) : Except Escape (Option Outcome) × World :=
  processFrom settings attempts msg firstFailure (settings.maxProcessingRetries + 1).toNat 0 none
    world

end PaymentsPlatform.Ingestion
