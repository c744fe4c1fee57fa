import PaymentsPlatform.Library.Machine
import PaymentsPlatform.Ingestion.Processing

/-!
# The main loop of the consumer

One pass of `while True` is one step.  Every exception that leaves the loop
ends the process: `DlqPublishFailedError` by `SystemExit(1)`, any other
uncaught.  A process that has ended takes no further step.
-/

namespace PaymentsPlatform.Ingestion

inductive IngestionMode where
  | generatedEvent
  | cdcDatabase (sourceSystem : String)
  deriving DecidableEq

/-- `activated_cdc_topic_map`. -/
def activatedCdcTopicMap : List (String × String) := []

def classifyIngestionTopic (settings : Settings) (topic : String) :
    Except Raised IngestionMode :=
  if topic ∈ settings.kafkaTopics then .ok .generatedEvent
  else
    match activatedCdcTopicMap.lookup topic with
    | some sourceSystem =>
        if sourceSystem.isEmpty then
          .error (permanentProcessingError ("Unclassified ingestion topic: " ++ topic))
        else .ok (.cdcDatabase sourceSystem)
    | none => .error (permanentProcessingError ("Unclassified ingestion topic: " ++ topic))

/-- What `consumer.poll` answers. -/
inductive Poll where
  | nothing
  | error (code : Int)
  | record (msg : Message)
  | raised (raised : Raised)

/-- A poll, with what the services answer while its record is processed. -/
structure Polled where
  poll : Poll
  attempts : Nat → Attempt
  firstFailure : String

/-- How the process ended. -/
inductive Exit where
  | failStop (envelope : FailureEnvelope)
  | uncaught (raised : Raised)

structure Consumer where
  world : World
  /-- The records handed to `process_message` or `process_cdc_message`. -/
  handled : List Message
  processedCount : Nat
  errorCount : Nat
  exit : Option Exit

/-- The consumer when it enters the loop. -/
def Consumer.start (existing : List String) : Consumer := ⟨⟨existing, []⟩, [], 0, 0, none⟩

/-- `process_cdc_message`, of which the loop knows that it answers with a text or raises. -/
abbrev CdcProcessor := String → Message → World → Except Raised String × World

/-- The record of one poll. -/
def handle (settings : Settings) (processCdcMessage : CdcProcessor) (consumer : Consumer)
    (polled : Polled) (msg : Message) : Consumer :=
  match classifyIngestionTopic settings msg.topic with
  | .error raised => { consumer with exit := some (.uncaught raised) }
  | .ok (.cdcDatabase sourceSystem) =>
      let handled := consumer.handled ++ [msg]
      match processCdcMessage sourceSystem msg consumer.world with
      | (.error raised, world) => { consumer with world, handled, exit := some (.uncaught raised) }
      | (.ok outcome, world) =>
          if outcome = "ok" then
            { consumer with world, handled, processedCount := consumer.processedCount + 1 }
          else
            { consumer with world, handled, errorCount := consumer.errorCount + 1 }
  | .ok .generatedEvent =>
      let handled := consumer.handled ++ [msg]
      match processMessage settings polled.attempts polled.firstFailure msg consumer.world with
      | (.error (.dlqPublishFailed envelope), world) =>
          { consumer with world, handled, exit := some (.failStop envelope) }
      | (.error (.raised raised), world) =>
          { consumer with world, handled, exit := some (.uncaught raised) }
      | (.ok (some .ok), world) =>
          { consumer with world, handled, processedCount := consumer.processedCount + 1 }
      | (.ok _, world) =>
          { consumer with world, handled, errorCount := consumer.errorCount + 1 }

/-- One pass of the loop. -/
def poll (settings : Settings) (processCdcMessage : CdcProcessor) (consumer : Consumer)
    (polled : Polled) : Consumer :=
  if consumer.exit.isSome then consumer
  else
    match polled.poll with
    | .nothing => consumer
    | .error _ => consumer
    | .raised raised => { consumer with exit := some (.uncaught raised) }
    | .record msg => handle settings processCdcMessage consumer polled msg

end PaymentsPlatform.Ingestion
