import PaymentsPlatform.Ingestion.Destinations
import PaymentsPlatform.Library.Separated
import PaymentsPlatform.Replay.DlqReplay

/-!
# Coordinates of source records

The failure identity and the Raw key of a record both end in its coordinates.  Only the prefix and
the names of a source domain may have more separators than the coordinates are written with, and
they stand in front.
-/

namespace PaymentsPlatform.Ingestion

/-- The characters that Kafka admits in the name of a topic. -/
def LegalTopic (topic : String) : Prop :=
  ∀ character ∈ topic.toList, character.isAlphanum ∨ character ∈ ['.', '_', '-']

section Identities

variable {settings : Settings} {topic otherTopic : String}
  {partition offset otherPartition otherOffset timestamp otherTimestamp : Nat} {key : String}

theorem LegalTopic.slashless (legal : LegalTopic topic) : '/' ∉ topic.toList := by
  intro found
  rcases legal '/' found with alphanumeric | punctuation
  · exact absurd alphanumeric (by decide)
  · simp at punctuation

theorem deterministicFailureId_inj
    (same : deterministicFailureId topic partition offset =
      deterministicFailureId otherTopic otherPartition otherOffset) :
    topic = otherTopic ∧ partition = otherPartition ∧ offset = otherOffset := by
  have parts : ∀ (topic : String) (partition offset : Nat),
      (deterministicFailureId topic partition offset).toList = [':'].intercalate
        [topic.toList, (toString partition).toList, (toString offset).toList] := by
    intro topic partition offset
    simp [deterministicFailureId, List.intercalate]
  have numbers : ∀ partition offset : Nat,
      ∀ part ∈ [(toString partition).toList, (toString offset).toList], ':' ∉ part := by
    intro partition offset part isPart
    simp only [List.mem_cons, List.not_mem_nil, or_false] at isPart
    rcases isPart with rfl | rfl
    · exact Separated.notMem_toString (by decide) partition
    · exact Separated.notMem_toString (by decide) offset
  have joined := congrArg String.toList same
  rw [parts, parts] at joined
  have length : [(toString partition).toList, (toString offset).toList].length =
    [(toString otherPartition).toList, (toString otherOffset).toList].length := rfl
  obtain ⟨topics, rest⟩ := Separated.cons_eq_of_intercalate_eq length (numbers partition offset)
    (numbers otherPartition otherOffset) joined
  obtain ⟨partitions, offsets⟩ := List.cons.inj rest
  exact ⟨String.toList_inj.mp topics, Separated.toString_injective partitions,
    Separated.toString_injective (List.cons.inj offsets).1⟩

/-- The segments of a Raw key after the day. -/
def coordinateSegments (topic : String) (partition offset : Nat) : List (List Char) :=
  ["topic=".toList ++ topic.toList, "partition=".toList ++ (toString partition).toList,
    "offset=".toList ++ (toString offset).toList, "record.avro".toList]

theorem coordinateSegments_slashless (legal : LegalTopic topic) (partition offset : Nat) :
    ∀ segment ∈ coordinateSegments topic partition offset, '/' ∉ segment := by
  have numbers : ∀ number : Nat, '/' ∉ (toString number).toList :=
    Separated.notMem_toString (by decide)
  intro segment isSegment
  simp only [coordinateSegments, List.mem_cons, List.not_mem_nil, or_false] at isSegment
  rcases isSegment with rfl | rfl | rfl | rfl
  · simpa using legal.slashless
  · simpa using numbers partition
  · simpa using numbers offset
  · decide

theorem coordinateSegments_inj
    (same : coordinateSegments topic partition offset =
      coordinateSegments otherTopic otherPartition otherOffset) :
    topic = otherTopic ∧ partition = otherPartition ∧ offset = otherOffset := by
  simp only [coordinateSegments, List.cons.injEq, List.append_cancel_left_eq, and_true] at same
  obtain ⟨topics, partitions, offsets⟩ := same
  exact ⟨String.toList_inj.mp topics, Separated.toString_injective partitions,
    Separated.toString_injective offsets⟩

theorem segments_of_deterministicS3Key
    (isKey : deterministicS3Key settings topic partition offset timestamp = .ok key) :
    ∃ front : List Char, key.toList =
      ['/'].intercalate (front :: coordinateSegments topic partition offset) := by
  unfold deterministicS3Key at isKey
  cases checked : settings.checkedRawPrefix with
  | error raised => simp [checked, bind, Except.bind] at isKey
  | ok root =>
      simp only [checked, bind, Except.bind, pure, Except.pure, Except.ok.injEq] at isKey
      generalize root ++ "/category=" ++ (parseTopic topic).category ++ "/source_group=" ++
        (parseTopic topic).sourceGroup ++ "/source_system=" ++ (parseTopic topic).system ++
        "/year=" ++ toString (civilDate (timestamp / 86400000)).1 ++ "/month=" ++
        twoDigits (civilDate (timestamp / 86400000)).2.1 ++ "/day=" ++
        twoDigits (civilDate (timestamp / 86400000)).2.2 = front at isKey
      refine ⟨front.toList, ?_⟩
      rw [← isKey]
      simp [coordinateSegments, List.intercalate]

theorem deterministicS3Key_inj (legal : LegalTopic topic) (otherLegal : LegalTopic otherTopic)
    (isKey : deterministicS3Key settings topic partition offset timestamp = .ok key)
    (isKeyOther : deterministicS3Key settings otherTopic otherPartition otherOffset
      otherTimestamp = .ok key) :
    topic = otherTopic ∧ partition = otherPartition ∧ offset = otherOffset := by
  obtain ⟨front, segments⟩ := segments_of_deterministicS3Key isKey
  obtain ⟨otherFront, otherSegments⟩ := segments_of_deterministicS3Key isKeyOther
  rw [segments] at otherSegments
  have length : (coordinateSegments topic partition offset).length =
    (coordinateSegments otherTopic otherPartition otherOffset).length := rfl
  exact coordinateSegments_inj (Separated.cons_eq_of_intercalate_eq length
    (coordinateSegments_slashless legal partition offset)
    (coordinateSegments_slashless otherLegal otherPartition otherOffset) otherSegments).2

end Identities

/-! ## Raw objects -/

section Objects

variable {settings : Settings} {world next last : World} {msg : Message}

/-- No object is added to Raw but the record's. -/
def AddsOnly (settings : Settings) (msg : Message) (world next : World) : Prop :=
  ∀ key, next.Holds key → world.Holds key ∨ rawKey settings msg = .ok key

theorem AddsOnly.refl (settings : Settings) (msg : Message) (world : World) :
    AddsOnly settings msg world world := fun _ held => .inl held

theorem AddsOnly.trans (first : AddsOnly settings msg world next)
    (second : AddsOnly settings msg next last) : AddsOnly settings msg world last := by
  intro key held
  rcases second key held with before | isKey
  · exact first key before
  · exact .inr isKey

theorem AddsOnly.perform {effect : Effect} (noObject : ∀ key, effect ≠ .stored key) :
    AddsOnly settings msg world (world.perform effect) := by
  intro key held
  rcases held with existing | performed
  · exact .inl (.inl existing)
  · rcases List.mem_append.mp performed with before | now
    · exact .inl (.inr before)
    · exact absurd (List.mem_singleton.mp now).symm (noObject key)

theorem processOnce_addsOnly (settings : Settings) (attempt : Attempt) (msg : Message)
    (event : Option Event) (world : World) :
    AddsOnly settings msg world (processOnce settings attempt msg event world).2.2 := by
  obtain ⟨effects, described, ran⟩ := processOnce_eq settings attempt msg event world
  rw [ran]
  intro key held
  rcases held with existing | performed
  · exact .inl (.inl existing)
  · rcases List.mem_append.mp performed with before | now
    · exact .inl (.inr before)
    · exact .inr ((described.stored key).mp now).2

theorem publishFailure_addsOnly (publication : Publication) (topic : String)
    (envelope : FailureEnvelope) (key : Option String) (world : World) :
    AddsOnly settings msg world (publishFailure publication topic envelope key world).2 := by
  rw [publishFailure_world]
  split
  · exact .perform fun key same => by simp at same
  · exact .refl settings msg world

theorem publishDlqThenCommit_addsOnly (settings : Settings) (attempt : Attempt) (msg : Message)
    (envelope : FailureEnvelope) (world : World) :
    AddsOnly settings msg world (publishDlqThenCommit settings attempt msg envelope world).2 := by
  unfold publishDlqThenCommit
  have sent := @publishFailure_addsOnly settings msg attempt.dlqPublication settings.kafkaDlqTopic
    envelope (some envelope.failureId) world
  generalize publishFailure attempt.dlqPublication settings.kafkaDlqTopic envelope
    (some envelope.failureId) world = ran at sent ⊢
  rcases ran with ⟨failure | _ | _, next⟩
  · exact sent
  · exact sent
  · have committed : AddsOnly settings msg next (commit attempt.dlqCommit msg next).2 :=
      .perform fun key same => by simp at same
    dsimp only
    generalize commit attempt.dlqCommit msg next = ran at committed ⊢
    rcases ran with ⟨failure | done, last⟩
    · exact sent.trans committed
    · exact sent.trans committed

theorem sendToDlq_addsOnly (settings : Settings) (attempt : Attempt) (msg : Message)
    (event : Option Event) (error : Raised) (attemptNumber : Nat) (firstFailure : String)
    (world : World) :
    AddsOnly settings msg world
      (sendToDlq settings attempt msg event error attemptNumber firstFailure world).2 := by
  rw [sendToDlq_snd]
  split
  · exact publishDlqThenCommit_addsOnly settings attempt msg _ world
  · exact .refl settings msg world

theorem sendToRetry_addsOnly (settings : Settings) (attempt : Attempt) (msg : Message)
    (event : Option Event) (error : Raised) (attemptNumber : Nat) (firstFailure : String)
    (world : World) :
    AddsOnly settings msg world
      (sendToRetry settings attempt msg event error attemptNumber firstFailure world).2 := by
  rw [sendToRetry_snd]
  split
  · exact publishFailure_addsOnly attempt.retryPublication settings.kafkaRetryTopic _ none world
  · exact .refl settings msg world

theorem processFrom_addsOnly (settings : Settings) (attempts : Nat → Attempt) (msg : Message)
    (firstFailure : String) (remaining attemptNumber : Nat) (event : Option Event)
    (world : World) :
    AddsOnly settings msg world
      (processFrom settings attempts msg firstFailure remaining attemptNumber event world).2 := by
  induction remaining generalizing attemptNumber event world with
  | zero => exact .refl settings msg world
  | succ remaining ih =>
      unfold processFrom
      have once := processOnce_addsOnly settings (attempts attemptNumber) msg event world
      dsimp only
      generalize processOnce settings (attempts attemptNumber) msg event world = ran at once ⊢
      rcases ran with ⟨decoded, error | done, next⟩
      · dsimp only
        split
        next =>
          exact once.trans (sendToDlq_addsOnly settings (attempts attemptNumber) msg decoded error
            attemptNumber firstFailure next)
        next =>
          have sent := sendToRetry_addsOnly settings (attempts attemptNumber) msg decoded error
            attemptNumber firstFailure next
          generalize sendToRetry settings (attempts attemptNumber) msg decoded error attemptNumber
            firstFailure next = ran at sent ⊢
          rcases ran with ⟨_ | escape, last⟩
          · exact (once.trans sent).trans (ih (attemptNumber + 1) decoded last)
          · exact once.trans sent
      · exact once

theorem handle_addsOnly (settings : Settings) (processCdcMessage : CdcProcessor)
    (consumer : Consumer) (polled : Polled) (msg : Message) :
    AddsOnly settings msg consumer.world
      (handle settings processCdcMessage consumer polled msg).world := by
  unfold handle
  split
  next => exact .refl settings msg consumer.world
  next sourceSystem classified =>
    exact absurd classified (classifyIngestionTopic_ne_cdc settings msg.topic sourceSystem)
  next =>
    have processed := processFrom_addsOnly settings polled.attempts msg polled.firstFailure
      (settings.maxProcessingRetries + 1).toNat 0 none consumer.world
    rw [← processMessage] at processed
    dsimp only
    generalize processMessage settings polled.attempts polled.firstFailure msg consumer.world =
      ran at processed ⊢
    split
    next => exact processed
    next => exact processed
    next => exact processed
    next => exact processed

theorem poll_holds {processCdcMessage : CdcProcessor} {consumer : Consumer} {polled : Polled}
    {key : String} (held : (poll settings processCdcMessage consumer polled).world.Holds key) :
    consumer.world.Holds key ∨
      ∃ msg, polled.poll = .record msg ∧ rawKey settings msg = .ok key := by
  unfold poll at held
  split at held
  next => exact .inl held
  next =>
    split at held
    next => exact .inl held
    next => exact .inl held
    next => exact .inl held
    next msg isRecord =>
      rcases handle_addsOnly settings processCdcMessage consumer polled msg key held with
        before | isKey
      · exact .inl before
      · exact .inr ⟨msg, isRecord, isKey⟩

end Objects

section Lives

variable (settings : Settings) (processCdcMessage : CdcProcessor)

/-- The key of an object that was stored. -/
def Effect.stored? : Effect → Option String
  | .stored key => some key
  | _ => none

/-- The objects in the bucket. -/
def World.objects (world : World) : List String :=
  world.existing ++ world.trace.filterMap Effect.stored?

/-- The bucket after the process has run and ended, again and again; it was empty at first. -/
def bucketAfter (lives : List (List Polled)) : List String :=
  Machine.run (fun bucket polls => (consume settings processCdcMessage bucket polls).world.objects)
    [] lives

/-- Kafka has delivered the record to the process in one of its lives. -/
def Delivered (lives : List (List Polled)) (msg : Message) : Prop :=
  ∃ polls ∈ lives, ∃ polled ∈ polls, polled.poll = .record msg

/-- The records have the same coordinates. -/
def Message.SameCoordinates (msg other : Message) : Prop :=
  msg.topic = other.topic ∧ msg.partition = other.partition ∧ msg.offset = other.offset

/-- What is delivered comes from a log whose records keep their timestamps. -/
structure FromLog (lives : List (List Polled)) : Prop where
  legal : ∀ msg, Delivered lives msg → LegalTopic msg.topic
  immutable : ∀ msg other, Delivered lives msg → Delivered lives other →
    msg.SameCoordinates other → msg.timestamp = other.timestamp

/-- The object is addressed by the coordinates, with some date. -/
def Addresses (topic : String) (partition offset : Nat) (key : String) : Prop :=
  ∃ timestamp, deterministicS3Key settings topic partition offset timestamp = .ok key

variable {settings processCdcMessage} {msg other : Message} {key : String}

theorem World.mem_objects {world : World} : key ∈ world.objects ↔ world.Holds key := by
  have isStored : ∀ effect : Effect, effect.stored? = some key ↔ effect = .stored key := by
    intro effect
    cases effect <;> simp [Effect.stored?]
  simp [World.objects, World.Holds, isStored]

theorem rawKey_congr (same : msg.SameCoordinates other)
    (stamped : msg.timestamp = other.timestamp) :
    rawKey settings msg = rawKey settings other := by
  obtain ⟨topics, partitions, offsets⟩ := same
  rw [rawKey, rawKey, sourceTimestamp, sourceTimestamp, stamped, topics, partitions, offsets]

theorem addresses_of_rawKey (isKey : rawKey settings msg = .ok key) :
    Addresses settings msg.topic msg.partition msg.offset key := by
  unfold rawKey at isKey
  cases stamped : sourceTimestamp msg with
  | error raised => simp [stamped, bind, Except.bind] at isKey
  | ok timestamp =>
      rw [stamped] at isKey
      exact ⟨timestamp, isKey⟩

theorem mem_objects_consume {bucket : List String} {polls : List Polled}
    (held : key ∈ (consume settings processCdcMessage bucket polls).world.objects) :
    key ∈ bucket ∨ ∃ msg, (∃ polled ∈ polls, polled.poll = .record msg) ∧
      rawKey settings msg = .ok key := by
  have kept := Machine.run_invariant_of_mem (poll settings processCdcMessage)
    (show ∀ consumer, ∀ polled ∈ polls,
      (∀ key, consumer.world.Holds key → key ∈ bucket ∨
        ∃ msg, (∃ polled ∈ polls, polled.poll = .record msg) ∧ rawKey settings msg = .ok key) →
      ∀ key, (poll settings processCdcMessage consumer polled).world.Holds key →
        key ∈ bucket ∨ ∃ msg, (∃ polled ∈ polls, polled.poll = .record msg) ∧
          rawKey settings msg = .ok key by
      intro consumer polled listed before key held
      rcases poll_holds held with earlier | ⟨msg, isRecord, isKey⟩
      · exact before key earlier
      · exact .inr ⟨msg, ⟨polled, listed, isRecord⟩, isKey⟩)
    (show ∀ key, (Consumer.start bucket).world.Holds key → key ∈ bucket ∨ _ by
      intro key held
      refine .inl ?_
      simpa [Consumer.start, World.Holds] using held)
  exact kept key (World.mem_objects.mp held)

theorem exists_delivered {lives : List (List Polled)}
    (held : key ∈ bucketAfter settings processCdcMessage lives) :
    ∃ msg, Delivered lives msg ∧ rawKey settings msg = .ok key := by
  have kept := Machine.run_invariant_of_mem
    (fun bucket polls => (consume settings processCdcMessage bucket polls).world.objects)
    (show ∀ bucket, ∀ polls ∈ lives,
      (∀ key ∈ bucket, ∃ msg, Delivered lives msg ∧ rawKey settings msg = .ok key) →
      ∀ key ∈ (consume settings processCdcMessage bucket polls).world.objects,
        ∃ msg, Delivered lives msg ∧ rawKey settings msg = .ok key by
      intro bucket polls isLife before key held
      rcases mem_objects_consume held with earlier | ⟨msg, inLife, isKey⟩
      · exact before key earlier
      · exact ⟨msg, ⟨polls, isLife, inLife⟩, isKey⟩)
    (show ∀ key ∈ ([] : List String), _ by simp)
  exact kept key held

theorem bucketAfter_unique {lives : List (List Polled)} (log : FromLog lives) {topic : String}
    {partition offset : Nat} {key other : String} (legal : LegalTopic topic)
    (held : key ∈ bucketAfter settings processCdcMessage lives)
    (heldOther : other ∈ bucketAfter settings processCdcMessage lives)
    (addresses : Addresses settings topic partition offset key)
    (addressesOther : Addresses settings topic partition offset other) : key = other := by
  have coordinates : ∀ {msg key}, Delivered lives msg → rawKey settings msg = .ok key →
      Addresses settings topic partition offset key →
      msg.topic = topic ∧ msg.partition = partition ∧ msg.offset = offset := by
    intro msg key delivered isKey ⟨timestamp, addressed⟩
    obtain ⟨stamp, isKeyThen⟩ := addresses_of_rawKey isKey
    exact deterministicS3Key_inj (log.legal msg delivered) legal isKeyThen addressed
  obtain ⟨msg, delivered, isKey⟩ := exists_delivered held
  obtain ⟨msgOther, deliveredOther, isKeyOther⟩ := exists_delivered heldOther
  obtain ⟨topics, partitions, offsets⟩ := coordinates delivered isKey addresses
  obtain ⟨topicsOther, partitionsOther, offsetsOther⟩ :=
    coordinates deliveredOther isKeyOther addressesOther
  have same : msg.SameCoordinates msgOther :=
    ⟨topics.trans topicsOther.symm, partitions.trans partitionsOther.symm,
      offsets.trans offsetsOther.symm⟩
  have sameKey := @rawKey_congr settings msg msgOther same
    (log.immutable msg msgOther delivered deliveredOther same)
  rw [isKey, isKeyOther] at sameKey
  exact Except.ok.inj sameKey

end Lives

end PaymentsPlatform.Ingestion

namespace PaymentsPlatform.Replay.Dlq

open Ingestion

/-- `str` writes an integer in decimal. -/
def Python.PrintsIntegers (python : Python) : Prop :=
  ∀ number : Int, python.str (.int number) = toString number

variable {python : Python}

theorem failureIdFromEnvelope_legacy (prints : python.PrintsIntegers)
    {members : List (String × Json)} {topic : String} {partition offset : Nat}
    (legacy : (Json.get members "failure_id").truthy = false)
    (isTopic : members.lookup "original_topic" = some (.string topic))
    (isPartition : members.lookup "original_partition" = some (.int partition))
    (isOffset : members.lookup "original_offset" = some (.int offset)) :
    failureIdFromEnvelope python (.object members) =
      .ok (deterministicFailureId topic partition offset) := by
  have decimal : ∀ number : Nat, python.text (.int number) = toString number :=
    fun number => prints number
  have text : ∀ text : String, python.text (.string text) = text := fun _ => rfl
  have present : ∀ {name : String} {value : Json}, members.lookup name = some value →
      Json.get members name = value := by
    intro name value found
    rw [Json.get, found, Option.getD_some]
  simp only [failureIdFromEnvelope, legacy, Bool.false_eq_true, if_false, present isTopic,
    present isPartition, present isOffset, text, decimal, deterministicFailureId]

/-- Raw keys and failure identities stand for the coordinates of source records. -/
structure FaithfulCoordinates (settings : Settings) (processCdcMessage : CdcProcessor)
    (python : Python) : Prop where
  failureId : ∀ topic partition offset otherTopic otherPartition otherOffset,
    LegalTopic topic → LegalTopic otherTopic →
      deterministicFailureId topic partition offset =
        deterministicFailureId otherTopic otherPartition otherOffset →
      topic = otherTopic ∧ partition = otherPartition ∧ offset = otherOffset
  legacy : ∀ (members : List (String × Json)) (topic : String) (partition offset : Nat),
    (Json.get members "failure_id").truthy = false →
      members.lookup "original_topic" = some (.string topic) →
      members.lookup "original_partition" = some (.int partition) →
      members.lookup "original_offset" = some (.int offset) →
      failureIdFromEnvelope python (.object members) =
        .ok (deterministicFailureId topic partition offset)
  s3Key : ∀ topic partition offset timestamp otherTopic otherPartition otherOffset otherTimestamp
    key, LegalTopic topic → LegalTopic otherTopic →
      deterministicS3Key settings topic partition offset timestamp = .ok key →
      deterministicS3Key settings otherTopic otherPartition otherOffset otherTimestamp = .ok key →
      topic = otherTopic ∧ partition = otherPartition ∧ offset = otherOffset
  /-- Every replay of a record addresses the same object. -/
  replayed : ∀ msg other : Message, msg.SameCoordinates other →
    msg.timestamp = other.timestamp → rawKey settings msg = rawKey settings other
  /-- Whatever the process does in its lives, there is one object for a record. -/
  unique : ∀ lives, FromLog lives → ∀ topic partition offset, LegalTopic topic →
    ∀ key ∈ bucketAfter settings processCdcMessage lives,
    ∀ other ∈ bucketAfter settings processCdcMessage lives,
      Addresses settings topic partition offset key →
      Addresses settings topic partition offset other → key = other

theorem coordinates_faithful (settings : Settings) (processCdcMessage : CdcProcessor)
    (prints : python.PrintsIntegers) :
    FaithfulCoordinates settings processCdcMessage python where
  failureId := fun _ _ _ _ _ _ _ _ same => deterministicFailureId_inj same
  legacy := fun _ _ _ _ legacy isTopic isPartition isOffset =>
    failureIdFromEnvelope_legacy prints legacy isTopic isPartition isOffset
  s3Key := fun _ _ _ _ _ _ _ _ _ legal otherLegal isKey isKeyOther =>
    deterministicS3Key_inj legal otherLegal isKey isKeyOther
  replayed := fun _ _ same stamped => rawKey_congr same stamped
  unique := fun _ log _ _ _ legal _ held _ heldOther addresses addressesOther =>
    bucketAfter_unique log legal held heldOther addresses addressesOther

/-- `str` and the decoders on envelopes whose failure identity is missing. -/
def decimalPython : Python where
  loads := fun _ => .error ⟨"JSONDecodeError", "Expecting value"⟩
  str
    | .int number => toString number
    | .bool value => if value then "True" else "False"
    | _ => "None"
  b64decode := fun _ => .error ⟨"Error", "Incorrect padding"⟩

/-- The stream is read again after the process has stopped. -/
theorem deployed_faithfulCoordinates :
    bucketAfter deployed (fun _ _ world => (.ok "", world)) [poisonedStream, poisonedStream] =
        ["raw/v2/category=pdmis/source_group=pdmis/source_system=pdmis/year=1970/month=01/day=01" ++
          "/topic=pdmis.loans/partition=0/offset=100/record.avro"] ∧
      FaithfulCoordinates deployed (fun _ _ world => (.ok "", world)) decimalPython :=
  ⟨by decide +kernel, coordinates_faithful deployed _ fun _ => rfl⟩

end PaymentsPlatform.Replay.Dlq
