import PaymentsPlatform.Ingestion.SourceRecord
import PaymentsPlatform.Replay.DlqReplay

/-!
# From the source record to the DLQ and back

The consumer writes a failed record into an envelope as base64 inside JSON, and the replay tool
publishes what it reads from the envelope.  What one program writes and the other reads is
related here for every source record.
-/

namespace PaymentsPlatform.Replay.Dlq

open Ingestion (b64digit b64encodeChars)

/-! ## Base64 -/

/-- The six bits of a digit. -/
def b64value (digit : Char) : Option Nat :=
  "ABCDEFGHIJKLMNOPQRSTUVWXYZabcdefghijklmnopqrstuvwxyz0123456789+/".toList.idxOf? digit

/-- What `base64.b64decode` makes of a text in groups of four digits. -/
def b64decodeChars : List Char → Option (List UInt8)
  | [] => some []
  | first :: second :: third :: fourth :: rest => do
      let high ← b64value first
      let low ← b64value second
      let byte := UInt8.ofNat (high * 4 + low / 16)
      if third = '=' ∧ fourth = '=' ∧ rest.isEmpty then return [byte]
      let middle ← b64value third
      let next := UInt8.ofNat (low % 16 * 16 + middle / 4)
      if fourth = '=' ∧ rest.isEmpty then return [byte, next]
      let last ← b64value fourth
      let others ← b64decodeChars rest
      return byte :: next :: UInt8.ofNat (middle % 4 * 64 + last) :: others
  | _ => none

theorem b64value_b64digit {bits : Nat} (bound : bits < 64) :
    b64value (b64digit bits) = some bits := by
  have table : ∀ bits < 64, b64value (b64digit bits) = some bits := by decide +kernel
  exact table bits bound

theorem b64digit_ne_padding {bits : Nat} (bound : bits < 64) : b64digit bits ≠ '=' := by
  have table : ∀ bits < 64, b64digit bits ≠ '=' := by decide +kernel
  exact table bits bound

theorem ofNat_eq_self {byte : UInt8} {number : Nat} (same : number = byte.toNat) :
    UInt8.ofNat number = byte := by
  rw [same, UInt8.ofNat_toNat]

theorem b64decodeChars_b64encodeChars (bytes : List UInt8) :
    b64decodeChars (b64encodeChars bytes) = some bytes := by
  fun_induction b64encodeChars bytes with
  | case1 => rfl
  | case2 first =>
      have size := first.toNat_lt
      rw [b64decodeChars, b64value_b64digit (by omega),
        b64value_b64digit (by omega)]
      have same := @ofNat_eq_self first (first.toNat / 4 * 4 + first.toNat % 4 * 16 / 16) (by omega)
      simp only [Option.bind_eq_bind, Option.bind_some, same]
      rfl
  | case3 first second =>
      have size := first.toNat_lt
      have secondSize := second.toNat_lt
      rw [b64decodeChars, b64value_b64digit (by omega),
        b64value_b64digit (by omega), b64value_b64digit (by omega)]
      have padding := @b64digit_ne_padding (second.toNat % 16 * 4) (by omega)
      have same := @ofNat_eq_self first (first.toNat / 4 * 4 +
        (first.toNat % 4 * 16 + second.toNat / 16) / 16) (by omega)
      have next := @ofNat_eq_self second ((first.toNat % 4 * 16 + second.toNat / 16) % 16 * 16 +
        second.toNat % 16 * 4 / 4) (by omega)
      simp only [Option.bind_eq_bind, Option.bind_some, same, next, padding, false_and, if_false]
      rfl
  | case4 first second third rest ih =>
      have size := first.toNat_lt
      have secondSize := second.toNat_lt
      have thirdSize := third.toNat_lt
      rw [b64decodeChars, b64value_b64digit (by omega),
        b64value_b64digit (by omega), b64value_b64digit (by omega), b64value_b64digit (by omega)]
      have padding := @b64digit_ne_padding (third.toNat % 64) (by omega)
      have same := @ofNat_eq_self first (first.toNat / 4 * 4 +
        (first.toNat % 4 * 16 + second.toNat / 16) / 16) (by omega)
      have following := @ofNat_eq_self second
        ((first.toNat % 4 * 16 + second.toNat / 16) % 16 * 16 + (second.toNat % 16 * 4 + third.toNat / 64) / 4) (by omega)
      have last := @ofNat_eq_self third ((second.toNat % 16 * 4 + third.toNat / 64) % 4 * 64 +
        third.toNat % 64) (by omega)
      simp only [Option.bind_eq_bind, Option.bind_some, same, following, last, padding, false_and,
        and_false, if_false, ih]
      rfl

/-! ## The envelope's text -/

/-- `None` is written as `null`. -/
def optionalText (text : Option String) : Json := (text.map Json.string).getD .null

end PaymentsPlatform.Replay.Dlq

namespace PaymentsPlatform.Ingestion.FailureEnvelope

open Replay.Dlq (optionalText)

/-- The dictionary that `failure_envelope` returns. -/
def members (envelope : FailureEnvelope) : List (String × Json) :=
  [("failure_id", .string envelope.failureId),
    ("original_topic", .string envelope.originalTopic),
    ("original_partition", .int envelope.originalPartition),
    ("original_offset", .int envelope.originalOffset),
    ("original_event_id", optionalText envelope.originalEventId),
    ("business_key", optionalText envelope.businessKey),
    ("failure_reason", .string envelope.failureReason),
    ("error_type", .string envelope.errorType),
    ("retry_count", .int envelope.retryCount),
    ("first_failure_timestamp", .string envelope.firstFailureTimestamp),
    ("last_failure_timestamp", .string envelope.lastFailureTimestamp),
    ("correlation_id", optionalText envelope.correlationId),
    ("trace_id", optionalText envelope.traceId),
    ("original_key_base64", .string envelope.originalKeyBase64),
    ("original_payload_base64", .string envelope.originalPayloadBase64)]

/-- The value that `publish_failure` gives to the producer: `json.dumps` without blanks, of
members that are no floats. -/
def value (envelope : FailureEnvelope) : List UInt8 :=
  (String.ofList (Json.braced (Json.dumpsMembers (fun _ => "") envelope.members))).toUTF8.data.toList

end PaymentsPlatform.Ingestion.FailureEnvelope

namespace PaymentsPlatform.Replay.Dlq

open Ingestion (Message Event FailureEnvelope b64encode failureEnvelope deterministicFailureId)

variable (python : Python)

/-- The two decoders undo the encoders of the consumer: `json.loads` reads the object that
`json.dumps` wrote, and `base64.b64decode` reads groups of four digits. -/
structure Python.Reads (envelope : FailureEnvelope) : Prop where
  loads : python.loads envelope.value = .ok (.object envelope.members)
  b64decode : ∀ text bytes, b64decodeChars text = some bytes →
    python.b64decode (.string (String.ofList text)) = .ok bytes

/-! ## Replay of the envelope -/

/-- The publication is the source record, on its own topic.  The tool always gives the producer
a key and a value, be they empty. -/
def Publication.Restores (publication : Publication) (msg : Message) : Prop :=
  publication.topic = .string msg.topic ∧ some publication.key = msg.key ∧
    some publication.value = msg.value

/-- A run for this record that gets as far as the producer, which takes what it is given. -/
structure Goes (args : Args) (world : World) (record : Record) (failureId : String) : Prop where
  configured : world.kafkaSecurityConfig = .ok ()
  fetched : world.fetched = .message record
  requested : record.offset = args.offset
  scanned : ∃ groups, (scanDlqEnvelopes python world >>= duplicateGroups python) = .ok groups ∧
    (((groups.get? failureId).getD []).isEmpty ∨ args.allowDuplicateReplay)
  executed : args.execute
  accepted : ∀ publication, world.produce publication = .ok ()

/-- The DLQ record is read as an envelope with the identity of the source record, and a run for
it publishes the source record. -/
def RoundTrips (msg : Message) (record : Record) : Prop :=
  (∃ members, requestedEnvelope python record = .ok (members, msg.failureId)) ∧
    ∀ args world, Goes python args world record msg.failureId →
      ∃ publication, (main python args world).published = some publication ∧
        publication.Restores msg

variable {python} {msg : Message} {record : Record} {envelope : FailureEnvelope}

theorem main_of_goes {args : Args} {world : World} {members : List (String × Json)}
    {failureId : String} (requested : requestedEnvelope python record = .ok (members, failureId))
    (goes : Goes python args world record failureId) :
    main python args world = publish python args world members failureId := by
  rcases goes.scanned with ⟨groups, scanned, free⟩
  have passes : ¬ (!((groups.get? failureId).getD []).isEmpty && !args.allowDuplicateReplay) := by
    rcases free with none | allowed
    · simp [none]
    · simp [allowed]
  simp only [main, goes.configured, goes.fetched, goes.requested, ne_eq, not_true_eq_false,
    if_false, replay, requested, scanned, goes.executed, Bool.not_true, Bool.false_eq_true]
  rw [if_neg passes]

theorem requestedEnvelope_of_reads (reads : python.Reads envelope)
    (stored : record.value = some envelope.value) (identified : envelope.failureId ≠ "") :
    requestedEnvelope python record = .ok (envelope.members, envelope.failureId) := by
  have given : (Json.get envelope.members "failure_id").truthy = true := by
    change (!envelope.failureId.isEmpty) = true
    simpa using identified
  have failureId : failureIdFromEnvelope python (.object envelope.members) =
      .ok envelope.failureId := by
    rw [failureIdFromEnvelope, if_pos given]
    rfl
  rw [requestedEnvelope, loadsValue, stored]
  simp only [reads.loads, failureId, bind, Except.bind]
  rfl

theorem failureId_ne_empty (msg : Message) : msg.failureId ≠ "" := by
  intro empty
  have lengths := congrArg String.length empty
  simp [Message.failureId, deterministicFailureId, String.length_append] at lengths

theorem b64decode_b64encode (reads : python.Reads envelope) (bytes : List UInt8) :
    python.b64decode (.string (b64encode bytes)) = .ok bytes :=
  reads.b64decode _ _ (b64decodeChars_b64encodeChars bytes)

section Envelope

variable {event : Option Event} {error : Ingestion.Raised} {retryCount : Nat}
  {firstFailure now : String}

theorem publication_failureEnvelope (args : Args) (time failureId : String)
    (reads : python.Reads (failureEnvelope msg event error retryCount firstFailure now)) :
    publication python args time
        (failureEnvelope msg event error retryCount firstFailure now).members failureId =
      .ok ⟨.string msg.topic, msg.key.getD [], msg.value.getD [], args.reason, time, failureId⟩ := by
  have topic : required (failureEnvelope msg event error retryCount firstFailure now).members
      "original_topic" = .ok (.string msg.topic) := rfl
  have key : required (failureEnvelope msg event error retryCount firstFailure now).members
      "original_key_base64" = .ok (.string (b64encode (msg.key.getD []))) := rfl
  have value : required (failureEnvelope msg event error retryCount firstFailure now).members
      "original_payload_base64" = .ok (.string (b64encode (msg.value.getD []))) := rfl
  simp only [publication, topic, key, value, bind, Except.bind, b64decode_b64encode reads]
  rfl

/-- A run of the tool for the record, over a DLQ that holds nothing else. -/
def onlyRun (record : Record) : Args × World :=
  (⟨record.partition, record.offset, "", true, false⟩,
    { dlq := [record]
      kafkaSecurityConfig := .ok ()
      fetched := .message record
      metadata := .error ⟨"KafkaException", ""⟩
      polls := []
      produce := fun _ => .ok ()
      deliveryFailed := false
      now := ""
      fetchedStored := by simp [Poll.record?]
      pollsStored := List.nil_subperm })

theorem goes_onlyRun (python : Python) (record : Record) (failureId : String) :
    Goes python (onlyRun record).1 (onlyRun record).2 record failureId where
  configured := rfl
  fetched := rfl
  requested := rfl
  scanned := ⟨.empty, rfl, .inl rfl⟩
  executed := rfl
  accepted := fun _ => rfl

theorem published_of_goes {args : Args} {world : World}
    (reads : python.Reads (failureEnvelope msg event error retryCount firstFailure now))
    (stored : record.value =
      some (failureEnvelope msg event error retryCount firstFailure now).value)
    (goes : Goes python args world record msg.failureId) :
    (main python args world).published = some ⟨.string msg.topic, msg.key.getD [],
      msg.value.getD [], args.reason, world.now, msg.failureId⟩ := by
  have requested := requestedEnvelope_of_reads reads stored (failureId_ne_empty msg)
  rw [main_of_goes requested goes, publish, publication_failureEnvelope args _ _ reads]
  simp only [goes.accepted]
  rfl

theorem roundTrips_of_present
    (reads : python.Reads (failureEnvelope msg event error retryCount firstFailure now))
    (stored : record.value =
      some (failureEnvelope msg event error retryCount firstFailure now).value)
    (present : msg.key ≠ none ∧ msg.value ≠ none) : RoundTrips python msg record := by
  constructor
  · exact ⟨_, requestedEnvelope_of_reads reads stored (failureId_ne_empty msg)⟩
  · intro args world goes
    obtain ⟨key, isKey⟩ := Option.ne_none_iff_exists'.mp present.1
    obtain ⟨value, isValue⟩ := Option.ne_none_iff_exists'.mp present.2
    refine ⟨_, published_of_goes reads stored goes, rfl, ?_, ?_⟩
    · rw [isKey]
      rfl
    · rw [isValue]
      rfl

theorem present_of_roundTrips {msg : Message} {record : Record}
    (restored : RoundTrips python msg record) : msg.key ≠ none ∧ msg.value ≠ none := by
  obtain ⟨publication, -, -, key, value⟩ :=
    restored.2 _ _ (goes_onlyRun python record msg.failureId)
  constructor
  · rw [← key]
    exact Option.some_ne_none _
  · rw [← value]
    exact Option.some_ne_none _

/-- The consumer encodes `msg.key() or b""`, so a record comes back as it was exactly if neither
its key nor its value is null. -/
theorem envelope_roundTrips_iff
    (reads : python.Reads (failureEnvelope msg event error retryCount firstFailure now))
    (stored : record.value =
      some (failureEnvelope msg event error retryCount firstFailure now).value) :
    RoundTrips python msg record ↔ msg.key ≠ none ∧ msg.value ≠ none :=
  ⟨present_of_roundTrips, roundTrips_of_present reads stored⟩

end Envelope

/-! ## Two records of one topic -/

/-- The decoders, of which `json.loads` is asked for one text only. -/
def pythonFor (envelope : FailureEnvelope) : Python where
  loads bytes := if bytes = envelope.value then .ok (.object envelope.members)
    else .error ⟨"JSONDecodeError", "Expecting value: line 1 column 1 (char 0)"⟩
  str _ := ""
  b64decode
    | .string text =>
        match b64decodeChars text.toList with
        | some bytes => .ok bytes
        | none => .error ⟨"Error", "Incorrect padding"⟩
    | _ => .error ⟨"TypeError", "argument should be a bytes-like object or ASCII string"⟩

theorem reads_pythonFor (envelope : FailureEnvelope) : (pythonFor envelope).Reads envelope where
  loads := if_pos rfl
  b64decode := by
    intro text bytes decoded
    simp only [pythonFor, String.toList_ofList, decoded]

/-- A failed record of the loans topic, with an empty key. -/
def failedLoan (value : Option (List UInt8)) : Message :=
  ⟨"pdmis.loans", 2, 17, some [], value, none⟩

def failedLoanEnvelope (value : Option (List UInt8)) : FailureEnvelope :=
  failureEnvelope (failedLoan value) none
    (Ingestion.permanentProcessingError "Expecting data framing of length 6 bytes") 0
    "2026-07-01T00:00:00+00:00" "2026-07-01T00:00:01+00:00"

def failedLoanRecord (value : Option (List UInt8)) : Record :=
  ⟨0, 5, some (failedLoanEnvelope value).value⟩

theorem failedLoan_roundTrips :
    RoundTrips (pythonFor (failedLoanEnvelope (some [0, 255]))) (failedLoan (some [0, 255]))
      (failedLoanRecord (some [0, 255])) :=
  (envelope_roundTrips_iff (reads_pythonFor _) rfl).mpr ⟨by decide, by decide⟩

/-- The tombstone comes back as a record with an empty value. -/
theorem loanTombstone_not_roundTrips :
    (pythonFor (failedLoanEnvelope none)).Reads (failedLoanEnvelope none) ∧
      (failedLoanRecord none).value = some (failedLoanEnvelope none).value ∧
      ¬ RoundTrips (pythonFor (failedLoanEnvelope none)) (failedLoan none)
        (failedLoanRecord none) := by
  refine ⟨reads_pythonFor _, rfl, ?_⟩
  intro restored
  exact (present_of_roundTrips restored).2 rfl

end PaymentsPlatform.Replay.Dlq
