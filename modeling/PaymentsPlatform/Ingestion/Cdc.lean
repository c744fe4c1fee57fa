import PaymentsPlatform.Ingestion.Processing
import PaymentsPlatform.Library.DateTime
import PaymentsPlatform.Library.Json

/-!
# Change records

`process_cdc_message` normalises a Debezium record, stores it as one Avro
object at a key derived from its Kafka coordinate, and commits; a record that
cannot be normalised leaves metadata in the quarantine instead.  Either object
is compared with the one that an earlier delivery may have left at its key.

`Runtime` stands for the libraries that read and write the payloads.  Every
answer of the object store and of Kafka is scripted by `CdcServices`.
-/

namespace PaymentsPlatform.Ingestion

structure CdcSettings extends Settings where
  cdcQuarantinePrefix : String

/-- The canonical CDC Raw record, field by field as in `cdc_raw_event.avsc`. -/
structure CdcRecord where
  recordType : String
  sourceSystem : String
  sourceSchema : Option String
  sourceTable : Option String
  operation : Option String
  operationName : Option String
  sourcePosition : Option String
  sourceTransaction : Option String
  eventTimestamp : Option String
  ingestionTimestamp : String
  schemaVersion : String
  recordKeyJson : String
  beforeJson : Option String
  afterJson : Option String
  snapshotJson : Option String
  tombstone : Bool
  kafkaTopic : String
  kafkaPartition : Nat
  kafkaOffset : Nat
  deriving DecidableEq

/-- The first bytes of an Avro container file. -/
def avroMagic : List UInt8 := [0x4F, 0x62, 0x6A, 0x01]

/-- Avro container files of CDC records.  A writer chooses the sync marker, which is all that
differs between two files of one record, and a reader gives back what was appended. -/
structure AvroContainer where
  append : CdcRecord → Except Raised (List UInt8 → List UInt8)
  read : List UInt8 → Except Raised (List CdcRecord)
  magic : ∀ record file, append record = .ok file → ∀ marker, (file marker).take 4 = avroMagic
  read_append : ∀ record file, append record = .ok file → ∀ marker,
    read (file marker) = .ok [record]

structure Runtime where
  /-- `json.loads(raw.decode("utf-8"))`. -/
  loads : List UInt8 → Except Raised Json
  /-- `str(value)`. -/
  str : Json → String
  /-- `repr(value)`. -/
  repr : Json → String
  floatRepr : Binary → String
  /-- Whether `str` raises `RecursionError`, at a nesting that `json.loads` may still take. -/
  reprTooDeep : Json → Bool
  /-- Whether `json.dumps` does. -/
  nestsTooDeep : Json → Bool
  /-- The text of a time in milliseconds since the epoch. -/
  isoFromEpochMs : Json → Except Raised String
  /-- `hashlib.sha256(text.encode("utf-8")).hexdigest()`. -/
  sha256 : String → String
  avro : AvroContainer

/-- The answers to the calls of one `process_cdc_message`. -/
structure CdcServices where
  client : Option Raised
  head : Option Raised
  read : Option Raised
  marker : List UInt8
  put : Put
  commit : Option Raised

structure CdcWorld where
  objects : List (String × List UInt8)
  committed : List (String × Nat × Nat)

/-! ## Decoding and normalising -/

/-- `CDCEnvelopeError(message)`, a `ValueError`. -/
def cdcEnvelopeError (message : String) : Raised := ⟨.valueError, "CDCEnvelopeError", message⟩

/-- What the two decoders make of the errors of `json.loads` and `bytes.decode`. -/
def Raised.asEnvelopeError (message : String) (raised : Raised) : Raised :=
  if raised.name ∈ ["UnicodeDecodeError", "JSONDecodeError"] then cdcEnvelopeError message
  else raised

def decodeCdcKey (runtime : Runtime) (rawKey : Option (List UInt8)) : Except Raised Json :=
  match rawKey with
  | none => .error (cdcEnvelopeError "CDC record key is required")
  | some rawKey =>
      (runtime.loads rawKey).mapError (Raised.asEnvelopeError "CDC record key is not valid JSON")

/-- A null value is a Debezium tombstone. -/
def decodeCdcValue (runtime : Runtime) (rawValue : Option (List UInt8)) :
    Except Raised (Option (List (String × Json))) :=
  match rawValue with
  | none => .ok none
  | some rawValue => do
      let value ← (runtime.loads rawValue).mapError
        (Raised.asEnvelopeError "CDC value is not valid JSON")
      match value with
      | .object members => .ok (some members)
      | _ => .error (cdcEnvelopeError "CDC value must be a JSON object")

/-- `OPERATIONS`. -/
def operations : List (String × String) :=
  [("c", "INSERT"), ("u", "UPDATE"), ("d", "DELETE"), ("r", "SNAPSHOT_READ")]

structure CdcEnvelope where
  recordType : String
  sourceSystem : String
  sourceSchema : Option String
  sourceTable : Option String
  operation : Option String
  operationName : Option String
  sourcePosition : Option String
  sourceTransaction : Json
  eventTimestamp : Option String
  ingestionTimestamp : String
  schemaVersion : String
  recordKey : Json
  before : Json
  after : Json
  snapshot : Json
  tombstone : Bool

/-- `_iso_from_epoch_ms`. -/
def isoFromEpochMs (runtime : Runtime) (value : Json) : Except Raised String :=
  if value.isNull then .error (cdcEnvelopeError "Debezium event timestamp is required")
  else runtime.isoFromEpochMs value

def recursionError : Raised := ⟨.other, "RecursionError", "maximum recursion depth exceeded"⟩

/-- `str(value)`, or what it raises. -/
def Runtime.text (runtime : Runtime) (value : Json) : Except Raised String :=
  if runtime.reprTooDeep value then .error recursionError else .ok (runtime.str value)

/-- `_source_position`. -/
def sourcePosition (runtime : Runtime) (source : List (String × Json)) : Except Raised String :=
  if !(Json.get source "lsn").isNull then runtime.text (Json.get source "lsn")
  else if !(Json.get source "sequence").isNull then runtime.text (Json.get source "sequence")
  else .error (cdcEnvelopeError "CDC source position is required")

/-- `_record_key`. -/
def recordKey (key : Json) : Except Raised Json :=
  if key.isNull then .error (cdcEnvelopeError "CDC record key is required") else .ok key

/-- `op not in OPERATIONS` raises for what cannot be hashed; otherwise the name of the operation. -/
def operationName (runtime : Runtime) (op : Json) : Except Raised (String × String) :=
  match op with
  | .string text =>
      match operations.lookup text with
      | some name => .ok (text, name)
      | none => .error (cdcEnvelopeError ("Unsupported CDC operation: " ++ runtime.repr op))
  | .array _ => .error ⟨.typeError, "TypeError", "unhashable type: 'list'"⟩
  | .object _ => .error ⟨.typeError, "TypeError", "unhashable type: 'dict'"⟩
  | _ => .error (cdcEnvelopeError ("Unsupported CDC operation: " ++ runtime.repr op))

/-- The images that an operation requires. -/
def checkImages (op : String) (before after : Json) : Except Raised Unit :=
  if op = "c" && after.isNull then .error (cdcEnvelopeError "INSERT requires after state")
  else if op = "u" && after.isNull then .error (cdcEnvelopeError "UPDATE requires after state")
  else if op = "d" && before.isNull then .error (cdcEnvelopeError "DELETE requires before state")
  else if op = "r" && after.isNull then
    .error (cdcEnvelopeError "SNAPSHOT_READ requires after state")
  else .ok ()

/-- `raise CDCEnvelopeError(message)`, unless the condition holds. -/
def require (condition : Bool) (message : String) : Except Raised Unit :=
  if condition then .ok () else .error (cdcEnvelopeError message)

/-- `normalize_debezium_event` of a tombstone. -/
def tombstoneEnvelope (sourceSystem : String) (key : Json) (ingestionTimestamp : String) :
    Except Raised CdcEnvelope := do
  let key ← recordKey key
  return {
    recordType := "CDC_TOMBSTONE"
    sourceSystem := sourceSystem
    sourceSchema := none
    sourceTable := none
    operation := none
    operationName := none
    sourcePosition := none
    sourceTransaction := .null
    eventTimestamp := none
    ingestionTimestamp := ingestionTimestamp
    schemaVersion := "1"
    recordKey := key
    before := .null
    after := .null
    snapshot := .null
    tombstone := true }

/-- `normalize_debezium_event` of a change, once the operation and the source are known. -/
def changeEnvelope (runtime : Runtime) (sourceSystem : String) (key : Json)
    (payload source : List (String × Json)) (op name ingestionTimestamp : String) :
    Except Raised CdcEnvelope := do
  let schema := (Json.get source "schema").orElse (Json.get source "schema_name")
  let table := Json.get source "table"
  require schema.truthy "CDC source schema is required"
  require table.truthy "CDC source table is required"
  let eventMs := if (Json.get payload "ts_ms").isNull then Json.get source "ts_ms"
    else Json.get payload "ts_ms"
  let transactionId :=
    match Json.get payload "transaction" with
    | .object transaction =>
        (Json.get transaction "id").orElse (Json.get transaction "transaction_id")
    | _ => .null
  let sourceSchema ← runtime.text schema
  let sourceTable ← runtime.text table
  let position ← sourcePosition runtime source
  let eventTimestamp ← isoFromEpochMs runtime eventMs
  let key ← recordKey key
  let before := Json.get payload "before"
  let after := Json.get payload "after"
  checkImages op before after
  return {
    recordType := "CDC_CHANGE_EVENT"
    sourceSystem := sourceSystem
    sourceSchema := some sourceSchema
    sourceTable := some sourceTable
    operation := some op
    operationName := some name
    sourcePosition := some position
    sourceTransaction := transactionId
    eventTimestamp := some eventTimestamp
    ingestionTimestamp := ingestionTimestamp
    schemaVersion := "1"
    recordKey := key
    before := before
    after := after
    snapshot := Json.get source "snapshot"
    tombstone := false }

def normalizeDebeziumEvent (runtime : Runtime) (sourceSystem : String) (key : Json)
    (value : Option (List (String × Json))) (ingestionTimestamp : String) :
    Except Raised CdcEnvelope :=
  match value with
  | none => tombstoneEnvelope sourceSystem key ingestionTimestamp
  | some value =>
      match (value.lookup "payload").getD (.object value) with
      | .object payload => do
          let (op, name) ← operationName runtime (Json.get payload "op")
          match Json.get payload "source" with
          | .object source =>
              changeEnvelope runtime sourceSystem key payload source op name ingestionTimestamp
          | _ => .error (cdcEnvelopeError "Debezium source metadata is required")
      | _ => .error (cdcEnvelopeError "Debezium payload must be an object")

/-- What `json.dumps` writes. -/
def Runtime.dumps (runtime : Runtime) (value : Json) : String :=
  String.ofList (value.dumps runtime.floatRepr)

def canonicalCdcJson (runtime : Runtime) (value : Json) : Except Raised String :=
  if runtime.nestsTooDeep value then .error recursionError else .ok (runtime.dumps value)

def optionalJson (runtime : Runtime) (value : Json) : Except Raised (Option String) :=
  if value.isNull then .ok none else (canonicalCdcJson runtime value).map some

/-- `None if value is None else str(value)`. -/
def optionalString (runtime : Runtime) (value : Json) : Except Raised (Option String) :=
  if value.isNull then .ok none else (runtime.text value).map some

/-- The record of `cdc_avro_record`, once its texts are written. -/
def cdcRecord (envelope : CdcEnvelope) (topic : String) (partition offset : Nat)
    (sourceTransaction : Option String) (recordKeyJson : String)
    (beforeJson afterJson snapshotJson : Option String) : CdcRecord where
  recordType := envelope.recordType
  sourceSystem := envelope.sourceSystem
  sourceSchema := envelope.sourceSchema
  sourceTable := envelope.sourceTable
  operation := envelope.operation
  operationName := envelope.operationName
  sourcePosition := envelope.sourcePosition
  sourceTransaction := sourceTransaction
  eventTimestamp := envelope.eventTimestamp
  ingestionTimestamp := envelope.ingestionTimestamp
  schemaVersion := envelope.schemaVersion
  recordKeyJson := recordKeyJson
  beforeJson := beforeJson
  afterJson := afterJson
  snapshotJson := snapshotJson
  tombstone := envelope.tombstone
  kafkaTopic := topic
  kafkaPartition := partition
  kafkaOffset := offset

def cdcAvroRecord (runtime : Runtime) (envelope : CdcEnvelope) (topic : String)
    (partition offset : Nat) : Except Raised CdcRecord := do
  let sourceTransaction ← optionalString runtime envelope.sourceTransaction
  let recordKeyJson ← canonicalCdcJson runtime envelope.recordKey
  let beforeJson ← optionalJson runtime envelope.before
  let afterJson ← optionalJson runtime envelope.after
  let snapshotJson ← optionalJson runtime envelope.snapshot
  return cdcRecord envelope topic partition offset sourceTransaction recordKeyJson beforeJson
    afterJson snapshotJson

/-! ## Object keys -/

/-- The date in a key: `%Y`, `%m` and `%d`. -/
def dateParts (timestamp : DateTime) : String :=
  "year=" ++ String.ofList (DateTime.padded 4 timestamp.year) ++ "/month=" ++
    String.ofList (DateTime.padded 2 timestamp.month) ++ "/day=" ++
    String.ofList (DateTime.padded 2 timestamp.day)

def deterministicCdcS3Key (settings : CdcSettings) (sourceSystem topic : String)
    (partition offset : Nat) (timestamp : DateTime) : Except Raised String := do
  let root ← settings.checkedRawPrefix
  return root ++ "/cdc/source_system=" ++ sourceSystem ++ "/" ++ dateParts timestamp ++
    "/topic=" ++ topic ++ "/partition=" ++ toString partition ++ "/offset=" ++
    toString offset ++ "/record.avro"

def deterministicCdcQuarantineKey (settings : CdcSettings) (failureId : String)
    (timestamp : DateTime) : String :=
  settings.cdcQuarantinePrefix ++ "/" ++ dateParts timestamp ++ "/failure_id=" ++ failureId ++
    "/metadata.json"

def deterministicCdcFailureId (runtime : Runtime) (sourceSystem topic : String)
    (partition offset : Nat) : String :=
  runtime.sha256 ("cdc-failure-v1|" ++ sourceSystem ++ "|" ++ topic ++ "|" ++
    toString partition ++ "|" ++ toString offset)

/-! ## Failure metadata -/

/-- `ALLOWED_FAILURE_FIELDS`. -/
def allowedFailureFields : List String :=
  ["failure_id", "source_system", "topic", "partition", "offset", "failure_category",
    "error_class", "event_timestamp"]

/-- `PROHIBITED_FAILURE_FIELDS`. -/
def prohibitedFailureFields : List String :=
  ["record_key", "record_key_json", "business_key", "before", "before_json", "after",
    "after_json", "payload", "original_payload", "original_key", "source_record"]

def safeErrorClass (error : Raised) : String :=
  match error.errorClass with
  | .valueError => "CDC_VALIDATION_ERROR"
  | .typeError => "CDC_VALIDATION_ERROR"
  | .osError => "CDC_STORAGE_ERROR"
  | _ => "CDC_PROCESSING_ERROR"

/-- Every field of the first list is one of the second. -/
def fieldsWithin (fields others : List String) : Bool := fields.all (· ∈ others)

def cdcFailureMetadata (runtime : Runtime) (sourceSystem topic : String) (partition offset : Nat)
    (failureCategory : String) (error : Raised) (eventTimestamp : String) :
    Except Raised (List (String × Json)) :=
  let record := [
    ("failure_id", .string (deterministicCdcFailureId runtime sourceSystem topic partition offset)),
    ("source_system", .string sourceSystem),
    ("topic", .string topic),
    ("partition", .int partition),
    ("offset", .int offset),
    ("failure_category", .string failureCategory),
    ("error_class", .string (safeErrorClass error)),
    ("event_timestamp", .string eventTimestamp)]
  let fields := record.map Prod.fst
  if !(fieldsWithin fields allowedFailureFields && fieldsWithin allowedFailureFields fields) then
    .error ⟨.valueError, "ValueError", "CDC failure metadata field contract violated"⟩
  else if fields.any (· ∈ prohibitedFailureFields) then
    .error ⟨.valueError, "ValueError", "Restricted CDC content entered failure metadata"⟩
  else .ok record

def validateSafeFailureMetadata (record : List (String × Json)) : Except Raised Unit :=
  let fields := record.map Prod.fst
  if fields.any (· ∈ prohibitedFailureFields) then
    .error ⟨.valueError, "ValueError", "Restricted CDC failure fields prohibited"⟩
  else if !fieldsWithin fields allowedFailureFields then
    .error ⟨.valueError, "ValueError", "Unexpected CDC failure metadata fields"⟩
  else if !fieldsWithin allowedFailureFields fields then
    .error ⟨.valueError, "ValueError", "Required CDC failure metadata fields missing"⟩
  else .ok ()

/-! ## Stores -/

/-- `CDCRawCollisionError(message)`. -/
def cdcRawCollisionError (message : String) : Raised := ⟨.other, "CDCRawCollisionError", message⟩

/-- `CDCQuarantineWriteFailedError(message)`. -/
def cdcQuarantineWriteFailedError (message : String) : Raised :=
  ⟨.other, "CDCQuarantineWriteFailedError", message⟩

/-- `head_object` and, if there is such an object, its bytes.  The answers that say that there
is none lead on to `put_object`, whichever of the two calls gave them. -/
def existingObject (services : CdcServices) (key : String) (world : CdcWorld) :
    Except Raised (Option (List UInt8)) :=
  match services.head, world.objects.lookup key with
  | some raised, _ => if raised.isNotFound then .ok none else .error raised
  | none, none => .ok none
  | none, some body =>
      match services.read with
      | some raised => if raised.isNotFound then .ok none else .error raised
      | none => .ok (some body)

/-- `put_object`, which replaces what is at the key. -/
def CdcWorld.store (world : CdcWorld) (key : String) (body : List UInt8) : CdcWorld :=
  { world with objects := (key, body) :: world.objects.filter (·.1 ≠ key) }

def putCdcObject (services : CdcServices) (key : String) (body : List UInt8) (world : CdcWorld) :
    Except Raised Unit × CdcWorld :=
  match services.put.raised with
  | none => (.ok (), world.store key body)
  | some raised => (.error raised, if services.put.kept then world.store key body else world)

def serializeCdcToAvro (runtime : Runtime) (services : CdcServices) (record : CdcRecord) :
    Except Raised (List UInt8) := do
  let file ← runtime.avro.append record
  if (file services.marker).take 4 ≠ avroMagic then
    .error (permanentProcessingError "CDC Avro OCF magic validation failed")
  else .ok (file services.marker)

def deserializeSingleCdcAvroRecord (runtime : Runtime) (payload : List UInt8) :
    Except Raised CdcRecord := do
  match ← runtime.avro.read payload with
  | [record] => .ok record
  | _ => .error (cdcRawCollisionError
      "Existing CDC Raw object does not contain exactly one canonical record")

/-- An object that is there already is accepted only if it holds the same record. -/
def verifyCdcRecord (runtime : Runtime) (existing : List UInt8) (record : CdcRecord) :
    Except Raised Unit :=
  match deserializeSingleCdcAvroRecord runtime existing with
  | .error raised =>
      if raised.name = "CDCRawCollisionError" then .error raised
      else .error (cdcRawCollisionError
        "Existing CDC Raw object is not a valid canonical CDC Avro record")
  | .ok existingRecord =>
      if existingRecord ≠ record then
        .error (cdcRawCollisionError "CDC Raw deterministic object logical-content collision")
      else .ok ()

def storeCdcEventToS3 (settings : CdcSettings) (runtime : Runtime) (services : CdcServices)
    (record : CdcRecord) (sourceSystem topic : String) (partition offset : Nat)
    (timestamp : DateTime) (world : CdcWorld) : Except Raised String × CdcWorld :=
  match deterministicCdcS3Key settings sourceSystem topic partition offset timestamp with
  | .error raised => (.error raised, world)
  | .ok key =>
      match serializeCdcToAvro runtime services record, services.client with
      | .error raised, _ => (.error raised, world)
      | .ok _, some raised => (.error raised, world)
      | .ok payload, none =>
          match existingObject services key world with
          | .error raised => (.error raised, world)
          | .ok (some existing) =>
              ((verifyCdcRecord runtime existing record).map fun _ => key, world)
          | .ok none =>
              match putCdcObject services key payload world with
              | (.ok (), next) => (.ok key, next)
              | (.error raised, next) => (.error raised, next)

/-- `str.encode("utf-8")`. -/
def encodeUtf8 (text : String) : List UInt8 := text.toUTF8.data.toList

def Raised.isClientError (raised : Raised) : Bool :=
  match raised.errorClass with
  | .clientError _ => true
  | _ => false

/-- What the `except` around the `put_object` of the quarantine catches. -/
def Raised.isStorageError (raised : Raised) : Bool :=
  match raised.errorClass with
  | .clientError _ | .botoCoreError | .osError => true
  | _ => false

def storeCdcQuarantineMetadata (settings : CdcSettings) (runtime : Runtime)
    (services : CdcServices) (metadata : List (String × Json)) (timestamp : DateTime)
    (world : CdcWorld) : Except Raised String × CdcWorld :=
  match validateSafeFailureMetadata metadata with
  | .error raised => (.error raised, world)
  | .ok () =>
      -- a flat object of texts and integers
      let payload := encodeUtf8 (runtime.dumps (.object metadata))
      let failureId :=
        match Json.get metadata "failure_id" with
        | .string failureId => failureId
        | other => runtime.str other
      let key := deterministicCdcQuarantineKey settings failureId timestamp
      match services.client, existingObject services key world with
      | some raised, _ => (.error raised, world)
      | none, .error raised =>
          (.error (if raised.isClientError then
            cdcQuarantineWriteFailedError "CDC quarantine object lookup failed" else raised), world)
      | none, .ok (some existing) =>
          if existing ≠ payload then
            (.error (cdcQuarantineWriteFailedError
              "CDC quarantine deterministic object collision"), world)
          else (.ok key, world)
      | none, .ok none =>
          match putCdcObject services key payload world with
          | (.ok (), next) => (.ok key, next)
          | (.error raised, next) =>
              (.error (if raised.isStorageError then
                cdcQuarantineWriteFailedError "CDC quarantine persistence failed" else raised),
                next)

/-! ## The processing boundary -/

/-- `consumer.commit(msg, asynchronous=False)`. -/
def commitCdc (services : CdcServices) (msg : Message) (world : CdcWorld) :
    Except Raised Unit × CdcWorld :=
  match services.commit with
  | some raised => (.error raised, world)
  | none =>
      (.ok (), { world with
        committed := world.committed ++ [(msg.topic, msg.partition, msg.offset)] })

/-- `datetime.fromisoformat(text.replace("Z", "+00:00"))`. -/
def parseTimestamp (text : String) : Except Raised DateTime :=
  match DateTime.fromIsoformat (String.ofList
      (text.toList.flatMap fun c => if c = 'Z' then ['+', '0', '0', ':', '0', '0'] else [c])) with
  | some timestamp => .ok timestamp
  | none => .error ⟨.valueError, "ValueError", "Invalid isoformat string: " ++ text⟩

/-- A stored object is followed by the commit; a failed store is not. -/
def thenCommit (services : CdcServices) (msg : Message)
    (stored : Except Raised String × CdcWorld) : Except Raised String × CdcWorld :=
  match stored with
  | (.error raised, world) => (.error raised, world)
  | (.ok key, world) =>
      match commitCdc services msg world with
      | (.error raised, world) => (.error raised, world)
      | (.ok (), world) => (.ok key, world)

def quarantinePermanentCdcFailure (settings : CdcSettings) (runtime : Runtime)
    (services : CdcServices) (msg : Message) (sourceSystem : String) (error : Raised)
    (ingestionTimestamp : String) (world : CdcWorld) : Except Raised String × CdcWorld :=
  let prepared := do
    let timestamp ← parseTimestamp ingestionTimestamp
    let metadata ← cdcFailureMetadata runtime sourceSystem msg.topic msg.partition msg.offset
      "CDC_PERMANENT_RECORD_FAILURE" error ingestionTimestamp
    validateSafeFailureMetadata metadata
    return (metadata, timestamp)
  match prepared with
  | .error raised => (.error raised, world)
  | .ok (metadata, timestamp) =>
      thenCommit services msg
        (storeCdcQuarantineMetadata settings runtime services metadata timestamp world)

/-- The `try` of `process_cdc_message`. -/
def cdcRecordOf (runtime : Runtime) (msg : Message) (sourceSystem ingestionTimestamp : String) :
    Except Raised CdcRecord := do
  let key ← decodeCdcKey runtime msg.key
  let value ← decodeCdcValue runtime msg.value
  let envelope ← normalizeDebeziumEvent runtime sourceSystem key value ingestionTimestamp
  cdcAvroRecord runtime envelope msg.topic msg.partition msg.offset

/-- The errors that send a record to the quarantine. -/
def Raised.isPermanent (raised : Raised) : Bool :=
  raised.errorClass = .valueError || raised.errorClass = .typeError

def processCdcMessage (settings : CdcSettings) (runtime : Runtime) (services : CdcServices)
    (msg : Message) (sourceSystem ingestionTimestamp : String) (world : CdcWorld) :
    Except Raised String × CdcWorld :=
  match cdcRecordOf runtime msg sourceSystem ingestionTimestamp with
  | .error raised =>
      if raised.isPermanent then
        match quarantinePermanentCdcFailure settings runtime services msg sourceSystem raised
            ingestionTimestamp world with
        | (.error raised, next) => (.error raised, next)
        | (.ok _, next) => (.ok "cdc_quarantine", next)
      else (.error raised, world)
  | .ok record =>
      match parseTimestamp ingestionTimestamp with
      | .error raised => (.error raised, world)
      | .ok timestamp =>
          thenCommit services msg (storeCdcEventToS3 settings runtime services record sourceSystem
            msg.topic msg.partition msg.offset timestamp world)

end PaymentsPlatform.Ingestion
