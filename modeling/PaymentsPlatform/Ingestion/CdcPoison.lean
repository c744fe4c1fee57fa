import PaymentsPlatform.Ingestion.CdcReplay

/-!
# Poison among the change records

A record that `process_cdc_message` neither stores nor quarantines is delivered again for ever.
With stores that work, this happens to the records whose content makes a library raise something
else than `ValueError` or `TypeError`, or makes Avro raise anything at all: Avro writes the record
after the `try` is over.
-/

namespace PaymentsPlatform.Ingestion

/-! ## Texts -/

/-- The texts that Avro writes. -/
def CdcRecord.texts (record : CdcRecord) : List String :=
  [record.recordType, record.sourceSystem] ++ record.sourceSchema.toList ++
    record.sourceTable.toList ++ record.operation.toList ++ record.operationName.toList ++
    record.sourcePosition.toList ++ record.sourceTransaction.toList ++
    record.eventTimestamp.toList ++
    [record.ingestionTimestamp, record.schemaVersion, record.recordKeyJson] ++
    record.beforeJson.toList ++ record.afterJson.toList ++ record.snapshotJson.toList ++
    [record.kafkaTopic]

/-- What can be encoded in UTF-8: every text but those with a lone surrogate, which JSON can
escape.  What a float or a time is written as is ASCII. -/
structure Encoding (runtime : Runtime) (encodes : String → Prop) : Prop where
  ascii : ∀ text : String, Json.Ascii text.toList → encodes text
  floatRepr : ∀ value, Json.Ascii (runtime.floatRepr value).toList
  isoFromEpochMs : ∀ value text, runtime.isoFromEpochMs value = .ok text → Json.Ascii text.toList

section Content

variable (runtime : Runtime) (encodes : String → Prop) (msg : Message)

/-- The text of what is not null. -/
def present (write : Json → String) (value : Json) : Option String :=
  if value.isNull then none else some (write value)

/-- A change whose operation, source, schema and table are there. -/
structure Change where
  payload : List (String × Json)
  source : List (String × Json)
  op : String

namespace Change

def schema (change : Change) : Json :=
  (Json.get change.source "schema").orElse (Json.get change.source "schema_name")

def table (change : Change) : Json := Json.get change.source "table"

/-- What `_source_position` takes the text of. -/
def position (change : Change) : Option Json :=
  if !(Json.get change.source "lsn").isNull then some (Json.get change.source "lsn")
  else if !(Json.get change.source "sequence").isNull then some (Json.get change.source "sequence")
  else none

/-- `event_ms`. -/
def eventMs (change : Change) : Json :=
  if (Json.get change.payload "ts_ms").isNull then Json.get change.source "ts_ms"
  else Json.get change.payload "ts_ms"

def transactionId (change : Change) : Json :=
  match Json.get change.payload "transaction" with
  | .object transaction =>
      (Json.get transaction "id").orElse (Json.get transaction "transaction_id")
  | _ => .null

/-- The texts that Avro gets from the change as they are. -/
def texts (change : Change) : List String :=
  [runtime.str change.schema, runtime.str change.table] ++
    change.position.toList.map runtime.str ++
    (present runtime.str change.transactionId).toList

/-- The change has a position, a time, a key and the images that its operation requires. -/
structure Complete (change : Change) (key : Json) : Prop where
  position : change.position.isSome
  time : ∃ text, isoFromEpochMs runtime change.eventMs = .ok text
  key : key.isNull = false
  images : checkImages change.op (Json.get change.payload "before")
    (Json.get change.payload "after") = .ok ()

end Change

/-- The change in a value, as far as normalising comes before it writes a text. -/
def changeOf (value : List (String × Json)) : Option Change :=
  match (value.lookup "payload").getD (.object value) with
  | .object payload =>
      match operationName runtime (Json.get payload "op"), Json.get payload "source" with
      | .ok (op, _), .object source =>
          let change : Change := ⟨payload, source, op⟩
          if change.schema.truthy && change.table.truthy then some change else none
      | _, _ => none
  | _ => none

/-- What is not null and is nested too deep. -/
def tooDeep (deep : Json → Bool) (value : Json) : Bool := !value.isNull && deep value

/-- What goes into a record as `str` or `json.dumps` writes it is not nested too deep for that. -/
def Shallow (transaction : Json) (values : List Json) : Prop :=
  tooDeep runtime.reprTooDeep transaction = false ∧
    ∀ value ∈ values, tooDeep runtime.nestsTooDeep value = false

/-- No library stumbles over a change: its schema, its table and its position are not nested too
deep, what its time raises is a `ValueError` or a `TypeError`, and if it is complete then the rest
can be written and the texts can be encoded. -/
structure Change.Digestible (change : Change) (key : Json) : Prop where
  schema : runtime.reprTooDeep change.schema = false
  table : runtime.reprTooDeep change.table = false
  position : ∀ position, change.position = some position → runtime.reprTooDeep position = false
  time : change.position.isSome → ∀ raised,
    isoFromEpochMs runtime change.eventMs = .error raised → raised.isPermanent
  shallow : change.Complete runtime key → Shallow runtime change.transactionId
    [key, Json.get change.payload "before", Json.get change.payload "after",
      Json.get change.source "snapshot"]
  texts : change.Complete runtime key → ∀ text ∈ change.texts runtime, encodes text

/-- No library stumbles over the content of the record: what the decoders raise is a `ValueError` or
a `TypeError`, and what they give back can be written. -/
structure Digestible : Prop where
  key : ∀ raised, decodeCdcKey runtime msg.key = .error raised → raised.isPermanent
  value : ∀ key raised, decodeCdcKey runtime msg.key = .ok key →
    decodeCdcValue runtime msg.value = .error raised → raised.isPermanent
  tombstone : ∀ key, decodeCdcKey runtime msg.key = .ok key →
    decodeCdcValue runtime msg.value = .ok none → tooDeep runtime.nestsTooDeep key = false
  change : ∀ key value change, decodeCdcKey runtime msg.key = .ok key →
    decodeCdcValue runtime msg.value = .ok (some value) → changeOf runtime value = some change →
    change.Digestible runtime encodes key

end Content

section Normalising

variable {runtime : Runtime} {sourceSystem ingestionTimestamp : String} {key : Json}
  {value : List (String × Json)}

theorem cdcEnvelopeError_isPermanent (message : String) :
    (cdcEnvelopeError message).isPermanent := rfl

theorem operationName_isPermanent {op : Json} {raised : Raised}
    (failed : operationName runtime op = .error raised) : raised.isPermanent := by
  unfold operationName at failed
  split at failed
  next =>
    split at failed
    · cases failed
    · cases failed
      rfl
  all_goals
    cases failed
    rfl

theorem mem_operations {op : Json} {text name : String}
    (named : operationName runtime op = .ok (text, name)) : (text, name) ∈ operations := by
  unfold operationName at named
  split at named
  next found =>
    split at named
    next other known =>
      cases named
      obtain ⟨before, after, split, -⟩ := List.lookup_eq_some_iff.mp known
      rw [split]
      exact List.mem_append_right _ List.mem_cons_self
    next => cases named
  all_goals cases named

theorem checkImages_isPermanent {op : String} {before after : Json} {raised : Raised}
    (failed : checkImages op before after = .error raised) : raised.isPermanent := by
  unfold checkImages at failed
  repeat' split at failed
  all_goals cases failed
  all_goals rfl

theorem normalize_of_no_change (noChange : changeOf runtime value = none) :
    ∃ raised, normalizeDebeziumEvent runtime sourceSystem key (some value) ingestionTimestamp =
      .error raised ∧ raised.isPermanent := by
  unfold changeOf at noChange
  simp only [normalizeDebeziumEvent]
  split
  next payload isPayload =>
    rw [isPayload] at noChange
    cases named : operationName runtime (Json.get payload "op") with
    | error raised => exact ⟨raised, rfl, operationName_isPermanent named⟩
    | ok operation =>
        simp only [named] at noChange
        simp only [bind, Except.bind]
        split
        next source isSource =>
          simp only [isSource, Change.schema, Change.table] at noChange
          simp only [changeEnvelope, require]
          cases schema : ((Json.get source "schema").orElse
              (Json.get source "schema_name")).truthy with
          | false => exact ⟨_, rfl, rfl⟩
          | true =>
              cases table : (Json.get source "table").truthy with
              | false => exact ⟨_, rfl, rfl⟩
              | true => simp [schema, table] at noChange
        next => exact ⟨_, rfl, rfl⟩
  next => exact ⟨_, rfl, rfl⟩

/-- The envelope of a tombstone. -/
def tombstone (sourceSystem : String) (key : Json) (ingestionTimestamp : String) :
    CdcEnvelope where
  recordType := "CDC_TOMBSTONE"
  sourceSystem := sourceSystem
  sourceSchema := none
  sourceTable := none
  operation := none
  operationName := none
  sourcePosition := none
  sourceTransaction := .null
  eventTimestamp := none
  ingestionTimestamp := ingestionTimestamp
  schemaVersion := "1"
  recordKey := key
  before := .null
  after := .null
  snapshot := .null
  tombstone := true

theorem recordKey_of_present (present : key.isNull = false) : recordKey key = .ok key := by
  rw [recordKey, present]
  rfl

theorem recordKey_of_null (null : key.isNull = true) :
    recordKey key = .error (cdcEnvelopeError "CDC record key is required") := by
  rw [recordKey, null]
  rfl

/-- The envelope of a complete change. -/
def Change.envelope (runtime : Runtime) (sourceSystem : String) (change : Change) (name : String)
    (key position : Json) (time ingestionTimestamp : String) : CdcEnvelope where
  recordType := "CDC_CHANGE_EVENT"
  sourceSystem := sourceSystem
  sourceSchema := some (runtime.str change.schema)
  sourceTable := some (runtime.str change.table)
  operation := some change.op
  operationName := some name
  sourcePosition := some (runtime.str position)
  sourceTransaction := change.transactionId
  eventTimestamp := some time
  ingestionTimestamp := ingestionTimestamp
  schemaVersion := "1"
  recordKey := key
  before := Json.get change.payload "before"
  after := Json.get change.payload "after"
  snapshot := Json.get change.source "snapshot"
  tombstone := false

theorem sourcePosition_eq (change : Change) :
    sourcePosition runtime change.source =
      match change.position with
      | some position => runtime.text position
      | none => .error (cdcEnvelopeError "CDC source position is required") := by
  unfold sourcePosition Change.position
  split
  · rfl
  · split <;> rfl

theorem text_of_shallow {value : Json} (shallow : runtime.reprTooDeep value = false) :
    runtime.text value = .ok (runtime.str value) := by
  simp [Runtime.text, shallow]

theorem text_of_deep {value : Json} (deep : runtime.reprTooDeep value = true) :
    runtime.text value = .error recursionError := by
  simp [Runtime.text, deep]

theorem normalize_of_change {change : Change} (isChange : changeOf runtime value = some change) :
    ∃ name, (change.op, name) ∈ operations ∧
      normalizeDebeziumEvent runtime sourceSystem key (some value) ingestionTimestamp = (do
        let sourceSchema ← runtime.text change.schema
        let sourceTable ← runtime.text change.table
        let position ← sourcePosition runtime change.source
        let time ← isoFromEpochMs runtime change.eventMs
        let key ← recordKey key
        checkImages change.op (Json.get change.payload "before") (Json.get change.payload "after")
        return { change.envelope runtime sourceSystem name key .null time ingestionTimestamp with
          sourceSchema := some sourceSchema
          sourceTable := some sourceTable
          sourcePosition := some position }) := by
  unfold changeOf at isChange
  simp only [normalizeDebeziumEvent]
  split
  next payload isPayload =>
    rw [isPayload] at isChange
    cases named : operationName runtime (Json.get payload "op") with
    | error raised => simp [named] at isChange
    | ok operation =>
        obtain ⟨op, name⟩ := operation
        simp only [named] at isChange
        cases isSource : Json.get payload "source" with
        | object source =>
            simp only [isSource] at isChange
            split at isChange
            next truthy =>
              cases isChange
              refine ⟨name, mem_operations named, ?_⟩
              simp only [Change.schema, Change.table, Bool.and_eq_true] at truthy
              simp only [bind, Except.bind, changeEnvelope, require, truthy.1, truthy.2, if_true]
              rfl
            next => cases isChange
        | null | bool _ | int _ | float _ | string _ | array _ => simp [isSource] at isChange
  next notObject =>
    split at isChange
    next payload isPayload => exact absurd isPayload (notObject payload)
    next => cases isChange

end Normalising

section Texts

variable {runtime : Runtime} {encodes : String → Prop} {sourceSystem topic : String}
  {now : DateTime} {partition offset : Nat}

theorem Encoding.dumps (encoding : Encoding runtime encodes) (value : Json) :
    encodes (runtime.dumps value) := by
  apply encoding.ascii
  rw [Runtime.dumps, String.toList_ofList]
  exact Json.ascii_dumps encoding.floatRepr value

theorem Encoding.clock (encoding : Encoding runtime encodes) (now : DateTime) :
    encodes now.isoformat := by
  apply encoding.ascii
  rw [DateTime.isoformat, String.toList_ofList]
  intro c listed
  rcases DateTime.mem_isoChars listed with digit | mark
  · simp only [Char.isDigit, Bool.and_eq_true, decide_eq_true_eq] at digit
    have high : c.toNat ≤ 57 := digit.2
    omega
  · simp only [List.mem_cons, List.not_mem_nil, or_false] at mark
    rcases mark with rfl | rfl | rfl | rfl | rfl <;> decide

theorem Encoding.operation (encoding : Encoding runtime encodes) {op name : String}
    (listed : (op, name) ∈ operations) : encodes op ∧ encodes name := by
  have plain : ∀ operation ∈ operations,
      Json.Ascii operation.1.toList ∧ Json.Ascii operation.2.toList := by decide
  exact ⟨encoding.ascii _ (plain _ listed).1, encoding.ascii _ (plain _ listed).2⟩

theorem optionalString_eq (value : Json) :
    optionalString runtime value =
      if tooDeep runtime.reprTooDeep value then .error recursionError
      else .ok (present runtime.str value) := by
  unfold optionalString tooDeep Runtime.text present
  cases value.isNull <;> cases runtime.reprTooDeep value <;> rfl

theorem optionalJson_eq (value : Json) :
    optionalJson runtime value =
      if tooDeep runtime.nestsTooDeep value then .error recursionError
      else .ok (present runtime.dumps value) := by
  unfold optionalJson tooDeep canonicalCdcJson present
  cases value.isNull <;> cases runtime.nestsTooDeep value <;> rfl

theorem canonicalCdcJson_eq {value : Json} (there : value.isNull = false) :
    canonicalCdcJson runtime value =
      if tooDeep runtime.nestsTooDeep value then .error recursionError
      else .ok (runtime.dumps value) := by
  rw [canonicalCdcJson, tooDeep, there]
  rfl

/-- The record of an envelope, if nothing in it is nested too deep. -/
def shallowRecord (runtime : Runtime) (envelope : CdcEnvelope) (topic : String)
    (partition offset : Nat) : CdcRecord :=
  cdcRecord envelope topic partition offset (present runtime.str envelope.sourceTransaction)
    (runtime.dumps envelope.recordKey) (present runtime.dumps envelope.before)
    (present runtime.dumps envelope.after) (present runtime.dumps envelope.snapshot)

theorem cdcAvroRecord_of_shallow (envelope : CdcEnvelope) (keyed : envelope.recordKey.isNull = false)
    (shallow : Shallow runtime envelope.sourceTransaction
      [envelope.recordKey, envelope.before, envelope.after, envelope.snapshot]) :
    cdcAvroRecord runtime envelope topic partition offset =
      .ok (shallowRecord runtime envelope topic partition offset) := by
  obtain ⟨transaction, values⟩ := shallow
  simp only [List.forall_mem_cons] at values
  obtain ⟨key, before, after, snapshot, -⟩ := values
  simp only [cdcAvroRecord, optionalString_eq, optionalJson_eq, canonicalCdcJson_eq keyed,
    transaction, key, before, after, snapshot]
  rfl

theorem cdcAvroRecord_of_deep (envelope : CdcEnvelope) (keyed : envelope.recordKey.isNull = false)
    (deep : ¬ Shallow runtime envelope.sourceTransaction
      [envelope.recordKey, envelope.before, envelope.after, envelope.snapshot]) :
    cdcAvroRecord runtime envelope topic partition offset = .error recursionError := by
  simp only [cdcAvroRecord, optionalString_eq, optionalJson_eq, canonicalCdcJson_eq keyed]
  simp only [Shallow, List.forall_mem_cons, List.not_mem_nil, false_imp_iff, implies_true,
    and_true] at deep
  -- the first value that is nested too deep raises
  cases transaction : tooDeep runtime.reprTooDeep envelope.sourceTransaction with
  | true => rfl
  | false =>
      cases key : tooDeep runtime.nestsTooDeep envelope.recordKey with
      | true => rfl
      | false =>
          cases before : tooDeep runtime.nestsTooDeep envelope.before with
          | true => rfl
          | false =>
              cases after : tooDeep runtime.nestsTooDeep envelope.after with
              | true => rfl
              | false =>
                  cases snapshot : tooDeep runtime.nestsTooDeep envelope.snapshot with
                  | true => rfl
                  | false => exact absurd ⟨transaction, key, before, after, snapshot⟩ deep

theorem encodes_change_iff (encoding : Encoding runtime encodes) (system : encodes sourceSystem)
    (named : encodes topic) {change : Change} {name time : String} {key position : Json}
    (operation : (change.op, name) ∈ operations) (positioned : change.position = some position)
    (timed : isoFromEpochMs runtime change.eventMs = .ok time) :
    (∀ text ∈ (shallowRecord runtime
        (change.envelope runtime sourceSystem name key position time now.isoformat) topic partition
          offset).texts, encodes text) ↔
      ∀ text ∈ change.texts runtime, encodes text := by
  have ascii : encodes "CDC_CHANGE_EVENT" ∧ encodes "1" :=
    ⟨encoding.ascii _ (by decide), encoding.ascii _ (by decide)⟩
  have timePlain : encodes time := by
    unfold isoFromEpochMs at timed
    split at timed
    · cases timed
    · exact encoding.ascii _ (encoding.isoFromEpochMs _ _ timed)
  have written : ∀ value text, present runtime.dumps value = some text → encodes text := by
    intro value text listed
    unfold present at listed
    split at listed
    · cases listed
    · cases listed
      exact encoding.dumps value
  obtain ⟨opPlain, namePlain⟩ := encoding.operation operation
  have before := iff_true_intro (written (Json.get change.payload "before"))
  have after := iff_true_intro (written (Json.get change.payload "after"))
  have snapshot := iff_true_intro (written (Json.get change.source "snapshot"))
  simp only [CdcRecord.texts, shallowRecord, cdcRecord, Change.envelope, Change.texts, positioned,
    Option.toList_some, List.map_cons, List.map_nil, List.forall_mem_append,
    List.forall_mem_cons, List.cons_append, List.nil_append]
  simp [ascii, system, named, opPlain, namePlain, timePlain, encoding.clock, encoding.dumps,
    before, after, snapshot]

theorem encodes_tombstone (encoding : Encoding runtime encodes) (system : encodes sourceSystem)
    (named : encodes topic) (key : Json) :
    ∀ text ∈ (shallowRecord runtime (tombstone sourceSystem key now.isoformat) topic partition
      offset).texts, encodes text := by
  have ascii : encodes "CDC_TOMBSTONE" ∧ encodes "1" :=
    ⟨encoding.ascii _ (by decide), encoding.ascii _ (by decide)⟩
  simp [CdcRecord.texts, shallowRecord, cdcRecord, tombstone, present, Json.isNull, ascii, system,
    named, encoding.clock, encoding.dumps]

end Texts

/-! ## What becomes of a record -/

section Records

variable {settings : CdcSettings} {runtime : Runtime} {encodes : String → Prop} {msg : Message}
  {sourceSystem : String} {now : DateTime}

/-- The record goes on to Avro, which can write it, or its error sends it to the quarantine. -/
def Passes (encodes : String → Prop) : Except Raised CdcRecord → Prop
  | .error raised => raised.isPermanent
  | .ok record => ∀ text ∈ record.texts, encodes text

/-- The record of a value that is decoded. -/
def recordOfValue (runtime : Runtime) (msg : Message) (sourceSystem : String) (now : DateTime)
    (key : Json) (value : Option (List (String × Json))) : Except Raised CdcRecord := do
  let envelope ← normalizeDebeziumEvent runtime sourceSystem key value now.isoformat
  cdcAvroRecord runtime envelope msg.topic msg.partition msg.offset

theorem passes_tombstone_iff (encoding : Encoding runtime encodes) (system : encodes sourceSystem)
    (topic : encodes msg.topic) (key : Json) :
    Passes encodes (recordOfValue runtime msg sourceSystem now key none) ↔
      tooDeep runtime.nestsTooDeep key = false := by
  simp only [recordOfValue, normalizeDebeziumEvent, tombstoneEnvelope]
  cases null : key.isNull with
  | true =>
      rw [recordKey_of_null null, tooDeep, null]
      exact iff_of_true (cdcEnvelopeError_isPermanent _) rfl
  | false =>
      rw [recordKey_of_present null]
      change Passes encodes (cdcAvroRecord runtime (tombstone sourceSystem key now.isoformat) msg.topic
        msg.partition msg.offset) ↔ _
      have shallow_iff : Shallow runtime .null [key, .null, .null, .null] ↔
          tooDeep runtime.nestsTooDeep key = false := by
        simp [Shallow, tooDeep, Json.isNull]
      by_cases shallow : Shallow runtime .null [key, .null, .null, .null]
      · rw [cdcAvroRecord_of_shallow (tombstone sourceSystem key now.isoformat) null shallow]
        exact iff_of_true (encodes_tombstone encoding system topic key) (shallow_iff.mp shallow)
      · rw [cdcAvroRecord_of_deep (tombstone sourceSystem key now.isoformat) null shallow]
        exact iff_of_false (by simp [Passes, recursionError, Raised.isPermanent])
          (mt shallow_iff.mpr shallow)

theorem passes_of_no_change {key : Json} {value : List (String × Json)}
    (noChange : changeOf runtime value = none) :
    Passes encodes (recordOfValue runtime msg sourceSystem now key (some value)) := by
  obtain ⟨raised, failed, permanent⟩ := normalize_of_no_change noChange
  rw [recordOfValue, failed]
  exact permanent

theorem not_passes_recursionError : ¬ Passes encodes (.error recursionError) := by
  simp [Passes, recursionError, Raised.isPermanent]

section Change

variable {key position : Json} {change : Change} {name time : String}

theorem digestible_of_incomplete (schema : runtime.reprTooDeep change.schema = false)
    (table : runtime.reprTooDeep change.table = false)
    (shallowPosition : ∀ position, change.position = some position →
      runtime.reprTooDeep position = false)
    (timed : change.position.isSome → ∀ raised,
      isoFromEpochMs runtime change.eventMs = .error raised → raised.isPermanent)
    (incomplete : ¬ change.Complete runtime key) : change.Digestible runtime encodes key :=
  ⟨schema, table, shallowPosition, timed, fun complete => absurd complete incomplete,
    fun complete => absurd complete incomplete⟩

theorem passes_complete_iff (encoding : Encoding runtime encodes) (system : encodes sourceSystem)
    (topic : encodes msg.topic) (schema : runtime.reprTooDeep change.schema = false)
    (table : runtime.reprTooDeep change.table = false)
    (deep : runtime.reprTooDeep position = false) (operation : (change.op, name) ∈ operations)
    (positioned : change.position = some position)
    (timed : isoFromEpochMs runtime change.eventMs = .ok time)
    (complete : change.Complete runtime key) :
    Passes encodes (cdcAvroRecord runtime (change.envelope runtime sourceSystem name key position time
        now.isoformat) msg.topic msg.partition msg.offset) ↔
      change.Digestible runtime encodes key := by
  by_cases shallow : Shallow runtime change.transactionId
    [key, Json.get change.payload "before", Json.get change.payload "after",
      Json.get change.source "snapshot"]
  · rw [cdcAvroRecord_of_shallow (change.envelope runtime sourceSystem name key position time
      now.isoformat) complete.key shallow]
    refine (encodes_change_iff encoding system topic operation positioned timed).trans
      ⟨fun encoded => ⟨schema, table, fun other same => ?_, fun _ raised failed => ?_,
        fun _ => shallow, fun _ => encoded⟩, fun digestible => digestible.texts complete⟩
    · cases positioned.symm.trans same
      exact deep
    · cases timed.symm.trans failed
  · rw [cdcAvroRecord_of_deep (change.envelope runtime sourceSystem name key position time
      now.isoformat) complete.key shallow]
    exact iff_of_false not_passes_recursionError fun digestible =>
      shallow (digestible.shallow complete)

theorem passes_change_iff (encoding : Encoding runtime encodes) (system : encodes sourceSystem)
    (topic : encodes msg.topic) {value : List (String × Json)}
    (isChange : changeOf runtime value = some change) :
    Passes encodes (recordOfValue runtime msg sourceSystem now key (some value)) ↔
      change.Digestible runtime encodes key := by
  obtain ⟨name, operation, normalized⟩ := normalize_of_change isChange
  rw [recordOfValue, normalized]
  by_cases schema : runtime.reprTooDeep change.schema = true
  · rw [text_of_deep schema]
    refine iff_of_false not_passes_recursionError fun digestible => ?_
    exact absurd (schema.symm.trans digestible.schema) (by decide)
  rw [Bool.not_eq_true] at schema
  rw [text_of_shallow schema]
  by_cases table : runtime.reprTooDeep change.table = true
  · rw [text_of_deep table]
    refine iff_of_false not_passes_recursionError fun digestible => ?_
    exact absurd (table.symm.trans digestible.table) (by decide)
  rw [Bool.not_eq_true] at table
  rw [text_of_shallow table, sourcePosition_eq]
  cases positioned : change.position with
  | none =>
      refine iff_of_true (cdcEnvelopeError_isPermanent _)
        (digestible_of_incomplete schema table ?_ ?_ fun complete => ?_)
      · simp [positioned]
      · simp [positioned]
      · simpa [positioned] using complete.position
  | some position =>
      dsimp only
      by_cases deep : runtime.reprTooDeep position = true
      · rw [text_of_deep deep]
        refine iff_of_false not_passes_recursionError fun digestible => ?_
        exact absurd (deep.symm.trans (digestible.position position positioned)) (by decide)
      rw [Bool.not_eq_true] at deep
      rw [text_of_shallow deep]
      have shallowPosition : ∀ other, change.position = some other →
          runtime.reprTooDeep other = false := by
        intro other same
        cases positioned.symm.trans same
        exact deep
      cases timed : isoFromEpochMs runtime change.eventMs with
      | error raised =>
          refine ⟨fun permanent => digestible_of_incomplete schema table shallowPosition ?_ ?_,
            fun digestible => digestible.time (by simp [positioned]) raised timed⟩
          · intro _ other same
            cases timed.symm.trans same
            exact permanent
          · intro complete
            obtain ⟨text, found⟩ := complete.time
            cases timed.symm.trans found
      | ok time =>
          have noError : change.position.isSome → ∀ raised,
              isoFromEpochMs runtime change.eventMs = .error raised → raised.isPermanent := by
            intro _ raised failed
            cases timed.symm.trans failed
          cases null : key.isNull with
          | true =>
              rw [recordKey_of_null null]
              refine iff_of_true (cdcEnvelopeError_isPermanent _) (digestible_of_incomplete schema
                table shallowPosition noError fun complete => ?_)
              cases null.symm.trans complete.key
          | false =>
              rw [recordKey_of_present null]
              cases images : checkImages change.op (Json.get change.payload "before")
                  (Json.get change.payload "after") with
              | error raised =>
                  refine iff_of_true (checkImages_isPermanent images) (digestible_of_incomplete schema
                    table shallowPosition noError fun complete => ?_)
                  cases images.symm.trans complete.images
              | ok done =>
                  exact passes_complete_iff encoding system topic schema table deep operation
                    positioned timed ⟨by simp [positioned], ⟨time, timed⟩, null, images⟩

end Change

/-- The record of a delivery passes exactly if its content is digestible. -/
theorem passes_iff (encoding : Encoding runtime encodes) (system : encodes sourceSystem)
    (topic : encodes msg.topic) :
    Passes encodes (cdcRecordOf runtime msg sourceSystem now.isoformat) ↔
      Digestible runtime encodes msg := by
  cases keyed : decodeCdcKey runtime msg.key with
  | error raised =>
      have failed : cdcRecordOf runtime msg sourceSystem now.isoformat = .error raised := by
        rw [cdcRecordOf, keyed]
        rfl
      rw [failed]
      constructor
      · intro permanent
        refine ⟨fun other same => ?_, by simp [keyed], by simp [keyed], by simp [keyed]⟩
        cases keyed.symm.trans same
        exact permanent
      · exact fun digestible => digestible.key raised keyed
  | ok key =>
      cases valued : decodeCdcValue runtime msg.value with
      | error raised =>
          have failed : cdcRecordOf runtime msg sourceSystem now.isoformat = .error raised := by
            rw [cdcRecordOf, keyed, valued]
            rfl
          rw [failed]
          constructor
          · intro permanent
            refine ⟨by simp [keyed], fun _ other _ same => ?_, by simp [valued], by simp [valued]⟩
            cases valued.symm.trans same
            exact permanent
          · exact fun digestible => digestible.value key raised keyed valued
      | ok found =>
          have made : cdcRecordOf runtime msg sourceSystem now.isoformat =
              recordOfValue runtime msg sourceSystem now key found := by
            rw [cdcRecordOf, keyed, valued]
            rfl
          rw [made]
          cases found with
          | none =>
              rw [passes_tombstone_iff encoding system topic]
              constructor
              · intro shallow
                refine ⟨by simp [keyed], by simp [valued], fun other same _ => ?_, by simp [valued]⟩
                cases keyed.symm.trans same
                exact shallow
              · exact fun digestible => digestible.tombstone key keyed valued
          | some value =>
              cases isChange : changeOf runtime value with
              | none =>
                  refine iff_of_true (passes_of_no_change isChange) ⟨by simp [keyed],
                    by simp [valued], by simp [valued], fun _ other change _ same found => ?_⟩
                  cases valued.symm.trans same
                  cases isChange.symm.trans found
              | some change =>
                  rw [passes_change_iff encoding system topic isChange]
                  constructor
                  · intro digestible
                    refine ⟨by simp [keyed], by simp [valued], by simp [valued],
                      fun otherKey other otherChange sameKey same found => ?_⟩
                    cases keyed.symm.trans sameKey
                    cases valued.symm.trans same
                    cases isChange.symm.trans found
                    exact digestible
                  · exact fun digestible =>
                      digestible.change key value change keyed valued isChange

/-- Settings and libraries that work for a delivery: there is a prefix for Raw, the names of the
source and the topic can be encoded, and Avro writes a record exactly if its texts can be. -/
structure Working (settings : CdcSettings) (runtime : Runtime) (encodes : String → Prop)
    (msg : Message) (sourceSystem : String) (now : DateTime) : Prop where
  root : ∃ root, settings.checkedRawPrefix = .ok root
  encoding : Encoding runtime encodes
  system : encodes sourceSystem
  topic : encodes msg.topic
  written : ∀ record, cdcRecordOf runtime msg sourceSystem now.isoformat = .ok record →
    ((∃ file, runtime.avro.append record = .ok file) ↔ ∀ text ∈ record.texts, encodes text)

theorem deposits_iff (working : Working settings runtime encodes msg sourceSystem now) :
    (∃ deposit, cdcDeposit settings runtime msg sourceSystem now = some deposit) ↔
      Digestible runtime encodes msg := by
  rw [← passes_iff working.encoding working.system working.topic]
  unfold cdcDeposit
  cases recorded : cdcRecordOf runtime msg sourceSystem now.isoformat with
  | error raised =>
      dsimp only [Passes]
      split
      next permanent => exact iff_of_true ⟨_, rfl⟩ permanent
      next transient => exact iff_of_false (by simp) transient
  | ok record =>
      obtain ⟨root, isRoot⟩ := working.root
      obtain ⟨objectKey, keyed⟩ : ∃ objectKey, deterministicCdcS3Key settings sourceSystem msg.topic
          msg.partition msg.offset now = .ok objectKey := by
        rw [deterministicCdcS3Key, isRoot]
        exact ⟨_, rfl⟩
      rw [Passes, ← working.written record recorded]
      simp only [keyed]
      cases runtime.avro.append record with
      | error raised => exact iff_of_false (by simp) (by simp)
      | ok file => exact iff_of_true ⟨_, rfl⟩ ⟨file, rfl⟩

/-- A delivery that its content does not stop: the record is in Raw or its metadata in the
quarantine, and the offset is committed; or another object lies there already. -/
inductive Handled (settings : CdcSettings) (runtime : Runtime) (msg : Message)
    (sourceSystem : String) (now : DateTime) (world : CdcWorld)
    (result : Except Raised String × CdcWorld) : Prop where
  | laidDown (deposit : Deposit) (body : List UInt8)
      (deposits : cdcDeposit settings runtime msg sourceSystem now = some deposit)
      (returned : result.1.isOk)
      (held : result.2.objects.lookup deposit.key = some body) (accepted : deposit.accepts body)
      (committed : result.2.committed =
        world.committed ++ [(msg.topic, msg.partition, msg.offset)])
  | collides (deposit : Deposit) (body : List UInt8)
      (deposits : cdcDeposit settings runtime msg sourceSystem now = some deposit)
      (held : world.objects.lookup deposit.key = some body)
      (other : deposit.accepts body = false)

theorem handled_iff_deposits (marker : List UInt8) (world : CdcWorld) :
    Handled settings runtime msg sourceSystem now world
        (processCdcMessage settings runtime (answering marker) msg sourceSystem now.isoformat
          world) ↔
      ∃ deposit, cdcDeposit settings runtime msg sourceSystem now = some deposit := by
  constructor
  · intro handled
    cases handled with
    | laidDown deposit _ deposits => exact ⟨deposit, deposits⟩
    | collides deposit _ deposits => exact ⟨deposit, deposits⟩
  · rintro ⟨deposit, deposits⟩
    have processed := processCdcMessage_eq settings runtime (answering marker) msg sourceSystem now
      world
    rw [deposits] at processed
    generalize processCdcMessage settings runtime (answering marker) msg sourceSystem
      now.isoformat world = result at processed ⊢
    have returned := congrArg Prod.fst processed
    have left := congrArg Prod.snd processed
    simp only [outcome] at returned left
    cases held : world.objects.lookup deposit.key with
    | some body =>
        rw [Deposit.run_answering_held held] at returned left
        cases accepted : deposit.accepts body with
        | false => exact .collides deposit body deposits held accepted
        | true =>
            rw [accepted] at returned left
            apply Handled.laidDown deposit body deposits returned _ accepted
            · rw [left]
              rfl
            · rw [left]
              exact held
    | none =>
        have found : existingObject (answering marker) deposit.key world = .ok none := by
          simp [existingObject, answering, held]
        have ran : deposit.run (answering marker) world msg =
            (true, { world.store deposit.key (deposit.payload marker) with
              committed := world.committed ++ [(msg.topic, msg.partition, msg.offset)] }) := by
          simp only [Deposit.run, Deposit.store, found]
          rfl
        rw [ran] at returned left
        apply Handled.laidDown deposit (deposit.payload marker) deposits returned
        · rw [left]
          exact lookup_store world deposit.key _
        · exact (accepts_payload_iff deposits deposits marker).mpr rfl
        · rw [left]

/-- With stores that work, a delivery is handled exactly if the content of its record is
digestible. -/
theorem cdc_handled_iff (working : Working settings runtime encodes msg sourceSystem now)
    (marker : List UInt8) (world : CdcWorld) :
    Handled settings runtime msg sourceSystem now world
        (processCdcMessage settings runtime (answering marker) msg sourceSystem now.isoformat
          world) ↔
      Digestible runtime encodes msg :=
  (handled_iff_deposits marker world).trans (deposits_iff working)

end Records

theorem ascii_zero : Json.Ascii "0.0".toList := by decide

theorem loanTombstone_working :
    Working cdcDeployed loanRuntime (fun _ => True) loanTombstone "core" noon where
  root := ⟨"raw/v2", by decide +kernel⟩
  encoding := ⟨fun _ _ => trivial, fun _ => ascii_zero, fun _ text written => by
    cases written
    decide⟩
  system := trivial
  topic := trivial
  written record recorded := by
    have made : cdcRecordOf loanRuntime loanTombstone "core" noon.isoformat =
        .ok (loanRecord noon) := rfl
    cases made.symm.trans recorded
    refine iff_of_true ⟨fun marker => avroMagic ++ 0 :: marker, ?_⟩ fun _ _ => trivial
    rfl

/-- The tombstone of a loan is stored and committed. -/
theorem loanTombstone_handled :
    Handled cdcDeployed loanRuntime loanTombstone "core" noon ⟨[], []⟩
      (processCdcMessage cdcDeployed loanRuntime (answering [7]) loanTombstone "core"
        noon.isoformat ⟨[], []⟩) := by
  apply (cdc_handled_iff loanTombstone_working [7] ⟨[], []⟩).mpr
  have keyed : decodeCdcKey loanRuntime loanTombstone.key = .ok (.object [("id", .int 7)]) := rfl
  have valued : decodeCdcValue loanRuntime loanTombstone.value = .ok none := rfl
  exact ⟨by simp [keyed], by simp [valued], fun _ _ _ => by simp [tooDeep, loanRuntime],
    by simp [valued]⟩

/-! ## A change of the far future -/

/-- A loan whose change has the time `10 ^ 22`. -/
def farChange : List (String × Json) :=
  [("op", .string "c"), ("ts_ms", .int 10000000000000000000000),
    ("source", .object [("schema", .string "public"), ("table", .string "loans"),
      ("lsn", .int 1)]),
    ("after", .object [("id", .int 7)])]

def farMessage : Message where
  topic := "core.public.loans"
  partition := 0
  offset := 42
  key := loanTombstone.key
  value := some (encodeUtf8 (String.ofList (Json.dumps (fun _ => "0.0") (.object farChange))))
  timestamp := none

/-- Seconds beyond a `time_t` are an `OverflowError`. -/
def farRuntime : Runtime :=
  { loanRuntime with
    loads := fun raw =>
      if some raw = farMessage.key then .ok (.object [("id", .int 7)])
      else if some raw = farMessage.value then .ok (.object farChange)
      else .error ⟨.valueError, "JSONDecodeError", "Expecting value"⟩
    str := fun value =>
      match value with
      | .string text => text
      | .int number => toString number
      | _ => "0"
    isoFromEpochMs := fun value =>
      match value with
      | .int milliseconds =>
          if milliseconds < 1000 * 2 ^ 63 then .ok "1970-01-01T00:00:00Z"
          else .error ⟨.other, "OverflowError", "timestamp out of range for platform time_t"⟩
      | _ => .error ⟨.typeError, "TypeError", "unsupported operand type(s) for /"⟩ }

def overflowError : Raised :=
  ⟨.other, "OverflowError", "timestamp out of range for platform time_t"⟩

theorem farMessage_fails :
    cdcRecordOf farRuntime farMessage "core" noon.isoformat = .error overflowError := by
  decide +kernel

theorem farMessage_not_handled :
    Working cdcDeployed farRuntime (fun _ => True) farMessage "core" noon ∧
      (processCdcMessage cdcDeployed farRuntime (answering [7]) farMessage "core" noon.isoformat
        ⟨[], []⟩).1 = .error overflowError ∧
      ¬ Handled cdcDeployed farRuntime farMessage "core" noon ⟨[], []⟩
        (processCdcMessage cdcDeployed farRuntime (answering [7]) farMessage "core" noon.isoformat
          ⟨[], []⟩) := by
  refine ⟨?_, ?_, ?_⟩
  · refine ⟨⟨"raw/v2", by decide +kernel⟩, ⟨fun _ _ => trivial, fun _ => ascii_zero, ?_⟩, trivial,
      trivial, fun record recorded => ?_⟩
    · intro value text written
      simp only [farRuntime] at written
      split at written
      · split at written
        · cases written
          decide
        · cases written
      · cases written
    · cases farMessage_fails.symm.trans recorded
  · rw [processCdcMessage, farMessage_fails]
    rfl
  · rw [handled_iff_deposits, cdcDeposit, farMessage_fails]
    rintro ⟨deposit, impossible⟩
    cases impossible

end PaymentsPlatform.Ingestion
