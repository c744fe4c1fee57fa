import PaymentsPlatform.Ingestion.Cdc
import PaymentsPlatform.Ingestion.OffsetInvariant

/-!
# Redelivery of change records

Whatever a record is, `process_cdc_message` deposits one object: it puts the
object at a key, or accepts what is already there.  `Deposit` says that much and
no more, and `processCdcMessage_eq` reads the deposit off the record and the
clock.  The clock takes part in the key and in the content, so that a record
whose first delivery broke off before the commit is verified on its redelivery
only if the clock shows the same reading again (`cdc_replay_verified_iff`).
-/

namespace PaymentsPlatform.Ingestion

/-! ## Deposits -/

/-- An object to be put at a key, unless there is one already that is accepted. -/
structure Deposit where
  key : String
  payload : List UInt8 → List UInt8
  accepts : List UInt8 → Bool

namespace Deposit

variable (deposit : Deposit) (services : CdcServices) (world : CdcWorld)

/-- Whether the object is stored or accepted, and the bucket afterwards. -/
def store : Bool × CdcWorld :=
  match services.client, existingObject services deposit.key world with
  | some _, _ => (false, world)
  | none, .error _ => (false, world)
  | none, .ok (some existing) => (deposit.accepts existing, world)
  | none, .ok none =>
      (services.put.raised.isNone,
        if services.put.raised.isNone || services.put.kept then
          world.store deposit.key (deposit.payload services.marker)
        else world)

/-- A deposit, followed by the commit if it succeeds. -/
def run (msg : Message) : Bool × CdcWorld :=
  match deposit.store services world with
  | (false, next) => (false, next)
  | (true, next) => ((commitCdc services msg next).1.isOk, (commitCdc services msg next).2)

end Deposit

section Deposits

variable (settings : CdcSettings) (runtime : Runtime) (msg : Message) (sourceSystem : String)

/-- The metadata of a record that cannot be normalised. -/
def failureMetadata (error : Raised) (ingestionTimestamp : String) : List (String × Json) :=
  [("failure_id", .string
      (deterministicCdcFailureId runtime sourceSystem msg.topic msg.partition msg.offset)),
    ("source_system", .string sourceSystem),
    ("topic", .string msg.topic),
    ("partition", .int msg.partition),
    ("offset", .int msg.offset),
    ("failure_category", .string "CDC_PERMANENT_RECORD_FAILURE"),
    ("error_class", .string (safeErrorClass error)),
    ("event_timestamp", .string ingestionTimestamp)]

/-- The deposit in the quarantine. -/
def quarantineDeposit (error : Raised) (now : DateTime) : Deposit :=
  let text := encodeUtf8 (runtime.dumps
    (.object (failureMetadata runtime msg sourceSystem error now.isoformat)))
  { key := deterministicCdcQuarantineKey settings
      (deterministicCdcFailureId runtime sourceSystem msg.topic msg.partition msg.offset) now
    payload := fun _ => text
    accepts := fun existing => existing = text }

/-- The deposit in Raw. -/
def rawDeposit (key : String) (record : CdcRecord) (file : List UInt8 → List UInt8) : Deposit where
  key := key
  payload := file
  accepts := fun existing => (verifyCdcRecord runtime existing record).isOk

/-- What a delivery of the record at this reading of the clock deposits, if it gets that far. -/
def cdcDeposit (now : DateTime) : Option Deposit :=
  match cdcRecordOf runtime msg sourceSystem now.isoformat with
  | .error raised =>
      if raised.isPermanent then
        some (quarantineDeposit settings runtime msg sourceSystem raised now)
      else none
  | .ok record =>
      match deterministicCdcS3Key settings sourceSystem msg.topic msg.partition msg.offset now,
          runtime.avro.append record with
      | .ok key, .ok file => some (rawDeposit runtime key record file)
      | _, _ => none

/-- A key under which an object of the record's Kafka coordinate may stand, on some day. -/
def OfCoordinate (key : String) : Prop :=
  ∃ day : DateTime,
    deterministicCdcS3Key settings sourceSystem msg.topic msg.partition msg.offset day = .ok key ∨
      deterministicCdcQuarantineKey settings
        (deterministicCdcFailureId runtime sourceSystem msg.topic msg.partition msg.offset) day =
          key

end Deposits

section Equations

variable {settings : CdcSettings} {runtime : Runtime} {msg : Message} {sourceSystem : String}

/-! ## The clock reading in the record -/

def CdcEnvelope.at (ingestionTimestamp : String) (envelope : CdcEnvelope) : CdcEnvelope :=
  { envelope with ingestionTimestamp := ingestionTimestamp }

def CdcRecord.at (ingestionTimestamp : String) (record : CdcRecord) : CdcRecord :=
  { record with ingestionTimestamp := ingestionTimestamp }

theorem tombstoneEnvelope_at (sourceSystem : String) (key : Json) (time other : String) :
    tombstoneEnvelope sourceSystem key time =
      CdcEnvelope.at time <$> tombstoneEnvelope sourceSystem key other := by
  simp only [tombstoneEnvelope, map_bind, map_pure, CdcEnvelope.at]

theorem changeEnvelope_at (runtime : Runtime) (sourceSystem : String) (key : Json)
    (payload source : List (String × Json)) (op name time other : String) :
    changeEnvelope runtime sourceSystem key payload source op name time =
      CdcEnvelope.at time <$>
        changeEnvelope runtime sourceSystem key payload source op name other := by
  simp only [changeEnvelope, map_bind, map_pure, CdcEnvelope.at]

theorem normalizeDebeziumEvent_at (runtime : Runtime) (sourceSystem : String) (key : Json)
    (value : Option (List (String × Json))) (time other : String) :
    normalizeDebeziumEvent runtime sourceSystem key value time =
      CdcEnvelope.at time <$> normalizeDebeziumEvent runtime sourceSystem key value other := by
  unfold normalizeDebeziumEvent
  cases value with
  | none => exact tombstoneEnvelope_at sourceSystem key time other
  | some value =>
      dsimp only
      split
      next payload _ =>
        rw [map_bind]
        congr 1
        funext found
        split
        next source _ => exact changeEnvelope_at runtime sourceSystem key payload source _ _ _ _
        next => rfl
      next => rfl

theorem cdcAvroRecord_at (runtime : Runtime) (envelope : CdcEnvelope) (topic time : String)
    (partition offset : Nat) :
    cdcAvroRecord runtime (envelope.at time) topic partition offset =
      CdcRecord.at time <$> cdcAvroRecord runtime envelope topic partition offset := by
  simp only [cdcAvroRecord, map_bind, map_pure]
  rfl

theorem cdcRecordOf_at (runtime : Runtime) (msg : Message) (sourceSystem time other : String) :
    cdcRecordOf runtime msg sourceSystem time =
      CdcRecord.at time <$> cdcRecordOf runtime msg sourceSystem other := by
  simp only [cdcRecordOf, map_bind, cdcAvroRecord_at, bind_map_left,
    normalizeDebeziumEvent_at runtime sourceSystem _ _ time other]

/-! ## The deposit of a delivery -/

theorem parseTimestamp_isoformat (now : DateTime) : parseTimestamp now.isoformat = .ok now := by
  have unchanged : now.isoChars.flatMap (fun c =>
      if c = 'Z' then ['+', '0', '0', ':', '0', '0'] else [c]) = now.isoChars := by
    have plain : ∀ c ∈ now.isoChars, c ≠ 'Z' := by
      rintro c mem rfl
      simpa using DateTime.mem_isoChars mem
    generalize now.isoChars = chars at plain
    induction chars with
    | nil => rfl
    | cons c rest ih =>
        rw [List.flatMap_cons, if_neg (plain c (by simp)),
          ih fun later mem => plain later (by simp [mem])]
        rfl
  simp only [parseTimestamp, DateTime.isoformat, String.toList_ofList, unchanged]
  rw [← DateTime.isoformat, DateTime.fromIsoformat_isoformat]

theorem cdcFailureMetadata_eq (error : Raised) (time : String) :
    cdcFailureMetadata runtime sourceSystem msg.topic msg.partition msg.offset
        "CDC_PERMANENT_RECORD_FAILURE" error time =
      .ok (failureMetadata runtime msg sourceSystem error time) := by
  simp [cdcFailureMetadata, failureMetadata, fieldsWithin, allowedFailureFields,
    prohibitedFailureFields]

theorem validateSafeFailureMetadata_failureMetadata (error : Raised) (time : String) :
    validateSafeFailureMetadata (failureMetadata runtime msg sourceSystem error time) = .ok () := by
  simp [validateSafeFailureMetadata, failureMetadata, fieldsWithin, allowedFailureFields,
    prohibitedFailureFields]

/-- The outcome of a call, without the text of the answer or of the error. -/
def outcome (result : Except Raised String × CdcWorld) : Bool × CdcWorld :=
  (result.1.isOk, result.2)

@[simp]
theorem outcome_ok (key : String) (world : CdcWorld) : outcome (.ok key, world) = (true, world) :=
  rfl

@[simp]
theorem outcome_error (raised : Raised) (world : CdcWorld) :
    outcome (.error raised, world) = (false, world) :=
  rfl

theorem outcome_thenCommit (deposit : Deposit) (services : CdcServices) (world : CdcWorld)
    {stored : Except Raised String × CdcWorld}
    (storing : outcome stored = deposit.store services world) :
    outcome (thenCommit services msg stored) = deposit.run services world msg := by
  unfold Deposit.run
  rw [← storing]
  rcases stored with ⟨_ | key, next⟩
  · rfl
  · simp only [thenCommit, outcome, Except.isOk, Except.toBool]
    rcases commitCdc services msg next with ⟨_ | _, last⟩ <;> rfl

theorem outcome_storeCdcQuarantineMetadata (services : CdcServices) (error : Raised)
    (now : DateTime) (world : CdcWorld) :
    outcome (storeCdcQuarantineMetadata settings runtime services
        (failureMetadata runtime msg sourceSystem error now.isoformat) now world) =
      (quarantineDeposit settings runtime msg sourceSystem error now).store services world := by
  have identified : Json.get (failureMetadata runtime msg sourceSystem error now.isoformat)
      "failure_id" = .string
        (deterministicCdcFailureId runtime sourceSystem msg.topic msg.partition msg.offset) := by
    simp [Json.get, failureMetadata]
  unfold storeCdcQuarantineMetadata Deposit.store
  simp only [validateSafeFailureMetadata_failureMetadata, identified, quarantineDeposit]
  generalize deterministicCdcQuarantineKey settings _ now = key
  generalize encodeUtf8 _ = text
  cases services.client with
  | some raised => rfl
  | none =>
      rcases existingObject services key world with
        raised | _ | existing
      · rfl
      · dsimp only
        unfold putCdcObject
        cases services.put.raised <;> simp
      · by_cases same : existing = text <;> simp [same]

theorem outcome_storeCdcEventToS3 (services : CdcServices) (now : DateTime) (world : CdcWorld)
    {key : String} {record : CdcRecord} {file : List UInt8 → List UInt8}
    (keyed : deterministicCdcS3Key settings sourceSystem msg.topic msg.partition msg.offset now =
      .ok key)
    (appended : runtime.avro.append record = .ok file) :
    outcome (storeCdcEventToS3 settings runtime services record sourceSystem msg.topic
        msg.partition msg.offset now world) =
      (rawDeposit runtime key record file).store services world := by
  have checked : serializeCdcToAvro runtime services record = .ok (file services.marker) := by
    have magic := runtime.avro.magic record file appended services.marker
    simp [serializeCdcToAvro, appended, magic, bind, Except.bind]
  unfold storeCdcEventToS3 Deposit.store
  simp only [keyed, checked, rawDeposit]
  cases services.client with
  | some raised => rfl
  | none =>
      rcases existingObject services key world with
        raised | _ | existing
      · rfl
      · dsimp only
        unfold putCdcObject
        cases services.put.raised <;> simp
      · dsimp only
        cases verifyCdcRecord runtime existing record <;> rfl

theorem processCdcMessage_eq (settings : CdcSettings) (runtime : Runtime) (services : CdcServices)
    (msg : Message) (sourceSystem : String) (now : DateTime) (world : CdcWorld) :
    outcome (processCdcMessage settings runtime services msg sourceSystem now.isoformat world) =
      match cdcDeposit settings runtime msg sourceSystem now with
      | none => (false, world)
      | some deposit => deposit.run services world msg := by
  unfold processCdcMessage cdcDeposit
  cases cdcRecordOf runtime msg sourceSystem now.isoformat with
  | error raised =>
      dsimp only
      split
      next =>
        have quarantined : outcome (quarantinePermanentCdcFailure settings runtime services msg
            sourceSystem raised now.isoformat world) =
              (quarantineDeposit settings runtime msg sourceSystem raised now).run services world
                msg := by
          unfold quarantinePermanentCdcFailure
          simp only [parseTimestamp_isoformat, cdcFailureMetadata_eq,
            validateSafeFailureMetadata_failureMetadata, bind, Except.bind, pure, Except.pure]
          exact outcome_thenCommit _ services world
            (outcome_storeCdcQuarantineMetadata services raised now world)
        dsimp only
        rw [← quarantined]
        rcases quarantinePermanentCdcFailure settings runtime services msg sourceSystem raised
          now.isoformat world with ⟨_ | key, next⟩ <;> rfl
      next => rfl
  | ok record =>
      simp only [parseTimestamp_isoformat]
      cases keyed : deterministicCdcS3Key settings sourceSystem msg.topic msg.partition msg.offset
          now with
      | error raised => simp [storeCdcEventToS3, keyed, thenCommit]
      | ok key =>
          cases appended : runtime.avro.append record with
          | error raised =>
              simp [storeCdcEventToS3, keyed, thenCommit, serializeCdcToAvro, appended, bind,
                Except.bind]
          | ok file =>
              exact outcome_thenCommit _ services world
                (outcome_storeCdcEventToS3 services now world keyed appended)

theorem ofCoordinate_key {now : DateTime} {deposit : Deposit}
    (deposits : cdcDeposit settings runtime msg sourceSystem now = some deposit) :
    OfCoordinate settings runtime msg sourceSystem deposit.key := by
  unfold cdcDeposit at deposits
  split at deposits
  next =>
    split at deposits
    next =>
      obtain rfl := Option.some.inj deposits
      exact ⟨now, .inr rfl⟩
    next => simp at deposits
  next =>
    split at deposits
    next keyed _ =>
      obtain rfl := Option.some.inj deposits
      exact ⟨now, .inl keyed⟩
    next => simp at deposits

/-! ## Equal contents come from equal readings -/

theorem verifyCdcRecord_append {record other : CdcRecord} {file : List UInt8 → List UInt8}
    (appended : runtime.avro.append record = .ok file) (marker : List UInt8) :
    (verifyCdcRecord runtime (file marker) other).isOk = decide (record = other) := by
  have readBack := runtime.avro.read_append record file appended marker
  have single : deserializeSingleCdcAvroRecord runtime (file marker) = .ok record := by
    simp [deserializeSingleCdcAvroRecord, readBack, bind, Except.bind]
  unfold verifyCdcRecord
  rw [single]
  by_cases same : record = other <;> simp [same, Except.isOk, Except.toBool]

theorem encodeUtf8_injective {text other : String} (same : encodeUtf8 text = encodeUtf8 other) :
    text = other := by
  apply String.toByteArray_inj.mp
  apply ByteArray.ext
  exact Array.toList_inj.mp same

theorem quoted_isoformat (now : DateTime) :
    Json.quoted now.isoformat = Char.ofNat 0x22 :: (now.isoChars ++ [Char.ofNat 0x22]) := by
  have plain : ∀ c ∈ now.isoformat.toList, 0x20 ≤ c.toNat ∧ c.toNat ≤ 0x7E ∧ c.toNat ≠ 0x22 ∧
      c.toNat ≠ 0x5C := by
    intro c mem
    rw [DateTime.isoformat, String.toList_ofList] at mem
    rcases DateTime.mem_isoChars mem with
      digit | mark
    · simp only [Char.isDigit, Bool.and_eq_true, decide_eq_true_eq] at digit
      have low : 48 ≤ c.toNat := digit.1
      have high : c.toNat ≤ 57 := digit.2
      omega
    · simp only [List.mem_cons, List.not_mem_nil, or_false] at mark
      rcases mark with
        rfl | rfl | rfl | rfl | rfl <;> decide
  rw [Json.quoted_of_plain plain, DateTime.isoformat, String.toList_ofList]

theorem sortedMembers_metadata (failureId source topic partition offset category errorClass
    timestamp : List Char) :
    Json.sortedMembers [("failure_id", failureId), ("source_system", source), ("topic", topic),
        ("partition", partition), ("offset", offset), ("failure_category", category),
        ("error_class", errorClass), ("event_timestamp", timestamp)] =
      [("error_class", errorClass), ("event_timestamp", timestamp),
        ("failure_category", category), ("failure_id", failureId), ("offset", offset),
        ("partition", partition), ("source_system", source), ("topic", topic)] := by
  simp [Json.sortedMembers, List.insertionSort, List.orderedInsert]

theorem braced_second (first second third : String × List Char)
    (rest : List (String × List Char)) :
    ∃ before after : List Char, ∀ value : List Char,
      Json.braced (first :: (second.1, value) :: third :: rest) = before ++ (value ++ after) := by
  refine ⟨Char.ofNat 0x7B :: (Json.quoted first.1 ++ ':' :: first.2 ++
    ',' :: (Json.quoted second.1 ++ [':'])), ',' :: ([','].intercalate
      ((third :: rest).map fun member => Json.quoted member.1 ++ ':' :: member.2) ++
        [Char.ofNat 0x7D]), fun value => ?_⟩
  simp [Json.braced, List.intercalate]

theorem dumps_failureMetadata_injective {error : Raised} {now other : DateTime}
    (same : Json.dumps runtime.floatRepr
        (.object (failureMetadata runtime msg sourceSystem error now.isoformat)) =
      Json.dumps runtime.floatRepr
        (.object (failureMetadata runtime msg sourceSystem error other.isoformat))) :
    now = other := by
  simp only [failureMetadata, Json.dumps, Json.dumpsMembers, sortedMembers_metadata] at same
  obtain ⟨before, after, around⟩ := braced_second _ ("event_timestamp", []) _ _
  rw [around, around] at same
  have sameText := List.append_cancel_right (List.append_cancel_left same)
  rw [quoted_isoformat, quoted_isoformat, List.cons.injEq] at sameText
  have sameChars := List.append_cancel_right sameText.2
  exact DateTime.isoformat_injective (congrArg String.ofList sameChars)

/-- An object deposited by one delivery is accepted by another only at the same reading. -/
theorem accepts_payload_iff {now later : DateTime} {deposit other : Deposit}
    (deposits : cdcDeposit settings runtime msg sourceSystem now = some deposit)
    (redeposits : cdcDeposit settings runtime msg sourceSystem later = some other)
    (marker : List UInt8) :
    other.accepts (deposit.payload marker) = true ↔ later = now := by
  have later_eq := cdcRecordOf_at runtime msg sourceSystem later.isoformat now.isoformat
  have now_eq := cdcRecordOf_at runtime msg sourceSystem now.isoformat now.isoformat
  unfold cdcDeposit at deposits redeposits
  cases recorded : cdcRecordOf runtime msg sourceSystem now.isoformat with
  | error raised =>
      simp only [recorded, Functor.map, Except.map] at later_eq
      simp only [recorded, later_eq] at deposits redeposits
      split at deposits
      next permanent =>
        rw [if_pos permanent] at redeposits
        obtain rfl := Option.some.inj deposits
        obtain rfl := Option.some.inj redeposits
        simp only [quarantineDeposit, decide_eq_true_eq]
        constructor
        · intro same
          have sameText := String.ofList_injective (encodeUtf8_injective same)
          exact (dumps_failureMetadata_injective sameText).symm
        · rintro rfl
          rfl
      next => simp at deposits
  | ok record =>
      simp only [recorded, Functor.map, Except.map, Except.ok.injEq] at later_eq now_eq
      simp only [recorded, later_eq] at deposits redeposits
      split at deposits
      next _ appended =>
        split at redeposits
        next =>
          obtain rfl := Option.some.inj deposits
          obtain rfl := Option.some.inj redeposits
          simp only [rawDeposit, verifyCdcRecord_append appended, decide_eq_true_eq]
          constructor
          · intro same
            have sameTime := congrArg CdcRecord.ingestionTimestamp (now_eq.symm.trans same)
            exact (DateTime.isoformat_injective sameTime).symm
          · rintro rfl
            exact now_eq
        next => simp at redeposits
      next => simp at deposits

end Equations

/-! ## Redelivery -/

def CdcWorld.keys (world : CdcWorld) : List String := world.objects.map Prod.fst

theorem mem_keys_store (world : CdcWorld) (key other : String) (body : List UInt8) :
    other ∈ (world.store key body).keys ↔ other = key ∨ other ∈ world.keys := by
  by_cases same : other = key
  · simp [CdcWorld.store, CdcWorld.keys, same]
  · simp [CdcWorld.store, CdcWorld.keys, same]

theorem lookup_store (world : CdcWorld) (key : String) (body : List UInt8) :
    (world.store key body).objects.lookup key = some body := by
  simp [CdcWorld.store]

/-- The process dies before the offset is committed. -/
def CdcServices.interrupted (services : CdcServices) : CdcServices :=
  { services with commit := some ⟨.other, "SystemExit", "1"⟩ }

/-- Services that answer every call. -/
def answering (marker : List UInt8) : CdcServices where
  client := none
  head := none
  read := none
  marker := marker
  put := ⟨none, true⟩
  commit := none

/-- A redelivery that succeeds as a replay: it raises nothing, commits the offset, and leaves one
object for the record's Kafka coordinate. -/
structure VerifiedReplay (settings : CdcSettings) (runtime : Runtime) (msg : Message)
    (sourceSystem : String) (result : Except Raised String × CdcWorld) : Prop where
  succeeded : result.1.isOk = true
  committed : (msg.topic, msg.partition, msg.offset) ∈ result.2.committed
  single : ∃! key, OfCoordinate settings runtime msg sourceSystem key ∧ key ∈ result.2.keys

section Redelivery

variable {settings : CdcSettings} {runtime : Runtime} {msg : Message} {sourceSystem : String}

theorem Deposit.store_world (deposit : Deposit) (services : CdcServices) (world : CdcWorld) :
    (deposit.store services world).2 = world ∨
      (deposit.store services world).2 =
        world.store deposit.key (deposit.payload services.marker) := by
  unfold Deposit.store
  split
  next => exact .inl rfl
  next => exact .inl rfl
  next => exact .inl rfl
  next =>
    split
    next => exact .inr rfl
    next => exact .inl rfl

theorem Deposit.run_interrupted (deposit : Deposit) (services : CdcServices) (world : CdcWorld) :
    (deposit.run services.interrupted world msg).2 =
      (deposit.store services.interrupted world).2 := by
  unfold Deposit.run
  rcases deposit.store services.interrupted world with
    ⟨_ | _, next⟩ <;> rfl

theorem interrupted_world {services : CdcServices} {now : DateTime} {world : CdcWorld}
    (absent : ∀ key ∈ world.keys, ¬ OfCoordinate settings runtime msg sourceSystem key)
    (stored : ∃ key ∈ (processCdcMessage settings runtime services.interrupted msg sourceSystem
      now.isoformat world).2.keys, OfCoordinate settings runtime msg sourceSystem key) :
    ∃ deposit, cdcDeposit settings runtime msg sourceSystem now = some deposit ∧
      (processCdcMessage settings runtime services.interrupted msg sourceSystem now.isoformat
        world).2 = world.store deposit.key (deposit.payload services.marker) := by
  have processed := congrArg Prod.snd
    (processCdcMessage_eq settings runtime services.interrupted msg sourceSystem now world)
  simp only [outcome] at processed
  rw [processed] at stored ⊢
  obtain ⟨key, isKey, ofCoordinate⟩ := stored
  cases deposits : cdcDeposit settings runtime msg sourceSystem now with
  | none =>
      rw [deposits] at isKey
      exact absurd ofCoordinate (absent key isKey)
  | some deposit =>
      rw [deposits] at isKey
      simp only [Deposit.run_interrupted] at isKey ⊢
      refine ⟨deposit, rfl, ?_⟩
      rcases deposit.store_world services.interrupted world with
        unchanged | puts
      · rw [unchanged] at isKey
        exact absurd ofCoordinate (absent key isKey)
      · exact puts

theorem Deposit.run_answering_held {deposit : Deposit} {marker body : List UInt8}
    {world : CdcWorld} (held : world.objects.lookup deposit.key = some body) :
    deposit.run (answering marker) world msg =
      (deposit.accepts body, if deposit.accepts body then { world with
        committed := world.committed ++ [(msg.topic, msg.partition, msg.offset)] } else world) := by
  have found : existingObject (answering marker) deposit.key world = .ok (some body) := by
    simp [existingObject, answering, held]
  have stored : deposit.store (answering marker) world = (deposit.accepts body, world) := by
    rw [Deposit.store, found]
    rfl
  unfold Deposit.run
  rw [stored]
  cases deposit.accepts body <;> rfl

theorem Deposit.run_answering_absent {deposit : Deposit} {marker : List UInt8} {world : CdcWorld}
    (missing : deposit.key ∉ world.keys) :
    (deposit.run (answering marker) world msg).2.keys =
      (world.store deposit.key (deposit.payload marker)).keys := by
  have unfound : world.objects.lookup deposit.key = none := by
    rw [List.lookup_eq_none_iff]
    intro object mem
    simp only [bne_iff_ne]
    rintro same
    exact missing (List.mem_map.mpr ⟨object, mem, same.symm⟩)
  have found : existingObject (answering marker) deposit.key world = .ok none := by
    simp [existingObject, answering, unfound]
  have stored : deposit.store (answering marker) world =
      (true, world.store deposit.key (deposit.payload marker)) := by
    rw [Deposit.store, found]
    rfl
  unfold Deposit.run
  rw [stored]
  rfl

end Redelivery

theorem cdc_replay_verified_iff (settings : CdcSettings) (runtime : Runtime) (msg : Message)
    (sourceSystem : String) (services : CdcServices) (marker : List UInt8)
    (first second : DateTime) (world : CdcWorld)
    (absent : ∀ key ∈ world.keys, ¬ OfCoordinate settings runtime msg sourceSystem key)
    (stored : ∃ key ∈ (processCdcMessage settings runtime services.interrupted msg sourceSystem
      first.isoformat world).2.keys, OfCoordinate settings runtime msg sourceSystem key) :
    VerifiedReplay settings runtime msg sourceSystem
        (processCdcMessage settings runtime (answering marker) msg sourceSystem second.isoformat
          (processCdcMessage settings runtime services.interrupted msg sourceSystem
            first.isoformat world).2) ↔
      second = first := by
  obtain ⟨deposit, deposits, left⟩ := interrupted_world absent stored
  rw [left]
  have ofFirst := ofCoordinate_key deposits
  have redelivered := processCdcMessage_eq settings runtime (answering marker) msg sourceSystem
    second (world.store deposit.key (deposit.payload services.marker))
  generalize processCdcMessage settings runtime (answering marker) msg sourceSystem
    second.isoformat _ = result at redelivered ⊢
  have succeeds := congrArg Prod.fst redelivered
  have leaves := congrArg Prod.snd redelivered
  simp only [outcome] at succeeds leaves
  cases redeposits : cdcDeposit settings runtime msg sourceSystem second with
  | none =>
      rw [redeposits] at succeeds
      constructor
      · intro verified
        exact absurd (succeeds.symm.trans verified.succeeded) (by simp)
      · rintro rfl
        simp [deposits] at redeposits
  | some other =>
      rw [redeposits] at succeeds leaves
      have ofSecond := ofCoordinate_key redeposits
      by_cases sameKey : other.key = deposit.key
      · -- The redelivery finds the first object, which it accepts or takes for a collision.
        have held : (world.store deposit.key (deposit.payload services.marker)).objects.lookup
            other.key = some (deposit.payload services.marker) := by
          rw [sameKey, lookup_store]
        simp only [Deposit.run_answering_held held] at succeeds leaves
        rw [← accepts_payload_iff deposits redeposits services.marker]
        constructor
        · intro verified
          exact succeeds.symm.trans verified.succeeded
        · intro accepted
          rw [if_pos accepted] at leaves
          refine ⟨succeeds.trans accepted, by simp [leaves], deposit.key, ⟨ofFirst, ?_⟩, ?_⟩
          · rw [leaves]
            exact (mem_keys_store _ _ _ _).mpr (.inl rfl)
          · rintro key ⟨ofKey, isKey⟩
            rw [leaves] at isKey
            rcases (mem_keys_store _ _ _ _).mp isKey with
              same | earlier
            · exact same
            · exact absurd ofKey (absent key earlier)
      · -- The keys differ, so that the redelivery puts a second object.
        have missing : other.key ∉
            (world.store deposit.key (deposit.payload services.marker)).keys := by
          rw [mem_keys_store]
          rintro (same | earlier)
          · exact sameKey same
          · exact absent other.key earlier ofSecond
        have keys := (congrArg CdcWorld.keys leaves).trans (Deposit.run_answering_absent missing)
        constructor
        · intro verified
          obtain ⟨key, -, unique⟩ := verified.single
          have isFirst := unique deposit.key ⟨ofFirst, by simp [keys, mem_keys_store]⟩
          have isSecond := unique other.key ⟨ofSecond, by simp [keys, mem_keys_store]⟩
          exact absurd (isSecond.trans isFirst.symm) sameKey
        · rintro rfl
          rw [deposits, Option.some.injEq] at redeposits
          exact absurd (congrArg Deposit.key redeposits.symm) sameKey

/-! ## A deleted loan -/

def noon : DateTime := ⟨2026, 9, 18, 12, 0, 0, 0, by decide⟩

def fiveSecondsLater : DateTime := ⟨2026, 9, 18, 12, 0, 5, 0, by decide⟩

/-- The tombstone of loan 7. -/
def loanTombstone : Message where
  topic := "core.public.loans"
  partition := 0
  offset := 41
  key := some [0x7B, 0x22, 0x69, 0x64, 0x22, 0x3A, 0x37, 0x7D]
  value := none
  timestamp := none

def loanRecord (now : DateTime) : CdcRecord where
  recordType := "CDC_TOMBSTONE"
  sourceSystem := "core"
  sourceSchema := none
  sourceTable := none
  operation := none
  operationName := none
  sourcePosition := none
  sourceTransaction := none
  eventTimestamp := none
  ingestionTimestamp := now.isoformat
  schemaVersion := "1"
  recordKeyJson := String.ofList
    (Json.dumps (fun _ => "0.0") (.object [("id", .int 7)]))
  beforeJson := none
  afterJson := none
  snapshotJson := none
  tombstone := true
  kafkaTopic := "core.public.loans"
  kafkaPartition := 0
  kafkaOffset := 41

/-- Container files of the record at the two readings. -/
def loanFiles : AvroContainer where
  append record :=
    if record = loanRecord noon then .ok fun marker => avroMagic ++ 0 :: marker
    else if record = loanRecord fiveSecondsLater then .ok fun marker => avroMagic ++ 1 :: marker
    else .error ⟨.avroException, "AvroTypeException", "not a loan"⟩
  read payload :=
    match payload.drop 4 with
    | 0 :: _ => .ok [loanRecord noon]
    | 1 :: _ => .ok [loanRecord fiveSecondsLater]
    | _ => .error ⟨.avroException, "InvalidAvroBinaryEncoding", "not a container"⟩
  magic record file appended marker := by
    split at appended
    next => simp [← Except.ok.inj appended, avroMagic]
    next =>
      split at appended
      next => simp [← Except.ok.inj appended, avroMagic]
      next => simp at appended
  read_append record file appended marker := by
    split at appended
    next same => simp [← Except.ok.inj appended, avroMagic, same]
    next =>
      split at appended
      next same => simp [← Except.ok.inj appended, avroMagic, same]
      next => simp at appended

def loanRuntime : Runtime where
  loads raw :=
    if some raw = loanTombstone.key then .ok (.object [("id", .int 7)])
    else .error ⟨.valueError, "JSONDecodeError", "Expecting value"⟩
  str _ := "0"
  repr _ := "0"
  floatRepr _ := "0.0"
  reprTooDeep _ := false
  nestsTooDeep _ := false
  isoFromEpochMs _ := .ok "1970-01-01T00:00:00Z"
  sha256 _ := "ce560937424694d84f7bb7380c9f307bf8c007d1f94d358b75d44358e9a604c9"
  avro := loanFiles

def cdcDeployed : CdcSettings :=
  { deployed with cdcQuarantinePrefix := "restricted/cdc-quarantine/v1" }

/-- What a first delivery at noon leaves, if it dies before the commit. -/
def loanLeft : CdcWorld :=
  (processCdcMessage cdcDeployed loanRuntime (answering [7]).interrupted loanTombstone "core"
    noon.isoformat ⟨[], []⟩).2

def loanKey : String :=
  "raw/v2/cdc/source_system=core/year=2026/month=09/day=18/topic=core.public.loans/partition=0/" ++
    "offset=41/record.avro"

theorem loanLeft_stored :
    ∃ key ∈ loanLeft.keys, OfCoordinate cdcDeployed loanRuntime loanTombstone "core" key := by
  refine ⟨loanKey, ?_, noon, .inl ?_⟩
  · decide +kernel
  · rfl

theorem loan_replayed_at_noon :
    VerifiedReplay cdcDeployed loanRuntime loanTombstone "core"
      (processCdcMessage cdcDeployed loanRuntime (answering [8]) loanTombstone "core"
        noon.isoformat loanLeft) :=
  (cdc_replay_verified_iff cdcDeployed loanRuntime loanTombstone "core" (answering [7]) [8] noon
    noon ⟨[], []⟩ (by simp [CdcWorld.keys]) loanLeft_stored).mpr rfl

/-- Five seconds after the first delivery the same record is taken for a collision. -/
theorem loan_collides_five_seconds_later :
    (∃ key ∈ loanLeft.keys, OfCoordinate cdcDeployed loanRuntime loanTombstone "core" key) ∧
      (processCdcMessage cdcDeployed loanRuntime (answering [8]) loanTombstone "core"
          fiveSecondsLater.isoformat loanLeft).1 =
        .error (cdcRawCollisionError "CDC Raw deterministic object logical-content collision") ∧
      ¬ VerifiedReplay cdcDeployed loanRuntime loanTombstone "core"
        (processCdcMessage cdcDeployed loanRuntime (answering [8]) loanTombstone "core"
          fiveSecondsLater.isoformat loanLeft) := by
  have collides : (processCdcMessage cdcDeployed loanRuntime (answering [8]) loanTombstone "core"
      fiveSecondsLater.isoformat loanLeft).1 =
        .error (cdcRawCollisionError "CDC Raw deterministic object logical-content collision") :=
    rfl
  refine ⟨loanLeft_stored, collides, fun verified => ?_⟩
  have succeeded := verified.succeeded
  rw [collides] at succeeded
  exact absurd succeeded (by decide)

end PaymentsPlatform.Ingestion
