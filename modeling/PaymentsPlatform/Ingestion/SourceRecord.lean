import Mathlib.Data.List.Basic
import Mathlib.Data.List.DropRight

/-!
# Source records of event ingestion

What the consumer of `kafka_consumer_events.py` derives from a Kafka record
alone: the topic's source domain, the Raw object key and the failure
identity, together with the envelope in which a failed record is published.

A decoded event is read here only for the three fields that the envelope
carries; the Avro record built from the others is opaque to the consumer.
-/

namespace PaymentsPlatform.Ingestion

/-- The classes that an `except` clause of the consumer tells apart. -/
inductive ErrorClass where
  | permanentProcessingError
  | avroException
  | clientError (code : String)
  | botoCoreError
  | osError
  | valueError
  | typeError
  | other
  deriving DecidableEq, Repr

/-- An exception: its class, `type(error).__name__` and `str(error)`. -/
structure Raised where
  errorClass : ErrorClass
  name : String
  message : String
  deriving DecidableEq, Repr

/-- `PermanentProcessingError(message)`. -/
def permanentProcessingError (message : String) : Raised :=
  ⟨.permanentProcessingError, "PermanentProcessingError", message⟩

/-- The settings and environment variables that the generated-event path reads. -/
structure Settings where
  kafkaTopics : List String
  kafkaRetryTopic : String
  kafkaDlqTopic : String
  maxProcessingRetries : Int
  rawRoot : String
  rawVersion : String
  rawPrefix : String

/-- A Kafka record. -/
structure Message where
  topic : String
  partition : Nat
  offset : Nat
  key : Option (List UInt8)
  value : Option (List UInt8)
  timestamp : Option (Nat × Option Int)
  deriving DecidableEq

/-- The fields of a decoded event that the failure envelope carries. -/
structure Event where
  eventId : Option String
  correlationId : Option String
  traceId : Option String
  deriving DecidableEq

/-! ## Texts -/

/-- `str.isspace` of one character. -/
def isSpace (c : Char) : Bool :=
  (9 ≤ c.toNat ∧ c.toNat ≤ 13) ∨ (28 ≤ c.toNat ∧ c.toNat ≤ 32) ∨ c.toNat ∈ [133, 160, 5760] ∨
    (8192 ≤ c.toNat ∧ c.toNat ≤ 8202) ∨ c.toNat ∈ [8232, 8233, 8239, 8287, 12288]

/-- `str.strip`, of the characters that meet the condition. -/
def strip (condition : Char → Bool) (text : String) : String :=
  String.ofList ((text.toList.dropWhile condition).reverse.dropWhile condition).reverse

theorem strip_strip {condition : Char → Bool} (text : String) :
    strip condition (strip condition text) = strip condition text := by
  have twice : ∀ characters : List Char,
      (((characters.dropWhile condition).rdropWhile condition).dropWhile condition).rdropWhile
        condition = (characters.dropWhile condition).rdropWhile condition := by
    intro characters
    have start : ((characters.dropWhile condition).rdropWhile condition).dropWhile condition =
        (characters.dropWhile condition).rdropWhile condition := by
      rw [List.dropWhile_eq_self_iff]
      intro nonempty
      have same := (List.rdropWhile_prefix condition
        (characters.dropWhile condition)).getElem nonempty
      rw [same]
      exact List.dropWhile_get_zero_not condition characters _
    rw [start, List.rdropWhile_idempotent]
  have rephrased : ∀ text : String, strip condition text =
      String.ofList ((text.toList.dropWhile condition).rdropWhile condition) := fun _ => rfl
  rw [rephrased (strip condition text), rephrased text, String.toList_ofList, twice]

theorem strip_of_ends {condition : Char → Bool} {text : String}
    (first : ∀ c ∈ text.toList.head?, condition c = false)
    (last : ∀ c ∈ text.toList.getLast?, condition c = false) : strip condition text = text := by
  have unchanged (list : List Char) (kept : ∀ c ∈ list.head?, condition c = false) :
      list.dropWhile condition = list := by
    cases list with
    | nil => rfl
    | cons c rest => rw [List.dropWhile_cons_of_neg (by simp [kept c rfl])]
  rw [strip, unchanged _ first, unchanged _ (by rwa [List.head?_reverse]), List.reverse_reverse,
    String.ofList_toList]

theorem strip_of_kept {condition : Char → Bool} {text : String}
    (kept : ∀ character ∈ text.toList, condition character = false) :
    strip condition text = text :=
  strip_of_ends (fun c isFirst => kept c (List.mem_of_mem_head? isFirst))
    fun c isLast => kept c (List.mem_of_mem_getLast? isLast)

theorem toLower_of_isSpace {c : Char} (space : isSpace c = true) : c.toLower = c := by
  unfold Char.toLower
  rw [dif_neg]
  rintro ⟨afterA, beforeZ⟩
  have bounds : 65 ≤ c.toNat ∧ c.toNat ≤ 90 :=
    ⟨UInt32.le_iff_toNat_le.mp afterA, UInt32.le_iff_toNat_le.mp beforeZ⟩
  simp only [isSpace, decide_eq_true_iff, List.mem_cons, List.not_mem_nil, or_false] at space
  omega

/-- `base64.b64encode` of six bits. -/
def b64digit (bits : Nat) : Char :=
  ("ABCDEFGHIJKLMNOPQRSTUVWXYZabcdefghijklmnopqrstuvwxyz0123456789+/".toList)[bits]?.getD '='

def b64encodeChars : List UInt8 → List Char
  | [] => []
  | [first] =>
      [b64digit (first.toNat / 4), b64digit (first.toNat % 4 * 16), '=', '=']
  | [first, second] =>
      [b64digit (first.toNat / 4), b64digit (first.toNat % 4 * 16 + second.toNat / 16),
        b64digit (second.toNat % 16 * 4), '=']
  | first :: second :: third :: rest =>
      b64digit (first.toNat / 4) :: b64digit (first.toNat % 4 * 16 + second.toNat / 16) ::
        b64digit (second.toNat % 16 * 4 + third.toNat / 64) :: b64digit (third.toNat % 64) ::
          b64encodeChars rest

/-- `base64.b64encode`. -/
def b64encode (bytes : List UInt8) : String := String.ofList (b64encodeChars bytes)

/-- The bytes that may follow a leading byte of a UTF-8 sequence, and how many
continuation bytes come after the first of them. -/
def utf8Lead (lead : Nat) : Option (Nat × Nat × Nat) :=
  if 0xC2 ≤ lead ∧ lead ≤ 0xDF then some (0x80, 0xBF, 0)
  else if lead = 0xE0 then some (0xA0, 0xBF, 1)
  else if lead = 0xED then some (0x80, 0x9F, 1)
  else if 0xE1 ≤ lead ∧ lead ≤ 0xEF then some (0x80, 0xBF, 1)
  else if lead = 0xF0 then some (0x90, 0xBF, 2)
  else if 0xF1 ≤ lead ∧ lead ≤ 0xF3 then some (0x80, 0xBF, 2)
  else if lead = 0xF4 then some (0x80, 0x8F, 2)
  else none

/-- `bytes.decode("utf-8", errors="replace")`: the bytes still expected by the sequence
that is being read, with its value so far, or `none` between two sequences.  A sequence that
breaks off is replaced as a whole, and the byte that broke it is read again. -/
def decodeChars : Option (Nat × Nat × Nat × Nat) → List UInt8 → List Char
  | none, [] => []
  | some _, [] => [Char.ofNat 0xFFFD]
  | expected, byte :: rest =>
      let start (replaced : List Char) : List Char :=
        if byte.toNat < 0x80 then replaced ++ Char.ofNat byte.toNat :: decodeChars none rest
        else
          match utf8Lead byte.toNat with
          | none => replaced ++ Char.ofNat 0xFFFD :: decodeChars none rest
          | some (low, high, more) =>
              let value := if more = 0 then byte.toNat % 32
                else if more = 1 then byte.toNat % 16 else byte.toNat % 8
              replaced ++ decodeChars (some (value, low, high, more)) rest
      match expected with
      | none => start []
      | some (value, low, high, more) =>
          if low ≤ byte.toNat ∧ byte.toNat ≤ high then
            let next := value * 64 + byte.toNat % 64
            if more = 0 then Char.ofNat next :: decodeChars none rest
            else decodeChars (some (next, 0x80, 0xBF, more - 1)) rest
          else start [Char.ofNat 0xFFFD]

def decodeReplace (bytes : List UInt8) : String := String.ofList (decodeChars none bytes)

/-! ## Identities -/

structure TopicInfo where
  category : String
  sourceGroup : String
  system : String
  msgType : String

/-- The table of `parse_topic`. -/
def topicMap : List (String × TopicInfo) :=
  [("icmn.vpm.pain001", ⟨"icmn", "icmn", "vpm", "pain001"⟩),
    ("icmn.pmn.pain001", ⟨"icmn", "icmn", "pmn", "technical_payment_event"⟩),
    ("cpo.psn.pain002", ⟨"cpo", "cpo", "psn", "pain002"⟩),
    ("cpo.plm.pain002", ⟨"cpo", "cpo", "plm", "technical_payment_event"⟩),
    ("wendi.camt052", ⟨"wendi", "wendi", "wendi", "camt052"⟩),
    ("wendi.camt053", ⟨"wendi", "wendi", "wendi", "camt053"⟩),
    ("wendi.camt054", ⟨"wendi", "wendi", "wendi", "camt054"⟩),
    ("wendi.transactions", ⟨"wendi", "wendi", "wendi", "transactions"⟩),
    ("wendi.pain001", ⟨"wendi", "wendi", "wendi", "pain001"⟩),
    ("wendi.pain002", ⟨"wendi", "wendi", "wendi", "pain002"⟩),
    ("mobile.mtn.pacs008", ⟨"mobile_networks", "mobile", "mtn", "pacs008"⟩),
    ("mobile.mtn.pacs002", ⟨"mobile_networks", "mobile", "mtn", "pacs002"⟩),
    ("mobile.airtel.pacs008", ⟨"mobile_networks", "mobile", "airtel", "pacs008"⟩),
    ("mobile.airtel.pacs002", ⟨"mobile_networks", "mobile", "airtel", "pacs002"⟩),
    ("agent.transactions", ⟨"agent_network", "agent", "agent", "transactions"⟩),
    ("agent.profiles", ⟨"agent_network", "agent", "agent", "profiles"⟩),
    ("agent.locations", ⟨"agent_network", "agent", "agent", "locations"⟩),
    ("pdmis.beneficiaries", ⟨"pdmis", "pdmis", "pdmis", "beneficiaries"⟩),
    ("pdmis.business_plans", ⟨"pdmis", "pdmis", "pdmis", "business_plans"⟩),
    ("pdmis.households", ⟨"pdmis", "pdmis", "pdmis", "households"⟩),
    ("pdmis.loans", ⟨"pdmis", "pdmis", "pdmis", "loans"⟩),
    ("pdmis.repayments", ⟨"pdmis", "pdmis", "pdmis", "repayments"⟩),
    ("pdmis.saccos", ⟨"pdmis", "pdmis", "pdmis", "saccos"⟩),
    ("pdmis.special_groups", ⟨"pdmis", "pdmis", "pdmis", "special_groups"⟩)]

def parseTopic (topic : String) : TopicInfo :=
  (topicMap.lookup topic).getD
    (let parts := topic.splitOn "."
    { category := parts.headD "unknown"
      sourceGroup := parts.headD "unknown"
      system := if 2 < parts.length then parts.getD 1 "" else parts.headD "unknown"
      msgType := parts.getLastD "unknown" })

def requiredObjectStoreEnv (name value : String) : Except Raised String :=
  if (strip isSpace value).isEmpty then
    .error ⟨.other, "RuntimeError", name ++ " is required"⟩
  else
    .ok (strip isSpace value)

/-- `_raw_prefix`. -/
def Settings.checkedRawPrefix (settings : Settings) : Except Raised String := do
  let root ← requiredObjectStoreEnv "RAW_ROOT" settings.rawRoot
  let version ← requiredObjectStoreEnv "RAW_VERSION" settings.rawVersion
  let configured ← requiredObjectStoreEnv "RAW_PREFIX" settings.rawPrefix
  if strip (· = '/') configured ≠ strip (· = '/') root ++ "/" ++ strip (· = '/') version then
    .error ⟨.valueError, "ValueError", "RAW_PREFIX must equal RAW_ROOT + '/' + RAW_VERSION"⟩
  else
    .ok (strip (· = '/') configured)

/-- Year, month and day of a day counted from the epoch, in the Gregorian calendar. -/
def civilDate (days : Nat) : Nat × Nat × Nat :=
  let shifted := days + 719468
  let dayOfEra := shifted % 146097
  let yearOfEra := (dayOfEra - dayOfEra / 1460 + dayOfEra / 36524 - dayOfEra / 146096) / 365
  let dayOfYear := dayOfEra - (365 * yearOfEra + yearOfEra / 4 - yearOfEra / 100)
  let shiftedMonth := (5 * dayOfYear + 2) / 153
  let month := if shiftedMonth < 10 then shiftedMonth + 3 else shiftedMonth - 9
  (yearOfEra + shifted / 146097 * 400 + (if month ≤ 2 then 1 else 0), month,
    dayOfYear - (153 * shiftedMonth + 2) / 5 + 1)

/-- `%m` and `%d`. -/
def twoDigits (number : Nat) : String :=
  if number < 10 then "0" ++ toString number else toString number

/-- The record's time in milliseconds since the epoch, and the epoch for records without one.
`datetime.fromtimestamp` raises after the year 9999. -/
def sourceTimestamp (msg : Message) : Except Raised Nat :=
  match msg.timestamp with
  | some (_, some milliseconds) =>
      if milliseconds < 0 then .ok 0
      else if milliseconds < 253402300800000 then .ok milliseconds.toNat
      else .error ⟨.valueError, "ValueError", "year 10000 is out of range"⟩
  | _ => .ok 0

def deterministicFailureId (topic : String) (partition offset : Nat) : String :=
  topic ++ ":" ++ toString partition ++ ":" ++ toString offset

def deterministicS3Key (settings : Settings) (topic : String) (partition offset : Nat)
    (timestamp : Nat) : Except Raised String := do
  let info := parseTopic topic
  let root ← settings.checkedRawPrefix
  let (year, month, day) := civilDate (timestamp / 86400000)
  return root ++ "/category=" ++ info.category ++ "/source_group=" ++ info.sourceGroup ++
    "/source_system=" ++ info.system ++ "/year=" ++ toString year ++ "/month=" ++
    twoDigits month ++ "/day=" ++ twoDigits day ++ "/topic=" ++ topic ++ "/partition=" ++
    toString partition ++ "/offset=" ++ toString offset ++ "/record.avro"

/-- The key of the record's Raw object. -/
def rawKey (settings : Settings) (msg : Message) : Except Raised String := do
  let timestamp ← sourceTimestamp msg
  deterministicS3Key settings msg.topic msg.partition msg.offset timestamp

def Message.failureId (msg : Message) : String :=
  deterministicFailureId msg.topic msg.partition msg.offset

structure FailureEnvelope where
  failureId : String
  originalTopic : String
  originalPartition : Nat
  originalOffset : Nat
  originalEventId : Option String
  businessKey : Option String
  failureReason : String
  errorType : String
  retryCount : Nat
  firstFailureTimestamp : String
  lastFailureTimestamp : String
  correlationId : Option String
  traceId : Option String
  originalKeyBase64 : String
  originalPayloadBase64 : String
  deriving DecidableEq

/-- `failure_envelope`, at the clock reading `now`.  An empty key counts as none. -/
def failureEnvelope (msg : Message) (event : Option Event) (error : Raised) (retryCount : Nat)
    (firstFailure now : String) : FailureEnvelope where
  failureId := deterministicFailureId msg.topic msg.partition msg.offset
  originalTopic := msg.topic
  originalPartition := msg.partition
  originalOffset := msg.offset
  originalEventId := event.bind Event.eventId
  businessKey := (msg.key.filter fun key => !key.isEmpty).map decodeReplace
  failureReason := error.message
  errorType := error.name
  retryCount := retryCount
  firstFailureTimestamp := firstFailure
  lastFailureTimestamp := now
  correlationId := event.bind Event.correlationId
  traceId := event.bind Event.traceId
  originalKeyBase64 := b64encode (msg.key.getD [])
  originalPayloadBase64 := b64encode (msg.value.getD [])

end PaymentsPlatform.Ingestion
