import PaymentsPlatform.Library.Documents

/-!
# Events of JSON sources

`parse_json_events` and `select_business_key` of `kafka_producer.py`: each record of a JSON document
becomes an event of the topic that the path of its file names, and is published under a business
key.

What Python's library answers for texts, numbers and paths is given, and so are the identifiers
and the times that a run generates.
-/

namespace PaymentsPlatform.Ingestion.JsonSource

/-- The exceptions that a handler tells apart. -/
inductive Trouble where
  | osError
  | jsonDecodeError
  | valueError (message : String)
  | typeError
  | attributeError
  | other
  deriving DecidableEq

/-- `except (TypeError, ValueError)`; a `JSONDecodeError` is a `ValueError`. -/
def Trouble.isTypeOrValue : Trouble → Bool
  | jsonDecodeError => true
  | valueError _ => true
  | typeError => true
  | _ => false

structure Python where
  lower : String → String
  upper : String → String
  /-- `Path(file_path).as_posix()`. -/
  asPosix : String → String
  /-- `Path(file_path).name`. -/
  fileName : String → String
  loads : String → Except Trouble Json
  /-- `json.dumps(record, separators=(",", ":"), ensure_ascii=False)`. -/
  dumps : Json → String
  /-- `str(value)`. -/
  text : Json → String
  float : Json → Except Trouble Binary

/-- What a run generates for the record at a position of a file. -/
structure Run where
  eventId : Nat → String
  /-- `uuid.uuid4().hex[:8]`. -/
  suffix : Nat → String
  /-- `time.strftime("%Y-%m-%dT%H:%M:%S.000Z")`. -/
  now : Nat → String

/-- `os.path.basename`. -/
def basename (path : String) : String :=
  String.ofList (path.toList.reverse.takeWhile fun c => c ≠ '/').reverse

/-- A file that was found, and what reading it as text answers. -/
structure Source where
  path : String
  file : Except Trouble String
  named : basename path ≠ ""

abbrev Record := List (String × Json)

/-! ## Topics -/

structure Route where
  system : String
  msgType : String
  topic : String
  deriving DecidableEq

def filenameRoutes : List (String × Route) :=
  [("agent_profiles.json", ⟨"agent", "profiles", "agent.profiles"⟩),
    ("agent_locations.json", ⟨"agent", "locations", "agent.locations"⟩),
    ("agent_transactions.json", ⟨"agent", "transactions", "agent.transactions"⟩),
    ("beneficiaries.json", ⟨"pdmis", "beneficiaries", "pdmis.beneficiaries"⟩),
    ("business_plans.json", ⟨"pdmis", "business_plans", "pdmis.business_plans"⟩),
    ("households.json", ⟨"pdmis", "households", "pdmis.households"⟩),
    ("loans.json", ⟨"pdmis", "loans", "pdmis.loans"⟩),
    ("repayments.json", ⟨"pdmis", "repayments", "pdmis.repayments"⟩),
    ("saccos.json", ⟨"pdmis", "saccos", "pdmis.saccos"⟩),
    ("special_groups.json", ⟨"pdmis", "special_groups", "pdmis.special_groups"⟩),
    ("transactions.json", ⟨"wendi", "transactions", "wendi.transactions"⟩),
    ("wendi_transactions.json", ⟨"wendi", "transactions", "wendi.transactions"⟩)]

def routeMarkers : List (String × Route) :=
  [("/icmn/vpm/pain001/", ⟨"vpm", "pain001", "icmn.vpm.pain001"⟩),
    ("/icmn/pmn/pain001/", ⟨"pmn", "pain001", "icmn.pmn.pain001"⟩),
    ("/cpo/psn/pain002/", ⟨"psn", "pain002", "cpo.psn.pain002"⟩),
    ("/cpo/plm/pain002/", ⟨"plm", "pain002", "cpo.plm.pain002"⟩),
    ("/wendi/pain001/", ⟨"wendi", "pain001", "wendi.pain001"⟩),
    ("/wendi/pain002/", ⟨"wendi", "pain002", "wendi.pain002"⟩),
    ("/wendi/camt052/", ⟨"wendi", "camt052", "wendi.camt052"⟩),
    ("/wendi/camt053/", ⟨"wendi", "camt053", "wendi.camt053"⟩),
    ("/wendi/camt054/", ⟨"wendi", "camt054", "wendi.camt054"⟩),
    ("/mobile_networks/mtn/pacs008/", ⟨"mtn", "pacs008", "mobile.mtn.pacs008"⟩),
    ("/mobile_networks/mtn/pacs002/", ⟨"mtn", "pacs002", "mobile.mtn.pacs002"⟩),
    ("/mobile_networks/airtel/pacs008/", ⟨"airtel", "pacs008", "mobile.airtel.pacs008"⟩),
    ("/mobile_networks/airtel/pacs002/", ⟨"airtel", "pacs002", "mobile.airtel.pacs002"⟩),
    ("/agent_network/agent_transactions/", ⟨"agent", "transactions", "agent.transactions"⟩)]

def pdmisEntities : List String :=
  ["beneficiaries", "business_plans", "households", "loans", "repayments", "saccos",
    "special_groups"]

/-- The topics of `TOPIC_MAPPINGS`. -/
def topicMappings : List String :=
  ["icmn.vpm.pain001", "icmn.pmn.pain001", "cpo.psn.pain002", "cpo.plm.pain002", "wendi.pain001",
    "wendi.pain002", "wendi.camt052", "wendi.camt053", "wendi.camt054", "wendi.transactions",
    "mobile.mtn.pacs008", "mobile.mtn.pacs002", "mobile.airtel.pacs008", "mobile.airtel.pacs002",
    "agent.profiles", "agent.locations", "agent.transactions", "pdmis.beneficiaries",
    "pdmis.business_plans", "pdmis.households", "pdmis.loans", "pdmis.repayments", "pdmis.saccos",
    "pdmis.special_groups"]

def unknown : Route := ⟨"unknown", "unknown", "unknown"⟩

/-- `text in whole`. -/
def occursIn (text whole : String) : Bool := whole.toList.tails.any text.toList.isPrefixOf

/-- The routes of the path markers, or else of an entity of PDMIS. -/
def markedRoute (normalized : String) : Route :=
  match routeMarkers.find? fun marker => occursIn marker.1 normalized with
  | some marker => marker.2
  | none =>
      if occursIn "/pdmis/" normalized then
        match pdmisEntities.find? fun entity =>
            occursIn ("/pdmis/" ++ entity ++ "/") normalized ||
              occursIn ("/" ++ entity ++ "/") normalized with
        | some entity => ⟨"pdmis", entity, "pdmis." ++ entity⟩
        | none => unknown
      else unknown

/-- `detect_system_from_path`. -/
def detectSystemFromPath (python : Python) (filePath : String) : Route :=
  let normalized := python.lower (python.asPosix filePath)
  let name := python.lower (python.fileName filePath)
  match filenameRoutes.lookup name with
  | some route =>
      -- an unrelated transactions.json is not routed as one of Wendi
      if name = "transactions.json" ∧ occursIn "/wendi/" normalized = false then
        markedRoute normalized
      else route
  | none => markedRoute normalized

/-! ## Events -/

def idCandidates : List String :=
  ["transaction_id", "payment_id", "loan_id", "beneficiary_id", "household_id", "sacco_id",
    "business_plan_id", "special_group_id", "agent_id", "event_id", "id"]

def dateCandidates : List String :=
  ["created_at", "transaction_timestamp", "timestamp", "payment_date", "disbursement_date",
    "updated_at"]

def amountCandidates : List String :=
  ["amount", "loan_amount", "disbursed_amount", "instructed_amount"]

/-- The value of the first candidate that meets the condition. -/
def firstCandidate (condition : Json → Bool) (record : Record) (candidates : List String) :
    Option Json :=
  (candidates.map (Json.get record)).find? condition

section Events

variable (python : Python)

/-- `str` of the first identifier that is not null. -/
def identification (record : Record) : Option String :=
  (firstCandidate (fun value => !value.isNull) record idCandidates).map python.text

def messageId (run : Run) (route : Route) (index : Nat) (record : Record) : String :=
  (identification python record).getD
    (python.upper route.system ++ "-" ++ route.msgType ++ "-" ++ run.suffix index)

def creationDate (run : Run) (index : Nat) (record : Record) : String :=
  ((firstCandidate Json.truthy record dateCandidates).map python.text).getD (run.now index)

def amountOf (record : Record) : Except Trouble Binary :=
  let amount := (firstCandidate (fun value => !value.isNull) record amountCandidates).getD
    (.float (.finite 0 0))
  match python.float amount with
  | .ok value => .ok value
  | .error trouble => if trouble.isTypeOrValue then .ok (.finite 0 0) else .error trouble

/-- The event of a record. -/
def eventOf (run : Run) (filePath : String) (route : Route) (index : Nat) (record : Record)
    (amount : Binary) : Record :=
  let raw := python.dumps (.object record)
  [("event_id", .string (run.eventId index)),
    ("message_id", .string (messageId python run route index record)),
    ("event_type", .string route.msgType),
    ("event_family", .string "PAYMENT_BUSINESS_EVENT"),
    ("source_system", .string route.system),
    ("source_key", .string (basename filePath)),
    ("source_location", .string filePath),
    ("instructed_amount", .float amount),
    ("currency", .string (python.text ((Json.get record "currency").orElse (.string "UGX")))),
    ("creation_date", .string (creationDate python run index record)),
    ("timestamp", .string (run.now index)),
    ("version", .string "1.0.0"),
    ("event_data", .string raw),
    ("payload", .string raw),
    ("x_attributes", .null),
    ("parsed_event_data", .string raw),
    ("_topic", .string route.topic)]

/-- The objects among the records of a document. -/
def recordsOf (document : Json) : List Record :=
  let records := match document with
    | .array elements => elements
    | value => [value]
  records.filterMap fun value =>
    match value with
    | .object members => some members
    | _ => none

def eventsOf (run : Run) (filePath : String) (route : Route) (records : List Record) :
    Except Trouble (List Record) :=
  records.zipIdx.mapM fun (record, index) => do
    let amount ← amountOf python record
    return eventOf python run filePath route index record amount

/-- `parse_json_events`. -/
def parseJsonEvents (run : Run) (source : Source) : Except Trouble (List Record) :=
  let route := detectSystemFromPath python source.path
  if route.topic = "unknown" ∨ route.topic ∉ topicMappings then .ok []
  else
    match source.file.bind python.loads with
    | .error .osError => .ok []
    | .error .jsonDecodeError => .ok []
    | .error trouble => .error trouble
    | .ok document => eventsOf python run source.path route (recordsOf document)

end Events

/-! ## Keys -/

def businessKeyFields : List (String × List String) :=
  [("icmn.pmn.pain001", ["end_to_end_id", "instruction_id", "correlation_id", "transaction_id"]),
    ("cpo.plm.pain002", ["end_to_end_id", "instruction_id", "correlation_id", "transaction_id"]),
    ("pdmis.loans", ["loan_id"]),
    ("pdmis.repayments", ["loan_id", "payment_id", "repayment_id"]),
    ("pdmis.beneficiaries", ["beneficiary_id"]),
    ("pdmis.saccos", ["sacco_id"]),
    ("pdmis.households", ["household_id"]),
    ("pdmis.business_plans", ["business_plan_id"]),
    ("pdmis.special_groups", ["special_group_id"]),
    ("agent.transactions", ["agent_id", "transaction_id", "payment_id"]),
    ("agent.profiles", ["agent_id"]),
    ("agent.locations", ["agent_id"]),
    ("wendi.transactions", ["payment_id", "transaction_id", "loan_id"])]

/-- `BUSINESS_KEY_FIELDS.get(topic, ("payment_id", "message_id"))`. -/
def keyFields (topic : String) : List String :=
  (businessKeyFields.lookup topic).getD ["payment_id", "message_id"]

/-- `value not in (None, "")`. -/
def available : Json → Bool
  | .null => false
  | .string text => text ≠ ""
  | _ => true

section Keys

variable (python : Python)

def payloadOf (event : Record) : Except Trouble Json :=
  match (Json.get event "parsed_event_data").orElse (Json.get event "payload") with
  | .string raw =>
      match python.loads raw with
      | .ok payload => .ok payload
      | .error .jsonDecodeError => .ok (.object [])
      | .error trouble => .error trouble
  | .object members => .ok (.object members)
  | _ => .ok (.object [])

/-- `payload.get(field)`. -/
def payloadField (payload : Json) (field : String) : Except Trouble Json :=
  match payload with
  | .object members => .ok (Json.get members field)
  | _ => .error .attributeError

/-- `event.get(field) or payload.get(field)`. -/
def fieldValue (event : Record) (payload : Json) (field : String) : Except Trouble Json :=
  if (Json.get event field).truthy then .ok (Json.get event field) else payloadField payload field

/-- The loop over the fields. -/
def firstValue (event : Record) (payload : Json) : List String → Except Trouble (Option Json)
  | [] => .ok none
  | field :: rest => do
      let value ← fieldValue event payload field
      if available value then return some value else firstValue event payload rest

/-- `select_business_key`. -/
def selectBusinessKey (topic : String) (event : Record) : Except Trouble String := do
  let payload ← payloadOf python event
  match ← firstValue event payload (keyFields topic) with
  | some value => return python.text value
  | none =>
      if (Json.get event "message_id").truthy then return python.text (Json.get event "message_id")
      else if (Json.get event "source_key").truthy then
        return python.text (Json.get event "source_key")
      else throw (.valueError ("No stable business key available for topic " ++ topic))

/-- `event.pop("_topic")` of an event, and the key under which the rest is produced. -/
def topicAndKey (event : Record) : Json × Except Trouble String :=
  let topic := Json.get event "_topic"
  (topic, selectBusinessKey python (match topic with
    | .string text => text
    | _ => "") (event.filter fun member => member.1 ≠ "_topic"))

end Keys

end PaymentsPlatform.Ingestion.JsonSource
