import PaymentsPlatform.Library.Dict
import PaymentsPlatform.Library.Fallible
import PaymentsPlatform.Library.Json

/-!
# Replay of one DLQ record

`replay_dlq.py`: the tool fetches one record of the DLQ topic, scans the topic for other envelopes
of the same failure, and publishes the original record again.

What Kafka answers is given by the polls that the tool makes; those of the scan are the ones that
begin before its deadline.
-/

namespace PaymentsPlatform.Replay.Dlq

open PaymentsPlatform.Library.Fallible

/-- An exception: `type(error).__name__` and `str(error)`. -/
structure Raised where
  name : String
  message : String
  deriving DecidableEq, Repr

/-- The functions of Python's libraries that the tool calls. -/
structure Python where
  /-- `json.loads`. -/
  loads : List UInt8 → Except Raised Json
  /-- `str(value)`, of what is not a text. -/
  str : Json → String
  /-- `base64.b64decode`. -/
  b64decode : Json → Except Raised (List UInt8)

/-- A record of the DLQ topic. -/
structure Record where
  partition : Int
  offset : Int
  value : Option (List UInt8)
  deriving DecidableEq

/-- What `consumer.poll` answers. -/
inductive Poll where
  | nothing
  | partitionEof (partition : Int)
  | failed
  | message (record : Record)
  | raised (error : Raised)
  deriving DecidableEq

def Poll.record? : Poll → Option Record
  | message record => some record
  | _ => none

structure Args where
  partition : Int
  offset : Int
  reason : String
  execute : Bool
  allowDuplicateReplay : Bool

/-- A record given to the producer. -/
structure Publication where
  topic : Json
  key : List UInt8
  value : List UInt8
  reason : String
  replayAt : String
  failureId : String

/-- The DLQ, what Kafka answers while the tool runs, and the rest of its surroundings.  A record
that is delivered is one of the DLQ, and the scan is delivered each at most once. -/
structure World where
  dlq : List Record
  kafkaSecurityConfig : Except Raised Unit
  fetched : Poll
  metadata : Except Raised (List Int)
  polls : List Poll
  produce : Publication → Except Raised Unit
  /-- `remaining or delivery["error"]` after the flush. -/
  deliveryFailed : Bool
  now : String
  fetchedStored : ∀ record ∈ fetched.record?, record ∈ dlq
  pollsStored : (polls.filterMap Poll.record?).Subperm dlq

section Envelopes

variable (python : Python)

/-- `str(value)`. -/
def Python.text : Json → String
  | .string text => text
  | value => python.str value

/-- `type(value).__name__`. -/
def typeName : Json → String
  | .null => "NoneType"
  | .bool _ => "bool"
  | .int _ => "int"
  | .float _ => "float"
  | .string _ => "str"
  | .array _ => "list"
  | .object _ => "dict"

def failureIdFromEnvelope : Json → Except Raised String
  | .object members =>
      let failureId := Json.get members "failure_id"
      if failureId.truthy then .ok (python.text failureId)
      else .ok (python.text (Json.get members "original_topic") ++ ":" ++
        python.text (Json.get members "original_partition") ++ ":" ++
        python.text (Json.get members "original_offset"))
  | value =>
      .error ⟨"AttributeError", "'" ++ typeName value ++ "' object has no attribute 'get'"⟩

/-- `json.loads(message.value())`. -/
def loadsValue (record : Record) : Except Raised Json :=
  match record.value with
  | none => .error
      ⟨"TypeError", "the JSON object must be str, bytes or bytearray, not NoneType"⟩
  | some bytes => python.loads bytes

/-- `(dlq_partition, dlq_offset, envelope)`. -/
abbrev Envelope := Int × Int × Json

/-- `groups.setdefault(failure_id, []).append(record)`. -/
def addToGroup (failureId : String) (record : Envelope) (groups : Dict String (List Envelope)) :
    Dict String (List Envelope) :=
  groups.set failureId ((groups.get? failureId).getD [] ++ [record])

def groupByFailureId (records : List Envelope) : Except Raised (Dict String (List Envelope)) :=
  records.foldlM (fun groups record => do
    let failureId ← failureIdFromEnvelope python record.2.2
    return addToGroup failureId record groups) .empty

def duplicateGroups (records : List Envelope) : Except Raised (Dict String (List Envelope)) := do
  let groups ← groupByFailureId python records
  return groups.filter fun _ group => group.length > 1

/-- The loop of `scan_dlq_envelopes`; the polls end with the deadline. -/
def scanLoop (partitions : Nat) :
    List Int → List Envelope → List Poll → Except Raised (List Envelope)
  | _, records, [] => .ok records
  | endOfPartition, records, .nothing :: rest =>
      if endOfPartition.length = partitions then .ok records
      else scanLoop partitions endOfPartition records rest
  | endOfPartition, records, .partitionEof partition :: rest =>
      scanLoop partitions (endOfPartition.insert partition) records rest
  | endOfPartition, records, .failed :: rest => scanLoop partitions endOfPartition records rest
  | _, _, .raised error :: _ => .error error
  | endOfPartition, records, .message record :: rest =>
      match loadsValue python record with
      | .ok envelope =>
          scanLoop partitions endOfPartition
            (records ++ [(record.partition, record.offset, envelope)]) rest
      | .error raised =>
          if raised.name = "TypeError" ∨ raised.name = "JSONDecodeError" then
            scanLoop partitions endOfPartition records rest
          else .error raised

def scanDlqEnvelopes (world : World) : Except Raised (List Envelope) := do
  world.kafkaSecurityConfig
  match world.metadata with
  | .error _ => return []
  | .ok partitions => scanLoop python partitions.length [] [] world.polls

/-! ## The tool -/

/-- The exit code or what ends the process, and the record that was produced. -/
structure Outcome where
  published : Option Publication
  exit : Except Raised Int

/-- `members[key]`. -/
def required (members : List (String × Json)) (key : String) : Except Raised Json :=
  match members.lookup key with
  | some value => .ok value
  | none => .error ⟨"KeyError", key⟩

def publication (args : Args) (now : String) (members : List (String × Json))
    (failureId : String) : Except Raised Publication := do
  let topic ← required members "original_topic"
  let key ← required members "original_key_base64"
  let key ← python.b64decode key
  let value ← required members "original_payload_base64"
  let value ← python.b64decode value
  return ⟨topic, key, value, args.reason, now, failureId⟩

/-- The members and the failure identity of the requested envelope. -/
def requestedEnvelope (record : Record) : Except Raised (List (String × Json) × String) := do
  let envelope ← loadsValue python record
  let failureId ← failureIdFromEnvelope python envelope
  match envelope with
  | .object members => return (members, failureId)
  | _ => return ([], failureId)

/-- The end of `main`: the record is given to the producer. -/
def publish (args : Args) (world : World) (members : List (String × Json)) (failureId : String) :
    Outcome :=
  match publication python args world.now members failureId with
  | .error raised => ⟨none, .error raised⟩
  | .ok publication =>
      match world.produce publication with
      | .error raised => ⟨none, .error raised⟩
      | .ok () => ⟨some publication, .ok (if world.deliveryFailed then 1 else 0)⟩

/-- `main` once the requested record has been fetched. -/
def replay (args : Args) (world : World) (record : Record) : Outcome :=
  match requestedEnvelope python record with
  | .error raised => ⟨none, .error raised⟩
  | .ok (members, failureId) =>
      match scanDlqEnvelopes python world >>= duplicateGroups python with
      | .error raised => ⟨none, .error raised⟩
      | .ok groups =>
          let duplicates := (groups.get? failureId).getD []
          if !args.execute then ⟨none, .ok 0⟩
          else if !duplicates.isEmpty && !args.allowDuplicateReplay then ⟨none, .ok 3⟩
          else publish python args world members failureId

def main (args : Args) (world : World) : Outcome :=
  match world.kafkaSecurityConfig with
  | .error raised => ⟨none, .error raised⟩
  | .ok () =>
      match world.fetched with
      | .raised error => ⟨none, .error error⟩
      | .message record =>
          if record.offset ≠ args.offset then ⟨none, .ok 2⟩ else replay python args world record
      | _ => ⟨none, .ok 2⟩

end Envelopes

end PaymentsPlatform.Replay.Dlq
