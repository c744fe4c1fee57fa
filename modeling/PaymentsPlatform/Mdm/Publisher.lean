import PaymentsPlatform.Mdm.Resolver

/-!
# Publication of master data

`services/mdm-publisher/mdm_publisher.py`: the records of each registered file are published to the
file's topic, keyed by one or several of their fields.  The topics are compacted: Kafka keeps the
last record of each key.

What `load_json` answers for the registered files, and the authorities of the topic contract, are
given.
-/

namespace PaymentsPlatform.Mdm

/-- `key_field`, or else `key_fields`. -/
inductive KeySpec where
  | keyField (field : String)
  | keyFields (fields : List String)

/-- An entry of the registry. -/
structure Spec where
  file : String
  topic : String
  key : KeySpec
  authority : String

def KeySpec.fields : KeySpec → List String
  | keyField field => [field]
  | keyFields fields => fields

/-- The contracts that a plan is built from. -/
structure Contracts where
  registry : List Spec
  /-- `consumer_authority` by topic. -/
  policies : List (String × String)
  loadJson : String → Except Raised (List Row)

structure Item where
  topic : String
  key : String
  record : Row

/-- The value of one field in the key. -/
def keyValue (runtime : Runtime) (record : Row) (field : String) : Except Raised String :=
  if isMissing (Json.get record field) then
    .error ⟨"ValueError", "Missing Kafka key field: " ++ field⟩
  else .ok (runtime.text (Json.get record field))

def stableKey (runtime : Runtime) (spec : Spec) (record : Row) : Except Raised String := do
  let values ← spec.key.fields.mapM (keyValue runtime record)
  return "|".intercalate values

/-- `repr` of an authority, which has no quotes itself, is its text between quotes. -/
def validateAuthority (spec : Spec) (expected authority : String) : Except Raised Unit :=
  if spec.authority ≠ expected then
    .error ⟨"PermissionError", "Registry/topic authority mismatch"⟩
  else if authority ≠ expected then
    .error ⟨"PermissionError", "Publisher authority '" ++ authority ++
      "' cannot publish topic requiring '" ++ expected ++ "'"⟩
  else .ok ()

def planItem (runtime : Runtime) (spec : Spec) (row : Row) : Except Raised Item := do
  let key ← stableKey runtime spec row
  return ⟨spec.topic, key, row⟩

/-- The entries of the plan for one entry of the registry. -/
def planSpec (runtime : Runtime) (contracts : Contracts) (authority : String) (spec : Spec) :
    Except Raised (List Item) :=
  match contracts.policies.lookup spec.topic with
  | none => .error ⟨"KeyError", spec.topic⟩
  | some expected =>
      if spec.authority ≠ authority then .ok []
      else do
        validateAuthority spec expected authority
        let rows ← contracts.loadJson spec.file
        rows.mapM (planItem runtime spec)

def buildPublishPlan (runtime : Runtime) (contracts : Contracts) (authority : String) :
    Except Raised (List Item) := do
  let plans ← contracts.registry.mapM (planSpec runtime contracts authority)
  return plans.flatten

/-- What log compaction leaves of the published records: the last of each topic and key. -/
def compacted : List Item → List Item
  | [] => []
  | item :: rest =>
      if rest.any fun later => later.topic = item.topic ∧ later.key = item.key then compacted rest
      else item :: compacted rest

end PaymentsPlatform.Mdm
