import PaymentsPlatform.Library.Json

/-!
# Resolution of master data

`services/shared/mdm/resolver.py`: each source row gets a golden record id that is derived from its
source key, and a beneficiary whose verified NIN another row has too is quarantined.  The NIN
itself stays inside the resolver.
-/

namespace PaymentsPlatform.Mdm

/-- An exception: `type(error).__name__` and `str(error)`. -/
structure Raised where
  name : String
  message : String
  deriving DecidableEq, Repr

structure Runtime where
  /-- `str(value)`, of what is not a text. -/
  str : Json → String
  /-- `hashlib.sha256(text.encode("utf-8")).hexdigest()`. -/
  sha256 : String → String

/-- `str(value)`. -/
def Runtime.text (runtime : Runtime) : Json → String
  | .string text => text
  | value => runtime.str value

/-- A dictionary of the row's fields. -/
abbrev Row := List (String × Json)

structure Resolution where
  masterDomain : String
  goldenRecordId : Option String
  sourceSystem : String
  sourceEntity : String
  sourceRecordId : String
  matchRule : String
  matchStatus : String
  deriving DecidableEq

structure Alert where
  masterDomain : String
  goldenRecordId : String
  sourceSystem : String
  sourceEntity : String
  sourceRecordId : String
  alertType : String
  severity : String
  deriving DecidableEq

/-! ## Golden record ids -/

/-- The table of `stable_golden_id`. -/
def goldenPrefixes : List (String × String) :=
  [("beneficiary", "MDMBEN"), ("sacco", "MDMSAC"), ("agent", "MDMAGT"), ("geography", "MDMGEO")]

/-- The text that is hashed. -/
def goldenText (domain sourceSystem sourceRecordId : String) : String :=
  "pdm-mdm|" ++ domain ++ "|" ++ sourceSystem ++ "|" ++ sourceRecordId

/-- The first 24 digits of the hash. -/
def Runtime.digest (runtime : Runtime) (text : String) : String :=
  String.ofList ((runtime.sha256 text).toList.take 24)

def stableGoldenId (runtime : Runtime) (domain sourceSystem sourceRecordId : String) :
    Except Raised String :=
  let digest := runtime.digest (goldenText domain sourceSystem sourceRecordId)
  match goldenPrefixes.lookup domain with
  | some goldenPrefix => .ok (goldenPrefix ++ "-" ++ digest)
  | none => .error ⟨"ValueError", "Unsupported MDM domain: " ++ domain⟩

/-- The value is `None` or `""`. -/
def isMissing (value : Json) : Bool := value.isNull || value.eq (.string "")

/-- `_required`. -/
def required (row : Row) (field : String) : Except Raised Json :=
  let value := Json.get row field
  if isMissing value then .error ⟨"ValueError", "Missing required field: " ++ field⟩
  else .ok value

/-! ## Beneficiaries -/

/-- `row.get("nin_verified") is True`. -/
def isVerified (row : Row) : Bool :=
  match Json.get row "nin_verified" with
  | .bool true => true
  | _ => false

/-- `row.get("nin") and row.get("nin_verified") is True`. -/
def hasVerifiedNin (row : Row) : Bool := (Json.get row "nin").truthy && isVerified row

def verifiedNins (runtime : Runtime) (records : List Row) : List String :=
  (records.filter hasVerifiedNin).map fun row => runtime.text (Json.get row "nin")

/-- What the loop over the rows has appended so far. -/
structure Resolved where
  resolutions : List Resolution
  alerts : List Alert
  deriving DecidableEq

/-- One turn of the loop of `resolve_beneficiaries`. -/
def resolveBeneficiary (runtime : Runtime) (nins : List String) (resolved : Resolved) (row : Row) :
    Except Raised Resolved := do
  let sourceSystem ← required row "source_system"
  let sourceEntity ← required row "source_entity"
  let sourceRecordId ← required row "source_record_id"
  let goldenId ← stableGoldenId runtime "beneficiary" (runtime.text sourceSystem)
    (runtime.text sourceRecordId)
  let resolution (rule status : String) : Resolution :=
    ⟨"beneficiary", some goldenId, runtime.text sourceSystem, runtime.text sourceEntity,
      runtime.text sourceRecordId, rule, status⟩
  if hasVerifiedNin row ∧ 1 < nins.count (runtime.text (Json.get row "nin")) then
    return ⟨resolved.resolutions ++ [resolution "shared_verified_nin" "QUARANTINED"],
      resolved.alerts ++ [⟨"beneficiary", goldenId, runtime.text sourceSystem,
        runtime.text sourceEntity, runtime.text sourceRecordId, "SHARED_VERIFIED_NIN", "HIGH"⟩]⟩
  else if hasVerifiedNin row then
    return ⟨resolved.resolutions ++ [resolution "verified_nin_exact" "MATCHED"], resolved.alerts⟩
  else
    return ⟨resolved.resolutions ++ [resolution "source_record_provenance" "MATCHED"],
      resolved.alerts⟩

def resolveBeneficiaries (runtime : Runtime) (rows : List Row) : Except Raised Resolved :=
  rows.foldlM (resolveBeneficiary runtime (verifiedNins runtime rows)) ⟨[], []⟩

/-! ## Other domains -/

/-- One turn of the loop of `resolve_simple_domain`. -/
def resolveSimple (runtime : Runtime) (domain : String) (row : Row) : Except Raised Resolution := do
  let sourceSystem ← required row "source_system"
  let sourceEntity ← required row "source_entity"
  let sourceRecordId ← required row "source_record_id"
  let goldenId ← stableGoldenId runtime domain (runtime.text sourceSystem)
    (runtime.text sourceRecordId)
  return ⟨domain, some goldenId, runtime.text sourceSystem, runtime.text sourceEntity,
    runtime.text sourceRecordId, "authoritative_source_key", "MATCHED"⟩

def resolveSimpleDomain (runtime : Runtime) (domain : String) (rows : List Row) :
    Except Raised (List Resolution) :=
  rows.mapM (resolveSimple runtime domain)

def crosswalkRecord (resolution : Resolution) (validFrom : String) : List (String × Json) :=
  [("master_domain", .string resolution.masterDomain),
    ("golden_record_id", (resolution.goldenRecordId.map Json.string).getD .null),
    ("source_system", .string resolution.sourceSystem),
    ("source_entity", .string resolution.sourceEntity),
    ("source_record_id", .string resolution.sourceRecordId),
    ("match_rule", .string resolution.matchRule),
    ("match_status", .string resolution.matchStatus),
    ("valid_from", .string validFrom),
    ("valid_to", .null),
    ("is_current", .bool true)]

end PaymentsPlatform.Mdm
