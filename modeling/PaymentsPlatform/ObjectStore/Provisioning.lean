import Mathlib.Data.Finset.Sort
import Mathlib.Data.String.Basic
import PaymentsPlatform.Library.Attempts
import PaymentsPlatform.Library.Dict
import PaymentsPlatform.Library.Json
import PaymentsPlatform.TransformRuntime.Urls

/-!
# Provisioning of object-store identities

`provision_object_store_identities.py`: an administrative client creates the users of MinIO and
attaches one policy to each.  It reads what is there from a listing, one JSON record a user.
-/

namespace PaymentsPlatform.ObjectStore

open Ingestion (isSpace strip)
open RelyGuarantee
open TransformRuntime.Urls (Unicode)

inductive Fault where
  | provisionError (text : String)
  /-- What Python or a library raises. -/
  | outside (text : String)
  deriving DecidableEq

/-! ## The identities -/

/-- A row of `IDENTITIES`. -/
structure Identity where
  label : String
  policy : String
  accessName : String
  secretName : String
  deriving DecidableEq

/-- `IDENTITIES`. -/
def identities : List Identity :=
  [⟨"raw_ingest", "raw-ingest", "RAW_INGEST_S3_ACCESS_KEY_ID", "RAW_INGEST_S3_SECRET_ACCESS_KEY"⟩,
    ⟨"cdc_quarantine", "cdc-quarantine", "CDC_QUARANTINE_S3_ACCESS_KEY_ID",
      "CDC_QUARANTINE_S3_SECRET_ACCESS_KEY"⟩,
    ⟨"platform_raw_read", "platform-raw-read", "PLATFORM_RAW_READ_ACCESS_KEY",
      "PLATFORM_RAW_READ_SECRET_KEY"⟩,
    ⟨"nessie_catalog", "nessie-catalog", "NESSIE_S3_ACCESS_KEY", "NESSIE_S3_SECRET_KEY"⟩,
    ⟨"trino_iceberg", "trino-iceberg-read", "TRINO_S3_ACCESS_KEY_ID", "TRINO_S3_SECRET_ACCESS_KEY"⟩,
    ⟨"ordinary_transform", "ordinary-transform", "ORDINARY_TRANSFORM_S3_ACCESS_KEY_ID",
      "ORDINARY_TRANSFORM_S3_SECRET_ACCESS_KEY"⟩,
    ⟨"restricted_identity_transform", "restricted-transform",
      "RESTRICTED_TRANSFORM_S3_ACCESS_KEY_ID", "RESTRICTED_TRANSFORM_S3_SECRET_ACCESS_KEY"⟩,
    ⟨"ml_prediction_transform", "ml-transform", "ML_TRANSFORM_S3_ACCESS_KEY_ID",
      "ML_TRANSFORM_S3_SECRET_ACCESS_KEY"⟩,
    ⟨"flink_checkpoint", "flink-checkpoint", "FLINK_CHECKPOINT_S3_ACCESS_KEY_ID",
      "FLINK_CHECKPOINT_S3_SECRET_ACCESS_KEY"⟩]

/-- The keys of `POLICY_SCOPE`. -/
def managedPolicies : Finset String :=
  {"raw-ingest", "cdc-quarantine", "platform-raw-read", "nessie-catalog", "trino-iceberg-read",
    "ordinary-transform", "restricted-transform", "ml-transform", "flink-checkpoint"}

theorem managedPolicies_eq : managedPolicies = (identities.map Identity.policy).toFinset := by
  decide +kernel

/-! ## The server -/

structure User where
  policies : Finset String
  secret : String
  enabled : Bool
  deriving DecidableEq

/-- The users of MinIO by their access keys, none of which is empty. -/
structure Server where
  users : Dict String User
  named : users.get? "" = none

inductive Command where
  | userList
  | policyCreate (policy : String)
  | userAdd (accessKey secret : String)
  | policyAttach (policy accessKey : String)
  deriving DecidableEq

/-- Anything but the listing. -/
def Command.Mutating : Command → Prop
  | .userList => False
  | _ => True

inductive Reply where
  | nothing
  /-- What `json.loads` makes of each line that is not blank; `none` is a `ValueError`. -/
  | listing (lines : List (Option Json))

/-- The attached policies, as the listing has them. -/
def policyName (policies : Finset String) : String :=
  ",".intercalate (policies.sort (· ≤ ·))

/-- A user in the listing. -/
def record (accessKey : String) (user : User) : Json :=
  .object [("status", .string "success"), ("accessKey", .string accessKey),
    ("policyName", .string (policyName user.policies)),
    ("userStatus", .string (if user.enabled then "enabled" else "disabled"))]

def listing (server : Server) : List (Option Json) :=
  server.users.items.map fun item => some (record item.1 item.2)

def commandFailed : Fault :=
  .provisionError "MinIO administrative command failed; inspect state manually"

/-- The server with the user under the key. -/
def Server.put (server : Server) (accessKey : String) (user : User) (named : accessKey ≠ "") :
    Server where
  users := server.users.set accessKey user
  named := by rw [Dict.get?_set_of_ne named, server.named]

/-- What a command of `mc` does; adding a user that exists replaces its secret alone. -/
def perform : Command → Server → Except Fault (Server × Reply)
  | .userList, server => .ok (server, .listing (listing server))
  | .policyCreate _, server => .ok (server, .nothing)
  | .userAdd accessKey secret, server =>
      if named : accessKey ≠ "" then
        let policies := ((server.users.get? accessKey).map User.policies).getD ∅
        .ok (server.put accessKey ⟨policies, secret, true⟩ named, .nothing)
      else .error commandFailed
  | .policyAttach policy accessKey, server =>
      match found : server.users.get? accessKey with
      | none => .error commandFailed
      | some user =>
          .ok (server.put accessKey { user with policies := insert policy user.policies } (by
            rintro rfl
            rw [server.named] at found
            cases found), .nothing)

/-! ## The environment -/

/-- `source`: the environment with the secrets resolved. -/
abbrev Source := String → Option String

def Source.get (source : Source) (name : String) : String := (source name).getD ""

/-- `urlsplit(source["MINIO_ENDPOINT"])`, with what is asked of it. -/
def endpointAccepted (unicode : Unicode) (endpoint : String) : Except Fault Bool :=
  match unicode.urlsplit endpoint.toList with
  | none => .error (.outside "ValueError")
  | some parsed =>
      .ok (["http".toList, "https".toList].contains parsed.scheme &&
        (TransformRuntime.Urls.hostname parsed.netloc unicode).any (· ≠ []) &&
        !(TransformRuntime.Urls.userinfo parsed.netloc).1.any (· ≠ []) &&
        !(TransformRuntime.Urls.userinfo parsed.netloc).2.any (· ≠ []) &&
        decide (parsed.query = []) && decide (parsed.fragment = []))

/-- The variables that must not be blank. -/
def requiredNames : List String :=
  ["MINIO_ENDPOINT", "MINIO_ROOT_USER", "MINIO_ROOT_PASSWORD"] ++
    identities.flatMap fun row => [row.accessName, row.secretName]

def requireApplyEnvironment (unicode : Unicode) (source : Source) : Except Fault Unit :=
  let missing := (requiredNames.toFinset.filter fun name =>
    strip isSpace (source.get name) = "").sort (· ≤ ·)
  let keys := identities.map fun row => source.get row.accessName
  if missing ≠ [] then
    .error (.provisionError
      ("missing required environment variables: " ++ ", ".intercalate missing))
  else if keys.toFinset.card ≠ keys.length ∨ source.get "MINIO_ROOT_USER" ∈ keys then
    .error (.provisionError
      "service access keys must be distinct from each other and from root")
  else if source.get "MINIO_ROOT_PASSWORD" ∈ identities.map fun row => source.get row.secretName then
    .error (.provisionError "service secrets must differ from root")
  else do
    if ← endpointAccepted unicode (source.get "MINIO_ENDPOINT") then .ok ()
    else .error (.provisionError "MINIO_ENDPOINT must be an http(s) URL without credentials")

/-! ## The listing -/

def cannotParse : Fault := .provisionError "cannot safely parse existing MinIO users"

/-- The user that a line is about. -/
def existingUser (line : Option Json) : Except Fault (String × Finset String) :=
  match line with
  | some (.object members) =>
      let status := ((members.lookup "userStatus").orElse fun _ => members.lookup "status").getD .null
      let policy := ((members.lookup "policyName").orElse fun _ => members.lookup "policy").getD
        (.string "")
      match members.lookup "accessKey" with
      | some (.string accessKey) =>
          if accessKey = "" then .error cannotParse
          else
            match status with
            | .string status =>
                if status ∉ ["enabled", "disabled"] then .error cannotParse
                else
                  match policy with
                  | .string policy => .ok (accessKey, if policy = "" then ∅ else {policy})
                  | _ => .error cannotParse
            | .array _ | .object _ => .error (.outside "TypeError: unhashable type")
            | _ => .error cannotParse
      | _ => .error cannotParse
  | _ => .error cannotParse

/-- The loop of `existing_users`, with the users found so far. -/
def readUsers (users : Dict String (Finset String)) :
    List (Option Json) → Except Fault (Dict String (Finset String))
  | [] => .ok users
  | line :: rest => do
      let (accessKey, policies) ← existingUser line
      if (users.get? accessKey).isSome then
        .error (.provisionError "duplicate MinIO user in administrative listing")
      else readUsers (users.set accessKey policies) rest

def existingUsers (lines : List (Option Json)) : Except Fault (Dict String (Finset String)) :=
  readUsers Dict.empty lines

/-! ## The operations -/

abbrev Script := Program Command Reply Fault

/-- `existing_users(mc(["admin", "user", "ls", "--json", ALIAS], environment))`. -/
def listUsers : Script (Dict String (Finset String)) := do
  match ← Program.ask .userList with
  | .listing lines => Program.lift (existingUsers lines)
  | .nothing => Program.raise cannotParse

/-- `intended_policy_by_key`. -/
def intendedPolicyByKey (source : Source) : Dict String String :=
  Dict.ofList (identities.map fun row => (source.get row.accessName, row.policy))

/-- A user with a managed policy other than the one for its key. -/
def unexpected (source : Source) (accessKey : String) (policies : Finset String) : Bool :=
  decide ((managedPolicies ∩ policies).filter
    (fun policy => (intendedPolicyByKey source).get? accessKey ≠ some policy) ≠ ∅)

/-- One round of the loop over the identities; the answer says whether the user was there. -/
def reconcile (source : Source) (existing : Dict String (Finset String)) (row : Identity) :
    Script Bool := do
  let accessKey := source.get row.accessName
  let preserved := (existing.get? accessKey).isSome
  if ¬ preserved then
    let _ ← Program.ask (.userAdd accessKey (source.get row.secretName))
  if row.policy ∉ (existing.get? accessKey).getD ∅ then
    let _ ← Program.ask (.policyAttach row.policy accessKey)
  return preserved

/-- The loop over `policy_commands()`. -/
def createPolicies : List Identity → Script Unit
  | [] => pure ()
  | row :: rest => do
      let _ ← Program.ask (.policyCreate row.policy)
      createPolicies rest

/-- The loop over the identities, with the number of users that were there so far. -/
def reconcileAll (source : Source) (existing : Dict String (Finset String)) (preserved : Nat) :
    List Identity → Script Nat
  | [] => pure preserved
  | row :: rest => do
      let found ← reconcile source existing row
      reconcileAll source existing (if found then preserved + 1 else preserved) rest

/-- What `apply` does about the users of the listing. -/
def applyTo (source : Source) (existing : Dict String (Finset String)) : Script Nat :=
  if existing.items.any fun item => unexpected source item.1 item.2 then
    Program.raise (.provisionError
      "unexpected managed policy assignment; manual validation required")
  else do
    createPolicies identities
    reconcileAll source existing 0 identities

/-- The answer is the number of users whose secret was preserved. -/
def apply (unicode : Unicode) (source : Source) : Script Nat := do
  Program.lift (requireApplyEnvironment unicode source)
  let existing ← listUsers
  applyTo source existing

def rotate (unicode : Unicode) (source : Source) (identity : String) : Script Unit := do
  Program.lift (requireApplyEnvironment unicode source)
  match identities.find? fun row => row.label = identity with
  | none => Program.raise (.provisionError
      "unknown identity; rotation is limited to the 9 approved identities")
  | some row =>
      let existing ← listUsers
      match existing.get? (source.get row.accessName) with
      | none => Program.raise (.provisionError
          "refusing to rotate an identity that does not already exist")
      | some policies =>
          if row.policy ∉ policies then
            Program.raise (.provisionError
              "refusing to rotate an identity whose policy is not attached")
          else
            let _ ← Program.ask (.userAdd (source.get row.accessName) (source.get row.secretName))

end PaymentsPlatform.ObjectStore
