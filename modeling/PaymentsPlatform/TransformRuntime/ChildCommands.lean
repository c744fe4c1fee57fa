import Mathlib.Data.List.Sort
import Mathlib.Data.String.Basic
import PaymentsPlatform.Ingestion.SourceRecord
import PaymentsPlatform.Library.Dict
import PaymentsPlatform.Library.Inquiries

/-!
# The commands of the transform children

`transform_execution.py` builds the command of a child: its arguments, its own environment, and
the one of the private Trino beside it.  Both are copied, name by name, out of a source
environment that holds the credentials of every authority.  The builders are programs that ask
this source for its variables.
-/

namespace PaymentsPlatform.TransformRuntime.ChildCommands

open Ingestion (isSpace strip)
open Inquiries

inductive Fault where
  | valueError (text : String)
  | keyError (name : String)
  /-- What a library raises. -/
  | outside (text : String)
  deriving DecidableEq

/-- A mapping of variables. -/
abbrev Source := String → Option String

abbrev Environment := Dict String String

structure Url where
  scheme : String
  hostname : Option String

/-- The process that builds the commands. -/
structure Process where
  environ : Source
  resolveSecret : String → Except Fault (Option String)
  urlsplit : String → Except Fault Url
  /-- `hashlib.sha256(text.encode()).hexdigest()`. -/
  sha256 : String → String

def Process.getenv (process : Process) (name default : String) : String :=
  (process.environ name).getD default

/-! ## The tables -/

/-- `AUTHORITY_ENV`. -/
def authorityEnv : List (String × List String) :=
  [("ordinary_transform",
      ["ORDINARY_TRANSFORM_S3_ACCESS_KEY_ID", "ORDINARY_TRANSFORM_S3_SECRET_ACCESS_KEY",
        "NESSIE_TRANSFORM_TOKEN"]),
    ("restricted_identity_transform",
      ["RESTRICTED_TRANSFORM_S3_ACCESS_KEY_ID", "RESTRICTED_TRANSFORM_S3_SECRET_ACCESS_KEY",
        "NESSIE_TRANSFORM_TOKEN"]),
    ("ml_prediction_transform",
      ["ML_TRANSFORM_S3_ACCESS_KEY_ID", "ML_TRANSFORM_S3_SECRET_ACCESS_KEY",
        "NESSIE_TRANSFORM_TOKEN"])]

/-- `AUTHORITY_CREDENTIALS`. -/
def authorityCredentials : List (String × String × String) :=
  [("ordinary_transform",
      "ORDINARY_TRANSFORM_S3_ACCESS_KEY_ID", "ORDINARY_TRANSFORM_S3_SECRET_ACCESS_KEY"),
    ("restricted_identity_transform",
      "RESTRICTED_TRANSFORM_S3_ACCESS_KEY_ID", "RESTRICTED_TRANSFORM_S3_SECRET_ACCESS_KEY"),
    ("ml_prediction_transform",
      "ML_TRANSFORM_S3_ACCESS_KEY_ID", "ML_TRANSFORM_S3_SECRET_ACCESS_KEY")]

/-- `FORBIDDEN_ENV`. -/
def forbiddenEnv : List String :=
  ["MINIO_ROOT_USER", "MINIO_ROOT_PASSWORD", "AWS_ACCESS_KEY_ID", "AWS_SECRET_ACCESS_KEY"]

/-- `CHILD_SECRET_NAMES`. -/
def childSecretNames : List String :=
  (authorityEnv.flatMap Prod.snd).dedup ++
    ["DBT_TRINO_PASSWORD", "TRINO_KEYSTORE_PASSWORD", "TRINO_INTERNAL_SHARED_SECRET"]

/-- `PROTECTED_EXTERNAL_PREREQUISITES`. -/
def protectedExternalPrerequisites : List String :=
  ["source.pdm_platform.silver_vault.vlt_pdm_beneficiary_token_link",
    "seed.pdm_platform.uganda_district_geojson"]

def objectStoreRequired : List String :=
  ["S3_ENDPOINT", "S3_USE_SSL", "OBJECT_STORE_REGION", "OBJECT_STORE_BUCKET", "RAW_ROOT",
    "RAW_VERSION", "RAW_PREFIX", "WAREHOUSE_PREFIX", "WAREHOUSE_URI", "DBT_S3_URL_STYLE"]

/-- The variables that both builders copy where they are not empty. -/
def passthrough : List String :=
  ["S3_ENDPOINT", "S3_USE_SSL", "S3_CA_BUNDLE", "OBJECT_STORE_REGION", "S3_PATH_STYLE_ACCESS",
    "DBT_S3_URL_STYLE", "DBT_DATABASE", "DBT_STAGING_DATABASE", "DBT_BRONZE_DATABASE",
    "DBT_SILVER_DATABASE", "DBT_SILVER_VAULT_DATABASE", "DBT_GOLD_DATABASE",
    "DBT_CONSUMPTION_DATABASE", "OBJECT_STORE_BUCKET", "RAW_ROOT", "RAW_VERSION", "RAW_PREFIX",
    "WAREHOUSE_PREFIX", "WAREHOUSE_URI", "NESSIE_WAREHOUSE", "ICEBERG_CATALOG",
    "NESSIE_ENDPOINT", "PYTHONPATH"]

/-- The part of an `ExecutionBatch` that its command is built from. -/
structure ExecutionBatch where
  authority : String
  ownershipUnit : String
  modelAllowlist : List String

/-- `EXECUTION_BATCHES`, or any other mapping from `batch_id` to its batch. -/
abbrev Plan := String → Option ExecutionBatch

structure TransformCommand where
  batchId : String
  authority : String
  argv : List String
  environment : Environment
  trinoEnvironment : Environment
  modelFingerprint : String
  workPath : String

/-! ## Texts -/

/-- `re.fullmatch` of the stem followed by `[a-f0-9]{32}`. -/
def isIdentity (stem text : String) : Bool :=
  let digits := text.toList.drop stem.length
  stem.toList.isPrefixOf text.toList ∧ digits.length = 32 ∧
    digits.all (· ∈ "0123456789abcdef".toList)

/-- `re.fullmatch(r"[a-z][a-z0-9_]{2,127}", text)`. -/
def isOperationId (text : String) : Bool :=
  match text.toList with
  | [] => false
  | first :: rest => first.isLower ∧ 2 ≤ rest.length ∧ rest.length ≤ 127 ∧
      rest.all fun c => c.isLower || c.isDigit || c = '_'

/-- `sorted`, of texts. -/
def sorted (texts : List String) : List String := texts.insertionSort (· ≤ ·)

/-- `str(Path(root) / name)`, for a name that is a path of one part. -/
def joinPath (root name : String) : String :=
  let letters := root.toList
  let parts := (letters.splitOn '/').filter fun part => part ≠ [] ∧ part ≠ ['.']
  let anchor := if letters.take 2 = ['/', '/'] ∧ letters.take 3 ≠ ['/', '/', '/'] then "//"
    else if letters.take 1 = ['/'] then "/" else ""
  anchor ++ "/".intercalate (parts.map String.ofList ++ [name])

/-- `model.rsplit(".", 1)[-1]`. -/
def lastPart (model : String) : String :=
  String.ofList ((model.toList.splitOn '.').getLastD [])

/-! ## The security of the endpoints -/

def isProductionSecurityMode (process : Process) : Bool :=
  (strip isSpace (process.getenv "DP_SECURITY_MODE" "")).toLower = "production"

def parseSecurityBool (value name : String) : Except Fault Bool :=
  if (strip isSpace value).toLower = "true" then .ok true
  else if (strip isSpace value).toLower = "false" then .ok false
  else .error (.valueError (name ++ " must be 'true' or 'false'"))

/-- `not parsed.hostname`. -/
def Url.hostless (url : Url) : Bool := url.hostname.getD "" = ""

def validateObjectStoreSecurity (process : Process) (endpoint useSsl : String)
    (caBundle : Option String) : Except Fault (String × Bool × Option String) := do
  if strip isSpace endpoint = "" then .error (.valueError "S3 endpoint is required")
  else
    let parsed ← process.urlsplit (strip isSpace endpoint)
    if parsed.scheme ∉ ["http", "https"] then
      .error (.valueError "S3 endpoint must use http or https")
    else if parsed.hostless then
      .error (.valueError "S3 endpoint must include a valid hostname")
    else
      let sslEnabled ← parseSecurityBool useSsl "S3_USE_SSL"
      if (parsed.scheme == "https") ≠ sslEnabled then
        .error (.valueError "S3 endpoint scheme and S3_USE_SSL must agree")
      else if isProductionSecurityMode process ∧ ¬ sslEnabled then
        .error (.valueError "S3 must use HTTPS when DP_SECURITY_MODE=production")
      else
        .ok (strip isSpace endpoint, sslEnabled,
          (caBundle.map (strip isSpace)).filter (· ≠ ""))

def requireHttps (process : Process) (url service : String) : Except Fault Unit := do
  let parsed ← process.urlsplit (strip isSpace url)
  if parsed.scheme.toLower ≠ "https" then
    .error (.valueError (service ++ " must use HTTPS when DP_SECURITY_MODE=production"))
  else if parsed.hostless then
    .error (.valueError
      (service ++ " must have a valid hostname when DP_SECURITY_MODE=production"))
  else .ok ()

def validateNessieSecurity (process : Process) (endpoint authMode token : String) :
    Except Fault Unit := do
  if ¬ isProductionSecurityMode process then .ok ()
  else
    requireHttps process endpoint "Nessie"
    if (strip isSpace authMode).toLower ≠ "bearer" then
      .error (.valueError
        "Nessie must use bearer authentication when DP_SECURITY_MODE=production")
    else if strip isSpace token = "" then
      .error (.valueError "Nessie bearer token is required when DP_SECURITY_MODE=production")
    else .ok ()

/-! ## The source -/

/-- What a builder asks of its source. -/
inductive Question where
  /-- `supplied.get(name)`. -/
  | value (name : String)
  /-- The truth of `supplied.get(name)`. -/
  | present (name : String)

def Answer : Question → Type
  | .value _ => Option String
  | .present _ => Bool

def Source.answers (source : Source) : (question : Question) → Answer question
  | .value name => source name
  | .present name => decide ((source name).getD "" ≠ "")

abbrev Reader := Inquiry Answer Fault

def lookup (name : String) : Reader (Option String) := Inquiry.answerTo (Question.value name)

@[simp]
theorem run_lookup (source : Source) (name : String) :
    (lookup name).run source.answers = .ok (source name) := rfl

def isPresent (name : String) : Reader Bool := Inquiry.answerTo (Question.present name)

/-- `supplied[name]`. -/
def item (name : String) : Reader String := do
  match ← lookup name with
  | some value => pure value
  | none => Inquiry.raise (.keyError name)

/-- `supplied.get(name, default)`. -/
def get (name default : String) : Reader String := do
  let found ← lookup name
  return found.getD default

@[simp]
theorem run_get (source : Source) (name default : String) :
    (get name default).run source.answers = .ok ((source name).getD default) := rfl

/-- `raise ValueError(message)`, if the condition holds. -/
def refuseIf (condition : Bool) (message : String) : Reader Unit :=
  Inquiry.lift (if condition then .error (.valueError message) else .ok ())

/-- `sorted(key for key in names if not supplied.get(key))`. -/
def missingOf (names : List String) : Reader (List String) := do
  let missing ← names.foldlM (fun found name => do
    let present ← isPresent name
    return if present then found else found ++ [name]) []
  return sorted missing

/-- `{key: supplied[key] for key in passthrough if supplied.get(key)}`. -/
def copied : Reader Environment :=
  passthrough.foldlM (fun environment name => do
    let found ← lookup name
    return match found with
      | some value => if value = "" then environment else environment.set name value
      | none => environment) .empty

/-- `environment.update`. -/
def updated (environment : Environment) (entries : List (String × String)) : Environment :=
  entries.foldl (fun environment entry => environment.set entry.1 entry.2) environment

/-- `_ambient_environment`. -/
def ambientEnvironment (process : Process) : Except Fault Source :=
  (sorted childSecretNames).foldlM (fun environment name => do
    let value ← process.resolveSecret name
    return if value.isSome then Function.update environment name value else environment)
    process.environ

def suppliedBy (process : Process) : Option Source → Except Fault Source
  | some source => .ok source
  | none => ambientEnvironment process

/-! ## The parts of a command -/

def checkObjectStore (process : Process) : Reader Unit := do
  let endpoint ← item "S3_ENDPOINT"
  let useSsl ← item "S3_USE_SSL"
  let caBundle ← lookup "S3_CA_BUNDLE"
  let _ ← Inquiry.lift (validateObjectStoreSecurity process endpoint useSsl caBundle)

def checkNessie (process : Process) : Reader Unit := do
  let endpoint ← get "NESSIE_ENDPOINT" ""
  let token ← item "NESSIE_TRANSFORM_TOKEN"
  Inquiry.lift (validateNessieSecurity process endpoint
    (process.getenv "NESSIE_AUTH_MODE" "bearer") token)

def checkRawPrefix : Reader Unit := do
  let rawPrefix ← item "RAW_PREFIX"
  let root ← item "RAW_ROOT"
  let version ← item "RAW_VERSION"
  refuseIf (rawPrefix ≠ root ++ "/" ++ version) "RAW_PREFIX must equal RAW_ROOT + '/' + RAW_VERSION"

def checkWarehouseUri (message : String) : Reader Unit := do
  let bucket ← item "OBJECT_STORE_BUCKET"
  let warehouse ← item "WAREHOUSE_PREFIX"
  let uri ← item "WAREHOUSE_URI"
  refuseIf (uri ≠ "s3://" ++ bucket ++ "/" ++ warehouse) message

/-- `environment` as both builders fill it. -/
def childEnvironment (authority executionId workPath branch : String) : Reader Environment := do
  let environment ← copied
  let host ← get "DBT_TRINO_HOST" "127.0.0.1"
  let port ← get "DBT_TRINO_PORT" "18443"
  let user ← get "DBT_TRINO_USER" "dbt"
  let password ← item "DBT_TRINO_PASSWORD"
  return updated environment
    [("PATH", "/opt/dbt/bin:/usr/local/bin:/usr/bin"),
      ("DBT_LOG_PATH", workPath ++ "/logs"),
      ("DBT_TARGET_PATH", workPath ++ "/target"),
      ("DBT_NESSIE_BRANCH", branch),
      ("DBT_TRINO_HOST", host),
      ("DBT_TRINO_PORT", port),
      ("DBT_TRINO_USER", user),
      ("DBT_TRINO_PASSWORD", password),
      ("TRANSFORM_AUTHORITY", authority),
      ("TRANSFORM_EXECUTION_ID", executionId),
      ("TRANSFORM_EXECUTION_WORK_PATH", workPath)]

/-- `trino_environment`, in the order of its keys. -/
def trinoEnvironment (process : Process) (branch access secret warehouse : String) :
    Reader Environment := do
  let endpoint ← item "S3_ENDPOINT"
  let pathStyle ← get "S3_PATH_STYLE_ACCESS" "true"
  let region ← item "OBJECT_STORE_REGION"
  let keystore ← get "TRINO_KEYSTORE_PASSWORD" ""
  let sharedSecret ← get "TRINO_INTERNAL_SHARED_SECRET" ""
  return updated .empty
    [("DBT_NESSIE_BRANCH", branch),
      ("TRINO_S3_ACCESS_KEY_ID", access),
      ("TRINO_S3_SECRET_ACCESS_KEY", secret),
      ("NESSIE_WAREHOUSE", warehouse),
      ("S3_ENDPOINT", endpoint),
      ("S3_PATH_STYLE_ACCESS", pathStyle),
      ("OBJECT_STORE_REGION", region),
      ("TRINO_KEYSTORE_PASSWORD", keystore),
      ("TRINO_INTERNAL_SHARED_SECRET", sharedSecret),
      ("PATH", process.getenv "PATH" "/usr/local/bin:/usr/bin:/bin"),
      ("JAVA_HOME", process.getenv "JAVA_HOME" "/usr/lib/jvm/temurin/jdk-24.0.2+12"),
      ("JAVA_TOOL_OPTIONS",
        "-Djna.tmpdir=/var/lib/platform-transform-worker/jna --enable-native-access=ALL-UNNAMED")]

def refuseForbidden (environment : Environment) : Reader Unit :=
  refuseIf (environment.keys.any (· ∈ forbiddenEnv)) "root object-store credentials are prohibited"

def workPath (process : Process) (executionId : String) : String :=
  joinPath (process.getenv "TRANSFORM_WORK_ROOT" "/var/lib/platform-job-runner/work") executionId

/-! ## The two builders -/

def ExecutionBatch.boundedIngestion (batch : ExecutionBatch) : Bool :=
  batch.ownershipUnit ∈ ["raw_to_bronze", "ml_derived_bronze"]

def ExecutionBatch.argv (process : Process) (batch : ExecutionBatch) : List String :=
  let names := (sorted batch.modelAllowlist).map lastPart
  if batch.boundedIngestion then
    process.getenv "PYTHON_EXECUTABLE" "/usr/local/bin/python" ::
      "/app/job_runner/raw_to_bronze_executor.py" :: names
  else
    let dbt := process.getenv "DBT_EXECUTABLE" "/opt/dbt/bin/dbt"
    ["/bin/sh", "-c", " ".intercalate
      ([dbt, "seed", "--project-dir", "/app/dbt", "--profiles-dir", "/app/dbt", "--target",
          "runtime", "&&", "exec", dbt, "build", "--project-dir", "/app/dbt", "--profiles-dir",
          "/app/dbt", "--target", "runtime", "--indirect-selection", "cautious", "--select"] ++
        names)]

/-- The checks of `build_transform_command` on its source, with the warehouse of Nessie. -/
def transformChecks (process : Process) (requiredAuthority : List String) : Reader String := do
  let missingAuthority ← missingOf requiredAuthority
  refuseIf (missingAuthority ≠ []) "required transform authority credentials are unavailable"
  let missingStorage ← missingOf objectStoreRequired
  refuseIf (missingStorage ≠ [])
    ("required object-store configuration is unavailable: " ++ ", ".intercalate missingStorage)
  let missingTrino ← missingOf ["DBT_TRINO_PASSWORD"]
  refuseIf (missingTrino ≠ []) "required dbt Trino credentials are unavailable"
  checkObjectStore process
  checkRawPrefix
  checkWarehouseUri "WAREHOUSE_URI must use the configured bucket and prefix"
  let configured ← get "NESSIE_WAREHOUSE" ""
  let nessieWarehouse := strip isSpace configured
  refuseIf (nessieWarehouse = "") "NESSIE_WAREHOUSE is required"
  let uri ← item "WAREHOUSE_URI"
  refuseIf (nessieWarehouse ≠ uri) "NESSIE_WAREHOUSE must equal WAREHOUSE_URI"
  checkNessie process
  return nessieWarehouse

/-- The environment of the child, which has the credentials of the authority if it ingests. -/
def ExecutionBatch.environment (batch : ExecutionBatch) (base : Environment)
    (accessName secretName : String) : Reader Environment :=
  if batch.boundedIngestion then do
    let access ← item accessName
    let secret ← item secretName
    return updated base [(accessName, access), (secretName, secret)]
  else pure base

/-- `build_transform_command` once its source is there. -/
def transformCommand (process : Process) (batchId executionId : String)
    (transformRunId : Option String) (batch : ExecutionBatch) (requiredAuthority : List String)
    (accessName secretName : String) : Reader TransformCommand := do
  let nessieWarehouse ← transformChecks process requiredAuthority
  let branch := "transform_" ++ transformRunId.getD executionId
  let base ← childEnvironment batch.authority executionId (workPath process executionId) branch
  let environment ← batch.environment base accessName secretName
  let access ← item accessName
  let secret ← item secretName
  let trino ← trinoEnvironment process branch access secret nessieWarehouse
  refuseForbidden environment
  return ⟨batchId, batch.authority, batch.argv process, environment, trino,
    process.sha256 ("\n".intercalate (sorted batch.modelAllowlist)),
    workPath process executionId⟩

def buildTransformCommand (process : Process) (plan : Plan) (batchId executionId : String)
    (source : Option Source) (transformRunId : Option String) : Except Fault TransformCommand :=
  match plan batchId with
  | none => .error (.valueError "batch is not allowlisted")
  | some batch =>
      match authorityEnv.lookup batch.authority, authorityCredentials.lookup batch.authority with
      | some requiredAuthority, some (accessName, secretName) =>
          if batch.modelAllowlist.any (· ∈ protectedExternalPrerequisites) then
            .error (.valueError "protected prerequisite cannot be selected")
          else if ¬ isIdentity "be_" executionId then
            .error (.valueError "invalid execution identity")
          else if ∃ runId ∈ transformRunId, ¬ isIdentity "tr_" runId then
            .error (.valueError "invalid transform run identity")
          else do
            let supplied ← suppliedBy process source
            (transformCommand process batchId executionId transformRunId batch requiredAuthority
              accessName secretName).run supplied.answers
      | _, _ => .error (.valueError "batch transform authority is not allowlisted")

def runtimeRequired : List String :=
  ["S3_ENDPOINT", "S3_USE_SSL", "OBJECT_STORE_REGION", "OBJECT_STORE_BUCKET", "RAW_ROOT",
    "RAW_VERSION", "RAW_PREFIX", "WAREHOUSE_PREFIX", "WAREHOUSE_URI", "DBT_S3_URL_STYLE",
    "DBT_TRINO_PASSWORD", "NESSIE_WAREHOUSE", "NESSIE_TRANSFORM_TOKEN"]

/-- The checks of `build_governed_runtime_command` on its source. -/
def runtimeChecks (process : Process) (requiredAuthority : List String) : Reader String := do
  let missingAuthority ← missingOf requiredAuthority
  refuseIf (missingAuthority ≠ []) "required transform authority credentials are unavailable"
  let missing ← missingOf runtimeRequired
  refuseIf (missing ≠ []) "required governed runtime configuration is unavailable"
  checkObjectStore process
  checkNessie process
  checkRawPrefix
  checkWarehouseUri "WAREHOUSE_URI must use configured bucket and prefix"
  let nessieWarehouse ← item "NESSIE_WAREHOUSE"
  let uri ← item "WAREHOUSE_URI"
  refuseIf (nessieWarehouse ≠ uri) "NESSIE_WAREHOUSE must equal WAREHOUSE_URI"
  return nessieWarehouse

/-- `build_governed_runtime_command` once its source is there. -/
def runtimeCommand (process : Process) (authority operationId executionId transformRunId : String)
    (requiredAuthority : List String) (accessName secretName : String) :
    Reader TransformCommand := do
  let nessieWarehouse ← runtimeChecks process requiredAuthority
  let access ← get accessName ""
  let secret ← get secretName ""
  refuseIf (access = "" ∨ secret = "") "authority object-store credentials are unavailable"
  let branch := "transform_" ++ transformRunId
  let environment ← childEnvironment authority executionId (workPath process executionId) branch
  let trino ← trinoEnvironment process branch access secret nessieWarehouse
  refuseForbidden environment
  return ⟨operationId, authority, [], environment, trino,
    process.sha256 ("protected-operation:" ++ operationId ++ ":" ++ authority),
    workPath process executionId⟩

def buildGovernedRuntimeCommand (process : Process)
    (authority operationId executionId : String) (source : Option Source)
    (transformRunId : String) : Except Fault TransformCommand :=
  match authorityEnv.lookup authority, authorityCredentials.lookup authority with
  | some requiredAuthority, some (accessName, secretName) =>
      if ¬ isIdentity "be_" executionId then
        .error (.valueError "invalid execution identity")
      else if ¬ isIdentity "tr_" transformRunId then
        .error (.valueError "invalid transform run identity")
      else if ¬ isOperationId operationId then
        .error (.valueError "invalid governed operation identity")
      else do
        let supplied ← suppliedBy process source
        (runtimeCommand process authority operationId executionId transformRunId
          requiredAuthority accessName secretName).run supplied.answers
  | _, _ => .error (.valueError "transform authority is not allowlisted")

end PaymentsPlatform.TransformRuntime.ChildCommands
