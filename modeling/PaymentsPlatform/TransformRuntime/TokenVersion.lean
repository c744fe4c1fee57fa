import Mathlib.Data.String.Basic
import PaymentsPlatform.Library.Fallible
import PaymentsPlatform.Library.SoleClient
import PaymentsPlatform.TransformRuntime.TokenLink

/-!
# The version in a token

`secret_provider.py` reads the key and its version from mounted files, `operation_context` takes
the version as it is, and `tokeniser_job.py` strips it, puts it before each token and compares it
in the end with the one that was mounted.
-/

namespace PaymentsPlatform.TransformRuntime.TokenLink

open Ingestion (isSpace strip strip_strip)
open Library.Fallible
open RelyGuarantee

/-! ## Secrets -/

/-- What is at the path of a secret. -/
inductive MountedFile where
  | absent
  /-- The path leads out of the directory. -/
  | outside
  | unreadable
  | undecodable
  | holding (content : List Char)

/-- What the process finds around it, besides what it asks the catalog for. -/
structure Process where
  getenv : String → Option String
  /-- The checks of a path that is to be an absolute one of a readable directory. -/
  secretDirectory : String → Except Fault String
  file : String → String → MountedFile
  hmac : String → String → String
  now : String
  withinWarehouse : String → Except Fault Unit

/-- What `read_text` makes of the line ends. -/
def universalNewlines : List Char → List Char
  | '\r' :: '\n' :: rest => '\n' :: universalNewlines rest
  | '\r' :: rest => '\n' :: universalNewlines rest
  | character :: rest => character :: universalNewlines rest
  | [] => []

/-- `content.rstrip("\r\n")` of what `read_text` answers. -/
def secretText (content : List Char) : String :=
  String.ofList ((universalNewlines content).rdropWhile (· ∈ ['\r', '\n']))

namespace Process

variable (process : Process)

def requireSecretDirectory (directory : String) : Except Fault String :=
  if strip isSpace directory = "" then
    .error (.valueError "DP_SECRET_DIR is required when mounted files supply secrets")
  else process.secretDirectory (strip isSpace directory)

/-- `FileSecretProvider(directory).get(name)`. -/
def getFile (directory name : String) : Except Fault (Option String) := do
  let resolved ← process.requireSecretDirectory directory
  match process.file resolved name with
  | .absent => return none
  | .outside => .error (.valueError
      ("secret " ++ name ++ " does not resolve inside the configured secret directory"))
  | .unreadable => .error (.valueError
      ("secret " ++ name ++ " is not readable from the configured secret directory"))
  | .undecodable => .error (.outside "invalid start byte")
  | .holding content => return some (secretText content)

/-- `os.getenv(name, "").strip()`. -/
def setting (name : String) : String := strip isSpace ((process.getenv name).getD "")

def isProductionSecurityMode : Bool := (process.setting "DP_SECURITY_MODE").toLower = "production"

inductive SecretSource where
  | environment
  | mountedFiles
  deriving DecidableEq

def validateSecretSource : Except Fault SecretSource :=
  let declared := (process.setting "DP_SECRET_SOURCE").toLower
  if declared = "" then
    if process.isProductionSecurityMode then
      .error (.valueError ("DP_SECRET_SOURCE must be declared explicitly as one of " ++
        "environment, mounted-files when DP_SECURITY_MODE=production"))
    else .ok .environment
  else if declared = "environment" then .ok .environment
  else if declared = "mounted-files" then do
    let _ ← process.requireSecretDirectory ((process.getenv "DP_SECRET_DIR").getD "")
    return .mountedFiles
  else .error (.valueError "DP_SECRET_SOURCE must be one of environment, mounted-files")

/-- `value if _is_available(value) else None`. -/
def available (value : Option String) : Option String := value.filter (· ≠ "")

/-- The value of a mounted file, where a directory is configured. -/
def mountedValue (name : String) : Except Fault (Option String) :=
  if process.setting "DP_SECRET_DIR" = "" then .ok none
  else process.getFile (process.setting "DP_SECRET_DIR") name

def resolveSecret (name : String) : Except Fault (Option String) := do
  let _ ← process.validateSecretSource
  let mounted ← process.mountedValue name
  return (available mounted).or (available (process.getenv name))

def requireSecret (name : String) : Except Fault String := do
  match ← process.resolveSecret name with
  | some value => return value
  | none => .error (.runtimeError
      ("secret " ++ name ++ " is not available from the configured secret source"))

def requireMountedSecret (name : String) : Except Fault String := do
  if (← process.validateSecretSource) ≠ .mountedFiles then
    .error (.valueError ("secret " ++ name ++ " requires DP_SECRET_SOURCE=mounted-files"))
  else
    match available (← process.getFile (process.setting "DP_SECRET_DIR") name) with
    | some value => return value
    | none => .error (.runtimeError
        ("secret " ++ name ++ " is not available from the mounted secret source"))

/-! ## The key -/

/-- `TokenisationKeyMissing`. -/
def tokenisationKeyMissing (name : String) : Fault :=
  .runtimeError (name ++ " is not configured; tokenisation is mandatory so fail closed")

/-- `except SecretUnavailable`. -/
def asKeyMissing (name : String) : Fault → Fault
  | .runtimeError _ => tokenisationKeyMissing name
  | fault => fault

/-- `_required_token_key`. -/
def requiredTokenKey : Except Fault String := do
  let raw ← (process.requireSecret "DP_TOKEN_KEY").mapError (asKeyMissing "DP_TOKEN_KEY")
  if strip isSpace raw = "" then .error (tokenisationKeyMissing "DP_TOKEN_KEY") else return raw

/-- `_active_key`. -/
def activeKey : Except Fault (String × String) := do
  let raw ← process.requiredTokenKey
  let version ← (process.requireMountedSecret "DP_TOKEN_KEY_VERSION").mapError
    (asKeyMissing "DP_TOKEN_KEY_VERSION")
  if strip isSpace version = "" then .error (tokenisationKeyMissing "DP_TOKEN_KEY_VERSION")
  else return (raw, version)

def environment : Environment where
  getenv := process.getenv
  requireMountedSecret := process.requireMountedSecret
  activeKey := process.activeKey
  hmac := process.hmac
  now := process.now
  withinWarehouse := process.withinWarehouse

/-! ### What is mounted -/

variable {process} {name value : String}

theorem available_some (value : String) :
    available (some value) = if value = "" then none else some value := by
  by_cases empty : value = "" <;> simp [available, Option.filter_some, empty]

theorem requireMountedSecret_ok (required : process.requireMountedSecret name = .ok value) :
    process.validateSecretSource = .ok .mountedFiles ∧ value ≠ "" ∧
      ∃ directory content, process.requireSecretDirectory (process.setting "DP_SECRET_DIR") =
        .ok directory ∧ process.file directory name = .holding content ∧
        value = secretText content := by
  unfold requireMountedSecret at required
  cases source : process.validateSecretSource with
  | error fault => simp [source, bind, Except.bind] at required
  | ok declared =>
      cases declared with
      | environment => simp [source, bind, Except.bind] at required
      | mountedFiles =>
          cases located : process.requireSecretDirectory (process.setting "DP_SECRET_DIR") with
          | error fault => simp [source, getFile, located, bind, Except.bind] at required
          | ok directory =>
              cases held : process.file directory name with
              | holding content =>
                  simp only [source, getFile, located, held, bind, Except.bind, pure,
                    Except.pure] at required
                  rw [available_some] at required
                  by_cases empty : secretText content = ""
                  · simp [empty] at required
                  · simp only [ne_eq, not_true_eq_false, empty, if_false, Except.ok.injEq] at required
                    subst required
                    exact ⟨rfl, empty, directory, content, rfl, held, rfl⟩
              | _ =>
                  simp [source, getFile, located, held, available, bind, Except.bind, pure,
                    Except.pure] at required

theorem requireSecret_of_mounted (required : process.requireMountedSecret name = .ok value) :
    process.requireSecret name = .ok value := by
  obtain ⟨source, nonempty, directory, content, located, held, rfl⟩ :=
    requireMountedSecret_ok required
  have configured : process.setting "DP_SECRET_DIR" ≠ "" := by
    intro blank
    have isBlank : strip isSpace "" = "" := by decide
    simp [blank, requireSecretDirectory, isBlank] at located
  simp [requireSecret, resolveSecret, source, mountedValue, configured, getFile, located, held,
    available_some, nonempty, bind, Except.bind, pure, Except.pure]

theorem activeKey_of_mounted {key version : String}
    (keyMounted : process.requireMountedSecret "DP_TOKEN_KEY" = .ok key)
    (versionMounted : process.requireMountedSecret "DP_TOKEN_KEY_VERSION" = .ok version)
    (nonblank : strip isSpace version ≠ "") :
    process.activeKey = if strip isSpace key = "" then .error (tokenisationKeyMissing "DP_TOKEN_KEY")
      else .ok (key, version) := by
  have required := requireSecret_of_mounted keyMounted
  by_cases blank : strip isSpace key = "" <;>
    simp [activeKey, requiredTokenKey, required, versionMounted, nonblank, blank, Except.mapError,
      bind, Except.bind, pure, Except.pure]

end Process

/-! ## The tokens -/

/-- What the split at the first colon leaves of a version in the digest. -/
def leftover (version : String) : String :=
  match version.toList.dropWhile (· ≠ ':') with
  | [] => ""
  | _ :: rest => String.ofList (rest ++ [':'])

theorem digest_version (version text : String) :
    digest (version ++ ":" ++ text) = .ok (leftover version ++ text) := by
  have letters : (version ++ ":" ++ text).toList = version.toList ++ ':' :: text.toList := by
    simp
  rw [digest, letters, List.dropWhile_append, leftover]
  cases after : version.toList.dropWhile (· ≠ ':') with
  | nil => simp
  | cons colon rest => simp [String.ofList_append, String.append_assoc]

theorem leftover_eq_empty_iff (version : String) : leftover version = "" ↔ ':' ∉ version.toList := by
  have none_left : version.toList.dropWhile (· ≠ ':') = [] ↔ ':' ∉ version.toList := by
    rw [List.dropWhile_eq_nil_iff]
    constructor
    · intro differs listed
      simpa using differs ':' listed
    · intro absent character listed
      simpa using fun same : character = ':' => absent (same ▸ listed)
  rw [← none_left, leftover]
  cases version.toList.dropWhile (· ≠ ':') with
  | nil => simp
  | cons colon rest => simp [String.ofList_append]

/-- The digest of an identifier in the domain of the tokens. -/
def digestOf (process : Process) (key beneficiaryId : String) : String :=
  process.hmac key ("gate2-beneficiary" ++ "||" ++ beneficiaryId)

/-- The link that is built for an identifier. -/
def linkOf (process : Process) (key version beneficiaryId : String) : TokenLinkRow where
  beneficiaryId := beneficiaryId
  beneficiaryKeyInternal := "internal:" ++ beneficiaryId
  tokenVersion := strip isSpace version
  beneficiaryToken := strip isSpace version ++ ":" ++
    (leftover version ++ digestOf process key beneficiaryId)
  isActive := true
  generatedAt := process.now

section Links

variable {process : Process} {key version : String}

theorem requireVersion_strip (nonblank : strip isSpace version ≠ "") :
    requireVersion (strip isSpace version) = .ok (strip isSpace version) := by
  simp [requireVersion, strip_strip, nonblank]

theorem canonicalTokenFor_eq (active : process.activeKey = .ok (key, version))
    (nonblank : strip isSpace version ≠ "") {beneficiaryId : String}
    (identified : strip isSpace beneficiaryId ≠ "") :
    canonicalTokenFor process.environment beneficiaryId (strip isSpace version) =
      .ok (linkOf process key version beneficiaryId).beneficiaryToken := by
  have keyed : keyedToken process.environment beneficiaryId "gate2-beneficiary" =
      .ok (some (version ++ ":" ++ digestOf process key beneficiaryId)) := by
    simp [keyedToken, digestOf, identified, active, Except.map, Process.environment]
  simp [canonicalTokenFor, keyed, requireVersion_strip nonblank, digest_version, linkOf, bind,
    Except.bind]

theorem buildRows_eq (active : process.activeKey = .ok (key, version))
    (nonblank : strip isSpace version ≠ "") (seen beneficiaryIds : List String)
    (identified : ∀ beneficiaryId ∈ beneficiaryIds, strip isSpace beneficiaryId ≠ "")
    (distinct : beneficiaryIds.Nodup) (fresh : ∀ beneficiaryId ∈ beneficiaryIds,
      beneficiaryId ∉ seen) :
    buildRows process.environment (strip isSpace version) seen beneficiaryIds =
      .ok (beneficiaryIds.map (linkOf process key version)) := by
  induction beneficiaryIds generalizing seen with
  | nil => rfl
  | cons beneficiaryId rest ih =>
      obtain ⟨notLater, laterDistinct⟩ := List.nodup_cons.mp distinct
      have later := ih (beneficiaryId :: seen)
        (fun other listed => identified other (List.mem_cons_of_mem _ listed)) laterDistinct
        (by
          intro other listed
          rw [List.mem_cons, not_or]
          exact ⟨fun same => notLater (same ▸ listed),
            fresh other (List.mem_cons_of_mem _ listed)⟩)
      have token := canonicalTokenFor_eq active nonblank (identified _ List.mem_cons_self)
      have isFresh := fresh beneficiaryId List.mem_cons_self
      have isIdentified := identified beneficiaryId List.mem_cons_self
      simp only [buildRows, String.isEmpty_iff, isIdentified, if_false, isFresh, token, later,
        bind, Except.bind, List.map_cons]
      rfl

theorem buildTokenLinks_eq {beneficiaryIds : List String}
    (keyMounted : process.requireMountedSecret "DP_TOKEN_KEY" = .ok key)
    (versionMounted : process.requireMountedSecret "DP_TOKEN_KEY_VERSION" = .ok version)
    (nonblank : strip isSpace version ≠ "") (keyed : strip isSpace key ≠ "")
    (identified : ∀ beneficiaryId ∈ beneficiaryIds, strip isSpace beneficiaryId ≠ "")
    (distinct : beneficiaryIds.Nodup) :
    buildTokenLinks process.environment beneficiaryIds version =
      .ok (beneficiaryIds.map (linkOf process key version)) := by
  have active : process.activeKey = .ok (key, version) := by
    rw [Process.activeKey_of_mounted keyMounted versionMounted nonblank, if_neg keyed]
  have required : requireVersion version = .ok (strip isSpace version) := by
    simp [requireVersion, nonblank]
  simp only [buildTokenLinks, required, bind, Except.bind]
  exact buildRows_eq active nonblank [] beneficiaryIds identified distinct fun _ _ => nofun

theorem nodup_tokens {beneficiaryIds : List String}
    (injective : Set.InjOn (digestOf process key) {listed | listed ∈ beneficiaryIds})
    (nodup : beneficiaryIds.Nodup) :
    (beneficiaryIds.map fun beneficiaryId =>
      (linkOf process key version beneficiaryId).beneficiaryToken).Nodup := by
  apply nodup.map_on
  intro beneficiaryId listed other otherListed same
  rw [linkOf, linkOf, String.append_right_inj, String.append_right_inj] at same
  exact injective listed otherListed same

theorem distinct_eq_length {column : Row → Option String} {field : String → String}
    {row : String → Row} {values : List String}
    (reads : ∀ value, column (row value) = some (field value))
    (nodup : (values.map field).Nodup) : distinct column (values.map row) = values.length := by
  have listed : (values.map row).filterMap column = values.map field := by
    rw [List.filterMap_map, ← List.filterMap_eq_map]
    exact List.filterMap_congr fun value _ => reads value
  rw [distinct, listed, nodup.dedup, List.length_map]

theorem aggregates_links {beneficiaryIds : List String}
    (injective : Set.InjOn (digestOf process key) {listed | listed ∈ beneficiaryIds})
    (nodup : beneficiaryIds.Nodup) (nonempty : beneficiaryIds ≠ []) :
    aggregates (beneficiaryIds.map fun beneficiaryId =>
      (linkOf process key version beneficiaryId).stored) =
      ⟨beneficiaryIds.length, beneficiaryIds.length, beneficiaryIds.length,
        beneficiaryIds.length, 0, 1, some (strip isSpace version)⟩ := by
  have positive : beneficiaryIds.length ≠ 0 := by simpa using nonempty
  have versions : (beneficiaryIds.map fun beneficiaryId =>
      (linkOf process key version beneficiaryId).stored).filterMap Row.tokenVersion =
        List.replicate beneficiaryIds.length (strip isSpace version) := by
    rw [List.filterMap_map, List.eq_replicate_iff]
    constructor
    · simp [linkOf, TokenLinkRow.stored]
    · simp [linkOf, TokenLinkRow.stored]
  have ids : distinct Row.beneficiaryId (beneficiaryIds.map fun beneficiaryId =>
      (linkOf process key version beneficiaryId).stored) = beneficiaryIds.length :=
    distinct_eq_length (fun _ => rfl) (by simpa [linkOf] using nodup)
  have tokens : distinct Row.beneficiaryToken (beneficiaryIds.map fun beneficiaryId =>
      (linkOf process key version beneficiaryId).stored) = beneficiaryIds.length :=
    distinct_eq_length (fun _ => rfl) (nodup_tokens injective nodup)
  have oneVersion : distinct Row.tokenVersion (beneficiaryIds.map fun beneficiaryId =>
      (linkOf process key version beneficiaryId).stored) = 1 := by
    rw [distinct, versions, List.replicate_dedup positive]
    rfl
  have active : (beneficiaryIds.map fun beneficiaryId =>
      (linkOf process key version beneficiaryId).stored).countP
        (fun row => row.isActive = some true) = beneficiaryIds.length := by
    simp [List.countP_map, List.countP_eq_length, linkOf, TokenLinkRow.stored]
  have nulls : (beneficiaryIds.map fun beneficiaryId =>
      (linkOf process key version beneficiaryId).stored).countP (fun row => !row.complete) = 0 := by
    simp [List.countP_map, List.countP_eq_zero, linkOf, TokenLinkRow.stored, Row.complete]
  rw [aggregates, ids, tokens, oneVersion, active, nulls, versions, List.length_map,
    List.min?_replicate_of_pos (Nat.pos_of_ne_zero positive)]

end Links

/-! ## Agreement -/

/-- `validate_table` takes a final table of these rows, in every catalog and session. -/
def Validates (links : List TokenLinkRow) (expectedRows : Option Nat) (version : String) : Prop :=
  ∀ session choice store table, store.tables (governed finalTable) = some table →
    table.columns = expectedColumns → table.rows = links.map TokenLinkRow.stored →
      ((validateTable finalTarget expectedRows (some version)).alone (perform session choice)
        store).1 = .ok links.length

theorem validates_iff {links : List TokenLinkRow} {expectedRows : Option Nat} {version : String} :
    Validates links expectedRows version ↔
      checkAggregates (aggregates (links.map TokenLinkRow.stored)) expectedRows (some version) =
        .ok links.length := by
  have runs : ∀ session choice store table, store.tables (governed finalTable) = some table →
      table.columns = expectedColumns → table.rows = links.map TokenLinkRow.stored →
        ((validateTable finalTarget expectedRows (some version)).alone (perform session choice)
          store).1 =
          checkAggregates (aggregates (links.map TokenLinkRow.stored)) expectedRows
            (some version) := by
    intro session choice store table held columns rows
    have lowered : expectedColumns.map (fun column => (column.1, column.2.toLower)) =
        expectedColumns := by
      decide +kernel
    have found : store.find session finalTarget = .ok (governed finalTable, table) := by
      simp [Store.find, finalTarget, Target.resolve, held]
    have named : store.tables (governed (Target.table finalTarget)) = some table := held
    rw [validateTable, Program.alone_bind]
    simp only [Program.ask, Program.alone, perform, named, columns, Option.map_some,
      Option.getD_some, lowered, if_true]
    rw [Program.alone_bind]
    simp [Program.alone, perform, found, columns, rows, Program.lift]
  constructor
  · intro validates
    let table : Table := ⟨none, "", expectedColumns, links.map TokenLinkRow.stored, none⟩
    let store : Store := ⟨fun _ => some table, fun _ => none⟩
    let choice : Choice := ⟨[], "", by decide⟩
    rw [← runs none choice store table rfl rfl rfl]
    exact validates none choice store table rfl rfl rfl
  · intro checked session choice store table held columns rows
    rw [runs session choice store table held columns rows, checked]

/-- The links say what they should of a batch, and pass as the final table. -/
structure Conforms (process : Process) (version key : String) (beneficiaryIds : List String)
    (links : List TokenLinkRow) : Prop where
  ids : links.map TokenLinkRow.beneficiaryId = beneficiaryIds
  format : ∀ link ∈ links, link.beneficiaryToken =
    link.tokenVersion ++ ":" ++ digestOf process key link.beneficiaryId
  distinct : (links.map TokenLinkRow.beneficiaryToken).Nodup
  validated : ∀ expectedRows ∈ [none, some beneficiaryIds.length],
    Validates links expectedRows version

/-- The batch is built as the format and the validator have it. -/
def Agrees (process : Process) (version : String) (beneficiaryIds : List String) : Prop :=
  ∃ key links, process.requireMountedSecret "DP_TOKEN_KEY" = .ok key ∧
    buildTokenLinks process.environment beneficiaryIds version = .ok links ∧
      Conforms process version key beneficiaryIds links

section Agreement

variable {process : Process} {context : OperationContext}

theorem secrets_of_accepted (accepted : operationContext process.environment = .ok context) :
    ∃ key, process.requireMountedSecret "DP_TOKEN_KEY" = .ok key ∧
      process.requireMountedSecret "DP_TOKEN_KEY_VERSION" = .ok context.tokenVersion ∧
      strip isSpace context.tokenVersion ≠ "" := by
  obtain ⟨executionId, _, accepted⟩ := bind_ok accepted
  split at accepted
  next => cases accepted
  next execution _ =>
    obtain ⟨operation, _, accepted⟩ := bind_ok accepted
    split at accepted
    next => cases accepted
    next =>
      obtain ⟨operationVersion, _, accepted⟩ := bind_ok accepted
      split at accepted
      next => cases accepted
      next =>
        obtain ⟨authority, _, accepted⟩ := bind_ok accepted
        split at accepted
        next => cases accepted
        next =>
          obtain ⟨key, keyMounted, accepted⟩ := bind_ok accepted
          obtain ⟨version, versionMounted, accepted⟩ := bind_ok accepted
          split at accepted
          next => cases accepted
          next nonblank =>
            cases accepted
            exact ⟨key, keyMounted, versionMounted, by simpa using nonblank⟩

theorem buildTokenLinks_blank {key version beneficiaryId : String} {rest : List String}
    (keyMounted : process.requireMountedSecret "DP_TOKEN_KEY" = .ok key)
    (versionMounted : process.requireMountedSecret "DP_TOKEN_KEY_VERSION" = .ok version)
    (nonblank : strip isSpace version ≠ "") (blank : strip isSpace key = "")
    (identified : strip isSpace beneficiaryId ≠ "") :
    ¬ ∃ links, buildTokenLinks process.environment (beneficiaryId :: rest) version =
      .ok links := by
  rintro ⟨links, built⟩
  have inactive : process.environment.activeKey =
      .error (Process.tokenisationKeyMissing "DP_TOKEN_KEY") := by
    change process.activeKey = _
    rw [Process.activeKey_of_mounted keyMounted versionMounted nonblank, if_pos blank]
  obtain ⟨active, _, built⟩ := bind_ok built
  simp only [buildRows, String.isEmpty_iff, identified, if_false, List.not_mem_nil] at built
  obtain ⟨token, tokenised, _⟩ := bind_ok built
  obtain ⟨keyed, isKeyed, _⟩ := bind_ok tokenised
  simp [keyedToken, identified, inactive, Except.map] at isKeyed

variable {key : String} {beneficiaryIds : List String}

theorem conforms_iff
    (injective : Set.InjOn (digestOf process key) {listed | listed ∈ beneficiaryIds})
    (nodup : beneficiaryIds.Nodup) :
    Conforms process context.tokenVersion key beneficiaryIds
        (beneficiaryIds.map (linkOf process key context.tokenVersion)) ↔
      beneficiaryIds ≠ [] ∧ ':' ∉ context.tokenVersion.toList ∧
        strip isSpace context.tokenVersion = context.tokenVersion := by
  constructor
  · intro conforms
    have nonempty : beneficiaryIds ≠ [] := by
      rintro rfl
      have checked := validates_iff.mp (conforms.validated none (by simp))
      simp [checkAggregates, aggregates] at checked
    obtain ⟨beneficiaryId, listed⟩ := List.exists_mem_of_ne_nil _ nonempty
    refine ⟨nonempty, ?_, ?_⟩
    · have format := conforms.format _ (List.mem_map_of_mem listed)
      simp only [linkOf, String.append_right_inj] at format
      rw [← leftover_eq_empty_iff]
      simpa using format
    · have checked := validates_iff.mp (conforms.validated none (by simp))
      rw [List.map_map] at checked
      simp only [Function.comp_def, aggregates_links injective nodup nonempty] at checked
      simp [checkAggregates, nonempty] at checked
      exact checked
  · rintro ⟨nonempty, noColon, trimmed⟩
    refine ⟨?_, ?_, ?_, ?_⟩
    · simp [linkOf, Function.comp_def]
    · intro link listed
      obtain ⟨beneficiaryId, _, rfl⟩ := List.mem_map.mp listed
      simp [linkOf, (leftover_eq_empty_iff _).mpr noColon]
    · simpa [List.map_map, Function.comp_def] using nodup_tokens injective nodup
    · intro expectedRows expected
      rw [validates_iff, List.map_map]
      simp only [Function.comp_def, aggregates_links injective nodup nonempty]
      rcases List.mem_pair.mp expected with rfl | rfl <;>
        simp [checkAggregates, nonempty, trimmed]

theorem Agrees.usable (accepted : operationContext process.environment = .ok context)
    (injective : ∀ key, Set.InjOn (digestOf process key) {listed | listed ∈ beneficiaryIds})
    (identified : ∀ beneficiaryId ∈ beneficiaryIds, strip isSpace beneficiaryId ≠ "")
    (nodup : beneficiaryIds.Nodup) (agrees : Agrees process context.tokenVersion beneficiaryIds) :
    beneficiaryIds ≠ [] ∧ ':' ∉ context.tokenVersion.toList ∧
      strip isSpace context.tokenVersion = context.tokenVersion ∧
      ∃ key, process.requireMountedSecret "DP_TOKEN_KEY" = .ok key ∧ strip isSpace key ≠ "" := by
  obtain ⟨key, keyMounted, versionMounted, nonblank⟩ := secrets_of_accepted accepted
  obtain ⟨mounted, links, isMounted, isBuilt, conforms⟩ := agrees
  obtain rfl : key = mounted := Except.ok.inj (keyMounted.symm.trans isMounted)
  by_cases blank : strip isSpace key = ""
  · cases beneficiaryIds with
    | nil =>
        obtain rfl : links = [] := List.map_eq_nil_iff.mp conforms.ids
        have checked := validates_iff.mp (conforms.validated none (by simp))
        simp [checkAggregates, aggregates] at checked
    | cons beneficiaryId rest =>
        exact absurd ⟨links, isBuilt⟩ (buildTokenLinks_blank keyMounted versionMounted nonblank
          blank (identified beneficiaryId List.mem_cons_self))
  · obtain rfl := Except.ok.inj ((buildTokenLinks_eq keyMounted versionMounted nonblank blank
      identified nodup).symm.trans isBuilt)
    obtain ⟨nonempty, noColon, trimmed⟩ := (conforms_iff (injective key) nodup).mp conforms
    exact ⟨nonempty, noColon, trimmed, key, keyMounted, blank⟩

/-- The three programs agree on a batch exactly when there is one, the key is not blank, and the
version has neither a colon nor blanks around it. -/
theorem agrees_iff (accepted : operationContext process.environment = .ok context)
    (injective : ∀ key, Set.InjOn (digestOf process key) {listed | listed ∈ beneficiaryIds})
    (identified : ∀ beneficiaryId ∈ beneficiaryIds, strip isSpace beneficiaryId ≠ "")
    (nodup : beneficiaryIds.Nodup) :
    Agrees process context.tokenVersion beneficiaryIds ↔
      beneficiaryIds ≠ [] ∧ ':' ∉ context.tokenVersion.toList ∧
        strip isSpace context.tokenVersion = context.tokenVersion ∧
        ∃ key, process.requireMountedSecret "DP_TOKEN_KEY" = .ok key ∧ strip isSpace key ≠ "" := by
  constructor
  · exact Agrees.usable accepted injective identified nodup
  · rintro ⟨nonempty, noColon, trimmed, key, keyMounted, keyed⟩
    obtain ⟨mounted, isMounted, versionMounted, nonblank⟩ := secrets_of_accepted accepted
    exact ⟨key, _, keyMounted,
      buildTokenLinks_eq keyMounted versionMounted nonblank keyed identified nodup,
      (conforms_iff (injective key) nodup).mpr ⟨nonempty, noColon, trimmed⟩⟩

end Agreement

/-! ## Two mounts -/

/-- A process whose version file has this content. -/
def mountedProcess (version : String) : Process where
  getenv := fun name =>
    [("TRANSFORM_EXECUTION_ID", "be_0123456789abcdef0123456789abcdef"),
      ("PROTECTED_BOOTSTRAP_OPERATION", "initial_token_link_creation"),
      ("PROTECTED_BOOTSTRAP_VERSION", "1"),
      ("TRANSFORM_AUTHORITY", "restricted_identity_transform"),
      ("DP_SECRET_SOURCE", "mounted-files"), ("DP_SECRET_DIR", "/run/secrets")].lookup name
  secretDirectory := fun directory => .ok directory
  file := fun _ name => .holding
    (if name = "DP_TOKEN_KEY_VERSION" then version.toList else "mounted-key\n".toList)
  hmac := fun _ message =>
    if message = "gate2-beneficiary||BEN-000001" then
      "1ed2af428d99cd4cb263d7d8658697ff2a101b5c13bae5a6bff3ed5f56ffc6ec"
    else "ddd5cea5f874262a609c615e5f78c40f9dd4d20ab01889672c95bd0899ebd2cc"
  now := "2026-01-01T00:00:00+00:00"
  withinWarehouse := fun _ => .ok ()

theorem mountedDigests_injOn (version key : String) :
    Set.InjOn (digestOf (mountedProcess version) key)
      {listed | listed ∈ ["BEN-000001", "BEN-000002"]} := by
  have differ : digestOf (mountedProcess "") "" "BEN-000001" ≠
      digestOf (mountedProcess "") "" "BEN-000002" := by
    decide +kernel
  intro beneficiaryId listed other otherListed same
  rcases List.mem_pair.mp listed with rfl | rfl <;> rcases List.mem_pair.mp otherListed with rfl | rfl
  · rfl
  · exact absurd same differ
  · exact absurd same.symm differ
  · rfl

theorem exists_mountedContext {content version : String}
    (mapped : (operationContext (mountedProcess content).environment).map
      OperationContext.tokenVersion = .ok version) :
    ∃ context, operationContext (mountedProcess content).environment = .ok context ∧
      context.tokenVersion = version := by
  cases accepted : operationContext (mountedProcess content).environment with
  | error fault =>
      rw [accepted] at mapped
      cases mapped
  | ok context =>
      rw [accepted] at mapped
      exact ⟨context, rfl, Except.ok.inj mapped⟩

/-- `v1` and a line end. -/
theorem agrees_v1 : Agrees (mountedProcess "v1\n") "v1" ["BEN-000001", "BEN-000002"] := by
  obtain ⟨context, accepted, isVersion⟩ :=
    @exists_mountedContext "v1\n" "v1" (by decide +kernel)
  have agreed := (agrees_iff accepted (mountedDigests_injOn "v1\n") (by decide +kernel)
    (by decide +kernel)).mpr
  rw [isVersion] at agreed
  exact agreed ⟨by decide, by decide +kernel, by decide +kernel, "mounted-key",
    by decide +kernel, by decide +kernel⟩

/-- With a colon in it the version comes twice into a token. -/
theorem colon_not_agrees :
    ¬ ∀ process context beneficiaryIds, operationContext process.environment = .ok context →
      (∀ key, Set.InjOn (digestOf process key) {listed | listed ∈ beneficiaryIds}) →
        (∀ beneficiaryId ∈ beneficiaryIds, strip isSpace beneficiaryId ≠ "") →
          beneficiaryIds.Nodup → beneficiaryIds ≠ [] →
            Agrees process context.tokenVersion beneficiaryIds := by
  intro always
  obtain ⟨context, accepted, isVersion⟩ :=
    @exists_mountedContext "v:1" "v:1" (by decide +kernel)
  have agreed := always _ context ["BEN-000001", "BEN-000002"] accepted
    (mountedDigests_injOn "v:1") (by decide +kernel) (by decide +kernel) (by decide)
  obtain ⟨_, noColon, _⟩ := agreed.usable accepted (mountedDigests_injOn "v:1")
    (by decide +kernel) (by decide +kernel)
  rw [isVersion] at noColon
  exact noColon (by decide +kernel)

end PaymentsPlatform.TransformRuntime.TokenLink
