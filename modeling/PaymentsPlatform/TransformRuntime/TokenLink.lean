import Mathlib.Data.List.Dedup
import Mathlib.Data.List.Infix
import Mathlib.Data.String.Basic
import PaymentsPlatform.Ingestion.SourceRecord
import PaymentsPlatform.Library.RelyGuarantee

/-!
# Creation of the token link

`materialise_token_link.py` and what it takes from `tokeniser_job.py`: the child process that
publishes the restricted token link.  It stages a table, validates it and renames it into its
place; every statement is one of Trino or DuckDB, on a catalog that other children share.
-/

namespace PaymentsPlatform.TransformRuntime.TokenLink

open Ingestion (strip isSpace)
open RelyGuarantee

/-- `in`, of two texts. -/
def contains (needle text : String) : Bool := decide (needle.toList <:+: text.toList)

def quote : Char := Char.ofNat 39

def hexadecimalDigits : List Char := "0123456789abcdef".toList

/-- A text that `EXECUTION_RE` matches in full. -/
structure ExecutionId where
  digits : List Char
  length : digits.length = 32
  hexadecimal : ∀ digit ∈ digits, digit ∈ hexadecimalDigits
  deriving DecidableEq

namespace ExecutionId

def text (execution : ExecutionId) : String := "be_" ++ String.ofList execution.digits

/-- `EXECUTION_RE.fullmatch`. -/
def fullmatch (text : String) : Option ExecutionId :=
  match text.toList with
  | 'b' :: 'e' :: '_' :: digits =>
      if matched : digits.length = 32 ∧ digits.all (· ∈ hexadecimalDigits) then
        some ⟨digits, matched.1, by simpa using matched.2⟩
      else none
  | _ => none

/-- `f"__bootstrap_{execution_id.removeprefix('be_')}"`. -/
def stagingTable (execution : ExecutionId) : String :=
  "__bootstrap_" ++ String.ofList execution.digits

/-- The `COMMENT` that a staging table is created with. -/
def marker (execution : ExecutionId) : String := "protected-bootstrap:" ++ execution.text

end ExecutionId

inductive Fault where
  | runtimeError (text : String)
  | valueError (text : String)
  | tokenisationVersionMissing (text : String)
  | publicationIndeterminate (text : String)
  /-- What Trino, DuckDB or a library raises. -/
  | outside (text : String)
  deriving DecidableEq

/-! ## The catalog -/

structure Relation where
  catalog : String
  schema : String
  table : String
  deriving DecidableEq

def governed (table : String) : Relation := ⟨"iceberg", "silver_vault", table⟩

/-- `TABLE`. -/
def finalTable : String := "vlt_pdm_beneficiary_token_link"

/-- A relation as a statement names it. -/
inductive Target where
  | qualified (relation : Relation)
  | bare (table : String)
  deriving DecidableEq

/-- `TARGET`. -/
def finalTarget : Target := .qualified (governed finalTable)

/-- `target.rsplit(".", 1)[-1]`. -/
def Target.table : Target → String
  | .qualified relation => relation.table
  | .bare table => table

/-- A bare name is looked up in the catalog and the schema of the session, if it has them. -/
def Target.resolve (session : Option (String × String)) : Target → Option Relation
  | .qualified relation => some relation
  | .bare table => session.map fun names => ⟨names.1, names.2, table⟩

/-- A row of a token link as the table holds it. -/
structure Row where
  beneficiaryId : Option String
  beneficiaryKeyInternal : Option String
  tokenVersion : Option String
  beneficiaryToken : Option String
  isActive : Option Bool
  generatedAt : Option String
  deriving DecidableEq

def Row.complete (row : Row) : Bool :=
  row.beneficiaryId.isSome && row.beneficiaryKeyInternal.isSome && row.tokenVersion.isSome &&
    row.beneficiaryToken.isSome && row.isActive.isSome && row.generatedAt.isSome

/-- `EXPECTED_COLUMNS`. -/
def expectedColumns : List (String × String) :=
  [("beneficiary_id", "varchar"), ("beneficiary_key_internal", "varchar"),
    ("token_version", "varchar"), ("beneficiary_token", "varchar"), ("is_active", "boolean"),
    ("generated_at", "varchar")]

/-- A table, with the execution whose `CREATE TABLE` it goes back to; no statement reads that. -/
structure Table where
  comment : Option String
  location : String
  columns : List (String × String)
  rows : List Row
  creator : Option ExecutionId
  deriving DecidableEq

/-- The tables and the files that all children share. -/
structure Store where
  tables : Relation → Option Table
  files : String → Option (List Row)

def Store.setTable (store : Store) (relation : Relation) (table : Option Table) : Store :=
  { store with tables := Function.update store.tables relation table }

/-- `value.replace("'", "''")`. -/
def doubled : List Char → List Char
  | [] => []
  | character :: rest =>
      if character = quote then quote :: quote :: doubled rest else character :: doubled rest

/-- The columns as `SHOW CREATE TABLE` lists them. -/
def shownColumns (columns : List (String × String)) : List Char :=
  ",\n".toList.intercalate (columns.map fun column =>
    "   ".toList ++ column.1.toList ++ " ".toList ++ column.2.toList)

/-- What `SHOW CREATE TABLE` prints, parted at its quotes. -/
def shownParts (relation : Relation) (table : Table) : List (List Char) :=
  let head := "CREATE TABLE ".toList ++ relation.catalog.toList ++ ".".toList ++
    relation.schema.toList ++ ".".toList ++ relation.table.toList ++ " (\n".toList ++
      shownColumns table.columns ++ "\n)\n".toList
  (match table.comment with
    | none => [head ++ "WITH (\n   format = ".toList]
    | some comment =>
        [head ++ "COMMENT ".toList, doubled comment.toList, "\nWITH (\n   format = ".toList]) ++
  ["PARQUET".toList, ",\n   format_version = 2,\n   location = ".toList,
    doubled table.location.toList, "\n)".toList]

def showCreateTable (relation : Relation) (table : Table) : List Char :=
  [quote].intercalate (shownParts relation table)

/-- A location as the catalog chooses it for a new table: under the warehouse, where no path has
a bootstrap marker in it. -/
structure Location where
  text : String
  unmarked : ¬ "protected-bootstrap:".toList <:+: text.toList

/-- What the servers decide by themselves. -/
structure Choice where
  /-- The answer to the query of the source. -/
  identifiers : List String
  location : Location

/-- The counts of one query over a token link. -/
structure Aggregates where
  rows : Nat
  ids : Nat
  tokens : Nat
  active : Nat
  nulls : Nat
  versions : Nat
  version : Option String
  deriving DecidableEq

/-- `count(DISTINCT column)`. -/
def distinct (column : Row → Option String) (rows : List Row) : Nat :=
  (rows.filterMap column).dedup.length

def aggregates (rows : List Row) : Aggregates where
  rows := rows.length
  ids := distinct Row.beneficiaryId rows
  tokens := distinct Row.beneficiaryToken rows
  active := rows.countP fun row => row.isActive = some true
  nulls := rows.countP fun row => !row.complete
  versions := distinct Row.tokenVersion rows
  version := (rows.filterMap Row.tokenVersion).min?

inductive Statement where
  | selectOne
  | relationCount (table : String)
  | selectIdentifiers
  | createSchema
  | createTable (target : Target) (execution : ExecutionId)
  | showCreate (target : Target)
  /-- A connection, or a step of DuckDB that touches nothing shared. -/
  | prepareOutside
  | copy (path : String) (rows : List Row)
  | addFiles (target : Target) (path : String)
  | columns (table : String)
  | aggregate (target : Target)
  | rename (target : Target) (table : String)
  | drop (target : Target)

inductive Reply where
  | nothing
  | count (number : Nat)
  | texts (rows : List String)
  | columns (rows : List (String × String))
  | aggregates (row : Aggregates)

/-- The relation that a target names, with its table. -/
def Store.find (session : Option (String × String)) (store : Store) (target : Target) :
    Except Fault (Relation × Table) :=
  match target.resolve session with
  | none => .error (.outside "Schema must be specified when session schema is not set")
  | some relation =>
      match store.tables relation with
      | none => .error (.outside "Table does not exist")
      | some table => .ok (relation, table)

/-- What a statement does; each is atomic. -/
def perform (session : Option (String × String)) (choice : Choice) :
    Statement → Store → Except Fault (Store × Reply)
  | .selectOne, store => .ok (store, .count 1)
  | .relationCount table, store =>
      .ok (store, .count (if (store.tables (governed table)).isSome then 1 else 0))
  | .selectIdentifiers, store => .ok (store, .texts choice.identifiers)
  | .createSchema, store => .ok (store, .nothing)
  | .createTable target execution, store =>
      match target.resolve session with
      | none => .error (.outside "Schema must be specified when session schema is not set")
      | some relation =>
          match store.tables relation with
          | some _ => .error (.outside "Table already exists")
          | none =>
              .ok (store.setTable relation (some
                { comment := some execution.marker
                  location := choice.location.text
                  columns := expectedColumns
                  rows := []
                  creator := some execution }), .nothing)
  | .showCreate target, store =>
      (store.find session target).map fun found =>
        (store, .texts [String.ofList (showCreateTable found.1 found.2)])
  | .prepareOutside, store => .ok (store, .nothing)
  | .copy path rows, store =>
      .ok ({ store with files := Function.update store.files path (some rows) }, .nothing)
  | .addFiles target path, store =>
      match store.find session target, store.files path with
      | .ok (relation, table), some rows =>
          .ok (store.setTable relation (some { table with rows := table.rows ++ rows }), .nothing)
      | .ok _, none => .error (.outside "Location does not exist")
      | .error fault, _ => .error fault
  | .columns table, store =>
      .ok (store, .columns (((store.tables (governed table)).map Table.columns).getD []))
  | .aggregate target, store =>
      match store.find session target with
      | .error fault => .error fault
      | .ok (_, table) =>
          if expectedColumns.map Prod.fst ⊆ table.columns.map Prod.fst then
            .ok (store, .aggregates (aggregates table.rows))
          else .error (.outside "Column cannot be resolved")
  | .rename target table, store =>
      match store.find session target with
      | .error fault => .error fault
      | .ok (relation, found) =>
          match store.tables { relation with table := table } with
          | some _ => .error (.outside "Target table already exists")
          | none =>
              .ok ((store.setTable relation none).setTable { relation with table := table }
                (some found), .nothing)
  -- `IF EXISTS`
  | .drop target, store =>
      match target.resolve session with
      | none => .error (.outside "Schema must be specified when session schema is not set")
      | some relation => .ok (store.setTable relation none, .nothing)

/-! ## The environment -/

/-- What a child finds around it. -/
structure Environment where
  getenv : String → Option String
  requireMountedSecret : String → Except Fault String
  /-- `_active_key()`: the key and its version. -/
  activeKey : Except Fault (String × String)
  /-- HMAC-SHA256, in hexadecimal. -/
  hmac : String → String → String
  /-- `datetime.now(timezone.utc).isoformat()`. -/
  now : String
  /-- The comparison of a location's parts with `NESSIE_WAREHOUSE` and `OBJECT_STORE_BUCKET`. -/
  withinWarehouse : String → Except Fault Unit

def requireEnv (environment : Environment) (name : String) : Except Fault String :=
  let value := (environment.getenv name).getD ""
  if (strip isSpace value).isEmpty then
    .error (.runtimeError (name ++ " is required; fail closed"))
  else .ok value

structure OperationContext where
  executionId : ExecutionId
  stagingTable : String
  tokenVersion : String
  owned : stagingTable = executionId.stagingTable

/-- `staging_target`. -/
def OperationContext.stagingTarget (context : OperationContext) : Target :=
  .qualified (governed context.stagingTable)

def operationContext (environment : Environment) : Except Fault OperationContext := do
  let executionId ← requireEnv environment "TRANSFORM_EXECUTION_ID"
  match ExecutionId.fullmatch executionId with
  | none => .error (.runtimeError "invalid governed transform execution identity")
  | some executionId =>
      let operation ← requireEnv environment "PROTECTED_BOOTSTRAP_OPERATION"
      if operation ≠ "initial_token_link_creation" then
        .error (.runtimeError "invalid protected bootstrap operation identity")
      else
        let version ← requireEnv environment "PROTECTED_BOOTSTRAP_VERSION"
        if version ≠ "1" then
          .error (.runtimeError "invalid protected bootstrap operation version")
        else
          let authority ← requireEnv environment "TRANSFORM_AUTHORITY"
          if authority ≠ "restricted_identity_transform" then
            .error (.runtimeError "invalid protected bootstrap authority")
          else
            let _ ← environment.requireMountedSecret "DP_TOKEN_KEY"
            let tokenVersion ← environment.requireMountedSecret "DP_TOKEN_KEY_VERSION"
            if (strip isSpace tokenVersion).isEmpty then
              .error (.runtimeError "DP_TOKEN_KEY_VERSION is required; fail closed")
            else .ok ⟨executionId, executionId.stagingTable, tokenVersion, rfl⟩

/-! ## The links -/

structure TokenLinkRow where
  beneficiaryId : String
  beneficiaryKeyInternal : String
  tokenVersion : String
  beneficiaryToken : String
  isActive : Bool
  generatedAt : String

def TokenLinkRow.stored (link : TokenLinkRow) : Row :=
  ⟨some link.beneficiaryId, some link.beneficiaryKeyInternal, some link.tokenVersion,
    some link.beneficiaryToken, some link.isActive, some link.generatedAt⟩

/-- `_require_version`. -/
def requireVersion (version : String) : Except Fault String :=
  if (strip isSpace version).isEmpty then
    .error (.tokenisationVersionMissing
      "DP_TOKEN_KEY_VERSION is not configured; tokenisation is mandatory so fail closed")
  else .ok (strip isSpace version)

/-- `keyed_token`. -/
def keyedToken (environment : Environment) (value context : String) :
    Except Fault (Option String) :=
  if (strip isSpace value).isEmpty then .ok none
  else environment.activeKey.map fun active =>
    some (active.2 ++ ":" ++ environment.hmac active.1 (context ++ "||" ++ value))

/-- `token.split(":", 1)[1]`. -/
def digest (token : String) : Except Fault String :=
  match token.toList.dropWhile (· ≠ ':') with
  | [] => .error (.outside "list index out of range")
  | _ :: rest => .ok (String.ofList rest)

def canonicalTokenFor (environment : Environment) (beneficiaryId version : String) :
    Except Fault String := do
  match ← keyedToken environment beneficiaryId "gate2-beneficiary" with
  | none => .error (.valueError "beneficiary_id must be a non-empty canonical identifier")
  | some token =>
      let version ← requireVersion version
      let found ← digest token
      .ok (version ++ ":" ++ found)

/-- The loop of `build_token_links`, with the identifiers seen so far. -/
def buildRows (environment : Environment) (version : String) (seen : List String) :
    List String → Except Fault (List TokenLinkRow)
  | [] => .ok []
  | beneficiaryId :: rest =>
      if (strip isSpace beneficiaryId).isEmpty then
        .error (.valueError "beneficiary_id must be a non-empty canonical identifier")
      else if beneficiaryId ∈ seen then
        .error (.valueError ("duplicate beneficiary_id in tokenisation batch: " ++ beneficiaryId))
      else do
        let token ← canonicalTokenFor environment beneficiaryId version
        let later ← buildRows environment version (beneficiaryId :: seen) rest
        .ok (⟨beneficiaryId, "internal:" ++ beneficiaryId, version, token, true,
          environment.now⟩ :: later)

def buildTokenLinks (environment : Environment) (beneficiaryIds : List String)
    (version : String) : Except Fault (List TokenLinkRow) := do
  let activeVersion ← requireVersion version
  buildRows environment activeVersion [] beneficiaryIds

/-! ## The location in `SHOW CREATE TABLE` -/

/-- `location`, in lower or upper case; the regular expression takes the letters `İ` and `ı` for
an `i` as well. -/
def literal : List Char → List Char → Option (List Char)
  | [], text => some text
  | expected :: more, character :: rest =>
      if character = expected ∨ character = expected.toUpper ∨
          (expected = 'i' ∧ character ∈ [Char.ofNat 0x130, Char.ofNat 0x131]) then
        literal more rest
      else none
  | _ :: _, [] => none

/-- `((?:[^']|'')*)'`: the longest run of characters and doubled quotes that a quote follows,
with the text after it. -/
def quoted : List Char → Option (List Char × List Char)
  | [] => none
  | character :: rest =>
      if character = quote then
        match rest with
        | [] => some ([], rest)
        | second :: later =>
            if second = quote then
              match quoted later with
              | some (content, left) => some (quote :: quote :: content, left)
              | none => some ([], rest)
            else some ([], rest)
      else (quoted rest).map fun found => (character :: found.1, found.2)

/-- `location\s*=\s*'((?:[^']|'')+)'` at the start of the text. -/
def matchLocation (text : List Char) : Option (List Char × List Char) := do
  let rest ← literal "location".toList text
  match rest.dropWhile isSpace with
  | '=' :: rest =>
      match rest.dropWhile isSpace with
      | opening :: rest =>
          if opening = quote then
            match quoted rest with
            | some (first :: content, left) => some (first :: content, left)
            | _ => none
          else none
      | [] => none
  | _ => none

/-- `re.findall`; a match is skipped as a whole. -/
def findLocations (skipped : Nat) : List Char → List (List Char)
  | [] => []
  | character :: rest =>
      match skipped with
      | more + 1 => findLocations more rest
      | 0 =>
          match matchLocation (character :: rest) with
          | some (content, left) => content :: findLocations (rest.length - left.length) rest
          | none => findLocations 0 rest

/-- `value.replace("''", "'")`. -/
def undoubled : List Char → List Char
  | first :: second :: rest =>
      if first = quote ∧ second = quote then quote :: undoubled rest
      else first :: undoubled (second :: rest)
  | rest => rest

/-! ## The child -/

abbrev Script := Program Statement Reply Fault

/-- `re.fullmatch(r"[a-z_][a-z0-9_]*", table)`. -/
def governedName (table : String) : Bool :=
  match table.toList with
  | [] => false
  | first :: rest =>
      (first.isLower || first = '_') && rest.all fun c => c.isLower || c.isDigit || c = '_'

def relationExists (table : String) : Script Bool := do
  if governedName table then
    match ← Program.ask (.relationCount table) with
    | .count 0 => pure false
    | .count 1 => pure true
    | _ => Program.raise (.runtimeError "ambiguous restricted token-link table state")
  else Program.raise (.runtimeError "invalid governed relation name")

/-- `_show_create`. -/
def showCreate (target : Target) : Script String := do
  match ← Program.ask (.showCreate target) with
  | .texts rows => pure ("\n".intercalate rows)
  | _ => Program.raise (.outside "the cursor has no rows")

/-- `_table_location`. -/
def tableLocation (environment : Environment) (target : Target) : Script String := do
  let text ← showCreate target
  match findLocations 0 text.toList with
  | [found] =>
      let location := String.ofList ((undoubled found).reverse.dropWhile (· = '/')).reverse
      Program.lift ((environment.withinWarehouse location).map fun _ => location)
  | _ => Program.raise (.runtimeError "ambiguous Iceberg table location")

/-- The checks of `validate_table` on the counts. -/
def checkAggregates (row : Aggregates) (expectedRows : Option Nat)
    (expectedVersion : Option String) : Except Fault Nat :=
  if row.rows = 0 ∨ row.rows ≠ row.ids ∨ row.rows ≠ row.tokens ∨ row.rows ≠ row.active ∨
      row.nulls ≠ 0 ∨ row.versions ≠ 1 then
    .error (.runtimeError "token-link physical contract validation failed")
  else if ∃ expected ∈ expectedRows, row.rows ≠ expected then
    .error (.runtimeError "token-link population mismatch")
  else if ∃ expected ∈ expectedVersion, row.version ≠ some expected then
    .error (.runtimeError "token-link version contract validation failed")
  else .ok row.rows

def validateTable (target : Target) (expectedRows : Option Nat)
    (expectedVersion : Option String) : Script Nat := do
  match ← Program.ask (.columns target.table) with
  | .columns found =>
      if found.map (fun column => (column.1, column.2.toLower)) = expectedColumns then
        match ← Program.ask (.aggregate target) with
        | .aggregates row => Program.lift (checkAggregates row expectedRows expectedVersion)
        | _ => Program.raise (.runtimeError "token-link validation result is invalid")
      else Program.raise (.runtimeError "token-link schema contract validation failed")
  | _ => Program.raise (.outside "the cursor has no rows")

/-- `_provenance_matches`. -/
def provenanceMatches (environment : Environment) (target : Target)
    (context : OperationContext) : Script Bool := do
  let text ← showCreate target
  if contains context.executionId.marker text then
    let location ← tableLocation environment target
    pure (contains context.stagingTable location)
  else pure false

inductive Publication where
  | published
  | staged
  deriving DecidableEq

def reconcilePublication (environment : Environment) (context : OperationContext)
    (expectedRows : Option Nat) : Script Publication := do
  let finalExists ← relationExists finalTable
  let stagingExists ← relationExists context.stagingTable
  if finalExists && !stagingExists then
    if ← provenanceMatches environment finalTarget context then
      let _ ← validateTable finalTarget expectedRows (some context.tokenVersion)
      pure .published
    else Program.raise (.publicationIndeterminate
      "final relation provenance is not owned by this execution")
  else if stagingExists && !finalExists then pure .staged
  else Program.raise (.publicationIndeterminate
    "publication state requires governed reconciliation")

/-- `_drop_owned_staging`. -/
def dropOwnedStaging (context : OperationContext) : Script Unit := do
  if context.stagingTable ≠ context.executionId.stagingTable then
    Program.raise (.runtimeError "staging ownership cannot be proven")
  else
    let _ ← Program.ask (.drop context.stagingTarget)
    pure ()

/-- `main` from its connection to `CREATE TABLE`, with the number of identifiers and the links. -/
def prepare (environment : Environment) (context : OperationContext) :
    Script (Nat × List TokenLinkRow) := do
  let _ ← Program.lift (requireEnv environment "RESTRICTED_TRANSFORM_S3_ACCESS_KEY_ID")
  let _ ← Program.lift (requireEnv environment "RESTRICTED_TRANSFORM_S3_SECRET_ACCESS_KEY")
  let _ ← Program.ask .prepareOutside
  match ← Program.ask .selectOne with
  | .count 1 =>
      if ← relationExists finalTable then
        Program.raise (.runtimeError "target token-link already exists; refusing replacement")
      else if ← relationExists context.stagingTable then
        Program.raise (.runtimeError "staging exists; reconciliation required")
      else
        match ← Program.ask .selectIdentifiers with
        | .texts identifiers =>
            if identifiers = [] ∨ ¬ identifiers.Nodup then
              Program.raise (.runtimeError "canonical beneficiary IDs are absent or duplicated")
            else
              let links ← Program.lift
                (buildTokenLinks environment identifiers context.tokenVersion)
              if links.length ≠ identifiers.length then
                Program.raise (.runtimeError "token-link population mismatch")
              else
                let _ ← Program.ask .createSchema
                let _ ← Program.ask (.createTable context.stagingTarget context.executionId)
                pure (identifiers.length, links)
        | _ => Program.raise (.outside "the cursor has no rows")
  | _ => Program.raise (.runtimeError "private Trino readiness result is invalid")

/-- `main` from `staging_created` up to `publication_attempted`. -/
def stage (environment : Environment) (context : OperationContext) (rows : Nat)
    (links : List TokenLinkRow) : Script Unit := do
  let location ← tableLocation environment context.stagingTarget
  let parquet := location ++ "/data/" ++ context.executionId.text ++ "-" ++ finalTable ++ ".parquet"
  -- the DuckDB writer and its table
  let _ ← Program.ask .prepareOutside
  let _ ← Program.ask (.copy parquet (links.map TokenLinkRow.stored))
  let _ ← Program.ask (.addFiles context.stagingTarget parquet)
  let _ ← validateTable (.bare context.stagingTable) (some rows) (some context.tokenVersion)
  if ← relationExists finalTable then
    Program.raise
      (.runtimeError "target appeared before publication; refusing replacement")
  else pure ()

/-- `RENAME`, with what `reconcile_publication` reports where it fails. -/
def renameStaged (environment : Environment) (context : OperationContext) (rows : Nat) :
    Script (Option Publication) := do
  match ← (Program.ask (.rename context.stagingTarget finalTable)).attempt with
  | .ok _ => pure none
  | .error _ =>
      let found ← reconcilePublication environment context (some rows)
      pure (some found)

/-- `main` from `RENAME` to its end. -/
def conclude (environment : Environment) (context : OperationContext) (rows : Nat)
    (reported : Option Publication) : Script Unit := do
  if reported = some .staged then
    Program.raise (.publicationIndeterminate "publication incomplete; blind retry forbidden")
  else
    let _ ← validateTable finalTarget (some rows) (some context.tokenVersion)
    if ← provenanceMatches environment finalTarget context then pure ()
    else Program.raise (.publicationIndeterminate
      "published relation provenance validation failed")

/-- `except Exception` of `main` for a staged table that was not to be published yet. -/
def cleanUp (context : OperationContext) : Script Unit := do
  if ← relationExists context.stagingTable then dropOwnedStaging context else pure ()

/-- Whether the statements of `except Exception` were due and succeeded. -/
inductive Cleanup where
  | notDue
  | succeeded
  | failed
  deriving DecidableEq

/-- What `main` raises, with its two flags as they stand. -/
structure Raised where
  fault : Fault
  stagingCreated : Bool
  publicationAttempted : Bool
  cleanup : Cleanup
  /-- What `reconcile_publication` has reported. -/
  reported : Option Publication
  deriving DecidableEq

/-- How a child ends by itself: `main` returns 0 or raises. -/
inductive Ending where
  | passed
  | raised (raised : Raised)
  deriving DecidableEq

/-- `main` in the mode `reconcile`. -/
def reconcile (environment : Environment) (context : OperationContext) : Script Ending := do
  let outcome ← Program.attempt do
    let _ ← Program.ask .prepareOutside
    reconcilePublication environment context none
  match outcome with
  | .ok .published => pure .passed
  | .ok .staged => pure (.raised ⟨.publicationIndeterminate "publication is not complete", false,
      false, .notDue, some .staged⟩)
  | .error fault => pure (.raised ⟨fault, false, false, .notDue, none⟩)

/-- `main` in every other mode.  The two flags are told by how far it has come. -/
def create (environment : Environment) (context : OperationContext) : Script Ending := do
  match ← (prepare environment context).attempt with
  | .error fault => pure (.raised ⟨fault, false, false, .notDue, none⟩)
  | .ok (rows, links) =>
      match ← (stage environment context rows links).attempt with
      | .error fault =>
          match ← (cleanUp context).attempt with
          | .error later => pure (.raised ⟨later, true, false, .failed, none⟩)
          | .ok () => pure (.raised ⟨fault, true, false, .succeeded, none⟩)
      | .ok () =>
          match ← (renameStaged environment context rows).attempt with
          | .error fault => pure (.raised ⟨fault, true, true, .notDue, none⟩)
          | .ok reported =>
              match ← (conclude environment context rows reported).attempt with
              | .error fault => pure (.raised ⟨fault, true, true, .notDue, reported⟩)
              | .ok () => pure .passed

/-- `PROTECTED_BOOTSTRAP_MODE`. -/
def reconciles (environment : Environment) : Bool :=
  (environment.getenv "PROTECTED_BOOTSTRAP_MODE").getD "create" = "reconcile"

def main (environment : Environment) : Script Ending :=
  match operationContext environment with
  | .error fault => pure (.raised ⟨fault, false, false, .notDue, none⟩)
  | .ok context =>
      if reconciles environment then reconcile environment context
      else create environment context

end PaymentsPlatform.TransformRuntime.TokenLink
