import Mathlib.Algebra.GroupWithZero.Nat
import PaymentsPlatform.TransformRuntime.ChildCommands
import PaymentsPlatform.TransformRuntime.TokenLink

/-!
# Publication of a Bronze model

`execute_model` of `raw_to_bronze_executor.py`: DuckDB writes the rows of a model to a Parquet
file inside the location of its Iceberg table, and Trino registers that file.  Any number of
invocations work on the table of one model, a statement at a time.
-/

namespace PaymentsPlatform.TransformRuntime.RawToBronze

open Ingestion (isSpace strip)
open RelyGuarantee
open ChildCommands (isIdentity)
open TokenLink (contains matchLocation undoubled)

inductive Fault where
  | runtimeError (text : String)
  | ambiguousPublicationState (text : String)
  /-- A `duckdb.HTTPException` that says `HTTP 404` and `Not Found`. -/
  | notFound
  /-- What Trino, DuckDB or a library raises. -/
  | outside (text : String)
  deriving DecidableEq

/-- The name of a column and its type. -/
abbrev Column := String × String

/-! ## The table and the files -/

/-- The table of the model, with the invocation whose `CREATE TABLE` it goes back to; no statement
reads that.  It is `none` where the table is older than the invocations. -/
structure Table (Client : Type) where
  /-- The rows of `SHOW CREATE TABLE`. -/
  shown : List (List (Option String))
  /-- The rows of `DESCRIBE`. -/
  columns : List Column
  /-- The rows of the table's `$files`: a path and a record count. -/
  files : List (String × Nat)
  creator : Option Client

/-- The table on the branch of the run, and how many rows each Parquet file has. -/
structure Store (Client : Type) where
  table : Option (Table Client)
  objects : String → Option Nat

/-- What the servers decide by themselves. -/
structure Choice where
  /-- How the new table is shown, its location among the rest. -/
  shown : List (List (Option String))
  columns : List Column
  /-- How many rows the query of the model has at this moment. -/
  rows : Nat

inductive Statement (Client : Type) where
  | tableCount
  | createTable (definitions : List Column) (sender : Client)
  | showCreate
  | registeredFiles
  | parquetMetadata (path : String)
  | copy (path : String)
  | addFiles (path : String)
  | describe
  | rowCount

inductive Reply where
  | nothing
  | count (number : Nat)
  | shown (rows : List (List (Option String)))
  | columns (rows : List Column)
  | files (rows : List (String × Nat))

variable {Client : Type}

def newTable (choice : Choice) (creator : Client) : Table Client where
  shown := choice.shown
  columns := choice.columns
  files := []
  creator := some creator

def Table.add (table : Table Client) (path : String) (rows : Nat) : Table Client :=
  { table with files := table.files ++ [(path, rows)] }

/-- The rows of the registered files. -/
def Store.rowsOf (store : Store Client) (table : Table Client) : Option Nat :=
  (table.files.mapM fun file => store.objects file.1).map List.sum

/-- What a statement that needs the table replies. -/
def Store.fromTable (store : Store Client) (reply : Table Client → Except Fault Reply) :
    Except Fault (Store Client × Reply) :=
  match store.table with
  | none => .error (.outside "Table does not exist")
  | some table => (reply table).map fun reply => (store, reply)

/-- What a statement does; each is atomic. -/
def perform (choice : Choice) :
    Statement Client → Store Client → Except Fault (Store Client × Reply)
  | .tableCount, store => .ok (store, .count (if store.table.isSome then 1 else 0))
  | .createTable _ sender, store =>
      match store.table with
      | some _ => .error (.outside "Table already exists")
      | none => .ok ({ store with table := some (newTable choice sender) }, .nothing)
  | .showCreate, store => store.fromTable fun table => .ok (.shown table.shown)
  | .registeredFiles, store => store.fromTable fun table => .ok (.files table.files)
  | .parquetMetadata path, store =>
      if (store.objects path).isSome then .ok (store, .nothing) else .error .notFound
  | .copy path, store =>
      .ok ({ store with objects := Function.update store.objects path (some choice.rows) },
        .nothing)
  | .addFiles path, store =>
      match store.table, store.objects path with
      | some table, some rows =>
          .ok ({ store with table := some (table.add path rows) }, .nothing)
      | none, _ => .error (.outside "Table does not exist")
      | _, none => .error (.outside "Location does not exist")
  | .describe, store => store.fromTable fun table => .ok (.columns table.columns)
  | .rowCount, store => store.fromTable fun table =>
      match store.rowsOf table with
      | some rows => .ok (.count rows)
      | none => .error (.outside "File does not exist")

/-! ## An invocation -/

structure SplitUrl where
  scheme : String
  netloc : String
  path : String
  query : String
  fragment : String
  username : Option String
  password : Option String
  hostname : Option String
  port : Option Nat

/-- What an invocation finds around it. -/
structure Invocation where
  environ : String → Option String
  /-- What the model's query is found to be: the number of its rows, and their columns. -/
  transformed : Except Fault (Nat × List Column)
  /-- `urlsplit` and the port of its result; `none` is a `ValueError`. -/
  urlsplit : String → Option SplitUrl
  unquote : String → String
  upper : String → String
  /-- `\w` and `\d`. -/
  isWord : Char → Bool
  isDigit : Char → Bool

namespace Invocation

variable (invocation : Invocation)

def requiredEnvironment (name : String) : Except Fault String :=
  let value := strip isSpace ((invocation.environ name).getD "")
  if value = "" then
    .error (.runtimeError ("required environment variable is unavailable: " ++ name))
  else .ok value

/-- `" ".join(value.upper().split())`. -/
def normalised (value : String) : String :=
  " ".intercalate
    ((((invocation.upper value).toList.splitOnP isSpace).filter (· ≠ [])).map String.ofList)

/-- `re.fullmatch(r"DECIMAL\(\d+,\s*\d+\)", value)`. -/
def isDecimal (value : String) : Bool :=
  let stem := "DECIMAL(".toList
  let inner := value.toList.drop stem.length
  let second := ((inner.dropWhile invocation.isDigit).drop 1).dropWhile isSpace
  stem.isPrefixOf value.toList ∧ inner.takeWhile invocation.isDigit ≠ [] ∧
    (inner.dropWhile invocation.isDigit).head? = some ',' ∧
    second.takeWhile invocation.isDigit ≠ [] ∧ second.dropWhile invocation.isDigit = [')']

def trinoType (duckdbType : String) : Except Fault String :=
  let value := invocation.normalised duckdbType
  let direct :=
    [("BOOLEAN", "BOOLEAN"), ("TINYINT", "TINYINT"), ("SMALLINT", "SMALLINT"),
      ("INTEGER", "INTEGER"), ("BIGINT", "BIGINT"), ("FLOAT", "REAL"), ("REAL", "REAL"),
      ("DOUBLE", "DOUBLE"), ("DATE", "DATE"), ("VARCHAR", "VARCHAR"), ("BLOB", "VARBINARY"),
      ("UUID", "UUID")]
  match direct.lookup value with
  | some found => .ok found
  | none =>
      if invocation.isDecimal value then .ok (String.ofList (value.toList.filter (· ≠ ' ')))
      else if "TIMESTAMP".toList.isPrefixOf value.toList then
        if contains "WITH TIME ZONE" value then .ok "TIMESTAMP(6) WITH TIME ZONE"
        else .ok "TIMESTAMP(6)"
      else .error (.runtimeError ("unsupported DuckDB Bronze column type: " ++ duckdbType))

def expectedTrinoColumns (columns : List Column) : Except Fault (List Column) :=
  columns.mapM fun column => (invocation.trinoType column.2).map fun found => (column.1, found)

/-- `re.fullmatch(r"[a-z0-9_]+", model_name)`. -/
def isModelName (modelName : String) : Bool :=
  modelName ≠ "" ∧ modelName.toList.all fun c => c.isLower || c.isDigit || c = '_'

/-- `transformation_metadata`. -/
def transformationMetadata (modelName : String) : Except Fault (Nat × List Column) := do
  if ¬ isModelName modelName then .error (.runtimeError "invalid Bronze model name")
  else
    let found ← invocation.transformed
    if found.2 = [] then .error (.runtimeError ("Bronze model has no columns: " ++ modelName))
    else .ok found

def invalidLocation : Fault := .runtimeError "invalid Iceberg table location"

def validateS3Root (value expectedBucket : String) : Except Fault (String × String) :=
  if value = "" ∨ '%' ∈ value.toList ∨ value.toList.any isSpace then .error invalidLocation
  else
    match invocation.urlsplit value with
    | none => .error invalidLocation
    | some parsed =>
        if parsed.scheme ≠ "s3" ∨ parsed.netloc ≠ expectedBucket ∨
            parsed.hostname ≠ some expectedBucket ∨ parsed.username ≠ none ∨
            parsed.password ≠ none ∨ parsed.port ≠ none ∨ parsed.query ≠ "" ∨
            parsed.fragment ≠ "" ∨ parsed.path.toList.head? ≠ some '/' ∨ parsed.path = "/" ∨
            '\\' ∈ parsed.path.toList then
          .error invalidLocation
        else
          let segments := ((invocation.unquote parsed.path).toList.splitOn '/').drop 1
          if segments = [] ∨ segments.any fun segment =>
              segment = [] ∨ segment = ['.'] ∨ segment = ['.', '.'] then
            .error invalidLocation
          else .ok (parsed.netloc, "/" ++ "/".intercalate (segments.map String.ofList))

/-- `value.rstrip("/")`. -/
def withoutSlashes (value : String) : String :=
  String.ofList (value.toList.reverse.dropWhile (· = '/')).reverse

def validateTableLocation (location : String) : Except Fault String := do
  let bucket ← invocation.requiredEnvironment "OBJECT_STORE_BUCKET"
  let warehouse ← invocation.requiredEnvironment "NESSIE_WAREHOUSE"
  let (_, warehousePath) ← invocation.validateS3Root (withoutSlashes warehouse) bucket
  let (_, locationPath) ← invocation.validateS3Root (withoutSlashes location) bucket
  if (withoutSlashes warehousePath ++ "/").toList.isPrefixOf locationPath.toList then
    .ok ("s3://" ++ bucket ++ locationPath)
  else .error (.runtimeError "Iceberg table location is outside the governed warehouse")

/-- `re.findall(r"(?i)\blocation\s*=\s*'((?:''|[^'])+)'", text)`; a match is skipped as a whole, and
none begins inside of a word. -/
def findLocations (inWord : Bool) (skipped : Nat) : List Char → List (List Char)
  | [] => []
  | character :: rest =>
      let now := invocation.isWord character
      match skipped with
      | more + 1 => findLocations now more rest
      | 0 =>
          match if inWord then none else matchLocation (character :: rest) with
          | some (content, left) => content :: findLocations now (rest.length - left.length) rest
          | none => findLocations now 0 rest

def extractTableLocation (rows : List (List (Option String))) : Except Fault String :=
  let text := "\n".intercalate (rows.flatMap fun row => row.filterMap id)
  match invocation.findLocations false 0 text.toList with
  | [found] => invocation.validateTableLocation (String.ofList (undoubled found))
  | _ => .error (.runtimeError "ambiguous Iceberg table location")

def permanentParquetPath (location modelName : String) : Except Fault String := do
  let executionId ← invocation.requiredEnvironment "TRANSFORM_EXECUTION_ID"
  if ¬ isIdentity "be_" executionId then
    .error (.runtimeError "invalid governed transform execution identity")
  else if ¬ isModelName modelName then .error (.runtimeError "invalid Bronze model name")
  else
    let location ← invocation.validateTableLocation location
    .ok (location ++ "/data/" ++ executionId ++ "-" ++ modelName ++ ".parquet")

end Invocation

/-! ## The program -/

abbrev Script (Client : Type) := Program (Statement Client) Reply Fault

inductive Verdict where
  | published
  | alreadyPublished
  deriving DecidableEq

def noRows : Fault := .outside "the cursor has no such rows"

/-- `_table_exists`. -/
def tableExists (modelName : String) : Script Client Bool := do
  match ← Program.ask .tableCount with
  | .count 0 => pure false
  | .count 1 => pure true
  | _ => Program.raise (Fault.ambiguousPublicationState
      ("ambiguous existing table state: " ++ modelName))

/-- `_create_table`. -/
def createTable (invocation : Invocation) (client : Client) (modelName : String)
    (columns : List Column) : Script Client Unit := do
  let definitions ← Program.lift (invocation.expectedTrinoColumns columns)
  if definitions = [] then
    Program.raise (.runtimeError ("Bronze model has no columns: " ++ modelName))
  else
    let _ ← Program.ask (.createTable definitions client)

/-- `_show_table_location`. -/
def showTableLocation (invocation : Invocation) : Script Client String := do
  match ← Program.ask .showCreate with
  | .shown rows => Program.lift (invocation.extractTableLocation rows)
  | _ => Program.raise noRows

/-- `_registered_files`. -/
def registeredFiles : Script Client (List (String × Nat)) := do
  match ← Program.ask .registeredFiles with
  | .files rows => pure rows
  | _ => Program.raise noRows

/-- `_permanent_file_exists`. -/
def permanentFileExists (path : String) : Script Client Bool := do
  match ← (Program.ask (.parquetMetadata path)).attempt with
  | .ok _ => pure true
  | .error .notFound => pure false
  | .error _ => Program.raise (.runtimeError "unable to inspect permanent Parquet file state")

/-- `_verify_table`. -/
def verifyTable (invocation : Invocation) (modelName : String) (expectedRows : Nat)
    (expectedColumns : List Column) : Script Client Unit := do
  match ← Program.ask .describe with
  | .columns actual =>
      if actual.map (Prod.map id invocation.normalised) ≠
          expectedColumns.map (Prod.map id invocation.normalised) then
        Program.raise (.runtimeError ("published Bronze column mismatch: " ++ modelName))
      else
        match ← Program.ask .rowCount with
        | .count rows =>
            if rows ≠ expectedRows then
              Program.raise (.runtimeError ("published Bronze row count mismatch: " ++ modelName))
            else pure ()
        | _ => Program.raise noRows
  | _ => Program.raise noRows

def ambiguousState (modelName : String) : Fault :=
  .ambiguousPublicationState ("partial or ambiguous publication state: " ++ modelName)

/-- The permanent path of this execution in the location of the table. -/
def locate (invocation : Invocation) (modelName : String) : Script Client String := do
  let location ← showTableLocation invocation
  Program.lift (invocation.permanentParquetPath location modelName)

/-- What `execute_model` does with a table that exists. -/
def recognise (invocation : Invocation) (modelName : String) (rows : Nat)
    (expectedColumns : List Column) : Script Client Verdict := do
  let path ← locate invocation modelName
  let files ← registeredFiles
  if files ≠ [(path, rows)] then Program.raise (ambiguousState modelName)
  else
    verifyTable invocation modelName rows expectedColumns
    return .alreadyPublished

/-- What it does with a table that it has created. -/
def publish (invocation : Invocation) (modelName : String) (rows : Nat)
    (expectedColumns : List Column) : Script Client Verdict := do
  let path ← locate invocation modelName
  let files ← registeredFiles
  if files ≠ [] then Program.raise (ambiguousState modelName)
  else if ← permanentFileExists path then Program.raise (ambiguousState modelName)
  else
    let _ ← Program.ask (.copy path)
    let _ ← Program.ask (.addFiles path)
    verifyTable invocation modelName rows expectedColumns
    return .published

def executeModel (invocation : Invocation) (client : Client) (modelName : String) :
    Script Client Verdict := do
  let (rows, columns) ← Program.lift (invocation.transformationMetadata modelName)
  let expectedColumns ← Program.lift (invocation.expectedTrinoColumns columns)
  if ← tableExists modelName then recognise invocation modelName rows expectedColumns
  else
    createTable invocation client modelName columns
    publish invocation modelName rows expectedColumns

end PaymentsPlatform.TransformRuntime.RawToBronze
