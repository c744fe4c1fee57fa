import PaymentsPlatform.TransformRuntime.ChildCommands
import PaymentsPlatform.TransformRuntime.Urls

/-!
# The connection to the transform ledger

`validate_database_url` of `postgres_connection.py`, with what it uses of `parse_qs` and `int`.  In
production it looks at the user as it is written, and at the first value of a parameter that is
not empty.
-/

namespace PaymentsPlatform.TransformRuntime.PostgresConnection

open ChildCommands (Process)
open Ingestion (isSpace)
open Urls (Unicode hostname partition unquote userinfo)

inductive ValueError where
  | raised (text : String)
  /-- Raised by `urlsplit`. -/
  | invalidUrl
  deriving DecidableEq

/-- What the tables of Unicode decide. -/
structure Runtime extends Unicode where
  /-- The value of a decimal digit of any script. -/
  digit : Char → Option Nat
  digit_ascii : ∀ c, c.toNat < 128 →
    digit c = if c.isDigit then some (c.toNat - '0'.toNat) else none

/-! ## Texts -/

/-- `text.replace(old, new, 1)`. -/
def replaceOnce (old new : List Char) : List Char → List Char
  | [] => []
  | c :: rest =>
      if old.isPrefixOf (c :: rest) then new ++ (c :: rest).drop old.length
      else c :: replaceOnce old new rest

/-- `unquote(text.replace("+", " "))`. -/
def unquotePlus (text : List Char) : List Char :=
  unquote (text.map fun c => if c = '+' then ' ' else c)

/-- `parse_qsl(query)`. -/
def parseQsl (query : List Char) : List (List Char × List Char) :=
  (query.splitOn '&').filterMap fun field =>
    match partition '=' field with
    | (name, some value) =>
        if value = [] then none else some (unquotePlus name, unquotePlus value)
    | (_, none) => none

/-- The values that `parse_qs(query)` has for the name; a name without any is not in it. -/
def parseQs (query : List Char) (name : String) : List (List Char) :=
  (parseQsl query).filterMap fun parameter =>
    if parameter.1 = name.toList then some parameter.2 else none

namespace Runtime

variable (runtime : Runtime)

/-- A character of `\\d`. -/
def isDecimal (c : Char) : Bool := (runtime.digit c).isSome

def number (digits : List Char) : Nat :=
  digits.foldl (fun value c => 10 * value + (runtime.digit c).getD 0) 0

/-- What `int` takes no notice of around a number. -/
def isBlank (c : Char) : Bool := isSpace c && !(28 ≤ c.toNat && c.toNat ≤ 31)

def splitSign : List Char → Bool × List Char
  | '-' :: rest => (true, rest)
  | '+' :: rest => (false, rest)
  | text => (false, text)

/-- `int(text)`: digits with single underscores between them, not more than 4300. -/
def int (text : List Char) : Option Int :=
  let (negative, digits) := splitSign ((text.dropWhile isBlank).rdropWhile isBlank)
  let groups := digits.splitOn '_'
  let value := runtime.number groups.flatten
  if (∀ group ∈ groups, group ≠ [] ∧ group.all runtime.isDecimal) ∧
      groups.flatten.length ≤ 4300 then
    some (if negative then -(value : Int) else value)
  else none

/-- What stands before the number of the option. -/
def statementTimeoutStem : List Char := "-c statement_timeout=".toList

/-- The number of `re.fullmatch(r"-c statement_timeout=(\d+)", options)`. -/
def statementTimeout (options : List Char) : Option Int :=
  let digits := options.drop statementTimeoutStem.length
  if statementTimeoutStem.isPrefixOf options ∧ digits ≠ [] ∧ digits.all runtime.isDecimal then
    runtime.int digits
  else some 0

/-! ## The contract -/

/-- The roles that an application does not connect as. -/
def administrative : List (List Char) := ["postgres".toList, "root".toList, "admin".toList]

/-- What production requires of a URL. -/
def requirements (allowSchemaAdmin : Bool) (normalized : List Char) : Except ValueError Unit :=
  match runtime.urlsplit normalized with
  | none => .error .invalidUrl
  | some parsed =>
      let query := parseQs parsed.query
      let username := (userinfo parsed.netloc).1.getD []
      let password := (userinfo parsed.netloc).2.getD []
      let host := (hostname parsed.netloc runtime.toUnicode).getD []
      if host = [] ∨ username = [] ∨ password = [] then
        .error (.raised "production PostgreSQL requires a dedicated application credential")
      else if !allowSchemaAdmin && administrative.contains (username.map Char.toLower) then
        .error (.raised "production PostgreSQL requires a non-administrative role")
      else if query "sslmode" ≠ ["verify-full".toList] ∨ (query "sslrootcert").headD [] = [] then
        .error (.raised "production PostgreSQL requires TLS verification and a CA certificate")
      else
        match runtime.int ((query "connect_timeout").headD []),
          runtime.statementTimeout ((query "options").headD []) with
        | some connectTimeout, some statementTimeout =>
            if (1 ≤ connectTimeout ∧ connectTimeout ≤ 30) ∧
                (1000 ≤ statementTimeout ∧ statementTimeout ≤ 300000) then .ok ()
            else .error (.raised "production PostgreSQL timeout is outside allowed bounds")
        | _, _ =>
            .error (.raised "production PostgreSQL requires connection and statement timeouts")

end Runtime

/-- The URL without the name of the driver. -/
def normalized (url : List Char) : List Char :=
  replaceOnce "postgresql+psycopg://".toList "postgresql://".toList url

def validateDatabaseUrl (runtime : Runtime) (process : Process) (url : List Char)
    (allowSchemaAdmin : Bool) : Except ValueError (List Char) :=
  if "postgresql://".toList.isPrefixOf (normalized url) = false then
    .error (.raised "PostgreSQL transform ledger URL is required")
  else if (process.getenv "DP_SECURITY_MODE" "").toLower ≠ "production" then .ok (normalized url)
  else do
    runtime.requirements allowSchemaAdmin (normalized url)
    return normalized url

end PaymentsPlatform.TransformRuntime.PostgresConnection
