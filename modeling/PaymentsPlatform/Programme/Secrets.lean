import PaymentsPlatform.Ingestion.SourceRecord
import PaymentsPlatform.Library.Json
import PaymentsPlatform.Library.Patterns

/-!
# Secret detection in registers

`secrets.py` of the programme tooling, and `validate_secrets`.  A text that looks like metadata is
not scanned.  The loop over a mapping goes into the mappings of a list, but prints a list of a list
as one text.
-/

namespace PaymentsPlatform.Programme

open Ingestion (isSpace strip)
open Library.Patterns

/-! ## Registers -/

/-- What YAML makes of a value of a register.  The keys are given by their `str`. -/
inductive Value where
  | null
  | bool (value : Bool)
  | int (value : Int)
  | float (value : Binary)
  | text (text : String)
  /-- A date or another scalar, with its `str`. -/
  | scalar (shown : String)
  | list (items : List Value)
  | mapping (members : List (String × Value))

abbrev Record := List (String × Value)

/-- What is used of Python. -/
structure Runtime where
  /-- What `\\w` matches. -/
  isWord : Char → Bool
  lower : String → String
  lower_empty : lower "" = ""
  /-- `str` of what is neither a text nor another scalar. -/
  print : Value → String
  /-- `shannon_entropy(text) >= _MIN_ENTROPY`. -/
  isEntropic : String → Bool

def Value.str (runtime : Runtime) : Value → String
  | .text shown | .scalar shown => shown
  | value => runtime.print value

/-! ## Detectors -/

section Patterns

/-- The words, compared without case. -/
def word (text : String) : Pattern := .letters caseless text.toList

def sequence : List Pattern → Pattern
  | [] => .nothing
  | [pattern] => pattern
  | pattern :: rest => .both pattern (sequence rest)

def anyOf : List Pattern → Pattern
  | [] => .one fun _ => false
  | [pattern] => pattern
  | pattern :: rest => .either pattern (anyOf rest)

def isDash (c : Char) : Bool := c = '_' || c = '-'

/-- Two words, with a dash between them or none. -/
def joined (first second : String) : Pattern :=
  sequence [word first, .optional (.one isDash), word second]

def isQuote (c : Char) : Bool := c = '"' || c = '\''

/-- `SECRET_BEARING_KEY`. -/
def secretBearingKey : Pattern :=
  anyOf [word "password", word "passwd", word "pwd", word "secret", word "token",
    joined "api" "key", word "apikey", joined "access" "key", joined "private" "key",
    word "credential", word "passphrase", joined "client" "secret", joined "connection" "string",
    joined "auth" "token", word "bearer", joined "session" "key", joined "kms" "key"]

def privateKeyBlock : Pattern :=
  sequence [.literal "-----BEGIN ", .many (fun c => c.isUpper || c = ' ') 0,
    .literal "PRIVATE KEY-----"]

def awsAccessKeyId : Pattern :=
  sequence [.boundary, anyOf [.literal "AKIA", .literal "ASIA"],
    .exactly (fun c => c.isDigit || c.isUpper) 16, .boundary]

def githubToken : Pattern :=
  sequence [.boundary, .literal "gh", .one (· ∈ "pousr".toList), .literal "_",
    .many Char.isAlphanum 16, .boundary]

def slackToken : Pattern :=
  sequence [.boundary, .literal "xox", .one (· ∈ "abprs".toList), .literal "-",
    .many (fun c => c.isAlphanum || c = '-') 10, .boundary]

def jwtPart : Pattern := .many (fun c => c.isAlphanum || isDash c) 8

def jwt : Pattern :=
  sequence [.boundary, .literal "eyJ", jwtPart, .literal ".", jwtPart, .literal ".", jwtPart,
    .boundary]

def bearerHeader : Pattern :=
  sequence [.boundary, word "bearer", .many isSpace 1,
    .many (fun c => (caseless c).isAlphanum || isDash c || c = '.') 20]

/-- A user and a password before a host. -/
def userinfo : Pattern :=
  let plain (c : Char) : Bool := !isSpace c && c ∉ ":@/".toList
  sequence [.literal "://", .many plain 1, .literal ":", .many plain 3, .literal "@"]

def pgOrMysqlDsn : Pattern :=
  sequence [.boundary, anyOf [word "postgres", word "postgresql", word "mysql", word "redis",
    word "mongodb"], userinfo]

def httpBasicDsn : Pattern :=
  sequence [.boundary, word "http", .optional (word "s"), userinfo]

def pemBody : Pattern :=
  anyOf [.literal "-----BEGIN CERTIFICATE-----", .literal "-----BEGIN PUBLIC KEY-----"]

def assignedSecret : Pattern :=
  sequence [.boundary, anyOf [word "password", word "passwd", word "pwd", word "secret",
    word "token", joined "api" "key", word "apikey", joined "access" "key", joined "private" "key",
    word "passphrase", joined "client" "secret"], .boundary, .many isSpace 0,
    .one (fun c => c = ':' || c = '='), .many isSpace 0, .optional (.one isQuote),
    .many (fun c => !isSpace c && !isQuote c && c ≠ ',' && c ≠ ';') 6]

end Patterns

structure Detector where
  name : String
  pattern : Pattern

/-- `PATTERNS`. -/
def detectors : List Detector :=
  [⟨"private_key_block", privateKeyBlock⟩, ⟨"aws_access_key_id", awsAccessKeyId⟩,
    ⟨"github_token", githubToken⟩, ⟨"slack_token", slackToken⟩, ⟨"jwt", jwt⟩,
    ⟨"bearer_header", bearerHeader⟩, ⟨"pg_or_mysql_dsn", pgOrMysqlDsn⟩,
    ⟨"http_basic_dsn", httpBasicDsn⟩, ⟨"pem_body", pemBody⟩, ⟨"assigned_secret", assignedSecret⟩]

/-! ## Metadata -/

/-- `SAFE_VALUE_MARKERS`. -/
def safeValueMarkers : List String :=
  ["", "-", "n/a", "na", "none", "null", "not_applicable", "not applicable", "notconfigured",
    "not_configured", "unset", "unknown", "tbd", "unresolved", "notset", "not_set", "prohibited",
    "forbidden", "required", "metadata_only", "secret_reference", "reference_only", "rotated",
    "active", "planned", "revoked", "yes", "no", "true", "false"]

def isHexadecimal (c : Char) : Bool := c.isDigit || c ∈ "abcdef".toList

/-- The name of a variable, after a dollar sign and perhaps in braces. -/
def variableReference : Pattern :=
  sequence [.literal "$", .optional (.one (· = '\x7b')),
    .one (fun c => c.isAlpha || c = '_'), .many (fun c => c.isAlphanum || c = '_') 0,
    .optional (.one (· = '\x7d'))]

/-- The name of a variable in capital letters, which no text in small letters is. -/
def variableName : Pattern :=
  sequence [.one Char.isUpper, .many (fun c => c.isUpper || c.isDigit || c = '_') 2]

section Scan

variable (runtime : Runtime)

def isSafeMetadata (value : String) : Bool :=
  let normalised := runtime.lower (strip isQuote (strip isSpace value))
  let whole (pattern : Pattern) : Bool := fullMatch runtime.isWord pattern normalised.toList
  decide (normalised ∈ safeValueMarkers) || whole variableReference || whole variableName ||
    ["s3://", "s3a://", "arn:", "file:", "./", "/"].any
      (fun start => start.toList.isPrefixOf normalised.toList) ||
    ('<' ∈ normalised.toList && '>' ∈ normalised.toList) || whole (.many isHexadecimal 8)

/-! ## Scanning -/

structure SecretFinding where
  location : String
  field : String
  detector : String
  preview : String
  deriving DecidableEq

def redact (value : String) : String :=
  let chars := value.toList
  if chars.length ≤ 4 then String.ofList (List.replicate chars.length '*')
  else String.ofList (chars.take 2 ++ List.replicate (chars.length - 4) '*' ++
    chars.drop (chars.length - 2))

/-- `scan_value`, of a text. -/
def scanText (location field text : String) : List SecretFinding :=
  if strip isSpace text = "" then []
  else if isSafeMetadata runtime text then []
  else
    (detectors.filterMap fun detector =>
      (search runtime.isWord detector.pattern text.toList).map fun found =>
        ⟨location, field, detector.name, redact (String.ofList found)⟩) ++
    if (search runtime.isWord secretBearingKey field.toList).isSome && 16 ≤ text.length &&
        runtime.isEntropic text then
      [⟨location, field, "high_entropy_secret_field", redact text⟩]
    else []

def scanValue (location field : String) : Value → List SecretFinding
  | .null | .bool _ | .int _ | .float _ => []
  | value => scanText runtime location field (value.str runtime)

def fieldPath (path key : String) : String := if path = "" then key else path ++ "." ++ key

mutual

def scanMapping (location path : String) : List (String × Value) → List SecretFinding
  | [] => []
  | (key, value) :: rest =>
      scanMember location (fieldPath path key) value ++ scanMapping location path rest

/-- One round of the loop over the members. -/
def scanMember (location field : String) : Value → List SecretFinding
  | .mapping members => scanMapping location field members
  | .list items => scanItems location field 0 items
  | value => scanValue runtime location field value

def scanItems (location field : String) (index : Nat) : List Value → List SecretFinding
  | [] => []
  | item :: rest => scanItem location field index item ++ scanItems location field (index + 1) rest

/-- One round of the loop over the items of a list. -/
def scanItem (location field : String) (index : Nat) : Value → List SecretFinding
  | .mapping members => scanMapping location (field ++ "[" ++ toString index ++ "]") members
  | item => scanValue runtime location field item

end

def recordLocation (register : String) (record : Record) : String :=
  "register:" ++ register ++ ":" ++
    ((record.lookup "id").map (Value.str runtime)).getD "<no-id>"

def scanRecords (register : String) (records : List Record) : List SecretFinding :=
  records.flatMap fun record =>
    scanMapping runtime (recordLocation runtime register record) "" record

inductive Severity where
  | error
  | warning
  | info
  deriving DecidableEq

/-- An entry of a `ValidationReport`. -/
structure Finding where
  severity : Severity
  rule : String
  location : String
  message : String
  deriving DecidableEq

def secretLeak (location detector preview : String) : Finding :=
  ⟨.error, "secret_leak", location,
    "Secret-shaped content detected (" ++ detector ++ "): " ++ preview⟩

def validateSecrets (register : String) (records : List Record) (report : List Finding) :
    List Finding :=
  report ++ (scanRecords runtime register records).map fun item =>
    secretLeak item.location item.detector item.preview

end Scan

end PaymentsPlatform.Programme
