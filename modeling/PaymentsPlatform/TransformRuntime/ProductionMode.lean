import PaymentsPlatform.TransformRuntime.UrlReadings

/-!
# What production mode means

`validate_database_url` takes the mode as it is, where `is_production_security_mode` strips it, and
its requirements do not look at all that a driver reads from the URL.
-/

namespace PaymentsPlatform.TransformRuntime.PostgresConnection

open ChildCommands (Process isProductionSecurityMode)
open ConnectionUris
open Ingestion
open Json (Ascii)
open Urls (hostinfo hostname userinfo)

/-! ## Settings -/

inductive Setting where
  | host | user | password | sslmode | sslrootcert | connectTimeout | options

def Setting.keyword : Setting → String
  | .host => "host"
  | .user => "user"
  | .password => "password"
  | .sslmode => "sslmode"
  | .sslrootcert => "sslrootcert"
  | .connectTimeout => "connect_timeout"
  | .options => "options"

/-- What production demands of a value that a driver reads. -/
def Acceptable (driver : Driver) (allowSchemaAdmin : Bool) : Setting → List Char → Prop
  | .host, value | .password, value | .sslrootcert, value => value ≠ []
  | .user, value =>
      value ≠ [] ∧ (allowSchemaAdmin = true ∨ value.map Char.toLower ∉ Runtime.administrative)
  | .sslmode, value => value = "verify-full".toList
  | .connectTimeout, value =>
      ∃ seconds, driver.seconds value = some seconds ∧ 1 ≤ seconds ∧ seconds ≤ 30
  | .options, value => ∃ milliseconds,
      driver.statementTimeout value = some milliseconds ∧ 1000 ≤ milliseconds ∧
        milliseconds ≤ 300000

section Claims

variable (runtime : Runtime) (keywords : List String) (process : Process) (url : List Char)
  (allowSchemaAdmin : Bool)

/-- No URL passes that does not meet the requirements. -/
def Enforces : Prop := ∀ url allowSchemaAdmin result,
  validateDatabaseUrl runtime process url allowSchemaAdmin = .ok result →
    runtime.requirements allowSchemaAdmin result = .ok ()

/-- Production mode is that of the other services, and in it a URL is accepted only if every driver
that reads connection URIs as documented connects as production demands. -/
structure MeansTheSame : Prop where
  enforces : Enforces runtime process ↔ isProductionSecurityMode process
  accepts : isProductionSecurityMode process → ∀ result,
    validateDatabaseUrl runtime process url allowSchemaAdmin = .ok result →
      ∀ driver : Driver, driver.Documented keywords → ∃ value, driver.reads result = some value ∧
        ∀ setting : Setting, ∃ text, value setting.keyword = some text ∧
          Acceptable driver allowSchemaAdmin setting text

/-- The URI has the documented form, and there is nothing in it that the requirements overlook. -/
structure Transparent (uri : Uri) : Prop where
  written : uri.Written keywords
  /-- A user that is not written as it is read is none of the administrative ones. -/
  role : ∀ user, uri.value "user" = some user → user ≠ uri.user →
    allowSchemaAdmin = true ∨ user.map Char.toLower ∉ Runtime.administrative
  seconds : ∀ seconds, uri.value "connect_timeout" = some seconds → IsNumeral seconds
  /-- No plus stands for the space, and the digits are those of ASCII. -/
  options : ∀ options, uri.value "options" = some options →
    ∃ digits, IsNumeral digits ∧ options = timeoutOption digits
  /-- What replaces a value is as good as that. -/
  again : ∀ setting : Setting, 2 ≤ (uri.values setting.keyword).length →
    ∀ text, uri.value setting.keyword = some text →
      Acceptable (plainDriver keywords) allowSchemaAdmin setting text

end Claims

/-! ## The requirements -/

/-- What the requirements demand of the parts of a URL. -/
structure Meets (runtime : Runtime) (allowSchemaAdmin : Bool) (parsed : Urls.SplitResult) :
    Prop where
  hostname : (hostname parsed.netloc runtime.toUnicode).getD [] ≠ []
  username : (userinfo parsed.netloc).1.getD [] ≠ []
  password : (userinfo parsed.netloc).2.getD [] ≠ []
  role : allowSchemaAdmin = true ∨
    ((userinfo parsed.netloc).1.getD []).map Char.toLower ∉ Runtime.administrative
  sslmode : parseQs parsed.query "sslmode" = ["verify-full".toList]
  sslrootcert : (parseQs parsed.query "sslrootcert").headD [] ≠ []
  connectTimeout : ∃ seconds, runtime.int ((parseQs parsed.query "connect_timeout").headD []) =
    some seconds ∧ 1 ≤ seconds ∧ seconds ≤ 30
  options : ∃ milliseconds,
    runtime.statementTimeout ((parseQs parsed.query "options").headD []) = some milliseconds ∧
      1000 ≤ milliseconds ∧ milliseconds ≤ 300000

theorem meets_of_requirements {runtime : Runtime} {allowSchemaAdmin : Bool} {text : List Char}
    (met : runtime.requirements allowSchemaAdmin text = .ok ()) :
    ∃ parsed, runtime.urlsplit text = some parsed ∧ Meets runtime allowSchemaAdmin parsed := by
  rw [Runtime.requirements] at met
  split at met
  next => cases met
  next parsed isParsed =>
    refine ⟨parsed, isParsed, ?_⟩
    dsimp only at met
    split at met
    next => cases met
    next credential =>
      obtain ⟨host, username, password⟩ := by simpa only [not_or] using credential
      split at met
      next => cases met
      next role =>
        have allowed : allowSchemaAdmin = true ∨
            ((userinfo parsed.netloc).1.getD []).map Char.toLower ∉ Runtime.administrative := by
          cases allowSchemaAdmin with
          | true => exact .inl rfl
          | false => exact .inr (by simpa using role)
        split at met
        next => cases met
        next tls =>
          obtain ⟨sslmode, sslrootcert⟩ := by simpa only [not_or, not_not] using tls
          split at met
          next seconds milliseconds isSeconds isMilliseconds =>
            split at met
            next bounds =>
              exact ⟨host, username, password, allowed, sslmode, sslrootcert,
                ⟨seconds, isSeconds, bounds.1⟩, ⟨milliseconds, isMilliseconds, bounds.2⟩⟩
            next => cases met
          next => cases met

/-! ## The mode -/

section Mode

variable {runtime : Runtime} {process : Process}

theorem strip_of_production {mode : String} (production : mode.toLower = "production") :
    strip isSpace mode = mode := by
  have noSpace : "production".toList.any isSpace = false := by decide
  have letters : mode.toList.map Char.toLower = "production".toList :=
    (String.toList_map ..).symm.trans (congrArg String.toList production)
  refine strip_of_kept fun c listed => ?_
  by_contra space
  rw [Bool.not_eq_false] at space
  have isLetter : c ∈ "production".toList := by
    rw [← letters, ← toLower_of_isSpace space]
    exact List.mem_map_of_mem listed
  rw [List.any_eq_true.mpr ⟨c, isLetter, space⟩] at noSpace
  cases noSpace

theorem validateDatabaseUrl_of_production {url : List Char} {allowSchemaAdmin : Bool}
    (production : (process.getenv "DP_SECURITY_MODE" "").toLower = "production")
    {result : List Char} : validateDatabaseUrl runtime process url allowSchemaAdmin = .ok result ↔
      normalized url = result ∧ "postgresql://".toList <+: result ∧
        runtime.requirements allowSchemaAdmin result = .ok () := by
  rw [validateDatabaseUrl]
  split
  next refused =>
    constructor
    · intro isOk
      cases isOk
    · rintro ⟨rfl, begins, -⟩
      rw [List.isPrefixOf_iff_prefix.mpr begins] at refused
      cases refused
  next begins =>
    rw [Bool.not_eq_false, List.isPrefixOf_iff_prefix] at begins
    rw [if_neg (not_not.mpr production)]
    cases isMet : runtime.requirements allowSchemaAdmin (normalized url) with
    | error fault =>
        constructor
        · intro isOk
          cases isOk
        · rintro ⟨rfl, -, met⟩
          rw [isMet] at met
          cases met
    | ok =>
        constructor
        · intro isOk
          obtain rfl := Except.ok.inj isOk
          exact ⟨rfl, begins, isMet⟩
        · rintro ⟨rfl, -, -⟩
          rfl

theorem enforces_iff :
    Enforces runtime process ↔ (process.getenv "DP_SECURITY_MODE" "").toLower = "production" := by
  constructor
  · intro enforces
    by_contra other
    have accepted : validateDatabaseUrl runtime process scheme false = .ok scheme := by
      rw [validateDatabaseUrl, if_neg (by decide), if_pos other]
      rfl
    obtain ⟨parsed, isParsed, meets⟩ :=
      meets_of_requirements (enforces scheme false scheme accepted)
    have isScheme : Urls.splitScheme ((scheme.dropWhile Urls.isControlOrSpace).filter
        (!Urls.isUnsafe ·)) = ("postgresql".toList, "//".toList) := by decide
    have isNetloc : Urls.splitNetloc "//".toList = ([], []) := by decide
    rw [runtime.urlsplit_of_parts isScheme isNetloc rfl rfl] at isParsed
    split at isParsed
    next => cases isParsed
    next =>
      obtain rfl := Option.some.inj isParsed
      exact meets.hostname rfl
  · intro production url allowSchemaAdmin result accepted
    exact ((validateDatabaseUrl_of_production production).mp accepted).2.2

theorem enforces_iff_isProductionSecurityMode :
    (Enforces runtime process ↔ isProductionSecurityMode process) ↔
      (isProductionSecurityMode process →
        strip isSpace (process.getenv "DP_SECURITY_MODE" "") =
          process.getenv "DP_SECURITY_MODE" "") := by
  rw [enforces_iff, isProductionSecurityMode, decide_eq_true_iff]
  constructor
  · intro same production
    exact strip_of_production (same.mpr production)
  · intro stripped
    constructor
    · intro production
      rw [strip_of_production production]
      exact production
    · intro production
      rw [← stripped production]
      exact production

end Mode

/-! ## What a driver reads -/

section Reading

variable {runtime : Runtime} {keywords : List String} {allowSchemaAdmin : Bool} {driver : Driver}

theorem Acceptable.of_plainDriver (documented : driver.Documented keywords) {setting : Setting}
    {text : List Char}
    (acceptable : Acceptable (plainDriver keywords) allowSchemaAdmin setting text) :
    Acceptable driver allowSchemaAdmin setting text := by
  cases setting with
  | connectTimeout =>
      obtain ⟨seconds, isSeconds, bounds⟩ := acceptable
      obtain ⟨⟨numeral, small⟩, isNumber⟩ := Option.ite_none_right_eq_some.mp isSeconds
      exact ⟨seconds, (documented.seconds text numeral small).trans isNumber, bounds⟩
  | options =>
      obtain ⟨milliseconds, isMilliseconds, bounds⟩ := acceptable
      simp only [plainDriver] at isMilliseconds
      obtain ⟨⟨isOption, numeral, small⟩, isNumber⟩ :=
        Option.ite_none_right_eq_some.mp isMilliseconds
      refine ⟨milliseconds, ?_, bounds⟩
      rw [← isOption]
      exact (documented.statementTimeout _ numeral small).trans isNumber
  | host | user | password | sslmode | sslrootcert => exact acceptable

variable {uri : Uri} {parsed : Urls.SplitResult}

theorem int_nil (runtime : Runtime) : runtime.int [] = none := by
  simp [Runtime.int, Runtime.splitSign, List.rdropWhile]

theorem statementTimeout_nil (runtime : Runtime) : runtime.statementTimeout [] = some 0 := by
  rw [Runtime.statementTimeout, if_neg]
  rintro ⟨-, nonempty, -⟩
  exact nonempty List.drop_nil

theorem value_of_part {uri : Uri} {keyword : String} (written : uri.Written keywords)
    (once : (uri.values keyword).length < 2) {part : List Char}
    (listed : (keyword, part) ∈ uri.hierarchical) :
    ∃ value, decode part = some value ∧ value ≠ [] ∧ uri.value keyword = some value := by
  obtain ⟨value, isValue, nonempty, given⟩ := exists_mem_values_of_part written listed
  exact ⟨value, isValue, nonempty, value_of_once once given⟩

theorem Setting.plain (setting : Setting) : Ascii setting.keyword.toList ∧
    ' ' ∉ setting.keyword.toList ∧ setting.keyword ≠ "ssl" := by
  cases setting <;> decide

theorem value_of_head {uri : Uri} {setting : Setting} (written : uri.Written keywords)
    (once : (uri.values setting.keyword).length < 2)
    (found : parseQs ((joinParams uri.params).getD []) setting.keyword ≠ []) :
    ∃ part value, part ≠ [] ∧ decode part = some value ∧
      unquotePlus part = (parseQs ((joinParams uri.params).getD []) setting.keyword).headD [] ∧
        uri.value setting.keyword = some value := by
  obtain ⟨text, others, isFound⟩ := List.exists_cons_of_ne_nil found
  obtain ⟨isAscii, noSpace, noAlias⟩ := setting.plain
  obtain ⟨part, value, nonempty, isValue, isText, given⟩ :=
    exists_mem_values written ⟨isAscii, noSpace⟩ noAlias (isFound ▸ List.mem_cons_self)
  refine ⟨part, value, nonempty, isValue, ?_, value_of_once once given⟩
  rw [isFound, isText]
  rfl

/-- What is given once is what the requirements have looked at. -/
theorem acceptable_of_once {uri : Uri} {parsed : Urls.SplitResult}
    (documented : driver.Documented keywords)
    (transparent : Transparent keywords allowSchemaAdmin uri)
    (isParsed : runtime.urlsplit uri.text = some parsed)
    (meets : Meets runtime allowSchemaAdmin parsed) (setting : Setting)
    (once : (uri.values setting.keyword).length < 2) :
    ∃ text, uri.value setting.keyword = some text ∧
      Acceptable driver allowSchemaAdmin setting text := by
  have written := transparent.written
  rw [urlsplit_text written] at isParsed
  obtain ⟨-, isSplit⟩ := Option.ite_none_left_eq_some.mp isParsed
  obtain rfl := Option.some.inj isSplit
  obtain ⟨host, username, password, role, sslmode, sslrootcert, ⟨seconds, isSeconds, inSeconds⟩,
    ⟨milliseconds, isMilliseconds, inMilliseconds⟩⟩ := meets
  rw [userinfo_netloc written] at username password role
  cases setting with
  | host =>
      have named : (hostinfo (netloc uri)).1 ≠ [] := by
        intro noHost
        rw [hostname, if_pos noHost] at host
        exact host rfl
      have listed : ("host", uri.host) ∈ uri.hierarchical := by
        simp [Uri.hierarchical, host_ne_nil written named]
      obtain ⟨value, -, nonempty, isValue⟩ := value_of_part written once listed
      exact ⟨value, isValue, nonempty⟩
  | user =>
      have listed : ("user", uri.user) ∈ uri.hierarchical := by
        simpa [Uri.hierarchical] using username
      obtain ⟨value, -, nonempty, isValue⟩ := value_of_part written once listed
      refine ⟨value, isValue, nonempty, ?_⟩
      by_cases plain : value = uri.user
      · rw [plain]
        exact role
      · exact transparent.role value isValue plain
  | password =>
      have listed : ("password", uri.password.getD []) ∈ uri.hierarchical := by
        simpa [Uri.hierarchical] using password
      obtain ⟨value, -, nonempty, isValue⟩ := value_of_part written once listed
      exact ⟨value, isValue, nonempty⟩
  | sslmode =>
      obtain ⟨part, value, -, isPart, isHead, isValue⟩ := value_of_head written once (by
        change parseQs _ "sslmode" ≠ []
        rw [sslmode]
        exact List.cons_ne_nil _ _)
      have isFull : unquotePlus part = "verify-full".toList :=
        isHead.trans (congrArg (·.headD []) sslmode)
      refine ⟨value, isValue, ?_⟩
      rw [Acceptable, ← isFull]
      refine (eq_of_unquotePlus isPart ?_ ?_).symm <;> rw [isFull] <;> decide
  | sslrootcert =>
      obtain ⟨part, value, nonempty, isPart, -, isValue⟩ := value_of_head written once (by
        intro nothing
        rw [Setting.keyword] at nothing
        rw [nothing] at sslrootcert
        exact sslrootcert rfl)
      exact ⟨value, isValue, decode_ne_nil nonempty isPart⟩
  | connectTimeout =>
      obtain ⟨part, value, -, isPart, isHead, isValue⟩ := value_of_head written once (by
        intro nothing
        rw [Setting.keyword] at nothing
        rw [nothing, List.headD_nil, int_nil] at isSeconds
        cases isSeconds)
      have numeral := transparent.seconds value isValue
      have unquoted := unquotePlus_of_decode isPart (isAscii_of_isNumeral numeral)
        (notMem_of_isNumeral numeral (by decide))
      have found : (parseQs _ "connect_timeout").headD [] = value := isHead.symm.trans unquoted
      rw [found] at isSeconds
      have isNumber := int_of_isNumeral numeral isSeconds
      exact ⟨value, isValue, number value, documented.seconds value numeral (by omega), by omega,
        by omega⟩
  | options =>
      obtain ⟨part, value, -, isPart, isHead, isValue⟩ := value_of_head written once (by
        intro nothing
        rw [Setting.keyword] at nothing
        rw [nothing, List.headD_nil, statementTimeout_nil] at isMilliseconds
        obtain rfl := Option.some.inj isMilliseconds
        omega)
      obtain ⟨digits, numeral, rfl⟩ := transparent.options value isValue
      have unquoted := unquotePlus_of_decode isPart (isAscii_timeoutOption numeral)
        (notMem_timeoutOption numeral)
      have found : (parseQs _ "options").headD [] = timeoutOption digits :=
        isHead.symm.trans unquoted
      rw [found, statementTimeout_timeoutOption numeral] at isMilliseconds
      have isNumber := int_of_isNumeral numeral isMilliseconds
      exact ⟨_, isValue, number digits, documented.statementTimeout digits numeral (by omega),
        by omega, by omega⟩

theorem Transparent.exists_acceptable {uri : Uri} {parsed : Urls.SplitResult}
    (documented : driver.Documented keywords)
    (transparent : Transparent keywords allowSchemaAdmin uri)
    (isParsed : runtime.urlsplit uri.text = some parsed)
    (meets : Meets runtime allowSchemaAdmin parsed) (setting : Setting) :
    ∃ text, uri.value setting.keyword = some text ∧
      Acceptable driver allowSchemaAdmin setting text := by
  by_cases once : (uri.values setting.keyword).length < 2
  · exact acceptable_of_once documented transparent isParsed meets setting once
  · have given : uri.values setting.keyword ≠ [] := by
      intro nothing
      rw [nothing, List.length_nil] at once
      omega
    obtain ⟨text, isText⟩ := isSome_value given
    have acceptable := transparent.again setting (Nat.le_of_not_lt once) text isText
    exact ⟨text, isText, acceptable.of_plainDriver documented⟩

theorem transparent_of_acceptable {uri : Uri} (written : uri.Written keywords)
    (accepts : ∀ setting : Setting, ∃ text, uri.value setting.keyword = some text ∧
      Acceptable (plainDriver keywords) allowSchemaAdmin setting text) :
    Transparent keywords allowSchemaAdmin uri := by
  have acceptable (setting : Setting) {text : List Char}
      (isText : uri.value setting.keyword = some text) :
      Acceptable (plainDriver keywords) allowSchemaAdmin setting text := by
    obtain ⟨other, isOther, acceptable⟩ := accepts setting
    rwa [Option.some.inj (isText.symm.trans isOther)]
  refine ⟨written, ?_, ?_, ?_, fun setting _ text isText => acceptable setting isText⟩
  · intro user isUser _
    exact (acceptable .user isUser).2
  · intro seconds isSeconds
    obtain ⟨number, isNumber, -⟩ := acceptable .connectTimeout isSeconds
    exact (Option.ite_none_right_eq_some.mp isNumber).1.1
  · intro options isOptions
    obtain ⟨number, isNumber, -⟩ := acceptable .options isOptions
    simp only [plainDriver] at isNumber
    obtain ⟨⟨isOption, numeral, -⟩, -⟩ := Option.ite_none_right_eq_some.mp isNumber
    exact ⟨_, numeral, isOption.symm⟩

end Reading

/-- Production mode means the same, except where white space stands around it, and where a URL that
meets the requirements does not have the documented form or says more than they look at. -/
theorem meansTheSame_iff (runtime : Runtime) (keywords : List String) (process : Process)
    (url : List Char) (allowSchemaAdmin : Bool) :
    MeansTheSame runtime keywords process url allowSchemaAdmin ↔
      (isProductionSecurityMode process →
        strip isSpace (process.getenv "DP_SECURITY_MODE" "") =
          process.getenv "DP_SECURITY_MODE" "") ∧
      (isProductionSecurityMode process → "postgresql://".toList <+: normalized url →
        runtime.requirements allowSchemaAdmin (normalized url) = .ok () →
          ∃ uri : Uri, uri.text = normalized url ∧ Transparent keywords allowSchemaAdmin uri) := by
  constructor
  · rintro ⟨enforces, accepts⟩
    refine ⟨enforces_iff_isProductionSecurityMode.mp enforces, fun production begins met => ?_⟩
    have mode := enforces_iff.mp (enforces.mpr production)
    obtain ⟨value, isValue, acceptable⟩ := accepts production (normalized url)
      ((validateDatabaseUrl_of_production mode).mpr ⟨rfl, begins, met⟩) (plainDriver keywords)
      (documented_plainDriver keywords)
    obtain ⟨uri, isUri, rfl⟩ := Option.map_eq_some_iff.mp isValue
    obtain ⟨written, isText⟩ := read_eq_some_iff.mp isUri
    exact ⟨uri, isText, transparent_of_acceptable written acceptable⟩
  · rintro ⟨stripped, transparent⟩
    have enforces : Enforces runtime process ↔ isProductionSecurityMode process :=
      enforces_iff_isProductionSecurityMode.mpr stripped
    refine ⟨enforces, fun production result accepted driver documented => ?_⟩
    have mode := enforces_iff.mp (enforces.mpr production)
    obtain ⟨rfl, begins, met⟩ := (validateDatabaseUrl_of_production mode).mp accepted
    obtain ⟨uri, isText, transparent⟩ := transparent production begins met
    obtain ⟨parsed, isParsed, meets⟩ := meets_of_requirements met
    rw [← isText] at isParsed ⊢
    exact ⟨uri.value, documented.reads uri transparent.written,
      transparent.exists_acceptable documented isParsed meets⟩

/-! ## A padded mode and an encoded user -/

def asciiRuntime : Runtime where
  lower text := text.map Char.toLower
  normalize text := text
  bracketedRefused _ := false
  digit c := if c.isDigit then some (c.toNat - '0'.toNat) else none
  digit_ascii _ _ := rfl

def processIn (mode : String) : Process where
  environ name := if name = "DP_SECURITY_MODE" then some mode else none
  resolveSecret _ := .ok none
  urlsplit _ := .error (.outside "not used")
  sha256 text := text

def ledgerKeywords : List String := ["sslmode", "sslrootcert", "connect_timeout", "options"]

def ledgerUri (user : String) : Uri where
  user := user.toList
  password := some "secret".toList
  hostspec := "postgres.example:5432".toList
  dbname := some "ledger".toList
  params := [("sslmode".toList, "verify-full".toList),
    ("sslrootcert".toList, "%2Fetc%2Fssl%2Fpostgres-ca.pem".toList),
    ("connect_timeout".toList, "5".toList),
    ("options".toList, "-c%20statement_timeout%3D30000".toList)]

/-- With white space around it the mode is no longer that of the other services, and in production
the user `%70ostgres` is accepted, who is read as `postgres`. -/
theorem paddedMode_not_meansTheSame :
    ¬ MeansTheSame asciiRuntime ledgerKeywords (processIn " production")
        (ledgerUri "transform_app").text false ∧
      ¬ MeansTheSame asciiRuntime ledgerKeywords (processIn "production")
        (ledgerUri "%70ostgres").text false := by
  constructor
  · intro same
    have mode := enforces_iff.mp (same.enforces.mpr (by decide +kernel))
    revert mode
    decide +kernel
  · intro same
    have accepted : validateDatabaseUrl asciiRuntime (processIn "production")
        (ledgerUri "%70ostgres").text false = .ok (ledgerUri "%70ostgres").text := by
      decide +kernel
    obtain ⟨value, isValue, acceptable⟩ := same.accepts (by decide +kernel) _ accepted
      (plainDriver ledgerKeywords) (documented_plainDriver ledgerKeywords)
    have written : (ledgerUri "%70ostgres").Written ledgerKeywords := by decide +kernel
    rw [(documented_plainDriver ledgerKeywords).reads _ written] at isValue
    obtain rfl := Option.some.inj isValue
    obtain ⟨user, isUser, -, role⟩ := acceptable .user
    have isPostgres : (ledgerUri "%70ostgres").value "user" = some "postgres".toList := by
      decide +kernel
    obtain rfl := Option.some.inj (isPostgres.symm.trans isUser)
    revert role
    decide

end PaymentsPlatform.TransformRuntime.PostgresConnection
