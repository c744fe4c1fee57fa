import PaymentsPlatform.TransformRuntime.ChildCommands

/-!
# What a child can learn from the source

The builders ask for the variables that they pass on, for the settings of Trino, for the token of
Nessie and for the two credentials of one authority.  Two sources that agree on these lead to the
same command, whatever else they hold.
-/

namespace PaymentsPlatform.TransformRuntime.ChildCommands

open Ingestion (isSpace strip)
open Inquiries
open Inquiry (Asks)

/-- The settings of Trino that a builder asks for. -/
def trinoSettings : List String :=
  ["DBT_TRINO_HOST", "DBT_TRINO_PORT", "DBT_TRINO_USER", "DBT_TRINO_PASSWORD",
    "TRINO_KEYSTORE_PASSWORD", "TRINO_INTERNAL_SHARED_SECRET"]

/-- The variables that are no authority's own. -/
def sharedNames : List String := passthrough ++ trinoSettings ++ ["NESSIE_TRANSFORM_TOKEN"]

/-- The credentials of the object store of an authority. -/
def ownCredentials (authority : String) : List String :=
  ((authorityCredentials.lookup authority).map fun names => [names.1, names.2]).getD []

/-- Questions for shared variables, and whether these credentials are there. -/
def Discreet (credentials : List String) : Question → Prop
  | .value name => name ∈ sharedNames
  | .present name => name ∈ sharedNames ∨ name ∈ credentials

/-- Questions for shared variables and for these credentials. -/
def Confined (credentials : List String) : Question → Prop
  | .value name | .present name => name ∈ sharedNames ∨ name ∈ credentials

theorem Discreet.confined {credentials : List String} :
    ∀ question, Discreet credentials question → Confined credentials question
  | .value _, shared => .inl shared
  | .present _, allowed => allowed

theorem storage_shared : ∀ name ∈ objectStoreRequired, name ∈ sharedNames := by decide +kernel

theorem password_shared : ∀ name ∈ ["DBT_TRINO_PASSWORD"], name ∈ sharedNames := by decide +kernel

theorem runtime_shared : ∀ name ∈ runtimeRequired, name ∈ sharedNames := by decide +kernel

theorem mem_sharedNames {name : String} (listed : name ∈ passthrough ∨ name ∈ trinoSettings) :
    name ∈ sharedNames := by
  rw [sharedNames, List.mem_append, List.mem_append]
  exact .inl listed

section Parts

variable {credentials : List String} {name : String} {process : Process}

theorem asks_lookup (shared : name ∈ sharedNames) : (lookup name).Asks (Discreet credentials) :=
  ⟨shared, fun _ => trivial⟩

theorem asks_item (shared : name ∈ sharedNames) : (item name).Asks (Discreet credentials) := by
  apply Asks.bind (asks_lookup shared)
  intro found
  cases found with
  | none => exact Asks.done _
  | some value => exact Asks.pure value

theorem asks_get (shared : name ∈ sharedNames) (default : String) :
    (get name default).Asks (Discreet credentials) :=
  (asks_lookup shared).bind fun _ => Asks.pure _

theorem asks_refuseIf {allowed : Question → Prop} (condition : Bool) (message : String) :
    (refuseIf condition message).Asks allowed := Asks.done _

theorem asks_missingOf {names : List String}
    (known : ∀ name ∈ names, name ∈ sharedNames ∨ name ∈ credentials) :
    (missingOf names).Asks (Discreet credentials) := by
  apply Asks.bind
  · apply Asks.foldlM
    intro found name listed
    have asks : (isPresent name).Asks (Discreet credentials) :=
      ⟨known name listed, fun _ => trivial⟩
    exact asks.bind fun _ => Asks.pure _
  · exact fun missing => Asks.pure _

theorem asks_copied : copied.Asks (Discreet credentials) := by
  apply Asks.foldlM
  intro environment name listed
  have shared : name ∈ sharedNames := by
    simp only [sharedNames, List.append_assoc, List.mem_append]
    exact .inl listed
  exact (asks_lookup shared).bind fun _ => Asks.pure _

theorem asks_checkObjectStore : (checkObjectStore process).Asks (Discreet credentials) := by
  apply Asks.bind (asks_item (mem_sharedNames (by simp [passthrough, trinoSettings])))
  intro endpoint
  apply Asks.bind (asks_item (mem_sharedNames (by simp [passthrough, trinoSettings])))
  intro useSsl
  apply Asks.bind (asks_lookup (mem_sharedNames (by simp [passthrough, trinoSettings])))
  intro caBundle
  exact Asks.bind (Asks.done _) fun validated => Asks.pure _

theorem asks_checkNessie : (checkNessie process).Asks (Discreet credentials) := by
  apply Asks.bind (asks_get (mem_sharedNames (by simp [passthrough, trinoSettings])) "")
  intro endpoint
  apply Asks.bind (asks_item (by simp [sharedNames]))
  intro token
  exact Asks.done _

theorem asks_checkRawPrefix : checkRawPrefix.Asks (Discreet credentials) := by
  apply Asks.bind (asks_item (mem_sharedNames (by simp [passthrough, trinoSettings])))
  intro rawPrefix
  apply Asks.bind (asks_item (mem_sharedNames (by simp [passthrough, trinoSettings])))
  intro root
  apply Asks.bind (asks_item (mem_sharedNames (by simp [passthrough, trinoSettings])))
  intro version
  exact asks_refuseIf _ _

theorem asks_checkWarehouseUri (message : String) :
    (checkWarehouseUri message).Asks (Discreet credentials) := by
  apply Asks.bind (asks_item (mem_sharedNames (by simp [passthrough, trinoSettings])))
  intro bucket
  apply Asks.bind (asks_item (mem_sharedNames (by simp [passthrough, trinoSettings])))
  intro warehouse
  apply Asks.bind (asks_item (mem_sharedNames (by simp [passthrough, trinoSettings])))
  intro uri
  exact asks_refuseIf _ _

theorem asks_childEnvironment (authority executionId workPath branch : String) :
    (childEnvironment authority executionId workPath branch).Asks (Discreet credentials) := by
  apply Asks.bind asks_copied
  intro environment
  apply Asks.bind (asks_get (mem_sharedNames (by simp [passthrough, trinoSettings])) _)
  intro host
  apply Asks.bind (asks_get (mem_sharedNames (by simp [passthrough, trinoSettings])) _)
  intro port
  apply Asks.bind (asks_get (mem_sharedNames (by simp [passthrough, trinoSettings])) _)
  intro user
  apply Asks.bind (asks_item (mem_sharedNames (by simp [passthrough, trinoSettings])))
  exact fun password => Asks.pure _

theorem asks_trinoEnvironment (branch access secret warehouse : String) :
    (trinoEnvironment process branch access secret warehouse).Asks (Discreet credentials) := by
  apply Asks.bind (asks_item (mem_sharedNames (by simp [passthrough, trinoSettings])))
  intro endpoint
  apply Asks.bind (asks_get (mem_sharedNames (by simp [passthrough, trinoSettings])) _)
  intro pathStyle
  apply Asks.bind (asks_item (mem_sharedNames (by simp [passthrough, trinoSettings])))
  intro region
  apply Asks.bind (asks_get (mem_sharedNames (by simp [passthrough, trinoSettings])) _)
  intro keystore
  apply Asks.bind (asks_get (mem_sharedNames (by simp [passthrough, trinoSettings])) _)
  exact fun sharedSecret => Asks.pure _

section Checks

variable {requiredAuthority : List String}
  (known : ∀ name ∈ requiredAuthority, name ∈ sharedNames ∨ name ∈ credentials)

include known

theorem asks_transformChecks :
    (transformChecks process requiredAuthority).Asks (Discreet credentials) := by
  apply Asks.bind (asks_missingOf known)
  intro missingAuthority
  apply Asks.bind (asks_refuseIf _ _)
  intro _
  apply Asks.bind (asks_missingOf fun name listed => .inl (storage_shared name listed))
  intro missingStorage
  apply Asks.bind (asks_refuseIf _ _)
  intro _
  apply Asks.bind (asks_missingOf fun name listed => .inl (password_shared name listed))
  intro missingTrino
  apply Asks.bind (asks_refuseIf _ _)
  intro _
  apply Asks.bind asks_checkObjectStore
  intro _
  apply Asks.bind asks_checkRawPrefix
  intro _
  apply Asks.bind (asks_checkWarehouseUri _)
  intro _
  apply Asks.bind (asks_get (mem_sharedNames (by simp [passthrough, trinoSettings])) _)
  intro configured
  apply Asks.bind (asks_refuseIf _ _)
  intro _
  apply Asks.bind (asks_item (mem_sharedNames (by simp [passthrough, trinoSettings])))
  intro uri
  apply Asks.bind (asks_refuseIf _ _)
  intro _
  exact asks_checkNessie.bind fun _ => Asks.pure _

theorem asks_runtimeChecks :
    (runtimeChecks process requiredAuthority).Asks (Discreet credentials) := by
  apply Asks.bind (asks_missingOf known)
  intro missingAuthority
  apply Asks.bind (asks_refuseIf _ _)
  intro _
  apply Asks.bind (asks_missingOf fun name listed => .inl (runtime_shared name listed))
  intro missing
  apply Asks.bind (asks_refuseIf _ _)
  intro _
  apply Asks.bind asks_checkObjectStore
  intro _
  apply Asks.bind asks_checkNessie
  intro _
  apply Asks.bind asks_checkRawPrefix
  intro _
  apply Asks.bind (asks_checkWarehouseUri _)
  intro _
  apply Asks.bind (asks_item (mem_sharedNames (by simp [passthrough, trinoSettings])))
  intro nessieWarehouse
  apply Asks.bind (asks_item (mem_sharedNames (by simp [passthrough, trinoSettings])))
  intro uri
  exact Asks.bind (asks_refuseIf _ _) fun _ => Asks.pure _

end Checks

end Parts

/-! ## The commands -/

section Commands

variable {process : Process} {requiredAuthority : List String} {accessName secretName : String}
  (known : ∀ name ∈ requiredAuthority, name ∈ sharedNames ∨ name ∈ [accessName, secretName])

theorem confined_item {name : String} (own : name ∈ [accessName, secretName]) :
    (item name).Asks (Confined [accessName, secretName]) := by
  have asks : (lookup name).Asks (Confined [accessName, secretName]) :=
    ⟨.inr own, fun _ => trivial⟩
  apply asks.bind
  intro found
  cases found with
  | none => exact Asks.done _
  | some value => exact Asks.pure value

include known

theorem confined_transformCommand (batchId executionId : String)
    (transformRunId : Option String) (batch : ExecutionBatch) :
    (transformCommand process batchId executionId transformRunId batch requiredAuthority accessName
      secretName).Asks (Confined [accessName, secretName]) := by
  have access := confined_item (@List.mem_cons_self _ accessName [secretName])
  have secret := confined_item (List.mem_cons_of_mem accessName
    (@List.mem_cons_self _ secretName []))
  apply Asks.bind ((asks_transformChecks known).mono Discreet.confined)
  intro nessieWarehouse
  apply Asks.bind ((asks_childEnvironment _ _ _ _).mono Discreet.confined)
  intro base
  apply Asks.bind
  · unfold ExecutionBatch.environment
    split
    next =>
      apply Asks.bind access
      intro accessValue
      exact secret.bind fun _ => Asks.pure _
    next => exact Asks.pure base
  · intro environment
    apply Asks.bind access
    intro accessValue
    apply Asks.bind secret
    intro secretValue
    apply Asks.bind ((asks_trinoEnvironment _ _ _ _).mono Discreet.confined)
    intro trino
    exact Asks.bind (asks_refuseIf _ _) fun _ => Asks.pure _

theorem confined_runtimeCommand (authority operationId executionId transformRunId : String) :
    (runtimeCommand process authority operationId executionId transformRunId requiredAuthority
      accessName secretName).Asks (Confined [accessName, secretName]) := by
  have asks {name : String} (own : name ∈ [accessName, secretName]) :
      (get name "").Asks (Confined [accessName, secretName]) := by
    have asked : (lookup name).Asks (Confined [accessName, secretName]) :=
      ⟨.inr own, fun _ => trivial⟩
    exact asked.bind fun _ => Asks.pure _
  apply Asks.bind ((asks_runtimeChecks known).mono Discreet.confined)
  intro nessieWarehouse
  apply Asks.bind (asks List.mem_cons_self)
  intro access
  apply Asks.bind (asks (List.mem_cons_of_mem _ List.mem_cons_self))
  intro secret
  apply Asks.bind (asks_refuseIf _ _)
  intro _
  apply Asks.bind ((asks_childEnvironment _ _ _ _).mono Discreet.confined)
  intro environment
  apply Asks.bind ((asks_trinoEnvironment _ _ _ _).mono Discreet.confined)
  intro trino
  exact Asks.bind (asks_refuseIf _ _) fun _ => Asks.pure _

end Commands

/-! ## Two sources -/

/-- The sources agree on these variables. -/
def AgreeOn (names : List String) (left right : Source) : Prop :=
  ∀ name ∈ names, left name = right name

section TwoSources

variable {left right : Source} {credentials : List String}

theorem answers_eq_of_confined (agree : AgreeOn (sharedNames ++ credentials) left right)
    (question : Question) (confined : Confined credentials question) :
    left.answers question = right.answers question := by
  cases question with
  | value name => exact agree name (List.mem_append.mpr confined)
  | present name =>
      have same := agree name (List.mem_append.mpr confined)
      change decide ((left name).getD "" ≠ "") = decide ((right name).getD "" ≠ "")
      rw [same]

/-- Every credential is there, whatever it is. -/
def HoldsAll (credentials : List String) (source : Source) : Prop :=
  ∀ name ∈ credentials, (source name).getD "" ≠ ""

theorem answers_eq_of_discreet (agree : AgreeOn sharedNames left right)
    (leftHolds : HoldsAll credentials left) (rightHolds : HoldsAll credentials right)
    (question : Question) (discreet : Discreet credentials question) :
    left.answers question = right.answers question := by
  cases question with
  | value name => exact agree name discreet
  | present name =>
      change decide ((left name).getD "" ≠ "") = decide ((right name).getD "" ≠ "")
      rcases discreet with shared | own
      · rw [agree name shared]
      · rw [decide_eq_true (leftHolds name own), decide_eq_true (rightHolds name own)]

theorem run_item_of_holds {source : Source} {name : String}
    (holds : (source name).getD "" ≠ "") :
    ∃ value, (item name).run source.answers = .ok value := by
  cases found : source name with
  | none => simp [found] at holds
  | some value =>
      refine ⟨value, ?_⟩
      rw [item, Inquiry.run_bind, run_lookup, found]
      rfl

end TwoSources

theorem authorityEnv_lookup (authority : String) : authorityEnv.lookup authority =
    (authorityCredentials.lookup authority).map fun names =>
      [names.1, names.2, "NESSIE_TRANSFORM_TOKEN"] := by
  have each : ∀ table : List (String × String × String),
      (table.map fun entry => (entry.1, [entry.2.1, entry.2.2, "NESSIE_TRANSFORM_TOKEN"])).lookup
        authority = (table.lookup authority).map fun names =>
          [names.1, names.2, "NESSIE_TRANSFORM_TOKEN"] := by
    intro table
    induction table with
    | nil => rfl
    | cons entry rest ih =>
        rw [List.map_cons, List.lookup_cons, List.lookup_cons]
        split
        next => rfl
        next => exact ih
  exact each authorityCredentials

theorem required_known {accessName secretName : String} :
    ∀ name ∈ [accessName, secretName, "NESSIE_TRANSFORM_TOKEN"],
      name ∈ sharedNames ∨ name ∈ [accessName, secretName] := by
  have token : "NESSIE_TRANSFORM_TOKEN" ∈ sharedNames := by simp [sharedNames]
  intro name listed
  rcases List.mem_cons.mp listed with rfl | later
  · exact .inr List.mem_cons_self
  · rcases List.mem_pair.mp later with rfl | rfl
    · exact .inr (List.mem_cons_of_mem _ List.mem_cons_self)
    · exact .inl token

/-! ## Noninterference -/

variable {process : Process} {plan : Plan} {left right : Source}

theorem buildTransformCommand_cases (process : Process) (plan : Plan)
    (batchId executionId : String) (transformRunId : Option String) :
    (∃ fault, ∀ source, buildTransformCommand process plan batchId executionId (some source)
      transformRunId = .error fault) ∨
    ∃ batch accessName secretName, plan batchId = some batch ∧
      authorityCredentials.lookup batch.authority = some (accessName, secretName) ∧
      ∀ source, buildTransformCommand process plan batchId executionId (some source)
        transformRunId = (transformCommand process batchId executionId transformRunId batch
          [accessName, secretName, "NESSIE_TRANSFORM_TOKEN"] accessName secretName).run
            source.answers := by
  unfold buildTransformCommand
  cases plan batchId with
  | none => exact .inl ⟨_, fun _ => rfl⟩
  | some batch =>
      simp only [authorityEnv_lookup]
      cases own : authorityCredentials.lookup batch.authority with
      | none => exact .inl ⟨_, fun _ => rfl⟩
      | some names =>
          simp only [Option.map_some]
          split
          next => exact .inl ⟨_, fun _ => rfl⟩
          next =>
            split
            next => exact .inl ⟨_, fun _ => rfl⟩
            next =>
              split
              next => exact .inl ⟨_, fun _ => rfl⟩
              next => exact .inr ⟨batch, names.1, names.2, rfl, own, fun _ => rfl⟩

theorem buildGovernedRuntimeCommand_cases (process : Process)
    (authority operationId executionId transformRunId : String) :
    (∃ fault, ∀ source, buildGovernedRuntimeCommand process authority operationId executionId
      (some source) transformRunId = .error fault) ∨
    ∃ accessName secretName,
      authorityCredentials.lookup authority = some (accessName, secretName) ∧
      ∀ source, buildGovernedRuntimeCommand process authority operationId executionId
        (some source) transformRunId = (runtimeCommand process authority operationId executionId
          transformRunId [accessName, secretName, "NESSIE_TRANSFORM_TOKEN"] accessName
            secretName).run source.answers := by
  unfold buildGovernedRuntimeCommand
  rw [authorityEnv_lookup]
  cases own : authorityCredentials.lookup authority with
  | none => exact .inl ⟨_, fun _ => rfl⟩
  | some names =>
      simp only [Option.map_some]
      split
      next => exact .inl ⟨_, fun _ => rfl⟩
      next =>
        split
        next => exact .inl ⟨_, fun _ => rfl⟩
        next =>
          split
          next => exact .inl ⟨_, fun _ => rfl⟩
          next => exact .inr ⟨names.1, names.2, rfl, fun _ => rfl⟩

/-- The authority of a batch that is planned. -/
def authorityOf (plan : Plan) (batchId : String) : String :=
  ((plan batchId).map ExecutionBatch.authority).getD ""

theorem buildTransformCommand_eq (batchId executionId : String) (transformRunId : Option String)
    (agree : AgreeOn (sharedNames ++ ownCredentials (authorityOf plan batchId)) left right) :
    buildTransformCommand process plan batchId executionId (some left) transformRunId =
      buildTransformCommand process plan batchId executionId (some right) transformRunId := by
  rcases buildTransformCommand_cases process plan batchId executionId transformRunId with
    ⟨fault, refused⟩ | ⟨batch, accessName, secretName, planned, own, built⟩
  · rw [refused, refused]
  · rw [built, built]
    apply (confined_transformCommand required_known _ _ _ _).run_eq
    apply answers_eq_of_confined
    simpa [authorityOf, planned, ownCredentials, own] using agree

theorem buildGovernedRuntimeCommand_eq (authority operationId executionId transformRunId : String)
    (agree : AgreeOn (sharedNames ++ ownCredentials authority) left right) :
    buildGovernedRuntimeCommand process authority operationId executionId (some left)
        transformRunId =
      buildGovernedRuntimeCommand process authority operationId executionId (some right)
        transformRunId := by
  rcases buildGovernedRuntimeCommand_cases process authority operationId executionId
      transformRunId with
    ⟨fault, refused⟩ | ⟨accessName, secretName, own, built⟩
  · rw [refused, refused]
  · rw [built, built]
    apply (confined_runtimeCommand required_known _ _ _ _).run_eq
    apply answers_eq_of_confined
    simpa [ownCredentials, own] using agree

/-! ### The environment of a child that does not ingest -/

theorem trinoEnvironment_run (source : Source) (branch warehouse : String) :
    ∃ outcome : Except Fault (String → String → Environment), ∀ access secret,
      (trinoEnvironment process branch access secret warehouse).run source.answers =
        outcome.map fun fill => fill access secret := by
  simp only [trinoEnvironment, Inquiry.run_bind, run_get, Inquiry.run_pure]
  cases (item "S3_ENDPOINT").run source.answers with
  | error fault => exact ⟨.error fault, fun _ _ => rfl⟩
  | ok endpoint =>
      cases (item "OBJECT_STORE_REGION").run source.answers with
      | error fault => exact ⟨.error fault, fun _ _ => rfl⟩
      | ok region => exact ⟨.ok _, fun _ _ => rfl⟩

/-- The credentials of the authority do not come into the environment of a child that does not
ingest. -/
theorem transformCommand_environment_run {accessName secretName : String} {source : Source}
    (batchId executionId : String) (transformRunId : Option String) {batch : ExecutionBatch}
    (requiredAuthority : List String) (plain : batch.boundedIngestion = false)
    (holds : HoldsAll [accessName, secretName] source) :
    ((transformCommand process batchId executionId transformRunId batch requiredAuthority
        accessName secretName).run source.answers).map TransformCommand.environment =
      (do
        let warehouse ← transformChecks process requiredAuthority
        let branch := "transform_" ++ transformRunId.getD executionId
        let base ← childEnvironment batch.authority executionId (workPath process executionId)
          branch
        let _ ← trinoEnvironment process branch "" "" warehouse
        refuseForbidden base
        return base : Reader Environment).run source.answers := by
  obtain ⟨access, isAccess⟩ := run_item_of_holds (holds accessName List.mem_cons_self)
  obtain ⟨secret, isSecret⟩ :=
    run_item_of_holds (holds secretName (List.mem_cons_of_mem _ List.mem_cons_self))
  have environment base : batch.environment base accessName secretName = pure base := by
    rw [ExecutionBatch.environment, plain]
    rfl
  have ok_bind {α β : Type} (value : α) (after : α → Except Fault β) :
      (Except.ok value >>= after) = after value := rfl
  simp only [transformCommand, environment, Inquiry.run_bind, Inquiry.run_pure, ok_bind, isAccess,
    isSecret]
  cases (transformChecks process requiredAuthority).run source.answers with
  | error fault => rfl
  | ok warehouse =>
      simp only [ok_bind]
      cases (childEnvironment batch.authority executionId (workPath process executionId)
          ("transform_" ++ transformRunId.getD executionId)).run source.answers with
      | error fault => rfl
      | ok base =>
          obtain ⟨outcome, isFilled⟩ := @trinoEnvironment_run process source
            ("transform_" ++ transformRunId.getD executionId) warehouse
          simp only [ok_bind, isFilled]
          cases outcome with
          | error fault => rfl
          | ok fill =>
            change Except.map _ ((refuseForbidden base).run source.answers >>= _) =
              ((refuseForbidden base).run source.answers >>= _)
            cases (refuseForbidden base).run source.answers with
            | error fault => rfl
            | ok done => rfl

theorem transformCommand_environment_eq {accessName secretName : String} (batchId : String)
    (executionId : String) (transformRunId : Option String) {batch : ExecutionBatch}
    (plain : batch.boundedIngestion = false) (agree : AgreeOn sharedNames left right)
    (leftHolds : HoldsAll [accessName, secretName] left)
    (rightHolds : HoldsAll [accessName, secretName] right) :
    ((transformCommand process batchId executionId transformRunId batch
      [accessName, secretName, "NESSIE_TRANSFORM_TOKEN"] accessName secretName).run
        left.answers).map TransformCommand.environment =
    ((transformCommand process batchId executionId transformRunId batch
      [accessName, secretName, "NESSIE_TRANSFORM_TOKEN"] accessName secretName).run
        right.answers).map TransformCommand.environment := by
  rw [transformCommand_environment_run _ _ _ _ plain leftHolds,
    transformCommand_environment_run _ _ _ _ plain rightHolds]
  refine Asks.run_eq ?_ (answers_eq_of_discreet agree leftHolds rightHolds)
  apply Asks.bind (asks_transformChecks required_known)
  intro warehouse
  apply Asks.bind (asks_childEnvironment _ _ _ _)
  intro base
  apply Asks.bind (asks_trinoEnvironment _ _ _ _)
  intro trino
  exact Asks.bind (asks_refuseIf _ _) fun _ => Asks.pure _

/-! ### The names in a command -/

/-- The names that a builder sets itself in the environment of a child. -/
def childNames : List String :=
  ["PATH", "DBT_LOG_PATH", "DBT_TARGET_PATH", "DBT_NESSIE_BRANCH", "DBT_TRINO_HOST",
    "DBT_TRINO_PORT", "DBT_TRINO_USER", "DBT_TRINO_PASSWORD", "TRANSFORM_AUTHORITY",
    "TRANSFORM_EXECUTION_ID", "TRANSFORM_EXECUTION_WORK_PATH"]

/-- The names in the environment of the private Trino. -/
def trinoNames : List String :=
  ["DBT_NESSIE_BRANCH", "TRINO_S3_ACCESS_KEY_ID", "TRINO_S3_SECRET_ACCESS_KEY",
    "NESSIE_WAREHOUSE", "S3_ENDPOINT", "S3_PATH_STYLE_ACCESS", "OBJECT_STORE_REGION",
    "TRINO_KEYSTORE_PASSWORD", "TRINO_INTERNAL_SHARED_SECRET", "PATH", "JAVA_HOME",
    "JAVA_TOOL_OPTIONS"]

theorem mem_keys_set {environment : Environment} {name other value : String}
    (listed : name ∈ (environment.set other value).keys) :
    name = other ∨ name ∈ environment.keys := by
  rw [Dict.keys, Dict.set, Dict.keys_put] at listed
  split at listed
  next => exact .inr listed
  next =>
    rcases List.mem_append.mp listed with known | new
    · exact .inr known
    · exact .inl (List.mem_singleton.mp new)

theorem mem_keys_updated {entries : List (String × String)} {environment : Environment}
    {name : String} (listed : name ∈ (updated environment entries).keys) :
    name ∈ environment.keys ∨ name ∈ entries.map Prod.fst := by
  induction entries generalizing environment with
  | nil => exact .inl listed
  | cons entry rest ih =>
      rcases ih listed with known | later
      · rcases mem_keys_set known with rfl | older
        · exact .inr List.mem_cons_self
        · exact .inl older
      · exact .inr (List.mem_cons_of_mem _ later)

theorem mem_keys_of_foldlM {source : Source} {step : Environment → String → Reader Environment}
    (adds : ∀ before added after, (step before added).run source.answers = .ok after →
      ∀ name ∈ after.keys, name ∈ before.keys ∨ name = added)
    {names : List String} {start environment : Environment}
    (ran : (names.foldlM step start).run source.answers = .ok environment) :
    ∀ name ∈ environment.keys, name ∈ start.keys ∨ name ∈ names := by
  induction names generalizing start with
  | nil =>
      intro name listed
      cases ran
      exact .inl listed
  | cons first rest ih =>
      intro name listed
      rw [List.foldlM_cons, Inquiry.run_bind_eq_ok] at ran
      obtain ⟨middle, stepped, later⟩ := ran
      rcases ih later name listed with known | later
      · rcases adds start first middle stepped name known with older | rfl
        · exact .inl older
        · exact .inr List.mem_cons_self
      · exact .inr (List.mem_cons_of_mem first later)

theorem mem_passthrough_of_copied {source : Source} {environment : Environment}
    (ran : copied.run source.answers = .ok environment) :
    ∀ name ∈ environment.keys, name ∈ passthrough := by
  intro name listed
  have known := mem_keys_of_foldlM ?adds ran name listed
  case adds =>
    intro before added after stepped other listed
    rw [Inquiry.run_bind, run_lookup] at stepped
    cases found : source added with
    | none =>
        rw [found] at stepped
        cases stepped
        exact .inl listed
    | some value =>
        rw [found] at stepped
        have result := Except.ok.inj stepped
        dsimp only at result
        split at result
        next => exact .inl (result ▸ listed)
        next =>
          subst result
          exact (mem_keys_set listed).symm
  rcases known with known | named
  · cases known
  · exact named

/-- Where a command of an authority may hold something. -/
structure Confines (authority : String) (command : TransformCommand) : Prop where
  environment : ∀ name ∈ command.environment.keys,
    name ∈ passthrough ++ childNames ++ ownCredentials authority
  trinoEnvironment : ∀ name ∈ command.trinoEnvironment.keys, name ∈ trinoNames

section Names

variable {source : Source}

theorem childEnvironment_keys {authority executionId workPath branch : String}
    {environment : Environment}
    (ran : (childEnvironment authority executionId workPath branch).run source.answers =
      .ok environment) :
    ∀ name ∈ environment.keys, name ∈ passthrough ++ childNames := by
  simp only [childEnvironment, Inquiry.run_bind_eq_ok, Inquiry.run_pure] at ran
  obtain ⟨base, isCopied, host, -, port, -, user, -, password, -, result⟩ := ran
  cases result
  intro name listed
  rcases mem_keys_updated listed with known | set
  · exact List.mem_append_left _ (mem_passthrough_of_copied isCopied name known)
  · exact List.mem_append_right _ set

theorem trinoEnvironment_keys {branch access secret warehouse : String}
    {environment : Environment}
    (ran : (trinoEnvironment process branch access secret warehouse).run source.answers =
      .ok environment) :
    ∀ name ∈ environment.keys, name ∈ trinoNames := by
  simp only [trinoEnvironment, Inquiry.run_bind_eq_ok, Inquiry.run_pure] at ran
  obtain ⟨endpoint, -, pathStyle, -, region, -, keystore, -, sharedSecret, -, result⟩ := ran
  cases result
  intro name listed
  rcases mem_keys_updated listed with known | set
  · cases known
  · exact set

theorem environment_keys {batch : ExecutionBatch} {base environment : Environment}
    {accessName secretName : String}
    (ran : (batch.environment base accessName secretName).run source.answers = .ok environment) :
    ∀ name ∈ environment.keys, name ∈ base.keys ∨ name ∈ [accessName, secretName] := by
  unfold ExecutionBatch.environment at ran
  split at ran
  next =>
    simp only [Inquiry.run_bind_eq_ok, Inquiry.run_pure] at ran
    obtain ⟨access, -, secret, -, result⟩ := ran
    cases result
    exact fun name => mem_keys_updated
  next =>
    cases ran
    exact fun name known => .inl known

theorem confines_transformCommand {batchId executionId accessName secretName : String}
    {transformRunId : Option String} {batch : ExecutionBatch} {requiredAuthority : List String}
    {command : TransformCommand}
    (own : authorityCredentials.lookup batch.authority = some (accessName, secretName))
    (ran : (transformCommand process batchId executionId transformRunId batch requiredAuthority
      accessName secretName).run source.answers = .ok command) :
    Confines batch.authority command := by
  simp only [transformCommand, Inquiry.run_bind_eq_ok, Inquiry.run_pure] at ran
  obtain ⟨warehouse, -, base, isBase, environment, isEnvironment, access, -, secret, -, trino,
    isTrino, -, -, result⟩ := ran
  cases result
  refine ⟨?_, trinoEnvironment_keys isTrino⟩
  intro name listed
  rcases environment_keys isEnvironment name listed with known | credential
  · exact List.mem_append_left _ (childEnvironment_keys isBase name known)
  · apply List.mem_append_right
    rw [ownCredentials, own]
    exact credential

theorem confines_runtimeCommand {authority operationId executionId transformRunId : String}
    {accessName secretName : String} {requiredAuthority : List String}
    {command : TransformCommand}
    (ran : (runtimeCommand process authority operationId executionId transformRunId
      requiredAuthority accessName secretName).run source.answers = .ok command) :
    Confines authority command := by
  simp only [runtimeCommand, Inquiry.run_bind_eq_ok, Inquiry.run_pure] at ran
  obtain ⟨warehouse, -, access, -, secret, -, -, -, environment, isEnvironment, trino, isTrino,
    -, -, result⟩ := ran
  cases result
  exact ⟨fun name listed => List.mem_append_left _ (childEnvironment_keys isEnvironment name listed),
    trinoEnvironment_keys isTrino⟩

end Names

/-- The credentials that are no business of an authority: those of the root of the object store,
and those of the other authorities. -/
def foreignCredentials (authority : String) : List String :=
  forbiddenEnv ++ (authorityCredentials.filter (·.1 ≠ authority)).flatMap fun entry =>
    [entry.2.1, entry.2.2]

theorem foreign_reserved {authority : String} :
    ∀ name ∈ foreignCredentials authority, name ∈ foreignCredentials "" := by
  intro name foreign
  rcases List.mem_append.mp foreign with root | credential
  · exact List.mem_append_left _ root
  · apply List.mem_append_right
    obtain ⟨entry, listed, mentioned⟩ := List.mem_flatMap.mp credential
    apply List.mem_flatMap.mpr
    refine ⟨entry, ?_, mentioned⟩
    have named : ∀ entry ∈ authorityCredentials, entry.1 ≠ "" := by decide +kernel
    have inTable := List.mem_of_mem_filter listed
    exact List.mem_filter.mpr ⟨inTable, by simp [named entry inTable]⟩

theorem reserved_unused : ∀ name ∈ foreignCredentials "",
    name ∉ sharedNames ∧ name ∉ childNames ∧ name ∉ trinoNames := by decide +kernel

theorem foreign_notMem_own {authority : String} :
    ∀ name ∈ foreignCredentials authority, name ∉ ownCredentials authority := by
  intro name foreign own
  have apart : ∀ entry ∈ authorityCredentials,
      (∀ name ∈ [entry.2.1, entry.2.2], name ∉ forbiddenEnv) ∧
        ∀ other ∈ authorityCredentials, other.1 ≠ entry.1 →
          ∀ name ∈ [entry.2.1, entry.2.2], name ∉ [other.2.1, other.2.2] := by decide +kernel
  unfold ownCredentials at own
  cases found : authorityCredentials.lookup authority with
  | none =>
      rw [found] at own
      cases own
  | some names =>
      rw [found] at own
      obtain ⟨before, after, split, -⟩ := List.lookup_eq_some_iff.mp found
      have listed : (authority, names) ∈ authorityCredentials := by
        rw [split]
        exact List.mem_append_right _ List.mem_cons_self
      obtain ⟨notRoot, notOther⟩ := apart (authority, names) listed
      rcases List.mem_append.mp foreign with root | credential
      · exact notRoot name own root
      · obtain ⟨other, otherListed, mentioned⟩ := List.mem_flatMap.mp credential
        obtain ⟨inTable, differs⟩ := List.mem_filter.mp otherListed
        exact notOther other inTable (by simpa using differs) name own mentioned

theorem Confines.foreign {authority : String} {command : TransformCommand}
    (confines : Confines authority command) : ∀ name ∈ foreignCredentials authority,
      name ∉ command.environment.keys ∧ name ∉ command.trinoEnvironment.keys := by
  intro name foreign
  obtain ⟨notShared, notChild, notTrino⟩ := reserved_unused name (foreign_reserved name foreign)
  refine ⟨fun listed => ?_, fun listed => notTrino (confines.trinoEnvironment name listed)⟩
  rcases List.mem_append.mp (confines.environment name listed) with general | own
  · rcases List.mem_append.mp general with passed | set
    · exact notShared (List.mem_append_left _ (List.mem_append_left _ passed))
    · exact notChild set
  · exact foreign_notMem_own name foreign own

/-! ### Isolation -/

/-- The commands that come out of a source for an authority. -/
structure Isolates (authority : String) (build : Source → Except Fault TransformCommand) :
    Prop where
  /-- Nothing but the shared variables and the credentials of the authority matters. -/
  alike : ∀ left right, AgreeOn (sharedNames ++ ownCredentials authority) left right →
    build left = build right
  /-- So the value of any other variable does not matter, -/
  undeclared : ∀ source name value, name ∉ sharedNames ++ ownCredentials authority →
    build (Function.update source name value) = build source
  /-- the root's and another authority's credentials among them, -/
  foreign : ∀ source value, ∀ name ∈ foreignCredentials authority,
    build (Function.update source name value) = build source
  /-- which a command does not even name. -/
  confines : ∀ source command, build source = .ok command →
    Confines authority command ∧ ∀ name ∈ foreignCredentials authority,
      name ∉ command.environment.keys ∧ name ∉ command.trinoEnvironment.keys

theorem Isolates.of_alike {authority : String} {build : Source → Except Fault TransformCommand}
    (alike : ∀ left right, AgreeOn (sharedNames ++ ownCredentials authority) left right →
      build left = build right)
    (confines : ∀ source command, build source = .ok command → Confines authority command) :
    Isolates authority build := by
  have undeclared source name value
      (undeclared : name ∉ sharedNames ++ ownCredentials authority) :
      build (Function.update source name value) = build source := by
    apply alike
    intro other declared
    apply Function.update_of_ne
    rintro rfl
    exact undeclared declared
  refine ⟨alike, undeclared, ?_, fun source command built =>
    ⟨confines source command built, (confines source command built).foreign⟩⟩
  intro source value name foreign
  apply undeclared
  intro declared
  rcases List.mem_append.mp declared with shared | own
  · exact (reserved_unused name (foreign_reserved name foreign)).1 shared
  · exact foreign_notMem_own name foreign own

theorem isolates_buildTransformCommand (batchId executionId : String)
    (transformRunId : Option String) :
    Isolates (authorityOf plan batchId) fun source =>
      buildTransformCommand process plan batchId executionId (some source) transformRunId := by
  apply Isolates.of_alike
  · exact fun left right => buildTransformCommand_eq batchId executionId transformRunId
  · intro source command ran
    rcases buildTransformCommand_cases process plan batchId executionId transformRunId with
      ⟨fault, refused⟩ | ⟨batch, accessName, secretName, planned, own, built⟩
    · rw [refused] at ran
      cases ran
    · rw [built] at ran
      rw [authorityOf, planned]
      exact confines_transformCommand own ran

theorem isolates_buildGovernedRuntimeCommand
    (authority operationId executionId transformRunId : String) :
    Isolates authority fun source => buildGovernedRuntimeCommand process authority operationId
      executionId (some source) transformRunId := by
  apply Isolates.of_alike
  · exact fun left right =>
      buildGovernedRuntimeCommand_eq authority operationId executionId transformRunId
  · intro source command ran
    rcases buildGovernedRuntimeCommand_cases process authority operationId executionId
        transformRunId with
      ⟨fault, refused⟩ | ⟨accessName, secretName, own, built⟩
    · rw [refused] at ran
      cases ran
    · rw [built] at ran
      exact confines_runtimeCommand ran

theorem buildTransformCommand_environment_eq {batchId : String} {batch : ExecutionBatch}
    (planned : plan batchId = some batch) (plain : batch.boundedIngestion = false)
    (executionId : String) (transformRunId : Option String) (agree : AgreeOn sharedNames left right)
    (leftHolds : HoldsAll (ownCredentials batch.authority) left)
    (rightHolds : HoldsAll (ownCredentials batch.authority) right) :
    (buildTransformCommand process plan batchId executionId (some left) transformRunId).map
        TransformCommand.environment =
      (buildTransformCommand process plan batchId executionId (some right) transformRunId).map
        TransformCommand.environment := by
  rcases buildTransformCommand_cases process plan batchId executionId transformRunId with
    ⟨fault, refused⟩ | ⟨known, accessName, secretName, isKnown, own, built⟩
  · rw [refused, refused]
  · obtain rfl : batch = known := Option.some.inj (planned.symm.trans isKnown)
    rw [ownCredentials, own] at leftHolds rightHolds
    rw [built, built]
    exact transformCommand_environment_eq batchId executionId transformRunId plain agree leftHolds
      rightHolds

/-- A child gets no credential but those of its own authority, and a child that ingests nothing
learns nothing of these either. -/
theorem children_isolated (process : Process) :
    (∀ plan batchId executionId transformRunId,
      Isolates (authorityOf plan batchId) fun source =>
        buildTransformCommand process plan batchId executionId (some source) transformRunId) ∧
    (∀ authority operationId executionId transformRunId,
      Isolates authority fun source => buildGovernedRuntimeCommand process authority operationId
        executionId (some source) transformRunId) ∧
    ∀ plan batchId batch executionId transformRunId left right,
      plan batchId = some batch → batch.boundedIngestion = false →
      AgreeOn sharedNames left right → HoldsAll (ownCredentials batch.authority) left →
      HoldsAll (ownCredentials batch.authority) right →
      (buildTransformCommand process plan batchId executionId (some left) transformRunId).map
          TransformCommand.environment =
        (buildTransformCommand process plan batchId executionId (some right) transformRunId).map
          TransformCommand.environment := by
  refine ⟨?_, isolates_buildGovernedRuntimeCommand, ?_⟩
  · intro plan batchId executionId transformRunId
    exact isolates_buildTransformCommand batchId executionId transformRunId
  · intro plan batchId batch executionId transformRunId left right planned plain agree leftHolds
      rightHolds
    exact buildTransformCommand_environment_eq planned plain executionId transformRunId agree
      leftHolds rightHolds

end PaymentsPlatform.TransformRuntime.ChildCommands
