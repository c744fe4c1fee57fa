import PaymentsPlatform.TransformRuntime.TokenLinkCreation

/-!
# A child that is answered comes to its `RENAME`

Safety holds whatever becomes of the statements.  Here each of them is answered: the child of an
execution without a table, in a catalog without a final one, creates its staging table, fills
it, and is fourteen statements later about to rename it.
-/

namespace PaymentsPlatform.TransformRuntime.TokenLink

open RelyGuarantee
open Ingestion (isSpace strip)

/-- `silver_vault` of `iceberg`, where the bare name in `validate_table` is looked up. -/
def vaultSession : Option (String × String) := some ("iceberg", "silver_vault")

theorem governedName_stagingTable (execution : ExecutionId) :
    governedName execution.stagingTable := by
  have digits : hexadecimalDigits.all fun digit =>
      digit.isLower || digit.isDigit || digit = '_' := by
    decide
  have start : "__bootstrap_".toList = '_' :: "_bootstrap_".toList := by decide
  have middle : "_bootstrap_".toList.all fun character =>
      character.isLower || character.isDigit || character = '_' := by
    decide
  unfold governedName
  rw [execution.stagingTable_toList, start, List.cons_append]
  simp only [decide_true, Bool.or_true, Bool.true_and]
  rw [List.all_append, Bool.and_eq_true]
  refine ⟨middle, List.all_eq_true.mpr ?_⟩
  intro digit listed
  exact List.all_eq_true.mp digits digit (execution.hexadecimal digit listed)

/-- The staging table as `CREATE TABLE` leaves it. -/
def createdTable (execution : ExecutionId) (choice : Choice) : Table where
  comment := some execution.marker
  location := choice.location.text
  columns := expectedColumns
  rows := []
  creator := some execution

section Scripts

variable {session : Option (String × String)} {choice : Choice} {store : Store}

theorem relationExists_reaches {table : String} (named : governedName table) :
    Reaches (perform session) choice 1 store (relationExists table) store
      (.done (.ok (store.tables (governed table)).isSome)) := by
  unfold relationExists
  rw [if_pos named]
  apply Reaches.ask rfl
  cases store.tables (governed table) with
  | none => exact .refl store _
  | some held => exact .refl store _

theorem tableLocation_reaches {environment : Environment} {relation : Relation} {table : Table}
    {found : List Char} {location : String} (held : store.tables relation = some table)
    (single : findLocations 0 (showCreateTable relation table) = [found])
    (trimmed : String.ofList ((undoubled found).reverse.dropWhile (· = '/')).reverse = location)
    (within : environment.withinWarehouse location = .ok ()) :
    Reaches (perform session) choice 1 store (tableLocation environment (.qualified relation))
      store (.done (.ok location)) := by
  have shown : Reaches (perform session) choice 1 store (showCreate (.qualified relation)) store
      (.done (.ok (String.ofList (showCreateTable relation table)))) := by
    have answered : perform session choice (.showCreate (.qualified relation)) store =
        .ok (store, .texts [String.ofList (showCreateTable relation table)]) := by
      simp [perform, Store.find, Target.resolve, held, Except.map]
    apply Reaches.ask answered
    simp only [String.intercalate_singleton]
    exact .refl store _
  apply shown.andThen
  simp only [String.toList_ofList, single, trimmed, within]
  exact .refl store _

theorem validateTable_reaches {table : Table} {name : String} {expectedRows : Option Nat}
    {version : Option String} {counted : Nat}
    (held : store.tables (governed name) = some table) (columns : table.columns = expectedColumns)
    (checked : checkAggregates (aggregates table.rows) expectedRows version = .ok counted) :
    Reaches (perform vaultSession) choice 2 store
      (validateTable (.bare name) expectedRows version) store (.done (.ok counted)) := by
  have listed : perform vaultSession choice (.columns name) store =
      .ok (store, .columns expectedColumns) := by
    simp [perform, held, columns]
  have lowered : expectedColumns.map (fun column => (column.1, column.2.toLower)) =
      expectedColumns := by
    decide +kernel
  have answered : perform vaultSession choice (.aggregate (.bare name)) store =
      .ok (store, .aggregates (aggregates table.rows)) := by
    have found : store.find vaultSession (.bare name) = .ok (governed name, table) := by
      simp only [Store.find, Target.resolve, vaultSession, Option.map_some]
      rw [show (⟨"iceberg", "silver_vault", name⟩ : Relation) = governed name from rfl, held]
    simp [perform, found, columns]
  apply Reaches.ask listed
  simp only [lowered, if_true]
  apply Reaches.ask answered
  simp only [checked]
  exact .refl store _

end Scripts

/-! ## Up to `CREATE TABLE` -/

theorem exists_of_isOk {α : Type} {outcome : Except Fault α} (isOk : outcome.isOk) :
    ∃ value, outcome = .ok value := by
  cases outcome with
  | ok value => exact ⟨value, rfl⟩
  | error fault => cases isOk

theorem operationContext_eq {environment : Environment} {execution : ExecutionId}
    {version : String}
    (named : requireEnv environment "TRANSFORM_EXECUTION_ID" = .ok execution.text)
    (operation : requireEnv environment "PROTECTED_BOOTSTRAP_OPERATION" =
      .ok "initial_token_link_creation")
    (operationVersion : requireEnv environment "PROTECTED_BOOTSTRAP_VERSION" = .ok "1")
    (authority : requireEnv environment "TRANSFORM_AUTHORITY" =
      .ok "restricted_identity_transform")
    (key : (environment.requireMountedSecret "DP_TOKEN_KEY").isOk)
    (keyVersion : environment.requireMountedSecret "DP_TOKEN_KEY_VERSION" = .ok version)
    (nonblank : strip isSpace version ≠ "") :
    operationContext environment = .ok ⟨execution, execution.stagingTable, version, rfl⟩ := by
  obtain ⟨mounted, isMounted⟩ := exists_of_isOk key
  simp [operationContext, named, operation, operationVersion, authority, isMounted, keyVersion,
    ExecutionId.fullmatch_text, nonblank, bind, Except.bind]

variable {environment : Environment} {context : OperationContext} {choice : Choice} {store : Store}

/-- What the child of an execution has to find to come to its `RENAME`. -/
structure Ready (environment : Environment) (context : OperationContext) (choice : Choice)
    (store : Store) : Prop where
  access : (requireEnv environment "RESTRICTED_TRANSFORM_S3_ACCESS_KEY_ID").isOk
  secret : (requireEnv environment "RESTRICTED_TRANSFORM_S3_SECRET_ACCESS_KEY").isOk
  noFinal : store.final = none
  noStaging : store.staging context.executionId = none
  nonempty : choice.identifiers ≠ []
  distinct : choice.identifiers.Nodup
  built : ∃ links, buildTokenLinks environment choice.identifiers context.tokenVersion =
      .ok links ∧ links.length = choice.identifiers.length ∧
    (checkAggregates (aggregates (links.map TokenLinkRow.stored)) (some choice.identifiers.length)
      (some context.tokenVersion)).isOk
  located : ∃ found, findLocations 0 (showCreateTable (governed context.executionId.stagingTable)
      (createdTable context.executionId choice)) = [found] ∧
    environment.withinWarehouse
      (String.ofList ((undoubled found).reverse.dropWhile (· = '/')).reverse) = .ok ()

/-- The store after `CREATE TABLE`. -/
def created (context : OperationContext) (choice : Choice) (store : Store) : Store :=
  store.setTable (governed context.executionId.stagingTable)
    (some (createdTable context.executionId choice))

theorem prepare_reaches (ready : Ready environment context choice store)
    {links : List TokenLinkRow}
    (built : buildTokenLinks environment choice.identifiers context.tokenVersion = .ok links)
    (lengths : links.length = choice.identifiers.length) :
    Reaches (perform vaultSession) choice 7 store (prepare environment context)
      (created context choice store) (.done (.ok (choice.identifiers.length, links))) := by
  obtain ⟨access, isAccess⟩ := exists_of_isOk ready.access
  obtain ⟨secret, isSecret⟩ := exists_of_isOk ready.secret
  have noFinal : (store.tables (governed finalTable)).isSome = false := by
    rw [Option.isSome_eq_false_iff, Option.isNone_iff_eq_none]
    exact ready.noFinal
  have noStaging : (store.tables (governed context.executionId.stagingTable)).isSome = false := by
    rw [Option.isSome_eq_false_iff, Option.isNone_iff_eq_none]
    exact ready.noStaging
  have fresh : perform vaultSession choice
      (.createTable context.stagingTarget context.executionId) store =
        .ok (created context choice store, .nothing) := by
    simp [perform, OperationContext.stagingTarget, context.owned, Target.resolve, created,
      createdTable, show store.tables (governed context.executionId.stagingTable) = none from
        ready.noStaging]
  unfold prepare
  rw [isAccess, isSecret, context.owned]
  apply Reaches.ask rfl
  apply Reaches.ask rfl
  apply (relationExists_reaches (by decide)).andThen
  rw [noFinal]
  apply (relationExists_reaches (governedName_stagingTable context.executionId)).andThen
  rw [noStaging]
  apply Reaches.ask rfl
  have accepted : ¬ (choice.identifiers = [] ∨ ¬ choice.identifiers.Nodup) := by
    simp [ready.nonempty, ready.distinct]
  simp only [if_neg accepted, built]
  apply Reaches.lift
  rw [if_neg (not_not.mpr lengths)]
  apply Reaches.ask rfl
  apply Reaches.ask fresh
  exact .refl _ _

/-! ## Up to `RENAME` -/

theorem stage_reaches (ready : Ready environment context choice store)
    {links : List TokenLinkRow} {counted : Nat}
    (checked : checkAggregates (aggregates (links.map TokenLinkRow.stored))
      (some choice.identifiers.length) (some context.tokenVersion) = .ok counted) :
    ∃ staged, Reaches (perform vaultSession) choice 7 (created context choice store)
      (stage environment context choice.identifiers.length links) staged (.done (.ok ())) := by
  obtain ⟨found, single, within⟩ := ready.located
  let table := createdTable context.executionId choice
  let location := String.ofList ((undoubled found).reverse.dropWhile (· = '/')).reverse
  let parquet := location ++ "/data/" ++ context.executionId.text ++ "-" ++ finalTable ++ ".parquet"
  let rows := links.map TokenLinkRow.stored
  let relation := governed context.executionId.stagingTable
  have held : (created context choice store).tables relation = some table := setTable_same _
  -- the store once the rows are copied, and once they are added
  let copied : Store :=
    { created context choice store with
      files := Function.update (created context choice store).files parquet (some rows) }
  let filled := copied.setTable relation (some { table with rows := table.rows ++ rows })
  have added : perform vaultSession choice (.addFiles (.qualified relation) parquet) copied =
      .ok (filled, .nothing) := by
    have isFound : copied.find vaultSession (.qualified relation) = .ok (relation, table) := by
      simp only [Store.find, Target.resolve]
      rw [show copied.tables relation = some table from held]
    have file : copied.files parquet = some rows := Function.update_self _ _ _
    simp only [perform, isFound, file]
    rfl
  have noFinal : (filled.tables (governed finalTable)).isSome = false := by
    rw [Option.isSome_eq_false_iff, Option.isNone_iff_eq_none]
    have other := (staging_ne_final context.executionId).symm
    have before : (created context choice store).tables (governed finalTable) =
        store.tables (governed finalTable) := setTable_other other _
    have after : filled.tables (governed finalTable) =
        (created context choice store).tables (governed finalTable) := setTable_other other _
    exact (after.trans before).trans ready.noFinal
  have filledTable : filled.tables relation = some { table with rows := rows } := setTable_same _
  refine ⟨filled, ?_⟩
  unfold stage OperationContext.stagingTarget
  rw [context.owned]
  apply (tableLocation_reaches held single rfl within).andThen
  apply Reaches.ask rfl
  apply Reaches.ask rfl
  apply Reaches.ask added
  apply (validateTable_reaches filledTable rfl checked).andThen
  apply (relationExists_reaches (by decide)).andThen
  rw [noFinal]
  exact .refl _ _

theorem create_reaches_rename (ready : Ready environment context choice store) :
    ∃ staged next, Reaches (perform vaultSession) choice 14 store (create environment context)
      staged (.execute (.rename context.stagingTarget finalTable) next) := by
  obtain ⟨links, built, lengths, isChecked⟩ := ready.built
  obtain ⟨counted, checked⟩ := exists_of_isOk isChecked
  obtain ⟨staged, onward⟩ := stage_reaches ready checked
  exact ⟨staged, _, (prepare_reaches ready built lengths).attempted
    (onward.attempted (.refl staged _))⟩

end PaymentsPlatform.TransformRuntime.TokenLink
