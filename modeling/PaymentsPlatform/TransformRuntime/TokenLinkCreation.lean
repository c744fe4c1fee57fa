import PaymentsPlatform.TransformRuntime.TokenLinkSafety

/-!
# Creating the token link

The child of an execution that creates goes from a catalog without a table of its own to one
where its only table is its staging table, and from there either back or to a final table that
is its own.  Put together, every run of any number of children is `CrashSafe`.
-/

namespace PaymentsPlatform.TransformRuntime.TokenLink

open RelyGuarantee
open Deployment

/-- The one table of the execution is its staging table. -/
structure StagedBy (execution : ExecutionId) (store : Store) : Prop where
  staged : ∃ table, store.staging execution = some table ∧ Own execution table
  only : ∀ relation table, store.tables relation = some table →
    table.creator = some execution → relation = governed execution.stagingTable

/-- A child that has cleaned up has left no table of its execution. -/
def CleanedUp (execution : ExecutionId) : Ending → Store → Prop
  | .passed, _ => True
  | .raised raised, store =>
      raised.stagingCreated → ¬ raised.publicationAttempted → raised.cleanup = .succeeded →
        Gone execution store

section Changes

variable {store : Store} {execution : ExecutionId} {relation : Relation}

@[simp]
theorem setTable_same (value : Option Table) :
    (store.setTable relation value).tables relation = value := by
  simp [Store.setTable]

theorem setTable_other {other : Relation} (distinct : other ≠ relation) (value : Option Table) :
    (store.setTable relation value).tables other = store.tables other := by
  simp [Store.setTable, distinct]

theorem setTable_cases {value : Option Table} {other : Relation} {table : Table}
    (held : (store.setTable relation value).tables other = some table) :
    (other = relation ∧ value = some table) ∨ store.tables other = some table := by
  by_cases same : other = relation
  · subst same
    exact .inl ⟨rfl, by simpa using held⟩
  · rw [setTable_other same] at held
    exact .inr held

theorem Honest.setTable (honest : Honest store) {value : Option Table}
    (own : ∀ table, value = some table → ∃ execution, relation ∈ places execution ∧
      Own execution table) : Honest (store.setTable relation value) := by
  intro other table held marked found
  rcases setTable_cases held with ⟨rfl, isValue⟩ | held
  · obtain ⟨execution, placed, owned⟩ := own table isValue
    rw [owned.shows placed found]
    exact owned.creator
  · exact honest other table held marked found

theorem Within.setTable {value : Option Table} (placed : relation ∈ places execution)
    (free : ∀ table, store.final = some table →
      (store.setTable relation value).final = some table)
    (own : ∀ table, value = some table → table.creator = some execution) :
    Within execution store (store.setTable relation value) where
  others other outside := by
    apply setTable_other
    rintro rfl
    exact outside placed
  final := free
  own other table held := by
    rcases setTable_cases held with ⟨-, isValue⟩ | held
    · exact .inr (own table isValue)
    · exact .inl held

theorem staging_mem_places (execution : ExecutionId) :
    governed execution.stagingTable ∈ places execution := List.mem_cons_self

theorem final_mem_places (execution : ExecutionId) : governed finalTable ∈ places execution :=
  List.mem_cons_of_mem _ List.mem_cons_self

theorem final_setStaging (execution : ExecutionId) (value : Option Table) :
    (store.setTable (governed execution.stagingTable) value).final = store.final :=
  setTable_other (Ne.symm (staging_ne_final execution)) value

theorem Within.setStaging {value : Option Table}
    (own : ∀ table, value = some table → table.creator = some execution) :
    Within execution store (store.setTable (governed execution.stagingTable) value) :=
  Within.setTable (staging_mem_places execution)
    (fun table held => by rwa [final_setStaging]) own

theorem Absent.setStaging (absent : Absent execution store) {table : Table}
    (own : Own execution table) :
    StagedBy execution (store.setTable (governed execution.stagingTable) (some table)) where
  staged := ⟨table, setTable_same _, own⟩
  only other found held created := by
    rcases setTable_cases held with ⟨same, -⟩ | held
    · exact same
    · exact absurd created (absent other found held)

theorem StagedBy.setStaging (staged : StagedBy execution store) {table : Table}
    (own : Own execution table) :
    StagedBy execution (store.setTable (governed execution.stagingTable) (some table)) where
  staged := ⟨table, setTable_same _, own⟩
  only other found held created := by
    rcases setTable_cases held with ⟨same, -⟩ | held
    · exact same
    · exact staged.only other found held created

theorem StagedBy.drop (staged : StagedBy execution store) :
    Gone execution (store.setTable (governed execution.stagingTable) none) := by
  refine ⟨setTable_same _, fun other found held created => ?_⟩
  by_cases same : other = governed execution.stagingTable
  · rw [same, setTable_same] at held
    cases held
  · rw [setTable_other same] at held
    exact same (staged.only other found held created)

end Changes

theorem Own.withRows {execution : ExecutionId} {table : Table} (own : Own execution table)
    (rows : List Row) : Own execution { table with rows := rows } :=
  ⟨own.creator, own.comment, own.columns, own.unmarked⟩

theorem stagingTarget_eq (context : OperationContext) :
    context.stagingTarget = .qualified (governed context.executionId.stagingTable) := by
  rw [OperationContext.stagingTarget, context.owned]

section Scripts

variable {Client : Type} {deployment : Deployment Client} {client : Client}
  {context : OperationContext}
  (creating : creation (deployment.environment client) = some context.executionId)

include creating

theorem ask_triple {statement : Statement} {pre raises : Store → Prop}
    {returns : Reply → Store → Prop} (stable : deployment.rules.Stable client pre)
    (failed : ∀ store, pre store → raises store)
    (performed : ∀ store choice changed reply, Honest store → pre store →
      perform deployment.session choice statement store = .ok (changed, reply) →
      Honest changed ∧ Within context.executionId store changed ∧ returns reply changed ∧
        raises changed) :
    deployment.rules.Triple client pre (Program.ask statement) (ends returns raises) := by
  apply Rules.Triple.ask stable fun store _ met => failed store met
  intro store choice changed reply honest met answered
  obtain ⟨kept, within, returned, raised⟩ :=
    performed store choice changed reply honest met answered
  refine ⟨kept, ⟨fun reading => ?_, fun execution creating' => ?_⟩, returned, raised⟩
  · simp [creating] at reading
  · cases Option.some.inj (creating.symm.trans creating')
    exact within

theorem stable_absent : deployment.rules.Stable client (Absent context.executionId) := by
  rintro before after ⟨-, apart⟩ absent relation table held created
  exact absent relation table ((apart _ creating).own relation table held created) created

theorem stable_stagedBy : deployment.rules.Stable client (StagedBy context.executionId) := by
  rintro before after ⟨-, apart⟩ staged
  obtain ⟨table, held, own⟩ := staged.staged
  have kept := apart _ creating
  refine ⟨⟨table, kept.staging.trans held, own⟩, ?_⟩
  intro relation table held created
  exact staged.only relation table (kept.own relation table held created) created

theorem stable_gone : deployment.rules.Stable client (Gone context.executionId) := by
  rintro before after moved ⟨dropped, absent⟩
  exact ⟨(moved.2 _ creating).staging.trans dropped,
    stable_absent creating before after moved absent⟩

theorem createTable_triple :
    deployment.rules.Triple client (Absent context.executionId)
      (Program.ask (.createTable context.stagingTarget context.executionId))
      (ends (fun _ => StagedBy context.executionId) fun _ => True) := by
  apply ask_triple creating (stable_absent creating) fun _ _ => trivial
  intro store choice changed reply honest absent performed
  rw [perform, stagingTarget_eq, Target.resolve] at performed
  split at performed
  next missing => cases missing
  next relation isRelation =>
    cases isRelation
    split at performed
    next => cases performed
    next =>
      cases performed
      have own : Own context.executionId ⟨some context.executionId.marker, choice.location.text,
          expectedColumns, [], some context.executionId⟩ :=
        ⟨rfl, rfl, rfl, choice.location.unmarked⟩
      refine ⟨Honest.setTable honest ?_, Within.setStaging ?_,
        absent.setStaging own, trivial⟩
      · rintro table ⟨⟩
        exact ⟨_, staging_mem_places _, own⟩
      · rintro table ⟨⟩
        exact own.creator

theorem copy_triple (path : String) (rows : List Row) :
    deployment.rules.Triple client (StagedBy context.executionId)
      (Program.ask (.copy path rows))
      (ends (fun _ => StagedBy context.executionId) (StagedBy context.executionId)) := by
  apply ask_triple creating (stable_stagedBy creating) fun _ staged => staged
  intro store choice changed reply honest staged performed
  cases performed
  have kept : StagedBy context.executionId
      { store with files := Function.update store.files path (some rows) } :=
    ⟨staged.staged, staged.only⟩
  exact ⟨honest, ⟨fun _ _ => rfl, fun _ held => held, fun _ _ held => .inl held⟩, kept, kept⟩

theorem addFiles_triple (path : String) :
    deployment.rules.Triple client (StagedBy context.executionId)
      (Program.ask (.addFiles context.stagingTarget path))
      (ends (fun _ => StagedBy context.executionId) (StagedBy context.executionId)) := by
  apply ask_triple creating (stable_stagedBy creating) fun _ staged => staged
  intro store choice changed reply honest staged performed
  rw [perform, stagingTarget_eq] at performed
  split at performed
  next relation table rows isFound isFile =>
    cases performed
    obtain ⟨rfl, held⟩ := find_qualified isFound
    obtain ⟨own, heldOwn, owned⟩ := staged.staged
    cases held.symm.trans heldOwn
    have filled := owned.withRows (table.rows ++ rows)
    have kept := staged.setStaging filled
    refine ⟨Honest.setTable honest ?_, Within.setStaging ?_,
      kept, kept⟩
    · rintro table ⟨⟩
      exact ⟨_, staging_mem_places _, filled⟩
    · rintro table ⟨⟩
      exact filled.creator
  next => cases performed
  next => cases performed

theorem drop_triple :
    deployment.rules.Triple client (StagedBy context.executionId)
      (Program.ask (.drop context.stagingTarget))
      (ends (fun _ => Gone context.executionId) fun _ => True) := by
  apply ask_triple creating (stable_stagedBy creating) fun _ _ => trivial
  intro store choice changed reply honest staged performed
  rw [perform, stagingTarget_eq, Target.resolve] at performed
  cases performed
  refine ⟨Honest.setTable honest ?_, Within.setStaging ?_,
    staged.drop, trivial⟩
  · rintro table ⟨⟩
  · rintro table ⟨⟩

theorem rename_triple :
    deployment.rules.Triple client (StagedBy context.executionId)
      (Program.ask (.rename context.stagingTarget finalTable))
      (ends (fun _ _ => True) fun _ => True) := by
  apply ask_triple creating (stable_stagedBy creating) fun _ _ => trivial
  intro store choice changed reply honest staged performed
  rw [perform, stagingTarget_eq] at performed
  split at performed
  next => cases performed
  next relation found isFound =>
    obtain ⟨same, held⟩ := find_qualified isFound
    have target : { relation with table := finalTable } = governed finalTable := by
      rw [show relation = _ from same]
      rfl
    rw [target, show relation = _ from same] at performed
    split at performed
    next => cases performed
    next free =>
      cases performed
      obtain ⟨own, heldOwn, owned⟩ := staged.staged
      cases held.symm.trans heldOwn
      refine ⟨?_, ?_, trivial, trivial⟩
      · apply Honest.setTable (Honest.setTable honest (by rintro table ⟨⟩))
        rintro table ⟨⟩
        exact ⟨_, final_mem_places _, owned⟩
      · have dropped : Within context.executionId store
            (store.setTable (governed context.executionId.stagingTable) none) :=
          Within.setStaging (by rintro table ⟨⟩)
        refine dropped.trans (Within.setTable (final_mem_places _) ?_ ?_)
        · intro table held
          rw [final_setStaging, Store.final, free] at held
          cases held
        · rintro table ⟨⟩
          exact owned.creator

omit creating in
theorem relationExists_true {present : Store → Prop} {table : String}
    (stable : deployment.rules.Stable client present)
    (held : ∀ store, present store → (store.tables (governed table)).isSome) :
    deployment.rules.Triple client present (relationExists table)
      (ends (fun found store => found = true ∧ present store) fun _ => True) := by
  unfold relationExists
  split
  · apply Rules.Triple.bind fun reply store => reply = .count 1 ∧ present store
    · apply Rules.Triple.read (reading_ask (by trivial)) stable (fun _ _ _ => trivial)
      intro store choice reply _ met performed
      rw [rules_perform, perform, held store met] at performed
      cases performed
      exact ⟨rfl, met⟩
    · intro reply
      split
      · exact Rules.Triple.pure _ fun _ _ met => by cases met.1
      · exact Rules.Triple.pure _ fun _ _ met => ⟨rfl, met.2⟩
      · exact Rules.Triple.lift _ fun _ _ _ => trivial
  · exact Rules.Triple.lift _ fun _ _ _ => trivial

theorem cleanUp_triple :
    deployment.rules.Triple client (StagedBy context.executionId) (cleanUp context)
      (ends (fun _ => Gone context.executionId) fun _ => True) := by
  apply Rules.Triple.bind fun found store => found = true ∧ StagedBy context.executionId store
  · apply relationExists_true (stable_stagedBy creating)
    intro store staged
    obtain ⟨table, held, -⟩ := staged.staged
    rw [context.owned]
    exact Option.isSome_iff_exists.mpr ⟨table, held⟩
  · intro found
    split
    next =>
      unfold dropOwnedStaging
      split
      next => exact Rules.Triple.lift _ fun _ _ _ => trivial
      next =>
        apply Rules.Triple.bind fun _ => Gone context.executionId
        · exact (drop_triple creating).weaken (fun _ _ met => met.2) fun _ _ _ gone => gone
        · exact fun _ => Rules.Triple.pure _ fun _ _ gone => gone
    next absent => exact Rules.Triple.pure _ fun _ _ met => absurd met.1 (by simpa using absent)

/-- Up to `CREATE TABLE` the child only reads. -/
theorem prepare_triple (environment : Environment) :
    deployment.rules.Triple client (Absent context.executionId) (prepare environment context)
      (ends (fun _ => StagedBy context.executionId) fun _ => True) := by
  have stable : deployment.rules.Stable client (Absent context.executionId) :=
    stable_absent creating
  apply Rules.Triple.bind _ ((Rules.Reading.lift _).keeps stable fun _ _ => trivial)
  intro key
  apply Rules.Triple.bind _ ((Rules.Reading.lift _).keeps stable fun _ _ => trivial)
  intro secret
  apply Rules.Triple.bind _ ((reading_ask (by trivial)).keeps stable fun _ _ => trivial)
  intro connected
  apply Rules.Triple.bind _ ((reading_ask (by trivial)).keeps stable fun _ _ => trivial)
  intro ready
  split
  next =>
    apply Rules.Triple.bind _ ((relationExists_reading _).keeps stable fun _ _ => trivial)
    intro finalExists
    split
    next => exact Rules.Triple.lift _ fun _ _ _ => trivial
    next =>
      apply Rules.Triple.bind _ ((relationExists_reading _).keeps stable fun _ _ => trivial)
      intro stagingExists
      split
      next => exact Rules.Triple.lift _ fun _ _ _ => trivial
      next =>
        apply Rules.Triple.bind _ ((reading_ask (by trivial)).keeps stable fun _ _ => trivial)
        intro selected
        split
        next identifiers =>
          split
          next => exact Rules.Triple.lift _ fun _ _ _ => trivial
          next =>
            apply Rules.Triple.bind _ ((Rules.Reading.lift _).keeps stable fun _ _ => trivial)
            intro links
            split
            next => exact Rules.Triple.lift _ fun _ _ _ => trivial
            next =>
              apply Rules.Triple.bind _
                ((reading_ask (by trivial)).keeps stable fun _ _ => trivial)
              intro schema
              apply Rules.Triple.bind _ (createTable_triple creating)
              exact fun _ => Rules.Triple.pure _ fun _ _ staged => staged
        next => exact Rules.Triple.lift _ fun _ _ _ => trivial
  next => exact Rules.Triple.lift _ fun _ _ _ => trivial

theorem stage_triple (environment : Environment) (rows : Nat) (links : List TokenLinkRow) :
    deployment.rules.Triple client (StagedBy context.executionId)
      (stage environment context rows links)
      (ends (fun _ => StagedBy context.executionId) (StagedBy context.executionId)) := by
  have stable : deployment.rules.Stable client (StagedBy context.executionId) :=
    stable_stagedBy creating
  apply Rules.Triple.bind _ ((tableLocation_reading _ _).keeps stable fun _ staged => staged)
  intro location
  apply Rules.Triple.bind _ ((reading_ask (by trivial)).keeps stable fun _ staged => staged)
  intro prepared
  apply Rules.Triple.bind _ (copy_triple creating _ _)
  intro copied
  apply Rules.Triple.bind _ (addFiles_triple creating _)
  intro added
  apply Rules.Triple.bind _ ((validateTable_reading _ _ _).keeps stable fun _ staged => staged)
  intro validated
  apply Rules.Triple.bind _ ((relationExists_reading _).keeps stable fun _ staged => staged)
  intro appeared
  split
  · exact Rules.Triple.lift _ fun _ _ staged => staged
  · exact Rules.Triple.pure _ fun _ _ staged => staged

theorem renameStaged_triple (environment : Environment) (rows : Nat) :
    deployment.rules.Triple client (StagedBy context.executionId)
      (renameStaged environment context rows)
      (ends (fun reported store => reported = some .published → Published context store)
        fun _ => True) := by
  apply Rules.Triple.attempt _ (rename_triple creating)
  rintro (fault | reply)
  · apply Rules.Triple.bind _ ((reconcilePublication_triple environment context _).weaken
      (fun _ _ _ => trivial) fun _ _ _ reached => reached)
    intro found
    exact Rules.Triple.pure _ fun _ _ reached same => reached (Option.some.inj same)
  · exact Rules.Triple.pure _ fun _ _ _ same => by cases same

omit creating in
theorem conclude_triple (environment : Environment) (rows : Nat)
    (reported : Option Publication) :
    deployment.rules.Triple client (fun _ => True) (conclude environment context rows reported)
      (ends (fun _ => Published context) fun _ => True) := by
  have stable : deployment.rules.Stable client (FinalMeets context.tokenVersion) :=
    stable_of_final
  have owned : deployment.rules.Triple client (fun _ => True)
      (provenanceMatches environment finalTarget context) _ :=
    provenanceMatches_triple environment context
  unfold conclude
  split
  next => exact Rules.Triple.lift _ fun _ _ _ => trivial
  next =>
    apply Rules.Triple.bind _ (validateTable_triple (some rows) context.tokenVersion)
    intro count
    apply Rules.Triple.bind fun found store => found = true → Published context store
    · apply (owned.frame (provenanceMatches_reading _ _ _) stable).weaken
      · exact fun store _ valid => ⟨valid, trivial⟩
      · rintro (fault | found) store - ⟨valid, reached⟩
        · exact trivial
        · exact fun isOwned => published_of_both (reached isOwned) valid
    · intro found
      split
      next isOwned => exact Rules.Triple.pure _ fun _ _ published => published isOwned
      next => exact Rules.Triple.lift _ fun _ _ _ => trivial

omit creating in
theorem conclude_reading (environment : Environment) (rows : Nat)
    (reported : Option Publication) :
    deployment.rules.Reading (conclude environment context rows reported) := by
  unfold conclude
  split
  · exact trivial
  · apply Rules.Reading.bind (validateTable_reading _ _ _)
    intro count
    apply Rules.Reading.bind (provenanceMatches_reading _ _ _)
    intro owned
    split
    · exact trivial
    · exact trivial

omit creating in
theorem stable_reported (ending : Ending) :
    deployment.rules.Stable client (Reported context ending) := by
  intro before after moved published
  cases ending with
  | passed => exact stable_of_final before after moved published
  | raised raised =>
      exact fun same => stable_of_final before after moved (published same)

theorem create_triple (environment : Environment) :
    deployment.rules.Triple client (Absent context.executionId) (create environment context)
      (ends (fun ending store => Reported context ending store ∧
        CleanedUp context.executionId ending store) fun _ => True) := by
  apply Rules.Triple.attempt _ (prepare_triple creating environment)
  rintro (fault | ⟨rows, links⟩)
  · exact Rules.Triple.pure _ fun _ _ _ => ⟨by simp [Reported], by simp [CleanedUp]⟩
  apply Rules.Triple.attempt _ (stage_triple creating environment rows links)
  rintro (fault | ⟨⟩)
  · apply Rules.Triple.attempt _ (cleanUp_triple creating)
    rintro (later | ⟨⟩)
    · exact Rules.Triple.pure _ fun _ _ _ => ⟨by simp [Reported], by simp [CleanedUp]⟩
    · exact Rules.Triple.pure _ fun _ _ gone => ⟨by simp [Reported], fun _ _ _ => gone⟩
  apply Rules.Triple.attempt _ (renameStaged_triple creating environment rows)
  rintro (fault | reported)
  · exact Rules.Triple.pure _ fun _ _ _ => ⟨by simp [Reported], by simp [CleanedUp]⟩
  -- what was reported stays true while the child checks once more
  have stable : deployment.rules.Stable client
      (Reported context (.raised ⟨.outside "", true, true, .notDue, reported⟩)) :=
    stable_reported _
  have checked : deployment.rules.Triple client (fun _ => True)
      (conclude environment context rows reported) _ := conclude_triple environment rows reported
  apply Rules.Triple.attempt _ ((checked.frame (conclude_reading environment rows reported)
    stable).weaken (fun _ _ published => ⟨published, trivial⟩) fun _ _ _ reached => reached)
  rintro (fault | ⟨⟩)
  · exact Rules.Triple.pure _ fun _ _ reached => ⟨reached.1, by simp [CleanedUp]⟩
  · exact Rules.Triple.pure _ fun _ _ reached => ⟨reached.2, trivial⟩

end Scripts

/-! ## Every run -/

variable {Client : Type}

theorem creation_eq {environment : Environment} {context : OperationContext}
    (known : operationContext environment = .ok context) :
    creation environment = if reconciles environment then none else some context.executionId := by
  simp [creation, known]

/-- What a child has established at its end. -/
def Established (environment : Environment) (outcome : Except Fault Ending) (store : Store) :
    Prop :=
  ∀ ending context, outcome = .ok ending → operationContext environment = .ok context →
    Reported context ending store ∧
      (creation environment = some context.executionId →
        CleanedUp context.executionId ending store)

theorem stable_established (deployment : Deployment Client) (client : Client)
    (outcome : Except Fault Ending) :
    deployment.rules.Stable client (Established (deployment.environment client) outcome) := by
  intro before after moved established ending context same known
  obtain ⟨reported, cleaned⟩ := established ending context same known
  refine ⟨stable_reported ending before after moved reported, fun creating => ?_⟩
  cases ending with
  | passed => trivial
  | raised raised =>
      intro created attempted succeeded
      exact stable_gone creating before after moved (cleaned creating created attempted succeeded)

theorem main_triple (deployment : Deployment Client) (client : Client) :
    deployment.rules.Triple client
      (fun store => ∀ execution, creation (deployment.environment client) = some execution →
        Absent execution store)
      (main (deployment.environment client)) (Established (deployment.environment client)) := by
  unfold main
  cases known : operationContext (deployment.environment client) with
  | error fault =>
      apply Rules.Triple.pure
      intro store _ _ ending context _ known'
      simp [known] at known'
  | ok context =>
      have only : ∀ context', operationContext (deployment.environment client) = .ok context' →
          context' = context := by
        intro context' known'
        simpa [known, eq_comm] using known'
      have kind := creation_eq known
      dsimp only
      split
      next reconciling =>
        rw [if_pos reconciling] at kind
        apply (reconcile_triple (deployment.environment client) context).weaken
          fun _ _ _ => trivial
        rintro outcome store - reached ending context' rfl known'
        cases only context' known'
        exact ⟨reached, by simp [kind]⟩
      next creates =>
        rw [if_neg creates] at kind
        apply (create_triple kind (deployment.environment client)).weaken
          fun _ _ absent => absent _ kind
        rintro outcome store - reached ending context' rfl known'
        cases only context' known'
        exact ⟨reached.1, fun _ => reached.2⟩

variable [DecidableEq Client]

namespace Deployment

/-- Every child at the start of `main`. -/
def initial (deployment : Deployment Client) :
    World Client Store Statement Reply Fault Ending :=
  ⟨deployment.store, fun client => some (main (deployment.environment client))⟩

/-- Where the actions have brought the children and the catalog. -/
def reached (deployment : Deployment Client) (actions : List (Action Client Choice Fault)) :
    World Client Store Statement Reply Fault Ending :=
  Machine.run (RelyGuarantee.step (perform deployment.session)) deployment.initial actions

theorem reached_sound (deployment : Deployment Client)
    (actions : List (Action Client Choice Fault)) :
    Sound deployment.rules (fun client => Established (deployment.environment client))
      (deployment.reached actions) := by
  apply sound_run (stable_established deployment)
  exact sound_initial deployment.honest (main_triple deployment) deployment.fresh

theorem reached_snoc (deployment : Deployment Client)
    (actions : List (Action Client Choice Fault)) (action : Action Client Choice Fault) :
    deployment.reached (actions ++ [action]) =
      RelyGuarantee.step (perform deployment.session) (deployment.reached actions) action := by
  simp [reached]

theorem permitted_step (deployment : Deployment Client)
    (actions : List (Action Client Choice Fault)) (action : Action Client Choice Fault) :
    Permitted (deployment.environment action.actor) (deployment.reached actions).state
      (deployment.reached (actions ++ [action])).state := by
  have stepped := sound_step (stable_established deployment) (deployment.reached_sound actions)
    action
  rw [rules_perform, ← reached_snoc] at stepped
  exact stepped.2

/-- The catalog of the run of some children is crash safe: what holds after any of their actions,
and of the next one. -/
structure CrashSafe (deployment : Deployment Client)
    (actions : List (Action Client Choice Fault)) : Prop where
  /-- A final table is never dropped, replaced or altered. -/
  kept : ∀ action table, (deployment.reached actions).state.final = some table →
    (deployment.reached (actions ++ [action])).state.final = some table
  /-- What a child reports as published is the table that its execution staged, and valid. -/
  published : ∀ client ending context,
    operationContext (deployment.environment client) = .ok context →
    (deployment.reached actions).clients client = some (.done (.ok ending)) →
    Reported context ending (deployment.reached actions).state
  /-- A child that raises between `CREATE TABLE` and `RENAME` and has cleaned up has left the
  final table as it was, and no table of its own. -/
  undone : ∀ client raised context,
    operationContext (deployment.environment client) = .ok context →
    reconciles (deployment.environment client) = false →
    (deployment.reached actions).clients client = some (.done (.ok (.raised raised))) →
    raised.stagingCreated → ¬ raised.publicationAttempted → raised.cleanup = .succeeded →
    Gone context.executionId (deployment.reached actions).state ∧
      ∀ before action rest, actions = before ++ action :: rest → action.actor = client →
        (deployment.reached (before ++ [action])).state.final =
          (deployment.reached before).state.final
  /-- A staging table is touched by no child but that of its execution. -/
  separate : ∀ action execution,
    creation (deployment.environment action.actor) ≠ some execution →
    (deployment.reached (actions ++ [action])).state.staging execution =
      (deployment.reached actions).state.staging execution

variable (deployment : Deployment Client)

theorem final_stays (actions rest : List (Action Client Choice Fault)) {table : Table}
    (held : (deployment.reached actions).state.final = some table) :
    (deployment.reached (actions ++ rest)).state.final = some table := by
  induction rest generalizing actions with
  | nil => simpa using held
  | cons action rest ih =>
      have onward := ih (actions ++ [action])
        ((deployment.permitted_step actions action).final_kept held)
      simpa using onward

/-- Token-link publication is crash safe and never replaces. -/
theorem publication_crashSafe (actions : List (Action Client Choice Fault)) :
    deployment.CrashSafe actions where
  kept action table held := (deployment.permitted_step actions action).final_kept held
  published client ending context known ended :=
    ((deployment.reached_sound actions).reached ended ending context rfl known).1
  undone client raised context known creates ended created attempted succeeded := by
    have creating : creation (deployment.environment client) = some context.executionId := by
      rw [creation_eq known, creates]
      rfl
    have gone : Gone context.executionId (deployment.reached actions).state :=
      ((deployment.reached_sound actions).reached ended _ context rfl known).2 creating created
        attempted succeeded
    refine ⟨gone, ?_⟩
    rintro before action rest rfl rfl
    rcases (deployment.permitted_step before action).final_changed with same | ⟨execution, table, by', held, mine⟩
    · exact same
    · -- a table that it had published would still be there
      cases Option.some.inj (creating.symm.trans by')
      have still := deployment.final_stays (before ++ [action]) rest held
      rw [List.append_assoc, List.singleton_append] at still
      exact absurd mine (gone.2 _ table still)
  separate action execution other := ((deployment.permitted_step actions action).apart other).staging

end Deployment

/-! ## Three children at once -/

def repeatedId (digit : Char) (known : digit ∈ hexadecimalDigits) : ExecutionId where
  digits := List.replicate 32 digit
  length := List.length_replicate
  hexadecimal _ listed := List.eq_of_mem_replicate listed ▸ known

/-- Two children are to create the table, and one reconciles the execution of the first. -/
inductive ThreeChildren where
  | first
  | second
  | reconciler
  deriving DecidableEq

namespace ThreeChildren

def execution : ThreeChildren → ExecutionId
  | second => repeatedId 'b' (by decide +kernel)
  | _ => repeatedId 'a' (by decide +kernel)

def environment (child : ThreeChildren) : Environment where
  getenv := fun name =>
    [("TRANSFORM_EXECUTION_ID", child.execution.text),
      ("PROTECTED_BOOTSTRAP_MODE", if child = reconciler then "reconcile" else "create"),
      ("PROTECTED_BOOTSTRAP_OPERATION", "initial_token_link_creation"),
      ("PROTECTED_BOOTSTRAP_VERSION", "1"),
      ("TRANSFORM_AUTHORITY", "restricted_identity_transform"),
      ("RESTRICTED_TRANSFORM_S3_ACCESS_KEY_ID", "access"),
      ("RESTRICTED_TRANSFORM_S3_SECRET_ACCESS_KEY", "secret")].lookup name
  requireMountedSecret := fun name => .ok (if name = "DP_TOKEN_KEY_VERSION" then "v1" else "key")
  activeKey := .ok ("key", "v1")
  hmac := fun key message => key ++ message
  now := "2026-01-01T00:00:00+00:00"
  withinWarehouse := fun _ => .ok ()

theorem creation_environment (child : ThreeChildren) :
    creation child.environment = if child = reconciler then none else some child.execution := by
  cases child <;> decide +kernel

/-- The children on an empty catalog, in sessions with a schema, so that they can publish. -/
def deployment : Deployment ThreeChildren where
  environment := environment
  session := some ("iceberg", "silver_vault")
  store := ⟨fun _ => none, fun _ => none⟩
  honest := nofun
  distinct child other created isFirst isOther := by
    rw [creation_environment] at isFirst isOther
    have apart : first.execution ≠ second.execution := by decide +kernel
    cases child <;> cases other <;> simp_all
  fresh := nofun

def choice (child : ThreeChildren) : Choice where
  identifiers := ["1"]
  location := ⟨"s3://bucket/warehouse/" ++ child.execution.stagingTable, by
    cases child <;> decide +kernel⟩

def answered (child : ThreeChildren) : Action ThreeChildren Choice Fault :=
  ⟨child, .answer child.choice⟩

/-- The first child is killed at its `CREATE TABLE`, which has its effect. -/
def interrupted : List (Action ThreeChildren Choice Fault) :=
  List.replicate 6 first.answered ++ [⟨first, .kill (some first.choice)⟩]

/-- The others go on. -/
def actions : List (Action ThreeChildren Choice Fault) :=
  interrupted ++ (List.replicate 20 second.answered ++ List.replicate 3 reconciler.answered)

theorem deployment_crashSafe :
    ((deployment.reached interrupted).state.tables
        (governed first.execution.stagingTable)).isSome ∧
      deployment.CrashSafe actions :=
  ⟨by decide +kernel, deployment.publication_crashSafe actions⟩

end ThreeChildren

end PaymentsPlatform.TransformRuntime.TokenLink
