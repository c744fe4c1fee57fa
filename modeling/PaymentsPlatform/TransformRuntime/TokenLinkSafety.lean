import PaymentsPlatform.TransformRuntime.Provenance

/-!
# Publication of the token link is crash safe

Any number of children run `main` at once, each killed or failing at any statement.  What each
of them guarantees the others of its steps (`Within`) is what lets the others keep what they
know: an execution alone names its staging table, and no one touches a final table.
-/

namespace PaymentsPlatform.TransformRuntime.TokenLink

open RelyGuarantee

/-- The table that consumers of the token link see. -/
def Store.final (store : Store) : Option Table := store.tables (governed finalTable)

def Store.staging (store : Store) (execution : ExecutionId) : Option Table :=
  store.tables (governed execution.stagingTable)

/-- A table that shows the marker of an execution was created by it. -/
def Honest (store : Store) : Prop :=
  ∀ relation table, store.tables relation = some table → ∀ execution : ExecutionId,
    execution.marker.toList <:+: showCreateTable relation table → table.creator = some execution

/-- The execution that an environment is for, where its child is to create the table. -/
def creation (environment : Environment) : Option ExecutionId :=
  match operationContext environment with
  | .ok context => if reconciles environment then none else some context.executionId
  | .error _ => none

/-- The children and what they start from: no two are to create a table for one execution, and
none of these executions has created one before. -/
structure Deployment (Client : Type) where
  environment : Client → Environment
  session : Option (String × String)
  store : Store
  honest : Honest store
  distinct : ∀ client other execution, creation (environment client) = some execution →
    creation (environment other) = some execution → client = other
  fresh : ∀ client execution, creation (environment client) = some execution →
    ∀ relation table, store.tables relation = some table → table.creator ≠ some execution

/-! ## What children guarantee each other -/

/-- What the child of an execution may change: its staging table, and the final table where there
is none. -/
structure Within (execution : ExecutionId) (before after : Store) : Prop where
  others : ∀ relation, relation ∉ places execution →
    after.tables relation = before.tables relation
  final : ∀ table, before.final = some table → after.final = some table
  own : ∀ relation table, after.tables relation = some table →
    before.tables relation = some table ∨ table.creator = some execution

/-- What no other child takes from that of an execution, nor gives it. -/
structure Apart (execution : ExecutionId) (before after : Store) : Prop where
  staging : after.staging execution = before.staging execution
  own : ∀ relation table, after.tables relation = some table →
    table.creator = some execution → before.tables relation = some table

theorem Within.refl (execution : ExecutionId) (store : Store) : Within execution store store :=
  ⟨fun _ _ => rfl, fun _ held => held, fun _ _ held => .inl held⟩

theorem Within.trans {execution : ExecutionId} {before middle after : Store}
    (first : Within execution before middle) (second : Within execution middle after) :
    Within execution before after where
  others relation outside := (second.others relation outside).trans (first.others relation outside)
  final table held := second.final table (first.final table held)
  own relation table held := by
    rcases second.own relation table held with held | created
    · exact first.own relation table held
    · exact .inr created

theorem stagingTable_ne_finalTable (execution : ExecutionId) :
    execution.stagingTable ≠ finalTable := by
  intro same
  have lists := congrArg String.toList same
  rw [ExecutionId.stagingTable_toList] at lists
  have lengths := congrArg List.length lists
  simp [execution.length, finalTable] at lengths

theorem staging_ne_final (execution : ExecutionId) :
    governed execution.stagingTable ≠ governed finalTable := fun same =>
  stagingTable_ne_finalTable execution (congrArg Relation.table same)

theorem staging_not_mem_places {execution other : ExecutionId} (distinct : execution ≠ other) :
    governed execution.stagingTable ∉ places other := by
  intro placed
  rcases List.mem_pair.mp placed with same | same
  · exact distinct (ExecutionId.stagingTable_injective (congrArg Relation.table same))
  · exact staging_ne_final execution same

theorem Within.apart {execution other : ExecutionId} {before after : Store}
    (within : Within execution before after) (distinct : execution ≠ other) :
    Apart other before after where
  staging := within.others _ (staging_not_mem_places (Ne.symm distinct))
  own relation table held created := by
    rcases within.own relation table held with held | other
    · exact held
    · exact absurd (Option.some.inj (other.symm.trans created)) distinct

/-- What the child of an environment may change. -/
structure Permitted (environment : Environment) (before after : Store) : Prop where
  reads : creation environment = none → after = before
  creates : ∀ execution, creation environment = some execution → Within execution before after

namespace Permitted

variable {environment : Environment} {before after : Store}

theorem refl (environment : Environment) (store : Store) : Permitted environment store store :=
  ⟨fun _ => rfl, fun execution _ => Within.refl execution store⟩

theorem final_kept (permitted : Permitted environment before after) {table : Table}
    (held : before.final = some table) : after.final = some table := by
  cases creating : creation environment with
  | none =>
      rw [permitted.reads creating]
      exact held
  | some execution => exact (permitted.creates execution creating).final table held

theorem apart (permitted : Permitted environment before after) {execution : ExecutionId}
    (other : creation environment ≠ some execution) : Apart execution before after := by
  cases creating : creation environment with
  | none =>
      rw [permitted.reads creating]
      exact ⟨rfl, fun _ _ held _ => held⟩
  | some creator =>
      apply (permitted.creates creator creating).apart
      rintro rfl
      exact other creating

theorem final_changed (permitted : Permitted environment before after) :
    after.final = before.final ∨ ∃ execution table, creation environment = some execution ∧
      after.final = some table ∧ table.creator = some execution := by
  cases creating : creation environment with
  | none => exact .inl (by rw [permitted.reads creating])
  | some execution =>
      have within := permitted.creates execution creating
      cases now : after.final with
      | none =>
          cases held : before.final with
          | none => exact .inl rfl
          | some table => simp [within.final table held] at now
      | some table =>
          rcases within.own _ table now with held | created
          · exact .inl held.symm
          · exact .inr ⟨execution, table, rfl, rfl, created⟩

end Permitted

variable {Client : Type}

namespace Deployment

def rules (deployment : Deployment Client) :
    Rules Client Store Statement Choice Reply Fault where
  perform := perform deployment.session
  Invariant := Honest
  rely client before after :=
    (∀ table, before.final = some table → after.final = some table) ∧
      ∀ execution, creation (deployment.environment client) = some execution →
        Apart execution before after
  guarantee client := Permitted (deployment.environment client)
  guarantee_refl client := Permitted.refl (deployment.environment client)
  compatible client other before after distinct _ permitted := by
    refine ⟨fun table held => permitted.final_kept held, fun execution creating => ?_⟩
    apply permitted.apart
    intro creatingToo
    exact distinct (deployment.distinct client other execution creatingToo creating)

@[simp]
theorem rules_perform (deployment : Deployment Client) :
    deployment.rules.perform = perform deployment.session := rfl

end Deployment

open Deployment

/-! ## Scripts that read -/

def Statement.reads : Statement → Prop
  | .createTable _ _ | .copy _ _ | .addFiles _ _ | .rename _ _ | .drop _ => False
  | _ => True

theorem unchanged_of_reads {session : Option (String × String)} {choice : Choice}
    {statement : Statement} {store changed : Store} {reply : Reply} (reads : statement.reads)
    (performed : perform session choice statement store = .ok (changed, reply)) :
    changed = store := by
  cases statement with
  | createTable _ _ | copy _ _ | addFiles _ _ | rename _ _ | drop _ => cases reads
  | showCreate target =>
      simp only [perform] at performed
      cases found : store.find session target with
      | error fault => simp [found, Except.map] at performed
      | ok result =>
          simp only [found, Except.map, Except.ok.injEq, Prod.mk.injEq] at performed
          exact performed.1.symm
  | aggregate target =>
      simp only [perform] at performed
      split at performed
      next => cases performed
      next =>
        split at performed
        · cases performed
          rfl
        · cases performed
  | selectOne | relationCount _ | selectIdentifiers | createSchema | prepareOutside | columns _ =>
      cases performed
      rfl

theorem find_qualified {session : Option (String × String)} {store : Store} {relation : Relation}
    {found : Relation × Table} (isFound : store.find session (.qualified relation) = .ok found) :
    found.1 = relation ∧ store.tables relation = some found.2 := by
  simp only [Store.find, Target.resolve] at isFound
  split at isFound
  next => cases isFound
  next table held =>
    cases isFound
    exact ⟨rfl, held⟩

section Scripts

variable {deployment : Deployment Client} {client : Client}

theorem reading_ask {statement : Statement} (reads : statement.reads) :
    deployment.rules.Reading (Program.ask statement : Script Reply) :=
  .ask fun _ _ _ _ performed => unchanged_of_reads reads performed

theorem relationExists_reading (table : String) :
    deployment.rules.Reading (relationExists table) := by
  unfold relationExists
  split
  · apply Rules.Reading.bind (reading_ask (by trivial))
    intro reply
    split
    · exact trivial
    · exact trivial
    · exact trivial
  · exact trivial

theorem showCreate_reading (target : Target) : deployment.rules.Reading (showCreate target) := by
  apply Rules.Reading.bind (reading_ask (by trivial))
  intro reply
  split
  · exact trivial
  · exact trivial

theorem tableLocation_reading (environment : Environment) (target : Target) :
    deployment.rules.Reading (tableLocation environment target) := by
  apply Rules.Reading.bind (showCreate_reading target)
  intro text
  split
  · exact trivial
  · exact trivial

theorem validateTable_reading (target : Target) (expectedRows : Option Nat)
    (expectedVersion : Option String) :
    deployment.rules.Reading (validateTable target expectedRows expectedVersion) := by
  apply Rules.Reading.bind (reading_ask (by trivial))
  intro reply
  split
  · split
    · apply Rules.Reading.bind (reading_ask (by trivial))
      intro reply
      split
      · exact trivial
      · exact trivial
    · exact trivial
  · exact trivial

theorem provenanceMatches_reading (environment : Environment) (target : Target)
    (context : OperationContext) :
    deployment.rules.Reading (provenanceMatches environment target context) := by
  apply Rules.Reading.bind (showCreate_reading target)
  intro text
  split
  · exact Rules.Reading.bind (tableLocation_reading environment target) fun _ => trivial
  · exact trivial

/-! ## What the checks of the final table establish -/

/-- The final table is one that the execution created. -/
def FinalOf (execution : ExecutionId) (store : Store) : Prop :=
  ∃ table, store.final = some table ∧ table.creator = some execution

/-- The final table meets the contract. -/
def FinalMeets (version : String) (store : Store) : Prop :=
  ∃ table, store.final = some table ∧ Contract version table.rows

/-- The execution has created no table, or it is gone again. -/
def Absent (execution : ExecutionId) (store : Store) : Prop :=
  ∀ relation table, store.tables relation = some table → table.creator ≠ some execution

/-- No staging table is left, nor any other table of the execution. -/
def Gone (execution : ExecutionId) (store : Store) : Prop :=
  store.staging execution = none ∧ Absent execution store

/-- What a child that has passed has published. -/
def Published (context : OperationContext) (store : Store) : Prop :=
  ∃ table, store.final = some table ∧ table.creator = some context.executionId ∧
    Contract context.tokenVersion table.rows

theorem published_of_both {context : OperationContext} {store : Store}
    (owned : FinalOf context.executionId store) (valid : FinalMeets context.tokenVersion store) :
    Published context store := by
  obtain ⟨table, held, creator⟩ := owned
  obtain ⟨other, heldToo, contract⟩ := valid
  cases held.symm.trans heldToo
  exact ⟨table, held, creator, contract⟩

theorem stable_of_final {condition : Table → Prop} :
    deployment.rules.Stable client fun store => ∃ table, store.final = some table ∧
      condition table := by
  rintro before after ⟨kept, -⟩ ⟨table, held, holds⟩
  exact ⟨table, kept table held, holds⟩

theorem stable_true : deployment.rules.Stable client fun _ => True := fun _ _ _ _ => trivial

theorem validateTable_triple (expectedRows : Option Nat) (version : String) :
    deployment.rules.Triple client (fun _ => True)
      (validateTable finalTarget expectedRows (some version))
      (ends (fun _ => FinalMeets version) fun _ => True) := by
  apply Rules.Triple.bind fun _ _ => True
  · exact Rules.Triple.read (reading_ask (by trivial)) stable_true (fun _ _ _ => trivial)
      fun _ _ _ _ _ _ => trivial
  intro reply
  split
  next found =>
    split
    next =>
      apply Rules.Triple.bind fun reply store => ∃ table, store.final = some table ∧
        reply = .aggregates (aggregates table.rows)
      · apply Rules.Triple.read (reading_ask (by trivial)) stable_true (fun _ _ _ => trivial)
        intro store choice reply _ _ performed
        rw [rules_perform, perform] at performed
        split at performed
        next => cases performed
        next relation table isFound =>
          split at performed
          · cases performed
            exact ⟨table, (find_qualified isFound).2, rfl⟩
          · cases performed
      intro reply
      split
      next row =>
        apply Rules.Triple.lift
        rintro store - ⟨table, held, same⟩
        cases same
        cases checked : checkAggregates (aggregates table.rows) expectedRows (some version) with
        | error fault => exact trivial
        | ok count => exact ⟨table, held, contract_of_check checked⟩
      next => exact Rules.Triple.lift _ fun _ _ _ => trivial
    next => exact Rules.Triple.lift _ fun _ _ _ => trivial
  next => exact Rules.Triple.lift _ fun _ _ _ => trivial

theorem showCreate_triple (execution : ExecutionId) :
    deployment.rules.Triple client (fun _ => True) (showCreate finalTarget)
      (ends (fun text store => contains execution.marker text → FinalOf execution store)
        fun _ => True) := by
  apply Rules.Triple.bind fun reply store => ∃ text, reply = .texts [text] ∧
    (contains execution.marker text → FinalOf execution store)
  · apply Rules.Triple.read (reading_ask (by trivial)) stable_true (fun _ _ _ => trivial)
    intro store choice reply honest _ performed
    rw [rules_perform, perform] at performed
    cases isFound : store.find deployment.session finalTarget with
    | error fault => simp [isFound, Except.map] at performed
    | ok found =>
        obtain ⟨same, held⟩ := find_qualified isFound
        simp only [isFound, Except.map, Except.ok.injEq, Prod.mk.injEq, true_and] at performed
        refine ⟨_, performed.symm, fun marked => ⟨found.2, held, ?_⟩⟩
        apply honest _ _ held
        rw [same] at marked
        simpa [contains] using marked
  · intro reply
    split
    next rows =>
      apply Rules.Triple.pure
      rintro store - ⟨text, same, owned⟩
      cases same
      exact owned
    next => exact Rules.Triple.lift _ fun _ _ _ => trivial

theorem provenanceMatches_triple (environment : Environment) (context : OperationContext) :
    deployment.rules.Triple client (fun _ => True)
      (provenanceMatches environment finalTarget context)
      (ends (fun owned store => owned → FinalOf context.executionId store) fun _ => True) := by
  apply Rules.Triple.bind _ (showCreate_triple context.executionId)
  intro text
  split
  next marked =>
    have stable : deployment.rules.Stable client (FinalOf context.executionId) := stable_of_final
    apply Rules.Triple.bind fun _ => FinalOf context.executionId
    · apply ((tableLocation_reading environment finalTarget).keeps stable
        fun _ _ => trivial).weaken
      · exact fun store _ owned => owned marked
      · exact fun _ _ _ reached => reached
    · exact fun location => Rules.Triple.pure _ fun _ _ owned _ => owned
  next => exact Rules.Triple.pure _ fun _ _ _ owned => absurd owned (by simp)

theorem reconcilePublication_triple (environment : Environment) (context : OperationContext)
    (expectedRows : Option Nat) :
    deployment.rules.Triple client (fun _ => True)
      (reconcilePublication environment context expectedRows)
      (ends (fun found store => found = .published → Published context store) fun _ => True) := by
  apply Rules.Triple.bind _ ((relationExists_reading _).keeps stable_true fun _ _ => trivial)
  intro finalExists
  apply Rules.Triple.bind _ ((relationExists_reading _).keeps stable_true fun _ _ => trivial)
  intro stagingExists
  split
  next =>
    apply Rules.Triple.bind _ (provenanceMatches_triple environment context)
    intro owned
    split
    next isOwned =>
      apply Rules.Triple.bind fun _ => Published context
      · have stable : deployment.rules.Stable client (FinalOf context.executionId) :=
          stable_of_final
        have valid : deployment.rules.Triple client (fun _ => True)
            (validateTable finalTarget expectedRows (some context.tokenVersion)) _ :=
          validateTable_triple expectedRows context.tokenVersion
        apply (valid.frame (validateTable_reading _ _ _) stable).weaken
        · exact fun store _ creator => ⟨creator isOwned, trivial⟩
        · rintro (fault | count) store - ⟨creator, reached⟩
          · exact trivial
          · exact published_of_both creator reached
      · exact fun _ => Rules.Triple.pure _ fun _ _ published _ => published
    next => exact Rules.Triple.lift _ fun _ _ _ => trivial
  next =>
    split
    · exact Rules.Triple.pure _ fun _ _ _ staged => by cases staged
    · exact Rules.Triple.lift _ fun _ _ _ => trivial

/-- What was reported as published is published. -/
def Reported (context : OperationContext) : Ending → Store → Prop
  | .passed, store => Published context store
  | .raised raised, store => raised.reported = some .published → Published context store

theorem reconcile_triple (environment : Environment) (context : OperationContext) :
    deployment.rules.Triple client (fun _ => True) (reconcile environment context)
      (ends (Reported context) fun _ => True) := by
  apply Rules.Triple.attempt
    (ends (fun found store => found = .published → Published context store) fun _ => True)
  · apply Rules.Triple.bind _ ((reading_ask (by trivial)).keeps stable_true fun _ _ => trivial)
    exact fun _ => reconcilePublication_triple environment context none
  · rintro (fault | found)
    · exact Rules.Triple.pure _ fun _ _ _ same => by cases same
    · cases found with
      | published => exact Rules.Triple.pure _ fun _ _ reached => reached rfl
      | staged => exact Rules.Triple.pure _ fun _ _ _ same => by cases same

end Scripts

end PaymentsPlatform.TransformRuntime.TokenLink
