import PaymentsPlatform.TransformRuntime.RawToBronze

/-!
# A Bronze model is published once

The `CREATE TABLE` is the lock: only the invocation that was told of its success writes, and only
as long as no file is registered.  Whatever an invocation finds or leaves with a registered file,
stays as it is.
-/

namespace PaymentsPlatform.TransformRuntime.RawToBronze

open RelyGuarantee

variable {Client : Type}

/-- What an invocation may change: it creates the table, and fills the one that it has created. -/
inductive Permitted (client : Client) : Store Client → Store Client → Prop where
  | same (store : Store Client) : Permitted client store store
  | create {store : Store Client} (choice : Choice) (absent : store.table = none) :
      Permitted client store { store with table := some (newTable choice client) }
  | write {store : Store Client} {table : Table Client} (objects : String → Option Nat)
      (held : store.table = some table) (own : table.creator = some client)
      (empty : table.files = []) : Permitted client store { store with objects := objects }
  | register {store : Store Client} {table : Table Client} (path : String) (rows : Nat)
      (held : store.table = some table) (own : table.creator = some client)
      (empty : table.files = []) :
      Permitted client store { store with table := some (table.add path rows) }

namespace Permitted

variable {client : Client} {before after : Store Client} {table : Table Client}

theorem eq_of_foreign (permitted : Permitted client before after)
    (held : before.table = some table) (foreign : table.creator ≠ some client) :
    after = before := by
  cases permitted with
  | same => rfl
  | create choice absent => cases held.symm.trans absent
  | write objects heldToo own empty =>
      cases held.symm.trans heldToo
      exact absurd own foreign
  | register path rows heldToo own empty =>
      cases held.symm.trans heldToo
      exact absurd own foreign

theorem eq_of_registered (permitted : Permitted client before after)
    (held : before.table = some table) (registered : table.files ≠ []) : after = before := by
  cases permitted with
  | same => rfl
  | create choice absent => cases held.symm.trans absent
  | write objects heldToo own empty =>
      cases held.symm.trans heldToo
      exact absurd empty registered
  | register path rows heldToo own empty =>
      cases held.symm.trans heldToo
      exact absurd empty registered

theorem shown_kept (permitted : Permitted client before after)
    (held : before.table = some table) :
    ∃ later, after.table = some later ∧ later.shown = table.shown := by
  cases permitted with
  | same => exact ⟨table, held, rfl⟩
  | create choice absent => cases held.symm.trans absent
  | write objects heldToo own empty => exact ⟨table, held, rfl⟩
  | register path rows heldToo own empty =>
      cases held.symm.trans heldToo
      exact ⟨_, rfl, rfl⟩

end Permitted

/-- The invocations of one model, and what they start from: a table that is there already is none
of theirs. -/
structure Deployment (Client : Type) where
  modelName : String
  invocation : Client → Invocation
  store : Store Client
  older : ∀ table, store.table = some table → table.creator = none

namespace Deployment

def rules (_ : Deployment Client) : Rules Client (Store Client) (Statement Client) Choice Reply
    Fault where
  perform := perform
  Invariant _ := True
  rely client before after := ∃ other, other ≠ client ∧ Permitted other before after
  guarantee := Permitted
  guarantee_refl _ store := .same store
  compatible client _ _ _ distinct _ permitted := ⟨client, distinct, permitted⟩

@[simp]
theorem rules_perform (deployment : Deployment Client) : deployment.rules.perform = perform := rfl

end Deployment

/-! ## What is known of the table -/

/-- The permanent path of the execution in the location that the table shows. -/
def LocatedAt (invocation : Invocation) (modelName : String) (table : Table Client)
    (path : String) : Prop :=
  ∃ location, invocation.extractTableLocation table.shown = .ok location ∧
    invocation.permanentParquetPath location modelName = .ok path

/-- The invocation has created the table, and no file is registered. -/
structure Mine (client : Client) (store : Store Client) (table : Table Client) : Prop where
  held : store.table = some table
  own : table.creator = some client
  empty : table.files = []

/-- The rows and the columns of the table are the expected ones. -/
structure Verified (invocation : Invocation) (rows : Nat) (expectedColumns : List Column)
    (store : Store Client) (table : Table Client) : Prop where
  rows : store.rowsOf table = some rows
  columns : table.columns.map (Prod.map id invocation.normalised) =
    expectedColumns.map (Prod.map id invocation.normalised)

/-- The table has one file, that of the execution, and is as the invocation expects it. -/
structure PublishedAs (invocation : Invocation) (modelName : String) (rows : Nat)
    (expectedColumns : List Column) (store : Store Client) (table : Table Client)
    (path : String) : Prop where
  held : store.table = some table
  located : LocatedAt invocation modelName table path
  files : table.files = [(path, rows)]
  verified : Verified invocation rows expectedColumns store table

def Published (invocation : Invocation) (modelName : String) (rows : Nat)
    (expectedColumns : List Column) (store : Store Client) : Prop :=
  ∃ table path, PublishedAs invocation modelName rows expectedColumns store table path

section Stability

variable {deployment : Deployment Client} {client : Client}

theorem stable_true : deployment.rules.Stable client fun _ => True := fun _ _ _ _ => trivial

theorem stable_of_registered {condition : Store Client → Prop}
    (registered : ∀ store, condition store →
      ∃ table, store.table = some table ∧ table.files ≠ []) :
    deployment.rules.Stable client condition := by
  rintro before after ⟨other, -, permitted⟩ holds
  obtain ⟨table, held, files⟩ := registered before holds
  rw [permitted.eq_of_registered held files]
  exact holds

theorem stable_of_mine {condition : Store Client → Prop}
    (mine : ∀ store, condition store → ∃ table, Mine client store table) :
    deployment.rules.Stable client condition := by
  rintro before after ⟨other, distinct, permitted⟩ holds
  obtain ⟨table, owned⟩ := mine before holds
  rw [permitted.eq_of_foreign owned.held ?_]
  · exact holds
  · rw [owned.own]
    exact fun same => distinct (Option.some.inj same).symm

theorem stable_located (invocation : Invocation) (modelName path : String) :
    deployment.rules.Stable client fun store =>
      ∃ table, store.table = some table ∧ LocatedAt invocation modelName table path := by
  rintro before after ⟨other, -, permitted⟩ ⟨table, held, located⟩
  obtain ⟨later, heldLater, shown⟩ := permitted.shown_kept held
  refine ⟨later, heldLater, ?_⟩
  rw [LocatedAt, shown]
  exact located

theorem stable_published (invocation : Invocation) (modelName : String) (rows : Nat)
    (expectedColumns : List Column) :
    deployment.rules.Stable client (Published invocation modelName rows expectedColumns) := by
  apply stable_of_registered
  rintro store ⟨table, path, published⟩
  exact ⟨table, published.held, by simp [published.files]⟩

end Stability

/-! ## Scripts that read -/

section Scripts

variable {deployment : Deployment Client} {client : Client} {invocation : Invocation}
  {modelName : String} {rows : Nat} {expectedColumns : List Column}

theorem fromTable_ok {store changed : Store Client} {answer : Table Client → Except Fault Reply}
    {reply : Reply} (answered : store.fromTable answer = .ok (changed, reply)) :
    changed = store ∧ ∃ table, store.table = some table ∧ answer table = .ok reply := by
  unfold Store.fromTable at answered
  split at answered
  next => cases answered
  next table held =>
    cases found : answer table with
    | error fault => simp [found, Except.map] at answered
    | ok given =>
        simp only [found, Except.map, Except.ok.injEq, Prod.mk.injEq] at answered
        exact ⟨answered.1.symm, table, held, by rw [found, answered.2]⟩

def Statement.reads : Statement Client → Prop
  | .createTable _ _ | .copy _ | .addFiles _ => False
  | _ => True

theorem reading_ask {statement : Statement Client} (reads : statement.reads) :
    deployment.rules.Reading (Program.ask statement : Script Client Reply) := by
  apply Rules.Reading.ask
  intro choice store changed reply performed
  cases statement with
  | createTable _ _ | copy _ | addFiles _ => cases reads
  | tableCount =>
      cases performed
      rfl
  | parquetMetadata path =>
      rw [Deployment.rules_perform, perform] at performed
      split at performed
      next =>
        cases performed
        rfl
      next => cases performed
  | showCreate | registeredFiles | describe | rowCount => exact (fromTable_ok performed).1

theorem tableExists_reading : deployment.rules.Reading (tableExists modelName) := by
  apply Rules.Reading.bind (reading_ask (by trivial))
  intro reply
  split
  · exact trivial
  · exact trivial
  · exact trivial

theorem locate_reading : deployment.rules.Reading (locate invocation modelName) := by
  apply Rules.Reading.bind
  · apply Rules.Reading.bind (reading_ask (by trivial))
    intro reply
    split
    · exact trivial
    · exact trivial
  · exact fun location => Rules.Reading.lift _

theorem registeredFiles_reading : deployment.rules.Reading registeredFiles := by
  apply Rules.Reading.bind (reading_ask (by trivial))
  intro reply
  split
  · exact trivial
  · exact trivial

theorem verifyTable_reading :
    deployment.rules.Reading (verifyTable invocation modelName rows expectedColumns) := by
  apply Rules.Reading.bind (reading_ask (by trivial))
  intro reply
  split
  · split
    · exact trivial
    · apply Rules.Reading.bind (reading_ask (by trivial))
      intro reply
      split
      · split
        · exact trivial
        · exact trivial
      · exact trivial
  · exact trivial

theorem recognise_reading :
    deployment.rules.Reading (recognise invocation modelName rows expectedColumns) := by
  apply Rules.Reading.bind locate_reading
  intro path
  apply Rules.Reading.bind registeredFiles_reading
  intro files
  split
  · exact trivial
  · exact Rules.Reading.bind verifyTable_reading fun _ => trivial

/-! ## What the scripts establish -/

theorem locate_triple :
    deployment.rules.Triple client (fun _ => True) (locate invocation modelName)
      (ends (fun path store =>
        ∃ table, store.table = some table ∧ LocatedAt invocation modelName table path)
        fun _ => True) := by
  apply Rules.Triple.bind fun location store => ∃ table, store.table = some table ∧
    invocation.extractTableLocation table.shown = .ok location
  · apply Rules.Triple.bind fun reply store => ∃ table, store.table = some table ∧
      reply = .shown table.shown
    · apply Rules.Triple.read (reading_ask (by trivial)) stable_true fun _ _ _ => trivial
      intro store choice reply _ _ performed
      obtain ⟨-, table, held, answered⟩ := fromTable_ok performed
      cases answered
      exact ⟨table, held, rfl⟩
    · intro reply
      split
      next shown =>
        apply Rules.Triple.lift
        rintro store - ⟨table, held, same⟩
        cases same
        cases found : invocation.extractTableLocation table.shown with
        | error fault => exact trivial
        | ok location => exact ⟨table, held, found⟩
      next => exact Rules.Triple.lift _ fun _ _ _ => trivial
  · intro location
    apply Rules.Triple.lift
    rintro store - ⟨table, held, extracted⟩
    cases found : invocation.permanentParquetPath location modelName with
    | error fault => exact trivial
    | ok path => exact ⟨table, held, location, extracted, found⟩

theorem registeredFiles_triple {condition : Store Client → Prop}
    (stable : deployment.rules.Stable client condition) :
    deployment.rules.Triple client condition registeredFiles
      (ends (fun files store => condition store ∧
        ∃ table, store.table = some table ∧ table.files = files) fun _ => True) := by
  apply Rules.Triple.bind fun reply store => condition store ∧
    ∃ table, store.table = some table ∧ reply = .files table.files
  · apply Rules.Triple.read (reading_ask (by trivial)) stable fun _ _ _ => trivial
    intro store choice reply _ holds performed
    obtain ⟨-, table, held, answered⟩ := fromTable_ok performed
    cases answered
    exact ⟨holds, table, held, rfl⟩
  · intro reply
    split
    next files =>
      apply Rules.Triple.pure
      rintro store - ⟨holds, table, held, same⟩
      cases same
      exact ⟨holds, table, held, rfl⟩
    next => exact Rules.Triple.lift _ fun _ _ _ => trivial

/-- A check that passes, of a store with a registered file. -/
theorem verifyTable_triple {condition : Store Client → Prop}
    (registered : ∀ store, condition store →
      ∃ table, store.table = some table ∧ table.files ≠ []) :
    deployment.rules.Triple client condition
      (verifyTable invocation modelName rows expectedColumns)
      (ends (fun _ store => condition store ∧ ∃ table, store.table = some table ∧
        Verified invocation rows expectedColumns store table) fun _ => True) := by
  apply Rules.Triple.bind fun reply store => condition store ∧
    ∃ table, store.table = some table ∧ reply = .columns table.columns
  · apply Rules.Triple.read (reading_ask (by trivial)) (stable_of_registered registered)
      fun _ _ _ => trivial
    intro store choice reply _ holds performed
    obtain ⟨-, table, held, answered⟩ := fromTable_ok performed
    cases answered
    exact ⟨holds, table, held, rfl⟩
  intro reply
  split
  next actual =>
    split
    next => exact Rules.Triple.lift _ fun _ _ _ => trivial
    next same =>
      apply Rules.Triple.bind fun reply store => condition store ∧
        ∃ table, store.table = some table ∧ table.columns = actual ∧
          ∃ count, store.rowsOf table = some count ∧ reply = .count count
      · apply Rules.Triple.read (reading_ask (by trivial))
          (stable_of_registered fun store holds => registered store holds.1) fun _ _ _ => trivial
        rintro store choice reply - ⟨holds, table, held, isActual⟩ performed
        obtain ⟨-, other, heldToo, answered⟩ := fromTable_ok performed
        cases held.symm.trans heldToo
        cases isActual
        cases counted : store.rowsOf table with
        | none => simp [counted] at answered
        | some count =>
            rw [counted] at answered
            cases answered
            exact ⟨holds, table, held, rfl, count, counted, rfl⟩
      · intro reply
        split
        next number =>
          split
          next => exact Rules.Triple.lift _ fun _ _ _ => trivial
          next equal =>
            apply Rules.Triple.pure
            rintro store - ⟨holds, table, held, rfl, count, counted, isCount⟩
            cases isCount
            exact ⟨holds, table, held, by rw [counted, not_not.mp equal], not_not.mp same⟩
        next => exact Rules.Triple.lift _ fun _ _ _ => trivial
  next => exact Rules.Triple.lift _ fun _ _ _ => trivial

theorem recognise_triple :
    deployment.rules.Triple client (fun _ => True)
      (recognise invocation modelName rows expectedColumns)
      (ends (fun _ => Published invocation modelName rows expectedColumns) fun _ => True) := by
  apply Rules.Triple.bind _ locate_triple
  intro path
  apply Rules.Triple.bind _ (registeredFiles_triple (stable_located invocation modelName path))
  intro files
  split
  next => exact Rules.Triple.lift _ fun _ _ _ => trivial
  next same =>
    have found : files = [(path, rows)] := not_not.mp same
    apply Rules.Triple.bind
    · apply verifyTable_triple
      rintro store ⟨-, table, held, isFiles⟩
      exact ⟨table, held, by simp [isFiles, found]⟩
    · intro _
      apply Rules.Triple.pure
      rintro store - ⟨⟨⟨table, held, located⟩, other, heldToo, isFiles⟩, third, heldThird, verified⟩
      cases held.symm.trans heldToo
      cases held.symm.trans heldThird
      exact ⟨table, path, held, located, isFiles.trans found, verified⟩

theorem permanentFileExists_reading (path : String) :
    deployment.rules.Reading (permanentFileExists path) := by
  have metadata : deployment.rules.Reading
      (Program.ask (.parquetMetadata path) : Script Client Reply).attempt :=
    ⟨(reading_ask (by trivial)).1, fun _ => trivial⟩
  apply metadata.bind
  intro found
  split
  · exact trivial
  · exact trivial
  · exact trivial

theorem createTable_triple (columns : List Column) :
    deployment.rules.Triple client (fun _ => True)
      (createTable invocation client modelName columns)
      (ends (fun _ store => ∃ table, Mine client store table) fun _ => True) := by
  apply Rules.Triple.bind_lift fun _ _ => trivial
  intro definitions _
  split
  next => exact Rules.Triple.lift _ fun _ _ _ => trivial
  next =>
    apply Rules.Triple.bind fun _ store => ∃ table, Mine client store table
    · apply Rules.Triple.ask stable_true fun _ _ _ => trivial
      intro store choice changed reply _ _ performed
      rw [Deployment.rules_perform, perform] at performed
      split at performed
      next => cases performed
      next absent =>
        cases performed
        exact ⟨trivial, .create choice absent, ⟨_, rfl, rfl, rfl⟩, trivial⟩
    · exact fun _ => Rules.Triple.pure _ fun _ _ mine => mine

/-- The one file of the table is where it belongs, and has these rows. -/
def Registered (invocation : Invocation) (modelName path : String) (store : Store Client) : Prop :=
  ∃ table count, store.table = some table ∧ LocatedAt invocation modelName table path ∧
    table.files = [(path, count)] ∧ store.objects path = some count

theorem addFiles_triple (path : String) :
    deployment.rules.Triple client
      (fun store => ∃ table, Mine client store table ∧ LocatedAt invocation modelName table path)
      (Program.ask (.addFiles path))
      (ends (fun _ => Registered invocation modelName path) fun _ => True) := by
  apply Rules.Triple.ask _ fun _ _ _ => trivial
  · rintro store choice changed reply - ⟨table, mine, located⟩ performed
    simp only [Deployment.rules_perform, perform, mine.held] at performed
    cases written : store.objects path with
    | none => simp [written] at performed
    | some count =>
        simp only [written, Except.ok.injEq, Prod.mk.injEq] at performed
        rw [← performed.1]
        refine ⟨trivial, .register path count mine.held mine.own mine.empty, ?_, trivial⟩
        exact ⟨_, count, rfl, located, by simp [Table.add, mine.empty], written⟩
  · exact stable_of_mine fun _ ⟨table, mine, _⟩ => ⟨table, mine⟩

/-- What is reported as published, is. -/
theorem publish_triple :
    deployment.rules.Triple client (fun store => ∃ table, Mine client store table)
      (publish invocation modelName rows expectedColumns)
      (ends (fun _ => Published invocation modelName rows expectedColumns) fun _ => True) := by
  have ours path : deployment.rules.Stable client fun store =>
      ∃ table, Mine client store table ∧ LocatedAt invocation modelName table path :=
    stable_of_mine fun _ ⟨table, mine, _⟩ => ⟨table, mine⟩
  apply Rules.Triple.bind fun path store =>
    ∃ table, Mine client store table ∧ LocatedAt invocation modelName table path
  · apply (locate_triple.frame locate_reading (stable_of_mine fun _ mine => mine)).weaken
    · exact fun _ _ mine => ⟨mine, trivial⟩
    · rintro (fault | path) store - ⟨⟨table, mine⟩, reached⟩
      · exact trivial
      · obtain ⟨other, held, located⟩ := reached
        cases mine.held.symm.trans held
        exact ⟨table, mine, located⟩
  intro path
  apply Rules.Triple.bind _ (registeredFiles_reading.keeps (ours path) fun _ _ => trivial)
  intro files
  split
  next => exact Rules.Triple.lift _ fun _ _ _ => trivial
  next =>
    apply Rules.Triple.bind _
      ((permanentFileExists_reading path).keeps (ours path) fun _ _ => trivial)
    intro exist
    split
    next => exact Rules.Triple.lift _ fun _ _ _ => trivial
    next =>
      apply Rules.Triple.bind fun _ store =>
        ∃ table, Mine client store table ∧ LocatedAt invocation modelName table path
      · apply Rules.Triple.ask (ours path) fun _ _ _ => trivial
        rintro store choice changed reply - ⟨table, mine, located⟩ performed
        cases performed
        exact ⟨trivial, .write _ mine.held mine.own mine.empty,
          ⟨table, ⟨mine.held, mine.own, mine.empty⟩, located⟩, trivial⟩
      intro _
      apply Rules.Triple.bind _ (addFiles_triple path)
      intro _
      apply Rules.Triple.bind
      · apply verifyTable_triple
        rintro store ⟨table, count, held, located, files, written⟩
        exact ⟨table, held, by simp [files]⟩
      · intro _
        apply Rules.Triple.pure
        rintro store - ⟨⟨table, count, held, located, files, written⟩, other, heldToo, verified⟩
        cases held.symm.trans heldToo
        have counted := verified.rows
        simp only [Store.rowsOf, files, List.mapM_cons, List.mapM_nil, written] at counted
        obtain rfl : count = rows := by simpa using counted
        exact ⟨table, path, held, located, files, verified⟩

/-- The model is published as the invocation has found it. -/
def Fulfilled (invocation : Invocation) (modelName : String) (store : Store Client) : Prop :=
  ∃ rows columns expectedColumns,
    invocation.transformationMetadata modelName = .ok (rows, columns) ∧
    invocation.expectedTrinoColumns columns = .ok expectedColumns ∧
    Published invocation modelName rows expectedColumns store

theorem executeModel_triple :
    deployment.rules.Triple client (fun _ => True) (executeModel invocation client modelName)
      (ends (fun _ => Fulfilled invocation modelName) fun _ => True) := by
  apply Rules.Triple.bind_lift fun _ _ => trivial
  rintro ⟨rows, columns⟩ found
  apply Rules.Triple.bind_lift fun _ _ => trivial
  intro expectedColumns expected
  have fulfilled (store : Store Client)
      (published : Published invocation modelName rows expectedColumns store) :
      Fulfilled invocation modelName store :=
    ⟨rows, columns, expectedColumns, found, expected, published⟩
  apply Rules.Triple.bind _ (tableExists_reading.keeps stable_true fun _ _ => trivial)
  intro exist
  split
  next =>
    apply recognise_triple.weaken fun _ _ _ => trivial
    rintro (fault | verdict) store - reached
    · exact trivial
    · exact fulfilled store reached
  next =>
    apply Rules.Triple.bind _ (createTable_triple columns)
    intro _
    apply publish_triple.weaken fun _ _ mine => mine
    rintro (fault | verdict) store - reached
    · exact trivial
    · exact fulfilled store reached

end Scripts

/-! ## Runs -/

section Runs

variable [DecidableEq Client]

abbrev Occurrence (Client : Type) := Action Client Choice Fault

abbrev Invocations (Client : Type) := World Client (Store Client) (Statement Client) Reply Fault
  Verdict

def Store.registered (store : Store Client) : List (String × Nat) :=
  (store.table.map Table.files).getD []

/-- How often a file is registered while these actions are taken. -/
def registrations (world : Invocations Client) : List (Occurrence Client) → Nat
  | [] => 0
  | action :: rest =>
      let reached := RelyGuarantee.step perform world action
      (if reached.state.registered = world.state.registered then 0 else 1) +
        registrations reached rest

theorem registrations_le_append (world : Invocations Client)
    (before rest : List (Occurrence Client)) :
    registrations world before ≤ registrations world (before ++ rest) := by
  induction before generalizing world with
  | nil => exact Nat.zero_le _
  | cons action before ih => exact Nat.add_le_add_left (ih _) _

namespace Deployment

variable (deployment : Deployment Client)

def start : Invocations Client :=
  ⟨deployment.store, fun client =>
    some (executeModel (deployment.invocation client) client deployment.modelName)⟩

def run (actions : List (Occurrence Client)) : Invocations Client :=
  Machine.run (RelyGuarantee.step perform) deployment.start actions

/-- What an invocation has reached at its end. -/
def post (client : Client) : Except Fault Verdict → Store Client → Prop :=
  ends (fun _ => Fulfilled (deployment.invocation client) deployment.modelName) fun _ => True

omit [DecidableEq Client] in
theorem post_stable (client : Client) (outcome : Except Fault Verdict) :
    deployment.rules.Stable client (deployment.post client outcome) := by
  cases outcome with
  | error fault => exact stable_true
  | ok verdict =>
      rintro before after moved ⟨rows, columns, expectedColumns, found, expected, published⟩
      exact ⟨rows, columns, expectedColumns, found, expected,
        stable_published _ _ _ _ before after moved published⟩

omit [DecidableEq Client] in
theorem sound_start : Sound deployment.rules deployment.post deployment.start := by
  apply sound_initial trivial (fun client => executeModel_triple)
  exact fun _ => trivial

theorem sound_reached (actions : List (Occurrence Client)) :
    Sound deployment.rules deployment.post (deployment.run actions) :=
  sound_run deployment.post_stable deployment.sound_start actions

theorem permitted_step {world : Invocations Client}
    (sound : Sound deployment.rules deployment.post world) (action : Occurrence Client) :
    Permitted action.actor world.state (RelyGuarantee.step perform world action).state :=
  (sound_step deployment.post_stable sound action).2

theorem registrations_eq_zero {world : Invocations Client}
    (sound : Sound deployment.rules deployment.post world)
    (registered : world.state.registered ≠ []) (actions : List (Occurrence Client)) :
    registrations world actions = 0 := by
  induction actions generalizing world with
  | nil => rfl
  | cons action rest ih =>
      have kept : (RelyGuarantee.step perform world action).state = world.state := by
        cases held : world.state.table with
        | none => simp [Store.registered, held] at registered
        | some table =>
            apply (deployment.permitted_step sound action).eq_of_registered held
            simpa [Store.registered, held] using registered
      rw [registrations, kept, if_pos rfl, Nat.zero_add]
      apply ih (sound_step deployment.post_stable sound action).1
      rw [Deployment.rules_perform, kept]
      exact registered

theorem registrations_le_one {world : Invocations Client}
    (sound : Sound deployment.rules deployment.post world) (actions : List (Occurrence Client)) :
    registrations world actions ≤ 1 := by
  induction actions generalizing world with
  | nil => exact Nat.zero_le 1
  | cons action rest ih =>
      have onward := (sound_step deployment.post_stable sound action).1
      rw [registrations]
      by_cases same : (RelyGuarantee.step perform world action).state.registered =
          world.state.registered
      · rw [if_pos same, Nat.zero_add]
        exact ih onward
      · rw [if_neg same]
        by_cases empty : (RelyGuarantee.step perform world action).state.registered = []
        · rw [empty] at same
          have before := deployment.registrations_eq_zero sound (Ne.symm same) (action :: rest)
          rw [registrations, empty, if_neg same] at before
          exact absurd before (by omega)
        · have after := deployment.registrations_eq_zero onward empty rest
          rw [Deployment.rules_perform] at after
          rw [after]

end Deployment

/-- Publication happens at most once, tables that were there are left alone, and what is reported
as published is published. -/
theorem published_exactly_once (deployment : Deployment Client)
    (actions : List (Occurrence Client)) :
    registrations deployment.start actions ≤ 1 ∧
    (∀ action table, (deployment.run actions).state.table = some table →
      table.creator ≠ some action.actor →
      (RelyGuarantee.step perform (deployment.run actions) action).state =
        (deployment.run actions).state) ∧
    (∀ client rows expectedColumns, (deployment.run actions).clients client =
        some (recognise (deployment.invocation client) deployment.modelName rows
          expectedColumns) →
      ∀ later action, action.actor = client →
        (RelyGuarantee.step perform
            (Machine.run (RelyGuarantee.step perform) (deployment.run actions) later) action).state =
          (Machine.run (RelyGuarantee.step perform) (deployment.run actions) later).state) ∧
    ∀ client verdict, (deployment.run actions).clients client = some (.done (.ok verdict)) →
      Fulfilled (deployment.invocation client) deployment.modelName
        (deployment.run actions).state := by
  have sound := deployment.sound_reached actions
  refine ⟨?_, ?_, ?_, ?_⟩
  · exact deployment.registrations_le_one deployment.sound_start actions
  · intro action table held foreign
    exact (deployment.permitted_step sound action).eq_of_foreign held foreign
  · intro client rows expectedColumns recognising later action actor
    have idle : Idle deployment.rules (deployment.run actions) client := by
      intro program left
      obtain rfl := Option.some.inj (recognising.symm.trans left)
      exact recognise_reading
    exact ((idle.run later).step action).2 actor
  · exact fun client verdict ended => sound.reached ended

end Runs

/-! ## Two invocations -/

/-- The execution `be_a…a` or `be_b…b` of the model `loans`. -/
def invocationOf (second : Bool) : Invocation where
  environ := fun name =>
    [("OBJECT_STORE_BUCKET", "bucket"), ("NESSIE_WAREHOUSE", "s3://bucket/warehouse"),
      ("TRANSFORM_EXECUTION_ID",
        "be_" ++ String.ofList (List.replicate 32 (if second then 'b' else 'a')))].lookup name
  transformed := .ok (2, [("loan_id", "VARCHAR")])
  urlsplit := fun value => some
    { scheme := "s3", netloc := "bucket", hostname := some "bucket", username := none
      password := none, port := none, query := "", fragment := ""
      path := String.ofList (value.toList.drop "s3://bucket".toList.length) }
  unquote := id
  upper := String.toUpper
  isWord := fun c => c.isAlphanum || c = '_'
  isDigit := Char.isDigit

def twoInvocations : Deployment Bool where
  modelName := "loans"
  invocation := invocationOf
  store := ⟨none, fun _ => none⟩
  older := nofun

def loansChoice : Choice where
  shown := [[some "CREATE TABLE loans WITH (location = 's3://bucket/warehouse/loans')"]]
  columns := [("loan_id", "varchar")]
  rows := 2

/-- Both invocations find no table; the `CREATE TABLE` of the second comes first. -/
def overtaking : List (Occurrence Bool) :=
  ⟨false, .answer loansChoice⟩ :: List.replicate 7 ⟨true, .answer loansChoice⟩

/-- Then both go on to their ends. -/
def racing : List (Occurrence Bool) :=
  overtaking ++ (List.replicate 5 ⟨true, .answer loansChoice⟩ ++
    List.replicate 12 ⟨false, .answer loansChoice⟩)

theorem racing_registers_once : registrations twoInvocations.start racing = 1 := by
  apply le_antisymm (published_exactly_once twoInvocations racing).1
  have registered : registrations twoInvocations.start overtaking = 1 := by decide +kernel
  rw [← registered]
  exact registrations_le_append _ _ _

end PaymentsPlatform.TransformRuntime.RawToBronze
