import PaymentsPlatform.Library.Machine

/-!
# A database with one writer

Programs speak to a database through connections, a statement at a time, and
their statements interleave in any order.  A transaction is begun for writing,
so that at most one is open; until its `COMMIT` it works on a copy that no
other connection sees.  Any statement may meet trouble, after which the
transaction is either still open or has been rolled back.

A program that `Meets` a condition in isolation meets it in every interleaving:
the calls are done as if one after the other (`run_serial`).
-/

namespace Transactional

variable {Database Statement Row Fault Result : Type}

inductive Request (Statement : Type) where
  | begin
  | perform (statement : Statement)
  | commit
  | rollback

/-- What is left of a call, by the reply to its next request. -/
inductive Program (Statement Row Fault Result : Type) where
  | done (result : Result)
  | inTransaction (next : Bool → Program Statement Row Fault Result)
  | execute (request : Request Statement)
      (next : Except Fault (List Row) → Program Statement Row Fault Result)

namespace Program

def bind {Other : Type} (program : Program Statement Row Fault Result)
    (after : Result → Program Statement Row Fault Other) : Program Statement Row Fault Other :=
  match program with
  | done result => after result
  | inTransaction next => inTransaction fun isOpen => (next isOpen).bind after
  | execute request next => execute request fun reply => (next reply).bind after

instance : Monad (Program Statement Row Fault) where
  pure := done
  bind := bind

/-- A connection knows by itself whether it is in a transaction. -/
def settle (isOpen : Bool) : Program Statement Row Fault Result →
    Program Statement Row Fault Result
  | done result => done result
  | inTransaction next => (next isOpen).settle isOpen
  | execute request next => execute request next

end Program

/-- What the statements do, and the faults of requests that are out of place. -/
structure Engine (Database Statement Row Fault : Type) where
  perform : Statement → Database → Except Fault (Database × List Row)
  busy : Fault
  nested : Fault
  noCommit : Fault
  noRollback : Fault

section Isolation

variable (engine : Engine Database Statement Row Fault) (post : Result → Database → Database → Prop)

/-- The program takes the database from what its transaction finds to what it commits as the
condition demands of its result, and ends with its transaction closed, whatever the trouble.  The
phase holds what the open transaction found and what it has made of it. -/
def Meets : Program Statement Row Fault Result → Option (Database × Database) → Prop
  | .done result, none => ∀ database, post result database database
  | .done _, some _ => False
  | .inTransaction next, phase => Meets (next phase.isSome) phase
  | .execute .begin next, none =>
      (∀ fault, Meets (next (.error fault)) none) ∧
        ∀ database, Meets (next (.ok [])) (some (database, database))
  | .execute .begin next, some phase =>
      ∀ fault, Meets (next (.error fault)) (some phase) ∧ Meets (next (.error fault)) none
  | .execute (.perform _) _, none => False
  | .execute (.perform statement) next, some (found, working) =>
      (∀ fault, Meets (next (.error fault)) (some (found, working)) ∧
        Meets (next (.error fault)) none) ∧
      ∀ changed rows, engine.perform statement working = .ok (changed, rows) →
        Meets (next (.ok rows)) (some (found, changed))
  | .execute .commit next, none => ∀ fault, Meets (next (.error fault)) none
  -- what follows a successful `COMMIT` may ask the database for nothing more
  | .execute .commit next, some (found, working) =>
      (∀ fault, Meets (next (.error fault)) (some (found, working)) ∧
        Meets (next (.error fault)) none) ∧
      ∃ result, (next (.ok [])).settle false = .done result ∧ post result found working
  | .execute .rollback next, none => ∀ fault, Meets (next (.error fault)) none
  -- where a `ROLLBACK` is the last request, the database is still what the transaction found
  | .execute .rollback next, some (found, _) => ∀ reply, Meets (next reply) none ∨
      ∃ result, (next reply).settle false = .done result ∧ post result found found

variable {engine post}

theorem meets_settle {program : Program Statement Row Fault Result}
    {phase : Option (Database × Database)} (meets : Meets engine post program phase) :
    Meets engine post (program.settle phase.isSome) phase := by
  induction program with
  | done result => exact meets
  | inTransaction next ih => exact ih _ meets
  | execute request next => exact meets

end Isolation

variable {Connection Call : Type}

/-- The connections and what is left of the call each has under way. -/
structure World (Database Statement Row Fault Result Connection Call : Type) where
  stored : Database
  opened : Option (Connection × Database)
  calls : Connection → Option (Call × Program Statement Row Fault Result)

inductive Action (Fault Connection Call : Type) where
  | start (connection : Connection) (call : Call)
  /-- The next statement; `trouble` may end the transaction. -/
  | advance (connection : Connection) (trouble : Option (Fault × Bool))
  | lost (connection : Connection)

/-- A call that is done: the database before and after its last statement, and whether its
connection is left in a transaction. -/
structure Finished (Database Result Connection Call : Type) where
  connection : Connection
  call : Call
  result : Result
  before : Database
  after : Database
  inTransaction : Bool

section Serial

/-- The calls, one after the other, take the one database to the other. -/
def Serial : Database → List (Finished Database Result Connection Call) → Database → Prop
  | first, [], last => last = first
  | first, entry :: rest, last => entry.before = first ∧ Serial entry.after rest last

theorem Serial.append {first middle last : Database}
    {entries later : List (Finished Database Result Connection Call)}
    (serial : Serial first entries middle) (rest : Serial middle later last) :
    Serial first (entries ++ later) last := by
  induction entries generalizing first with
  | nil =>
      cases serial
      exact rest
  | cons entry entries ih => exact ⟨serial.1, ih serial.2⟩

theorem Serial.invariant {Invariant : Database → Prop} {first last : Database}
    {entries : List (Finished Database Result Connection Call)}
    (serial : Serial first entries last)
    (kept : ∀ entry ∈ entries, Invariant entry.before → Invariant entry.after)
    (holds : Invariant first) : (∀ entry ∈ entries, Invariant entry.before) ∧ Invariant last := by
  induction entries generalizing first with
  | nil =>
      cases serial
      exact ⟨by simp, holds⟩
  | cons entry rest ih =>
      obtain ⟨rfl, later⟩ := serial
      obtain ⟨each, atEnd⟩ := ih later
        (fun other listed => kept other (List.mem_cons_of_mem _ listed))
        (kept entry List.mem_cons_self holds)
      exact ⟨List.forall_mem_cons.mpr ⟨holds, each⟩, atEnd⟩

end Serial

section Running

variable [DecidableEq Connection]

namespace World

/-- What a connection has made of the database in its open transaction. -/
def working (world : World Database Statement Row Fault Result Connection Call)
    (connection : Connection) : Option Database :=
  match world.opened with
  | some (holder, database) => if holder = connection then some database else none
  | none => none

def phase (world : World Database Statement Row Fault Result Connection Call)
    (connection : Connection) : Option (Database × Database) :=
  (world.working connection).map (world.stored, ·)

/-- The transaction of the connection, if one is open, is rolled back. -/
def release (world : World Database Statement Row Fault Result Connection Call)
    (connection : Connection) : World Database Statement Row Fault Result Connection Call :=
  if (world.working connection).isSome then { world with opened := none } else world

def setCall (world : World Database Statement Row Fault Result Connection Call)
    (connection : Connection) (call : Option (Call × Program Statement Row Fault Result)) :
    World Database Statement Row Fault Result Connection Call :=
  { world with calls := Function.update world.calls connection call }

/-- Nothing under way. -/
def initial (database : Database) :
    World Database Statement Row Fault Result Connection Call :=
  ⟨database, none, fun _ => none⟩

end World

variable (engine : Engine Database Statement Row Fault)

/-- One request of a connection that meets no trouble. -/
def ask (world : World Database Statement Row Fault Result Connection Call)
    (connection : Connection) :
    Request Statement →
      Except Fault (List Row) × World Database Statement Row Fault Result Connection Call
  | .begin =>
      match world.opened with
      | none => (.ok [], { world with opened := some (connection, world.stored) })
      | some (holder, _) =>
          (.error (if holder = connection then engine.nested else engine.busy), world)
  | .perform statement =>
      match world.working connection with
      | some database =>
          match engine.perform statement database with
          | .ok (changed, rows) =>
              (.ok rows, { world with opened := some (connection, changed) })
          | .error fault => (.error fault, world)
      -- outside a transaction a statement commits by itself
      | none =>
          if world.opened.isSome then (.error engine.busy, world)
          else
            match engine.perform statement world.stored with
            | .ok (changed, rows) => (.ok rows, { world with stored := changed })
            | .error fault => (.error fault, world)
  | .commit =>
      match world.working connection with
      | some database => (.ok [], { world with stored := database, opened := none })
      | none => (.error engine.noCommit, world)
  | .rollback =>
      match world.working connection with
      | some _ => (.ok [], { world with opened := none })
      | none => (.error engine.noRollback, world)

/-- One request.  After a `ROLLBACK` no transaction is open, even where it reports trouble. -/
def exchange (world : World Database Statement Row Fault Result Connection Call)
    (connection : Connection) (request : Request Statement) :
    Option (Fault × Bool) →
      Except Fault (List Row) × World Database Statement Row Fault Result Connection Call
  | none => ask engine world connection request
  | some (fault, closes) =>
      match request with
      | .rollback => (.error fault, world.release connection)
      | _ => (.error fault, if closes then world.release connection else world)

/-- Go on with a call, up to its next statement or its end. -/
def resume (world : World Database Statement Row Fault Result Connection Call)
    (before : Database) (connection : Connection) (call : Call)
    (program : Program Statement Row Fault Result) :
    World Database Statement Row Fault Result Connection Call ×
      List (Finished Database Result Connection Call) :=
  match program.settle (world.working connection).isSome with
  | .done result =>
      (world.setCall connection none,
        [⟨connection, call, result, before, world.stored, (world.working connection).isSome⟩])
  | rest => (world.setCall connection (some (call, rest)), [])

variable (program : Call → Program Statement Row Fault Result)

def advance (world : World Database Statement Row Fault Result Connection Call) :
    Action Fault Connection Call →
      World Database Statement Row Fault Result Connection Call ×
        List (Finished Database Result Connection Call)
  | .start connection call =>
      match world.calls connection with
      | none => resume world world.stored connection call (program call)
      | some _ => (world, [])
  | .advance connection trouble =>
      match world.calls connection with
      | some (call, .execute request next) =>
          let answered := exchange engine world connection request trouble
          resume answered.2 world.stored connection call (next answered.1)
      | _ => (world, [])
  | .lost connection => ((world.release connection).setCall connection none, [])

def step (world : World Database Statement Row Fault Result Connection Call)
    (action : Action Fault Connection Call) :
    World Database Statement Row Fault Result Connection Call :=
  (advance engine program world action).1

def report (world : World Database Statement Row Fault Result Connection Call)
    (action : Action Fault Connection Call) :
    List (Finished Database Result Connection Call) :=
  (advance engine program world action).2

section Soundness

variable (contract : Call → Result → Database → Database → Prop)

/-- Every call under way can still meet its contract, and only such a call holds a transaction. -/
structure Sound (world : World Database Statement Row Fault Result Connection Call) : Prop where
  held : ∀ holder database, world.opened = some (holder, database) →
    (world.calls holder).isSome
  meets : ∀ connection call rest, world.calls connection = some (call, rest) →
    Meets engine (contract call) rest (world.phase connection)

/-- The call ended as its contract says and with its transaction closed. -/
structure Finished.Kept (entry : Finished Database Result Connection Call) : Prop where
  contract : contract entry.call entry.result entry.before entry.after
  closed : entry.inTransaction = false

/-- What a step from a sound world leads to: the database changes only where a call ends. -/
structure Advances (world : World Database Statement Row Fault Result Connection Call)
    (outcome : World Database Statement Row Fault Result Connection Call ×
      List (Finished Database Result Connection Call)) : Prop where
  sound : Sound engine contract outcome.1
  serial : Serial world.stored outcome.2 outcome.1.stored
  kept : ∀ entry ∈ outcome.2, entry.Kept contract

/-- What holds of a run from a database that has reached the world: the calls done so far took
the database to where it is. -/
structure Upheld (database : Database)
    (world : World Database Statement Row Fault Result Connection Call)
    (calls : List (Finished Database Result Connection Call)) : Prop where
  sound : Sound engine contract world
  serial : Serial database calls world.stored
  kept : ∀ entry ∈ calls, entry.Kept contract

variable {engine contract}

section Views

variable {world : World Database Statement Row Fault Result Connection Call}
  {connection other : Connection} {database : Database}

theorem working_eq_some : world.working connection = some database ↔
    world.opened = some (connection, database) := by
  unfold World.working
  split
  next holder held isOpen =>
    rw [isOpen]
    by_cases same : holder = connection <;> simp [same]
  next isClosed => simp [isClosed]

theorem working_of_none (isClosed : world.opened = none) : world.working connection = none := by
  simp [World.working, isClosed]

theorem working_of_other {held : Database} (isOpen : world.opened = some (other, held))
    (distinct : connection ≠ other) : world.working connection = none := by
  simp [World.working, isOpen, Ne.symm distinct]

theorem phase_eq_none : world.phase connection = none ↔ world.working connection = none := by
  simp [World.phase]

@[simp]
theorem phase_setCall (call : Option (Call × Program Statement Row Fault Result)) :
    (world.setCall other call).phase connection = world.phase connection := rfl

@[simp]
theorem stored_release : (world.release connection).stored = world.stored := by
  unfold World.release
  split <;> rfl

@[simp]
theorem calls_release : (world.release connection).calls = world.calls := by
  unfold World.release
  split <;> rfl

theorem opened_release : (world.release connection).opened =
    if (world.working connection).isSome then none else world.opened := by
  unfold World.release
  split <;> rfl

@[simp]
theorem phase_release_self : (world.release connection).phase connection = none := by
  rw [phase_eq_none]
  unfold World.release
  split
  next => rfl
  next isClosed => simpa using isClosed

theorem phase_release_other (distinct : other ≠ connection) :
    (world.release connection).phase other = world.phase other := by
  unfold World.release
  split
  next isOpen =>
    obtain ⟨held, isHeld⟩ := Option.isSome_iff_exists.mp isOpen
    have elsewhere := working_of_other (working_eq_some.mp isHeld) distinct
    rw [phase_eq_none.mpr elsewhere]
    rfl
  next => rfl

end Views

variable {world asked : World Database Statement Row Fault Result Connection Call}
  {connection : Connection} {call : Call} {rest : Program Statement Row Fault Result}

/-- The other connections see no difference. -/
structure Apart (world asked : World Database Statement Row Fault Result Connection Call)
    (connection : Connection) : Prop where
  calls : asked.calls = world.calls
  held : ∀ holder database, asked.opened = some (holder, database) → holder ≠ connection →
    (world.calls holder).isSome
  others : ∀ other, other ≠ connection → asked.phase other = world.phase other

/-- After one request the call can go on, or it has committed and is done. -/
structure Ready (engine : Engine Database Statement Row Fault)
    (contract : Call → Result → Database → Database → Prop)
    (world asked : World Database Statement Row Fault Result Connection Call)
    (connection : Connection) (call : Call)
    (rest : Program Statement Row Fault Result) : Prop extends Apart world asked connection where
  goes : (asked.stored = world.stored ∧
      Meets engine (contract call) rest (asked.phase connection)) ∨
    (asked.working connection = none ∧ ∃ result, rest.settle false = .done result ∧
      contract call result world.stored asked.stored)

theorem sound_finish (sound : Sound engine contract world) (ready : Apart world asked connection)
    (isClosed : asked.working connection = none) :
    Sound engine contract (asked.setCall connection none) where
  held := by
    intro holder database (isOpen : asked.opened = some (holder, database))
    have distinct : holder ≠ connection := by
      rintro rfl
      rw [working_eq_some.mpr isOpen] at isClosed
      cases isClosed
    simpa [World.setCall, distinct, ready.calls] using ready.held holder database isOpen distinct
  meets := by
    intro other otherCall otherRest underWay
    have distinct : other ≠ connection := by
      rintro rfl
      simp [World.setCall] at underWay
    rw [phase_setCall, ready.others other distinct]
    apply sound.meets other otherCall otherRest
    simpa [World.setCall, distinct, ready.calls] using underWay

theorem sound_continue (sound : Sound engine contract world) (ready : Apart world asked connection)
    {next : Program Statement Row Fault Result}
    (meets : Meets engine (contract call) next (asked.phase connection)) :
    Sound engine contract (asked.setCall connection (some (call, next))) where
  held := by
    intro holder database isOpen
    by_cases same : holder = connection
    · simp [World.setCall, same]
    · simpa [World.setCall, same, ready.calls] using ready.held holder database isOpen same
  meets := by
    intro other otherCall otherRest underWay
    by_cases same : other = connection
    · subst same
      have started : (call, next) = (otherCall, otherRest) := by
        simpa [World.setCall] using underWay
      cases started
      exact meets
    · rw [phase_setCall, ready.others other same]
      apply sound.meets other otherCall otherRest
      simpa [World.setCall, same, ready.calls] using underWay

theorem resume_advances (sound : Sound engine contract world)
    (ready : Ready engine contract world asked connection call rest) :
    Advances engine contract world (resume asked world.stored connection call rest) := by
  rcases ready.goes with
    ⟨unchanged, meets⟩ | ⟨isClosed, result, isDone, met⟩
  · have settled := meets_settle meets
    have sameOpen : (asked.phase connection).isSome = (asked.working connection).isSome := by
      simp [World.phase]
    rw [sameOpen] at settled
    unfold resume
    split
    next result isDone =>
      rw [isDone] at settled
      cases isPhase : asked.phase connection with
      | some phase => simp [isPhase, Meets] at settled
      | none =>
          rw [isPhase] at settled
          have isClosed := phase_eq_none.mp isPhase
          refine ⟨sound_finish sound ready.toApart isClosed, ⟨rfl, rfl⟩, ?_⟩
          intro entry listed
          cases List.mem_singleton.mp listed
          exact ⟨by rw [unchanged]; exact settled world.stored, by simp [isClosed]⟩
    next next _ =>
      exact ⟨sound_continue sound ready.toApart settled, unchanged, by simp⟩
  · unfold resume
    rw [isClosed, Option.isSome_none, isDone]
    refine ⟨sound_finish sound ready.toApart isClosed, ⟨rfl, rfl⟩, ?_⟩
    intro entry listed
    cases List.mem_singleton.mp listed
    exact ⟨met, by simp⟩

theorem apart_release (sound : Sound engine contract world) :
    Apart world (world.release connection) connection where
  calls := calls_release
  held := by
    intro holder database isOpen _
    rw [opened_release] at isOpen
    split at isOpen
    next => cases isOpen
    next => exact sound.held holder database isOpen
  others := fun _ distinct => phase_release_other distinct

theorem ready_of_release (sound : Sound engine contract world)
    (meets : Meets engine (contract call) rest none) :
    Ready engine contract world (world.release connection) connection call rest where
  toApart := apart_release sound
  goes := Or.inl ⟨stored_release, by rwa [phase_release_self]⟩

theorem ready_of_unchanged (sound : Sound engine contract world)
    (meets : Meets engine (contract call) rest (world.phase connection)) :
    Ready engine contract world world connection call rest where
  calls := rfl
  held := fun holder database isOpen _ => sound.held holder database isOpen
  others := fun _ _ => rfl
  goes := Or.inl ⟨rfl, meets⟩

/-- The only transaction is now that of the connection, at another copy. -/
theorem ready_of_opened {database : Database}
    (own : world.opened = none ∨ ∃ held, world.opened = some (connection, held))
    (meets : Meets engine (contract call) rest (some (world.stored, database))) :
    Ready engine contract world { world with opened := some (connection, database) }
      connection call rest where
  calls := rfl
  held := by
    intro holder held isOpen distinct
    cases isOpen
    exact absurd rfl distinct
  others := by
    intro other distinct
    have elsewhere : world.working other = none := by
      rcases own with
        isClosed | ⟨held, isOpen⟩
      · exact working_of_none isClosed
      · exact working_of_other isOpen distinct
    rw [phase_eq_none.mpr elsewhere, phase_eq_none]
    exact working_of_other rfl distinct
  goes := by
    left
    refine ⟨rfl, ?_⟩
    have isPhase : ({ world with opened := some (connection, database) } :
        World Database Statement Row Fault Result Connection Call).phase connection =
          some (world.stored, database) := by
      simp [World.phase, World.working]
    rwa [isPhase]

theorem exchange_trouble_ready {request : Request Statement}
    {next : Except Fault (List Row) → Program Statement Row Fault Result}
    (sound : Sound engine contract world)
    (underWay : world.calls connection = some (call, .execute request next))
    (fault : Fault) (closes : Bool) :
    Ready engine contract world
      (exchange engine world connection request (some (fault, closes))).2 connection call
      (next (exchange engine world connection request (some (fault, closes))).1) := by
  have meets := sound.meets connection call _ underWay
  cases isPhase : world.phase connection with
  | none =>
      rw [isPhase] at meets
      have failed : Meets engine (contract call) (next (.error fault)) none := by
        cases request with
        | begin => exact meets.1 fault
        | perform statement => exact meets.elim
        | commit => exact meets fault
        | rollback => exact meets fault
      have left : ∀ isClosing : Bool, Ready engine contract world
          (if isClosing then world.release connection else world) connection call
          (next (.error fault)) := by
        intro isClosing
        cases isClosing with
        | true => exact ready_of_release sound failed
        | false => exact ready_of_unchanged sound (by rwa [isPhase])
      cases request with
      | rollback => exact left true
      | begin => exact left closes
      | perform statement => exact left closes
      | commit => exact left closes
  | some phase =>
      obtain ⟨found, working⟩ := phase
      rw [isPhase] at meets
      have left : (∀ fault, Meets engine (contract call) (next (.error fault))
            (some (found, working)) ∧ Meets engine (contract call) (next (.error fault)) none) →
          Ready engine contract world
            (if closes then world.release connection else world) connection call
            (next (.error fault)) := by
        intro troubled
        cases closes with
        | true => exact ready_of_release sound (troubled fault).2
        | false => exact ready_of_unchanged sound (by rw [isPhase]; exact (troubled fault).1)
      cases request with
      | begin => exact left meets
      | perform statement => exact left meets.1
      | commit => exact left meets.1
      | rollback =>
          rcases meets (.error fault) with goesOn | ends
          · exact ready_of_release sound goesOn
          · have isFound : found = world.stored := by
              obtain ⟨database, -, same⟩ := Option.map_eq_some_iff.mp isPhase
              exact (Prod.mk.inj same).1.symm
            subst isFound
            refine ⟨apart_release sound, Or.inr ⟨phase_eq_none.mp phase_release_self, ?_⟩⟩
            change ∃ result, _ ∧ contract call result _ (world.release connection).stored
            rw [stored_release]
            exact ends

theorem ask_ready {request : Request Statement}
    {next : Except Fault (List Row) → Program Statement Row Fault Result}
    (sound : Sound engine contract world)
    (underWay : world.calls connection = some (call, .execute request next)) :
    Ready engine contract world (ask engine world connection request).2 connection call
      (next (ask engine world connection request).1) := by
  have meets := sound.meets connection call _ underWay
  cases isWorking : world.working connection with
  | none =>
      have isPhase := phase_eq_none.mpr isWorking
      rw [isPhase] at meets
      have failed : ∀ fault, Meets engine (contract call) (next (.error fault)) none →
          Ready engine contract world world connection call (next (.error fault)) :=
        fun fault refused => ready_of_unchanged sound (by rwa [isPhase])
      cases request with
      | begin =>
          cases isOpen : world.opened with
          | none =>
              simp only [ask, isOpen]
              exact ready_of_opened (Or.inl isOpen) (meets.2 world.stored)
          | some held =>
              simp only [ask, isOpen]
              exact failed _ (meets.1 _)
      | perform statement => exact meets.elim
      | commit =>
          simp only [ask, isWorking]
          exact failed _ (meets _)
      | rollback =>
          simp only [ask, isWorking]
          exact failed _ (meets _)
  | some working =>
      have isOpen := working_eq_some.mp isWorking
      have isPhase : world.phase connection = some (world.stored, working) := by
        simp [World.phase, isWorking]
      rw [isPhase] at meets
      have others : ∀ closed : World Database Statement Row Fault Result Connection Call,
          closed.opened = none → ∀ other, other ≠ connection →
            closed.phase other = world.phase other := by
        intro closed isClosed other distinct
        rw [phase_eq_none.mpr (working_of_other isOpen distinct), phase_eq_none]
        exact working_of_none isClosed
      cases request with
      | begin =>
          simp only [ask, isOpen]
          exact ready_of_unchanged sound (by rw [isPhase]; exact (meets _).1)
      | perform statement =>
          simp only [ask, isWorking]
          split
          next changed rows performed =>
            exact ready_of_opened (Or.inr ⟨working, isOpen⟩) (meets.2 changed rows performed)
          next => exact ready_of_unchanged sound (by rw [isPhase]; exact (meets.1 _).1)
      | commit =>
          simp only [ask, isWorking]
          exact ⟨⟨rfl, by simp, others _ rfl⟩, Or.inr ⟨working_of_none rfl, meets.2⟩⟩
      | rollback =>
          simp only [ask, isWorking]
          refine ⟨⟨rfl, by simp, others _ rfl⟩, ?_⟩
          rcases meets (.ok []) with goesOn | ends
          · refine Or.inl ⟨rfl, ?_⟩
            rw [phase_eq_none.mpr (working_of_none rfl)]
            exact goesOn
          · exact Or.inr ⟨working_of_none rfl, ends⟩

section Contract

variable {program : Call → Program Statement Row Fault Result}
  (meets : ∀ call, Meets engine (contract call) (program call) none)

include meets

theorem advance_advances (sound : Sound engine contract world)
    (action : Action Fault Connection Call) :
    Advances engine contract world (advance engine program world action) := by
  have unchanged : Advances engine contract world (world, []) := ⟨sound, rfl, by simp⟩
  cases action with
  | start connection call =>
      simp only [advance]
      split
      next idle =>
        have isClosed : world.working connection = none := by
          cases isWorking : world.working connection with
          | none => rfl
          | some database =>
              have busy := sound.held connection database (working_eq_some.mp isWorking)
              simp [idle] at busy
        apply resume_advances sound
        apply ready_of_unchanged sound
        rw [phase_eq_none.mpr isClosed]
        exact meets call
      next => exact unchanged
  | advance connection trouble =>
      simp only [advance]
      split
      next call request next underWay =>
        apply resume_advances sound
        cases trouble with
        | none => exact ask_ready sound underWay
        | some met => exact exchange_trouble_ready sound underWay met.1 met.2
      next => exact unchanged
  | lost connection =>
      exact ⟨sound_finish sound (apart_release sound) (phase_eq_none.mp phase_release_self),
        stored_release, by simp [advance]⟩

theorem run_serial (database : Database) (actions : List (Action Fault Connection Call)) :
    Upheld engine contract database
      (Machine.run (step engine program) (.initial database) actions)
      (Machine.log (step engine program) (report engine program) (.initial database) actions) := by
  have start : Upheld engine contract database
      (World.initial database : World Database Statement Row Fault Result Connection Call) [] := by
    refine ⟨⟨?_, ?_⟩, rfl, by simp⟩
    · intro holder held isOpen
      cases isOpen
    · intro connection call rest underWay
      cases underWay
  apply Machine.log_invariant (step engine program) (report engine program) ?_ start actions
  intro world action reported upheld
  have advances := advance_advances meets upheld.sound action
  refine ⟨advances.sound, upheld.serial.append advances.serial, ?_⟩
  intro entry listed
  rcases List.mem_append.mp listed with
    earlier | now
  · exact upheld.kept entry earlier
  · exact advances.kept entry now

end Contract

end Soundness

end Running

end Transactional
