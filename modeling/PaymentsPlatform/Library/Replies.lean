import PaymentsPlatform.Library.Transactions

/-!
# A database in other words

A program may hear the replies of one engine in the words of another.  Where the two engines do
the same to the database, the calls of any interleaving are done alike, so a run need only be
studied with the replies that can really occur.
-/

namespace Transactional

variable {Database Statement Row Row' Fault Fault' Result Connection Call : Type}

/-- The program, hearing each reply as the other engine would have given it. -/
def Program.translate (hear : Except Fault' (List Row') → Except Fault (List Row)) :
    Program Statement Row Fault Result → Program Statement Row' Fault' Result
  | done result => .done result
  | inTransaction next => .inTransaction fun isOpen => (next isOpen).translate hear
  | execute request next => .execute request fun reply => (next (hear reply)).translate hear

/-- What a statement replies and leaves. -/
def Engine.answer (engine : Engine Database Statement Row Fault) (statement : Statement)
    (database : Database) : Except Fault (List Row) × Database :=
  match engine.perform statement database with
  | .ok (changed, rows) => (.ok rows, changed)
  | .error fault => (.error fault, database)

/-- The one engine does what the other does, and is heard as the other. -/
structure Speaks (engine : Engine Database Statement Row Fault)
    (spoken : Engine Database Statement Row' Fault')
    (hear : Except Fault' (List Row') → Except Fault (List Row)) (fault : Fault' → Fault) :
    Prop where
  error : ∀ met, hear (.error met) = .error (fault met)
  nothing : hear (.ok []) = .ok []
  busy : fault spoken.busy = engine.busy
  nested : fault spoken.nested = engine.nested
  noCommit : fault spoken.noCommit = engine.noCommit
  noRollback : fault spoken.noRollback = engine.noRollback
  answer : ∀ statement database, engine.answer statement database =
    (hear (spoken.answer statement database).1, (spoken.answer statement database).2)

/-- The trouble of an action, in the words of the other engine. -/
def Action.translate (fault : Fault' → Fault) :
    Action Fault' Connection Call → Action Fault Connection Call
  | .start connection call => .start connection call
  | .advance connection trouble =>
      .advance connection (trouble.map fun met => (fault met.1, met.2))
  | .lost connection => .lost connection

variable {hear : Except Fault' (List Row') → Except Fault (List Row)} {fault : Fault' → Fault}

theorem settle_translate (program : Program Statement Row Fault Result) (isOpen : Bool) :
    (program.translate hear).settle isOpen = (program.settle isOpen).translate hear := by
  induction program with
  | done result => rfl
  | inTransaction next ih => exact ih isOpen
  | execute request next => rfl

section Worlds

variable [DecidableEq Connection]

/-- The calls under way, with the programs translated. -/
def World.translate (hear : Except Fault' (List Row') → Except Fault (List Row))
    (world : World Database Statement Row Fault Result Connection Call) :
    World Database Statement Row' Fault' Result Connection Call where
  stored := world.stored
  opened := world.opened
  calls connection := (world.calls connection).map fun underWay =>
    (underWay.1, underWay.2.translate hear)

variable {world : World Database Statement Row Fault Result Connection Call}
  {connection : Connection} {engine : Engine Database Statement Row Fault}
  {spoken : Engine Database Statement Row' Fault'}

theorem translate_setCall (underWay : Option (Call × Program Statement Row Fault Result)) :
    (world.setCall connection underWay).translate hear =
      (world.translate hear).setCall connection (underWay.map fun underWay =>
        (underWay.1, underWay.2.translate hear)) := by
  simp only [World.translate, World.setCall, World.mk.injEq, true_and]
  funext other
  by_cases same : other = connection
  · subst same
    simp only [Function.update_self]
  · simp only [Function.update_of_ne same]

theorem translate_release :
    (world.release connection).translate hear = (world.translate hear).release connection := by
  unfold World.release
  change World.translate hear (if (world.working connection).isSome then _ else _) =
    if (world.working connection).isSome then _ else _
  split <;> rfl

theorem ask_perform_working {statement : Statement} {database : Database}
    (isWorking : world.working connection = some database) :
    ask engine world connection (.perform statement) =
      ((engine.answer statement database).1,
        { world with opened := some (connection, (engine.answer statement database).2) }) := by
  cases performed : engine.perform statement database with
  | ok changed => simp only [ask, isWorking, Engine.answer, performed]
  | error fault =>
      simp only [ask, isWorking, Engine.answer, performed]
      rw [← working_eq_some.mp isWorking]

theorem ask_perform_alone {statement : Statement} (isClosed : world.opened = none) :
    ask engine world connection (.perform statement) =
      ((engine.answer statement world.stored).1,
        { world with stored := (engine.answer statement world.stored).2 }) := by
  simp only [ask, working_of_none isClosed, isClosed, Option.isSome_none, Bool.false_eq_true,
    if_false, Engine.answer]
  cases engine.perform statement world.stored with
  | ok answered => rfl
  | error met => rw [← isClosed]

/-- A request is answered alike. -/
theorem ask_translate (speaks : Speaks engine spoken hear fault)
    (request : Request Statement) :
    (hear (ask spoken (world.translate hear) connection request).1 =
        (ask engine world connection request).1) ∧
      (ask spoken (world.translate hear) connection request).2 =
        (ask engine world connection request).2.translate hear := by
  have sameWorking : (world.translate hear).working connection = world.working connection := rfl
  cases request with
  | begin =>
      cases isOpen : world.opened with
      | none => simp [ask, World.translate, isOpen, speaks.nothing]
      | some held =>
          by_cases same : held.1 = connection <;>
            simp [ask, World.translate, isOpen, same, speaks.error, speaks.nested, speaks.busy]
  | perform statement =>
      cases isWorking : world.working connection with
      | some database =>
          rw [ask_perform_working isWorking, ask_perform_working (sameWorking.trans isWorking),
            speaks.answer]
          exact ⟨rfl, rfl⟩
      | none =>
          cases isOpen : world.opened with
          | none =>
              have alsoClosed : (world.translate hear).opened = none := isOpen
              rw [ask_perform_alone isOpen, ask_perform_alone alsoClosed, speaks.answer]
              exact ⟨rfl, rfl⟩
          | some held =>
              have alsoOpen : (world.translate hear).opened = some held := isOpen
              simp [ask, sameWorking, isWorking, isOpen, alsoOpen, speaks.error, speaks.busy]
  | commit =>
      cases isWorking : world.working connection with
      | some database =>
          simp only [ask, sameWorking, isWorking]
          exact ⟨speaks.nothing, rfl⟩
      | none => simp [ask, sameWorking, isWorking, speaks.error, speaks.noCommit]
  | rollback =>
      cases isWorking : world.working connection with
      | some database =>
          simp only [ask, sameWorking, isWorking]
          exact ⟨speaks.nothing, rfl⟩
      | none => simp [ask, sameWorking, isWorking, speaks.error, speaks.noRollback]

theorem exchange_translate (speaks : Speaks engine spoken hear fault)
    (world : World Database Statement Row Fault Result Connection Call) (connection : Connection)
    (request : Request Statement) (trouble : Option (Fault' × Bool)) :
    (hear (exchange spoken (world.translate hear) connection request trouble).1 =
        (exchange engine world connection request
          (trouble.map fun met => (fault met.1, met.2))).1) ∧
      (exchange spoken (world.translate hear) connection request trouble).2 =
        (exchange engine world connection request
          (trouble.map fun met => (fault met.1, met.2))).2.translate hear := by
  rcases trouble with _ | ⟨met, closes⟩
  · exact ask_translate speaks request
  · cases request with
    | rollback => exact ⟨speaks.error met, translate_release.symm⟩
    | begin => cases closes <;> exact ⟨speaks.error met, by simp [exchange, translate_release]⟩
    | perform statement =>
        cases closes <;> exact ⟨speaks.error met, by simp [exchange, translate_release]⟩
    | commit => cases closes <;> exact ⟨speaks.error met, by simp [exchange, translate_release]⟩

theorem resume_translate (before : Database) (call : Call)
    (program : Program Statement Row Fault Result) :
    resume (world.translate hear) before connection call (program.translate hear) =
      ((resume world before connection call program).1.translate hear,
        (resume world before connection call program).2) := by
  have sameWorking : (world.translate hear).working connection = world.working connection := rfl
  unfold resume
  rw [settle_translate, sameWorking]
  cases program.settle (world.working connection).isSome with
  | done result =>
      simp only [Program.translate, translate_setCall, Option.map_none]
      rfl
  | inTransaction next => simp only [Program.translate, translate_setCall, Option.map_some]
  | execute request next => simp only [Program.translate, translate_setCall, Option.map_some]

variable (program : Call → Program Statement Row Fault Result)

/-- A step of the one is a step of the other. -/
theorem advance_translate (speaks : Speaks engine spoken hear fault)
    (world : World Database Statement Row Fault Result Connection Call)
    (action : Action Fault' Connection Call) :
    advance spoken (fun call => (program call).translate hear) (world.translate hear) action =
      ((advance engine program world (action.translate fault)).1.translate hear,
        (advance engine program world (action.translate fault)).2) := by
  cases action with
  | start connection call =>
      cases underWay : world.calls connection with
      | none =>
          have idle : (world.translate hear).calls connection = none := by
            simp [World.translate, underWay]
          simp only [advance, Action.translate, underWay, idle]
          exact resume_translate world.stored call (program call)
      | some busy =>
          have alsoBusy : (world.translate hear).calls connection =
              some (busy.1, busy.2.translate hear) := by simp [World.translate, underWay]
          simp only [advance, Action.translate, underWay, alsoBusy]
  | advance connection trouble =>
      rcases underWay : world.calls connection with _ | ⟨call, rest⟩
      · have idle : (world.translate hear).calls connection = none := by
          simp [World.translate, underWay]
        simp only [advance, Action.translate, underWay, idle]
      · have alsoUnderWay : (world.translate hear).calls connection =
            some (call, rest.translate hear) := by simp [World.translate, underWay]
        cases rest with
        | done result => simp only [advance, Action.translate, underWay, alsoUnderWay, Program.translate]
        | inTransaction next =>
            simp only [advance, Action.translate, underWay, alsoUnderWay, Program.translate]
        | execute request next =>
            simp only [advance, Action.translate, underWay, alsoUnderWay, Program.translate]
            obtain ⟨heard, left⟩ := exchange_translate speaks world connection request trouble
            rw [heard, left]
            exact resume_translate _ call _
  | lost connection =>
      simp only [advance, Action.translate, translate_setCall, translate_release, Option.map_none]

/-- Runs of the one are runs of the other: the same calls are done, with the same results. -/
theorem run_translate (speaks : Speaks engine spoken hear fault)
    (world : World Database Statement Row Fault Result Connection Call)
    (actions : List (Action Fault' Connection Call)) :
    Machine.run (step spoken fun call => (program call).translate hear) (world.translate hear)
        actions =
        (Machine.run (step engine program) world (actions.map (Action.translate fault))).translate
          hear ∧
      Machine.log (step spoken fun call => (program call).translate hear)
          (report spoken fun call => (program call).translate hear) (world.translate hear) actions =
        Machine.log (step engine program) (report engine program) world
          (actions.map (Action.translate fault)) := by
  induction actions generalizing world with
  | nil => exact ⟨rfl, rfl⟩
  | cons action rest ih =>
      have advanced := advance_translate program speaks world action
      have stepped : step spoken (fun call => (program call).translate hear)
          (world.translate hear) action =
          (step engine program world (action.translate fault)).translate hear :=
        congrArg Prod.fst advanced
      have reported : report spoken (fun call => (program call).translate hear)
          (world.translate hear) action = report engine program world (action.translate fault) :=
        congrArg Prod.snd advanced
      obtain ⟨ran, logged⟩ :=
        ih (step engine program world (action.translate fault))
      rw [List.map_cons, Machine.run_cons, Machine.run_cons, Machine.log_cons, Machine.log_cons,
        stepped, reported, ran, logged]
      exact ⟨rfl, rfl⟩

end Worlds

end Transactional
