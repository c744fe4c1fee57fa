import Mathlib.Order.Defs.Unbundled

/-!
# Programs with a state and exceptions

A program that raises keeps the state that it has reached.  What every statement of a
program guarantees about the states before and after it, the program guarantees, as long as
the guarantee is reflexive and transitive.
-/

namespace Effects

/-- A program over a state that answers or raises. -/
def Effect (State Error α : Type) : Type := State → Except Error α × State

variable {State Error α β : Type}

namespace Effect

instance : Monad (Effect State Error) where
  pure value := fun state => (.ok value, state)
  bind program next := fun state =>
    match program state with
    | (.ok value, reached) => next value reached
    | (.error error, reached) => (.error error, reached)

/-- The answer of a program, or what it raises. -/
def outcome (program : Effect State Error α) (state : State) : Except Error α :=
  (program state).1

/-- The state that a program leaves behind. -/
def final (program : Effect State Error α) (state : State) : State := (program state).2

/-- A computation without effects. -/
def lift (result : Except Error α) : Effect State Error α := fun state => (result, state)

def raise (error : Error) : Effect State Error α := lift (.error error)

def current : Effect State Error State := fun state => (.ok state, state)

def change (update : State → State) : Effect State Error Unit := fun state => (.ok (), update state)

/-- `try: ... except Exception`. -/
def catching (program : Effect State Error α) (handler : Error → Effect State Error α) :
    Effect State Error α := fun state =>
  match program state with
  | (.ok value, reached) => (.ok value, reached)
  | (.error error, reached) => handler error reached

/-- `for entry in list: body(entry)`. -/
def each (body : α → Effect State Error Unit) : List α → Effect State Error Unit
  | [] => pure ()
  | entry :: rest => do
      body entry
      each body rest

variable {program : Effect State Error α} {next : α → Effect State Error β} {state : State}

@[simp]
theorem outcome_lift (result : Except Error α) : (lift result).outcome state = result := rfl

@[simp]
theorem final_lift (result : Except Error α) : (lift result).final state = state := rfl

@[simp]
theorem final_change (update : State → State) :
    (change update : Effect State Error Unit).final state = update state := rfl

theorem final_bind : (program >>= next).final state = match program.outcome state with
    | .ok value => (next value).final (program.final state)
    | .error _ => program.final state := by
  unfold outcome final
  simp only [bind]
  cases program state with
  | mk outcome reached => cases outcome <;> rfl

theorem outcome_bind : (program >>= next).outcome state = match program.outcome state with
    | .ok value => (next value).outcome (program.final state)
    | .error error => .error error := by
  unfold outcome final
  simp only [bind]
  cases program state with
  | mk outcome reached => cases outcome <;> rfl

theorem final_catching {handler : Error → Effect State Error α} :
    (catching program handler).final state = match program.outcome state with
      | .ok _ => program.final state
      | .error error => (handler error).final (program.final state) := by
  unfold outcome final catching
  cases program state with
  | mk outcome reached => cases outcome <;> rfl

end Effect

open Effect

/-- Whatever the state, the program relates it to the state that it leaves behind. -/
def Keeps (guarantee : State → State → Prop) (program : Effect State Error α) : Prop :=
  ∀ state, guarantee state (program.final state)

section Rules

variable {guarantee : State → State → Prop} {program : Effect State Error α}

section Reflexive

variable [Std.Refl guarantee]

theorem keeps_lift (result : Except Error α) : Keeps guarantee (lift result) :=
  fun state => refl_of guarantee state

theorem keeps_pure (value : α) : Keeps guarantee (pure value : Effect State Error α) :=
  fun state => refl_of guarantee state

theorem keeps_raise (error : Error) : Keeps guarantee (raise error : Effect State Error α) :=
  keeps_lift _

theorem keeps_current : Keeps guarantee (current : Effect State Error State) :=
  fun state => refl_of guarantee state

theorem after_bind {next : α → Effect State Error β}
    (rest : ∀ value, Keeps guarantee (next value)) (state : State) :
    guarantee (program.final state) ((program >>= next).final state) := by
  rw [final_bind]
  cases program.outcome state with
  | error error => exact refl_of guarantee _
  | ok value => exact rest value _

end Reflexive

section Transitive

variable [IsTrans State guarantee]

theorem keeps_bind {next : α → Effect State Error β} (first : Keeps guarantee program)
    (rest : ∀ value, Keeps guarantee (next value)) : Keeps guarantee (program >>= next) := by
  intro state
  rw [final_bind]
  cases program.outcome state with
  | error error => exact first state
  | ok value => exact trans_of guarantee (first state) (rest value _)

theorem keeps_catching {handler : Error → Effect State Error α} (body : Keeps guarantee program)
    (handled : ∀ error, Keeps guarantee (handler error)) :
    Keeps guarantee (catching program handler) := by
  intro state
  rw [final_catching]
  cases program.outcome state with
  | ok value => exact body state
  | error error => exact trans_of guarantee (body state) (handled error _)

theorem keeps_each [Std.Refl guarantee] {list : List α} {body : α → Effect State Error Unit}
    (bodies : ∀ entry ∈ list, Keeps guarantee (body entry)) : Keeps guarantee (each body list) := by
  induction list with
  | nil => exact keeps_pure ()
  | cons entry rest ih =>
      apply keeps_bind
      · exact bodies entry List.mem_cons_self
      · intro _
        exact ih fun other listed => bodies other (List.mem_cons_of_mem _ listed)

end Transitive

end Rules

end Effects
