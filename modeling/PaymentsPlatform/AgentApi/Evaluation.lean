import PaymentsPlatform.AgentApi.Sql
import PaymentsPlatform.Library.Triples

/-!
# The meaning of a query

Name resolution and scoping of SQL, once, over any domain of meanings: a query denotes a relation
and an expression a value, and what these are is left to the domain.  Rows of cells are one domain
and the columns that an output is computed from are another; a simulation carries a relation
between the operations of three domains over to every query.
-/

namespace PaymentsPlatform.AgentApi

open Library (Forall₃)

/-! ## Names in scope -/

structure Binding (β : Type) where
  qualifier : String
  label : String
  value : β

/-- The columns that the sources of one select bring into scope. -/
abbrev Frame (β : Type) := List (Binding β)

section Names

variable {β : Type}

/-- The innermost scope that knows the name decides. -/
def resolve (frames : List (Frame β)) (qualifier name : String) : Option β :=
  frames.findSome? fun frame => (frame.find? fun binding =>
    binding.label = name && (qualifier = "" || binding.qualifier = qualifier)).map Binding.value

/-- The columns of one source. -/
def bindings (qualifier : String) (labels : List String) (values : List β) : Frame β :=
  List.zipWith (Binding.mk qualifier) labels values

/-- An output column is named by its alias, or else as the column that it is. -/
def outputLabel : Expr → String
  | .aliased _ name => name
  | .column _ name => name
  | _ => ""

/-- What an entry of a select list puts out. -/
def itemOutputs (frame : Frame β) (item : Expr) (value : β) : List (String × β) :=
  match item with
  | .star => frame.map fun binding => (binding.label, binding.value)
  | .tableStar qualifier =>
      (frame.filter (·.qualifier = qualifier)).map fun binding => (binding.label, binding.value)
  | item => [(outputLabel item, value)]

/-- The labels of outputs that have no name of their own. -/
def positionLabels (outputs : List (String × β)) : List (String × β) :=
  outputs.mapIdx fun position output =>
    (if output.1 = "" then "_col" ++ toString position else output.1, output.2)

/-- The outputs as a scope: what `ORDER BY` looks at first. -/
def outputFrame (outputs : List (String × β)) : Frame β :=
  outputs.map fun output => ⟨"", output.1, output.2⟩

/-- `GROUP BY` and `ORDER BY` name outputs by their positions, too. -/
def positioned (outputs : List (String × β)) (term : Expr) (value : β) : β :=
  match term with
  | .literal text => ((text.toNat?.bind fun position => outputs[position - 1]?).map Prod.snd).getD value
  | _ => value

end Names

/-! ## Domains -/

/-- What a select puts out for one combination of its source rows, and what its clauses look at. -/
structure Body (β : Type) where
  items : List (String × β)
  clauses : List β

structure Domain where
  /-- The meaning of a query. -/
  Rel : Type
  /-- The meaning of an expression. -/
  Val : Type
  constant : Val
  /-- A column reference, by the name that is written. -/
  refer : String → Val → Val
  gather : List Val → Val
  scalar : Rel → Val
  physical : Reference → Rel
  /-- The sources come with their names in scope, and the body with what it makes of a frame. -/
  select : Query → Bool → List (String × Rel) → (Frame Val → Body Val) → Rel
  combine : Query → SetOperation → Rel → Rel → (Frame Val → List Val) → Rel

/-- What a query can name: common table expressions, the latest first, and the columns of the
selects around it, the innermost first. -/
structure Context (domain : Domain) where
  ctes : List (String × domain.Rel)
  frames : List (Frame domain.Val)

namespace Context

variable {domain : Domain} (context : Context domain)

/-- A bare name means the latest common table expression of that name, if there is one. -/
def table (reference : Reference) : domain.Rel :=
  if reference.catalog = "" ∧ reference.schema = "" then
    (context.ctes.lookup reference.name).getD (domain.physical reference)
  else domain.physical reference

def define (name : String) (relation : domain.Rel) : Context domain :=
  { context with ctes := (name, relation) :: context.ctes }

def enter (frame : Frame domain.Val) : Context domain :=
  { context with frames := frame :: context.frames }

end Context

variable (domain : Domain)

mutual

def Expr.eval (context : Context domain) : Expr → domain.Val
  | .column qualifier name =>
      ((resolve context.frames qualifier name).map (domain.refer name)).getD domain.constant
  | .call _ arguments => domain.gather (evalAll context arguments)
  | .aliased value _ => value.eval context
  | .subquery _ query => domain.scalar (query.eval context)
  | .star => domain.constant
  | .tableStar _ => domain.constant
  | .literal _ => domain.constant

def evalAll (context : Context domain) : List Expr → List domain.Val
  | [] => []
  | value :: rest => value.eval context :: evalAll context rest

/-- The sources, by their aliases or else by their names. -/
def From.eval (context : Context domain) : From → List (String × domain.Rel)
  | .done => []
  | .table _ reference correlation _ rest =>
      (if correlation = "" then reference.name else correlation, context.table reference) ::
        rest.eval context
  | .derived _ query correlation _ rest => (correlation, query.eval context) :: rest.eval context

/-- The join conditions. -/
def From.conditions (context : Context domain) : From → List domain.Val
  | .done => []
  | .table _ _ _ on rest => evalAll context on ++ rest.conditions context
  | .derived _ _ _ on rest => evalAll context on ++ rest.conditions context

def With.eval (context : Context domain) : With → Context domain
  | .done => context
  | .cte name query rest => rest.eval (context.define name (query.eval context))

def Query.eval (context : Context domain) : Query → domain.Rel
  | .select ctes distinct items sources filter group having order limit =>
      let inner := ctes.eval context
      domain.select (.select ctes distinct items sources filter group having order limit) distinct
        (sources.eval inner) fun frame =>
          let scope := inner.enter frame
          let outputs := positionLabels
            ((items.zip (evalAll scope items)).flatMap fun item => itemOutputs frame item.1 item.2)
          { items := outputs
            clauses := sources.conditions scope ++ evalAll scope filter ++
              List.zipWith (positioned outputs) group (evalAll scope group) ++
              evalAll scope having ++
              List.zipWith (positioned outputs) order
                (evalAll (scope.enter (outputFrame outputs)) order) }
  | .combine ctes operation left right order limit =>
      let inner := ctes.eval context
      domain.combine (.combine ctes operation left right order limit) operation
        (left.eval inner) (right.eval inner) fun frame =>
          List.zipWith (positioned (frame.map fun binding => (binding.label, binding.value))) order
            (evalAll (inner.enter frame) order)
  | .parens query => query.eval context

end

/-! ## Simulations -/

section Alike

variable {α β γ : Type} (related : α → β → γ → Prop)

structure BindingAlike (first : Binding α) (second : Binding β) (third : Binding γ) : Prop where
  qualifiers : first.qualifier = second.qualifier ∧ first.qualifier = third.qualifier
  labels : first.label = second.label ∧ first.label = third.label
  values : related first.value second.value third.value

structure NamedAlike (first : String × α) (second : String × β) (third : String × γ) : Prop where
  names : first.1 = second.1 ∧ first.1 = third.1
  values : related first.2 second.2 third.2

structure BodyAlike (first : Body α) (second : Body β) (third : Body γ) : Prop where
  items : Forall₃ (NamedAlike related) first.items second.items third.items
  clauses : Forall₃ related first.clauses second.clauses third.clauses

end Alike

/-- A relation between the meanings in three domains that their operations keep. -/
structure Simulation (A B C : Domain) where
  rel : A.Rel → B.Rel → C.Rel → Prop
  val : A.Val → B.Val → C.Val → Prop
  constant : val A.constant B.constant C.constant
  refer : ∀ name first second third, val first second third →
    val (A.refer name first) (B.refer name second) (C.refer name third)
  gather : ∀ firsts seconds thirds, Forall₃ val firsts seconds thirds →
    val (A.gather firsts) (B.gather seconds) (C.gather thirds)
  scalar : ∀ first second third, rel first second third →
    val (A.scalar first) (B.scalar second) (C.scalar third)
  physical : ∀ reference, rel (A.physical reference) (B.physical reference) (C.physical reference)
  select : ∀ query distinct firsts seconds thirds bodyA bodyB bodyC,
    Forall₃ (NamedAlike rel) firsts seconds thirds →
    (∀ frameA frameB frameC, Forall₃ (BindingAlike val) frameA frameB frameC →
      BodyAlike val (bodyA frameA) (bodyB frameB) (bodyC frameC)) →
    rel (A.select query distinct firsts bodyA) (B.select query distinct seconds bodyB)
      (C.select query distinct thirds bodyC)
  combine : ∀ query operation leftA leftB leftC rightA rightB rightC termsA termsB termsC,
    rel leftA leftB leftC → rel rightA rightB rightC →
    (∀ frameA frameB frameC, Forall₃ (BindingAlike val) frameA frameB frameC →
      Forall₃ val (termsA frameA) (termsB frameB) (termsC frameC)) →
    rel (A.combine query operation leftA rightA termsA)
      (B.combine query operation leftB rightB termsB)
      (C.combine query operation leftC rightC termsC)

section Names

variable {α β γ : Type} {related : α → β → γ → Prop}

theorem resolve_alike {framesA : List (Frame α)} {framesB : List (Frame β)}
    {framesC : List (Frame γ)}
    (frames : Forall₃ (Forall₃ (BindingAlike related)) framesA framesB framesC)
    (qualifier name : String) :
    Forall₃ related (resolve framesA qualifier name).toList (resolve framesB qualifier name).toList
      (resolve framesC qualifier name).toList := by
  induction frames with
  | nil => exact .nil
  | @cons frameA frameB frameC _ _ _ head _ ih =>
      have found := (head.find? (p := fun binding => binding.label = name &&
          (qualifier = "" || binding.qualifier = qualifier))
        (q := fun binding => binding.label = name &&
          (qualifier = "" || binding.qualifier = qualifier))
        (r := fun binding => binding.label = name &&
          (qualifier = "" || binding.qualifier = qualifier)) (by
        intro first second third alike
        rw [← alike.labels.1, ← alike.labels.2, ← alike.qualifiers.1, ← alike.qualifiers.2]
        exact ⟨rfl, rfl⟩)).optionMap (f := Binding.value) (g := Binding.value)
          (h := Binding.value) (fun _ _ _ alike => alike.values)
      simp only [resolve, List.findSome?_cons] at ih ⊢
      generalize Option.map Binding.value (List.find? _ frameA) = a at found ⊢
      generalize Option.map Binding.value (List.find? _ frameB) = b at found ⊢
      generalize Option.map Binding.value (List.find? _ frameC) = c at found ⊢
      cases a <;> cases b <;> cases c <;> first | exact ih | exact found | cases found

theorem itemOutputs_alike {frameA : Frame α} {frameB : Frame β} {frameC : Frame γ}
    (frames : Forall₃ (BindingAlike related) frameA frameB frameC) (item : Expr) {a : α} {b : β}
    {c : γ} (values : related a b c) :
    Forall₃ (NamedAlike related) (itemOutputs frameA item a) (itemOutputs frameB item b)
      (itemOutputs frameC item c) := by
  have copied : ∀ {frameA : Frame α} {frameB : Frame β} {frameC : Frame γ},
      Forall₃ (BindingAlike related) frameA frameB frameC →
      Forall₃ (NamedAlike related) (frameA.map fun binding => (binding.label, binding.value))
        (frameB.map fun binding => (binding.label, binding.value))
        (frameC.map fun binding => (binding.label, binding.value)) :=
    fun frames => frames.map fun _ _ _ alike => ⟨alike.labels, alike.values⟩
  cases item
  case star => exact copied frames
  case tableStar qualifier =>
    apply copied
    apply frames.filter
    intro first second third alike
    simp only [← alike.qualifiers.1, ← alike.qualifiers.2, and_self]
  all_goals exact .cons ⟨⟨rfl, rfl⟩, values⟩ .nil

theorem positionLabels_alike {outputsA : List (String × α)} {outputsB : List (String × β)}
    {outputsC : List (String × γ)}
    (outputs : Forall₃ (NamedAlike related) outputsA outputsB outputsC) :
    Forall₃ (NamedAlike related) (positionLabels outputsA) (positionLabels outputsB)
      (positionLabels outputsC) := by
  apply outputs.mapIdx
  intro position first second third alike
  refine ⟨?_, alike.values⟩
  simp only [← alike.names.1, ← alike.names.2, and_self]

theorem outputFrame_alike {outputsA : List (String × α)} {outputsB : List (String × β)}
    {outputsC : List (String × γ)}
    (outputs : Forall₃ (NamedAlike related) outputsA outputsB outputsC) :
    Forall₃ (BindingAlike related) (outputFrame outputsA) (outputFrame outputsB)
      (outputFrame outputsC) :=
  outputs.map fun _ _ _ alike => ⟨⟨rfl, rfl⟩, alike.names, alike.values⟩

theorem positioned_alike {outputsA : List (String × α)} {outputsB : List (String × β)}
    {outputsC : List (String × γ)}
    (outputs : Forall₃ (NamedAlike related) outputsA outputsB outputsC) (term : Expr) {a : α}
    {b : β} {c : γ} (values : related a b c) :
    related (positioned outputsA term a) (positioned outputsB term b)
      (positioned outputsC term c) := by
  cases term
  case literal text =>
    simp only [positioned]
    cases text.toNat? with
    | none => exact values
    | some position =>
        exact ((outputs.getElem? (position - 1)).optionMap
          fun _ _ _ alike => alike.values).getD values
  all_goals exact values

theorem zipWith_positioned_alike {outputsA : List (String × α)} {outputsB : List (String × β)}
    {outputsC : List (String × γ)}
    (outputs : Forall₃ (NamedAlike related) outputsA outputsB outputsC) (terms : List Expr)
    {valuesA : List α} {valuesB : List β} {valuesC : List γ}
    (values : Forall₃ related valuesA valuesB valuesC) :
    Forall₃ related (List.zipWith (positioned outputsA) terms valuesA)
      (List.zipWith (positioned outputsB) terms valuesB)
      (List.zipWith (positioned outputsC) terms valuesC) := by
  induction terms generalizing valuesA valuesB valuesC with
  | nil => simpa using Forall₃.nil
  | cons term terms ih =>
      cases values with
      | nil => exact .nil
      | cons head tail => exact .cons (positioned_alike outputs term head) (ih tail)

theorem flatMap_itemOutputs_alike {frameA : Frame α} {frameB : Frame β} {frameC : Frame γ}
    (frames : Forall₃ (BindingAlike related) frameA frameB frameC) (items : List Expr)
    {valuesA : List α} {valuesB : List β} {valuesC : List γ}
    (values : Forall₃ related valuesA valuesB valuesC) :
    Forall₃ (NamedAlike related)
      ((items.zip valuesA).flatMap fun item => itemOutputs frameA item.1 item.2)
      ((items.zip valuesB).flatMap fun item => itemOutputs frameB item.1 item.2)
      ((items.zip valuesC).flatMap fun item => itemOutputs frameC item.1 item.2) := by
  induction items generalizing valuesA valuesB valuesC with
  | nil => exact .nil
  | cons item items ih =>
      cases values with
      | nil => exact .nil
      | cons head tail => exact (itemOutputs_alike frames item head).append (ih tail)

end Names

namespace Simulation

variable {A B C : Domain} (simulation : Simulation A B C)

theorem lookup_alike {firsts : List (String × A.Rel)} {seconds : List (String × B.Rel)}
    {thirds : List (String × C.Rel)}
    (ctes : Forall₃ (NamedAlike simulation.rel) firsts seconds thirds) (name : String) :
    Forall₃ simulation.rel (firsts.lookup name).toList (seconds.lookup name).toList
      (thirds.lookup name).toList := by
  induction ctes with
  | nil => exact .nil
  | @cons first second third _ _ _ head _ ih =>
      obtain ⟨label, relationA⟩ := first
      obtain ⟨labelB, relationB⟩ := second
      obtain ⟨labelC, relationC⟩ := third
      obtain ⟨⟨sameB, sameC⟩, related⟩ := head
      cases sameB
      cases sameC
      by_cases same : name = label
      · simpa [List.lookup_cons, same] using Forall₃.cons related .nil
      · have differ : (name == label) = false := by simpa using same
        simpa only [List.lookup_cons, differ] using ih

structure ContextAlike (first : Context A) (second : Context B) (third : Context C) : Prop where
  ctes : Forall₃ (NamedAlike simulation.rel) first.ctes second.ctes third.ctes
  frames : Forall₃ (Forall₃ (BindingAlike simulation.val)) first.frames second.frames third.frames

variable {simulation} {first : Context A} {second : Context B} {third : Context C}

namespace ContextAlike

theorem table (alike : simulation.ContextAlike first second third) (reference : Reference) :
    simulation.rel (first.table reference) (second.table reference) (third.table reference) := by
  rw [Context.table, Context.table, Context.table]
  split
  · exact (simulation.lookup_alike alike.ctes reference.name).getD (simulation.physical reference)
  · exact simulation.physical reference

theorem define (alike : simulation.ContextAlike first second third) (name : String)
    {a : A.Rel} {b : B.Rel} {c : C.Rel} (related : simulation.rel a b c) :
    simulation.ContextAlike (first.define name a) (second.define name b) (third.define name c) :=
  ⟨.cons ⟨⟨rfl, rfl⟩, related⟩ alike.ctes, alike.frames⟩

theorem enter (alike : simulation.ContextAlike first second third) {a : Frame A.Val}
    {b : Frame B.Val} {c : Frame C.Val} (frame : Forall₃ (BindingAlike simulation.val) a b c) :
    simulation.ContextAlike (first.enter a) (second.enter b) (third.enter c) :=
  ⟨alike.ctes, .cons frame alike.frames⟩

end ContextAlike

mutual

theorem expr_alike (value : Expr) {first : Context A} {second : Context B} {third : Context C}
    (alike : simulation.ContextAlike first second third) :
    simulation.val (value.eval A first) (value.eval B second) (value.eval C third) := by
  match value with
  | .star => exact simulation.constant
  | .tableStar _ => exact simulation.constant
  | .literal _ => exact simulation.constant
  | .column qualifier name =>
      exact ((resolve_alike alike.frames qualifier name).optionMap (simulation.refer name)).getD
        simulation.constant
  | .call _ arguments => exact simulation.gather _ _ _ (exprs_alike arguments alike)
  | .aliased value _ => exact expr_alike value alike
  | .subquery _ query => exact simulation.scalar _ _ _ (query_alike query alike)

theorem exprs_alike (values : List Expr) {first : Context A} {second : Context B}
    {third : Context C} (alike : simulation.ContextAlike first second third) :
    Forall₃ simulation.val (evalAll A first values) (evalAll B second values)
      (evalAll C third values) := by
  match values with
  | [] => exact .nil
  | value :: rest => exact .cons (expr_alike value alike) (exprs_alike rest alike)

theorem sources_alike (sources : From) {first : Context A} {second : Context B}
    {third : Context C} (alike : simulation.ContextAlike first second third) :
    Forall₃ (NamedAlike simulation.rel) (sources.eval A first) (sources.eval B second)
      (sources.eval C third) := by
  match sources with
  | .done => exact .nil
  | .table _ reference _ _ rest =>
      exact .cons ⟨⟨rfl, rfl⟩, alike.table reference⟩ (sources_alike rest alike)
  | .derived _ query _ _ rest =>
      exact .cons ⟨⟨rfl, rfl⟩, query_alike query alike⟩ (sources_alike rest alike)

theorem conditions_alike (sources : From) {first : Context A} {second : Context B}
    {third : Context C} (alike : simulation.ContextAlike first second third) :
    Forall₃ simulation.val (sources.conditions A first) (sources.conditions B second)
      (sources.conditions C third) := by
  match sources with
  | .done => exact .nil
  | .table _ _ _ on rest => exact (exprs_alike on alike).append (conditions_alike rest alike)
  | .derived _ _ _ on rest => exact (exprs_alike on alike).append (conditions_alike rest alike)

theorem ctes_alike (ctes : With) {first : Context A} {second : Context B} {third : Context C}
    (alike : simulation.ContextAlike first second third) :
    simulation.ContextAlike (ctes.eval A first) (ctes.eval B second) (ctes.eval C third) := by
  match ctes with
  | .done => exact alike
  | .cte name query rest => exact ctes_alike rest (alike.define name (query_alike query alike))

theorem query_alike (query : Query) {first : Context A} {second : Context B} {third : Context C}
    (alike : simulation.ContextAlike first second third) :
    simulation.rel (query.eval A first) (query.eval B second) (query.eval C third) := by
  match query with
  | .select ctes distinct items sources filter group having order limit =>
      have inner := ctes_alike ctes alike
      apply simulation.select
      · exact sources_alike sources inner
      · intro frameA frameB frameC frame
        have scope := inner.enter frame
        have outputs := positionLabels_alike
          (flatMap_itemOutputs_alike frame items (exprs_alike items scope))
        refine ⟨outputs, ?_⟩
        exact ((((conditions_alike sources scope).append (exprs_alike filter scope)).append
          (zipWith_positioned_alike outputs group (exprs_alike group scope))).append
          (exprs_alike having scope)).append
          (zipWith_positioned_alike outputs order
            (exprs_alike order (scope.enter (outputFrame_alike outputs))))
  | .combine ctes operation left right order limit =>
      have inner := ctes_alike ctes alike
      apply simulation.combine
      · exact query_alike left inner
      · exact query_alike right inner
      · intro frameA frameB frameC frame
        exact zipWith_positioned_alike
          (frame.map fun _ _ _ alike => ⟨alike.labels, alike.values⟩) order
          (exprs_alike order (inner.enter frame))
  | .parens query => exact query_alike query alike

end

end Simulation

end PaymentsPlatform.AgentApi
