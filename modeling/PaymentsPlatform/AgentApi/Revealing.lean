import PaymentsPlatform.AgentApi.Noninterference

/-!
# A database that reveals what it depends on

Every table has one row, the hidden cells of it are marked, a value that is computed from a marked
one is marked, and a strict database fails when a choice of rows looks at a marked value.  What it
returns is exactly what the symbolic meaning of the query says.
-/

namespace PaymentsPlatform.AgentApi

open Library (Forall₃)

/-! ## Marks -/

def mark (marked : Bool) : Cell := .text (if marked then "1" else "0")

def Cell.marked (cell : Cell) : Bool := cell = mark true

def Table.marked (table : Table) : Bool := table.rows.any fun row => row.any Cell.marked

@[simp]
theorem marked_mark (marked : Bool) : (mark marked).marked = marked := by
  cases marked <;> decide

/-- One of the origins is hidden. -/
def dirty (hidden : Reference → String → Bool) (origins : List Origin) : Bool :=
  origins.any fun origin => hidden origin.reference origin.field

/-- Some of the values mention a marked cell. -/
def anyMarked (values : List (List Table)) : Bool := values.any fun tables => tables.any Table.marked

def revealing (strict : Bool) : Engine where
  choose _ matrix := ⟨[[]], strict && matrix.any anyMarked⟩
  apply _ _ values _ _ := mark (anyMarked values)
  arrange _ rows matrix := ⟨[List.range rows.length],
    strict && (rows.any (fun row => row.any Cell.marked) || matrix.any anyMarked)⟩

/-- One row in every table, with a mark in its hidden columns. -/
def marking (hidden : Reference → String → Bool) : Contents :=
  fun reference => [fun field => mark (hidden reference field)]

theorem marking_agree (hidden : Reference → String → Bool) :
    AgreeOutside hidden (marking fun _ _ => false) (marking hidden) := by
  intro reference
  refine .cons (fun field visible => ?_) .nil
  rw [visible]

/-! ## The relation -/

section Shows

variable (strict : Bool) (hidden hidden' : Reference → String → Bool)

def leavesMarked (leaves : List Result) : Bool := leaves.any fun leaf => leaf.table.marked

def leavesFailed (leaves : List Result) : Bool := leaves.any fun leaf => leaf.trace.failed

/-- A value is marked when it is computed from something hidden, and fails when a strict database
chose rows on something hidden. -/
structure ValueShown (flow : Flow) (leaves leaves' : List Result) : Prop where
  marked : leavesMarked leaves = dirty hidden flow.reads ∧
    leavesMarked leaves' = dirty hidden' flow.reads
  failed : leavesFailed leaves = (strict && dirty hidden flow.guards) ∧
    leavesFailed leaves' = (strict && dirty hidden' flow.guards)
  traces : strict = false → leaves.map Result.trace = leaves'.map Result.trace

def CellShown (origins : List Origin) (cell cell' : Cell) : Prop :=
  cell = mark (dirty hidden origins) ∧ cell' = mark (dirty hidden' origins)

structure ResultShown (shape : Shape) (result result' : Result) : Prop where
  labels : shape.labels = result.table.labels ∧ shape.labels = result'.table.labels
  rows : Forall₃ (Forall₃ (CellShown hidden hidden')) shape.rows result.table.rows
    result'.table.rows
  failed : result.trace.failed = (strict && dirty hidden shape.guards) ∧
    result'.trace.failed = (strict && dirty hidden' shape.guards)
  trace : strict = false → result.trace = result'.trace

end Shows

variable {strict : Bool} {hidden hidden' : Reference → String → Bool}

@[simp]
theorem dirty_append (left right : List Origin) :
    dirty hidden (left ++ right) = (dirty hidden left || dirty hidden right) :=
  List.any_append

@[simp]
theorem dirty_nil : dirty hidden [] = false := rfl

theorem dirty_flatMap {α : Type} (list : List α) (origins : α → List Origin) :
    dirty hidden (list.flatMap origins) = list.any fun entry => dirty hidden (origins entry) := by
  rw [dirty, List.any_flatMap]
  rfl

/-! ## Values -/

theorem shown_nothing : ValueShown strict hidden hidden' Flow.nothing [] [] :=
  ⟨⟨rfl, rfl⟩, by simp [leavesFailed, Flow.nothing], fun _ => rfl⟩

theorem shown_null :
    ValueShown strict hidden hidden' Flow.nothing (Result.ofCell .null) (Result.ofCell .null) :=
  ⟨⟨rfl, rfl⟩, by simp [leavesFailed, Flow.nothing, Result.ofCell], fun _ => rfl⟩

theorem shown_cell {origins : List Origin} {cell cell' : Cell}
    (shown : CellShown hidden hidden' origins cell cell') :
    ValueShown strict hidden hidden' (Flow.ofColumn origins) (Result.ofCell cell)
      (Result.ofCell cell') where
  marked := by
    rw [shown.1, shown.2]
    simp [leavesMarked, Result.ofCell, Table.marked, Flow.ofColumn]
  failed := by simp [leavesFailed, Flow.ofColumn, Result.ofCell]
  traces _ := rfl

theorem shown_append {first second : Flow} {left left' right right' : List Result}
    (one : ValueShown strict hidden hidden' first left left')
    (other : ValueShown strict hidden hidden' second right right') :
    ValueShown strict hidden hidden'
      ⟨first.reads ++ second.reads, first.guards ++ second.guards⟩ (left ++ right)
      (left' ++ right') where
  marked := by
    have marks := And.intro one.marked other.marked
    simp only [leavesMarked] at marks
    simp only [leavesMarked, List.any_append, marks, dirty_append, and_self]
  failed := by
    have failures := And.intro one.failed other.failed
    simp only [leavesFailed] at failures
    simp only [leavesFailed, List.any_append, failures, dirty_append, Bool.and_or_distrib_left,
      and_self]
  traces blind := by rw [List.map_append, List.map_append, one.traces blind, other.traces blind]

theorem shown_gather {flows : List Flow} {values values' : List (List Result)}
    (shown : Forall₃ (ValueShown strict hidden hidden') flows values values') :
    ValueShown strict hidden hidden' ⟨flows.flatMap Flow.reads, flows.flatMap Flow.guards⟩
      values.flatten values'.flatten := by
  induction shown with
  | nil => exact shown_nothing
  | cons head _ ih => exact shown_append head ih

theorem row_marked {origins : List (List Origin)} {row row' : List Cell}
    (shown : Forall₃ (CellShown hidden hidden') origins row row') :
    row.any Cell.marked = dirty hidden origins.flatten ∧
      row'.any Cell.marked = dirty hidden' origins.flatten := by
  induction shown with
  | nil => exact ⟨rfl, rfl⟩
  | cons head _ ih =>
      simp only [List.any_cons, List.flatten_cons, dirty_append, head.1, head.2, marked_mark, ih,
        and_self]

theorem rows_marked {rows : List (List (List Origin))} {cells cells' : List (List Cell)}
    (shown : Forall₃ (Forall₃ (CellShown hidden hidden')) rows cells cells') :
    cells.any (fun row => row.any Cell.marked) = dirty hidden rows.flatten.flatten ∧
      cells'.any (fun row => row.any Cell.marked) = dirty hidden' rows.flatten.flatten := by
  induction shown with
  | nil => exact ⟨rfl, rfl⟩
  | cons head _ ih =>
      simp only [List.any_cons, List.flatten_cons, List.flatten_append, dirty_append,
        row_marked head, ih, and_self]

theorem shown_scalar {shape : Shape} {result result' : Result}
    (shown : ResultShown strict hidden hidden' shape result result') :
    ValueShown strict hidden hidden' ⟨shape.reads, shape.guards⟩ [result] [result'] where
  marked := by
    have marks := rows_marked shown.rows
    simpa [leavesMarked, Table.marked, Shape.reads] using marks
  failed := by simpa [leavesFailed] using shown.failed
  traces blind := by rw [List.map_singleton, List.map_singleton, shown.trace blind]

/-! ## Lists of values -/

theorem values_marked {flows : List Flow} {values values' : List (List Result)}
    (shown : Forall₃ (ValueShown strict hidden hidden') flows values values') :
    anyMarked (Result.tables values) = flows.any (fun flow => dirty hidden flow.reads) ∧
      anyMarked (Result.tables values') = flows.any (fun flow => dirty hidden' flow.reads) := by
  have unfolded : ∀ values : List (List Result),
      anyMarked (Result.tables values) = values.any leavesMarked := by
    intro values
    simp only [anyMarked, Result.tables, List.any_map, Function.comp_def]
    rfl
  rw [unfolded, unfolded]
  induction shown with
  | nil => exact ⟨rfl, rfl⟩
  | cons head _ ih => simp only [List.any_cons, head.marked, ih, and_self]

theorem values_failed {flows : List Flow} {values values' : List (List Result)}
    (shown : Forall₃ (ValueShown strict hidden hidden') flows values values') :
    (Result.traceOf values).failed = (strict && flows.any fun flow => dirty hidden flow.guards) ∧
      (Result.traceOf values').failed =
        (strict && flows.any fun flow => dirty hidden' flow.guards) := by
  have unfolded : ∀ values : List (List Result),
      (Result.traceOf values).failed = values.any leavesFailed := by
    intro values
    simp only [Result.traceOf, Trace.failed_gathered, List.any_map, Function.comp_def]
    rfl
  rw [unfolded, unfolded]
  induction shown with
  | nil => simp
  | cons head _ ih => simp only [List.any_cons, head.failed, ih, Bool.and_or_distrib_left, and_self]

theorem values_traces {flows : List Flow} {values values' : List (List Result)}
    (shown : Forall₃ (ValueShown strict hidden hidden') flows values values')
    (blind : strict = false) : Result.traceOf values = Result.traceOf values' := by
  apply traceOf_inj.mpr
  induction shown with
  | nil => rfl
  | cons head _ ih => rw [List.map_cons, List.map_cons, head.traces blind, ih]

/-! ## Frames -/

theorem null_row_shown (labels : List String) :
    Forall₃ (ValueShown strict hidden hidden') (labels.map fun _ => Flow.nothing)
      (labels.map fun _ => Result.ofCell .null) (labels.map fun _ => Result.ofCell .null) :=
  .map_same fun _ _ => shown_null

variable {shapes : List (String × Shape)} {sources sources' : List (String × Result)}

theorem combinations_shown
    (shown : Forall₃ (NamedAlike (ResultShown strict hidden hidden')) shapes sources sources') :
    Forall₃ (Forall₃ (BindingAlike (ValueShown strict hidden hidden')))
      (combinations Flow.nothing (Shape.sourceRows shapes))
      (combinations (Result.ofCell .null) (Result.sourceRows sources))
      (combinations (Result.ofCell .null) (Result.sourceRows sources')) := by
  induction shown with
  | nil => exact .cons .nil .nil
  | @cons shape source source' _ _ _ head _ ih =>
      obtain ⟨⟨name, name'⟩, related⟩ := head
      simp only [Result.sourceRows, Shape.sourceRows, List.map_cons, combinations, ← name, ← name',
        ← related.labels.1, ← related.labels.2]
      apply Forall₃.flatMap
      · intro origins row row' cells
        exact ih.map fun _ _ _ others => (bindings_alike shape.1 shape.2.labels cells).append others
      · exact (related.rows.map fun _ _ _ row => row.map fun _ _ _ cell => shown_cell cell).append
          (.cons (null_row_shown shape.2.labels) .nil)

/-! ## Bodies -/

section Bodies

variable {symbolicBodies : List (Body Flow)} {bodies bodies' : List (Body (List Result))}

theorem compared_marked (distinct : Bool)
    (shown : Forall₃ (BodyAlike (ValueShown strict hidden hidden')) symbolicBodies bodies bodies') :
    (bodies.map fun body => Result.tables (body.compared distinct)).any anyMarked =
        symbolicBodies.any (fun body =>
          (body.compared distinct).any fun flow => dirty hidden flow.reads) ∧
      (bodies'.map fun body => Result.tables (body.compared distinct)).any anyMarked =
        symbolicBodies.any fun body =>
          (body.compared distinct).any fun flow => dirty hidden' flow.reads := by
  induction shown with
  | nil => exact ⟨rfl, rfl⟩
  | cons head _ ih =>
      simp only [List.map_cons, List.any_cons, values_marked (head.compared distinct), ih,
        and_self]

theorem bodies_failed
    (shown : Forall₃ (BodyAlike (ValueShown strict hidden hidden')) symbolicBodies bodies bodies') :
    (bodies.map fun body => Result.traceOf (body.clauses ++ body.items.map Prod.snd)).any
          Trace.failed =
        (strict && symbolicBodies.any fun body =>
          (body.clauses ++ body.items.map Prod.snd).any fun flow => dirty hidden flow.guards) ∧
      (bodies'.map fun body => Result.traceOf (body.clauses ++ body.items.map Prod.snd)).any
          Trace.failed =
        (strict && symbolicBodies.any fun body =>
          (body.clauses ++ body.items.map Prod.snd).any fun flow => dirty hidden' flow.guards) := by
  induction shown with
  | nil => simp
  | cons head _ ih =>
      simp only [List.map_cons, List.any_cons,
        values_failed (head.clauses.append (head.itemValues)), ih, Bool.and_or_distrib_left,
        and_self]

theorem column_marked (position : Nat)
    (shown : Forall₃ (BodyAlike (ValueShown strict hidden hidden')) symbolicBodies bodies bodies') :
    anyMarked (Result.tables (bodies.map fun body => body.itemAt [] position)) =
        dirty hidden
          (symbolicBodies.flatMap fun body => (body.itemAt Flow.nothing position).reads) ∧
      anyMarked (Result.tables (bodies'.map fun body => body.itemAt [] position)) =
        dirty hidden'
          (symbolicBodies.flatMap fun body => (body.itemAt Flow.nothing position).reads) := by
  have column := values_marked (shown.map (f := fun body => body.itemAt Flow.nothing position)
    (g := fun body => body.itemAt [] position) (h := fun body => body.itemAt [] position)
    fun _ _ _ body => body.itemAt shown_nothing position)
  simpa only [dirty_flatMap, List.any_map, Function.comp_def] using column

end Bodies

/-! ## Selects and set operations -/

section Select

variable {bodyA : Frame Flow → Body Flow} {bodyB bodyC : Frame (List Result) → Body (List Result)}

theorem sources_failed
    (shown : Forall₃ (NamedAlike (ResultShown strict hidden hidden')) shapes sources sources') :
    (sources.map fun source => source.2.trace).any Trace.failed =
        (strict && shapes.any fun shape => dirty hidden shape.2.guards) ∧
      (sources'.map fun source => source.2.trace).any Trace.failed =
        (strict && shapes.any fun shape => dirty hidden' shape.2.guards) := by
  induction shown with
  | nil => simp
  | cons head _ ih =>
      simp only [List.map_cons, List.any_cons, head.values.failed, ih, Bool.and_or_distrib_left,
        and_self]

theorem source_traces_blind
    (shown : Forall₃ (NamedAlike (ResultShown strict hidden hidden')) shapes sources sources')
    (blind : strict = false) :
    sources.map (fun source => source.2.trace) = sources'.map fun source => source.2.trace := by
  induction shown with
  | nil => rfl
  | cons head _ ih => rw [List.map_cons, List.map_cons, head.values.trace blind, ih]

theorem body_traces_blind {symbolicBodies : List (Body Flow)}
    {bodies bodies' : List (Body (List Result))}
    (shown : Forall₃ (BodyAlike (ValueShown strict hidden hidden')) symbolicBodies bodies bodies')
    (blind : strict = false) :
    bodies.map (fun body => Result.traceOf (body.clauses ++ body.items.map Prod.snd)) =
      bodies'.map fun body => Result.traceOf (body.clauses ++ body.items.map Prod.snd) := by
  induction shown with
  | nil => rfl
  | cons head _ ih =>
      rw [List.map_cons, List.map_cons, ih,
        values_traces (head.clauses.append (head.itemValues)) blind]

theorem dirty_select_guards (distinct : Bool) :
    dirty hidden (Shape.select distinct shapes bodyA).guards =
      ((((combinations Flow.nothing (Shape.sourceRows shapes)).map bodyA).any fun body =>
          (body.compared distinct).any fun flow => dirty hidden flow.reads) ||
        ((shapes.any fun shape => dirty hidden shape.2.guards) ||
          ((combinations Flow.nothing (Shape.sourceRows shapes)).map bodyA).any fun body =>
            (body.clauses ++ body.items.map Prod.snd).any fun flow => dirty hidden flow.guards)) := by
  simp only [Shape.select, dirty_append, dirty_flatMap]
  generalize (combinations Flow.nothing (Shape.sourceRows shapes)).map bodyA = bodies
  rw [Bool.eq_iff_iff]
  cases distinct <;>
    simp only [Body.compared, Bool.false_eq_true, if_false, if_true, List.append_nil, dirty_append,
      Flow.all, List.any_append, List.any_map, Function.comp_def, Bool.or_eq_true,
      List.any_eq_true] <;>
    grind

theorem select_shown (query : Query) (distinct : Bool)
    (shown : Forall₃ (NamedAlike (ResultShown strict hidden hidden')) shapes sources sources')
    (each : ∀ frameA frameB frameC,
      Forall₃ (BindingAlike (ValueShown strict hidden hidden')) frameA frameB frameC →
      BodyAlike (ValueShown strict hidden hidden') (bodyA frameA) (bodyB frameB) (bodyC frameC)) :
    ResultShown strict hidden hidden' (Shape.select distinct shapes bodyA)
      (Result.select (revealing strict) query distinct sources bodyB)
      (Result.select (revealing strict) query distinct sources' bodyC) := by
  have labels := names_alike (each _ _ _ (emptyFrame_related ResultShown.labels null_row_shown shown)).items
  have bodies := (combinations_shown shown).map each
  refine ⟨labels, ?_, ?_, ?_⟩
  · simp only [Result.select, Shape.select, revealing, List.length_singleton, List.range_one,
      List.map_cons, List.map_nil, ← labels.1, ← labels.2]
    refine .cons (.map_same fun position _ => ?_) .nil
    exact ⟨congrArg mark (column_marked position bodies).1,
      congrArg mark (column_marked position bodies).2⟩
  · simp only [Result.select, revealing, Trace.failed_node, List.any_cons, List.any_nil,
      Bool.or_false, Trace.failed_gathered, sources_failed shown, compared_marked distinct bodies,
      bodies_failed bodies, dirty_select_guards, Bool.and_or_distrib_left, and_self]
  · intro blind
    simp only [Result.select, revealing, blind, Bool.false_and, source_traces_blind shown blind,
      body_traces_blind bodies blind]

end Select

theorem pick_all {α : Type} (list : List α) :
    (List.range list.length).filterMap (fun position => list[position]?) = list := by
  induction list with
  | nil => rfl
  | cons entry rest ih =>
      rw [List.length_cons, List.range_succ_eq_map, List.filterMap_cons]
      simpa [List.filterMap_map, Function.comp_def] using ih

section Combine

variable {termsA : Frame Flow → List Flow} {termsB termsC : Frame (List Result) → List (List Result)}

theorem terms_shown (shape : Shape) {rows : List (List (List Origin))}
    {cells cells' : List (List Cell)}
    (shown : Forall₃ (Forall₃ (CellShown hidden hidden')) rows cells cells')
    (each : ∀ frameA frameB frameC,
      Forall₃ (BindingAlike (ValueShown strict hidden hidden')) frameA frameB frameC →
      Forall₃ (ValueShown strict hidden hidden') (termsA frameA) (termsB frameB) (termsC frameC)) :
    Forall₃ (Forall₃ (ValueShown strict hidden hidden'))
      (rows.map fun row => termsA (bindings "" shape.labels (row.map Flow.ofColumn)))
      (cells.map fun row => termsB (bindings "" shape.labels (row.map Result.ofCell)))
      (cells'.map fun row => termsC (bindings "" shape.labels (row.map Result.ofCell))) :=
  shown.map fun _ _ _ row => each _ _ _
    (bindings_alike "" shape.labels (row.map fun _ _ _ cell => shown_cell cell))

theorem terms_marked {flows : List (List Flow)} {values values' : List (List (List Result))}
    (shown : Forall₃ (Forall₃ (ValueShown strict hidden hidden')) flows values values') :
    (values.map Result.tables).any anyMarked =
        flows.any (fun flows => flows.any fun flow => dirty hidden flow.reads) ∧
      (values'.map Result.tables).any anyMarked =
        flows.any fun flows => flows.any fun flow => dirty hidden' flow.reads := by
  induction shown with
  | nil => exact ⟨rfl, rfl⟩
  | cons head _ ih => simp only [List.map_cons, List.any_cons, values_marked head, ih, and_self]

theorem terms_failed {flows : List (List Flow)} {values values' : List (List (List Result))}
    (shown : Forall₃ (Forall₃ (ValueShown strict hidden hidden')) flows values values') :
    (values.map Result.traceOf).any Trace.failed =
        (strict && flows.any fun flows => flows.any fun flow => dirty hidden flow.guards) ∧
      (values'.map Result.traceOf).any Trace.failed =
        (strict && flows.any fun flows => flows.any fun flow => dirty hidden' flow.guards) := by
  induction shown with
  | nil => simp
  | cons head _ ih =>
      simp only [List.map_cons, List.any_cons, values_failed head, ih, Bool.and_or_distrib_left,
        and_self]

theorem term_traces_blind {flows : List (List Flow)} {values values' : List (List (List Result))}
    (shown : Forall₃ (Forall₃ (ValueShown strict hidden hidden')) flows values values')
    (blind : strict = false) : values.map Result.traceOf = values'.map Result.traceOf := by
  induction shown with
  | nil => rfl
  | cons head _ ih => rw [List.map_cons, List.map_cons, values_traces head blind, ih]

theorem dirty_combine_guards (operation : SetOperation) (left right : Shape) :
    dirty hidden (Shape.combine operation left right termsA).guards =
      ((dirty hidden
            (if operation = .unionAll then [] else (left.rows ++ right.rows).flatten.flatten) ||
          ((left.rows ++ right.rows).map fun row =>
            termsA (bindings "" left.labels (row.map Flow.ofColumn))).any fun flows =>
              flows.any fun flow => dirty hidden flow.reads) ||
        (dirty hidden left.guards || (dirty hidden right.guards ||
          ((left.rows ++ right.rows).map fun row =>
            termsA (bindings "" left.labels (row.map Flow.ofColumn))).any fun flows =>
              flows.any fun flow => dirty hidden flow.guards))) := by
  simp only [Shape.combine, dirty_append, dirty_flatMap, Flow.all, List.any_map, Function.comp_def]
  rw [Bool.eq_iff_iff]
  simp only [Bool.or_eq_true, List.any_eq_true]
  grind

theorem compared_rows_marked (operation : SetOperation) {rows : List (List (List Origin))}
    {cells cells' : List (List Cell)}
    (shown : Forall₃ (Forall₃ (CellShown hidden hidden')) rows cells cells') :
    (if operation = .unionAll then cells.map fun _ => [] else cells).any
          (fun row => row.any Cell.marked) =
        dirty hidden (if operation = .unionAll then [] else rows.flatten.flatten) ∧
      (if operation = .unionAll then cells'.map fun _ => [] else cells').any
          (fun row => row.any Cell.marked) =
        dirty hidden' (if operation = .unionAll then [] else rows.flatten.flatten) := by
  split
  · simp
  · exact rows_marked shown

theorem combine_shown (query : Query) (operation : SetOperation) {shape shape' : Shape}
    {left left' right right' : Result}
    (one : ResultShown strict hidden hidden' shape left left')
    (other : ResultShown strict hidden hidden' shape' right right')
    (each : ∀ frameA frameB frameC,
      Forall₃ (BindingAlike (ValueShown strict hidden hidden')) frameA frameB frameC →
      Forall₃ (ValueShown strict hidden hidden') (termsA frameA) (termsB frameB) (termsC frameC)) :
    ResultShown strict hidden hidden' (Shape.combine operation shape shape' termsA)
      (Result.combine (revealing strict) query operation left right termsB)
      (Result.combine (revealing strict) query operation left' right' termsC) := by
  have rows := one.rows.append other.rows
  have terms := terms_shown shape rows each
  have size : ∀ cells : List (List Cell),
      (if operation = .unionAll then cells.map fun _ => ([] : List Cell) else cells).length =
        cells.length := by
    intro cells
    split <;> simp
  have lengths := rows.lengths
  refine ⟨one.labels, ?_, ?_, ?_⟩
  · simp only [Result.combine, revealing, size, List.flatten_cons, List.flatten_nil,
      List.append_nil, pick_all]
    exact rows
  · simp only [Result.combine, revealing, Trace.failed_node, List.any_cons, List.any_nil,
      Bool.or_false, Trace.failed_gathered, ← one.labels.1, ← one.labels.2,
      compared_rows_marked operation rows, terms_marked terms, terms_failed terms, one.failed,
      other.failed, dirty_combine_guards, Bool.and_or_distrib_left, and_self]
  · intro blind
    have inner := term_traces_blind terms blind
    simp only [Result.combine, revealing, size, ← one.labels.1, ← one.labels.2, inner,
      one.trace blind, other.trace blind, blind, Bool.false_and, ← lengths.1, ← lengths.2]

end Combine

/-! ## Every query -/

theorem physical_shown (schema : Schema) (strict : Bool) (hidden hidden' : Reference → String → Bool)
    (reference : Reference) :
    ResultShown strict hidden hidden' ((symbolic schema).physical reference)
      ((concrete (revealing strict) schema (marking hidden)).physical reference)
      ((concrete (revealing strict) schema (marking hidden')).physical reference) where
  labels := ⟨rfl, rfl⟩
  rows := by
    refine .cons (.map_same fun field _ => ?_) .nil
    simp [CellShown, dirty]
  failed := by simp [concrete, symbolic]
  trace _ := rfl

def revelation (schema : Schema) (strict : Bool) (hidden hidden' : Reference → String → Bool) :
    Simulation (symbolic schema) (concrete (revealing strict) schema (marking hidden))
      (concrete (revealing strict) schema (marking hidden')) where
  rel := ResultShown strict hidden hidden'
  val := ValueShown strict hidden hidden'
  constant := shown_nothing
  refer name flow leaves leaves' shown := by
    refine ⟨?_, shown.failed, shown.traces⟩
    simpa [symbolic, concrete, dirty, Function.comp_def] using shown.marked
  gather _ _ _ := shown_gather
  scalar _ _ _ := shown_scalar
  physical := physical_shown schema strict hidden hidden'
  select query distinct _ _ _ _ _ _ := select_shown query distinct
  combine query operation _ _ _ _ _ _ _ _ _ := combine_shown query operation

theorem runs_shown (schema : Schema) (strict : Bool) (hidden hidden' : Reference → String → Bool)
    (query : Query) :
    ResultShown strict hidden hidden' (query.shape schema)
      (query.run (revealing strict) schema (marking hidden))
      (query.run (revealing strict) schema (marking hidden')) :=
  (revelation schema strict hidden hidden').query_alike query ⟨.nil, .nil⟩

end PaymentsPlatform.AgentApi
