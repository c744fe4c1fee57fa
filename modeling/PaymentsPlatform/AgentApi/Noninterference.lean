import Mathlib.Data.List.Forall2
import PaymentsPlatform.AgentApi.Runs

/-!
# Runs over tables that differ in hidden columns

Two runs of one query over contents that agree outside of the hidden columns: they make the same
choices when nothing that the choice of rows depends on is hidden, and when they make the same
choices, they return the same cells in every column that is computed from nothing hidden.
-/

namespace PaymentsPlatform.AgentApi

open Library (Forall₃)

/-! ## The relation -/

section Alike

variable (hidden : Reference → String → Bool)

/-- Nothing hidden is among the origins. -/
def Clean (origins : List Origin) : Prop :=
  ∀ origin ∈ origins, hidden origin.reference origin.field = false

/-- The contents differ in hidden columns only. -/
def AgreeOutside (contents contents' : Contents) : Prop :=
  ∀ reference, List.Forall₂
    (fun row row' => ∀ field, hidden reference field = false → row field = row' field)
    (contents reference) (contents' reference)

def CellAlike (origins : List Origin) (cell cell' : Cell) : Prop := Clean hidden origins → cell = cell'

/-- The rows come from one symbolic row and agree where it is clean. -/
def RowAlike (rows : List (List (List Origin))) (row row' : List Cell) : Prop :=
  ∃ origins ∈ rows, Forall₃ (CellAlike hidden) origins row row'

structure ValueAlike (flow : Flow) (leaves leaves' : List Result) : Prop where
  length : leaves.length = leaves'.length
  traces : Clean hidden flow.guards → leaves.map Result.trace = leaves'.map Result.trace
  tables : leaves.map Result.trace = leaves'.map Result.trace → Clean hidden flow.reads →
    leaves.map Result.table = leaves'.map Result.table

structure ResultAlike (shape : Shape) (result result' : Result) : Prop where
  labels : shape.labels = result.table.labels ∧ shape.labels = result'.table.labels
  trace : Clean hidden shape.guards → result.trace = result'.trace
  rows : result.trace = result'.trace →
    List.Forall₂ (RowAlike hidden shape.rows) result.table.rows result'.table.rows

end Alike

variable {hidden : Reference → String → Bool}

theorem clean_append {left right : List Origin} :
    Clean hidden (left ++ right) ↔ Clean hidden left ∧ Clean hidden right := by
  simp [Clean, or_imp, forall_and]

theorem clean_flatMap {α : Type} {list : List α} {origins : α → List Origin} :
    Clean hidden (list.flatMap origins) ↔ ∀ entry ∈ list, Clean hidden (origins entry) := by
  simp only [Clean, List.mem_flatMap]
  constructor
  · intro every entry member origin inner
    exact every origin ⟨entry, member, inner⟩
  · rintro every origin ⟨entry, member, inner⟩
    exact every entry member origin inner

theorem clean_flatten {lists : List (List Origin)} :
    Clean hidden lists.flatten ↔ ∀ list ∈ lists, Clean hidden list := by
  rw [← List.flatMap_id, clean_flatMap]
  rfl

/-! ## Values -/

theorem value_nothing : ValueAlike hidden Flow.nothing [] [] :=
  ⟨rfl, fun _ => rfl, fun _ _ => rfl⟩

theorem value_cell {origins : List Origin} {cell cell' : Cell}
    (alike : CellAlike hidden origins cell cell') :
    ValueAlike hidden (Flow.ofColumn origins) (Result.ofCell cell) (Result.ofCell cell') where
  length := rfl
  traces _ := rfl
  tables _ clean := by rw [alike clean]

theorem value_null :
    ValueAlike hidden Flow.nothing (Result.ofCell .null) (Result.ofCell .null) :=
  ⟨rfl, fun _ => rfl, fun _ _ => rfl⟩

theorem value_append {first second : Flow} {left left' right right' : List Result}
    (one : ValueAlike hidden first left left') (other : ValueAlike hidden second right right') :
    ValueAlike hidden ⟨first.reads ++ second.reads, first.guards ++ second.guards⟩ (left ++ right)
      (left' ++ right') where
  length := by rw [List.length_append, List.length_append, one.length, other.length]
  traces clean := by
    obtain ⟨clean, clean'⟩ := clean_append.mp clean
    rw [List.map_append, List.map_append, one.traces clean, other.traces clean']
  tables same clean := by
    obtain ⟨clean, clean'⟩ := clean_append.mp clean
    rw [List.map_append, List.map_append] at same
    obtain ⟨same, same'⟩ := List.append_inj same (by simp [one.length])
    rw [List.map_append, List.map_append, one.tables same clean, other.tables same' clean']

theorem value_gather {flows : List Flow} {values values' : List (List Result)}
    (alike : Forall₃ (ValueAlike hidden) flows values values') :
    ValueAlike hidden ⟨flows.flatMap Flow.reads, flows.flatMap Flow.guards⟩ values.flatten
      values'.flatten := by
  induction alike with
  | nil => exact value_nothing
  | cons head _ ih => exact value_append head ih

theorem row_eq {origins : List (List Origin)} {row row' : List Cell}
    (alike : Forall₃ (CellAlike hidden) origins row row') (clean : Clean hidden origins.flatten) :
    row = row' := by
  induction alike with
  | nil => rfl
  | cons head _ ih =>
      rw [List.flatten_cons, clean_append] at clean
      rw [head clean.1, ih clean.2]

theorem value_scalar {shape : Shape} {result result' : Result}
    (alike : ResultAlike hidden shape result result') :
    ValueAlike hidden ⟨shape.reads, shape.guards⟩ [result] [result'] where
  length := rfl
  traces clean := by rw [List.map_singleton, List.map_singleton, alike.trace clean]
  tables same clean := by
    have trace : result.trace = result'.trace := by simpa using same
    have rows : result.table.rows = result'.table.rows := by
      rw [← List.forall₂_eq_eq_eq]
      refine (alike.rows trace).imp fun row row' related => ?_
      obtain ⟨origins, member, cells⟩ := related
      refine row_eq cells fun origin within => clean origin ?_
      obtain ⟨column, inside, here⟩ := List.mem_flatten.mp within
      exact List.mem_flatten.mpr ⟨column, List.mem_flatten.mpr ⟨origins, member, inside⟩, here⟩
    have labels := alike.labels.1.symm.trans alike.labels.2
    have tables : result.table = result'.table := by
      cases first : result.table
      cases second : result'.table
      simp_all
    rw [List.map_singleton, List.map_singleton, tables]

/-! ## Lists of values -/

theorem gathered_injective : Function.Injective Trace.gathered := by
  intro parts parts' same
  cases same
  rfl

theorem traceOf_inj {values values' : List (List Result)} :
    Result.traceOf values = Result.traceOf values' ↔
      values.map (fun leaves => leaves.map Result.trace) =
        values'.map fun leaves => leaves.map Result.trace := by
  have regroup : ∀ values : List (List Result), Result.traceOf values =
      .gathered ((values.map fun leaves => leaves.map Result.trace).map Trace.gathered) := by
    intro values
    rw [List.map_map]
    rfl
  have injective : Function.Injective (List.map Trace.gathered) :=
    List.map_injective_iff.mpr gathered_injective
  rw [regroup, regroup, gathered_injective.eq_iff, injective.eq_iff]

theorem traces_of_clean {flows : List Flow} {values values' : List (List Result)}
    (alike : Forall₃ (ValueAlike hidden) flows values values')
    (clean : ∀ flow ∈ flows, Clean hidden flow.guards) :
    values.map (fun leaves => leaves.map Result.trace) =
      values'.map fun leaves => leaves.map Result.trace := by
  induction alike with
  | nil => rfl
  | cons head _ ih =>
      obtain ⟨first, rest⟩ := List.forall_mem_cons.mp clean
      rw [List.map_cons, List.map_cons, head.traces first, ih rest]

theorem tables_of_clean {flows : List Flow} {values values' : List (List Result)}
    (alike : Forall₃ (ValueAlike hidden) flows values values')
    (same : values.map (fun leaves => leaves.map Result.trace) =
      values'.map fun leaves => leaves.map Result.trace)
    (clean : ∀ flow ∈ flows, Clean hidden flow.reads) :
    Result.tables values = Result.tables values' := by
  induction alike with
  | nil => rfl
  | cons head _ ih =>
      obtain ⟨first, rest⟩ := List.forall_mem_cons.mp clean
      rw [List.map_cons, List.map_cons, List.cons.injEq] at same
      have tail := ih same.2 rest
      rw [Result.tables, Result.tables] at tail ⊢
      rw [List.map_cons, List.map_cons, head.tables same.1 first, tail]

/-! ## Frames -/

theorem bindings_alike {α β γ : Type} {related : α → β → γ → Prop} (qualifier : String)
    (labels : List String) {firsts : List α} {seconds : List β} {thirds : List γ}
    (values : Forall₃ related firsts seconds thirds) :
    Forall₃ (BindingAlike related) (bindings qualifier labels firsts)
      (bindings qualifier labels seconds) (bindings qualifier labels thirds) := by
  induction labels generalizing firsts seconds thirds with
  | nil => exact .nil
  | cons label labels ih =>
      cases values with
      | nil => exact .nil
      | cons head tail => exact .cons ⟨⟨rfl, rfl⟩, ⟨rfl, rfl⟩, head⟩ (ih tail)

/-- Both runs take combinations of source rows that one symbolic combination stands for. -/
def FrameAlike (hidden : Reference → String → Bool) (symbolicFrames : List (Frame Flow))
    (frame frame' : Frame (List Result)) : Prop :=
  ∃ symbolicFrame ∈ symbolicFrames,
    Forall₃ (BindingAlike (ValueAlike hidden)) symbolicFrame frame frame'

theorem null_row_alike (labels : List String) :
    Forall₃ (ValueAlike hidden) (labels.map fun _ => Flow.nothing)
      (labels.map fun _ => Result.ofCell .null) (labels.map fun _ => Result.ofCell .null) :=
  .map_same fun _ _ => value_null

variable {shapes : List (String × Shape)} {sources sources' : List (String × Result)}

theorem combinations_alike
    (alike : Forall₃ (NamedAlike (ResultAlike hidden)) shapes sources sources')
    (same : sources.map (fun source => source.2.trace) = sources'.map fun source => source.2.trace) :
    List.Forall₂ (FrameAlike hidden (combinations Flow.nothing (Shape.sourceRows shapes)))
      (combinations (Result.ofCell .null) (Result.sourceRows sources))
      (combinations (Result.ofCell .null) (Result.sourceRows sources')) := by
  induction alike with
  | nil => exact .cons ⟨[], List.mem_cons_self, .nil⟩ .nil
  | @cons shape source source' shapes sources sources' head _ ih =>
      obtain ⟨qualifier, result⟩ := source
      obtain ⟨qualifier', result'⟩ := source'
      obtain ⟨⟨name, name'⟩, related⟩ := head
      rw [List.map_cons, List.map_cons, List.cons.injEq] at same
      dsimp only at name name' related same
      have rows : List.Forall₂ (fun row row' => ∃ origins ∈
            (shape.2.rows.map fun row => row.map Flow.ofColumn) ++
              [shape.2.labels.map fun _ => Flow.nothing],
            Forall₃ (ValueAlike hidden) origins row row')
          ((result.table.rows.map fun row => row.map Result.ofCell) ++
            [shape.2.labels.map fun _ => Result.ofCell .null])
          ((result'.table.rows.map fun row => row.map Result.ofCell) ++
            [shape.2.labels.map fun _ => Result.ofCell .null]) := by
        apply List.rel_append
        · rw [List.forall₂_map_left_iff, List.forall₂_map_right_iff]
          refine (related.rows same.1).imp fun row row' alike => ?_
          obtain ⟨origins, member, cells⟩ := alike
          exact ⟨_, List.mem_append_left _ (List.mem_map_of_mem member),
            cells.map fun _ _ _ cell => value_cell cell⟩
        · exact .cons ⟨_, List.mem_append_right _ List.mem_cons_self, null_row_alike _⟩ .nil
      simp only [Result.sourceRows, Shape.sourceRows, List.map_cons, combinations, ← name, ← name',
        ← related.labels.1, ← related.labels.2]
      refine List.rel_flatMap rows fun row row' alike => ?_
      rw [List.forall₂_map_left_iff, List.forall₂_map_right_iff]
      refine (ih same.2).imp fun frame frame' others => ?_
      obtain ⟨origins, member, cells⟩ := alike
      obtain ⟨symbolicFrame, within, bound⟩ := others
      exact ⟨_, List.mem_flatMap.mpr ⟨origins, member, List.mem_map_of_mem within⟩,
        (bindings_alike shape.1 shape.2.labels cells).append bound⟩

theorem emptyFrame_related {alike : Shape → Result → Result → Prop}
    {related : Flow → List Result → List Result → Prop}
    (labels : ∀ {shape result result'}, alike shape result result' →
      shape.labels = result.table.labels ∧ shape.labels = result'.table.labels)
    (nulls : ∀ labels : List String, Forall₃ related (labels.map fun _ => Flow.nothing)
      (labels.map fun _ => Result.ofCell .null) (labels.map fun _ => Result.ofCell .null))
    (named : Forall₃ (NamedAlike alike) shapes sources sources') :
    Forall₃ (BindingAlike related)
      (emptyFrame Flow.nothing (shapes.map fun source => (source.1, source.2.labels)))
      (emptyFrame (Result.ofCell .null)
        (sources.map fun source => (source.1, source.2.table.labels)))
      (emptyFrame (Result.ofCell .null)
        (sources'.map fun source => (source.1, source.2.table.labels))) := by
  simp only [emptyFrame, List.flatMap_map]
  refine named.flatMap fun shape source source' head => ?_
  obtain ⟨same, same'⟩ := labels head.values
  rw [← head.names.1, ← head.names.2, ← same, ← same']
  exact bindings_alike shape.1 shape.2.labels (nulls shape.2.labels)

/-! ## Bodies -/

section Bodies

variable {α β γ : Type} {related : α → β → γ → Prop} {first : Body α} {second : Body β} {third : Body γ}

theorem BodyAlike.itemValues (alike : BodyAlike related first second third) :
    Forall₃ related (first.items.map Prod.snd) (second.items.map Prod.snd)
      (third.items.map Prod.snd) :=
  alike.items.map fun _ _ _ item => item.values

theorem BodyAlike.compared (alike : BodyAlike related first second third) (distinct : Bool) :
    Forall₃ related (first.compared distinct) (second.compared distinct)
      (third.compared distinct) := by
  apply alike.clauses.append
  cases distinct with
  | false => exact .nil
  | true => exact alike.itemValues

theorem BodyAlike.itemAt {nothing : α} {nothing' : β} {nothing'' : γ}
    (alike : BodyAlike related first second third) (none : related nothing nothing' nothing'')
    (position : Nat) :
    related (first.itemAt nothing position) (second.itemAt nothing' position)
      (third.itemAt nothing'' position) :=
  ((alike.items.getElem? position).optionMap fun _ _ _ item => item.values).getD none

end Bodies

/-- Both bodies are what one symbolic body stands for. -/
def BodiesAlike (hidden : Reference → String → Bool) (symbolicBodies : List (Body Flow))
    (body body' : Body (List Result)) : Prop :=
  ∃ symbolicBody ∈ symbolicBodies, BodyAlike (ValueAlike hidden) symbolicBody body body'

theorem itemAt_traces {body body' : Body (List Result)}
    (same : (body.items.map Prod.snd).map (fun leaves => leaves.map Result.trace) =
      (body'.items.map Prod.snd).map fun leaves => leaves.map Result.trace) (position : Nat) :
    (body.itemAt [] position).map Result.trace = (body'.itemAt [] position).map Result.trace := by
  have entry := congrArg (fun traces : List (List Trace) => traces[position]?.getD []) same
  simp only [List.getElem?_map] at entry
  rw [Body.itemAt, Body.itemAt]
  cases first : body.items[position]? <;> cases second : body'.items[position]? <;>
    simp only [first, second, Option.map_none, Option.map_some, Option.getD_none,
      Option.getD_some] at entry ⊢
  all_goals exact entry

section Pairs

variable {α β γ : Type} {related : α → β → Prop} {f : α → γ} {g : β → γ} {list : List α}
  {list' : List β}

theorem map_eq_of_pairs (each : ∀ entry entry', related entry entry' → f entry = g entry')
    (lists : List.Forall₂ related list list') : list.map f = list'.map g := by
  induction lists with
  | nil => rfl
  | cons head _ ih => rw [List.map_cons, List.map_cons, each _ _ head, ih]

theorem pairs_of_map_eq (lists : List.Forall₂ related list list')
    (same : list.map f = list'.map g) :
    List.Forall₂ (fun entry entry' => related entry entry' ∧ f entry = g entry') list list' := by
  induction lists with
  | nil => exact .nil
  | cons head _ ih =>
      rw [List.map_cons, List.map_cons, List.cons.injEq] at same
      exact .cons ⟨head, same.1⟩ (ih same.2)

theorem pair_at (lists : List.Forall₂ related list list') (position : Nat) :
    Option.Rel related list[position]? list'[position]? := by
  induction lists generalizing position with
  | nil => exact .none
  | cons head _ ih =>
      cases position with
      | zero => exact .some head
      | succ position => exact ih position

end Pairs

theorem names_alike {α β γ : Type} {related : α → β → γ → Prop} {firsts : List (String × α)}
    {seconds : List (String × β)} {thirds : List (String × γ)}
    (alike : Forall₃ (NamedAlike related) firsts seconds thirds) :
    firsts.map Prod.fst = seconds.map Prod.fst ∧ firsts.map Prod.fst = thirds.map Prod.fst := by
  induction alike with
  | nil => exact ⟨rfl, rfl⟩
  | cons head _ ih =>
      simp only [List.map_cons, ← head.names.1, ← head.names.2, ← ih.1, ← ih.2, and_self]

section Select

variable {bodyA : Frame Flow → Body Flow} {bodyB bodyC : Frame (List Result) → Body (List Result)}

theorem bodies_alike
    (alike : Forall₃ (NamedAlike (ResultAlike hidden)) shapes sources sources')
    (each : ∀ frameA frameB frameC, Forall₃ (BindingAlike (ValueAlike hidden)) frameA frameB frameC →
      BodyAlike (ValueAlike hidden) (bodyA frameA) (bodyB frameB) (bodyC frameC))
    (same : sources.map (fun source => source.2.trace) = sources'.map fun source => source.2.trace) :
    List.Forall₂ (BodiesAlike hidden ((combinations Flow.nothing (Shape.sourceRows shapes)).map bodyA))
      ((combinations (Result.ofCell .null) (Result.sourceRows sources)).map bodyB)
      ((combinations (Result.ofCell .null) (Result.sourceRows sources')).map bodyC) := by
  rw [List.forall₂_map_left_iff, List.forall₂_map_right_iff]
  refine (combinations_alike alike same).imp fun frame frame' bound => ?_
  obtain ⟨symbolicFrame, member, bound⟩ := bound
  exact ⟨_, List.mem_map_of_mem member, each _ _ _ bound⟩

theorem source_traces_of_clean
    (alike : Forall₃ (NamedAlike (ResultAlike hidden)) shapes sources sources')
    (clean : ∀ shape ∈ shapes, Clean hidden shape.2.guards) :
    sources.map (fun source => source.2.trace) = sources'.map fun source => source.2.trace := by
  induction alike with
  | nil => rfl
  | cons head _ ih =>
      obtain ⟨first, rest⟩ := List.forall_mem_cons.mp clean
      rw [List.map_cons, List.map_cons, head.values.trace first, ih rest]

theorem choice_of_clean {symbolicBodies : List (Body Flow)} {bodies bodies' : List (Body (List Result))}
    (distinct : Bool) (alike : List.Forall₂ (BodiesAlike hidden symbolicBodies) bodies bodies')
    (clean : ∀ body ∈ symbolicBodies, ∀ flow ∈ body.compared distinct, Clean hidden flow.all) :
    bodies.map (fun body => Result.tables (body.compared distinct)) =
      bodies'.map fun body => Result.tables (body.compared distinct) := by
  refine map_eq_of_pairs (fun body body' related => ?_) alike
  obtain ⟨symbolicBody, member, related⟩ := related
  have flows := fun flow within => clean_append.mp (clean symbolicBody member flow within)
  exact tables_of_clean (related.compared distinct)
    (traces_of_clean (related.compared distinct) fun flow within => (flows flow within).2)
    fun flow within => (flows flow within).1

theorem traces_of_bodies {symbolicBodies : List (Body Flow)} {bodies bodies' : List (Body (List Result))}
    (alike : List.Forall₂ (BodiesAlike hidden symbolicBodies) bodies bodies')
    (clean : ∀ body ∈ symbolicBodies, (∀ flow ∈ body.clauses, Clean hidden flow.guards) ∧
      ∀ item ∈ body.items, Clean hidden item.2.guards) :
    bodies.map (fun body => Result.traceOf (body.clauses ++ body.items.map Prod.snd)) =
      bodies'.map fun body => Result.traceOf (body.clauses ++ body.items.map Prod.snd) := by
  refine map_eq_of_pairs (fun body body' related => traceOf_inj.mpr ?_) alike
  obtain ⟨symbolicBody, member, related⟩ := related
  obtain ⟨clauses, items⟩ := clean symbolicBody member
  refine traces_of_clean (related.clauses.append (related.itemValues)) fun flow within => ?_
  rcases List.mem_append.mp within with
    clause | item
  · exact clauses flow clause
  · obtain ⟨output, listed, rfl⟩ := List.mem_map.mp item
    exact items output listed

theorem column_of_clean {symbolicBodies : List (Body Flow)} {bodies bodies' : List (Body (List Result))}
    (alike : List.Forall₂ (BodiesAlike hidden symbolicBodies) bodies bodies')
    (same : bodies.map (fun body => Result.traceOf (body.clauses ++ body.items.map Prod.snd)) =
      bodies'.map fun body => Result.traceOf (body.clauses ++ body.items.map Prod.snd))
    (position : Nat)
    (clean : ∀ body ∈ symbolicBodies, Clean hidden (body.itemAt Flow.nothing position).reads) :
    Result.tables (bodies.map fun body => body.itemAt [] position) =
      Result.tables (bodies'.map fun body => body.itemAt [] position) := by
  rw [Result.tables, Result.tables, List.map_map, List.map_map]
  refine map_eq_of_pairs (fun body body' related => ?_) (pairs_of_map_eq alike same)
  obtain ⟨⟨symbolicBody, member, related⟩, traces⟩ := related
  have parts := traceOf_inj.mp traces
  rw [List.map_append, List.map_append] at parts
  have length : body.clauses.length = body'.clauses.length := by
    obtain ⟨first, second⟩ := related.clauses.lengths
    exact first.symm.trans second
  have items := (List.append_inj parts (by simpa using length)).2
  exact (related.itemAt value_nothing position).tables (itemAt_traces items position)
    (clean symbolicBody member)

theorem select_alike (engine : Engine) (query : Query) (distinct : Bool)
    (alike : Forall₃ (NamedAlike (ResultAlike hidden)) shapes sources sources')
    (each : ∀ frameA frameB frameC, Forall₃ (BindingAlike (ValueAlike hidden)) frameA frameB frameC →
      BodyAlike (ValueAlike hidden) (bodyA frameA) (bodyB frameB) (bodyC frameC)) :
    ResultAlike hidden (Shape.select distinct shapes bodyA)
      (Result.select engine query distinct sources bodyB)
      (Result.select engine query distinct sources' bodyC) := by
  have labels := names_alike (each _ _ _ (emptyFrame_related ResultAlike.labels null_row_alike alike)).items
  refine ⟨labels, ?_, ?_⟩
  · intro clean
    simp only [Shape.select, clean_append, clean_flatMap] at clean
    have traces := source_traces_of_clean alike clean.1
    have bodies := bodies_alike alike each traces
    have compared := choice_of_clean distinct bodies fun body member flow within =>
      ((clean.2 body member).1 flow within)
    have inner := traces_of_bodies bodies fun body member => ⟨fun flow within =>
      (clean_append.mp ((clean.2 body member).1 flow (List.mem_append_left _ within))).2,
      (clean.2 body member).2⟩
    simp only [Result.select, traces, compared, inner]
  · intro same
    simp only [Result.select, Trace.node.injEq, List.cons.injEq, and_true,
      gathered_injective.eq_iff] at same
    obtain ⟨choices, traces, inner⟩ := same
    have bodies := bodies_alike alike each traces
    simp only [Result.select, choices]
    rw [List.forall₂_map_left_iff, List.forall₂_map_right_iff, List.forall₂_same]
    intro group _
    refine ⟨_, List.mem_cons_self, ?_⟩
    rw [← labels.1, ← labels.2]
    refine .map_same fun position _ clean => ?_
    rw [column_of_clean bodies inner position (clean_flatMap.mp clean)]

end Select

/-! ## Set operations -/

theorem rows_alike_pick {symbolicRows : List (List (List Origin))} {rows rows' : List (List Cell)}
    (alike : List.Forall₂ (RowAlike hidden symbolicRows) rows rows') (positions : List Nat) :
    List.Forall₂ (RowAlike hidden symbolicRows) (positions.filterMap fun position => rows[position]?)
      (positions.filterMap fun position => rows'[position]?) := by
  induction positions with
  | nil => exact .nil
  | cons position rest ih =>
      rw [List.filterMap_cons, List.filterMap_cons]
      have here := pair_at alike position
      generalize rows[position]? = entry at here ⊢
      generalize rows'[position]? = entry' at here ⊢
      cases here with
      | none => exact ih
      | some head => exact .cons head ih

theorem combine_alike (engine : Engine) (query : Query) (operation : SetOperation)
    {shape shape' : Shape} {left left' right right' : Result} {termsA : Frame Flow → List Flow}
    {termsB termsC : Frame (List Result) → List (List Result)}
    (one : ResultAlike hidden shape left left') (other : ResultAlike hidden shape' right right')
    (each : ∀ frameA frameB frameC, Forall₃ (BindingAlike (ValueAlike hidden)) frameA frameB frameC →
      Forall₃ (ValueAlike hidden) (termsA frameA) (termsB frameB) (termsC frameC)) :
    ResultAlike hidden (Shape.combine operation shape shape' termsA)
      (Result.combine engine query operation left right termsB)
      (Result.combine engine query operation left' right' termsC) := by
  have joined : left.trace = left'.trace → right.trace = right'.trace →
      List.Forall₂ (RowAlike hidden (shape.rows ++ shape'.rows))
        (left.table.rows ++ right.table.rows) (left'.table.rows ++ right'.table.rows) := by
    intro first second
    apply List.rel_append
    · refine (one.rows first).imp fun row row' alike => ?_
      obtain ⟨origins, member, cells⟩ := alike
      exact ⟨origins, List.mem_append_left _ member, cells⟩
    · refine (other.rows second).imp fun row row' alike => ?_
      obtain ⟨origins, member, cells⟩ := alike
      exact ⟨origins, List.mem_append_right _ member, cells⟩
  refine ⟨one.labels, ?_, ?_⟩
  · intro clean
    simp only [Shape.combine, clean_append, clean_flatMap] at clean
    obtain ⟨⟨⟨leftClean, rightClean⟩, comparedClean⟩, termsClean⟩ := clean
    have first := one.trace leftClean
    have second := other.trace rightClean
    have rows := joined first second
    have values : ∀ row row', RowAlike hidden (shape.rows ++ shape'.rows) row row' →
        ∃ flows, (∀ flow ∈ flows, Clean hidden flow.all) ∧ Forall₃ (ValueAlike hidden) flows
          (termsB (bindings "" left.table.labels (row.map Result.ofCell)))
          (termsC (bindings "" left'.table.labels (row'.map Result.ofCell))) := by
      rintro row row' ⟨origins, member, cells⟩
      refine ⟨_, termsClean origins member, ?_⟩
      rw [← one.labels.1, ← one.labels.2]
      exact each _ _ _ (bindings_alike "" shape.labels (cells.map fun _ _ _ cell => value_cell cell))
    have compared : (if operation = .unionAll then
          (left.table.rows ++ right.table.rows).map fun _ => ([] : List Cell)
        else left.table.rows ++ right.table.rows) =
        if operation = .unionAll then
          (left'.table.rows ++ right'.table.rows).map fun _ => ([] : List Cell)
        else left'.table.rows ++ right'.table.rows := by
      split
      · exact map_eq_of_pairs (fun _ _ _ => rfl) rows
      next different =>
        rw [if_neg different] at comparedClean
        rw [← List.forall₂_eq_eq_eq]
        refine rows.imp fun row row' alike => ?_
        obtain ⟨origins, member, cells⟩ := alike
        refine row_eq cells (clean_flatten.mpr fun column within => ?_)
        exact clean_flatten.mp comparedClean column (List.mem_flatten.mpr ⟨origins, member, within⟩)
    have tables := map_eq_of_pairs (fun row row' alike => by
      obtain ⟨flows, clean, terms⟩ := values row row' alike
      exact tables_of_clean terms
        (traces_of_clean terms fun flow within => (clean_append.mp (clean flow within)).2)
        fun flow within => (clean_append.mp (clean flow within)).1) rows
    have traces := map_eq_of_pairs (fun row row' alike => by
      obtain ⟨flows, clean, terms⟩ := values row row' alike
      exact traceOf_inj.mpr
        (traces_of_clean terms fun flow within => (clean_append.mp (clean flow within)).2)) rows
    simp only [Result.combine, List.map_map, Function.comp_def, compared, tables, traces, first,
      second]
  · intro same
    simp only [Result.combine, Trace.node.injEq, List.cons.injEq] at same
    obtain ⟨choices, first, second, -⟩ := same
    simp only [Result.combine, choices]
    exact rows_alike_pick (joined first second) _

/-! ## Every query -/

theorem physical_alike (schema : Schema) {contents contents' : Contents}
    (agree : AgreeOutside hidden contents contents') (engine : Engine) (reference : Reference) :
    ResultAlike hidden ((symbolic schema).physical reference)
      ((concrete engine schema contents).physical reference)
      ((concrete engine schema contents').physical reference) where
  labels := ⟨rfl, rfl⟩
  trace _ := rfl
  rows _ := by
    simp only [concrete, symbolic]
    rw [List.forall₂_map_left_iff, List.forall₂_map_right_iff]
    refine (agree reference).imp fun row row' same => ⟨_, List.mem_cons_self, ?_⟩
    exact .map_same fun field _ clean => same field (clean _ List.mem_cons_self)

def noninterference (engine : Engine) (schema : Schema) {contents contents' : Contents}
    (agree : AgreeOutside hidden contents contents') :
    Simulation (symbolic schema) (concrete engine schema contents)
      (concrete engine schema contents') where
  rel := ResultAlike hidden
  val := ValueAlike hidden
  constant := value_nothing
  refer name flow leaves leaves' alike := by
    refine ⟨alike.length, alike.traces, fun same clean => alike.tables same fun origin member => ?_⟩
    exact clean { origin with named := origin.named || origin.field = name }
      (List.mem_map.mpr ⟨origin, member, rfl⟩)
  gather _ _ _ := value_gather
  scalar _ _ _ := value_scalar
  physical := physical_alike schema agree engine
  select query distinct _ _ _ _ _ _ := select_alike engine query distinct
  combine query operation _ _ _ _ _ _ _ _ _ := combine_alike engine query operation

theorem runs_alike (engine : Engine) (schema : Schema) {contents contents' : Contents}
    (agree : AgreeOutside hidden contents contents') (query : Query) :
    ResultAlike hidden (query.shape schema) (query.run engine schema contents)
      (query.run engine schema contents') :=
  (noninterference engine schema agree).query_alike query ⟨.nil, .nil⟩

end PaymentsPlatform.AgentApi
