import Mathlib.Algebra.Order.Field.Rat
import Mathlib.Data.Multiset.Sort
import Mathlib.Data.Prod.Lex
import PaymentsPlatform.AgentApi.QueryExecution
import PaymentsPlatform.Library.BagQueries
import PaymentsPlatform.Library.Dict

/-!
# Comparing the last two periods

The comparison query averages a metric for each value of a dimension in the two latest periods,
and its limit cuts the rows of both periods together.  The limit spares the latest period first,
so what it cuts are the groups of the period before, from the lowest value.  The rows are compared
as `execute_query` returns them, with the masked cells of the governance decision.
-/

namespace PaymentsPlatform.AgentApi.InsightAgent

open Bag

variable {Record Period Entity : Type}

/-! ## _comparison_query -/

/-- The columns of a dataset that a comparison reads. -/
structure Selection (Record Period Entity : Type) where
  timeField : Record → Option Period
  metric : Record → Option ℚ
  dimension : Option (Record → Entity)

/-- A row of the comparison query; without a dimension it has no entity. -/
structure ComparisonRow (Period Entity : Type) where
  period : Period
  entity : Option Entity
  value : Option ℚ
  deriving DecidableEq

/-- `AVG`, of the values that are not missing. -/
def average (values : Multiset (Option ℚ)) : Option ℚ :=
  let known := values.filterMap id
  if known.card = 0 then none else some (known.sum / known.card)

/-- `LIMIT min(200, permissions.max_rows, settings.max_rows)`. -/
def rowLimit (permissionsMaxRows settingsMaxRows : Nat) : Nat :=
  min 200 (min permissionsMaxRows settingsMaxRows)

/-- `ORDER BY period DESC, value DESC`, with missing values last. -/
def ComparisonRow.rank (row : ComparisonRow Period Entity) : Period ×ₗ WithBot ℚ :=
  toLex (row.period, nullsLast row.value)

section Query

variable [LinearOrder Period] [DecidableEq Entity] (selection : Selection Record Period Entity)

/-- `recent_periods`. -/
def recentPeriods (table : Multiset Record) : List Period :=
  ((table.filterMap selection.timeField).dedup.sort (· ≥ ·)).take 2

/-- The records of the recent periods, with their period. -/
def recentRecords (table : Multiset Record) : Multiset (Period × Record) :=
  table.filterMap fun record => (selection.timeField record).bind fun period =>
    if period ∈ recentPeriods selection table then some (period, record) else none

/-- The groups that the query orders and limits. -/
def comparisonGroups (table : Multiset Record) : Multiset (ComparisonRow Period Entity) :=
  groupBy (fun entry => (entry.1, selection.dimension.map fun column => column entry.2))
    (fun key group => ⟨key.1, key.2, average (group.map fun entry => selection.metric entry.2)⟩)
    (recentRecords selection table)

/-- The rows that the query may return, whichever of the groups that tie come first. -/
def IsComparisonResult (table : Multiset Record) (limit : Nat)
    (rows : List (ComparisonRow Period Entity)) : Prop :=
  ∃ ordered : List (ComparisonRow Period Entity),
    (ordered : Multiset (ComparisonRow Period Entity)) = comparisonGroups selection table ∧
      ordered.Pairwise (fun before after => after.rank ≤ before.rank) ∧ rows = ordered.take limit

end Query

/-- What becomes of the cells of a comparison row.  A metric that is masked shows a text with a
star instead of a number, and without a classification also instead of a missing value. -/
structure RowMask (Period Entity Shown : Type) where
  period : Period → Shown
  entity : Entity → Shown
  /-- The metric is masked; whether its missing values are, too. -/
  value : Option Bool

/-- `_mask_query_rows`, on a column that the statement calls so. -/
def shownCell (resource : ResourceContext) (decision : PolicyDecision) (label : String)
    (cell : Cell) : Cell :=
  if decision.decision = .mask then maskCell resource decision label cell else cell

/-- The mask of a decision, where the engine returns a period and a value of the dimension as these
cells. -/
def RowMask.ofDecision (resource : ResourceContext) (decision : PolicyDecision) (dimension : String)
    (periodCell : Period → Cell) (entityCell : Entity → Cell) : RowMask Period Entity Cell where
  period := shownCell resource decision "period" ∘ periodCell
  entity := shownCell resource decision dimension ∘ entityCell
  value :=
    if decision.decision = .mask ∧ masks resource decision "value" then
      some (shownCell resource decision "value" .null ≠ .null)
    else none

variable {Shown : Type}

def RowMask.apply (mask : RowMask Period Entity Shown) (row : ComparisonRow Period Entity) :
    ComparisonRow Shown Shown :=
  ⟨mask.period row.period, row.entity.map mask.entity, row.value⟩

/-- The value is masked: `float` refuses it. -/
def RowMask.hides (mask : RowMask Period Entity Shown) (row : ComparisonRow Period Entity) : Bool :=
  mask.value.any fun nulls => row.value.isSome || nulls

/-! ## _compare -/

inductive FindingType where
  | metricChange
  | rankingMovement
  | anomaly
  | limitation
  deriving DecidableEq

inductive Classification where
  | observedChange
  | limitation
  deriving DecidableEq

structure Movement (Entity : Type) where
  entity : Option Entity
  currentRank : Nat
  previousRank : Option Nat
  rankChange : Option ℤ
  deriving DecidableEq

inductive Details (Period Entity : Type) where
  | empty
  | periods (currentPeriod previousPeriod : Period) (timeField : String)
  | threshold (method : String) (threshold : ℚ) (thresholdSource : String)
  | movements (movements : List (Movement Entity))
  deriving DecidableEq

structure InsightFinding (Period Entity : Type) where
  type : FindingType
  metric : String
  dimension : Option String
  classification : Classification := .observedChange
  currentValue : Option ℚ := none
  previousValue : Option ℚ := none
  absoluteChange : Option ℚ := none
  relativeChange : Option ℚ := none
  confidence : ℚ := 1
  warnings : List String := []
  details : Details Period Entity := .empty
  deriving DecidableEq

structure Comparison (Period : Type) where
  currentPeriod : Period
  comparisonPeriod : Period
  timeField : String
  metric : String
  dimensions : List String
  deriving DecidableEq

structure Outcome (Period Entity : Type) where
  findings : List (InsightFinding Period Entity)
  comparison : Option (Comparison Period)
  warnings : List String
  deriving DecidableEq

section Compare

variable [DecidableEq Period] [DecidableEq Entity]

/-- The periods of the rows, as they come. -/
def periodsOf (rows : List (ComparisonRow Period Entity)) : List Period :=
  rows.foldl (fun periods row => if row.period ∈ periods then periods else periods ++ [row.period])
    []

def rowsOf (rows : List (ComparisonRow Period Entity)) (period : Period) :
    List (ComparisonRow Period Entity) :=
  rows.filter fun row => row.period = period

def meanValue (rows : List (ComparisonRow Period Entity)) : ℚ :=
  (rows.filterMap ComparisonRow.value).sum /
    max 1 (rows.countP fun row => row.value.isSome : Nat)

/-- `item["value"] or float("-inf")`: zero is as false as a missing value. -/
def sortKey (row : ComparisonRow Period Entity) : WithBot ℚ :=
  match row.value with
  | some value => if value = 0 then ⊥ else value
  | none => ⊥

/-- `sorted(rows, key=…, reverse=True)`. -/
def ranked (rows : List (ComparisonRow Period Entity)) : List (ComparisonRow Period Entity) :=
  rows.insertionSort fun before after => sortKey after ≤ sortKey before

def previousRanks (previousRows : List (ComparisonRow Period Entity)) : Dict (Option Entity) Nat :=
  .ofList (((ranked previousRows).zipIdx 1).map fun (row, rank) => (row.entity, rank))

def movementsOf (currentRows previousRows : List (ComparisonRow Period Entity)) :
    List (Movement Entity) :=
  let previousRank := previousRanks previousRows
  ((ranked currentRows).zipIdx 1).map fun (row, rank) =>
    { entity := row.entity
      currentRank := rank
      previousRank := previousRank.get? row.entity
      rankChange := (previousRank.get? row.entity).map fun before : Nat => (before : ℤ) - rank }

def comparePeriods (insightChangeThreshold : ℚ) (rows : List (ComparisonRow Period Entity))
    (metric timeField : String) (dimension : Option String) (threshold : Option ℚ)
    (currentPeriod previousPeriod : Period) : Outcome Period Entity :=
  let currentRows := rowsOf rows currentPeriod
  let previousRows := rowsOf rows previousPeriod
  let current := meanValue currentRows
  let previous := meanValue previousRows
  let absolute := current - previous
  let relative := if previous = 0 then none else some (absolute / |previous|)
  let appliedThreshold := threshold.getD insightChangeThreshold
  let change : InsightFinding Period Entity :=
    { type := .metricChange
      metric
      dimension
      currentValue := some current
      previousValue := some previous
      absoluteChange := some absolute
      relativeChange := relative
      details := .periods currentPeriod previousPeriod timeField }
  let anomaly : InsightFinding Period Entity :=
    { type := .anomaly
      metric
      dimension
      currentValue := some current
      previousValue := some previous
      absoluteChange := some absolute
      relativeChange := relative
      confidence := 9 / 10
      details := .threshold "absolute percentage change" appliedThreshold
        (if threshold.isSome then "request" else "platform_default") }
  let movement : InsightFinding Period Entity :=
    { type := .rankingMovement
      metric
      dimension
      details := .movements (movementsOf currentRows previousRows) }
  { findings := [change] ++
      (if relative.any fun change => appliedThreshold ≤ |change| then [anomaly] else []) ++
      (if dimension.isSome then [movement] else [])
    comparison := some
      { currentPeriod := currentPeriod
        comparisonPeriod := previousPeriod
        timeField
        metric
        dimensions := dimension.toList }
    warnings := if threshold.isSome then [] else
      ["Anomaly flag uses the platform default percentage-change threshold, not a business SLA"] }

def compare (insightChangeThreshold : ℚ) (rows : List (ComparisonRow Period Entity))
    (metric timeField : String) (dimension : Option String) (threshold : Option ℚ) :
    Outcome Period Entity :=
  match periodsOf rows with
  | currentPeriod :: previousPeriod :: _ => comparePeriods insightChangeThreshold rows metric
      timeField dimension threshold currentPeriod previousPeriod
  | _ =>
    { findings :=
        [{ type := .limitation
           metric
           dimension
           classification := .limitation
           warnings := ["No comparison period was invented"] }]
      comparison := none
      warnings := [] }

end Compare

/-- `float` of a masked number. -/
inductive ValueError where
  | couldNotConvert

/-- `compare` of the rows as they are returned.  They are of two periods at most, so that each of
them is read once there are two. -/
def compareReturned [DecidableEq Shown] (mask : RowMask Period Entity Shown)
    (insightChangeThreshold : ℚ) (rows : List (ComparisonRow Period Entity))
    (metric timeField : String) (dimension : Option String) (threshold : Option ℚ) :
    Except ValueError (Outcome Shown Shown) :=
  let returned := rows.map mask.apply
  if 2 ≤ (periodsOf returned).length ∧ rows.any mask.hides then .error .couldNotConvert
  else .ok (compare insightChangeThreshold returned metric timeField dimension threshold)

/-! ## Periods of the rows -/

section Periods

variable [DecidableEq Period] {rows : List (ComparisonRow Period Entity)}

@[simp]
theorem periodsOf_nil : periodsOf ([] : List (ComparisonRow Period Entity)) = [] := rfl

theorem periodsOf_concat (rows : List (ComparisonRow Period Entity))
    (row : ComparisonRow Period Entity) :
    periodsOf (rows ++ [row]) =
      if row.period ∈ periodsOf rows then periodsOf rows else periodsOf rows ++ [row.period] := by
  rw [periodsOf, List.foldl_append]
  rfl

@[simp]
theorem mem_periodsOf {period : Period} :
    period ∈ periodsOf rows ↔ period ∈ rows.map ComparisonRow.period := by
  induction rows using List.reverseRecOn with
  | nil => simp
  | append_singleton rows row ih =>
      rw [periodsOf_concat, List.map_append, List.mem_append, ← ih]
      split
      next known =>
        constructor
        · exact Or.inl
        · rintro (seen | new)
          · exact seen
          · exact (List.mem_singleton.mp new) ▸ known
      next => simp

theorem nodup_periodsOf : (periodsOf rows).Nodup := by
  induction rows using List.reverseRecOn with
  | nil => simp
  | append_singleton rows row ih =>
      rw [periodsOf_concat]
      split
      next => exact ih
      next unknown => exact List.concat_eq_append ▸ ih.concat unknown

theorem periodsOf_sublist : (periodsOf rows).Sublist (rows.map ComparisonRow.period) := by
  induction rows using List.reverseRecOn with
  | nil => simp
  | append_singleton rows row ih =>
      rw [periodsOf_concat, List.map_append]
      split
      next => exact ih.trans (List.sublist_append_left _ _)
      next => exact ih.append (List.Sublist.refl _)

theorem pairwise_periodsOf {Period : Type} [LinearOrder Period]
    {rows : List (ComparisonRow Period Entity)}
    (ordered : (rows.map ComparisonRow.period).Pairwise fun before after => after ≤ before) :
    (periodsOf rows).Pairwise fun before after => after < before :=
  ((ordered.sublist periodsOf_sublist).and nodup_periodsOf).imp fun ⟨le, different⟩ =>
    lt_of_le_of_ne le different.symm

end Periods

/-! ## Findings of a comparison -/

section Findings

variable [DecidableEq Period] [DecidableEq Entity] {rows : List (ComparisonRow Period Entity)}

theorem isSome_comparison_compare (insightChangeThreshold : ℚ) (metric timeField : String)
    (dimension : Option String) (threshold : Option ℚ) :
    (compare insightChangeThreshold rows metric timeField dimension threshold).comparison.isSome ↔
      2 ≤ (periodsOf rows).length := by
  unfold compare
  split
  next periods => simp [periods, comparePeriods]
  next single =>
    cases periods : periodsOf rows with
    | nil => simp
    | cons first others =>
        cases others with
        | nil => simp
        | cons second rest => exact absurd periods (single first second rest)

theorem values_of_mem_comparePeriods {insightChangeThreshold : ℚ} {metric timeField : String}
    {dimension : Option String} {threshold : Option ℚ} {currentPeriod previousPeriod : Period}
    {finding : InsightFinding Period Entity}
    (member : finding ∈ (comparePeriods insightChangeThreshold rows metric timeField dimension
      threshold currentPeriod previousPeriod).findings)
    (reports : finding.type ∈ [FindingType.metricChange, .anomaly]) :
    finding.currentValue = some (meanValue (rowsOf rows currentPeriod)) ∧
      finding.previousValue = some (meanValue (rowsOf rows previousPeriod)) := by
  simp only [comparePeriods, List.mem_append, List.mem_ite_nil_right, List.mem_singleton] at member
  rcases member with (rfl | ⟨-, rfl⟩) | ⟨-, rfl⟩
  · exact ⟨rfl, rfl⟩
  · exact ⟨rfl, rfl⟩
  · exact absurd reports (by simp)

theorem exists_metricChange (insightChangeThreshold : ℚ) (metric timeField : String)
    (dimension : Option String) (threshold : Option ℚ) (compared : 2 ≤ (periodsOf rows).length) :
    ∃ finding ∈ (compare insightChangeThreshold rows metric timeField dimension threshold).findings,
      finding.type = .metricChange := by
  unfold compare
  split
  next =>
    exact ⟨_, List.mem_append_left _ (List.mem_append_left _ (List.mem_singleton.mpr rfl)), rfl⟩
  next single =>
    match periods : periodsOf rows, compared with
    | first :: second :: others, _ => exact absurd periods (single first second others)

end Findings

/-! ## Rows as they are returned -/

section Returned

variable [DecidableEq Period] [DecidableEq Shown] {mask : RowMask Period Entity Shown}
  {rows : List (ComparisonRow Period Entity)}

theorem periodsOf_apply_subset :
    periodsOf (rows.map mask.apply) ⊆ (periodsOf rows).map mask.period := by
  intro shown member
  rw [mem_periodsOf, List.map_map] at member
  obtain ⟨row, inRows, rfl⟩ := List.mem_map.mp member
  exact List.mem_map_of_mem (mem_periodsOf.mpr (List.mem_map_of_mem inRows))

theorem length_periodsOf_apply_le :
    (periodsOf (rows.map mask.apply)).length ≤ (periodsOf rows).length :=
  (nodup_periodsOf.subperm periodsOf_apply_subset).length_le.trans_eq
    (List.length_map mask.period)

theorem periodsOf_apply (injective : Set.InjOn mask.period {period | period ∈ periodsOf rows}) :
    periodsOf (rows.map mask.apply) = (periodsOf rows).map mask.period := by
  induction rows using List.reverseRecOn with
  | nil => rfl
  | append_singleton rows row ih =>
      have grows : periodsOf rows ⊆ periodsOf (rows ++ [row]) := by
        intro period member
        rw [mem_periodsOf, List.map_append]
        exact List.mem_append_left _ (mem_periodsOf.mp member)
      have isLast : row.period ∈ periodsOf (rows ++ [row]) := by simp
      have known_iff : mask.period row.period ∈ (periodsOf rows).map mask.period ↔
          row.period ∈ periodsOf rows := by
        refine ⟨fun member => ?_, List.mem_map_of_mem⟩
        obtain ⟨period, listed, same⟩ := List.mem_map.mp member
        exact injective (grows listed) isLast same ▸ listed
      rw [List.map_append, List.map_singleton, periodsOf_concat, periodsOf_concat,
        ih (injective.mono grows)]
      simp only [RowMask.apply, known_iff]
      split
      next => rfl
      next => rw [List.map_append, List.map_singleton]

omit [DecidableEq Period] [DecidableEq Shown] in
theorem meanValue_apply (rows : List (ComparisonRow Period Entity)) :
    meanValue (rows.map mask.apply) = meanValue rows := by
  simp [meanValue, List.filterMap_map, List.countP_map, Function.comp_def, RowMask.apply]

theorem rowsOf_apply {period : Period}
    (apart : ∀ row ∈ rows, mask.period row.period = mask.period period → row.period = period) :
    rowsOf (rows.map mask.apply) (mask.period period) = (rowsOf rows period).map mask.apply := by
  rw [rowsOf, rowsOf, List.filter_map]
  refine congrArg (List.map mask.apply) (List.filter_congr fun row inRows => ?_)
  exact decide_eq_decide.mpr ⟨apart row inRows, congrArg mask.period⟩

end Returned

/-! ## Rows of a result -/

section Results

variable [LinearOrder Period] [DecidableEq Entity] {selection : Selection Record Period Entity}
  {table : Multiset Record} {limit : Nat} {rows : List (ComparisonRow Period Entity)}

theorem nodup_keys_comparisonGroups (selection : Selection Record Period Entity)
    (table : Multiset Record) :
    ((comparisonGroups selection table).map fun row => (row.period, row.entity)).Nodup :=
  nodup_map_groupBy (fun _ _ => rfl) _

theorem mem_periods_comparisonGroups {period : Period} :
    period ∈ (comparisonGroups selection table).map ComparisonRow.period ↔
      period ∈ recentPeriods selection table := by
  have ofRecords : period ∈ (comparisonGroups selection table).map ComparisonRow.period ↔
      period ∈ (recentRecords selection table).map Prod.fst := by
    simp only [comparisonGroups, groupBy, Multiset.map_map, Multiset.mem_map, Multiset.mem_dedup,
      Function.comp_apply]
    constructor
    · rintro ⟨key, ⟨entry, member, rfl⟩, rfl⟩
      exact ⟨entry, member, rfl⟩
    · rintro ⟨entry, member, rfl⟩
      exact ⟨_, ⟨entry, member, rfl⟩, rfl⟩
  rw [ofRecords, Multiset.mem_map]
  constructor
  · rintro ⟨⟨known, record⟩, member, rfl⟩
    obtain ⟨source, -, found⟩ := (Multiset.mem_filterMap _ _).mp member
    obtain ⟨period, -, kept⟩ := Option.bind_eq_some_iff.mp found
    split at kept
    next recent =>
      cases kept
      exact recent
    next => exact absurd kept (by simp)
  · intro recent
    have listed := List.mem_of_mem_take recent
    rw [Multiset.mem_sort, Multiset.mem_dedup, Multiset.mem_filterMap] at listed
    obtain ⟨record, inTable, dated⟩ := listed
    refine ⟨(period, record), (Multiset.mem_filterMap _ _).mpr ⟨record, inTable, ?_⟩, rfl⟩
    rw [dated, Option.bind_some, if_pos recent]

namespace IsComparisonResult

theorem mem_groups (result : IsComparisonResult selection table limit rows)
    {row : ComparisonRow Period Entity} (member : row ∈ rows) :
    row ∈ comparisonGroups selection table := by
  obtain ⟨ordered, isGroups, -, rfl⟩ := result
  rw [← isGroups, Multiset.mem_coe]
  exact List.mem_of_mem_take member

theorem pairwise_rank (result : IsComparisonResult selection table limit rows) :
    rows.Pairwise fun before after => after.rank ≤ before.rank := by
  obtain ⟨ordered, -, sorted, rfl⟩ := result
  exact sorted.sublist (List.take_sublist _ _)

theorem nodup_keys (result : IsComparisonResult selection table limit rows) :
    (rows.map fun row => (row.period, row.entity)).Nodup := by
  obtain ⟨ordered, isGroups, -, rfl⟩ := result
  have distinct := nodup_keys_comparisonGroups selection table
  rw [← isGroups, Multiset.map_coe, Multiset.coe_nodup] at distinct
  exact distinct.sublist ((List.take_sublist _ _).map _)

theorem pairwise_period (result : IsComparisonResult selection table limit rows) :
    (rows.map ComparisonRow.period).Pairwise fun before after => after ≤ before :=
  List.pairwise_map.mpr (result.pairwise_rank.imp fun {_ _} le => Prod.Lex.monotone_fst _ _ le)

theorem nodup_entities (result : IsComparisonResult selection table limit rows) (period : Period) :
    ((rowsOf rows period).map ComparisonRow.entity).Nodup := by
  have keys : ((rowsOf rows period).map fun row => (row.period, row.entity)).Nodup :=
    result.nodup_keys.sublist (List.filter_sublist.map _)
  refine (List.nodup_map_iff_inj_on keys.of_map).mpr fun first inFirst second inSecond same => ?_
  refine List.inj_on_of_nodup_map keys inFirst inSecond (Prod.ext ?_ same)
  have ofFirst := (List.mem_filter.mp inFirst).2
  have ofSecond := (List.mem_filter.mp inSecond).2
  exact (of_decide_eq_true ofFirst).trans (of_decide_eq_true ofSecond).symm

theorem pairwise_value (result : IsComparisonResult selection table limit rows) (period : Period) :
    (rowsOf rows period).Pairwise fun before after =>
      nullsLast after.value ≤ nullsLast before.value := by
  refine (result.pairwise_rank.sublist List.filter_sublist).imp_of_mem fun {first second} inFirst
    inSecond le => ?_
  have ofFirst := of_decide_eq_true (List.mem_filter.mp inFirst).2
  have ofSecond := of_decide_eq_true (List.mem_filter.mp inSecond).2
  rcases Prod.Lex.toLex_le_toLex.mp le with earlier | ⟨-, below⟩
  · exact absurd (ofSecond.trans ofFirst.symm) earlier.ne
  · exact below

end IsComparisonResult

end Results

/-! ## What the finding should say -/

section Reflection

variable [LinearOrder Period] [DecidableEq Entity] {selection : Selection Record Period Entity}
  {table : Multiset Record} {limit : Nat} {rows : List (ComparisonRow Period Entity)}

def groupsOf (selection : Selection Record Period Entity) (table : Multiset Record)
    (period : Period) : Multiset (ComparisonRow Period Entity) :=
  (comparisonGroups selection table).filter fun row => row.period = period

/-- The mean of the values that are not missing; there must be one. -/
def IsMean (rows : Multiset (ComparisonRow Period Entity)) (mean : ℚ) : Prop :=
  let values := rows.filterMap ComparisonRow.value
  values ≠ 0 ∧ mean = values.sum / values.card

/-- The answer of a comparison reflects the data. -/
structure Reflects (selection : Selection Record Period Entity) (table : Multiset Record)
    (rows : List (ComparisonRow Period Entity))
    (answer : Except ValueError (Outcome Shown Shown)) : Prop where
  compares : (∃ outcome ∈ answer.toOption, outcome.comparison.isSome) ↔
    2 ≤ (table.filterMap selection.timeField).dedup.card
  means : ∀ currentPeriod previousPeriod,
    recentPeriods selection table = [currentPeriod, previousPeriod] →
      ∀ outcome ∈ answer.toOption, ∀ finding ∈ outcome.findings,
        finding.type ∈ [FindingType.metricChange, .anomaly] →
          ∃ current previous, finding.currentValue = some current ∧
            finding.previousValue = some previous ∧
            IsMean (groupsOf selection table currentPeriod) current ∧
            IsMean (groupsOf selection table previousPeriod) previous
  /-- The limit does not take groups of one of two periods only. -/
  unbiased : (recentPeriods selection table).length = 2 → ∀ period,
    (∀ group ∈ comparisonGroups selection table, group ∉ rows → group.period = period) →
      ∀ group ∈ comparisonGroups selection table, group ∈ rows

/-- Of two periods, the groups are within the limit, each has a value, and the mask leaves the
metric alone and tells the periods apart. -/
def Fits (selection : Selection Record Period Entity) (table : Multiset Record) (limit : Nat)
    (mask : RowMask Period Entity Shown) : Prop :=
  ∀ currentPeriod previousPeriod,
    recentPeriods selection table = [currentPeriod, previousPeriod] →
      (groupsOf selection table currentPeriod).filterMap ComparisonRow.value ≠ 0 ∧
      (groupsOf selection table previousPeriod).filterMap ComparisonRow.value ≠ 0 ∧
      (comparisonGroups selection table).card ≤ limit ∧
      mask.value = none ∧ mask.period currentPeriod ≠ mask.period previousPeriod

omit [DecidableEq Entity] in
theorem pairwise_recentPeriods (selection : Selection Record Period Entity)
    (table : Multiset Record) :
    (recentPeriods selection table).Pairwise fun before after => after < before := by
  have sorted := Multiset.pairwise_sort (table.filterMap selection.timeField).dedup (· ≥ ·)
  have distinct : ((table.filterMap selection.timeField).dedup.sort (· ≥ ·)).Nodup := by
    rw [← Multiset.coe_nodup, Multiset.sort_eq]
    exact Multiset.nodup_dedup _
  exact ((sorted.and distinct).sublist (List.take_sublist _ _)).imp fun ⟨le, different⟩ =>
    lt_of_le_of_ne le different.symm

omit [DecidableEq Entity] in
theorem length_recentPeriods (selection : Selection Record Period Entity)
    (table : Multiset Record) :
    (recentPeriods selection table).length =
      min 2 (table.filterMap selection.timeField).dedup.card := by
  rw [recentPeriods, List.length_take, Multiset.length_sort]

omit [LinearOrder Period] [DecidableEq Entity] in
theorem isMean_meanValue {groups : Multiset (ComparisonRow Period Entity)}
    (same : (rows : Multiset (ComparisonRow Period Entity)) = groups)
    (present : groups.filterMap ComparisonRow.value ≠ 0) : IsMean groups (meanValue rows) := by
  subst same
  refine ⟨present, ?_⟩
  have counted : (rows.countP fun row => row.value.isSome) =
      (rows.filterMap ComparisonRow.value).length := List.length_filterMap_eq_countP.symm
  have positive : 1 ≤ (rows.filterMap ComparisonRow.value).length :=
    Nat.one_le_iff_ne_zero.mpr fun none => present (by
      rw [Multiset.filterMap_coe, List.length_eq_zero_iff.mp none]
      rfl)
  rw [meanValue, counted, max_eq_right positive, Multiset.filterMap_coe, Multiset.sum_coe,
    Multiset.coe_card]

namespace IsComparisonResult

theorem periodsOf_subset (result : IsComparisonResult selection table limit rows) :
    periodsOf rows ⊆ recentPeriods selection table := by
  intro period member
  obtain ⟨row, inRows, rfl⟩ := List.mem_map.mp (mem_periodsOf.mp member)
  exact mem_periods_comparisonGroups.mp (Multiset.mem_map_of_mem _ (result.mem_groups inRows))

theorem coe_eq_of_le (result : IsComparisonResult selection table limit rows)
    (within : (comparisonGroups selection table).card ≤ limit) :
    (rows : Multiset (ComparisonRow Period Entity)) = comparisonGroups selection table := by
  obtain ⟨ordered, isGroups, -, rfl⟩ := result
  rw [← isGroups, Multiset.coe_card] at within
  rw [List.take_of_length_le within, isGroups]

theorem periodsOf_eq (result : IsComparisonResult selection table limit rows)
    (complete : (rows : Multiset (ComparisonRow Period Entity)) = comparisonGroups selection table) :
    periodsOf rows = recentPeriods selection table := by
  refine (pairwise_periodsOf result.pairwise_period).eq_of_mem_iff
    (pairwise_recentPeriods selection table) fun {period} => ?_
  rw [mem_periodsOf, ← mem_periods_comparisonGroups, ← complete, Multiset.map_coe, Multiset.mem_coe]

theorem rank_le_of_notMem (result : IsComparisonResult selection table limit rows)
    {row group : ComparisonRow Period Entity} (member : row ∈ rows)
    (inGroups : group ∈ comparisonGroups selection table) (taken : group ∉ rows) :
    group.rank ≤ row.rank := by
  obtain ⟨ordered, isGroups, sorted, rfl⟩ := result
  rw [← isGroups, Multiset.mem_coe, ← List.take_append_drop limit ordered, List.mem_append]
    at inGroups
  rw [← List.take_append_drop limit ordered] at sorted
  exact (List.pairwise_append.mp sorted).2.2 row member group (inGroups.resolve_left taken)

theorem mem_periodsOf_of_compared (result : IsComparisonResult selection table limit rows)
    {currentPeriod previousPeriod : Period}
    (recent : recentPeriods selection table = [currentPeriod, previousPeriod])
    (compared : 2 ≤ (periodsOf rows).length) : previousPeriod ∈ periodsOf rows := by
  have perm := (nodup_periodsOf.subperm result.periodsOf_subset).perm_of_length_le
    (by rw [recent]; exact compared)
  rw [perm.mem_iff, recent]
  exact List.mem_cons_of_mem _ List.mem_cons_self

theorem mem_of_unbiased (result : IsComparisonResult selection table limit rows)
    {currentPeriod previousPeriod : Period}
    (recent : recentPeriods selection table = [currentPeriod, previousPeriod])
    (compared : previousPeriod ∈ periodsOf rows)
    (unbiased : (∀ group ∈ comparisonGroups selection table, group ∉ rows →
      group.period = previousPeriod) → ∀ group ∈ comparisonGroups selection table, group ∈ rows) :
    ∀ group ∈ comparisonGroups selection table, group ∈ rows := by
  have latest := recent ▸ pairwise_recentPeriods selection table
  have earlier : previousPeriod < currentPeriod :=
    (List.pairwise_cons.mp latest).1 previousPeriod (List.mem_singleton.mpr rfl)
  obtain ⟨row, inRows, rfl⟩ := List.mem_map.mp (mem_periodsOf.mp compared)
  refine unbiased fun group inGroups taken => ?_
  have le := Prod.Lex.monotone_fst _ _ (result.rank_le_of_notMem inRows inGroups taken)
  have listed := mem_periods_comparisonGroups.mp (Multiset.mem_map_of_mem _ inGroups)
  rw [recent, List.mem_cons, List.mem_singleton] at listed
  rcases listed with current | previous
  · exact absurd (current ▸ le) earlier.not_ge
  · exact previous

end IsComparisonResult

section Answer

variable [DecidableEq Shown] {mask : RowMask Period Entity Shown} {insightChangeThreshold : ℚ}
  {metric timeField : String} {dimension : Option String} {threshold : Option ℚ}

omit [LinearOrder Period] [DecidableEq Entity] in
theorem compareReturned_of_shown
    (shown : ¬ (2 ≤ (periodsOf (rows.map mask.apply)).length ∧ rows.any mask.hides)) :
    compareReturned mask insightChangeThreshold rows metric timeField dimension threshold =
      .ok (compare insightChangeThreshold (rows.map mask.apply) metric timeField dimension
        threshold) :=
  if_neg shown

omit [LinearOrder Period] [DecidableEq Entity] in
theorem mem_compareReturned_iff {outcome : Outcome Shown Shown} :
    outcome ∈ (compareReturned mask insightChangeThreshold rows metric timeField dimension
        threshold).toOption ↔
      ¬ (2 ≤ (periodsOf (rows.map mask.apply)).length ∧ rows.any mask.hides) ∧
        compare insightChangeThreshold (rows.map mask.apply) metric timeField dimension threshold =
          outcome := by
  by_cases hidden : 2 ≤ (periodsOf (rows.map mask.apply)).length ∧ rows.any mask.hides
  · simp [compareReturned, hidden, Except.toOption]
  · simp only [compareReturned_of_shown hidden, Except.toOption, hidden, not_false_eq_true,
      true_and, Option.mem_def, Option.some.injEq]

omit [LinearOrder Period] [DecidableEq Entity] in
theorem compares_iff :
    (∃ outcome ∈ (compareReturned mask insightChangeThreshold rows metric timeField dimension
        threshold).toOption, outcome.comparison.isSome) ↔
      2 ≤ (periodsOf (rows.map mask.apply)).length ∧ ¬ rows.any mask.hides := by
  simp only [mem_compareReturned_iff, not_and]
  constructor
  · rintro ⟨outcome, ⟨shown, rfl⟩, compared⟩
    have two := (isSome_comparison_compare _ _ _ _ _).mp compared
    exact ⟨two, shown two⟩
  · rintro ⟨two, shown⟩
    exact ⟨_, ⟨fun _ => shown, rfl⟩, (isSome_comparison_compare _ _ _ _ _).mpr two⟩

theorem apart_of_compared (result : IsComparisonResult selection table limit rows)
    {currentPeriod previousPeriod : Period}
    (recent : recentPeriods selection table = [currentPeriod, previousPeriod])
    (compared : 2 ≤ (periodsOf (rows.map mask.apply)).length) :
    mask.period currentPeriod ≠ mask.period previousPeriod := by
  intro same
  have shown : periodsOf (rows.map mask.apply) ⊆ [mask.period currentPeriod] := by
    intro period member
    obtain ⟨source, listed, rfl⟩ := List.mem_map.mp (periodsOf_apply_subset member)
    have isRecent := result.periodsOf_subset listed
    rw [recent, List.mem_cons, List.mem_singleton] at isRecent
    rcases isRecent with rfl | rfl
    · exact List.mem_singleton.mpr rfl
    · exact List.mem_singleton.mpr same.symm
  have le := (nodup_periodsOf.subperm shown).length_le
  rw [List.length_singleton] at le
  omega

omit [DecidableEq Shown] in
theorem value_eq_none_of_shown {period : Period} (shown : ¬ rows.any mask.hides)
    (complete : ∀ group ∈ comparisonGroups selection table, group ∈ rows)
    (present : (groupsOf selection table period).filterMap ComparisonRow.value ≠ 0) :
    mask.value = none := by
  obtain ⟨value, member⟩ := Multiset.exists_mem_of_ne_zero present
  obtain ⟨group, inGroups, isValue⟩ := (Multiset.mem_filterMap _ _).mp member
  cases masked : mask.value with
  | none => rfl
  | some nulls =>
      refine absurd (List.any_eq_true.mpr
        ⟨group, complete group (Multiset.mem_filter.mp inGroups).1, ?_⟩) shown
      simp [RowMask.hides, masked, isValue]

theorem reflects_of_fits (result : IsComparisonResult selection table limit rows)
    (fits : Fits selection table limit mask) :
    Reflects selection table rows
      (compareReturned mask insightChangeThreshold rows metric timeField dimension threshold) := by
  have many := length_recentPeriods selection table
  by_cases two : (recentPeriods selection table).length = 2
  · obtain ⟨currentPeriod, previousPeriod, recent⟩ := List.length_eq_two.mp two
    obtain ⟨ofCurrent, ofPrevious, within, plain, apart⟩ := fits currentPeriod previousPeriod recent
    have complete := result.coe_eq_of_le within
    have periods := result.periodsOf_eq complete
    have injective : Set.InjOn mask.period {period | period ∈ periodsOf rows} := by
      intro first inFirst second inSecond same
      simp only [periods, recent, Set.mem_ofPred_eq, List.mem_cons, List.not_mem_nil, or_false]
        at inFirst inSecond
      rcases inFirst with rfl | rfl <;> rcases inSecond with rfl | rfl
      · rfl
      · exact absurd same apart
      · exact absurd same.symm apart
      · rfl
    have shown : periodsOf (rows.map mask.apply) =
        [mask.period currentPeriod, mask.period previousPeriod] := by
      rw [periodsOf_apply injective, periods, recent]
      rfl
    have unhidden : ¬ rows.any mask.hides := by simp [RowMask.hides, plain]
    have mean {period : Period} (isRecent : period ∈ recentPeriods selection table)
        (present : (groupsOf selection table period).filterMap ComparisonRow.value ≠ 0) :
        IsMean (groupsOf selection table period)
          (meanValue (rowsOf (rows.map mask.apply) (mask.period period))) := by
      rw [rowsOf_apply fun row inRows same => injective
        (mem_periodsOf.mpr (List.mem_map_of_mem inRows)) (periods ▸ isRecent) same, meanValue_apply]
      refine isMean_meanValue ?_ present
      rw [groupsOf, ← complete, Multiset.filter_coe]
      rfl
    refine ⟨?_, ?_, ?_⟩
    · rw [compares_iff, shown]
      exact iff_of_true ⟨le_rfl, unhidden⟩ (by omega)
    · intro current previous same outcome answered finding member reports
      cases recent.symm.trans same
      obtain ⟨-, rfl⟩ := mem_compareReturned_iff.mp answered
      rw [compare, shown] at member
      obtain ⟨ofFinding, alsoOfFinding⟩ := values_of_mem_comparePeriods member reports
      exact ⟨_, _, ofFinding, alsoOfFinding, mean (by simp [recent]) ofCurrent,
        mean (by simp [recent]) ofPrevious⟩
    · intro _ _ _ group inGroups
      rwa [← complete, Multiset.mem_coe] at inGroups
  · have few : (periodsOf rows).length < 2 := by
      have le := (nodup_periodsOf.subperm result.periodsOf_subset).length_le
      omega
    refine ⟨?_, ?_, fun isTwo => absurd isTwo two⟩
    · have shown : (periodsOf (rows.map mask.apply)).length ≤ (periodsOf rows).length :=
        length_periodsOf_apply_le
      rw [compares_iff]
      omega
    · intro current previous recent
      exact absurd (by rw [recent]; rfl) two

theorem fits_of_reflects (result : IsComparisonResult selection table limit rows)
    (reflects : Reflects selection table rows
      (compareReturned mask insightChangeThreshold rows metric timeField dimension threshold)) :
    Fits selection table limit mask := by
  have many := length_recentPeriods selection table
  intro currentPeriod previousPeriod recent
  obtain ⟨compared, shown⟩ := compares_iff.mp (reflects.compares.mpr (by
    rw [recent, List.length_cons, List.length_singleton] at many
    omega))
  have complete := result.mem_of_unbiased recent
    (result.mem_periodsOf_of_compared recent (compared.trans length_periodsOf_apply_le))
    (reflects.unbiased (by rw [recent]; rfl) _)
  obtain ⟨finding, member, isChange⟩ := exists_metricChange insightChangeThreshold metric timeField
    dimension threshold compared
  obtain ⟨current, previous, -, -, ofCurrent, ofPrevious⟩ := reflects.means currentPeriod
    previousPeriod recent _ (mem_compareReturned_iff.mpr ⟨fun hidden => shown hidden.2, rfl⟩) finding
    member (isChange ▸ List.mem_cons_self)
  refine ⟨ofCurrent.1, ofPrevious.1, ?_, value_eq_none_of_shown shown complete ofCurrent.1,
    apart_of_compared result recent compared⟩
  have le : comparisonGroups selection table ≤ rows := (Multiset.le_iff_subset
    (nodup_keys_comparisonGroups selection table).of_map).mpr complete
  obtain ⟨sorted, -, -, rfl⟩ := result
  exact (Multiset.card_le_card le).trans (by
    rw [Multiset.coe_card]
    exact List.length_take_le _ _)

end Answer

/-- In every result of the comparison query the answer reflects the data exactly if the groups of
the two periods are within the limit, each period has a value, and the mask hides neither the
metric nor which period is which. -/
theorem reflects_iff [DecidableEq Shown] (result : IsComparisonResult selection table limit rows)
    (mask : RowMask Period Entity Shown) (insightChangeThreshold : ℚ) (metric timeField : String)
    (dimension : Option String) (threshold : Option ℚ) :
    Reflects selection table rows
        (compareReturned mask insightChangeThreshold rows metric timeField dimension threshold) ↔
      Fits selection table limit mask :=
  ⟨fits_of_reflects result, reflects_of_fits result⟩

end Reflection

/-! ## Two districts -/

section Districts

/-- Records of a period, a district and a metric. -/
def districtMetric : Selection (ℕ × String × ℚ) ℕ String where
  timeField record := some record.1
  metric record := some record.2.2
  dimension := some fun record => record.2.1

theorem recentPeriods_districts {table : Multiset (ℕ × String × ℚ)}
    (periods : (table.filterMap districtMetric.timeField).dedup = {2, 1}) :
    recentPeriods districtMetric table = [2, 1] := by
  have asList : ({2, 1} : Multiset ℕ) = (([2, 1] : List ℕ) : Multiset ℕ) := rfl
  rw [recentPeriods, periods, asList, Multiset.coe_sort, List.mergeSort_eq_self _ (by decide)]
  rfl

/-- One district in the last period, two in the period before. -/
def twoDistricts : Multiset (ℕ × String × ℚ) := {(2, "A", 4), (1, "A", 2), (1, "B", 0)}

def twoDistrictsRows : List (ComparisonRow ℕ String) :=
  [⟨2, some "A", some 4⟩, ⟨1, some "A", some 2⟩, ⟨1, some "B", some 0⟩]

theorem groups_twoDistricts :
    (twoDistrictsRows : Multiset (ComparisonRow ℕ String)) =
      comparisonGroups districtMetric twoDistricts := by
  rw [comparisonGroups, recentRecords, recentPeriods_districts (by decide +kernel)]
  decide +kernel

theorem twoDistricts_result (limit : Nat) :
    IsComparisonResult districtMetric twoDistricts limit (twoDistrictsRows.take limit) :=
  ⟨twoDistrictsRows, groups_twoDistricts, by decide +kernel, rfl⟩

def districtResource : ResourceContext where
  dataset := "iceberg.gold.gld_district_loans"
  fields := ["snapshot_date", "district", "loan_count"]
  classification := .confidential
  fieldClassifications := [⟨"iceberg.gold.gld_district_loans", "district", .restricted, none⟩]
  fieldLineage := [("period", "snapshot_date"), ("district", "district")]
  district := none
  parish := none

def districtDecision (decision : PolicyDecisionType) (maskedFields : List String) :
    PolicyDecision where
  decisionId := "d-1"
  subject := "analyst-1"
  action := "read"
  resource := districtResource.dataset
  decision := decision
  reasons := []
  matchedPolicies := ["confidential_data_policy"]
  maskedFields := maskedFields
  requiredPermissions := ["can_view_confidential_data"]
  approvalRequired := false
  evidence := .decided
    { roles := ["analyst"]
      purpose := none
      dataset := districtResource.dataset
      classification := districtResource.classification
      fields := districtResource.fields
      district := none
      parish := none }

def districtMask (decision : PolicyDecision) : RowMask ℕ String Cell :=
  .ofDecision districtResource decision "district" (fun day => .other "date" (toString day)) .text

/-- Within the limit, the means are those of the data, even with masked districts. -/
theorem twoDistricts_reflects :
    Reflects districtMetric twoDistricts (twoDistrictsRows.take 200)
      (compareReturned (districtMask (districtDecision .mask ["district"])) (1 / 5)
        (twoDistrictsRows.take 200) "loan_count" "snapshot_date" (some "district") none) := by
  refine (reflects_iff (twoDistricts_result 200) _ _ _ _ _ _).mpr ?_
  intro currentPeriod previousPeriod recent
  rw [recentPeriods_districts (by decide +kernel)] at recent
  cases recent
  rw [groupsOf, groupsOf, ← groups_twoDistricts]
  decide +kernel

/-- With a limit of two rows, the mean of the period before is 2, not 1. -/
theorem twoDistricts_not_reflects :
    IsComparisonResult districtMetric twoDistricts (rowLimit 2 1000) (twoDistrictsRows.take 2) ∧
      ¬ Reflects districtMetric twoDistricts (twoDistrictsRows.take 2)
        (compareReturned (districtMask (districtDecision .allow [])) (1 / 5)
          (twoDistrictsRows.take 2) "loan_count" "snapshot_date" (some "district") none) := by
  refine ⟨twoDistricts_result 2, fun reflects => ?_⟩
  rw [compareReturned_of_shown (by decide +kernel)] at reflects
  obtain ⟨current, previous, -, isPrevious, -, -, mean⟩ := reflects.means 2 1
    (recentPeriods_districts (by decide +kernel)) _ rfl _ List.mem_cons_self List.mem_cons_self
  rw [groupsOf, ← groups_twoDistricts] at mean
  obtain rfl := Option.some.inj isPrevious
  exact absurd mean (by decide +kernel)

end Districts

end PaymentsPlatform.AgentApi.InsightAgent
