import Mathlib.Data.List.Sort
import PaymentsPlatform.AgentApi.PeriodComparison

/-!
# Ranking movement

Each period is sorted with a key that takes the value zero for a missing one.  The rows come from
the query in the order of their values, and the sort is stable, so this shows only where a
negative value stands after a zero.
-/

namespace PaymentsPlatform.AgentApi.InsightAgent

open Bag

variable {Record Period Entity : Type}

/-! ## What the finding should say -/

section Ranking

/-- The ranks of the rows of a period, in the order of their values. -/
structure RanksFollow (rows : List (ComparisonRow Period Entity)) (ranks : List (Option Entity × Nat)) :
    Prop where
  entities : (ranks.map Prod.fst).Perm (rows.map ComparisonRow.entity)
  numbered : (ranks.map Prod.snd).Perm (List.range' 1 rows.length)
  greater : ∀ first ∈ rows, ∀ second ∈ rows, ∀ greater lesser, first.value = some greater →
    second.value = some lesser → lesser < greater → ∀ firstRank secondRank,
      (first.entity, firstRank) ∈ ranks → (second.entity, secondRank) ∈ ranks →
        firstRank < secondRank
  missing : ∀ first ∈ rows, ∀ second ∈ rows, first.value.isSome → second.value = none →
    ∀ firstRank secondRank, (first.entity, firstRank) ∈ ranks →
      (second.entity, secondRank) ∈ ranks → firstRank < secondRank

/-- Movements between two periods, in the order of the values of each. -/
structure MovementsFollow [DecidableEq Entity]
    (currentRows previousRows : List (ComparisonRow Period Entity))
    (movements : List (Movement Entity)) : Prop where
  current : RanksFollow currentRows
    (movements.map fun movement => (movement.entity, movement.currentRank))
  previous : RanksFollow previousRows (previousRanks previousRows).items
  reported : ∀ movement ∈ movements,
    movement.previousRank = (previousRanks previousRows).get? movement.entity
  change : ∀ movement ∈ movements, movement.entity ∈ previousRows.map ComparisonRow.entity →
    ∃ before, movement.previousRank = some before ∧
      movement.rankChange = some ((before : ℤ) - movement.currentRank)

/-- Some row has the value zero and some row a negative one. -/
def Mixed (rows : List (ComparisonRow Period Entity)) : Prop :=
  (∃ row ∈ rows, row.value = some 0) ∧ ∃ row ∈ rows, ∃ value, row.value = some value ∧ value < 0

variable {rows : List (ComparisonRow Period Entity)}

theorem sorted_ranked (rows : List (ComparisonRow Period Entity)) :
    (ranked rows).Pairwise fun before after => sortKey after ≤ sortKey before := by
  have total : Std.Total fun before after : ComparisonRow Period Entity =>
    sortKey after ≤ sortKey before := ⟨fun _ _ => le_total _ _⟩
  have transitive : IsTrans (ComparisonRow Period Entity) fun before after =>
    sortKey after ≤ sortKey before := ⟨fun _ _ _ first second => second.trans first⟩
  exact List.pairwise_insertionSort _ rows

theorem perm_ranked (rows : List (ComparisonRow Period Entity)) : (ranked rows).Perm rows :=
  List.perm_insertionSort _ rows

theorem sortKey_le {before after : ComparisonRow Period Entity}
    (ordered : nullsLast after.value ≤ nullsLast before.value)
    (unmixed : before.value = some 0 → ∀ value, after.value = some value → 0 ≤ value) :
    sortKey after ≤ sortKey before := by
  unfold sortKey
  cases ofAfter : after.value with
  | none => exact bot_le
  | some lesser =>
      cases ofBefore : before.value with
      | none =>
          rw [ofAfter, ofBefore] at ordered
          exact absurd ordered (WithBot.not_coe_le_bot lesser)
      | some greater =>
          rw [ofAfter, ofBefore] at ordered
          have le : lesser ≤ greater := WithBot.coe_le_coe.mp ordered
          by_cases zero : lesser = 0
          · simp [zero]
          · by_cases zeroBefore : greater = 0
            · subst zeroBefore
              exact absurd (le_antisymm le (unmixed ofBefore lesser ofAfter)) zero
            · simp only [zero, zeroBefore, if_false]
              exact WithBot.coe_le_coe.mpr le

theorem ranked_eq_self
    (ordered : rows.Pairwise fun before after => nullsLast after.value ≤ nullsLast before.value)
    (unmixed : ¬ Mixed rows) : ranked rows = rows := by
  apply List.Pairwise.insertionSort_eq
  refine ordered.imp_of_mem fun {before after} inRows alsoInRows le => sortKey_le le ?_
  intro zero value found
  by_contra negative
  exact unmixed ⟨⟨before, inRows, zero⟩, after, alsoInRows, value, found, not_le.mp negative⟩

/-- The ranks by position. -/
def ranksOf (ranking : List (ComparisonRow Period Entity)) : List (Option Entity × Nat) :=
  (ranking.zipIdx 1).map fun (row, rank) => (row.entity, rank)

theorem map_fst_ranksOf (ranking : List (ComparisonRow Period Entity)) :
    (ranksOf ranking).map Prod.fst = ranking.map ComparisonRow.entity := by
  rw [ranksOf, List.map_map]
  calc
    (ranking.zipIdx 1).map (Prod.fst ∘ fun (row, rank) => (row.entity, rank)) =
        ((ranking.zipIdx 1).map Prod.fst).map ComparisonRow.entity := by rw [List.map_map]; rfl
    _ = ranking.map ComparisonRow.entity := by rw [List.zipIdx_map_fst]

theorem map_snd_ranksOf (ranking : List (ComparisonRow Period Entity)) :
    (ranksOf ranking).map Prod.snd = List.range' 1 ranking.length := by
  rw [ranksOf, List.map_map, ← List.zipIdx_map_snd 1 ranking]
  rfl

theorem getElem?_of_mem_ranksOf {ranking : List (ComparisonRow Period Entity)}
    (distinct : (ranking.map ComparisonRow.entity).Nodup) {row : ComparisonRow Period Entity}
    (member : row ∈ ranking) {rank : Nat} (ranks : (row.entity, rank) ∈ ranksOf ranking) :
    1 ≤ rank ∧ ranking[rank - 1]? = some row := by
  obtain ⟨⟨other, position⟩, listed, same⟩ := List.mem_map.mp ranks
  obtain ⟨sameEntity, rfl⟩ := Prod.mk.inj same
  obtain ⟨positive, found⟩ := List.mk_mem_zipIdx_iff_le_and_getElem?_sub.mp listed
  obtain rfl := List.inj_on_of_nodup_map distinct (List.mem_of_getElem? found) member sameEntity
  exact ⟨positive, found⟩

theorem rank_lt {ranking : List (ComparisonRow Period Entity)}
    (distinct : (ranking.map ComparisonRow.entity).Nodup)
    {first second : ComparisonRow Period Entity} (inRanking : first ∈ ranking)
    (alsoInRanking : second ∈ ranking)
    (ordered : ranking.Pairwise fun before after => nullsLast after.value ≤ nullsLast before.value)
    (greater : nullsLast second.value < nullsLast first.value) {firstRank secondRank : Nat}
    (ranks : (first.entity, firstRank) ∈ ranksOf ranking)
    (alsoRanks : (second.entity, secondRank) ∈ ranksOf ranking) : firstRank < secondRank := by
  obtain ⟨positive, found⟩ := getElem?_of_mem_ranksOf distinct inRanking ranks
  obtain ⟨alsoPositive, alsoFound⟩ := getElem?_of_mem_ranksOf distinct alsoInRanking alsoRanks
  obtain ⟨bound, rfl⟩ := List.getElem?_eq_some_iff.mp found
  obtain ⟨alsoBound, rfl⟩ := List.getElem?_eq_some_iff.mp alsoFound
  by_contra notLess
  rcases Nat.lt_or_eq_of_le (not_lt.mp notLess) with later | same
  · exact greater.not_ge
      (List.pairwise_iff_getElem.mp ordered _ _ alsoBound bound (by omega))
  · subst same
    exact lt_irrefl _ greater

/-- The ranks that the key gives follow the values exactly if zero and negative values do not
mix. -/
theorem ranksFollow_iff (distinct : (rows.map ComparisonRow.entity).Nodup)
    (ordered : rows.Pairwise fun before after => nullsLast after.value ≤ nullsLast before.value)
    {ranks : List (Option Entity × Nat)} (perm : ranks.Perm (ranksOf (ranked rows))) :
    RanksFollow rows ranks ↔ ¬ Mixed rows := by
  constructor
  · rintro follow ⟨⟨zero, inRows, isZero⟩, negative, alsoInRows, value, isNegative, below⟩
    have distinctRanked : ((ranked rows).map ComparisonRow.entity).Nodup :=
      ((perm_ranked rows).map ComparisonRow.entity).nodup_iff.mpr distinct
    have rankedRow (row : ComparisonRow Period Entity) (member : row ∈ rows) :
        ∃ rank, (row.entity, rank) ∈ ranks := by
      have named : row.entity ∈ ranks.map Prod.fst :=
        follow.entities.mem_iff.mpr (List.mem_map_of_mem member)
      obtain ⟨⟨_, rank⟩, listed, rfl⟩ := List.mem_map.mp named
      exact ⟨rank, listed⟩
    obtain ⟨zeroRank, zeroListed⟩ := rankedRow zero inRows
    obtain ⟨negativeRank, negativeListed⟩ := rankedRow negative alsoInRows
    have less := follow.greater zero inRows negative alsoInRows 0 value isZero isNegative below
      zeroRank negativeRank zeroListed negativeListed
    obtain ⟨positive, found⟩ := getElem?_of_mem_ranksOf distinctRanked
      ((perm_ranked rows).mem_iff.mpr inRows) (perm.mem_iff.mp zeroListed)
    obtain ⟨-, alsoFound⟩ := getElem?_of_mem_ranksOf distinctRanked
      ((perm_ranked rows).mem_iff.mpr alsoInRows) (perm.mem_iff.mp negativeListed)
    obtain ⟨bound, rfl⟩ := List.getElem?_eq_some_iff.mp found
    obtain ⟨alsoBound, rfl⟩ := List.getElem?_eq_some_iff.mp alsoFound
    have sorted := List.pairwise_iff_getElem.mp (sorted_ranked rows) _ _ bound alsoBound (by omega)
    simp only [sortKey, isZero, isNegative, if_true, below.ne, if_false] at sorted
    exact WithBot.not_coe_le_bot value sorted
  · intro unmixed
    rw [ranked_eq_self ordered unmixed] at perm
    constructor
    · exact (perm.map Prod.fst).trans (map_fst_ranksOf rows ▸ List.Perm.refl _)
    · exact (perm.map Prod.snd).trans (map_snd_ranksOf rows ▸ List.Perm.refl _)
    · intro first inRows second alsoInRows greater lesser isGreater isLesser less firstRank
        secondRank ofFirst ofSecond
      refine rank_lt distinct inRows alsoInRows ordered ?_ (perm.mem_iff.mp ofFirst)
        (perm.mem_iff.mp ofSecond)
      rw [isGreater, isLesser]
      exact WithBot.coe_lt_coe.mpr less
    · intro first inRows second alsoInRows known missing firstRank secondRank ofFirst ofSecond
      refine rank_lt distinct inRows alsoInRows ordered ?_ (perm.mem_iff.mp ofFirst)
        (perm.mem_iff.mp ofSecond)
      obtain ⟨value, isValue⟩ := Option.isSome_iff_exists.mp known
      rw [isValue, missing]
      exact WithBot.bot_lt_coe value

variable [DecidableEq Entity] {currentRows previousRows : List (ComparisonRow Period Entity)}

theorem perm_items_previousRanks (distinct : (rows.map ComparisonRow.entity).Nodup) :
    (previousRanks rows).items.Perm (ranksOf (ranked rows)) := by
  have keys : ((ranksOf (ranked rows)).map Prod.fst).Nodup := by
    rw [map_fst_ranksOf]
    exact ((perm_ranked rows).map ComparisonRow.entity).nodup_iff.mpr distinct
  refine (List.perm_ext_iff_of_nodup (previousRanks rows).distinct.of_map keys.of_map).mpr ?_
  rintro ⟨entity, rank⟩
  rw [Dict.mem_items]
  exact Dict.get?_ofList_of_nodup keys

theorem ranksOf_movementsOf (currentRows previousRows : List (ComparisonRow Period Entity)) :
    (movementsOf currentRows previousRows).map (fun movement =>
      (movement.entity, movement.currentRank)) = ranksOf (ranked currentRows) := by
  rw [movementsOf, ranksOf, List.map_map]
  rfl

theorem movementsFollow_iff (currentDistinct : (currentRows.map ComparisonRow.entity).Nodup)
    (currentOrdered : currentRows.Pairwise fun before after =>
      nullsLast after.value ≤ nullsLast before.value)
    (previousDistinct : (previousRows.map ComparisonRow.entity).Nodup)
    (previousOrdered : previousRows.Pairwise fun before after =>
      nullsLast after.value ≤ nullsLast before.value) :
    MovementsFollow currentRows previousRows (movementsOf currentRows previousRows) ↔
      ¬ Mixed currentRows ∧ ¬ Mixed previousRows := by
  have ofCurrent := ranksFollow_iff currentDistinct currentOrdered
    (List.Perm.of_eq (ranksOf_movementsOf currentRows previousRows))
  have ofPrevious := ranksFollow_iff previousDistinct previousOrdered
    (perm_items_previousRanks previousDistinct)
  constructor
  · intro follow
    exact ⟨ofCurrent.mp follow.current, ofPrevious.mp follow.previous⟩
  · rintro ⟨current, previous⟩
    refine ⟨ofCurrent.mpr current, ofPrevious.mpr previous, ?_, ?_⟩
    · intro movement member
      obtain ⟨entry, -, rfl⟩ := List.mem_map.mp member
      rfl
    · intro movement member present
      obtain ⟨⟨row, rank⟩, -, rfl⟩ := List.mem_map.mp member
      have known : ((previousRanks previousRows).get? row.entity).isSome := by
        refine Dict.isSome_get?_ofList.mpr ?_
        have listed : row.entity ∈ (ranksOf (ranked previousRows)).map Prod.fst := by
          rw [map_fst_ranksOf]
          exact ((perm_ranked previousRows).map ComparisonRow.entity).mem_iff.mpr present
        exact listed
      obtain ⟨before, found⟩ := Option.isSome_iff_exists.mp known
      exact ⟨before, found, by simp only [found, Option.map_some]⟩

end Ranking

/-! ## The finding -/

section Finding

variable [LinearOrder Period] [DecidableEq Entity] {selection : Selection Record Period Entity}
  {table : Multiset Record} {limit : Nat} {rows : List (ComparisonRow Period Entity)}

/-- Every ranking movement of the outcome follows the values of the compared periods. -/
def RankingFollows (rows : List (ComparisonRow Period Entity)) (outcome : Outcome Period Entity) :
    Prop :=
  ∀ finding ∈ outcome.findings, ∀ movements, finding.details = .movements movements →
    ∀ comparison, outcome.comparison = some comparison →
      MovementsFollow (rowsOf rows comparison.currentPeriod)
        (rowsOf rows comparison.comparisonPeriod) movements

theorem rankingFollows_comparePeriods (insightChangeThreshold : ℚ)
    (rows : List (ComparisonRow Period Entity)) (metric timeField dimension : String)
    (threshold : Option ℚ) (currentPeriod previousPeriod : Period) :
    RankingFollows rows (comparePeriods insightChangeThreshold rows metric timeField
        (some dimension) threshold currentPeriod previousPeriod) ↔
      MovementsFollow (rowsOf rows currentPeriod) (rowsOf rows previousPeriod)
        (movementsOf (rowsOf rows currentPeriod) (rowsOf rows previousPeriod)) := by
  constructor
  · intro follows
    exact follows _ (List.mem_append_right _ (List.mem_singleton.mpr rfl)) _ rfl _ rfl
  · intro follow finding member movements isMovements comparison compared
    obtain rfl := Option.some.inj compared
    simp only [comparePeriods, List.mem_append, List.mem_ite_nil_right, List.mem_singleton] at member
    rcases member with (rfl | ⟨-, rfl⟩) | ⟨-, rfl⟩
    · cases isMovements
    · cases isMovements
    · cases isMovements
      exact follow

/-- In every result of the comparison query the ranking movement follows the values exactly if
neither period has both a zero and a negative value. -/
theorem rankingFollows_iff (result : IsComparisonResult selection table limit rows)
    (insightChangeThreshold : ℚ) (metric timeField dimension : String) (threshold : Option ℚ) :
    RankingFollows rows (compare insightChangeThreshold rows metric timeField (some dimension)
        threshold) ↔
      ∀ currentPeriod previousPeriod rest,
        periodsOf rows = currentPeriod :: previousPeriod :: rest →
          ¬ Mixed (rowsOf rows currentPeriod) ∧ ¬ Mixed (rowsOf rows previousPeriod) := by
  have ofPeriods (currentPeriod previousPeriod : Period) :
      RankingFollows rows (comparePeriods insightChangeThreshold rows metric timeField
        (some dimension) threshold currentPeriod previousPeriod) ↔
        ¬ Mixed (rowsOf rows currentPeriod) ∧ ¬ Mixed (rowsOf rows previousPeriod) :=
    (rankingFollows_comparePeriods _ _ _ _ _ _ _ _).trans
      (movementsFollow_iff (result.nodup_entities currentPeriod)
        (result.pairwise_value currentPeriod) (result.nodup_entities previousPeriod)
        (result.pairwise_value previousPeriod))
  unfold compare
  split
  next currentPeriod previousPeriod rest periods =>
    rw [ofPeriods]
    constructor
    · intro unmixed current previous others same
      cases periods.symm.trans same
      exact unmixed
    · intro unmixed
      exact unmixed currentPeriod previousPeriod rest periods
  next single =>
    constructor
    · intro _ current previous others same
      exact absurd same (single current previous others)
    · intro _ finding _ movements _ comparison compared
      cases compared

end Finding

/-! ## Zero loans -/

section Districts

theorem twoDistricts_rankingFollows :
    RankingFollows (twoDistrictsRows.take 200)
      (compare (1 / 5) (twoDistrictsRows.take 200) "loan_count" "snapshot_date" (some "district")
        none) := by
  refine (rankingFollows_iff (twoDistricts_result 200) _ _ _ _ _).mpr ?_
  intro currentPeriod previousPeriod rest periods
  cases (by decide +kernel : periodsOf (twoDistrictsRows.take 200) = [2, 1]).symm.trans periods
  constructor
  · rintro ⟨⟨row, member, zero⟩, -⟩
    exact absurd zero ((by decide +kernel : ∀ row ∈ rowsOf (twoDistrictsRows.take 200) 2,
      row.value ≠ some 0) row member)
  · rintro ⟨-, row, member, value, isValue, negative⟩
    have positive := (by decide +kernel : ∀ row ∈ rowsOf (twoDistrictsRows.take 200) 1,
      row.value = some 2 ∨ row.value = some 0) row member
    rcases positive with two | zero
    · cases isValue.symm.trans two
      exact absurd negative (by decide +kernel)
    · cases isValue.symm.trans zero
      exact absurd negative (lt_irrefl _)

/-- A district without change beside one that lost. -/
def losses : Multiset (ℕ × String × ℚ) := {(2, "A", 0), (2, "B", -1), (1, "A", 1)}

def lossesRows : List (ComparisonRow ℕ String) :=
  [⟨2, some "A", some 0⟩, ⟨2, some "B", some (-1)⟩, ⟨1, some "A", some 1⟩]

/-- The value zero is ranked after a negative one. -/
theorem losses_not_rankingFollows :
    IsComparisonResult districtMetric losses 200 lossesRows ∧
      ¬ RankingFollows lossesRows
        (compare (1 / 5) lossesRows "loan_count" "snapshot_date" (some "district") none) := by
  constructor
  · refine ⟨lossesRows, ?_, by decide +kernel, rfl⟩
    rw [comparisonGroups, recentRecords, recentPeriods_districts (by decide +kernel)]
    decide +kernel
  · intro follows
    have follow := follows _ (List.mem_append_right _ (List.mem_singleton.mpr rfl)) _ rfl _ rfl
    have less := follow.current.greater ⟨2, some "A", some 0⟩ (by decide +kernel)
      ⟨2, some "B", some (-1)⟩ (by decide +kernel) 0 (-1) rfl rfl (by decide +kernel) 2 1
      (by decide +kernel) (by decide +kernel)
    exact absurd less (by decide)

end Districts

end PaymentsPlatform.AgentApi.InsightAgent
