import PaymentsPlatform.Library.Occurrences
import PaymentsPlatform.Lifecycle.PoisonPill

/-!
# The stage history

`stage_history` is meant to be the list of the distinct stages that the accepted events of a
correlation id have reached.  The state is extended one event at a time and only its last entry is
compared with, so the list is that of the changes of stage.
-/

namespace PaymentsPlatform.Lifecycle

open Occurrences (InOrder Returns changes)

/-- The stages of the deliveries that are not empty. -/
def nonEmptyStages (deliveries : List Delivery) : List String :=
  (deliveries.map fun delivery => statusText delivery.1.technicalStage).filter (· ≠ "")

/-- `stage_history` after the deliveries. -/
def KeyedState.stageHistory (keyed : KeyedState) : List Json :=
  (keyed.state.map LifecycleState.stageHistory).getD []

/-- The history lists each stage of an accepted event once, in the order of the first
occurrences. -/
def DistinctStages (deliveries : List Delivery) (keyed : KeyedState) : Prop :=
  ∃ stages : List String, keyed.stageHistory = stages.map .string ∧
    InOrder (nonEmptyStages (firsts [] deliveries)) stages

/-! ## The state of a run -/

theorem firsts_sublist (seen : List String) (deliveries : List Delivery) :
    (firsts seen deliveries).Sublist deliveries := by
  induction deliveries generalizing seen with
  | nil => exact List.Sublist.slnil
  | cons delivery rest ih =>
      rw [firsts]
      split
      next => exact (ih seen).cons delivery
      next => exact (ih _).cons_cons delivery

theorem state_of_run {runtime : Runtime} {deliveries : List Delivery} {keyed last : KeyedState}
    {records : List Record} (ran : run runtime keyed deliveries = .ok (last, records)) :
    last.state = finalState keyed.state (firsts keyed.seenEventIds deliveries) := by
  induction deliveries generalizing keyed records with
  | nil =>
      obtain ⟨rfl, -⟩ : keyed = last ∧ [] = records := by simpa [run] using ran
      rfl
  | cons delivery rest ih =>
      obtain ⟨event, now⟩ := delivery
      rw [run] at ran
      cases processed : processElement runtime event now keyed with
      | error raised => simp [processed] at ran
      | ok answer =>
          obtain ⟨next, emitted⟩ := answer
          simp only [processed] at ran
          cases later : run runtime next rest with
          | error raised => simp [later, Except.map] at ran
          | ok finished =>
              obtain ⟨reached, others⟩ := finished
              obtain ⟨rfl, -⟩ : reached = last ∧ emitted ++ others = records := by
                simpa [later, Except.map] using ran
              have onward := ih later
              by_cases seen : event.eventId ∈ keyed.seenEventIds
              · rw [processElement_seen seen] at processed
                obtain ⟨rfl, -⟩ : keyed = next ∧ [] = emitted := by simpa using processed
                rw [firsts, if_pos seen, onward]
              · rw [firsts, if_neg seen, onward, seenEventIds_processElement seen processed]
                rw [processElement, if_neg seen] at processed
                cases isText : event.technicalStatus with
                | string text =>
                    simp only [isText, lower, Except.ok.injEq, Prod.mk.injEq] at processed
                    rw [← processed.1]
                    simp only [finalState, List.foldl_cons, advance, isText, statusText]
                | _ => simp [isText, lower] at processed

theorem stageHistory_finalState (previous : Option LifecycleState) (deliveries : List Delivery) :
    ((finalState previous deliveries).map LifecycleState.stageHistory).getD [] =
      deliveries.foldl (fun history delivery => extendHistory history delivery.1.technicalStage)
        ((previous.map LifecycleState.stageHistory).getD []) := by
  induction deliveries generalizing previous with
  | nil => rfl
  | cons delivery rest ih =>
      exact ih (some (advance previous delivery))

/-! ## The history as the changes of stage -/

theorem extendHistory_empty (history : List Json) : extendHistory history (.string "") = history := by
  rw [extendHistory]
  simp [Json.truthy]

theorem extendHistory_nil {stage : String} (given : stage ≠ "") :
    extendHistory [] (.string stage) = [Json.string stage] := by
  simp [extendHistory, Json.truthy, given]

theorem extendHistory_append {stage : String} (given : stage ≠ "") (before : List String)
    (last : String) :
    extendHistory ((before ++ [last]).map .string) (.string stage) =
      (before ++ if last ≠ stage then [last, stage] else [last]).map .string := by
  have latest : ((before ++ [last]).map Json.string).getLastD .null = .string last := by simp
  rw [extendHistory, latest]
  by_cases same : last = stage <;> simp [Json.truthy, given, same]

theorem nonEmptyStages_cons_empty {delivery : Delivery} (rest : List Delivery)
    (empty : delivery.1.technicalStage = .string "") :
    nonEmptyStages (delivery :: rest) = nonEmptyStages rest := by
  simp [nonEmptyStages, empty, statusText]

theorem nonEmptyStages_cons {delivery : Delivery} (rest : List Delivery) {stage : String}
    (isStage : delivery.1.technicalStage = .string stage) (given : stage ≠ "") :
    nonEmptyStages (delivery :: rest) = stage :: nonEmptyStages rest := by
  simp [nonEmptyStages, isStage, statusText, given]

theorem foldl_extendHistory_append {deliveries : List Delivery}
    (texts : ∀ delivery ∈ deliveries, IsText delivery.1.technicalStage) (before : List String)
    (last : String) :
    deliveries.foldl (fun history delivery => extendHistory history delivery.1.technicalStage)
        ((before ++ [last]).map .string) =
      (before ++ (nonEmptyStages deliveries).destutter' (· ≠ ·) last).map .string := by
  induction deliveries generalizing before last with
  | nil => rfl
  | cons delivery rest ih =>
      have restTexts : ∀ delivery ∈ rest, IsText delivery.1.technicalStage :=
        fun other listed => texts other (List.mem_cons_of_mem _ listed)
      obtain ⟨stage, isStage⟩ := texts delivery List.mem_cons_self
      rw [List.foldl_cons, isStage]
      by_cases given : stage = ""
      · subst given
        rw [extendHistory_empty, ih restTexts,
          nonEmptyStages_cons_empty rest isStage]
      · rw [extendHistory_append given, nonEmptyStages_cons rest isStage given]
        by_cases same : last = stage
        · subst same
          rw [if_neg (fun different => different rfl), ih restTexts,
            List.destutter'_cons_neg (R := (· ≠ ·)) _ (fun different => different rfl)]
        · rw [if_pos same, List.destutter'_cons_pos _ same,
            List.append_cons before last [stage], ih restTexts, List.append_assoc,
            List.singleton_append]

theorem foldl_extendHistory {deliveries : List Delivery}
    (texts : ∀ delivery ∈ deliveries, IsText delivery.1.technicalStage) :
    deliveries.foldl (fun history delivery => extendHistory history delivery.1.technicalStage) [] =
      (changes (nonEmptyStages deliveries)).map .string := by
  induction deliveries with
  | nil => rfl
  | cons delivery rest ih =>
      have restTexts : ∀ delivery ∈ rest, IsText delivery.1.technicalStage :=
        fun other listed => texts other (List.mem_cons_of_mem _ listed)
      obtain ⟨stage, isStage⟩ := texts delivery List.mem_cons_self
      rw [List.foldl_cons, isStage]
      by_cases given : stage = ""
      · subst given
        rw [extendHistory_empty, ih restTexts,
          nonEmptyStages_cons_empty rest isStage]
      · rw [extendHistory_nil given, nonEmptyStages_cons rest isStage given]
        exact foldl_extendHistory_append restTexts [] stage

theorem stageHistory_of_run {runtime : Runtime} {deliveries : List Delivery} {keyed : KeyedState}
    {records : List Record} (accepted : run runtime .initial deliveries = .ok (keyed, records))
    (texts : ∀ delivery ∈ deliveries, IsText delivery.1.technicalStage) :
    keyed.stageHistory = (changes (nonEmptyStages (firsts [] deliveries))).map .string := by
  have firstTexts : ∀ delivery ∈ firsts [] deliveries, IsText delivery.1.technicalStage :=
    fun delivery listed => texts delivery ((firsts_sublist [] deliveries).subset listed)
  rw [KeyedState.stageHistory, state_of_run accepted, stageHistory_finalState]
  exact foldl_extendHistory firstTexts

/-! ## Whole runs -/

theorem distinctStages_of_never {runtime : Runtime} {deliveries : List Delivery}
    {keyed : KeyedState} {records : List Record}
    (accepted : run runtime .initial deliveries = .ok (keyed, records))
    (texts : ∀ delivery ∈ deliveries, IsText delivery.1.technicalStage)
    (never : ¬ Returns (nonEmptyStages (firsts [] deliveries))) :
    DistinctStages deliveries keyed :=
  ⟨_, stageHistory_of_run accepted texts, (Occurrences.inOrder_changes_iff _).mpr never⟩

theorem never_of_distinctStages {runtime : Runtime} {deliveries : List Delivery}
    {keyed : KeyedState} {records : List Record}
    (accepted : run runtime .initial deliveries = .ok (keyed, records))
    (texts : ∀ delivery ∈ deliveries, IsText delivery.1.technicalStage)
    (distinct : DistinctStages deliveries keyed) :
    ¬ Returns (nonEmptyStages (firsts [] deliveries)) := by
  obtain ⟨stages, listed, inOrder⟩ := distinct
  rw [stageHistory_of_run accepted texts] at listed
  have same : changes (nonEmptyStages (firsts [] deliveries)) = stages :=
    List.map_injective_iff.mpr (fun _ _ => Json.string.inj) listed
  apply (Occurrences.inOrder_changes_iff _).mp
  rw [same]
  exact inOrder

/-- The history lists the distinct stages exactly as long as no stage comes back after another. -/
theorem distinctStages_iff {runtime : Runtime} {deliveries : List Delivery} {keyed : KeyedState}
    {records : List Record} (accepted : run runtime .initial deliveries = .ok (keyed, records))
    (texts : ∀ delivery ∈ deliveries, IsText delivery.1.technicalStage) :
    DistinctStages deliveries keyed ↔ ¬ Returns (nonEmptyStages (firsts [] deliveries)) :=
  ⟨never_of_distinctStages accepted texts, distinctStages_of_never accepted texts⟩

/-! ## A retry loop -/

def stageDeliveries (stages : List String) : List Delivery :=
  stages.zipIdx.map fun (stage, index) => (sampleEvent ("e-" ++ toString index) stage "ok", "t")

theorem stageDeliveries_texts (stages : List String) :
    ∀ delivery ∈ stageDeliveries stages, delivery.1.Texts := by
  intro delivery listed
  obtain ⟨stage, -, rfl⟩ := List.mem_map.mp listed
  exact sampleEvent_texts _ _ _

theorem settledPayment_distinctStages :
    ∃ keyed records, run sampleRuntime .initial
        (stageDeliveries ["SUBMITTED", "SUBMITTED", "", "SETTLED"]) = .ok (keyed, records) ∧
      DistinctStages (stageDeliveries ["SUBMITTED", "SUBMITTED", "", "SETTLED"]) keyed := by
  refine ⟨_, _, run_eq sampleRuntime (stageDeliveries_texts _) .initial, ?_⟩
  apply (distinctStages_iff (run_eq sampleRuntime (stageDeliveries_texts _) .initial)
    fun delivery listed => (stageDeliveries_texts _ delivery listed).stage).mpr
  have stages : nonEmptyStages (firsts []
      (stageDeliveries ["SUBMITTED", "SUBMITTED", "", "SETTLED"])) =
        ["SUBMITTED", "SUBMITTED", "SETTLED"] := by decide +kernel
  rw [stages, Occurrences.returns_cons_self, Occurrences.returns_cons_cons (by decide)]
  rintro (later | again)
  · obtain ⟨value, other, -, found⟩ := later
    exact absurd found.length_le (by simp)
  · exact absurd again (by decide)

/-- After a rejection the payment is submitted again, and its history lists the stage twice. -/
theorem resubmittedPayment_not_distinctStages :
    ∃ keyed records, run sampleRuntime .initial
        (stageDeliveries ["SUBMITTED", "REJECTED", "SUBMITTED"]) = .ok (keyed, records) ∧
      ¬ DistinctStages (stageDeliveries ["SUBMITTED", "REJECTED", "SUBMITTED"]) keyed := by
  refine ⟨_, _, run_eq sampleRuntime (stageDeliveries_texts _) .initial, ?_⟩
  intro distinct
  apply never_of_distinctStages (run_eq sampleRuntime (stageDeliveries_texts _) .initial)
    (fun delivery listed => (stageDeliveries_texts _ delivery listed).stage) distinct
  have stages : nonEmptyStages (firsts []
      (stageDeliveries ["SUBMITTED", "REJECTED", "SUBMITTED"])) =
        ["SUBMITTED", "REJECTED", "SUBMITTED"] := by decide +kernel
  rw [stages]
  exact ⟨"SUBMITTED", "REJECTED", by decide, List.Sublist.refl _⟩

end PaymentsPlatform.Lifecycle
