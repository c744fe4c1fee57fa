import PaymentsPlatform.Mdm.Identities

/-!
# Runs of the publisher

`execute_publish` of `services/mdm-publisher/mdm_publisher.py`.  A record whose delivery is reported
to have failed may be in its topic nonetheless, so a repeated run publishes records again.
-/

namespace PaymentsPlatform.Mdm

open PaymentsPlatform.Library.Fallible

/-- What becomes of a record that `produce` has taken. -/
structure Delivery where
  error : Option String
  isWritten : Bool
  acknowledged : error = none → isWritten = true

/-- A call of `execute_publish`: what it reads, what `kafka_security_config` answers, what becomes of
the records, and what `produce` raises once the deliveries are at their end. -/
structure Run where
  contracts : Contracts
  authority : String
  mdmKafkaPublishEnabled : Option String
  kafkaBootstrapServers : Option String
  kafkaSecurityConfig : Except Raised Unit
  deliveries : List Delivery
  refused : Raised

/-- What the topics receive of a plan. -/
def Run.written (run : Run) (plan : List Item) : List Item :=
  ((plan.zip run.deliveries).filter (·.2.isWritten)).map Prod.fst

/-- `execute_publish`, and what the topics receive. -/
def Run.executePublish (runtime : Runtime) (run : Run) : Except Raised Nat × List Item :=
  if (run.mdmKafkaPublishEnabled.getD "false").toLower ≠ "true" then
    (.error ⟨"RuntimeError", "MDM Kafka publishing is disabled"⟩, [])
  else if run.kafkaBootstrapServers ∈ [none, some ""] then
    (.error ⟨"RuntimeError", "KAFKA_BOOTSTRAP_SERVERS is required"⟩, [])
  else
    match run.kafkaSecurityConfig >>= fun _ =>
      buildPublishPlan runtime run.contracts run.authority with
    | .error raised => (.error raised, [])
    | .ok plan =>
        let answer : Except Raised Nat :=
          if run.deliveries.length < plan.length then .error run.refused
          else
            match (run.deliveries.take plan.length).findSome? Delivery.error with
            | some error => .error ⟨"RuntimeError", error⟩
            | none => .ok plan.length
        (answer, run.written plan)

/-- The records of the topics after a sequence of runs. -/
def topicsAfter (runtime : Runtime) (runs : List Run) : List Item :=
  runs.flatMap fun run => (run.executePublish runtime).2

/-- A row of a file that is registered for the authority, under its key, for a topic whose contract
names that authority. -/
structure Grounded (runtime : Runtime) (contracts : Contracts) (authority : String) (item : Item) :
    Prop where
  permitted : contracts.policies.lookup item.topic = some authority
  registered : ∃ spec ∈ contracts.registry, spec.authority = authority ∧ spec.topic = item.topic ∧
    ∃ rows, contracts.loadJson spec.file = .ok rows ∧ item.record ∈ rows ∧
      stableKey runtime spec item.record = .ok item.key

section Runs

variable {runtime : Runtime} {contracts : Contracts} {authority : String} {plan : List Item}
  {run : Run}

theorem grounded_of_mem_plan (planned : buildPublishPlan runtime contracts authority = .ok plan)
    {item : Item} (listed : item ∈ plan) : Grounded runtime contracts authority item := by
  obtain ⟨plans, isPlans, flattened⟩ := bind_ok planned
  cases flattened
  obtain ⟨items, isItems, isItem⟩ := List.mem_flatten.mp listed
  obtain ⟨spec, registered, isSpec⟩ := exists_of_mem_mapM isPlans isItems
  obtain ⟨topic, key, permitted, own, rows⟩ := planSpec_item isSpec item isItem
  exact ⟨topic ▸ permitted, spec, registered, own, topic.symm, rows.imp fun _ => .imp_right (⟨·, key⟩)⟩

theorem written_eq (run : Run) (enough : plan.length ≤ run.deliveries.length)
    (free : (run.deliveries.take plan.length).findSome? Delivery.error = none) :
    run.written plan = plan := by
  have whole : (plan.zip run.deliveries).filter (·.2.isWritten) = plan.zip run.deliveries := by
    apply List.filter_eq_self.mpr
    intro pair listed
    rw [List.zip_eq_zip_take_min, Nat.min_eq_left enough] at listed
    exact pair.2.acknowledged (List.findSome?_eq_none_iff.mp free _ (List.of_mem_zip listed).2)
  rw [Run.written, whole]
  exact List.map_fst_zip enough

theorem executePublish_cases (runtime : Runtime) (run : Run) :
    (∃ raised, run.executePublish runtime = (.error raised, [])) ∨
      ∃ plan answer, buildPublishPlan runtime run.contracts run.authority = .ok plan ∧
        run.executePublish runtime = (answer, run.written plan) ∧
        ∀ count, answer = .ok count → count = plan.length ∧ run.written plan = plan := by
  unfold Run.executePublish
  split
  next => exact .inl ⟨_, rfl⟩
  next =>
    split
    next => exact .inl ⟨_, rfl⟩
    next =>
      split
      next raised _ => exact .inl ⟨raised, rfl⟩
      next plan planned =>
        obtain ⟨_, -, planned⟩ := bind_ok planned
        refine .inr ⟨plan, _, planned, rfl, fun count answered => ?_⟩
        split at answered
        next => cases answered
        next enough =>
          split at answered
          next => cases answered
          next free =>
            cases answered
            exact ⟨rfl, written_eq run (Nat.le_of_not_lt enough) free⟩

theorem exists_plan_of_published {item : Item}
    (published : item ∈ (run.executePublish runtime).2) :
    ∃ plan, buildPublishPlan runtime run.contracts run.authority = .ok plan ∧ item ∈ plan := by
  rcases executePublish_cases runtime run with ⟨raised, nothing⟩ | ⟨plan, answer, planned, ran, -⟩
  · rw [nothing] at published
    cases published
  · rw [ran] at published
    obtain ⟨⟨first, delivery⟩, kept, rfl⟩ := List.mem_map.mp published
    exact ⟨plan, planned, (List.of_mem_zip (List.mem_of_mem_filter kept)).1⟩

/-- Whatever stands in a topic after any runs of any authorities was put there by a run of the
authority that the contract names for the topic, and is a row of a file registered for it. -/
theorem topics_grounded (runtime : Runtime) (runs : List Run) :
    ∀ item ∈ topicsAfter runtime runs,
      ∃ run ∈ runs, item ∈ (run.executePublish runtime).2 ∧
        Grounded runtime run.contracts run.authority item := by
  intro item listed
  obtain ⟨run, isRun, published⟩ := List.mem_flatMap.mp listed
  obtain ⟨plan, planned, isPlanned⟩ := exists_plan_of_published published
  exact ⟨run, isRun, published, grounded_of_mem_plan planned isPlanned⟩

/-! ## Convergence -/

theorem compacted_append {earlier : List Item} (again : earlier ⊆ plan) :
    compacted (earlier ++ plan) = compacted plan := by
  induction earlier with
  | nil => rfl
  | cons item rest ih =>
      obtain ⟨isPlanned, rest⟩ := List.cons_subset.mp again
      rw [List.cons_append, compacted, if_pos, ih rest]
      exact List.any_eq_true.mpr ⟨item, List.mem_append_right _ isPlanned, by simp⟩

theorem filter_compacted (condition : String → Bool) (items : List Item) :
    (compacted items).filter (condition ·.topic) = compacted (items.filter (condition ·.topic)) := by
  induction items with
  | nil => rfl
  | cons item rest ih =>
      cases holds : condition item.topic with
      | false =>
          rw [List.filter_cons_of_neg (by simp [holds]), ← ih, compacted]
          split
          next => rfl
          next => exact List.filter_cons_of_neg (by simp [holds])
      | true =>
          have replaced (later : Item) : (decide (later.topic = item.topic ∧ later.key = item.key) &&
              condition later.topic) = decide (later.topic = item.topic ∧ later.key = item.key) := by
            by_cases same : later.topic = item.topic <;> simp [same, holds]
          rw [List.filter_cons_of_pos (by simp [holds]), compacted, compacted, List.any_filter]
          simp only [Bool.and_comm (condition _), replaced]
          split
          next => exact ih
          next => rw [List.filter_cons_of_pos (by simp [holds]), ih]

/-- The topics that belong to an authority. -/
def Contracts.owns (contracts : Contracts) (authority topic : String) : Bool :=
  contracts.policies.lookup topic = some authority

/-- While contracts and files stay the same: however often an authority's runs have been cut short
before, once one has ended well its topics compact to the plan of that run, and the runs of other
authorities leave them so. -/
theorem publication_converges (runtime : Runtime) (earlier later : List Run) (last : Run)
    (count : Nat) (same : ∀ run ∈ earlier ++ later, run.contracts = last.contracts)
    (others : ∀ run ∈ later, run.authority ≠ last.authority)
    (succeeds : (last.executePublish runtime).1 = .ok count) :
    ∃ plan, buildPublishPlan runtime last.contracts last.authority = .ok plan ∧
      plan.length = count ∧
      (compacted (topicsAfter runtime (earlier ++ last :: later))).filter
        (last.contracts.owns last.authority ·.topic) = compacted plan := by
  rcases executePublish_cases runtime last with
    ⟨raised, failed⟩ | ⟨plan, answer, planned, ran, succeeded⟩
  · rw [failed] at succeeds
    cases succeeds
  · rw [ran] at succeeds
    obtain ⟨isCount, whole⟩ := succeeded count succeeds
    refine ⟨plan, planned, isCount.symm, ?_⟩
    have owned {run : Run} (sameContracts : run.contracts = last.contracts) {item : Item}
        (published : item ∈ (run.executePublish runtime).2)
        (owns : last.contracts.owns last.authority item.topic = true) :
        run.authority = last.authority ∧ item ∈ plan := by
      obtain ⟨other, plannedOther, listed⟩ := exists_plan_of_published published
      have permitted := (grounded_of_mem_plan plannedOther listed).permitted
      rw [sameContracts, of_decide_eq_true owns] at permitted
      have sameAuthority := (Option.some.inj permitted).symm
      rw [sameContracts, sameAuthority, planned] at plannedOther
      cases plannedOther
      exact ⟨sameAuthority, listed⟩
    have kept : plan.filter (last.contracts.owns last.authority ·.topic) = plan :=
      List.filter_eq_self.mpr fun item listed =>
        decide_eq_true (grounded_of_mem_plan planned listed).permitted
    have untouched :
        (topicsAfter runtime later).filter (last.contracts.owns last.authority ·.topic) = [] := by
      apply List.filter_eq_nil_iff.mpr
      intro item listed owns
      obtain ⟨run, isRun, published⟩ := List.mem_flatMap.mp listed
      exact others run isRun (owned (same run (List.mem_append_right _ isRun)) published owns).1
    rw [filter_compacted, topicsAfter, List.flatMap_append, List.flatMap_cons, ran, whole,
      List.filter_append, List.filter_append, kept, ← topicsAfter, ← topicsAfter, untouched,
      List.append_nil]
    apply compacted_append
    intro item listed
    obtain ⟨listed, owns⟩ := List.mem_filter.mp listed
    obtain ⟨run, isRun, published⟩ := List.mem_flatMap.mp listed
    exact (owned (same run (List.mem_append_left _ isRun)) published owns).2

end Runs

def acknowledged : Delivery := ⟨none, true, fun _ => rfl⟩

/-- A run that publishes `twoRecords`. -/
def twoRecordsRun (second : Delivery) : Run where
  contracts := twoRecords
  authority := crosswalkSpec.authority
  mdmKafkaPublishEnabled := some "true"
  kafkaBootstrapServers := some "broker:9092"
  kafkaSecurityConfig := .ok ()
  deliveries := [acknowledged, second]
  refused := ⟨"BufferError", "Local: Queue full"⟩

theorem buildPublishPlan_twoRecords :
    buildPublishPlan hashingRuntime twoRecords crosswalkSpec.authority = .ok twoItems := by
  rw [buildPublishPlan, show twoRecords.registry = [crosswalkSpec] from rfl, List.mapM_cons,
    planSpec_twoRecords]
  rfl

theorem executePublish_twoRecords :
    (twoRecordsRun acknowledged).executePublish hashingRuntime = (.ok 2, twoItems) := by
  have enabled : "true".toLower = "true" := by decide +kernel
  simp only [Run.executePublish, twoRecordsRun, Option.getD_some, enabled,
    buildPublishPlan_twoRecords, bind, Except.bind]
  rfl

/-- The first of the two records. -/
def firstItem : Item :=
  ⟨crosswalkSpec.topic, "beneficiary|pdmis|BEN-0001", crosswalkRow ("pdmis", "BEN-0001")⟩

theorem twoRecords_grounded :
    ∃ run, run ∈ [twoRecordsRun acknowledged] ∧
      firstItem ∈ (run.executePublish hashingRuntime).2 ∧
      Grounded hashingRuntime run.contracts run.authority firstItem := by
  apply topics_grounded hashingRuntime [twoRecordsRun acknowledged]
  rw [topicsAfter, List.flatMap_singleton, executePublish_twoRecords]
  exact List.mem_cons_self

theorem twoRecords_converge :
    (compacted (topicsAfter hashingRuntime
      [twoRecordsRun ⟨some "timed out", false, nofun⟩, twoRecordsRun acknowledged])).filter
        (twoRecords.owns crosswalkSpec.authority ·.topic) = compacted twoItems := by
  obtain ⟨plan, planned, -, converges⟩ := publication_converges hashingRuntime
    [twoRecordsRun ⟨some "timed out", false, nofun⟩] [] (twoRecordsRun acknowledged) 2
    (fun run listed => List.mem_singleton.mp listed ▸ rfl) nofun
    (congrArg Prod.fst executePublish_twoRecords)
  cases buildPublishPlan_twoRecords.symm.trans planned
  exact converges

end PaymentsPlatform.Mdm
