import PaymentsPlatform.AgentApi.IdentityAuthority
import PaymentsPlatform.AgentApi.Publication

/-!
# What publication registers

The validation goes through the last source of each id, and the publication through the first.
It registers only approved datasets exactly where every source would have passed, and where no
dataset lies outside the schema of the policy, which the validation does not compare
(`publication_safe_iff`).
-/

namespace PaymentsPlatform.AgentApi

open Effects Effect
open Library.Fallible

/-- The fields that charts and filters use under the ids that name the dataset. -/
def fieldsOn (dashboard : DashboardSpec) (dataset : String) : List String :=
  (dashboard.visualizations.filter (·.dataSource.dataset = dataset)).flatMap
    fun visual => fieldsOf dashboard visual.dataSource.id

/-- The registry knows the dataset and the fields, and none of them is restricted. -/
def Registry.Unrestricted (registry : Registry) (dataset : String) (fields : List String) : Prop :=
  ∃ resource, registry.resolveResource dataset fields [] none none = .ok resource ∧
    resource.classification ≠ .restricted ∧
    ∀ field ∈ resource.fieldClassifications, field.classification ≠ .restricted

/-- A dataset that may be registered for the dashboard. -/
structure Publishable (registry : Registry) (dashboard : DashboardSpec) (dataset : String) :
    Prop where
  approved : BiPolicy.isBiApproved dataset = true
  unrestricted : registry.Unrestricted dataset (fieldsOn dashboard dataset)

/-- The events of a publication. -/
def SupersetAdapter.eventsOf (adapter : SupersetAdapter) (session : Session)
    (dashboard : DashboardSpec) (authority : Authority) : List SupersetEvent :=
  ((adapter.publish session dashboard authority).final {}).events

/-- Only datasets that may be registered are registered, and nothing is written where some
visualization has another dataset. -/
def PublicationSafe (adapter : SupersetAdapter) (dashboard : DashboardSpec)
    (authority : Authority) : Prop :=
  ∀ session,
    (∀ source, .upsertDataset source ∈ adapter.eventsOf session dashboard authority →
      Publishable adapter.classificationResolver dashboard source.dataset) ∧
    ((∃ visual ∈ dashboard.visualizations,
        ¬ Publishable adapter.classificationResolver dashboard visual.dataSource.dataset) →
      ∀ method path payload,
        .write method path payload ∉ adapter.eventsOf session dashboard authority)

/-- A later visualization has another source under the same id. -/
def DashboardSpec.Replaced (dashboard : DashboardSpec) (source : DataSourceSpec) : Prop :=
  (sources dashboard).get? source.id ≠ some source

namespace SupersetAdapter

variable (adapter : SupersetAdapter)

/-- The checks before the first request to Superset. -/
structure Admits (dashboard : DashboardSpec) (authority : Authority) : Prop where
  authorised : requirePublicationAuthority authority = .ok ()
  governed : adapter.validatePublicationGovernance dashboard = .ok ()
  identified : adapter.requirePublisherIdentity = .ok ()

/-- The dataset lies in the schema of the policy, and where its source is replaced it passes the
checks of the validation all the same. -/
def Covers (dashboard : DashboardSpec) (source : DataSourceSpec) : Prop :=
  (splitDots (BiPolicy.normalizeDataset source.dataset)).take 2 =
      [BiPolicy.biCatalog, BiPolicy.biSchema] ∧
    (dashboard.Replaced source → adapter.checkSource (fieldsOf dashboard source.id) source = .ok ())

/-- Publication raises at the first dataset, which does not consist of three parts. -/
def BreaksOff (dashboard : DashboardSpec) : Prop :=
  ∃ first ∈ dashboard.visualizations.head?, (splitDots first.dataSource.dataset).length ≠ 3 ∧
    ∀ visual ∈ dashboard.visualizations,
      visual.dataSource.dataset = first.dataSource.dataset → adapter.Covers dashboard visual.dataSource

end SupersetAdapter

/-! ## The checks of one source -/

section Checks

variable {registry : Registry} {adapter : SupersetAdapter} {dashboard : DashboardSpec}
  {dataset : String} {fields : List String} {source : DataSourceSpec}

theorem unrestricted_iff : registry.Unrestricted dataset fields ↔
    (∃ classification, registry.classifyDataset (normalizeDataset dataset) = .ok classification ∧
      classification ≠ .restricted) ∧
    ∀ field ∈ fields, normalizeIdentifier field ≠ "" →
      ∃ known, registry.classifyField (normalizeDataset dataset) (normalizeIdentifier field) =
        .ok known ∧ known.classification ≠ .restricted := by
  have canonical : (∀ field ∈ Registry.canonicalFields fields, ∃ known,
        registry.classifyField (normalizeDataset dataset) field = .ok known ∧
          known.classification ≠ .restricted) ↔
      ∀ field ∈ fields, normalizeIdentifier field ≠ "" →
        ∃ known, registry.classifyField (normalizeDataset dataset) (normalizeIdentifier field) =
          .ok known ∧ known.classification ≠ .restricted := by
    simp only [canonicalFields_eq, mem_distinctTexts, List.mem_map]
    constructor
    · intro each field listed filled
      exact each _ ⟨⟨field, listed, rfl⟩, filled⟩
    · rintro each _ ⟨⟨field, listed, rfl⟩, filled⟩
      exact each field listed filled
  rw [← canonical, ← mapM_forall]
  constructor
  · rintro ⟨resource, resolved, unrestricted, eachField⟩
    obtain ⟨found, mapped, -, -⟩ := resolveResource_ok resolved
    exact ⟨⟨_, found, unrestricted⟩, _, mapped, eachField⟩
  · rintro ⟨⟨classification, found, unrestricted⟩, known, mapped, eachField⟩
    have resolved : registry.resolveResource dataset fields [] none none =
        .ok ⟨normalizeDataset dataset, Registry.canonicalFields fields, classification, known, [],
          none, none⟩ := by
      unfold Registry.resolveResource
      simp only [found, mapped, bind, Except.bind, pure, Except.pure]
    exact ⟨_, resolved, unrestricted, eachField⟩

theorem unrestricted_flatMap {α : Type} {list : List α} {part : α → List String}
    (filled : list ≠ []) : registry.Unrestricted dataset (list.flatMap part) ↔
      ∀ entry ∈ list, registry.Unrestricted dataset (part entry) := by
  simp only [unrestricted_iff, List.mem_flatMap]
  constructor
  · rintro ⟨known, eachField⟩ entry listed
    exact ⟨known, fun field inPart => eachField field ⟨entry, listed, inPart⟩⟩
  · intro each
    obtain ⟨first, isFirst⟩ := List.exists_mem_of_ne_nil list filled
    refine ⟨(each first isFirst).1, ?_⟩
    rintro field ⟨entry, listed, inPart⟩
    exact (each entry listed).2 field inPart

theorem isBiApproved_iff : BiPolicy.isBiApproved dataset = true ↔
    BiPolicy.checkBiPublication dataset = none ∧
      (splitDots (BiPolicy.normalizeDataset dataset)).take 2 =
        [BiPolicy.biCatalog, BiPolicy.biSchema] := by
  unfold BiPolicy.isBiApproved BiPolicy.checkBiPublication
  split
  next catalog schema table parts =>
    rw [parts]
    simp only [List.take_succ_cons, List.take_zero, List.cons.injEq, and_true]
    split
    next other =>
      constructor
      · intro impossible
        cases impossible
      · rintro ⟨-, same⟩
        rcases other with
          other | other
        · exact absurd same.1 other
        · exact absurd same.2 other
    next same =>
      push Not at same
      simp only [same, and_self, and_true]
      by_cases bearing : table ∈ BiPolicy.identityBearingDatasets
      · simp [bearing]
      · by_cases listed : table ∈ BiPolicy.approvedBiTables <;> simp [bearing, listed]
  next shape =>
    constructor
    · intro impossible
      cases impossible
    · rintro ⟨refused, -⟩
      cases refused

theorem checkSource_ok_iff : adapter.checkSource fields source = .ok () ↔
    adapter.classificationResolver.Unrestricted source.dataset fields ∧
      BiPolicy.checkBiPublication source.dataset = none := by
  unfold SupersetAdapter.checkSource Registry.Unrestricted
  cases resolved : adapter.classificationResolver.resolveResource source.dataset fields [] none none
    with
  | error error => simp
  | ok resource =>
      simp only [Except.ok.injEq, exists_eq_left']
      split
      next restricted => simp [restricted]
      next unrestricted =>
        split
        next refusal refused => simp [refused]
        next approved =>
          simp only [approved, and_true, ne_eq, unrestricted, not_false_eq_true, true_and]
          split
          next found =>
            constructor
            · intro impossible
              cases impossible
            · intro eachField
              apply absurd _ found
              apply List.eq_nil_iff_forall_not_mem.mpr
              intro text listed
              obtain ⟨field, inFields, rfl⟩ := List.mem_map.mp (mem_sortedTexts.mp listed)
              obtain ⟨isField, restricted⟩ := List.mem_filter.mp inFields
              exact eachField field isField (of_decide_eq_true restricted)
          next noField =>
            simp only [true_iff]
            intro field listed restricted
            apply noField
            intro empty
            have inFields : field.field ∈ sortedTexts ((resource.fieldClassifications.filter
                (·.classification = .restricted)).map FieldClassification.field) :=
              mem_sortedTexts.mpr (List.mem_map_of_mem
                (List.mem_filter.mpr ⟨listed, decide_eq_true restricted⟩))
            rw [empty] at inFields
            cases inFields

theorem publishable_iff {visual : VisualizationSpec} (listed : visual ∈ dashboard.visualizations)
    (named : visual.dataSource.dataset = dataset) :
    Publishable adapter.classificationResolver dashboard dataset ↔
      (splitDots (BiPolicy.normalizeDataset dataset)).take 2 =
        [BiPolicy.biCatalog, BiPolicy.biSchema] ∧
      ∀ visual ∈ dashboard.visualizations, visual.dataSource.dataset = dataset →
        adapter.checkSource (fieldsOf dashboard visual.dataSource.id) visual.dataSource = .ok () := by
  have isNamed : visual ∈ dashboard.visualizations.filter (·.dataSource.dataset = dataset) :=
    List.mem_filter.mpr ⟨listed, decide_eq_true named⟩
  have filled := List.ne_nil_of_mem isNamed
  constructor
  · rintro ⟨approved, unrestricted⟩
    obtain ⟨passes, inSchema⟩ := isBiApproved_iff.mp approved
    refine ⟨inSchema, ?_⟩
    rintro other isListed rfl
    rw [fieldsOn, unrestricted_flatMap filled] at unrestricted
    exact checkSource_ok_iff.mpr ⟨unrestricted other
      (List.mem_filter.mpr ⟨isListed, decide_eq_true rfl⟩), passes⟩
  · rintro ⟨inSchema, each⟩
    constructor
    · refine isBiApproved_iff.mpr ⟨?_, inSchema⟩
      rw [← named]
      exact (checkSource_ok_iff.mp (each visual listed named)).2
    · rw [fieldsOn, unrestricted_flatMap filled]
      intro other isNamed
      obtain ⟨isListed, sameDataset⟩ := List.mem_filter.mp isNamed
      have sameDataset := of_decide_eq_true sameDataset
      rw [← sameDataset]
      exact (checkSource_ok_iff.mp (each other isListed sameDataset)).1

end Checks

/-! ## The events of a publication -/

/-- A program only adds events, and it calls for the datasets of the dashboard alone. -/
structure Extends (dashboard : DashboardSpec) (before after : Progress) : Prop where
  earlier : before.events <+: after.events
  named : ∀ source, .upsertDataset source ∈ after.events →
    .upsertDataset source ∈ before.events ∨
      ∃ visual ∈ dashboard.visualizations, visual.dataSource = source

section Events

variable {dashboard : DashboardSpec}

instance : Std.Refl (Extends dashboard) where
  refl _ := ⟨List.prefix_rfl, fun _ listed => Or.inl listed⟩

instance : IsTrans Progress (Extends dashboard) where
  trans before middle after first second := by
    refine ⟨first.earlier.trans second.earlier, ?_⟩
    intro source listed
    rcases second.named source listed with
      inMiddle | named
    · exact first.named source inMiddle
    · exact Or.inr named

theorem keeps_record {event : SupersetEvent} (other : ∀ source, event ≠ .upsertDataset source) :
    Keeps (Extends dashboard) (Session.record event) := by
  intro progress
  refine ⟨List.prefix_append _ _, ?_⟩
  intro source listed
  rcases List.mem_append.mp listed with
    before | single
  · exact Or.inl before
  · exact absurd (List.mem_singleton.mp single).symm (other source)

theorem keeps_change {update : Progress → Progress}
    (sameEvents : ∀ progress, (update progress).events = progress.events) :
    Keeps (Extends dashboard) (change update : Publishing Unit) := by
  intro progress
  rw [final_change]
  have same := sameEvents progress
  constructor
  · simp [same]
  · intro source listed
    rw [same] at listed
    exact Or.inl listed

variable (session : Session)

theorem keeps_rows (path query : String) : Keeps (Extends dashboard) (session.rows path query) := by
  apply keeps_bind
  · exact keeps_record fun source => by simp
  · intro _
    exact keeps_bind keeps_current fun progress => keeps_lift _

theorem keeps_send (method path : String) (payload : Json) :
    Keeps (Extends dashboard) (session.send method path payload) := by
  apply keeps_bind
  · exact keeps_record fun source => by simp
  · intro _
    exact keeps_bind keeps_current fun progress => keeps_lift _

namespace SupersetAdapter

theorem keeps_upsert (path : String) (rows : List Int) (payload : Json) :
    Keeps (Extends dashboard) (upsert session path rows payload) := by
  cases rows with
  | nil => exact keeps_send session "POST" path payload
  | cons row rest =>
      apply keeps_bind
      · exact keeps_send session "PUT" _ payload
      · intro written
        exact keeps_pure _

theorem keeps_upsertDataset {source : DataSourceSpec} (databaseId : Int)
    (named : ∃ visual ∈ dashboard.visualizations, visual.dataSource = source) :
    Keeps (Extends dashboard) (upsertDataset session source databaseId) := by
  apply keeps_bind
  · intro progress
    refine ⟨List.prefix_append _ _, ?_⟩
    intro other listed
    rcases List.mem_append.mp listed with
      before | single
    · exact Or.inl before
    · cases List.mem_singleton.mp single
      exact Or.inr named
  · intro _
    split
    · apply keeps_bind
      · exact keeps_rows session _ _
      · intro rows
        split
        · exact keeps_pure _
        · exact keeps_send session _ _ _
    · exact keeps_raise _

theorem keeps_publishSource {source : DataSourceSpec} (databaseId : Int)
    (named : ∃ visual ∈ dashboard.visualizations, visual.dataSource = source) :
    Keeps (Extends dashboard) (publishSource session databaseId source) := by
  refine keeps_bind keeps_current fun progress => ?_
  split
  · exact keeps_pure _
  · apply keeps_bind
    · exact keeps_upsertDataset session databaseId named
    · intro datasetId
      exact keeps_change fun progress => rfl

theorem keeps_publishChart (visual : VisualizationSpec) :
    Keeps (Extends dashboard) (publishChart session visual) := by
  refine keeps_bind keeps_current fun progress => ?_
  apply keeps_bind
  · apply keeps_bind
    · exact keeps_rows session _ _
    · intro rows
      exact keeps_bind (keeps_lift _) fun payload => keeps_upsert session _ _ _
  · intro chartId
    exact keeps_change fun progress => rfl

theorem keeps_publishVisual {visual : VisualizationSpec} (databaseId : Int)
    (listed : visual ∈ dashboard.visualizations) :
    Keeps (Extends dashboard) (publishVisual session databaseId visual) := by
  apply keeps_bind
  · exact keeps_publishSource session databaseId ⟨visual, listed, rfl⟩
  · intro _
    exact keeps_publishChart session visual

theorem keeps_dashboard :
    Keeps (Extends dashboard) (do
      let dashboardId ← upsertDashboard session dashboard
      change fun progress => { progress with
        completed := progress.completed ++ [⟨"dashboard", dashboard.id, dashboardId⟩] }
      associateCharts session dashboardId
      return dashboardId) := by
  apply keeps_bind
  · apply keeps_bind
    · exact keeps_rows session _ _
    · intro rows
      refine keeps_bind keeps_current fun progress => ?_
      exact keeps_bind (keeps_lift _) fun position => keeps_upsert session _ _ _
  · intro dashboardId
    apply keeps_bind
    · exact keeps_change fun progress => rfl
    · intro _
      apply keeps_bind
      · refine keeps_bind keeps_current fun progress => ?_
        apply keeps_each
        intro chart _
        exact keeps_bind (keeps_send session _ _ _) fun _ => keeps_pure _
      · intro _
        exact keeps_pure _

theorem keeps_publishAll (databaseId : Int) :
    Keeps (Extends dashboard) (publishAll session databaseId dashboard) := by
  apply keeps_bind
  · apply keeps_each
    intro visual listed
    exact keeps_publishVisual session databaseId listed
  · intro _
    exact keeps_dashboard session

theorem keeps_publish (adapter : SupersetAdapter) (authority : Authority) :
    Keeps (Extends dashboard) (adapter.publish session dashboard authority) := by
  refine keeps_bind (keeps_lift _) fun _ => ?_
  refine keeps_bind (keeps_lift _) fun _ => ?_
  refine keeps_bind (keeps_lift _) fun _ => ?_
  refine keeps_bind (keeps_lift _) fun plan => ?_
  apply keeps_bind
  · exact keeps_bind (keeps_lift _) fun _ => keeps_lift _
  intro _
  apply keeps_bind
  · apply keeps_bind
    · exact keeps_rows session _ _
    · intro rows
      split
      · exact keeps_raise _
      · exact keeps_pure _
  intro databaseId
  apply keeps_bind
  · apply keeps_catching
    · exact keeps_publishAll session databaseId
    · intro cause
      exact keeps_bind keeps_current fun progress => keeps_raise _
  intro dashboardId
  exact keeps_bind keeps_current fun progress => keeps_pure _

end SupersetAdapter

end Events

/-! ## The first dataset -/

section FirstDataset

variable {adapter : SupersetAdapter} {session : Session} {dashboard : DashboardSpec}
  {authority : Authority}

namespace SupersetAdapter

theorem validated_ok (dashboard : DashboardSpec) : validated dashboard = .ok () := by
  have only : ∀ status, status = SpecStatus.validated := fun status => by
    cases status
    rfl
  unfold validated
  apply if_neg
  rintro (invalid | ⟨visual, -, invalid | invalid⟩)
  all_goals exact invalid (only _)

theorem plan_ok (dashboard : DashboardSpec) : ∃ report, plan dashboard = .ok report := by
  unfold plan
  rw [validated_ok]
  exact ⟨_, rfl⟩

/-- The first request looks for the database. -/
def databaseLookup (adapter : SupersetAdapter) : SupersetEvent :=
  .get "/api/v1/database/" ("(filters:!((col:database_name,opr:eq,value:'" ++
    adapter.settings.supersetDatabaseName ++ "')))")

theorem eventsOf_of_not_admits (refused : ¬ adapter.Admits dashboard authority) :
    adapter.eventsOf session dashboard authority = [] := by
  unfold eventsOf publish
  simp only [final_bind, outcome_lift, final_lift]
  cases authorised : requirePublicationAuthority authority with
  | error error => rfl
  | ok _ =>
      cases governed : adapter.validatePublicationGovernance dashboard with
      | error error => rfl
      | ok _ =>
          cases identified : adapter.requirePublisherIdentity with
          | error error => rfl
          | ok _ => exact absurd ⟨authorised, governed, identified⟩ refused

theorem outcome_login (identified : adapter.requirePublisherIdentity = .ok ())
    (progress : Progress) : (adapter.login session).outcome progress = session.login := by
  unfold login
  rw [outcome_bind, outcome_lift, identified]
  rfl

theorem final_login (identified : adapter.requirePublisherIdentity = .ok ())
    (progress : Progress) : (adapter.login session).final progress = progress := by
  unfold login
  rw [final_bind, outcome_lift, identified]
  rfl

theorem final_rows (path query : String) (progress : Progress) :
    (session.rows path query).final progress =
      { progress with events := progress.events ++ [.get path query] } := rfl

theorem outcome_rows (path query : String) (progress : Progress) :
    (session.rows path query).outcome progress =
      session.get (progress.events ++ [.get path query]) := rfl

theorem final_reported (program : Publishing (Option Int)) (progress : Progress) :
    (catching program fun cause => do
      let progress ← current
      raise (.failedAfter progress.completed cause)).final progress = program.final progress := by
  rw [final_catching]
  cases program.outcome progress <;> rfl

theorem eventsOf_of_admits (admitted : adapter.Admits dashboard authority) :
    adapter.eventsOf session dashboard authority = match session.login with
      | .error _ => []
      | .ok _ => match session.get [adapter.databaseLookup] with
        | .error _ => [adapter.databaseLookup]
        | .ok [] => [adapter.databaseLookup]
        | .ok (databaseId :: _) =>
            ((publishAll session databaseId dashboard).final
              { events := [adapter.databaseLookup] }).events := by
  obtain ⟨report, planned⟩ := plan_ok dashboard
  have looked : (adapter.databaseId session).outcome {} =
      match session.get [adapter.databaseLookup] with
      | .error error => .error error
      | .ok [] => .error (.adapterError ("Superset database not found: " ++
          adapter.settings.supersetDatabaseName))
      | .ok (databaseId :: _) => .ok databaseId := by
    unfold databaseId databaseLookup
    rw [outcome_bind, outcome_rows]
    simp only [List.nil_append]
    cases session.get _ with
    | error error => rfl
    | ok rows => cases rows <;> rfl
  have lookup : (adapter.databaseId session).final {} = { events := [adapter.databaseLookup] } := by
    unfold databaseId databaseLookup
    rw [final_bind, outcome_rows]
    simp only [List.nil_append]
    cases session.get _ with
    | error error => rfl
    | ok rows => cases rows <;> rfl
  unfold eventsOf publish
  rw [final_bind, outcome_lift, admitted.authorised]
  simp only
  rw [final_bind, outcome_lift, admitted.governed]
  simp only
  rw [final_bind, outcome_lift, admitted.identified]
  simp only
  rw [final_bind, outcome_lift, planned]
  simp only [final_lift]
  rw [final_bind, outcome_login admitted.identified, final_login admitted.identified]
  cases session.login with
  | error error => rfl
  | ok _ =>
      simp only
      rw [final_bind, looked, lookup]
      cases session.get [adapter.databaseLookup] with
      | error error => rfl
      | ok rows =>
          cases rows with
          | nil => rfl
          | cons databaseId rest =>
              simp only
              rw [final_bind, final_reported]
              split <;> rfl

variable {first : VisualizationSpec} {rest : List VisualizationSpec} {databaseId : Int}
  {events : List SupersetEvent}

theorem events_breakOff (starts : dashboard.visualizations = first :: rest)
    (parts : (splitDots first.dataSource.dataset).length ≠ 3) :
    ((publishAll session databaseId dashboard).final { events := events }).events =
      events ++ [.upsertDataset first.dataSource] := by
  have raises : upsertDataset session first.dataSource databaseId = (do
      Session.record (.upsertDataset first.dataSource)
      raise (.raised "the dataset does not consist of three parts")) := by
    unfold upsertDataset
    congr 1
    funext _
    split
    next catalog schema table three => simp [three] at parts
    next => rfl
  have source : publishSource session databaseId first.dataSource { events := events } =
      (.error (.raised "the dataset does not consist of three parts"),
        { events := events ++ [.upsertDataset first.dataSource] }) := by
    unfold publishSource
    rw [raises]
    rfl
  have visuals : each (publishVisual session databaseId) dashboard.visualizations
      { events := events } = (.error (.raised "the dataset does not consist of three parts"),
        { events := events ++ [.upsertDataset first.dataSource] }) := by
    rw [starts]
    simp only [each, publishVisual, bind, source]
  unfold final publishAll
  simp only [bind, visuals]

theorem extends_publishSource (starts : dashboard.visualizations = first :: rest)
    (progress : Progress) :
    Extends dashboard ((publishSource session databaseId first.dataSource).final progress)
      ((publishAll session databaseId dashboard).final progress) := by
  have listed : ∀ visual ∈ rest, visual ∈ dashboard.visualizations := fun visual inRest =>
    starts ▸ List.mem_cons_of_mem _ inRest
  have chart : Extends dashboard ((publishSource session databaseId first.dataSource).final progress)
      ((publishVisual session databaseId first).final progress) :=
    after_bind (fun _ => keeps_publishChart session first) progress
  have others : Extends dashboard ((publishVisual session databaseId first).final progress)
      ((each (publishVisual session databaseId) dashboard.visualizations).final progress) := by
    rw [starts]
    apply after_bind
    intro _
    exact keeps_each fun visual inRest => keeps_publishVisual session databaseId (listed visual inRest)
  have whole : Extends dashboard
      ((each (publishVisual session databaseId) dashboard.visualizations).final progress)
      ((publishAll session databaseId dashboard).final progress) :=
    after_bind (fun _ => keeps_dashboard session) progress
  exact trans_of _ (trans_of _ chart others) whole

theorem write_mem_publishAll (starts : dashboard.visualizations = first :: rest)
    (parts : (splitDots first.dataSource.dataset).length = 3)
    (unknown : ∀ path query, session.get
      (events ++ [.upsertDataset first.dataSource] ++ [.get path query]) = .ok []) :
    ∃ method path payload, .write method path payload ∈
      ((publishAll session databaseId dashboard).final { events := events }).events := by
  obtain ⟨catalog, schema, table, three⟩ := List.length_eq_three.mp parts
  have written : ∃ method path payload, .write method path payload ∈
      ((upsertDataset session first.dataSource databaseId).final { events := events }).events := by
    unfold upsertDataset
    rw [three]
    simp only
    rw [final_bind, show (Session.record (.upsertDataset first.dataSource)).outcome
      ({ events := events } : Progress) = .ok () from rfl]
    simp only
    rw [final_bind, outcome_rows, final_rows]
    simp only [Session.record, final_change]
    rw [unknown]
    exact ⟨_, _, _, List.mem_append_right _ (List.mem_singleton.mpr rfl)⟩
  have source : Extends dashboard
      ((upsertDataset session first.dataSource databaseId).final { events := events })
      ((publishSource session databaseId first.dataSource).final { events := events }) := by
    change Extends dashboard _ ((upsertDataset session first.dataSource databaseId >>=
      fun datasetId => change fun progress => { progress with
        datasets := progress.datasets.set first.dataSource.id datasetId
        completed := progress.completed ++
          [⟨"dataset", first.dataSource.id, datasetId⟩] }).final _)
    apply after_bind
    intro datasetId
    exact keeps_change fun progress => rfl
  obtain ⟨method, path, payload, listed⟩ := written
  exact ⟨method, path, payload,
    (extends_publishSource starts _).earlier.subset (source.earlier.subset listed)⟩

end SupersetAdapter

end FirstDataset

/-! ## When publication is safe -/

section Safe

variable {adapter : SupersetAdapter} {dashboard : DashboardSpec} {authority : Authority}
  {visual : VisualizationSpec}

open SupersetAdapter

theorem passes_of_admits (admitted : adapter.Admits dashboard authority)
    (covered : adapter.Covers dashboard visual.dataSource) :
    adapter.checkSource (fieldsOf dashboard visual.dataSource.id) visual.dataSource = .ok () := by
  by_cases replaced : dashboard.Replaced visual.dataSource
  · exact covered.2 replaced
  · have isLast := Dict.mem_items.mpr (not_not.mp replaced)
    exact forM_ok.mp admitted.governed (visual.dataSource.id, visual.dataSource) isLast

theorem publishable_of_covers (admitted : adapter.Admits dashboard authority)
    (listed : visual ∈ dashboard.visualizations)
    (covered : ∀ other ∈ dashboard.visualizations,
      other.dataSource.dataset = visual.dataSource.dataset → adapter.Covers dashboard other.dataSource) :
    Publishable adapter.classificationResolver dashboard visual.dataSource.dataset := by
  apply (publishable_iff listed rfl).mpr
  refine ⟨(covered visual listed rfl).1, ?_⟩
  intro other isListed sameDataset
  exact passes_of_admits admitted (covered other isListed sameDataset)

theorem covers_of_publishable (listed : visual ∈ dashboard.visualizations)
    (publishable : Publishable adapter.classificationResolver dashboard visual.dataSource.dataset) :
    adapter.Covers dashboard visual.dataSource := by
  obtain ⟨inSchema, passes⟩ := (publishable_iff listed rfl).mp publishable
  exact ⟨inSchema, fun _ => passes visual listed rfl⟩

theorem mem_eventsOf_of_breakOff {session : Session} {first : VisualizationSpec}
    {event : SupersetEvent} (admitted : adapter.Admits dashboard authority)
    (isFirst : first ∈ dashboard.visualizations.head?)
    (parts : (splitDots first.dataSource.dataset).length ≠ 3)
    (happened : event ∈ adapter.eventsOf session dashboard authority) :
    event = adapter.databaseLookup ∨ event = .upsertDataset first.dataSource := by
  obtain ⟨rest, starts⟩ := List.head?_eq_some_iff.mp isFirst
  rw [eventsOf_of_admits admitted] at happened
  split at happened
  next => cases happened
  next =>
    split at happened
    next => exact Or.inl (List.mem_singleton.mp happened)
    next => exact Or.inl (List.mem_singleton.mp happened)
    next =>
      rw [events_breakOff starts parts] at happened
      simpa using happened

/-- Superset with the database and nothing else, where everything can be written. -/
def emptySuperset : Session where
  login := .ok ()
  get events := .ok (if events.length = 1 then [1] else [])
  write _ := .ok (some 1)

theorem eventsOf_emptySuperset (admitted : adapter.Admits dashboard authority) :
    adapter.eventsOf emptySuperset dashboard authority =
      ((publishAll emptySuperset 1 dashboard).final
        { events := [adapter.databaseLookup] }).events := by
  rw [eventsOf_of_admits admitted]
  rfl

/-- Publication registers only what may be registered exactly where it is refused, where every
source is covered, or where it raises at a first dataset whose sources are. -/
theorem publication_safe_iff : PublicationSafe adapter dashboard authority ↔
    ¬ adapter.Admits dashboard authority ∨
      (∀ visual ∈ dashboard.visualizations, adapter.Covers dashboard visual.dataSource) ∨
      adapter.BreaksOff dashboard := by
  constructor
  · intro safe
    by_contra unsafeCase
    push Not at unsafeCase
    obtain ⟨admitted, ⟨visual, listed, uncovered⟩, goesOn⟩ := unsafeCase
    obtain ⟨registers, writes⟩ := safe emptySuperset
    rw [eventsOf_emptySuperset admitted] at registers writes
    have refused : ¬ Publishable adapter.classificationResolver dashboard
        visual.dataSource.dataset := fun publishable =>
      uncovered (covers_of_publishable listed publishable)
    obtain ⟨first, rest, starts⟩ := List.exists_cons_of_ne_nil (List.ne_nil_of_mem listed)
    by_cases parts : (splitDots first.dataSource.dataset).length = 3
    · have unknown : ∀ path query, emptySuperset.get ([adapter.databaseLookup] ++
          [.upsertDataset first.dataSource] ++ [.get path query]) = .ok [] := fun _ _ => rfl
      obtain ⟨method, path, payload, written⟩ := write_mem_publishAll starts parts unknown
      exact writes ⟨visual, listed, refused⟩ method path payload written
    · have called : .upsertDataset first.dataSource ∈ ((publishAll emptySuperset 1 dashboard).final
          { events := [adapter.databaseLookup] }).events := by
        rw [events_breakOff starts parts]
        simp
      apply goesOn
      refine ⟨first, by simp [starts], parts, ?_⟩
      intro other isListed sameDataset
      apply covers_of_publishable isListed
      rw [sameDataset]
      exact registers first.dataSource called
  · intro condition session
    by_cases admitted : adapter.Admits dashboard authority
    · rcases condition.resolve_left (not_not.mpr admitted) with
        covered | ⟨first, isFirst, parts, covered⟩
      · have publishable : ∀ visual ∈ dashboard.visualizations,
            Publishable adapter.classificationResolver dashboard visual.dataSource.dataset :=
          fun visual listed => publishable_of_covers admitted listed fun other isListed _ =>
            covered other isListed
        constructor
        · intro source called
          rcases (keeps_publish session adapter authority {}).named source called with
            before | ⟨visual, listed, rfl⟩
          · cases before
          · exact publishable visual listed
        · rintro ⟨visual, listed, refused⟩
          exact absurd (publishable visual listed) refused
      · have inDashboard : first ∈ dashboard.visualizations := List.mem_of_mem_head? isFirst
        constructor
        · intro source called
          rcases mem_eventsOf_of_breakOff admitted isFirst parts called with
            lookup | same
          · cases lookup
          · cases same
            exact publishable_of_covers admitted inDashboard covered
        · intro _ method path payload written
          rcases mem_eventsOf_of_breakOff admitted isFirst parts written with
            lookup | same
          · cases lookup
          · cases same
    · rw [eventsOf_of_not_admits admitted]
      exact ⟨fun _ called => absurd called List.not_mem_nil, fun _ _ _ _ => List.not_mem_nil⟩

end Safe

/-! ## Two datasets under one id -/

def publisherAdapter : SupersetAdapter where
  settings := ⟨"publisher", "secret", "PDM Trino", "http://localhost:8088"⟩
  classificationResolver := platformRegistry

def publisherAuthority : Authority :=
  ⟨"publisher-1", [.canPublishBiAssets], ["bi_publisher"], .identityRoles, true⟩

/-- A table of the districts of a dataset. -/
def districtTable (id dataset : String) : VisualizationSpec where
  id := id
  type := .table
  title := "Districts"
  dataSource := { id := "source-1", dataset := dataset }
  encoding := [{ field := "district", role := .dimension }]

/-- The first dataset is replaced by an approved one under the same id. -/
def replacedDashboard : DashboardSpec where
  id := "dashboard-1"
  title := "Districts"
  visualizations := [districtTable "chart-1" "iceberg.silver.slv_pdm_beneficiaries",
    districtTable "chart-2" "iceberg.consumption.cns_pdm_local_government_performance"]
  filters := []
  layout := []

theorem replacedDashboard_admitted :
    publisherAdapter.Admits replacedDashboard publisherAuthority where
  authorised := rfl
  governed := by
    have passes : (publisherAdapter.validatePublicationGovernance replacedDashboard).toBool = true :=
      by decide +kernel
    cases checked : publisherAdapter.validatePublicationGovernance replacedDashboard with
    | error error =>
        rw [checked] at passes
        cases passes
    | ok _ => rfl
  identified := rfl

/-- The restricted dataset is registered. -/
theorem replacedDashboard_not_safe :
    ¬ PublicationSafe publisherAdapter replacedDashboard publisherAuthority := by
  intro safe
  have parts : (splitDots "iceberg.silver.slv_pdm_beneficiaries").length = 3 := by decide +kernel
  have unknown : ∀ path query, emptySuperset.get ([publisherAdapter.databaseLookup] ++
      [.upsertDataset ⟨"source-1", "iceberg.silver.slv_pdm_beneficiaries", .validated⟩] ++
        [.get path query]) = .ok [] := fun _ _ => rfl
  obtain ⟨method, path, payload, written⟩ :=
    @SupersetAdapter.write_mem_publishAll emptySuperset replacedDashboard _ _ 1 _ rfl parts unknown
  have refused : ¬ Publishable platformRegistry replacedDashboard
      "iceberg.silver.slv_pdm_beneficiaries" := by
    intro publishable
    have disapproved : BiPolicy.isBiApproved "iceberg.silver.slv_pdm_beneficiaries" = false := by
      decide +kernel
    rw [publishable.approved] at disapproved
    cases disapproved
  apply (safe emptySuperset).2 ⟨_, List.mem_cons_self, refused⟩ method path payload
  rw [eventsOf_emptySuperset replacedDashboard_admitted]
  exact written

end PaymentsPlatform.AgentApi
