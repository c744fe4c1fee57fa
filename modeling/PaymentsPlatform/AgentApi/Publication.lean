import PaymentsPlatform.AgentApi.Authority
import PaymentsPlatform.AgentApi.QueryExecution
import PaymentsPlatform.Library.Dict
import PaymentsPlatform.Library.Effects
import PaymentsPlatform.Library.Json

/-!
# Publication of dashboards

`bi_policy.py` and the Superset adapter of `bi_adapter.py`.  Superset itself is a parameter: it
answers each request by what has been sent before it.  The headers that a login leads to, and the
provenance that a specification carries along, are left out.
-/

namespace PaymentsPlatform.AgentApi

open Ingestion (strip isSpace)
open Effects Effect

/-- `text.split(".")`. -/
def splitDots (text : String) : List String := (text.toList.splitOn '.').map String.ofList

/-! ## The policy -/

namespace BiPolicy

def biCatalog : String := "iceberg"

def biSchema : String := "consumption"

def identityBearingDatasets : List String :=
  ["cns_pdm_beneficiary_insights", "cns_pdm_loan_intervention_dashboard",
    "cns_pdm_payment_operations", "cns_pdm_end_to_end_traceability", "cns_pdm_ai_default_risk",
    "cns_pdm_beneficiary_identity_alerts"]

def approvedBiTables : List String :=
  ["cns_pdm_district_geographic_risk", "cns_pdm_executive_monthly_trend",
    "cns_pdm_executive_overview", "cns_pdm_financial_fund_flow", "cns_pdm_fraud_risk_insights",
    "cns_pdm_fund_flow_funnel", "cns_pdm_geographic_alerts", "cns_pdm_geographic_coverage",
    "cns_pdm_geographic_risk_drivers", "cns_pdm_geographic_risk_summary",
    "cns_pdm_geographic_risk_trend", "cns_pdm_lifecycle_exceptions",
    "cns_pdm_local_government_performance", "cns_pdm_parish_geographic_risk",
    "cns_pdm_parish_performance", "cns_pdm_payments_daily_summary", "cns_pdm_social_impact",
    "cns_pdm_subcounty_geographic_risk", "cns_pdm_village_geographic_risk"]

/-- `normalize_dataset` of the policy: backticks stay. -/
def normalizeDataset (dataset : String) : String :=
  ".".intercalate (((splitDots dataset).filter fun part => !(strip isSpace part).isEmpty).map
    fun part => (strip (· = Char.ofNat 0x22) (strip isSpace part)).toLower)

def isBiApproved (dataset : String) : Bool :=
  match splitDots (normalizeDataset dataset) with
  | [catalog, schema, table] =>
      if catalog ≠ biCatalog ∨ schema ≠ biSchema then false
      else if table ∈ identityBearingDatasets then false
      else table ∈ approvedBiTables
  | _ => false

/-- `BiPublicationRefusal`. -/
structure Refusal where
  reason : String
  dataset : String
  deriving DecidableEq

/-- `check_bi_publication`: the catalog and the schema are not looked at. -/
def checkBiPublication (dataset : String) : Option Refusal :=
  match splitDots (normalizeDataset dataset) with
  | [_, _, table] =>
      if table ∈ identityBearingDatasets then
        some ⟨"dataset carries row-level beneficiary identity and is not " ++
          "approved for automated BI publication", normalizeDataset dataset⟩
      else if table ∉ approvedBiTables then
        some ⟨"dataset is not on the server-owned approved BI allowlist", normalizeDataset dataset⟩
      else none
  | _ => some ⟨"dataset reference must be catalog.schema.table", normalizeDataset dataset⟩

end BiPolicy

/-! ## Specifications -/

/-- The one status that a specification can have. -/
inductive SpecStatus where
  | validated
  deriving DecidableEq

structure DataSourceSpec where
  id : String
  dataset : String
  status : SpecStatus := .validated
  deriving DecidableEq

inductive EncodingRole where
  | dimension
  | measure
  deriving DecidableEq

structure Encoding where
  field : String
  role : EncodingRole
  aggregation : Option String := none

inductive ChartType where
  | kpi
  | table
  | bar
  | line
  | scatter
  deriving DecidableEq

structure VisualizationSpec where
  id : String
  type : ChartType
  title : String
  dataSource : DataSourceSpec
  encoding : List Encoding
  limit : Int := 20
  status : SpecStatus := .validated

structure DashboardFilter where
  field : String
  dataSourceId : String

structure LayoutItem where
  visualizationId : String
  x : Int
  y : Int
  width : Int
  height : Int

structure DashboardSpec where
  id : String
  title : String
  visualizations : List VisualizationSpec
  filters : List DashboardFilter
  layout : List LayoutItem
  status : SpecStatus := .validated

/-! ## Superset -/

/-- What has been published. -/
structure Artifact where
  kind : String
  specId : String
  supersetId : Option Int

inductive PublicationError where
  | adapterError (message : String)
  | permissionDenied (message : String)
  /-- Any other exception. -/
  | raised (text : String)
  /-- `AdapterError` after these artifacts, from that exception. -/
  | failedAfter (completed : List Artifact) (cause : PublicationError)

inductive SupersetEvent where
  /-- `_upsert_dataset` is called. -/
  | upsertDataset (source : DataSourceSpec)
  | get (path query : String)
  | write (method path : String) (payload : Json)

structure Progress where
  events : List SupersetEvent := []
  datasets : Dict String (Option Int) := .empty
  charts : Dict String (Option Int) := .empty
  completed : List Artifact := []

abbrev Publishing := Effect Progress PublicationError

/-- How Superset answers, after the events so far. -/
structure Session where
  /-- The requests of a login. -/
  login : Except PublicationError Unit
  /-- The ids of the rows. -/
  get : List SupersetEvent → Except PublicationError (List Int)
  write : List SupersetEvent → Except PublicationError (Option Int)

structure Settings where
  supersetPublisherUsername : String
  supersetPublisherPassword : String
  supersetDatabaseName : String
  supersetPublicUrl : String

namespace Session

variable (session : Session)

def record (event : SupersetEvent) : Publishing Unit :=
  change fun progress => { progress with events := progress.events ++ [event] }

/-- `_get`. -/
def rows (path query : String) : Publishing (List Int) := do
  record (.get path query)
  let progress ← current
  lift (session.get progress.events)

/-- `_write`. -/
def send (method path : String) (payload : Json) : Publishing (Option Int) := do
  record (.write method path payload)
  let progress ← current
  lift (session.write progress.events)

end Session

/-- An id in a text; none is `None`. -/
def idText : Option Int → String
  | some id => toString id
  | none => "None"

def idJson : Option Int → Json
  | some id => .int id
  | none => .null

/-- `SUPERSET_TYPES`. -/
def supersetType : ChartType → String
  | .kpi => "big_number_total"
  | .table => "table"
  | .bar => "echarts_timeseries_bar"
  | .line => "echarts_timeseries_line"
  | .scatter => "bubble"

def translateLayout (dashboard : DashboardSpec) : Json :=
  .array (dashboard.layout.map fun item => .object [("id", .string item.visualizationId),
    ("x", .int item.x), ("y", .int item.y), ("width", .int item.width),
    ("height", .int item.height)])

def translateFilters (dashboard : DashboardSpec) : Json :=
  .array (dashboard.filters.map fun item => .object [("field", .string item.field),
    ("data_source_id", .string item.dataSourceId), ("filter_type", .string "filter_select")])

section Charts

/-- `item.aggregation or "SUM"`, in capitals. -/
def aggregate (item : Encoding) : String :=
  match item.aggregation with
  | none => "SUM"
  | some aggregation => if aggregation = "" then "SUM" else aggregation.toUpper

def metric (item : Encoding) : Json :=
  .object [("expressionType", .string "SIMPLE"),
    ("column", .object [("column_name", .string item.field)]),
    ("aggregate", .string (aggregate item)), ("label", .string item.field),
    ("optionName", .string ("metric_" ++ item.field ++ "_" ++ (aggregate item).toLower))]

/-- The parameters of a chart that depend on its type; a measure may be missing. -/
def chartParams (visual : VisualizationSpec) : Except PublicationError (List (String × Json)) :=
  let dimensions := (visual.encoding.filter (·.role = .dimension)).map Encoding.field
  let measures := visual.encoding.filter (·.role = .measure)
  match visual.type, measures with
  | .kpi, first :: _ => .ok [("metric", metric first), ("show_metric_name", .bool true)]
  | .table, _ => .ok [("all_columns", .array (visual.encoding.map fun item => .string item.field)),
      ("metrics", .array [])]
  | .bar, _ | .line, _ => .ok [("groupby", .array (dimensions.map .string)),
      ("metrics", .array (measures.map metric)), ("orientation", .string "vertical"),
      ("show_legend", .bool true)]
  | .scatter, first :: second :: _ =>
      .ok [("entity", (dimensions.head?.map Json.string).getD .null), ("x", metric first),
        ("y", metric second)]
  | _, _ => .error (.raised "list index out of range")

/-- `chart_payload`, with the parameters that are sent as a text. -/
def chartPayload (visual : VisualizationSpec) (datasetId : Option Int) :
    Except PublicationError Json := do
  let params ← chartParams visual
  return .object [("slice_name", .string ("[" ++ visual.id ++ "] " ++ visual.title)),
    ("viz_type", .string (supersetType visual.type)), ("datasource_id", idJson datasetId),
    ("datasource_type", .string "table"),
    ("params", .object ([("viz_type", .string (supersetType visual.type)),
      ("datasource", .string (idText datasetId ++ "__table")), ("row_limit", .int visual.limit)] ++
      params)),
    ("description", .string ("Agent artifact " ++ visual.id))]

end Charts

/-- `charts[item.visualization_id]`. -/
def chartOf (charts : Dict String (Option Int)) (id : String) :
    Except PublicationError (Option Int) :=
  match charts.get? id with
  | some chart => .ok chart
  | none => .error (.raised id)

/-- `_position_json`, with the row and the chart of each item. -/
def positionJson (dashboard : DashboardSpec) (charts : Dict String (Option Int)) :
    Except PublicationError Json := do
  let nodes ← (dashboard.layout.zipIdx).mapM fun (item, index) => do
    let chart ← chartOf charts item.visualizationId
    let row := "ROW-" ++ toString index
    let node := "CHART-" ++ idText chart
    return (row, [(row, Json.object [("id", .string row), ("type", .string "ROW"),
        ("parents", .array [.string "ROOT_ID", .string "GRID_ID"]),
        ("children", .array [.string node]),
        ("meta", .object [("background", .string "BACKGROUND_TRANSPARENT")])]),
      (node, .object [("id", .string node), ("type", .string "CHART"),
        ("parents", .array [.string "ROOT_ID", .string "GRID_ID", .string row]),
        ("meta", .object [("chartId", idJson chart), ("sliceName", .string item.visualizationId),
          ("width", .int item.width), ("height", .int item.height)])])])
  return .object ((Dict.ofList ([("DASHBOARD_VERSION_KEY", Json.string "v2"),
    ("ROOT_ID", .object [("id", .string "ROOT_ID"), ("type", .string "ROOT"),
      ("children", .array [.string "GRID_ID"])]),
    ("GRID_ID", .object [("id", .string "GRID_ID"), ("type", .string "GRID"),
      ("parents", .array [.string "ROOT_ID"]),
      ("children", .array (nodes.map fun node => .string node.1))]),
    ("HEADER_ID", .object [("id", .string "HEADER_ID"), ("type", .string "HEADER"),
      ("meta", .object [("text", .string dashboard.title)])])] ++ nodes.flatMap Prod.snd)).items)

/-! ## The adapter -/

structure SupersetAdapter where
  settings : Settings
  classificationResolver : Registry

/-- `fields_by_source.setdefault(id, set()).update(fields)`. -/
def addFields (fieldsBySource : Dict String (List String)) (id : String) (fields : List String) :
    Dict String (List String) :=
  fieldsBySource.set id ((fieldsBySource.get? id).getD [] ++ fields)

def fieldsBySource (dashboard : DashboardSpec) : Dict String (List String) :=
  dashboard.filters.foldl (fun known item => addFields known item.dataSourceId [item.field])
    (dashboard.visualizations.foldl (fun known visual =>
      addFields known visual.dataSource.id (visual.encoding.map Encoding.field)) .empty)

/-- The fields of a source id, sorted and each once. -/
def fieldsOf (dashboard : DashboardSpec) (id : String) : List String :=
  sortedTexts (((fieldsBySource dashboard).get? id).getD []).dedup

/-- The sources that the validation goes through: the last of each id. -/
def sources (dashboard : DashboardSpec) : Dict String DataSourceSpec :=
  .ofList (dashboard.visualizations.map fun visual => (visual.dataSource.id, visual.dataSource))

namespace SupersetAdapter

variable (adapter : SupersetAdapter)

def requirePublicationAuthority (authority : Authority) : Except PublicationError Unit :=
  if .canPublishBiAssets ∉ authority.capabilities ∨ !authority.authenticated then
    .error (.permissionDenied ("BI publishing permission is required and must be " ++
      "server-authorised; request-supplied capabilities are not " ++
      "accepted as publication authority"))
  else .ok ()

/-- What the validation does for one source, by the fields of its id. -/
def checkSource (fields : List String) (source : DataSourceSpec) : Except PublicationError Unit :=
  match adapter.classificationResolver.resolveResource source.dataset fields [] none none with
  | .error error => .error (.permissionDenied ("BI publication denied because trusted data " ++
      "classification failed for " ++ source.dataset ++ ": " ++ error.message))
  | .ok resource =>
      if resource.classification = .restricted then
        .error (.permissionDenied ("BI publication denied for RESTRICTED dataset " ++
          source.dataset ++ "; publish a governed aggregate or reporting dataset instead"))
      else
        match BiPolicy.checkBiPublication source.dataset with
        | some refusal => .error (.permissionDenied ("BI publication denied because " ++
            refusal.reason ++ ": " ++ refusal.dataset))
        | none =>
            let restrictedFields := sortedTexts ((resource.fieldClassifications.filter
              (·.classification = .restricted)).map FieldClassification.field)
            if restrictedFields ≠ [] then
              .error (.permissionDenied ("BI publication denied because restricted fields are " ++
                "present in " ++ source.dataset ++ ": " ++ ", ".intercalate restrictedFields))
            else .ok ()

def validatePublicationGovernance (dashboard : DashboardSpec) : Except PublicationError Unit :=
  (sources dashboard).items.forM fun (id, source) =>
    adapter.checkSource (fieldsOf dashboard id) source

def requirePublisherIdentity : Except PublicationError Unit :=
  if (strip isSpace adapter.settings.supersetPublisherUsername).isEmpty ∨
      adapter.settings.supersetPublisherPassword.isEmpty then
    .error (.adapterError ("SUPERSET_PUBLISHER_USERNAME and SUPERSET_PUBLISHER_PASSWORD are " ++
      "required for publishing; automated publication never falls " ++
      "back to administrator credentials"))
  else .ok ()

/-- `_validated`. -/
def validated (dashboard : DashboardSpec) : Except PublicationError Unit :=
  if dashboard.status ≠ .validated ∨ ∃ visual ∈ dashboard.visualizations,
      visual.status ≠ .validated ∨ visual.dataSource.status ≠ .validated then
    .error (.adapterError "adapter accepts only validated builder specifications")
  else .ok ()

def plan (dashboard : DashboardSpec) : Except PublicationError (Dict String Json) := do
  validated dashboard
  return .ofList [("mode", .string "dry_run"), ("adapter", .string "superset"),
    ("dashboard_spec_id", .string dashboard.id),
    ("actions", .array ((sources dashboard).values.map (fun source =>
        .object [("action", .string "upsert_dataset"), ("stable_id", .string source.id),
          ("dataset", .string source.dataset)]) ++
      dashboard.visualizations.map (fun chart =>
        .object [("action", .string "upsert_chart"), ("stable_id", .string chart.id),
          ("superset_type", .string (supersetType chart.type))]) ++
      [.object [("action", .string "upsert_dashboard"), ("stable_id", .string dashboard.id),
        ("title", .string dashboard.title)]])),
    ("layout", translateLayout dashboard), ("filters", translateFilters dashboard),
    ("status", .string "validated")]

variable (session : Session)

/-- `_login`, which requires the publisher identity once more. -/
def login : Publishing Unit := do
  lift adapter.requirePublisherIdentity
  lift session.login

def databaseId : Publishing Int := do
  let rows ← session.rows "/api/v1/database/" ("(filters:!((col:database_name,opr:eq,value:'" ++
    adapter.settings.supersetDatabaseName ++ "')))")
  match rows with
  | [] => raise (.adapterError ("Superset database not found: " ++
      adapter.settings.supersetDatabaseName))
  | row :: _ => return row

/-- `_upsert_dataset`: the dataset is taken as it is written. -/
def upsertDataset (source : DataSourceSpec) (databaseId : Int) : Publishing (Option Int) := do
  Session.record (.upsertDataset source)
  match splitDots source.dataset with
  | [_, schema, table] => do
      let rows ← session.rows "/api/v1/dataset/" ("(filters:!((col:database,opr:rel_o_m,value:" ++
        toString databaseId ++ "),(col:schema,opr:eq,value:'" ++ schema ++
        "'),(col:table_name,opr:eq,value:'" ++ table ++ "')))")
      match rows with
      | row :: _ => return some row
      | [] => session.send "POST" "/api/v1/dataset/" (.object [("database", .int databaseId),
          ("schema", .string schema), ("table_name", .string table)])
  | _ => raise (.raised "the dataset does not consist of three parts")

/-- Write to the first row, or make a new one. -/
def upsert (path : String) (rows : List Int) (payload : Json) : Publishing (Option Int) :=
  match rows with
  | row :: _ => do
      let written ← session.send "PUT" (path ++ toString row) payload
      return (if written = none ∨ written = some 0 then some row else written)
  | [] => session.send "POST" path payload

def upsertChart (visual : VisualizationSpec) (datasetId : Option Int) :
    Publishing (Option Int) := do
  let rows ← session.rows "/api/v1/chart/" ("(filters:!((col:slice_name,opr:eq,value:'[" ++
    visual.id ++ "] " ++ visual.title ++ "')))")
  let payload ← lift (chartPayload visual datasetId)
  upsert session "/api/v1/chart/" rows payload

def upsertDashboard (dashboard : DashboardSpec) : Publishing (Option Int) := do
  let slug := dashboard.id.replace "_" "-"
  let rows ← session.rows "/api/v1/dashboard/" ("(filters:!((col:slug,opr:eq,value:'" ++ slug ++
    "')))")
  let progress ← current
  let position ← lift (positionJson dashboard progress.charts)
  upsert session "/api/v1/dashboard/" rows (.object [("dashboard_title", .string dashboard.title),
    ("slug", .string slug), ("published", .bool false), ("position_json", position),
    ("json_metadata", .object [("native_filter_configuration", translateFilters dashboard)]),
    ("css", .string ""), ("owners", .array [])])

/-- `_associate_charts`. -/
def associateCharts (dashboardId : Option Int) : Publishing Unit := do
  let progress ← current
  each (fun chart => do
    let _ ← session.send "PUT" ("/api/v1/chart/" ++ idText chart)
      (.object [("dashboards", .array [idJson dashboardId])])
    pure ()) progress.charts.values

/-- The dataset of a source id that has none so far. -/
def publishSource (databaseId : Int) (source : DataSourceSpec) : Publishing Unit := do
  let progress ← current
  match progress.datasets.get? source.id with
  | some _ => pure ()
  | none => do
      let datasetId ← upsertDataset session source databaseId
      change fun progress => { progress with
        datasets := progress.datasets.set source.id datasetId
        completed := progress.completed ++ [⟨"dataset", source.id, datasetId⟩] }

/-- The chart of a visualization, on the dataset of its source id. -/
def publishChart (visual : VisualizationSpec) : Publishing Unit := do
  let progress ← current
  let chartId ← upsertChart session visual
    ((progress.datasets.get? visual.dataSource.id).getD none)
  change fun progress => { progress with
    charts := progress.charts.set visual.id chartId
    completed := progress.completed ++ [⟨"chart", visual.id, chartId⟩] }

def publishVisual (databaseId : Int) (visual : VisualizationSpec) : Publishing Unit := do
  publishSource session databaseId visual.dataSource
  publishChart session visual

/-- The statements inside the `try` of `publish`. -/
def publishAll (databaseId : Int) (dashboard : DashboardSpec) : Publishing (Option Int) := do
  each (publishVisual session databaseId) dashboard.visualizations
  let dashboardId ← upsertDashboard session dashboard
  change fun progress =>
    { progress with completed := progress.completed ++ [⟨"dashboard", dashboard.id, dashboardId⟩] }
  associateCharts session dashboardId
  return dashboardId

/-- `publish`, of an authority that the server has issued. -/
def publish (dashboard : DashboardSpec) (authority : Authority) :
    Publishing (Dict String Json × List Artifact) := do
  lift (requirePublicationAuthority authority)
  lift (adapter.validatePublicationGovernance dashboard)
  lift adapter.requirePublisherIdentity
  let plan ← lift (plan dashboard)
  adapter.login session
  let databaseId ← adapter.databaseId session
  let dashboardId ← catching (publishAll session databaseId dashboard) fun cause => do
    let progress ← current
    raise (.failedAfter progress.completed cause)
  let progress ← current
  return ((((plan.set "mode" (.string "published")).set "status" (.string "completed")).set
    "dashboard_url" (.string (adapter.settings.supersetPublicUrl ++ "/superset/dashboard/" ++
      idText dashboardId ++ "/"))), progress.completed)

end SupersetAdapter

end PaymentsPlatform.AgentApi
