import Mathlib.Data.List.Dedup
import PaymentsPlatform.Ingestion.SourceRecord

/-!
# Trusted classification

The platform's own registry of `classification.py`: datasets and fields are
classified by their normalised names, an unknown dataset is refused, and an
unknown field inherits the classification of its dataset.
-/

namespace PaymentsPlatform.AgentApi

open Ingestion (isSpace strip strip_of_kept)

/-! ## Identifiers -/

/-- `normalize_identifier`: blanks, double quotes and backticks are stripped, in this order. -/
def normalizeIdentifier (value : String) : String :=
  (strip (· = '`') (strip (· = Char.ofNat 0x22) (strip isSpace value))).toLower

/-- The character is one of those that normalisation strips. -/
def stripped (character : Char) : Bool :=
  isSpace character || character = Char.ofNat 0x22 || character = '`'

theorem normalizeIdentifier_of_kept {text : String}
    (kept : ∀ character ∈ text.toList, stripped character = false) :
    normalizeIdentifier text = text.toLower := by
  simp only [stripped, Bool.or_eq_false_iff] at kept
  rw [normalizeIdentifier, strip_of_kept fun character member => (kept character member).1.1,
    strip_of_kept fun character member => (kept character member).1.2,
    strip_of_kept fun character member => (kept character member).2]

/-- `normalize_dataset`. -/
def normalizeDataset (value : String) : String :=
  ".".intercalate (((value.toList.splitOn '.').filter fun part => !part.all isSpace).map
    fun part => normalizeIdentifier (String.ofList part))

/-! ## Classifications -/

inductive DataClassification where
  | publicData
  | internal
  | confidential
  | restricted
  deriving DecidableEq, Repr

structure FieldClassification where
  dataset : String
  field : String
  classification : DataClassification
  semanticType : Option String
  deriving DecidableEq

structure ResourceContext where
  dataset : String
  fields : List String
  classification : DataClassification
  fieldClassifications : List FieldClassification
  /-- The source field of each output label. -/
  fieldLineage : List (String × String)
  district : Option String
  parish : Option String
  deriving DecidableEq

/-- `ClassificationError` and its two subclasses. -/
inductive ClassificationError where
  | unknownDataset (message : String)
  | ambiguousDataset (message : String)
  | other (message : String)
  deriving DecidableEq, Repr

/-- The names by which a semantic type of a sensitive field is recognised, in the order of the
checks of `_semantic_classification`. -/
def semanticFields : List (String × List String) :=
  [("beneficiary_name", ["beneficiary_name", "beneficiary_full_name", "beneficiary", "full_name"]),
    ("national_identifier", ["nin", "national_id", "national_identifier",
      "national_identification_number", "national_id_number"]),
    ("phone_number", ["phone", "phone_number", "telephone", "telephone_number", "mobile",
      "mobile_number", "msisdn"]),
    ("email_address", ["email", "email_address"]),
    ("account_identifier", ["account", "account_id", "account_number", "bank_account",
      "bank_account_number", "debtor_account", "creditor_account", "iban"]),
    ("payment_identifier", ["payment_id", "payment_identifier", "transaction_id",
      "transaction_identifier", "end_to_end_id", "endtoend_id", "instruction_id", "message_id"]),
    ("address", ["address", "postal_address", "residential_address", "beneficiary_address"]),
    ("debtor_identity", ["debtor_name", "debtor"]),
    ("creditor_identity", ["creditor_name", "creditor"])]

/-- `AGGREGATE_PUBLIC_FIELDS`. -/
def aggregatePublicFields : List String :=
  ["district", "region", "parish", "status", "repayment_rate", "principal_repayment_rate",
    "repayment_performance", "total", "average", "count"]

/-- `_semantic_classification`. -/
def semanticClassification (field : String) : Option (DataClassification × String) :=
  (semanticFields.find? fun entry => normalizeIdentifier field ∈ entry.2).map
    fun entry => (.restricted, entry.1)

/-- The registries of `TrustedClassificationResolver`, by normalised names. -/
structure Registry where
  datasetPolicies : List (String × DataClassification)
  fieldPolicies : List ((String × String) × DataClassification × String)
  /-- `DATASET_COLUMNS`. -/
  datasetColumns : List (String × List String)

namespace Registry

variable (registry : Registry)

def classifyDataset (dataset : String) : Except ClassificationError DataClassification :=
  match registry.datasetPolicies.lookup (normalizeDataset dataset) with
  | some classification => .ok classification
  | none => .error (.unknownDataset ("No trusted classification exists for dataset '" ++
      normalizeDataset dataset ++ "'"))

/-- The classification of a field of a dataset that is classified itself. -/
def fieldClassification (datasetClassification : DataClassification) (dataset field : String) :
    FieldClassification :=
  let canonicalDataset := normalizeDataset dataset
  let canonicalField := normalizeIdentifier field
  match registry.fieldPolicies.lookup (canonicalDataset, canonicalField) with
  | some (classification, semanticType) =>
      ⟨canonicalDataset, canonicalField, classification, some semanticType⟩
  | none =>
      match semanticClassification canonicalField with
      | some (classification, semanticType) =>
          ⟨canonicalDataset, canonicalField, classification, some semanticType⟩
      | none =>
          if canonicalField ∈ aggregatePublicFields then
            ⟨canonicalDataset, canonicalField, .publicData, none⟩
          else ⟨canonicalDataset, canonicalField, datasetClassification, none⟩

def classifyField (dataset field : String) : Except ClassificationError FieldClassification := do
  let datasetClassification ← registry.classifyDataset (normalizeDataset dataset)
  return registry.fieldClassification datasetClassification dataset field

/-- The normalised fields, each once and none empty. -/
def canonicalFields (fields : List String) : List String :=
  fields.foldl (fun kept field =>
    if normalizeIdentifier field ≠ "" ∧ normalizeIdentifier field ∉ kept then
      kept ++ [normalizeIdentifier field] else kept) []

def resolveResource (dataset : String) (fields : List String)
    (fieldLineage : List (String × String)) (district parish : Option String) :
    Except ClassificationError ResourceContext := do
  let canonicalDataset := normalizeDataset dataset
  let classification ← registry.classifyDataset canonicalDataset
  let fieldClassifications ← (canonicalFields fields).mapM (registry.classifyField canonicalDataset)
  return {
    dataset := canonicalDataset
    fields := canonicalFields fields
    classification := classification
    fieldClassifications := fieldClassifications
    fieldLineage := fieldLineage
    district := district
    parish := parish }

/-- `columns_for_star`. -/
def columnsForStar (dataset : String) : Except ClassificationError (List String) :=
  match registry.datasetColumns.lookup (normalizeDataset dataset) with
  | some (first :: rest) => .ok (first :: rest)
  | _ => .error (.other ("SELECT * cannot be governed because the platform holds no " ++
      "complete trusted column list for dataset '" ++ normalizeDataset dataset ++ "'. " ++
      "Star projections must name their columns explicitly, or the " ++
      "dataset must be registered with a complete column list."))

end Registry

/-- The registries that the platform starts with. -/
def platformRegistry : Registry where
  datasetPolicies :=
    [("iceberg.consumption.cns_pdm_local_government_performance", .publicData),
      ("iceberg.consumption.pdm_district_data", .publicData),
      ("iceberg.silver.slv_pdm_loans", .internal),
      ("iceberg.silver.slv_pdm_beneficiaries", .restricted),
      ("iceberg.silver.slv_pdm_dq_results", .internal),
      ("iceberg.silver.slv_pdm_payments_pmn_lifecycle_events", .internal),
      ("iceberg.silver.slv_pdm_payments_plm_lifecycle_events", .internal),
      ("iceberg.silver.slv_pdm_payment_event_correlation", .internal)]
  fieldPolicies :=
    [(("iceberg.silver.slv_pdm_beneficiaries", "beneficiary_name"),
      .restricted, "beneficiary_name")]
  datasetColumns := []

end PaymentsPlatform.AgentApi
