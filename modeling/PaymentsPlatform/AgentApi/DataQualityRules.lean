import PaymentsPlatform.AgentApi.DataQuality

/-!
# What a rule asks for

The rows that a rule is about and those that violate it, and when the counts of its statement are
theirs: unless a list of accepted values has a null, or a key of the reference dataset is repeated.
-/

namespace PaymentsPlatform.AgentApi.DataQuality

open Library.Fallible

/-! ## Compiled rules -/

/-- The statement and the sample of a rule over the dataset. -/
inductive Compiled (rule : DQRule) (dataset : Reference) : Statement → Option Sample → Prop
  | notNull : rule.ruleType = .notNull →
      Compiled rule dataset (.failures .rows (.isNull rule.field) dataset)
        (some (.failures rule.field (.isNull rule.field) dataset))
  | unique : rule.ruleType = .unique →
      Compiled rule dataset (.duplicates rule.field dataset)
        (some (.duplicates rule.field dataset))
  | acceptedValues (values : List Json) : rule.ruleType = .acceptedValues →
      rule.parameters.lookup "values" = some (.array values) →
      Compiled rule dataset (.failures (.values rule.field) (.notIn rule.field values) dataset)
        (some (.failures rule.field (.notIn rule.field values) dataset))
  | range (least greatest : Option Json) : rule.ruleType = .range →
      rule.parameters.lookup "min" = least → rule.parameters.lookup "max" = greatest →
      Compiled rule dataset
        (.failures (.values rule.field) (.outside rule.field least greatest) dataset)
        (some (.failures rule.field (.outside rule.field least greatest) dataset))
  | referentialIntegrity (text referenceField : String) (reference : Reference) :
      rule.ruleType = .referentialIntegrity →
      rule.parameters.lookup "reference_dataset" = some (.string text) →
      rule.parameters.lookup "reference_field" = some (.string referenceField) →
      qualified text = .ok reference → ToolPool.isIdentifier referenceField = true →
      Compiled rule dataset (.orphans rule.field dataset referenceField reference) none

section Prepared

variable {Value : Type} {engine : DataQualityEngine Value} {rule : DQRule} {statement : Statement}
  {sample : Option Sample} {extraFields : List String} {calls after : ToolCalls}

end Prepared

/-! ## Violations -/

section Violations

variable {Value : Type}

/-- The rows of the dataset with this name. -/
def rowsOf (tables : Tables Value) (dataset : String) : Multiset (Row Value) :=
  match qualified dataset with
  | .ok reference => tables reference.dataset
  | .error _ => 0

namespace DQRule

variable (trino : Trino Value) (tables : Tables Value) (rule : DQRule)

def acceptedValues : List Json :=
  match rule.parameters.lookup "values" with
  | some (.array values) => values
  | _ => []

/-- The values of the field. -/
def values : Multiset Value := (rowsOf tables rule.dataset).filterMap fun row => row rule.field

end DQRule

/-- The comparisons of a statement are ones that Trino makes. -/
def Statement.accepted (trino : Trino Value) : Statement → Bool
  | .failures _ failure dataset => failure.accepted trino dataset
  | .duplicates _ _ => true
  | .orphans field dataset referenceField reference =>
      trino.comparable dataset field reference referenceField

end Violations

/-! ## Counts -/

section Counts

variable {Value : Type} {trino : Trino Value} {tables : Tables Value} {rule : DQRule}
  {dataset : Reference} {row : Row Value}

section References

variable {text referenceField : String} {reference : Reference}

end References

section Exact

variable [DecidableEq Value] {counts : Nat × Nat}

end Exact

end Counts

end PaymentsPlatform.AgentApi.DataQuality
