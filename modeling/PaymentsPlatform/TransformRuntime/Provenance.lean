import Mathlib.Data.Option.Basic
import PaymentsPlatform.Library.Separated
import PaymentsPlatform.TransformRuntime.TokenLink

/-!
# The mark of an execution

A table that an execution creates shows the marker of that execution in `SHOW CREATE TABLE`,
and that of no other one.  The counts that `validate_table` accepts are those of rows that meet
the contract of the token link.
-/

namespace PaymentsPlatform.TransformRuntime.TokenLink

open Separated (infix_of_cons infix_of_intercalate)

theorem doubled_isPrefix {needle text : List Char} (absent : quote ∉ needle)
    (found : needle <+: doubled text) : needle <+: text := by
  induction text generalizing needle with
  | nil => exact found
  | cons character rest ih =>
      cases needle with
      | nil => exact List.nil_prefix
      | cons first more =>
          rw [List.mem_cons, not_or] at absent
          unfold doubled at found
          split at found
          · exact absurd (List.cons_prefix_cons.mp found).1.symm absent.1
          · obtain ⟨rfl, later⟩ := List.cons_prefix_cons.mp found
            exact List.cons_prefix_cons.mpr ⟨rfl, ih absent.2 later⟩

theorem doubled_isInfix {needle text : List Char} (absent : quote ∉ needle)
    (found : needle <:+: doubled text) : needle <:+: text := by
  induction text with
  | nil => exact found
  | cons character rest ih =>
      by_cases isQuote : character = quote
      · rw [doubled, if_pos isQuote] at found
        exact List.infix_cons (ih
          (infix_of_cons absent (infix_of_cons absent found)))
      · have unfolded : doubled (character :: rest) = character :: doubled rest := by
          rw [doubled, if_neg isQuote]
        rw [unfolded] at found
        rcases List.infix_cons_iff.mp found with isPrefix | later
        · exact (doubled_isPrefix absent (unfolded ▸ isPrefix)).isInfix
        · exact List.infix_cons (ih later)

namespace ExecutionId

theorem digits_injective {execution other : ExecutionId} (same : execution.digits = other.digits) :
    execution = other := by
  cases execution
  cases other
  cases same
  rfl

theorem text_toList (execution : ExecutionId) :
    execution.text.toList = 'b' :: 'e' :: '_' :: execution.digits := by
  simp [text]

theorem marker_toList (execution : ExecutionId) :
    execution.marker.toList = "protected-bootstrap:".toList ++ execution.text.toList :=
  String.toList_append

theorem stagingTable_toList (execution : ExecutionId) :
    execution.stagingTable.toList = "__bootstrap_".toList ++ execution.digits := by
  simp only [stagingTable, String.toList_append, String.toList_ofList]

theorem fullmatch_text (execution : ExecutionId) : fullmatch execution.text = some execution := by
  have valid : execution.digits.length = 32 ∧ execution.digits.all (· ∈ hexadecimalDigits) :=
    ⟨execution.length, by simpa using execution.hexadecimal⟩
  unfold fullmatch
  rw [text_toList]
  simp only
  rw [dif_pos valid]

theorem stagingTable_injective {execution other : ExecutionId}
    (same : execution.stagingTable = other.stagingTable) : execution = other := by
  have lists := congrArg String.toList same
  rw [stagingTable_toList, stagingTable_toList] at lists
  exact digits_injective (List.append_cancel_left lists)

theorem marker_infix {execution other : ExecutionId}
    (found : execution.marker.toList <:+: other.marker.toList) : execution = other := by
  have lengths : execution.marker.toList.length = other.marker.toList.length := by
    simp only [marker_toList, text_toList, List.length_append, List.length_cons,
      execution.length, other.length]
  have lists := found.eq_of_length lengths
  rw [marker_toList, marker_toList] at lists
  have texts := List.append_cancel_left lists
  rw [text_toList, text_toList] at texts
  exact digits_injective (by simpa using texts)

theorem not_mem_digits {character : Char} (execution : ExecutionId)
    (absent : character ∉ hexadecimalDigits) : character ∉ execution.digits := fun inside =>
  absent (execution.hexadecimal character inside)

theorem quote_not_mem_marker (execution : ExecutionId) : quote ∉ execution.marker.toList := by
  have digits := execution.not_mem_digits (show quote ∉ hexadecimalDigits by decide)
  have first : quote ∉ "protected-bootstrap:".toList := by decide
  rw [marker_toList, text_toList, List.mem_append, List.mem_cons, List.mem_cons, List.mem_cons]
  exact not_or.mpr ⟨first, not_or.mpr ⟨by decide, not_or.mpr ⟨by decide, not_or.mpr
    ⟨by decide, digits⟩⟩⟩⟩

theorem colon_mem_marker (execution : ExecutionId) : ':' ∈ execution.marker.toList := by
  rw [marker_toList]
  exact List.mem_append_left _ (by decide)

end ExecutionId

/-- A table as its execution created it, but for its rows. -/
structure Own (execution : ExecutionId) (table : Table) : Prop where
  creator : table.creator = some execution
  comment : table.comment = some execution.marker
  columns : table.columns = expectedColumns
  unmarked : ¬ "protected-bootstrap:".toList <:+: table.location.toList

/-- The places that a table of an execution has. -/
def places (execution : ExecutionId) : List Relation :=
  [governed execution.stagingTable, governed finalTable]

theorem colon_not_mem_places {execution : ExecutionId} {relation : Relation}
    (placed : relation ∈ places execution) :
    ':' ∉ relation.catalog.toList ∧ ':' ∉ relation.schema.toList ∧
      ':' ∉ relation.table.toList := by
  have digits := execution.not_mem_digits (show ':' ∉ hexadecimalDigits by decide)
  have catalog : ':' ∉ "iceberg".toList := by decide
  have schema : ':' ∉ "silver_vault".toList := by decide
  rcases List.mem_pair.mp placed with rfl | rfl
  · refine ⟨catalog, schema, ?_⟩
    have first : ':' ∉ "__bootstrap_".toList := by decide
    simp only [governed, ExecutionId.stagingTable_toList, List.mem_append]
    exact not_or.mpr ⟨first, digits⟩
  · exact ⟨catalog, schema, by decide⟩

theorem Own.shows {execution other : ExecutionId} {table : Table} {relation : Relation}
    (own : Own execution table) (placed : relation ∈ places execution)
    (found : other.marker.toList <:+: showCreateTable relation table) : other = execution := by
  obtain ⟨catalog, schema, name⟩ := colon_not_mem_places placed
  have fixed : ∀ text ∈ ["CREATE TABLE ".toList, ".".toList, " (\n".toList,
      shownColumns expectedColumns, "\n)\n".toList, "COMMENT ".toList,
      "\nWITH (\n   format = ".toList, "PARQUET".toList,
      ",\n   format_version = 2,\n   location = ".toList, "\n)".toList], ':' ∉ text := by decide
  simp only [List.forall_mem_cons] at fixed
  have within : ∀ part : List Char, other.marker.toList <:+: part → ':' ∈ part :=
    fun part found => found.subset other.colon_mem_marker
  simp only [showCreateTable, shownParts, own.comment, own.columns, List.cons_append,
    List.nil_append] at found
  obtain ⟨part, listed, there⟩ := infix_of_intercalate other.quote_not_mem_marker found
  have inside := within part there
  simp only [List.mem_cons, List.not_mem_nil, or_false] at listed
  rcases listed with rfl | rfl | rfl | rfl | rfl | rfl | rfl
  · simp only [List.mem_append, catalog, schema, name, fixed, or_self] at inside
  · exact ExecutionId.marker_infix (doubled_isInfix other.quote_not_mem_marker there)
  · exact absurd inside fixed.2.2.2.2.2.2.1
  · exact absurd inside fixed.2.2.2.2.2.2.2.1
  · exact absurd inside fixed.2.2.2.2.2.2.2.2.1
  · have located := doubled_isInfix other.quote_not_mem_marker there
    rw [ExecutionId.marker_toList] at located
    exact absurd (List.infix_append_left.trans located) own.unmarked
  · exact absurd inside fixed.2.2.2.2.2.2.2.2.2.1

/-! ## The contract -/

/-- What a published token link is to be. -/
structure Contract (version : String) (rows : List Row) : Prop where
  nonempty : rows ≠ []
  complete : ∀ row ∈ rows, row.complete
  ids : (rows.map Row.beneficiaryId).Nodup
  tokens : (rows.map Row.beneficiaryToken).Nodup
  versions : ∀ row ∈ rows, row.tokenVersion = some version
  active : ∀ row ∈ rows, row.isActive = some true

theorem map_of_present {column : Row → Option String} {rows : List Row}
    (present : ∀ row ∈ rows, (column row).isSome) :
    rows.map column = (rows.filterMap column).map some := by
  induction rows with
  | nil => rfl
  | cons row rest ih =>
      obtain ⟨here, later⟩ := List.forall_mem_cons.mp present
      obtain ⟨value, found⟩ := Option.isSome_iff_exists.mp here
      simp [found, ih later]

theorem nodup_of_distinct {column : Row → Option String} {rows : List Row}
    (all : rows.length = distinct column rows) : (rows.map column).Nodup := by
  have dedup := (List.dedup_sublist (rows.filterMap column)).length_le
  have present := List.length_filterMap_le column rows
  have each := List.filterMap_length_eq_length.mp (show (rows.filterMap column).length =
    rows.length by unfold distinct at all; omega)
  have same : (rows.filterMap column).dedup = rows.filterMap column :=
    (List.dedup_sublist _).eq_of_length (by unfold distinct at all; omega)
  rw [map_of_present each]
  exact (List.dedup_eq_self.mp same).map (Option.some_injective _)

theorem eq_of_distinct_one {column : Row → Option String} {rows : List Row} {value : String}
    (single : distinct column rows = 1) (least : (rows.filterMap column).min? = some value) :
    ∀ row ∈ rows, ∀ found ∈ column row, found = value := by
  obtain ⟨only, shape⟩ := List.length_eq_one_iff.mp single
  have same : ∀ found ∈ rows.filterMap column, found = only := by
    intro found listed
    rw [← List.mem_dedup, shape] at listed
    exact List.mem_singleton.mp listed
  intro row listed found isFound
  rw [same found (List.mem_filterMap.mpr ⟨row, listed, isFound⟩), same value (List.min?_mem least)]

theorem contract_of_check {rows : List Row} {expectedRows : Option Nat} {version : String}
    {count : Nat}
    (checked : checkAggregates (aggregates rows) expectedRows (some version) = .ok count) :
    Contract version rows := by
  unfold checkAggregates at checked
  split at checked
  next => cases checked
  next physical =>
  split at checked
  next => cases checked
  next =>
  split at checked
  next => cases checked
  next versioned =>
    simp only [aggregates, not_or, not_not] at physical
    obtain ⟨nonempty, ids, tokens, active, nulls, versions⟩ := physical
    have complete : ∀ row ∈ rows, row.complete := by
      simpa using nulls
    refine ⟨by simpa using nonempty, complete, nodup_of_distinct ids, nodup_of_distinct tokens,
      ?_, ?_⟩
    · intro row listed
      have least : (rows.filterMap Row.tokenVersion).min? = some version := by
        simpa [aggregates] using versioned
      have present := complete row listed
      cases found : row.tokenVersion with
      | none => simp [Row.complete, found] at present
      | some value =>
          rw [eq_of_distinct_one versions least row listed value found]
    · simpa using List.countP_eq_length.mp active.symm

end PaymentsPlatform.TransformRuntime.TokenLink
