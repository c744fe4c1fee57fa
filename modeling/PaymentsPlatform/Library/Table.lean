import Mathlib.Data.List.Nodup

/-!
# Keyed tables

A table holds its rows in insertion order and carries the proof that no two of
them share a key.  `update` and `insert?` are the two ways a statement writes
to it; both keep the key unique by construction, so no later proof has to.
-/

namespace Relational

universe u v

section Order

variable {Row : Type u} {precedes : Row → Row → Bool}

/-- `ORDER BY … LIMIT 1`. -/
def firstBy (precedes : Row → Row → Bool) : List Row → Option Row
  | [] => none
  | row :: rest =>
      match firstBy precedes rest with
      | none => some row
      | some best => if precedes best row then some best else some row

theorem firstBy_mem {rows : List Row} {row : Row} (chosen : firstBy precedes rows = some row) :
    row ∈ rows := by
  induction rows generalizing row with
  | nil => simp [firstBy] at chosen
  | cons first rest ih =>
      unfold firstBy at chosen
      split at chosen
      next => exact Option.some.inj chosen ▸ List.mem_cons_self
      next best found =>
        split at chosen
        next =>
          exact List.mem_cons_of_mem _ (ih (Option.some.inj chosen ▸ found))
        next => exact Option.some.inj chosen ▸ List.mem_cons_self

theorem firstBy_eq_none {rows : List Row} (empty : firstBy precedes rows = none) : rows = [] := by
  cases rows with
  | nil => rfl
  | cons first rest =>
      unfold firstBy at empty
      split at empty
      next => simp at empty
      next => split at empty <;> simp at empty

end Order

/-- Rows in insertion order, no two of them with the same key. -/
structure Table {Row : Type u} {Key : Type v} (key : Row → Key) where
  rows : List Row
  unique : (rows.map key).Nodup

namespace Table

variable {Row : Type u} {Key : Type v} {key : Row → Key}

instance : Membership Row (Table key) := ⟨fun table row => row ∈ table.rows⟩

theorem mem_rows {table : Table key} {row : Row} : row ∈ table.rows ↔ row ∈ table := Iff.rfl

@[ext]
theorem ext {first second : Table key} (same : first.rows = second.rows) : first = second := by
  cases first
  cases second
  cases same
  rfl

instance [DecidableEq Row] : DecidableEq (Table key) := fun first second =>
  decidable_of_iff (first.rows = second.rows) ⟨Table.ext, congrArg Table.rows⟩

def empty : Table key := ⟨[], List.nodup_nil⟩

@[simp]
theorem rows_empty : (empty : Table key).rows = [] := rfl

@[simp]
theorem not_mem_empty (row : Row) : row ∉ (empty : Table key) := List.not_mem_nil

theorem eq_of_key_eq {table : Table key} {first second : Row}
    (firstStored : first ∈ table) (secondStored : second ∈ table)
    (sameKey : key first = key second) : first = second :=
  List.inj_on_of_nodup_map table.unique firstStored secondStored sameKey

/-- A report that only one row makes. -/
theorem filterMap_of_single {table : Table key} {row : Row} (stored : row ∈ table)
    {Report : Type v} {report : Row → Option Report}
    (silent : ∀ other ∈ table, key other ≠ key row → report other = none) :
    table.rows.filterMap report = (report row).toList := by
  have unique := table.unique
  obtain ⟨front, back, split⟩ := List.append_of_mem stored
  rw [split, List.map_append, List.map_cons, List.nodup_middle, List.nodup_cons] at unique
  have fresh : ∀ other ∈ front ++ back, key other ≠ key row := by
    intro other listed same
    rw [← List.map_append] at unique
    exact unique.1 (List.mem_map.mpr ⟨other, listed, same⟩)
  have none_front : front.filterMap report = [] := by
    rw [List.filterMap_eq_nil_iff]
    intro other listed
    refine silent other ?_ (fresh other (List.mem_append_left _ listed))
    exact mem_rows.mp (split ▸ List.mem_append_left _ listed)
  have none_back : back.filterMap report = [] := by
    rw [List.filterMap_eq_nil_iff]
    intro other listed
    refine silent other ?_ (fresh other (List.mem_append_right _ listed))
    exact mem_rows.mp (split ▸ List.mem_append_right _ (List.mem_cons_of_mem _ listed))
  rw [split, List.filterMap_append, none_front, List.nil_append, List.filterMap_cons, none_back]
  cases report row <;> rfl

section Update

/-- Overwrite every row that meets the condition.  The assignment may not
touch the key. -/
def update (table : Table key) (condition : Row → Bool) (assign : Row → Row)
    (keyKept : ∀ row, key (assign row) = key row) : Table key where
  rows := table.rows.map fun row => if condition row then assign row else row
  unique := by
    have sameKeys : (key ∘ fun row => if condition row then assign row else row) = key := by
      funext row
      by_cases met : condition row = true <;> simp [met, keyKept]
    rw [List.map_map, sameKeys]
    exact table.unique

variable {table : Table key} {condition : Row → Bool} {assign : Row → Row}
  {keyKept : ∀ row, key (assign row) = key row}

@[simp]
theorem rows_update : (table.update condition assign keyKept).rows =
    table.rows.map fun row => if condition row then assign row else row := rfl

theorem mem_update {row : Row} : row ∈ table.update condition assign keyKept ↔
    ∃ old ∈ table, row = if condition old then assign old else old := by
  simp only [← mem_rows, rows_update, List.mem_map]
  exact exists_congr fun old => and_congr_right fun _ => eq_comm

theorem update_of_unmet (unmet : ∀ row ∈ table, condition row = false) :
    table.update condition assign keyKept = table := by
  apply Table.ext
  rw [rows_update]
  conv_rhs => rw [← List.map_id table.rows]
  apply List.map_congr_left
  intro row stored
  simp [unmet row stored]

end Update

section Lookup

variable [DecidableEq Key]

/-- The row stored under a key. -/
def lookup (table : Table key) (wanted : Key) : Option Row :=
  table.rows.find? fun row => key row = wanted

theorem lookup_eq_some {table : Table key} {wanted : Key} {row : Row} :
    table.lookup wanted = some row ↔ row ∈ table ∧ key row = wanted := by
  constructor
  · intro found
    exact ⟨List.mem_of_find?_eq_some found, by simpa using List.find?_some found⟩
  · rintro ⟨stored, rfl⟩
    cases found : table.lookup (key row) with
    | none =>
        have absent := List.find?_eq_none.mp found row stored
        simp at absent
    | some other =>
        have otherStored := List.mem_of_find?_eq_some found
        have sameKey : key other = key row := by simpa using List.find?_some found
        rw [eq_of_key_eq otherStored stored sameKey]

theorem lookup_eq_none {table : Table key} {wanted : Key} :
    table.lookup wanted = none ↔ ∀ row ∈ table, key row ≠ wanted := by
  simp [lookup, List.find?_eq_none, mem_rows]

theorem lookup_key {table : Table key} {row : Row} (stored : row ∈ table) :
    table.lookup (key row) = some row :=
  lookup_eq_some.mpr ⟨stored, rfl⟩

@[simp]
theorem lookup_empty (wanted : Key) : (empty : Table key).lookup wanted = none := rfl

theorem lookup_update {table : Table key} {condition : Row → Bool} {assign : Row → Row}
    {keyKept : ∀ row, key (assign row) = key row} (wanted : Key) :
    (table.update condition assign keyKept).lookup wanted =
      (table.lookup wanted).map fun row => if condition row then assign row else row := by
  cases found : table.lookup wanted with
  | none =>
      rw [lookup_eq_none] at found
      simp only [Option.map_none]
      rw [lookup_eq_none]
      intro row stored
      obtain ⟨old, oldStored, rfl⟩ := mem_update.mp stored
      by_cases met : condition old = true <;> simp [met, keyKept, found old oldStored]
  | some old =>
      rw [lookup_eq_some] at found
      simp only [Option.map_some]
      rw [lookup_eq_some]
      refine ⟨mem_update.mpr ⟨old, found.1, rfl⟩, ?_⟩
      by_cases met : condition old = true <;> simp [met, keyKept, found.2]

end Lookup

section Replace

variable [DecidableEq Key]

/-- Put a row in the place of the one stored under its key. -/
def replace (table : Table key) (row : Row) : Table key :=
  table.update (fun stored => key stored = key row)
    (fun stored => if key stored = key row then row else stored) (by
      intro stored
      by_cases same : key stored = key row <;> simp [same])

theorem rows_replace (table : Table key) (row : Row) : (table.replace row).rows =
    table.rows.map fun stored => if key stored = key row then row else stored := by
  rw [replace, rows_update]
  apply List.map_congr_left
  intro stored _
  by_cases same : key stored = key row <;> simp [same]

theorem update_eq_replace {table : Table key} {condition : Row → Bool} {assign : Row → Row}
    {keyKept : ∀ row, key (assign row) = key row} {row : Row} (stored : row ∈ table)
    (met : condition row = true)
    (keyed : ∀ other ∈ table, condition other = true → key other = key row) :
    table.update condition assign keyKept = table.replace (assign row) := by
  apply Table.ext
  rw [rows_update, rows_replace]
  apply List.map_congr_left
  intro other otherStored
  by_cases otherMet : condition other = true
  · have sameKey := keyed other otherStored otherMet
    rw [if_pos otherMet, eq_of_key_eq otherStored stored sameKey]
    simp [keyKept]
  · have otherKey : key other ≠ key row := fun same =>
      otherMet (eq_of_key_eq otherStored stored same ▸ met)
    simp [otherMet, keyKept, otherKey]

theorem lookup_replace (table : Table key) (row : Row) (wanted : Key) :
    (table.replace row).lookup wanted =
      if key row = wanted then (table.lookup wanted).map (fun _ => row)
      else table.lookup wanted := by
  rw [replace, lookup_update]
  cases found : table.lookup wanted with
  | none => simp
  | some stored =>
      have storedKey := (lookup_eq_some.mp found).2
      by_cases same : key row = wanted
      · simp [storedKey, same]
      · have other : key stored ≠ key row := fun equal => same (equal.symm.trans storedKey)
        simp [other, same]

theorem mem_replace {table : Table key} {row other : Row} :
    other ∈ table.replace row ↔
      (other ∈ table ∧ key other ≠ key row) ∨
        (other = row ∧ ∃ stored ∈ table, key stored = key row) := by
  rw [replace, mem_update]
  constructor
  · rintro ⟨stored, present, rfl⟩
    by_cases same : key stored = key row
    · exact .inr ⟨by simp [same], stored, present, same⟩
    · exact .inl (by simpa [same] using present)
  · rintro (⟨present, other_ne⟩ | ⟨rfl, stored, present, same⟩)
    · exact ⟨other, present, by simp [other_ne]⟩
    · exact ⟨stored, present, by simp [same]⟩

theorem mem_replace_of_distinct {table : Table key} {row rewritten other : Row} {rest : List Row}
    (distinct : ((row :: rest).map key).Nodup) (sameKey : key rewritten = key row)
    (listed : other ∈ rest) (stored : other ∈ table) : other ∈ table.replace rewritten := by
  have fresh : key row ∉ rest.map key := (List.nodup_cons.mp distinct).1
  rw [mem_replace]
  left
  refine ⟨stored, ?_⟩
  intro same
  apply fresh
  rw [← sameKey, ← same]
  exact List.mem_map_of_mem listed

theorem lookup_foldl_replace {rows : List Row} (distinct : (rows.map key).Nodup)
    (table : Table key) (wanted : Key) :
    (rows.foldl replace table).lookup wanted =
      (table.lookup wanted).map fun stored =>
        (rows.find? fun row => key row = wanted).getD stored := by
  induction rows generalizing table with
  | nil => simp
  | cons row rest ih =>
      obtain ⟨fresh, restDistinct⟩ := List.nodup_cons.mp distinct
      rw [List.foldl_cons, ih restDistinct, lookup_replace]
      by_cases same : key row = wanted
      · have absent : rest.find? (fun other => key other = wanted) = none := by
          rw [List.find?_eq_none]
          intro other listed
          simpa [← same] using fun equal => fresh (List.mem_map.mpr ⟨other, listed, equal⟩)
        simp [same, absent, Function.comp_def]
      · simp [same]

/-- Rewriting selected rows of the table, one after the other. -/
theorem lookup_foldl_replace_map [DecidableEq Row] {table : Table key} {selected : List Row}
    {assign : Row → Row} (keyKept : ∀ row, key (assign row) = key row)
    (distinct : (selected.map key).Nodup) (stored : ∀ row ∈ selected, row ∈ table)
    (wanted : Key) :
    ((selected.map assign).foldl replace table).lookup wanted =
      (table.lookup wanted).map fun row => if row ∈ selected then assign row else row := by
  have sameKeys : key ∘ assign = key := funext keyKept
  rw [lookup_foldl_replace (by rwa [List.map_map, sameKeys])]
  refine Option.map_congr fun row found => ?_
  obtain ⟨rowStored, rfl⟩ := lookup_eq_some.mp found
  have unique : ∀ other ∈ selected, key other = key row → other = row :=
    fun other listed same => eq_of_key_eq (stored other listed) rowStored same
  rw [List.find?_map]
  split
  next listed =>
    cases chosen : selected.find? ((fun other => decide (key other = key row)) ∘ assign) with
    | none =>
        have unmet := List.find?_eq_none.mp chosen row listed
        simp [keyKept] at unmet
    | some other =>
        have met := List.find?_some chosen
        simp only [Function.comp_apply, keyKept, decide_eq_true_eq] at met
        rw [unique other (List.mem_of_find?_eq_some chosen) met]
        rfl
  next unlisted =>
    have absent : selected.find? ((fun other => decide (key other = key row)) ∘ assign) = none := by
      rw [List.find?_eq_none]
      intro other listed met
      simp only [Function.comp_apply, keyKept, decide_eq_true_eq] at met
      exact unlisted (unique other listed met ▸ listed)
    rw [absent]
    rfl

end Replace

section Insert

variable [DecidableEq Key]

omit [DecidableEq Key] in
theorem unique_concat (table : Table key) {row : Row} (free : key row ∉ table.rows.map key) :
    ((table.rows ++ [row]).map key).Nodup := by
  rw [List.map_append]
  refine List.nodup_append.mpr ⟨table.unique, List.nodup_singleton _, ?_⟩
  intro first firstStored second secondStored same
  simp only [List.map_cons, List.map_nil, List.mem_singleton] at secondStored
  rw [same, secondStored] at firstStored
  exact free firstStored

/-- Append a row, unless its key is taken or a stored row conflicts with it. -/
def insert? (table : Table key) (conflicts : Row → Bool) (row : Row) : Option (Table key) :=
  if taken : key row ∈ table.rows.map key then
    none
  else if table.rows.any conflicts then
    none
  else
    some ⟨table.rows ++ [row], table.unique_concat taken⟩

omit [DecidableEq Key] in
theorem key_not_mem {table : Table key} {row : Row}
    (free : ∀ stored ∈ table, key stored ≠ key row) : key row ∉ table.rows.map key := by
  rw [List.mem_map]
  rintro ⟨stored, present, sameKey⟩
  exact free stored present sameKey

theorem insert?_eq_some {table result : Table key} {conflicts : Row → Bool} {row : Row} :
    table.insert? conflicts row = some result ↔
      (∀ stored ∈ table, key stored ≠ key row) ∧
        (∀ stored ∈ table, conflicts stored = false) ∧ result.rows = table.rows ++ [row] := by
  unfold insert?
  constructor
  · intro inserted
    split at inserted
    next taken => simp at inserted
    next free =>
      split at inserted
      next conflict => simp at inserted
      next clear =>
        cases inserted
        refine ⟨fun stored present same => free ?_, by simpa [mem_rows] using clear, rfl⟩
        rw [← same]
        exact List.mem_map_of_mem present
  · rintro ⟨free, clear, same⟩
    have noConflict : ¬ (table.rows.any conflicts = true) := by
      simpa [mem_rows] using clear
    rw [dif_neg (key_not_mem free), if_neg noConflict]
    exact congrArg some (Table.ext same.symm)

theorem insert?_isSome {table : Table key} {conflicts : Row → Bool} {row : Row}
    (free : ∀ stored ∈ table, key stored ≠ key row)
    (clear : ∀ stored ∈ table, conflicts stored = false) :
    ∃ result, table.insert? conflicts row = some result :=
  ⟨⟨table.rows ++ [row], table.unique_concat (key_not_mem free)⟩,
    insert?_eq_some.mpr ⟨free, clear, rfl⟩⟩

variable {table result : Table key} {conflicts : Row → Bool} {row : Row}

theorem insert?_congr {others : Row → Bool}
    (same : ∀ stored ∈ table, conflicts stored = others stored) :
    table.insert? conflicts row = table.insert? others row := by
  have alike : table.rows.any conflicts = table.rows.any others := by
    rw [Bool.eq_iff_iff, List.any_eq_true, List.any_eq_true]
    exact exists_congr fun stored => and_congr_right fun present => by rw [same stored present]
  simp only [insert?, alike]

theorem rows_insert (inserted : table.insert? conflicts row = some result) :
    result.rows = table.rows ++ [row] :=
  (insert?_eq_some.mp inserted).2.2

theorem mem_insert (inserted : table.insert? conflicts row = some result) {other : Row} :
    other ∈ result ↔ other ∈ table ∨ other = row := by
  simp [← mem_rows, rows_insert inserted]

theorem lookup_insert (inserted : table.insert? conflicts row = some result) (wanted : Key) :
    result.lookup wanted = if key row = wanted then some row else table.lookup wanted := by
  have free := (insert?_eq_some.mp inserted).1
  unfold lookup
  rw [rows_insert inserted, List.find?_append]
  by_cases same : key row = wanted
  · have absent : table.rows.find? (fun stored => key stored = wanted) = none := by
      rw [List.find?_eq_none]
      intro stored present
      simpa [← same] using free stored present
    simp [absent, same]
  · simp [same]

/-- Append a row whose key is free. -/
def push (table : Table key) (row : Row) : Table key :=
  (table.insert? (fun _ => false) row).getD table

theorem push_of_insert (inserted : table.insert? conflicts row = some result) :
    table.push row = result := by
  obtain ⟨free, -, same⟩ := insert?_eq_some.mp inserted
  have plain : table.insert? (fun _ => false) row = some result :=
    insert?_eq_some.mpr ⟨free, fun _ _ => rfl, same⟩
  rw [push, plain, Option.getD_some]

theorem insert?_push (free : ∀ stored ∈ table, key stored ≠ key row) :
    table.insert? (fun _ => false) row = some (table.push row) := by
  obtain ⟨result, inserted⟩ := insert?_isSome free fun _ _ => rfl
  rw [push_of_insert inserted]
  exact inserted

theorem mem_push (free : ∀ stored ∈ table, key stored ≠ key row) {other : Row} :
    other ∈ table.push row ↔ other ∈ table ∨ other = row :=
  mem_insert (insert?_push free)

theorem lookup_push (free : ∀ stored ∈ table, key stored ≠ key row) (wanted : Key) :
    (table.push row).lookup wanted = if key row = wanted then some row else table.lookup wanted :=
  lookup_insert (insert?_push free) wanted

end Insert

end Table

end Relational
