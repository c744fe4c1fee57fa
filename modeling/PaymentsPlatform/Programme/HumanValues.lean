import PaymentsPlatform.Programme.Workbook

/-!
# What is taken from the previous workbook

With the headers that the rendering gave them, the sheets of a register are read as they were
written.  Of the rows with one id the last one that holds a human value is what counts, and no two
sheets that are read show one register.
-/

namespace PaymentsPlatform.Programme

/-! ## Headers -/

/-- The headers of a sheet that shows these columns. -/
def labelCells (columns : List Column) : List Cell :=
  columns.map fun column => .text (headerLabel column)

/-- The human columns of a sheet, and where they are. -/
def guardedCells (columns : List Column) : List (Column × Nat) :=
  (columns.zipIdx 1).filter (·.1.isHuman)

section Headers

variable {environment : Environment} {columns : List Column}

theorem headerLabel_ne_empty (column : Column) : headerLabel column ≠ "" := by
  intro noLabel
  have matching := isHeaderOf_headerLabel.mpr (rfl : column.field = column.field)
  rw [noLabel] at matching
  cases matching

theorem headerText_label (column : Column) :
    headerText environment (.text (headerLabel column)) = headerLabel column := by
  rw [headerText, Cell.truthy, decide_eq_true (headerLabel_ne_empty column), if_pos rfl]
  rfl

theorem find?_isHeaderOf (distinct : (columns.map Column.field).Nodup) {column : Column}
    (listed : column ∈ columns) :
    columns.find? (isHeaderOf (headerLabel column)) = some column := by
  cases found : columns.find? (isHeaderOf (headerLabel column)) with
  | none =>
      have matching := isHeaderOf_headerLabel.mpr (rfl : column.field = column.field)
      exact absurd matching (List.find?_eq_none.mp found column listed)
  | some other =>
      have same := isHeaderOf_headerLabel.mp (List.find?_some found)
      have isOther := List.mem_of_find?_eq_some found
      rw [List.inj_on_of_nodup_map distinct isOther listed same]

theorem columnIndices_eq (columns : List Column) (headers : List Cell) :
    columnIndices environment columns headers = (headers.zipIdx 1).foldl (fun mapping item =>
      (columns.find? (isHeaderOf (headerText environment item.1))).elim mapping
        (mapping.set · item.2)) .empty := by
  rw [columnIndices]
  congr
  funext mapping item
  obtain ⟨label, index⟩ := item
  dsimp only
  cases columns.find? (isHeaderOf (headerText environment label)) <;> rfl

theorem columnIndices_labelCells (distinct : (columns.map Column.field).Nodup) :
    columnIndices environment columns (labelCells columns) = Dict.ofList (columns.zipIdx 1) := by
  have each : ∀ (rest : List Column) (start : Nat) (mapping : Dict Column Nat),
      (∀ column ∈ rest, column ∈ columns) →
      ((labelCells rest).zipIdx start).foldl (fun mapping item =>
        (columns.find? (isHeaderOf (headerText environment item.1))).elim mapping
          (mapping.set · item.2)) mapping =
      (rest.zipIdx start).foldl (fun mapping item => mapping.set item.1 item.2) mapping := by
    intro rest
    induction rest with
    | nil => exact fun _ _ _ => rfl
    | cons column rest ih =>
        intro start mapping inside
        rw [labelCells, List.map_cons, List.zipIdx_cons, List.zipIdx_cons, List.foldl_cons,
          List.foldl_cons]
        dsimp only
        rw [headerText_label, find?_isHeaderOf distinct (inside column List.mem_cons_self)]
        exact ih (start + 1) (mapping.set column start) fun other listed =>
          inside other (List.mem_cons_of_mem _ listed)
  rw [columnIndices_eq]
  exact each columns 1 .empty fun _ listed => listed

theorem items_columnIndices (distinct : (columns.map Column.field).Nodup) :
    (columnIndices environment columns (labelCells columns)).items = columns.zipIdx 1 := by
  rw [columnIndices_labelCells distinct]
  apply Dict.items_ofList_of_nodup
  rw [List.zipIdx_map_fst]
  exact distinct.of_map _

theorem idIndex_columnIndices (distinct : (columns.map Column.field).Nodup)
    (begins : columns.head? = some .id) :
    (columnIndices environment columns (labelCells columns)).get? .id = some 1 := by
  obtain ⟨rest, rfl⟩ := List.head?_eq_some_iff.mp begins
  rw [← Dict.mem_items, items_columnIndices distinct]
  exact List.mem_cons_self

end Headers

/-! ## Rows -/

/-- What the values hold for a record. -/
def HumanValues.taken (values : HumanValues) (register id : String) : Option (Dict Column Cell) :=
  (values.get? register).bind (·.get? id)

section Rows

variable {environment : Environment} {register : String} {guarded : List (Column × Nat)}
  {idIndex : Nat}

/-- A row with the id, and with some human value. -/
def holdsValues (environment : Environment) (guarded : List (Column × Nat)) (idIndex : Nat)
    (id : String) (row : List Cell) : Bool :=
  readRecordId environment (cellAt row idIndex) = some id && !(rowValues guarded row).items.isEmpty

theorem taken_readRow (state : HumanValues × List String) (row : List Cell)
    (wanted id : String) :
    (readRow environment register guarded idIndex state row).1.taken wanted id =
      if wanted = register ∧ holdsValues environment guarded idIndex id row = true then
        some (rowValues guarded row)
      else state.1.taken wanted id := by
  rw [readRow, holdsValues]
  cases readRecordId environment (cellAt row idIndex) with
  | none => simp
  | some found =>
      by_cases nothing : (rowValues guarded row).items.isEmpty
      · simp [nothing]
      · by_cases sameRegister : wanted = register
        · subst sameRegister
          by_cases sameId : found = id
          · simp [nothing, sameId, HumanValues.taken]
          · cases isTaken : state.1.get? wanted <;>
              simp [nothing, HumanValues.taken, Dict.get?_set, sameId, Dict.get?_empty, isTaken]
        · simp [nothing, HumanValues.taken, Dict.get?_set, sameRegister, Ne.symm sameRegister]

theorem taken_foldl_readRow (rows : List (List Cell)) (state : HumanValues × List String)
    (wanted id : String) :
    (rows.foldl (readRow environment register guarded idIndex) state).1.taken wanted id =
      if wanted = register then
        (((rows.filter (holdsValues environment guarded idIndex id)).getLast?).map
          (rowValues guarded)).or (state.1.taken wanted id)
      else state.1.taken wanted id := by
  induction rows using List.reverseRecOn with
  | nil => simp
  | append_singleton earlier row ih =>
      rw [List.foldl_append, List.foldl_cons, List.foldl_nil, taken_readRow, ih,
        List.filter_append]
      by_cases same : wanted = register
      · by_cases holds : holdsValues environment guarded idIndex id row
        · simp [same, holds]
        · simp [same, holds]
      · simp [same]

end Rows

/-! ## Sheets -/

/-- The sheets that show no records of their register. -/
def generatedSheets : List String := ["Change Log", "Data Dictionary"]

/-- The sheets that show the records of a register. -/
def registerSheets : List SheetDefinition :=
  sheetPlan.filter fun definition =>
    definition.register ≠ "" && !generatedSheets.contains definition.name

/-- The sheet of a register that is read, which the timeline is not. -/
def trackerOf (register : String) : Option SheetDefinition :=
  registerSheets.find? fun definition =>
    definition.register = register && !definition.columns.isEmpty

/-- The human values of the last row with the id that has some. -/
def lastValues (environment : Environment) (columns : List Column) (rows : List (List Cell))
    (id : String) : Option (Dict Column Cell) :=
  ((rows.filter (holdsValues environment (guardedCells columns) 1 id)).getLast?).map
    (rowValues (guardedCells columns))

/-- The human value that counts for a column of a record. -/
def capturedCell (environment : Environment) (previous : Workbook) (register id : String)
    (column : Column) : Option Cell := do
  let definition ← trackerOf register
  let sheet ← previous.get? definition.name
  let values ← lastValues environment definition.columns sheet.rows id
  values.get? column

/-- Every sheet that is read has the headers that it was rendered with. -/
def Labelled (previous : Workbook) : Prop :=
  ∀ definition ∈ registerSheets, definition.columns ≠ [] → ∀ sheet,
    previous.get? definition.name = some sheet → sheet.headers = labelCells definition.columns

theorem mem_registerSheets {definition : SheetDefinition} : definition ∈ registerSheets ↔
    definition ∈ sheetPlan ∧ definition.register ≠ "" ∧ definition.name ∉ generatedSheets := by
  simp [registerSheets]

theorem register_ne_of_generated : ∀ definition ∈ sheetPlan,
    generatedSheets.contains definition.name = true →
      ∀ other ∈ registerSheets, other.register ≠ definition.register := by
  decide +kernel

theorem isHuman_id : Column.isHuman .id = false := by
  decide

theorem trackerOf_eq_some {definition : SheetDefinition} (listed : definition ∈ registerSheets)
    (some_column : definition.columns ≠ []) :
    trackerOf definition.register = some definition := by
  have inPlan {other : SheetDefinition} (isSheet : other ∈ registerSheets)
      (filled : other.columns ≠ []) : other ∈ sheetPlan.filter (!·.columns.isEmpty) := by
    rw [List.mem_filter]
    exact ⟨(mem_registerSheets.mp isSheet).1, by simpa using filled⟩
  cases found : trackerOf definition.register with
  | none =>
      have other := List.find?_eq_none.mp found definition listed
      simp [some_column] at other
  | some other =>
      have matching := List.find?_some found
      simp only [Bool.and_eq_true, decide_eq_true_eq, Bool.not_eq_true', List.isEmpty_eq_false_iff]
        at matching
      rw [List.inj_on_of_nodup_map nodup_registers
        (inPlan (List.mem_of_find?_eq_some found) matching.2) (inPlan listed some_column)
        matching.1]

section Sheets

variable {environment : Environment} {previous : Workbook} {definition : SheetDefinition}
  {state : HumanValues × List String} {register id : String}

theorem columnIndices_nil (headers : List Cell) :
    columnIndices environment [] headers = .empty := by
  rw [columnIndices_eq]
  induction headers.zipIdx 1 with
  | nil => rfl
  | cons item rest ih => exact ih

theorem taken_readSheet_of_ne (apart : definition.register = register → definition.columns = []) :
    (readSheet environment previous state definition).1.taken register id =
      state.1.taken register id := by
  rw [readSheet]
  split
  next => rfl
  next =>
    split
    next => rfl
    next sheet found =>
      by_cases same : definition.register = register
      · simp [apart same, columnIndices_nil, Dict.empty]
      · dsimp only
        split
        next => rfl
        next => rw [taken_foldl_readRow, if_neg (Ne.symm same)]

theorem taken_readSheet (listed : definition ∈ registerSheets)
    (some_column : definition.columns ≠ []) (labelled : Labelled previous) :
    (readSheet environment previous state definition).1.taken definition.register id =
      ((previous.get? definition.name).bind fun sheet =>
        lastValues environment definition.columns sheet.rows id).or
          (state.1.taken definition.register id) := by
  obtain ⟨inPlan, some_register, -⟩ := mem_registerSheets.mp listed
  rw [readSheet, if_neg some_register]
  cases found : previous.get? definition.name with
  | none => rfl
  | some sheet =>
      have distinct := nodup_fields definition inPlan
      have begins := (head?_columns definition inPlan).resolve_left some_column
      have headers := labelled definition listed some_column sheet found
      dsimp only
      rw [headers, items_columnIndices distinct, idIndex_columnIndices distinct begins,
        Option.getD_some]
      change (if (guardedCells definition.columns).isEmpty then state else _).1.taken _ _ = _
      split
      next noneGuarded =>
        have nothing : lastValues environment definition.columns sheet.rows id = none := by
          rw [lastValues, List.isEmpty_iff.mp noneGuarded]
          have noRow : sheet.rows.filter (holdsValues environment [] 1 id) = [] := by
            rw [List.filter_eq_nil_iff]
            intro row _
            simp [holdsValues, rowValues, Dict.ofList]
          rw [noRow]
          rfl
        simp [nothing]
      next =>
        change (sheet.rows.foldl (readRow environment definition.register
          (guardedCells definition.columns) 1) state).1.taken _ _ = _
        rw [taken_foldl_readRow, if_pos rfl]
        rfl

theorem taken_foldl_readSheet_of_ne {definitions : List SheetDefinition}
    (apart : ∀ definition ∈ definitions, definition.register = register → definition.columns = []) :
    (definitions.foldl (readSheet environment previous) state).1.taken register id =
      state.1.taken register id := by
  induction definitions generalizing state with
  | nil => rfl
  | cons definition rest ih =>
      obtain ⟨first, others⟩ := List.forall_mem_cons.mp apart
      rw [List.foldl_cons, ih others, taken_readSheet_of_ne first]

theorem eq_of_register_eq {other : SheetDefinition} (inPlan : definition ∈ sheetPlan)
    (some_column : definition.columns ≠ []) (alsoInPlan : other ∈ sheetPlan)
    (other_column : other.columns ≠ []) (same : other.register = definition.register) :
    other = definition := by
  refine List.inj_on_of_nodup_map nodup_registers ?_ ?_ same <;> rw [List.mem_filter]
  · exact ⟨alsoInPlan, by simpa using other_column⟩
  · exact ⟨inPlan, by simpa using some_column⟩

/-- What the values hold for a record of a sheet. -/
theorem taken_readHumanValues (listed : definition ∈ registerSheets)
    (labelled : Labelled previous) :
    (readHumanValues environment previous).1.taken definition.register id =
      (trackerOf definition.register).bind fun tracker =>
        (previous.get? tracker.name).bind fun sheet =>
          lastValues environment tracker.columns sheet.rows id := by
  rw [readHumanValues]
  by_cases isRead : ∃ tracker ∈ sheetPlan, tracker.register = definition.register ∧
      tracker.columns ≠ []
  · obtain ⟨tracker, inPlan, same, some_column⟩ := isRead
    have isSheet : tracker ∈ registerSheets := by
      refine mem_registerSheets.mpr ⟨inPlan, same ▸ (mem_registerSheets.mp listed).2.1, ?_⟩
      intro generated
      exact register_ne_of_generated tracker inPlan (List.contains_iff_mem.mpr generated) definition
        listed same.symm
    obtain ⟨before, after, parted⟩ := List.append_of_mem inPlan
    have distinct : sheetPlan.Nodup := nodup_names.of_map _
    have alone : ∀ other, other ∈ before ∨ other ∈ after →
        other.register = definition.register → other.columns = [] := by
      intro other elsewhere sameRegister
      by_contra other_column
      have alsoInPlan : other ∈ sheetPlan := by
        rw [parted, List.mem_append, List.mem_cons]
        exact elsewhere.imp_right .inr
      obtain rfl := eq_of_register_eq inPlan some_column alsoInPlan other_column
        (sameRegister.trans same.symm)
      rw [parted, List.nodup_middle, List.nodup_cons, List.mem_append] at distinct
      exact distinct.1 elsewhere
    rw [parted, List.foldl_append, List.foldl_cons,
      taken_foldl_readSheet_of_ne fun other isAfter => alone other (.inr isAfter), ← same,
      taken_readSheet isSheet some_column labelled, same,
      taken_foldl_readSheet_of_ne fun other isBefore => alone other (.inl isBefore), ← same,
      trackerOf_eq_some isSheet some_column]
    exact Option.or_none
  · have noTracker : trackerOf definition.register = none := by
      rw [trackerOf, List.find?_eq_none]
      intro tracker isSheet matching
      simp only [Bool.and_eq_true, decide_eq_true_eq, Bool.not_eq_true', List.isEmpty_eq_false_iff]
        at matching
      exact isRead ⟨tracker, (mem_registerSheets.mp isSheet).1, matching⟩
    rw [noTracker, taken_foldl_readSheet_of_ne]
    · rfl
    · intro tracker inPlan same
      by_contra some_column
      exact isRead ⟨tracker, inPlan, same, some_column⟩

theorem humanValue_readHumanValues {registers : Registers} {changes : List Change}
    {months : List String} (listed : definition ∈ registerSheets) (labelled : Labelled previous)
    (column : Column) :
    SheetContext.humanValue ⟨registers, (readHumanValues environment previous).1, changes, months⟩
        definition.register id column =
      capturedCell environment previous definition.register id column := by
  have taken : (readHumanValues environment previous).1.taken definition.register id = _ :=
    taken_readHumanValues listed labelled
  rw [HumanValues.taken] at taken
  rw [SheetContext.humanValue, taken, capturedCell]
  simp only [Option.bind_eq_bind, Option.bind_assoc]

theorem of_mem_guardedCells {columns : List Column} {column : Column} {index : Nat} :
    (column, index) ∈ guardedCells columns ↔
      (column, index) ∈ columns.zipIdx 1 ∧ column.isHuman = true := by
  rw [guardedCells, List.mem_filter]

theorem of_capturedCell {column : Column} {cell : Cell}
    (captured : capturedCell environment previous register id column = some cell) :
    column.isHuman = true ∧ cell.isBlank = false := by
  simp only [capturedCell, Option.bind_eq_bind, Option.bind_eq_some_iff] at captured
  obtain ⟨tracker, -, sheet, -, values, isLast, isCell⟩ := captured
  obtain ⟨row, -, rfl⟩ := Option.map_eq_some_iff.mp isLast
  obtain ⟨⟨other, index⟩, guarded, isItem⟩ :=
    List.mem_filterMap.mp (Dict.mem_of_get?_ofList isCell)
  dsimp only at isItem
  split at isItem
  next => cases isItem
  next filled =>
    obtain ⟨rfl, rfl⟩ := Prod.mk.inj (Option.some.inj isItem)
    exact ⟨(of_mem_guardedCells.mp guarded).2, Bool.not_eq_true _ ▸ filled⟩

end Sheets

end PaymentsPlatform.Programme
