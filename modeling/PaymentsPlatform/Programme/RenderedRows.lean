import PaymentsPlatform.Library.Fallible
import PaymentsPlatform.Programme.HumanValues

/-!
# What the sheets show

The row of a record is read under its id.  A human value is rendered to itself if it is a number, or
a text that the column does not take for a date or a count; a boolean becomes a text, and so does
every date, which is read as a date-time.
-/

namespace PaymentsPlatform.Programme

open Ingestion (isSpace strip)
open Library.Fallible

/-- The columns that a sheet shows. -/
def shownColumns (definition : SheetDefinition) : List Column :=
  if definition.name = "Gantt" then ganttAnchorColumns else definition.columns

section Values

variable (environment : Environment)

/-- The id under which the row of a record is read. -/
def shownId (record : Record) : Option String :=
  match renderedCell environment .id ((record.lookup "id").getD .null) with
  | .ok cell => readRecordId environment cell
  | .error _ => none

/-- The rendering leaves the value of a cell as it is: no boolean and no date-time, and no text that
is a date in a column of dates or a number in a column of counts. -/
def Keeps (column : Column) : Cell → Prop
  | .empty | .bool _ | .dateTime _ => False
  | .text shown =>
      (column.isDateColumn = true → shown.length ≤ 10 →
        parseDate environment.digit shown = none) ∧
      (column.isCountColumn = true → environment.truncate shown = .refused) ∧
      environment.write column.format (.text shown) = .ok (.text shown)
  | .int value => environment.write column.format (.int value) = .ok (.int value)
  | .float value => environment.write column.format (.float value) = .ok (.float value)
  | .other shown =>
      renderedCell environment column (.scalar shown) = .ok (.other shown)

/-- A cell stays: its value counts for the id of the record, and is kept; or else what counts, which
is the value of the register if there is no human one, is rendered to the same. -/
def Remains (previous : Workbook) (register : String) (record : Record) (column : Column)
    (cell : Cell) : Prop :=
  match capturedCell environment previous register (fieldText environment record "id") column with
  | some human =>
      (human = cell ∧ Keeps environment column cell) ∨
        (human ≠ cell ∧ renderedCell environment column human.value = .ok cell)
  | none =>
      renderedCell environment column ((record.lookup column.field).getD .null) = .ok cell

variable {environment}

theorem shownId_of_text {record : Record} {text : String}
    (isId : record.lookup "id" = some (.text text)) (filled : text ≠ "")
    (stored : environment.write .general (.text text) = .ok (.text text)) :
    shownId environment record =
      if strip isSpace text = "AWAITING POPULATION" then none else some (strip isSpace text) := by
  have general : Column.isDateColumn .id = false ∧ Column.isCountColumn .id = false ∧
      Column.format .id = .general := by
    decide
  have asText : textValue environment .id text = .ok (.text text) := by
    rw [textValue, dateIn, general.1, general.2.1]
    rfl
  have rendered : renderedCell environment .id (.text text) = .ok (.text text) := by
    change textValue environment .id text >>= environment.write (Column.format .id) = _
    rw [asText, general.2.2]
    exact stored
  rw [shownId, isId, Option.getD_some, rendered]
  by_cases isNote : strip isSpace text = "AWAITING POPULATION" <;>
    simp [readRecordId, Cell.truthy, filled, Cell.str, Cell.value, Value.str, isNote]

end Values

/-! ## Cells -/

section Cells

variable {environment : Environment} {column : Column}

theorem of_dateTimeText (time : Calendar.Timestamp) :
    10 < (dateTimeText time).length ∧ ':' ∈ (dateTimeText time).toList := by
  rw [dateTimeText, ← String.length_toList, String.toList_ofList]
  constructor
  · simp only [List.length_append, List.length_cons, Calendar.Date.chars,
      Calendar.Date.length_padded]
    omega
  · simp

theorem ne_of_write_text {format : Format} {text : String} {cell : Cell}
    (filled : cell.isBlank = false) (noText : ∀ read, cell ≠ .text read) :
    environment.write format (.text text) ≠ .ok cell := by
  intro isCell
  rcases environment.write_text format text cell isCell with rfl | ⟨read, isText⟩
  · cases filled
  · exact noText read isText

theorem dateIn_eq_none {text : String} (filled : text ≠ "") :
    dateIn environment column text = none ↔
      (column.isDateColumn = true → text.length ≤ 10 →
        parseDate environment.digit text = none) := by
  rw [dateIn, ite_eq_right_iff]
  simp [filled]

theorem textValue_dateTime (time : Calendar.Timestamp) :
    textValue environment column (dateTimeText time) = .ok (.text (dateTimeText time)) := by
  obtain ⟨long, colon⟩ := of_dateTimeText time
  have noDate : dateIn environment column (dateTimeText time) = none := by
    rw [dateIn, if_neg]
    simp only [Bool.and_eq_true, decide_eq_true_eq]
    omega
  rw [textValue, noDate]
  dsimp only
  split
  next => rw [environment.truncate_colon _ colon]
  next => rfl

theorem write_textValue_iff {shown : String} (filled : shown ≠ "") :
    (do environment.write column.format (← textValue environment column shown)) =
        .ok (.text shown) ↔ Keeps environment column (.text shown) := by
  rw [textValue, Keeps, ← dateIn_eq_none filled]
  cases dateIn environment column shown with
  | some date => exact iff_of_false (environment.write_date _ date shown) nofun
  | none =>
      by_cases isCount : column.isCountColumn = true
      · rw [if_pos isCount]
        cases truncated : environment.truncate shown with
        | number value =>
            exact iff_of_false (environment.write_int _ value shown) (by simp [isCount])
        | refused => simp [Bind.bind, Except.bind]
        | overflow => exact iff_of_false nofun (by simp [isCount])
      · rw [if_neg isCount]
        simp [isCount, Bind.bind, Except.bind]

theorem renderedCell_value_iff {cell : Cell} (filled : cell.isBlank = false) :
    renderedCell environment column cell.value = .ok cell ↔ Keeps environment column cell := by
  cases cell with
  | empty => cases filled
  | text shown =>
      have nonempty : shown ≠ "" := by simpa [Cell.isBlank] using filled
      exact write_textValue_iff nonempty
  | int number => exact Iff.rfl
  | float number => exact Iff.rfl
  | bool flag => exact iff_of_false (ne_of_write_text filled nofun) not_false
  | dateTime time =>
      refine iff_of_false ?_ not_false
      change ¬ (textValue environment column (dateTimeText time) >>=
        environment.write column.format) = _
      rw [textValue_dateTime]
      exact ne_of_write_text filled nofun
  | other shown => exact Iff.rfl

end Cells

/-! ## Rows -/

section Rows

variable {environment : Environment} {previous : Workbook} {registers : Registers}
  {changes : List Change} {months : List String} {definition : SheetDefinition}

/-- What the new workbook is rendered from. -/
def refreshContext (environment : Environment) (previous : Workbook) (registers : Registers)
    (changes : List Change) (months : List String) : SheetContext :=
  ⟨registers, (readHumanValues environment previous).1, changes, months⟩

theorem valueFor_id (listed : definition ∈ registerSheets) (labelled : Labelled previous)
    (record : Record) :
    valueFor environment (refreshContext environment previous registers changes months)
        definition.register record .id = (record.lookup "id").getD .null := by
  have notCalculated : Column.isCalculated .id = false := by decide
  rw [valueFor, notCalculated, if_neg Bool.false_ne_true, refreshContext,
    humanValue_readHumanValues listed labelled]
  cases captured : capturedCell environment previous definition.register
      (fieldText environment record "id") .id with
  | none => rfl
  | some cell => cases isHuman_id.symm.trans (of_capturedCell captured).1

theorem valueFor_of_isHuman (listed : definition ∈ registerSheets) (labelled : Labelled previous)
    (record : Record) {column : Column} (human : column.isHuman = true) :
    valueFor environment (refreshContext environment previous registers changes months)
        definition.register record column =
      ((capturedCell environment previous definition.register
        (fieldText environment record "id") column).map Cell.value).getD
          ((record.lookup column.field).getD .null) := by
  rw [valueFor, isCalculated_of_isHuman human, if_neg Bool.false_ne_true, refreshContext,
    humanValue_readHumanValues listed labelled]
  cases captured : capturedCell environment previous definition.register
      (fieldText environment record "id") column with
  | none => rfl
  | some cell =>
      dsimp only
      rw [(of_capturedCell captured).2]
      rfl

theorem renderedCell_valueFor_iff (listed : definition ∈ registerSheets)
    (labelled : Labelled previous) (record : Record) {column : Column}
    (human : column.isHuman = true) {cell : Cell} (filled : cell.isBlank = false) :
    renderedCell environment column
        (valueFor environment (refreshContext environment previous registers changes months)
          definition.register record column) = .ok cell ↔
      Remains environment previous definition.register record column cell := by
  rw [valueFor_of_isHuman listed labelled record human, Remains]
  cases capturedCell environment previous definition.register
      (fieldText environment record "id") column with
  | none => rfl
  | some counting =>
      by_cases same : counting = cell
      · subst same
        simp [renderedCell_value_iff filled]
      · simp [same]

theorem cellAt_of_mapM {step : Column → Except Fault Cell} {columns : List Column}
    {row : List Cell} (returned : columns.mapM step = .ok row) {column : Column} {index : Nat}
    (listed : (column, index) ∈ columns.zipIdx 1) : step column = .ok (cellAt row index) := by
  obtain ⟨-, found⟩ := List.mk_mem_zipIdx_iff_le_and_getElem?_sub.mp listed
  obtain ⟨cell, isCell, rendered⟩ := getElem?_mapM returned found
  rw [rendered, cellAt, List.getD_eq_getElem?_getD, isCell]
  rfl

theorem readRecordId_renderRow (listed : definition ∈ registerSheets)
    (labelled : Labelled previous) {columns : List Column} (begins : columns.head? = some .id)
    {record : Record} {row : List Cell}
    (rendered : renderRow environment
      (refreshContext environment previous registers changes months) definition.register columns
      record = .ok row) :
    readRecordId environment (cellAt row 1) = shownId environment record := by
  obtain ⟨rest, rfl⟩ := List.head?_eq_some_iff.mp begins
  have isFirst := cellAt_of_mapM rendered (List.mem_cons_self : (Column.id, 1) ∈ _)
  rw [valueFor_id listed labelled] at isFirst
  rw [shownId, isFirst]

end Rows

/-! ## Sheets -/

theorem head?_shownColumns : ∀ definition ∈ registerSheets,
    (shownColumns definition).head? = some .id := by
  decide

theorem register_gantt : ∀ definition ∈ sheetPlan, definition.name = "Gantt" →
    definition.register = sheetTasks.register ∧ definition.columns = [] := by
  decide

section Sheets

variable {environment : Environment} {context : SheetContext} {definition : SheetDefinition}

theorem mem_sortedRecords {record : Record} :
    record ∈ sortedRecords environment context definition ↔
      record ∈ (context.registers.get? definition.register).getD [] :=
  (List.perm_insertionSort ..).mem_iff

theorem readRecordId_awaiting :
    readRecordId environment (.text "AWAITING POPULATION") = none := by
  have unchanged : strip isSpace "AWAITING POPULATION" = "AWAITING POPULATION" := by
    decide
  rw [readRecordId]
  simp [Cell.str, Cell.value, Value.str, unchanged]

theorem exists_record_of_mem {columns : List Column} {rows : List (List Cell)}
    (rendered : renderRecords environment context definition columns = .ok rows)
    {row : List Cell} (listed : row ∈ rows) {id : String}
    (isId : readRecordId environment (cellAt row 1) = some id) :
    ∃ record ∈ (context.registers.get? definition.register).getD [],
      renderRow environment context definition.register columns record = .ok row := by
  rw [renderRecords] at rendered
  split at rendered
  next =>
    obtain ⟨cell, isCell, isRows⟩ := bind_ok rendered
    rw [environment.write_label _ (by decide) (by decide)] at isCell
    obtain rfl := Except.ok.inj isCell
    obtain rfl := Except.ok.inj isRows
    obtain rfl := List.mem_singleton.mp listed
    rw [show cellAt [Cell.text "AWAITING POPULATION"] 1 = .text "AWAITING POPULATION" from rfl,
      readRecordId_awaiting] at isId
    cases isId
  next =>
    obtain ⟨record, isRecord, isRow⟩ := exists_of_mem_mapM rendered listed
    exact ⟨record, mem_sortedRecords.mp isRecord, isRow⟩

theorem exists_mem_of_record {columns : List Column} {rows : List (List Cell)}
    (rendered : renderRecords environment context definition columns = .ok rows)
    {record : Record} (listed : record ∈ (context.registers.get? definition.register).getD []) :
    ∃ row ∈ rows, renderRow environment context definition.register columns record = .ok row := by
  have isSorted : record ∈ sortedRecords environment context definition :=
    mem_sortedRecords.mpr listed
  rw [renderRecords] at rendered
  rw [if_neg (by simpa using List.ne_nil_of_mem isSorted)] at rendered
  exact exists_mem_of_mapM rendered isSorted

theorem isLabelChar_of_mem {column : Column} {c : Char}
    (listed : c ∈ (headerLabel column).toList) : isLabelChar c = true := by
  have letter (cased : (c.isUpper || c.isLower) = true) : isLabelChar c = true := by
    have isAlpha : c.isAlpha = true := cased
    simp [isLabelChar, Char.isAlphanum, isAlpha]
  by_cases upper : c.isUpper = true
  · exact letter (by simp [upper])
  · have same : c.toLower = c := by
      unfold Char.toLower
      rw [dif_neg]
      unfold Char.isUpper at upper
      simpa using upper
    have restored : (if c.toLower = ' ' then '_' else c.toLower) ∈ column.field.toList := by
      rw [← underscored_headerLabel column, underscored, List.map_map]
      exact List.mem_map_of_mem listed
    have isField := isFieldChar_of_mem restored
    rw [same] at isField
    by_cases isBlank : c = ' '
    · simp [isLabelChar, isBlank]
    · rw [if_neg isBlank, isFieldChar] at isField
      simp only [Bool.or_eq_true, decide_eq_true_eq] at isField
      rcases isField with (isLower | isDigit) | isUnderscore
      · exact letter (by simp [isLower])
      · simp [isLabelChar, Char.isAlphanum, isDigit]
      · simp [isLabelChar, isUnderscore]

theorem headers_of_renderTexts {headers : List Cell} {columns : List Column}
    (rendered : renderTexts environment (columns.map headerLabel) = .ok headers) :
    headers = labelCells columns := by
  have each := mapM_ok rendered
  rw [List.forall₂_map_left_iff] at each
  rw [labelCells, ← List.forall₂_eq_eq_eq, List.forall₂_map_right_iff]
  refine (List.Forall₂.imp ?_ each).flip
  intro column header isHeader
  rw [environment.write_label _ (headerLabel_ne_empty column)
    (List.all_eq_true.mpr fun c listed => isLabelChar_of_mem listed)] at isHeader
  exact (Except.ok.inj isHeader).symm

theorem of_renderSheet (listed : definition ∈ registerSheets) {sheet : Sheet}
    (rendered : renderSheet environment context definition = .ok sheet) :
    (∃ source, source.register = definition.register ∧
      renderRecords environment context source (shownColumns definition) = .ok sheet.rows) ∧
        (definition.columns ≠ [] → sheet.headers = labelCells definition.columns) := by
  obtain ⟨inPlan, -, ordinary⟩ := mem_registerSheets.mp listed
  rw [generatedSheets, List.mem_cons, List.mem_singleton, not_or] at ordinary
  rw [renderSheet] at rendered
  by_cases gantt : definition.name = "Gantt"
  · obtain ⟨isTasks, noColumn⟩ := register_gantt definition inPlan gantt
    rw [if_pos gantt, renderGantt] at rendered
    obtain ⟨headers, -, rendered⟩ := bind_ok rendered
    obtain ⟨rows, isRows, rendered⟩ := bind_ok rendered
    obtain rfl := Except.ok.inj rendered
    refine ⟨⟨sheetTasks, isTasks.symm, ?_⟩, fun some_column => absurd noColumn some_column⟩
    rw [shownColumns, if_pos gantt]
    exact isRows
  · rw [if_neg gantt, if_neg ordinary.1, if_neg ordinary.2, renderRegisterSheet] at rendered
    obtain ⟨headers, isHeaders, rendered⟩ := bind_ok rendered
    obtain ⟨rows, isRows, rendered⟩ := bind_ok rendered
    have isSheet : sheet = ⟨headers, rows⟩ := by
      split at rendered
      next => exact (Except.ok.inj rendered).symm
      next =>
        obtain ⟨-, -, rendered⟩ := bind_ok rendered
        exact (Except.ok.inj rendered).symm
    subst isSheet
    refine ⟨⟨definition, rfl, ?_⟩, fun _ => headers_of_renderTexts isHeaders⟩
    rw [shownColumns, if_neg gantt]
    exact isRows

theorem exists_sheet_of_buildWorkbook {workbook : Workbook}
    (built : buildWorkbook environment context = .ok workbook)
    (listed : definition ∈ registerSheets) :
    ∃ sheet, workbook.get? definition.name = some sheet ∧
      renderSheet environment context definition = .ok sheet := by
  obtain ⟨inPlan, some_register, -⟩ := mem_registerSheets.mp listed
  obtain ⟨sheets, isSheets, built⟩ := bind_ok built
  obtain rfl := Except.ok.inj built
  have named : sheets.map Prod.fst =
      (sheetPlan.filter (·.register ≠ "")).map SheetDefinition.name := by
    have each := mapM_ok isSheets
    rw [← List.forall₂_eq_eq_eq, List.forall₂_map_left_iff, List.forall₂_map_right_iff]
    refine (List.Forall₂.imp ?_ each).flip
    intro other sheet rendered
    obtain ⟨_, -, rendered⟩ := bind_ok rendered
    obtain rfl := Except.ok.inj rendered
    rfl
  have distinct : (sheets.map Prod.fst).Nodup := by
    rw [named]
    exact nodup_names.sublist (List.filter_sublist.map _)
  obtain ⟨item, isItem, rendered⟩ := exists_mem_of_mapM isSheets
    (List.mem_filter.mpr ⟨inPlan, decide_eq_true some_register⟩)
  obtain ⟨sheet, isSheet, rendered⟩ := bind_ok rendered
  obtain rfl := Except.ok.inj rendered
  exact ⟨sheet, (Dict.get?_ofList_of_nodup distinct).mpr isItem, isSheet⟩

end Sheets

/-! ## Refreshes that succeed -/

section Total

variable {environment : Environment}

/-- Nothing is refused, and no number overflows. -/
structure Environment.IsTotal (environment : Environment) : Prop where
  write : ∀ format value, Succeeds (environment.write format value)
  truncate : ∀ text, environment.truncate text ≠ .overflow

theorem succeeds_renderedCell (total : environment.IsTotal) (column : Column) (raw : Value) :
    Succeeds (renderedCell environment column raw) := by
  have ofText (text : String) : Succeeds (textValue environment column text) := by
    rw [textValue]
    split
    next => exact succeeds_ok _
    next =>
      split
      next =>
        cases truncated : environment.truncate text with
        | number | refused => exact succeeds_ok _
        | overflow => exact absurd truncated (total.truncate text)
      next => exact succeeds_ok _
  refine succeeds_bind ?_ fun value => total.write column.format value
  cases raw with
  | text | scalar | mapping => exact ofText _
  | null | bool | int | float | list => exact succeeds_ok _

/-- The registers whose sheets have a column with an unbound colour. -/
def colouredRegisters : List String := ["tasks", "phases", "deliverables"]

theorem addConditionalFormatting_plain : ∀ definition ∈ sheetPlan,
    definition.register ∉ colouredRegisters →
      addConditionalFormatting definition.columns = .ok () := by
  decide +kernel

theorem succeeds_renderRegisterSheet (total : environment.IsTotal) {context : SheetContext}
    (uncoloured : ∀ register ∈ colouredRegisters, (context.registers.get? register).getD [] = [])
    {definition : SheetDefinition} (inPlan : definition ∈ sheetPlan)
    (rows : Succeeds (renderRecords environment context definition definition.columns)) :
    Succeeds (renderRegisterSheet environment context definition) := by
  refine succeeds_bind (succeeds_mapM fun label _ => total.write .general (.text label)) fun _ =>
    succeeds_bind rows fun _ => ?_
  split
  next => exact succeeds_ok _
  next filled =>
    have plain : definition.register ∉ colouredRegisters := by
      intro coloured
      rw [sortedRecords, uncoloured _ coloured] at filled
      exact filled rfl
    rw [addConditionalFormatting_plain definition inPlan plain]
    exact succeeds_ok _

theorem succeeds_buildWorkbook (total : environment.IsTotal) (context : SheetContext)
    (uncoloured : ∀ register ∈ colouredRegisters,
      (context.registers.get? register).getD [] = []) :
    Succeeds (buildWorkbook environment context) := by
  have texts (labels : List String) : Succeeds (renderTexts environment labels) :=
    succeeds_mapM fun label _ => total.write .general (.text label)
  have rows (definition : SheetDefinition) (columns : List Column) :
      Succeeds (renderRecords environment context definition columns) := by
    rw [renderRecords]
    split
    next => exact succeeds_bind (total.write ..) fun _ => succeeds_ok _
    next => exact succeeds_mapM fun record _ => succeeds_mapM fun column _ =>
        succeeds_renderedCell total column _
  have sheet (headers : List String) {body : Except Fault (List (List Cell))}
      (succeeds : Succeeds body) : Succeeds (do
        let headers ← renderTexts environment headers
        return (⟨headers, ← body⟩ : Sheet)) :=
    succeeds_bind (texts headers) fun _ => succeeds_bind succeeds fun _ => succeeds_ok _
  have each (definition : SheetDefinition) (inPlan : definition ∈ sheetPlan) :
      Succeeds (renderSheet environment context definition) := by
    rw [renderSheet]
    split
    next => exact sheet _ (rows ..)
    next =>
      split
      next => exact sheet _ (succeeds_mapM fun row _ => texts row)
      next =>
        split
        next => exact sheet _ (succeeds_mapM fun row _ => texts row)
        next => exact succeeds_renderRegisterSheet total uncoloured inPlan (rows ..)
  exact succeeds_bind (succeeds_mapM fun definition listed =>
    succeeds_bind (each definition (List.mem_filter.mp listed).1) fun _ => succeeds_ok _)
      fun _ => succeeds_ok _

end Total

end PaymentsPlatform.Programme
