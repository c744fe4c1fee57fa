import Mathlib.Data.List.Dedup
import Mathlib.Data.List.Sort
import Mathlib.Data.Prod.Lex
import Mathlib.Data.String.Basic
import PaymentsPlatform.Library.Calendar
import PaymentsPlatform.Library.Dict
import PaymentsPlatform.Programme.Secrets
import PaymentsPlatform.Programme.SheetPlan

/-!
# Refreshing the programme workbook

`update_workbook.py` and the sheets of `sheets.py` that show a register.  `read_human_values` takes
the human values from the previous workbook; `build_workbook` renders every register again, and
`_value_for` puts a human value where one was taken for the id of the record.
-/

namespace PaymentsPlatform.Programme

open Ingestion (isSpace strip)
open Calendar (Date Timestamp)

/-! ## Values and cells -/

/-- `str` of a `datetime`. -/
def dateTimeText (time : Timestamp) : String :=
  let seconds := time.microsecond / 1000000
  String.ofList (time.date.chars ++ ' ' :: (DateTime.padded 2 (seconds / 3600) ++
    ':' :: (DateTime.padded 2 (seconds / 60 % 60) ++ ':' :: (DateTime.padded 2 (seconds % 60) ++
      DateTime.fraction (time.microsecond % 1000000)))))

/-- What is written to a cell. -/
inductive Written where
  | text (text : String)
  | int (value : Int)
  | float (value : Binary)
  | date (date : Date)
  deriving DecidableEq

/-- What a cell of a workbook file is read as. -/
inductive Cell where
  | empty
  | text (text : String)
  | int (value : Int)
  | float (value : Binary)
  | bool (value : Bool)
  | dateTime (time : Timestamp)
  /-- A time, a duration or an array formula, with its `str`. -/
  | other (shown : String)
  deriving DecidableEq

namespace Cell

/-- As a value that `_cell_value` renders. -/
def value : Cell → Value
  | .empty => .null
  | .text shown => .text shown
  | .int number => .int number
  | .float number => .float number
  | .bool flag => .bool flag
  | .dateTime time => .scalar (dateTimeText time)
  | .other shown => .scalar shown

/-- `value in (None, "")`. -/
def isBlank : Cell → Bool
  | .empty => true
  | .text shown => shown = ""
  | _ => false

def truthy : Cell → Bool
  | .empty => false
  | .text shown => shown ≠ ""
  | .int number => number ≠ 0
  | .float (.finite mantissa _) => mantissa ≠ 0
  | .bool flag => flag
  | _ => true

end Cell

/-- The number format of a cell. -/
inductive Format where
  | general | date | percentage | count
  deriving DecidableEq

/-- What `int(float(text))` does. -/
inductive Truncation where
  | number (value : Int)
  /-- A `ValueError`, which is caught. -/
  | refused
  /-- An `OverflowError`, which is not. -/
  | overflow

/-- How a refresh fails. -/
inductive Fault where
  | registries | recordId | overflow | cell | unboundName | workbook
  deriving DecidableEq

/-- The records of each register of a programme. -/
abbrev Registers := Dict String (List Record)

structure Sheet where
  /-- The header row, the fifth. -/
  headers : List Cell
  /-- The rows below it. -/
  rows : List (List Cell)

/-- The sheets that show a register, by their titles. -/
abbrev Workbook := Dict String Sheet

/-- What labels are made of. -/
def isLabelChar (c : Char) : Bool := c.isAlphanum || c = ' ' || c = '_'

/-- What is used of Python and `openpyxl`, and what a refresh does besides. -/
structure Environment extends Runtime where
  upper : String → String
  /-- The digit that a character is. -/
  digit : Char → Option Nat
  digit_ascii : ∀ c, c.isDigit = true → digit c = some (c.toNat - '0'.toNat)
  truncate : String → Truncation
  truncate_colon : ∀ text, ':' ∈ text.toList → truncate text = .refused
  /-- What a cell is read as after a value was written to it and the file was saved. -/
  write : Format → Written → Except Fault Cell
  write_label : ∀ label, label ≠ "" → label.toList.all isLabelChar = true →
    write .general (.text label) = .ok (.text label)
  write_text : ∀ format text cell, write format (.text text) = .ok cell →
    cell = .empty ∨ ∃ read, cell = .text read
  write_int : ∀ format value text, write format (.int value) ≠ .ok (.text text)
  write_date : ∀ format date text, write format (.date date) ≠ .ok (.text text)
  /-- `calculate_task_fields`. -/
  calculated : Record → Column → Option Value
  /-- `COLUMN_DEFINITIONS`, and `_default_definition` for the columns that are not in it. -/
  definitionOf : Column → String
  /-- `validate_programme(programme).ok`. -/
  validProgramme : Registers → Bool
  /-- `validate_workbook_file(workbook).ok`. -/
  validWorkbook : Workbook → Bool

/-! ## Dates -/

section Dates

variable (digit : Char → Option Nat)

/-- The classes of characters of a directive of `strptime`. -/
inductive Class where
  | range (low high : Nat)
  /-- `\\d`. -/
  | digit
  | blank

def Class.read : Class → Char → Option Nat
  | .range low high, c =>
      if c.isDigit ∧ low ≤ c.toNat - '0'.toNat ∧ c.toNat - '0'.toNat ≤ high then
        some (c.toNat - '0'.toNat)
      else none
  | .digit, c => digit c
  | .blank, c => if c = ' ' then some 0 else none

def readClasses (number : Nat) : List Class → List Char → Option (Nat × List Char)
  | [], rest => some (number, rest)
  | _ :: _, [] => none
  | first :: others, c :: rest =>
      (first.read digit c).bind fun value => readClasses (number * 10 + value) others rest

/-- The first alternative that matches. -/
def readField (alternatives : List (List Class)) (text : List Char) : Option (Nat × List Char) :=
  alternatives.findSome? fun classes => readClasses digit 0 classes text

/-- `%Y`. -/
def readYear := readField digit [[.digit, .digit, .digit, .digit]]

/-- `%m`. -/
def readMonth :=
  readField digit [[.range 1 1, .range 0 2], [.range 0 0, .range 1 9], [.range 1 9]]

/-- `%d`. -/
def readDay :=
  readField digit [[.range 3 3, .range 0 1], [.range 1 2, .digit], [.range 0 0, .range 1 9],
    [.range 1 9], [.blank, .range 1 9]]

/-- `%H`. -/
def readHour := readField digit [[.range 2 2, .range 0 3], [.range 0 1, .digit], [.digit]]

/-- `%M`. -/
def readMinute := readField digit [[.range 0 5, .digit], [.digit]]

/-- `%S`. -/
def readSecond := readField digit [[.range 6 6, .range 0 1], [.range 0 5, .digit], [.digit]]

/-- The date, if there is such a day. -/
def makeDate (year month day : Nat) : Option Date :=
  if valid : ((1 ≤ month ∧ month ≤ 12) ∧ 1 ≤ day ∧
      day ≤ monthLength (((year : Int) % 400).toNat) month) ∧ 1 ≤ year then
    some ⟨year, month, day, valid.1⟩
  else none

/-- What a format reads, with what is left of the text. -/
abbrev DateReader := List Char → Option (Date × List Char)

/-- `%Y-%m-%d`. -/
def readIsoDate : DateReader := fun text => do
  let (year, rest) ← readYear digit text
  let (month, rest) ← readMonth digit (← DateTime.expect '-' rest)
  let (day, rest) ← readDay digit (← DateTime.expect '-' rest)
  return (← makeDate year month day, rest)

/-- `%d/%m/%Y`. -/
def readSlashed : DateReader := fun text => do
  let (day, rest) ← readDay digit text
  let (month, rest) ← readMonth digit (← DateTime.expect '/' rest)
  let (year, rest) ← readYear digit (← DateTime.expect '/' rest)
  return (← makeDate year month day, rest)

/-- `%H:%M:%S`, where a second that no clock shows is refused after all. -/
def readClock (text : List Char) : Option (List Char) := do
  let (_, rest) ← readHour digit text
  let (_, rest) ← readMinute digit (← DateTime.expect ':' rest)
  let (second, rest) ← readSecond digit (← DateTime.expect ':' rest)
  if second < 60 then some rest else none

/-- A date, then what is between it and a time, then the time. -/
def readDateTime (between : List Char → Option (List Char)) : DateReader := fun text => do
  let (date, rest) ← readIsoDate digit text
  return (date, ← readClock digit (← between rest))

/-- A blank of a format stands for any white space. -/
def skipSpace : List Char → Option (List Char)
  | c :: rest => if isSpace c then some (rest.dropWhile isSpace) else none
  | [] => none

/-- `parse_date` of a text. -/
def parseDate (text : String) : Option Date :=
  let chars := (strip isSpace text).toList
  [readIsoDate digit, readSlashed digit, readDateTime digit (DateTime.expect 'T'),
    readDateTime digit skipSpace].findSome? fun read =>
      match read chars with
      | some (date, []) => some date
      | _ => none

end Dates

/-! ## Columns -/

namespace Column

def isPercentage (column : Column) : Bool :=
  "_pct".toList.isSuffixOf column.field.toList || column = .calculatedPercentComplete

def isDateColumn (column : Column) : Bool :=
  "_date".toList.isSuffixOf column.field.toList || "_on".toList.isSuffixOf column.field.toList ||
    [.plannedStart, .plannedFinish, .actualStart, .actualFinish, .plannedDate, .actualDate,
      .forecastDate, .decisionDate, .lastTestRun, .lastRotated, .rotationDue, .lastReviewed,
      .nextDue, .lastTested, .observedAt, .deliveredOn, .deployedOn, .releasedOn,
      .resolvedOn].contains column

def isCountColumn (column : Column) : Bool :=
  "_count".toList.isSuffixOf column.field.toList ||
    [.bytes, .allocationPct, .retentionDays].contains column

/-- The number format that `_apply_body` gives to a cell. -/
def format (column : Column) : Format :=
  if column.isDateColumn then .date
  else if column.isPercentage then .percentage
  else if column.isCountColumn then .count
  else .general

end Column

/-! ## What is taken from the previous workbook -/

/-- The human values by register, record id and column. -/
abbrev HumanValues := Dict String (Dict String (Dict Column Cell))

/-- `sheet.cell(row, index).value`. -/
def cellAt (row : List Cell) (index : Nat) : Cell := row.getD (index - 1) .empty

section Reading

variable (environment : Environment)

def Cell.str (cell : Cell) : String := cell.value.str environment.toRuntime

/-- `sheet.cell(...).value or ""`, as a text. -/
def headerText (label : Cell) : String := if label.truthy then label.str environment else ""

/-- Where the columns of a sheet are, by its headers. -/
def columnIndices (columns : List Column) (headers : List Cell) : Dict Column Nat :=
  (headers.zipIdx 1).foldl (fun mapping (label, index) =>
    match columns.find? (isHeaderOf (headerText environment label)) with
    | some column => mapping.set column index
    | none => mapping) .empty

/-- The record id in a cell, if the row is not skipped. -/
def readRecordId (cell : Cell) : Option String :=
  let id := strip isSpace (cell.str environment)
  if !cell.truthy || id = "AWAITING POPULATION" then none else some id

/-- The human values of a row. -/
def rowValues (guarded : List (Column × Nat)) (row : List Cell) : Dict Column Cell :=
  Dict.ofList (guarded.filterMap fun (column, index) =>
    if (cellAt row index).isBlank then none else some (column, cellAt row index))

/-- One round of the loop over the rows of a sheet. -/
def readRow (register : String) (guarded : List (Column × Nat)) (idIndex : Nat)
    (state : HumanValues × List String) (row : List Cell) : HumanValues × List String :=
  match readRecordId environment (cellAt row idIndex) with
  | none => state
  | some id =>
      let values := rowValues guarded row
      (if values.items.isEmpty then state.1
        else state.1.set register (((state.1.get? register).getD .empty).set id values),
        id :: state.2)

/-- One round of the loop over `SHEET_PLAN`. -/
def readSheet (previous : Workbook) (state : HumanValues × List String)
    (definition : SheetDefinition) : HumanValues × List String :=
  if definition.register = "" then state
  else
    match previous.get? definition.name with
    | none => state
    | some sheet =>
        let mapping := columnIndices environment definition.columns sheet.headers
        let guarded := mapping.items.filter (·.1.isHuman)
        if guarded.isEmpty then state
        else sheet.rows.foldl
          (readRow environment definition.register guarded ((mapping.get? .id).getD 1)) state

/-- The captured values, and the ids of the previous workbook. -/
def readHumanValues (previous : Workbook) : HumanValues × List String :=
  sheetPlan.foldl (readSheet environment previous) (.empty, [])

end Reading

/-! ## The change summary -/

structure Change where
  id : String
  target : String
  type : String
  detail : String

section Diff

variable (registers : Registers) (previousIds : List String) (refreshedAt : String)

/-- `Record.id`. -/
def recordIdOf (record : Record) : Except Fault String :=
  match record.lookup "id" with
  | some (.text id) => if strip isSpace id = "" then .error .recordId else .ok (strip isSpace id)
  | _ => .error .recordId

/-- `f"CHG-{number:03d}"`. -/
def changeId (number : Nat) : String :=
  "CHG-" ++ "".pushn '0' (3 - (toString number).length) ++ toString number

/-- The targets, types and details of `_diff`, given the ids of the registers. -/
def changesOf (currentIds : List String) : List (String × String × String) :=
  let refreshed := (registers.items.filter (!·.2.isEmpty)).map fun (name, records) =>
    (name, "REFRESHED", toString records.length ++ " record(s) rendered")
  let missing := (previousIds.dedup.filter (!currentIds.contains ·)).insertionSort (· ≤ ·)
  let retained := missing.map fun id => (id, "RETAINED_NOT_DELETED",
    "This ID existed in the previous workbook but not in the current register. It was NOT " ++
      "silently deleted; review the register entry.")
  refreshed ++ retained ++
    [("workbook", "REFRESH", "Generated " ++ refreshedAt ++ " by tooling v1.0.0")]

/-- `_diff`. -/
def diff : Except Fault (List Change) := do
  let currentIds ← (registers.values.flatten).mapM recordIdOf
  return ((changesOf registers previousIds refreshedAt currentIds).zipIdx 1).map
    fun ((target, type, detail), number) => ⟨changeId number, target, type, detail⟩

end Diff

/-! ## Rendering -/

structure SheetContext where
  registers : Registers
  humanValues : HumanValues
  changes : List Change
  /-- The labels of the months of the timeline. -/
  months : List String

def SheetContext.humanValue (context : SheetContext) (register id : String) (column : Column) :
    Option Cell :=
  ((context.humanValues.get? register).bind (·.get? id)).bind (·.get? column)

section Rendering

variable (environment : Environment) (context : SheetContext)

/-- `str(record.get(field, ""))`. -/
def fieldText (record : Record) (field : String) : String :=
  ((record.lookup field).map (Value.str environment.toRuntime)).getD ""

/-- No column is called `rag`. -/
def valueFor (register : String) (record : Record) (column : Column) : Value :=
  let raw := (record.lookup column.field).getD .null
  if column.isCalculated then (environment.calculated record column).getD raw
  else
    match context.humanValue register (fieldText environment record "id") column with
    | some human => if human.isBlank then raw else human.value
    | none => raw

/-- The date that a text is taken for. -/
def dateIn (column : Column) (text : String) : Option Date :=
  if column.isDateColumn && text ≠ "" && text.length ≤ 10 then parseDate environment.digit text
  else none

/-- What is written for a value that is neither missing nor a boolean, a list or a number. -/
def textValue (column : Column) (text : String) : Except Fault Written :=
  match dateIn environment column text with
  | some date => .ok (.date date)
  | none =>
      if column.isCountColumn then
        match environment.truncate text with
        | .number value => .ok (.int value)
        | .refused => .ok (.text text)
        | .overflow => .error .overflow
      else .ok (.text text)

def cellValue (column : Column) : Value → Except Fault Written
  | .null => .ok (.text "")
  | .bool value => .ok (.text (if value then "Yes" else "No"))
  | .list items => .ok (.text (", ".intercalate (items.map (Value.str environment.toRuntime))))
  | .int value => .ok (.int value)
  | .float value => .ok (.float value)
  | raw => textValue environment column (raw.str environment.toRuntime)

/-- What a cell of the column is read as after the value was rendered to it. -/
def renderedCell (column : Column) (raw : Value) : Except Fault Cell := do
  environment.write column.format (← cellValue environment column raw)

def renderRow (register : String) (columns : List Column) (record : Record) :
    Except Fault (List Cell) :=
  columns.mapM fun column =>
    renderedCell environment column (valueFor environment context register record column)

def renderTexts (texts : List String) : Except Fault (List Cell) :=
  texts.mapM fun text => environment.write .general (.text text)

/-- What `sorted` compares: `_sort_by_id`, `_sort_by_severity` and `_sort_by_status`. -/
def sortKey (sortBy : SortBy) (record : Record) : ℕ ×ₗ String ×ₗ String :=
  let id := fieldText environment record "id"
  match sortBy with
  | .byId => toLex (0, toLex ("", id))
  | .byStatus => toLex (0, toLex (fieldText environment record "status", id))
  | .bySeverity =>
      let severity := environment.upper (fieldText environment record "severity")
      let order := [("CRITICAL", 0), ("HIGH", 1), ("MEDIUM", 2), ("LOW", 3)].lookup severity
      toLex (order.getD 4, toLex ("", id))

def sortedRecords (definition : SheetDefinition) : List Record :=
  ((context.registers.get? definition.register).getD []).insertionSort fun first second =>
    sortKey environment definition.sortBy first ≤ sortKey environment definition.sortBy second

/-- The rows of a register, or the note that stands for them. -/
def renderRecords (definition : SheetDefinition) (columns : List Column) :
    Except Fault (List (List Cell)) :=
  let records := sortedRecords environment context definition
  if records.isEmpty then do
    return [[← environment.write .general (.text "AWAITING POPULATION")]]
  else records.mapM (renderRow environment context definition.register columns)

/-- `_add_conditional_formatting`: the module does not import `RAG_AMBER` and `RAG_RED`, the colours
of two columns. -/
def addConditionalFormatting (columns : List Column) : Except Fault Unit :=
  if columns.contains .calculatedPercentComplete ||
      columns.contains .calculatedScheduleVarianceDays then
    .error .unboundName
  else .ok ()

def renderRegisterSheet (definition : SheetDefinition) : Except Fault Sheet := do
  let headers ← renderTexts environment (definition.columns.map headerLabel)
  let rows ← renderRecords environment context definition definition.columns
  if (sortedRecords environment context definition).isEmpty then return ⟨headers, rows⟩
  else
    addConditionalFormatting definition.columns
    return ⟨headers, rows⟩

/-- The months of a row are shaded, and their cells hold nothing. -/
def renderGantt : Except Fault Sheet := do
  let headers ← renderTexts environment (ganttAnchorColumns.map headerLabel ++ context.months)
  return ⟨headers, ← renderRecords environment context sheetTasks ganttAnchorColumns⟩

def renderChangeLog : Except Fault Sheet := do
  let headers ←
    renderTexts environment ["Change ID", "Sheet / Register", "Change type", "Detail"]
  let rows := if context.changes.isEmpty then [["No changes recorded in this refresh"]]
    else context.changes.map fun change => [change.id, change.target, change.type, change.detail]
  return ⟨headers, ← rows.mapM (renderTexts environment)⟩

/-- `_ownership_marker`. -/
def ownershipMarker (column : Column) : String :=
  match classifyField column with
  | .human => "H - Human-controlled"
  | .machine => "M - Machine-managed"
  | .shared => "S - Shared (human-seeded)"

def renderDataDictionary : Except Fault Sheet := do
  let headers ← renderTexts environment ["Sheet", "Column", "Definition", "Ownership"]
  let rows := sheetPlan.flatMap fun definition => definition.columns.map fun column =>
    [definition.name, column.field, environment.definitionOf column, ownershipMarker column]
  return ⟨headers, ← rows.mapM (renderTexts environment)⟩

def renderSheet (definition : SheetDefinition) : Except Fault Sheet :=
  if definition.name = "Gantt" then renderGantt environment context
  else if definition.name = "Change Log" then renderChangeLog environment context
  else if definition.name = "Data Dictionary" then renderDataDictionary environment
  else renderRegisterSheet environment context definition

/-- The index and the dashboards, which show no register, are left out. -/
def buildWorkbook : Except Fault Workbook := do
  let sheets ← (sheetPlan.filter (·.register ≠ "")).mapM fun definition => do
    return (definition.name, ← renderSheet environment context definition)
  return Dict.ofList sheets

end Rendering

/-! ## The refresh -/

/-- `main`, from the registers and the previous workbook to the one that replaces it. -/
def refresh (environment : Environment) (registers : Registers) (months : List String)
    (refreshedAt : String) (previous : Workbook) : Except Fault Workbook := do
  if !environment.validProgramme registers then
    .error .registries
  let (humanValues, previousIds) := readHumanValues environment previous
  let changes ← diff registers previousIds refreshedAt
  let workbook ← buildWorkbook environment ⟨registers, humanValues, changes, months⟩
  if environment.validWorkbook workbook then .ok workbook else .error .workbook

end PaymentsPlatform.Programme
