import PaymentsPlatform.Programme.RenderedRows
import PaymentsPlatform.Programme.SecretScan

/-!
# What a refresh keeps of the workbook

A record that is no longer in its register has no row any more; the change summary only names it.
Of a row that stays, a human value is kept if it is the one that counts for the id and the rendering
leaves it as it is.
-/

namespace PaymentsPlatform.Programme

open Library.Fallible

section Claims

variable (environment : Environment)

/-- The sheets are as they were written but for what stands in the human columns. -/
structure Edited (written previous : Workbook) : Prop where
  sheets : ∀ definition ∈ registerSheets, ∀ before, written.get? definition.name = some before →
    ∃ after, previous.get? definition.name = some after ∧ after.headers = before.headers ∧
      ∀ row index, (∀ column, (column, index) ∈ (shownColumns definition).zipIdx 1 →
        column.isHuman = false) →
          cellAt (after.rows.getD row []) index = cellAt (before.rows.getD row []) index

/-- Every id of the previous workbook still has a row in its sheet, and there every human value that
was not blank. -/
def Preserved (previous new : Workbook) : Prop :=
  ∀ definition ∈ registerSheets, ∀ before, previous.get? definition.name = some before →
    ∀ row ∈ before.rows, ∀ id, readRecordId environment (cellAt row 1) = some id →
      ∃ after, new.get? definition.name = some after ∧ ∃ kept ∈ after.rows,
        readRecordId environment (cellAt kept 1) = some id ∧
          ∀ column index, (column, index) ∈ (shownColumns definition).zipIdx 1 →
            column.isHuman = true → (cellAt row index).isBlank = false →
              cellAt kept index = cellAt row index

/-- Every row with an id is that of a record of the register, for which its human values remain. -/
def Survives (registers : Registers) (previous : Workbook) : Prop :=
  ∀ definition ∈ registerSheets, ∀ before, previous.get? definition.name = some before →
    ∀ row ∈ before.rows, ∀ id, readRecordId environment (cellAt row 1) = some id →
      ∃ record ∈ (registers.get? definition.register).getD [],
        shownId environment record = some id ∧
          ∀ column index, (column, index) ∈ (shownColumns definition).zipIdx 1 →
            column.isHuman = true → (cellAt row index).isBlank = false →
              Remains environment previous definition.register record column (cellAt row index)

end Claims

/-! ## The refresh -/

section Refresh

variable {environment : Environment} {context : SheetContext} {registers : Registers}
  {months : List String} {refreshedAt : String} {written previous new : Workbook}

theorem labelled_of_edited (built : buildWorkbook environment context = .ok written)
    (edited : Edited written previous) : Labelled previous := by
  intro definition listed some_column sheet isSheet
  obtain ⟨before, isBefore, rendered⟩ := exists_sheet_of_buildWorkbook built listed
  obtain ⟨after, isAfter, same, -⟩ := edited.sheets definition listed before isBefore
  obtain rfl := Option.some.inj (isSheet.symm.trans isAfter)
  exact same.trans ((of_renderSheet listed rendered).2 some_column)

theorem built_of_refresh
    (refreshed : refresh environment registers months refreshedAt previous = .ok new) :
    ∃ changes, buildWorkbook environment
      (refreshContext environment previous registers changes months) = .ok new := by
  rw [refresh] at refreshed
  split at refreshed
  next => cases refreshed
  next =>
    obtain ⟨changes, -, refreshed⟩ := bind_ok refreshed
    obtain ⟨workbook, built, refreshed⟩ := bind_ok refreshed
    split at refreshed
    next =>
      obtain rfl := Except.ok.inj refreshed
      exact ⟨changes, built⟩
    next => cases refreshed

theorem survives_of_preserved (built : buildWorkbook environment context = .ok written)
    (edited : Edited written previous)
    (refreshed : refresh environment registers months refreshedAt previous = .ok new)
    (preserved : Preserved environment previous new) :
    Survives environment registers previous := by
  have labelled := labelled_of_edited built edited
  obtain ⟨changes, rebuilt⟩ := built_of_refresh refreshed
  intro definition listed before isBefore row isRow id isId
  obtain ⟨after, isAfter, kept, isKept, keptId, values⟩ :=
    preserved definition listed before isBefore row isRow id isId
  obtain ⟨sheet, isSheet, rendered⟩ := exists_sheet_of_buildWorkbook rebuilt listed
  obtain rfl := Option.some.inj (isAfter.symm.trans isSheet)
  obtain ⟨⟨source, sameRegister, rows⟩, -⟩ := of_renderSheet listed rendered
  obtain ⟨record, isRecord, rowRendered⟩ := exists_record_of_mem rows isKept keptId
  rw [sameRegister] at isRecord rowRendered
  refine ⟨record, isRecord, ?_, ?_⟩
  · exact (readRecordId_renderRow listed labelled (head?_shownColumns definition listed)
      rowRendered).symm.trans keptId
  · intro column index shown human filled
    rw [← renderedCell_valueFor_iff listed labelled record human filled,
      ← values column index shown human filled]
    exact cellAt_of_mapM rowRendered shown

theorem preserved_of_survives (built : buildWorkbook environment context = .ok written)
    (edited : Edited written previous)
    (refreshed : refresh environment registers months refreshedAt previous = .ok new)
    (survives : Survives environment registers previous) :
    Preserved environment previous new := by
  have labelled := labelled_of_edited built edited
  obtain ⟨changes, rebuilt⟩ := built_of_refresh refreshed
  intro definition listed before isBefore row isRow id isId
  obtain ⟨record, isRecord, sameId, remains⟩ :=
    survives definition listed before isBefore row isRow id isId
  obtain ⟨after, isAfter, rendered⟩ := exists_sheet_of_buildWorkbook rebuilt listed
  obtain ⟨⟨source, sameRegister, rows⟩, -⟩ := of_renderSheet listed rendered
  rw [← sameRegister] at isRecord
  obtain ⟨kept, isKept, rowRendered⟩ := exists_mem_of_record rows isRecord
  rw [sameRegister] at rowRendered
  refine ⟨after, isAfter, kept, isKept, ?_, ?_⟩
  · exact (readRecordId_renderRow listed labelled (head?_shownColumns definition listed)
      rowRendered).trans sameId
  · intro column index shown human filled
    have remaining := remains column index shown human filled
    rw [← renderedCell_valueFor_iff listed labelled record human filled] at remaining
    exact Except.ok.inj ((cellAt_of_mapM rowRendered shown).symm.trans remaining)

end Refresh

/-! ## A resource and a milestone -/

theorem Edited.refl (written : Workbook) : Edited written written where
  sheets _ _ before isBefore := ⟨before, isBefore, rfl, fun _ _ _ => rfl⟩

/-- A file that stores everything, texts and numbers as they are. -/
def plainWrite : Written → Cell
  | .text text => if text = "" then .empty else .text text
  | .int value => .int value
  | .float value => .float value
  | .date date => .dateTime ⟨date, 0, by decide⟩

def plainEnvironment : Environment where
  toRuntime := asciiRuntime
  upper text := String.ofList (text.toList.map Char.toUpper)
  digit c := if c.isDigit then some (c.toNat - '0'.toNat) else none
  digit_ascii _ isDigit := if_pos isDigit
  truncate _ := .refused
  truncate_colon _ _ := rfl
  write _ value := .ok (plainWrite value)
  write_label label nonempty _ := by rw [plainWrite, if_neg nonempty]
  write_text format text cell isCell := by
    obtain rfl := Except.ok.inj isCell
    rw [plainWrite]
    split
    · exact .inl rfl
    · exact .inr ⟨text, rfl⟩
  write_int := nofun
  write_date := nofun
  calculated _ _ := none
  definitionOf _ := ""
  validProgramme _ := true
  validWorkbook _ := true

theorem isTotal_plainEnvironment : plainEnvironment.IsTotal where
  write _ _ := succeeds_ok _
  truncate _ := nofun

def resource : Record :=
  [("id", .text "RES-001"), ("name", .text "Engineer"), ("role", .text "Data engineer"),
    ("allocation_pct", .int 100)]

def milestone : Record :=
  [("id", .text "M-001"), ("name", .text "Go-live"), ("criticality", .text "HIGH"),
    ("status", .text "NOT_STARTED"), ("planned_date", .text "2026-09-01")]

def staffed : Registers := Dict.ofList [("resources", [resource]), ("milestones", [milestone])]

/-- The resource is gone. -/
def unstaffed : Registers := Dict.ofList [("resources", []), ("milestones", [milestone])]

/-- The first refresh, without a workbook before. -/
def firstContext : SheetContext := refreshContext plainEnvironment .empty staffed [] []

theorem labelled_empty : Labelled .empty := by
  intro definition _ _ sheet isSheet
  cases isSheet

theorem succeeds_refresh {registers : Registers}
    (usable : ∀ record ∈ registers.values.flatten, Succeeds (recordIdOf record))
    (uncoloured : ∀ register ∈ colouredRegisters, (registers.get? register).getD [] = [])
    (previous : Workbook) : Succeeds (refresh plainEnvironment registers [] "" previous) := by
  have differs (ids : List String) : Succeeds (diff registers ids "") :=
    succeeds_bind (succeeds_mapM usable) fun _ => succeeds_ok _
  rw [refresh]
  exact succeeds_bind (differs _) fun _ =>
    succeeds_bind (succeeds_buildWorkbook isTotal_plainEnvironment _ uncoloured) fun _ =>
      succeeds_ok _

/-- Where the milestones are shown. -/
def milestonesSheet : SheetDefinition :=
  ⟨"Milestones", "milestones",
    [.id, .name, .phaseId, .criticality, .status, .plannedDate, .forecastDate, .actualDate,
      .calculatedRag, .owner, .evidencePath, .notes], .byStatus⟩

def resourcesSheet : SheetDefinition :=
  ⟨"Resources", "resources",
    [.id, .name, .role, .allocationPct, .startDate, .endDate, .notes], .byId⟩

theorem listed_milestonesSheet : milestonesSheet ∈ registerSheets :=
  mem_registerSheets.mpr
    ⟨List.mem_of_getElem? (show sheetPlan[5]? = some milestonesSheet from rfl), by decide,
      by decide⟩

theorem listed_resourcesSheet : resourcesSheet ∈ registerSheets :=
  mem_registerSheets.mpr
    ⟨List.mem_of_getElem? (show sheetPlan[13]? = some resourcesSheet from rfl), by decide,
      by decide⟩

def midnight (year month day : Nat)
    (valid : (1 ≤ month ∧ month ≤ 12) ∧ 1 ≤ day ∧
      day ≤ monthLength (((year : Int) % 400).toNat) month) : Cell :=
  .dateTime ⟨⟨year, month, day, valid⟩, 0, by decide⟩

/-- The date of the milestone is read as a date-time. -/
def milestoneRow : List Cell :=
  [.text "M-001", .text "Go-live", .empty, .text "HIGH", .text "NOT_STARTED",
    midnight 2026 9 1 (by decide), .empty, .empty, .empty, .empty, .empty, .empty]

theorem renderRow_milestone :
    renderRow plainEnvironment firstContext "milestones" milestonesSheet.columns milestone =
      .ok milestoneRow := by
  decide +kernel

theorem rows_of_single {environment : Environment} {context : SheetContext}
    {definition : SheetDefinition} {columns : List Column} {rows : List (List Cell)}
    (rendered : renderRecords environment context definition columns = .ok rows) {record : Record}
    (single : (context.registers.get? definition.register).getD [] = [record]) :
    ∃ row, rows = [row] ∧
      renderRow environment context definition.register columns record = .ok row := by
  have alone : sortedRecords environment context definition = [record] := by
    rw [sortedRecords, single]
    rfl
  rw [renderRecords, alone] at rendered
  change [record].mapM _ = _ at rendered
  cases mapM_ok rendered with
  | cons isRow rest =>
      cases rest
      exact ⟨_, rfl, isRow⟩

section Written

variable {written : Workbook} (built : buildWorkbook plainEnvironment firstContext = .ok written)
include built

theorem rows_milestones : ∃ sheet, written.get? milestonesSheet.name = some sheet ∧
    sheet.rows = [milestoneRow] := by
  obtain ⟨sheet, isSheet, rendered⟩ := exists_sheet_of_buildWorkbook built listed_milestonesSheet
  obtain ⟨⟨source, sameRegister, rows⟩, -⟩ := of_renderSheet listed_milestonesSheet rendered
  have single : (firstContext.registers.get? source.register).getD [] = [milestone] := by
    rw [sameRegister]
    rfl
  obtain ⟨row, isRows, isRow⟩ := rows_of_single rows single
  rw [sameRegister, show shownColumns milestonesSheet = milestonesSheet.columns from rfl] at isRow
  obtain rfl := Except.ok.inj (renderRow_milestone.symm.trans isRow)
  exact ⟨sheet, isSheet, isRows⟩

theorem row_resource : ∃ sheet, written.get? resourcesSheet.name = some sheet ∧
    ∃ row ∈ sheet.rows, readRecordId plainEnvironment (cellAt row 1) = some "RES-001" := by
  obtain ⟨sheet, isSheet, rendered⟩ := exists_sheet_of_buildWorkbook built listed_resourcesSheet
  obtain ⟨⟨source, sameRegister, rows⟩, -⟩ := of_renderSheet listed_resourcesSheet rendered
  have listed : resource ∈ (firstContext.registers.get? source.register).getD [] := by
    rw [sameRegister]
    exact List.mem_singleton.mpr rfl
  obtain ⟨row, isRow, rowRendered⟩ := exists_mem_of_record rows listed
  rw [sameRegister] at rowRendered
  refine ⟨sheet, isSheet, row, isRow, ?_⟩
  rw [readRecordId_renderRow listed_resourcesSheet labelled_empty
    (head?_shownColumns _ listed_resourcesSheet) rowRendered,
    shownId_of_text rfl (by decide) rfl]
  decide

theorem capturedCell_plannedDate : capturedCell plainEnvironment written "milestones" "M-001"
    .plannedDate = some (midnight 2026 9 1 (by decide)) := by
  obtain ⟨sheet, isSheet, rows⟩ := rows_milestones built
  have isTracker : trackerOf "milestones" = some milestonesSheet :=
    trackerOf_eq_some listed_milestonesSheet (List.cons_ne_nil _ _)
  rw [capturedCell, isTracker]
  simp only [Option.bind_eq_bind, Option.bind_some, isSheet, rows]
  decide

end Written

theorem exists_written : ∃ written, buildWorkbook plainEnvironment firstContext = .ok written :=
  succeeds_buildWorkbook isTotal_plainEnvironment firstContext (by decide)

theorem exists_refreshed (registers : Registers)
    (usable : registers.values.flatten.all fun record => (recordIdOf record).isOk)
    (uncoloured : ∀ register ∈ colouredRegisters, (registers.get? register).getD [] = [])
    (previous : Workbook) : ∃ new, refresh plainEnvironment registers [] "" previous = .ok new := by
  refine succeeds_refresh (fun record listed => ?_) uncoloured previous
  have isUsable := List.all_eq_true.mp usable record listed
  cases found : recordIdOf record with
  | ok id => exact succeeds_ok id
  | error fault =>
      rw [found] at isUsable
      cases isUsable

theorem exists_refreshed_staffed (previous : Workbook) :
    ∃ new, refresh plainEnvironment staffed [] "" previous = .ok new :=
  exists_refreshed staffed (by decide) (by decide) previous

/-! ## What is preserved -/

section Claim

variable {environment : Environment} {context : SheetContext} {registers : Registers}
  {months : List String} {refreshedAt : String} {written previous new : Workbook}

/-- After a refresh the workbook keeps its rows and human values exactly if they survive it. -/
theorem preserved_iff (built : buildWorkbook environment context = .ok written)
    (edited : Edited written previous)
    (refreshed : refresh environment registers months refreshedAt previous = .ok new) :
    Preserved environment previous new ↔ Survives environment registers previous :=
  ⟨survives_of_preserved built edited refreshed, preserved_of_survives built edited refreshed⟩

end Claim

theorem preserved_iff_staffed :
    ∃ written new, buildWorkbook plainEnvironment firstContext = .ok written ∧
      refresh plainEnvironment staffed [] "" written = .ok new ∧
        (Preserved plainEnvironment written new ↔ Survives plainEnvironment staffed written) := by
  obtain ⟨written, built⟩ := exists_written
  obtain ⟨new, refreshed⟩ := exists_refreshed_staffed written
  exact ⟨written, new, built, refreshed, preserved_iff built (.refl written) refreshed⟩

/-- The row of a removed record is gone; and where nothing has changed a date is a text. -/
theorem removed_and_dated_not_preserved :
    (∃ written new, buildWorkbook plainEnvironment firstContext = .ok written ∧
      Edited written written ∧ refresh plainEnvironment unstaffed [] "" written = .ok new ∧
        ¬ Preserved plainEnvironment written new) ∧
      ∃ written new, buildWorkbook plainEnvironment firstContext = .ok written ∧
        Edited written written ∧ refresh plainEnvironment staffed [] "" written = .ok new ∧
          ¬ Preserved plainEnvironment written new := by
  obtain ⟨written, built⟩ := exists_written
  constructor
  · obtain ⟨new, refreshed⟩ := exists_refreshed unstaffed (by decide) (by decide) written
    refine ⟨written, new, built, .refl written, refreshed, fun preserved => ?_⟩
    obtain ⟨sheet, isSheet, row, isRow, isId⟩ := row_resource built
    obtain ⟨record, isRecord, -⟩ :=
      survives_of_preserved built (.refl written) refreshed preserved resourcesSheet
        listed_resourcesSheet sheet isSheet row isRow "RES-001" isId
    exact absurd isRecord List.not_mem_nil
  · obtain ⟨new, refreshed⟩ := exists_refreshed_staffed written
    refine ⟨written, new, built, .refl written, refreshed, fun preserved => ?_⟩
    obtain ⟨sheet, isSheet, rows⟩ := rows_milestones built
    obtain ⟨record, isRecord, -, remains⟩ :=
      survives_of_preserved built (.refl written) refreshed preserved milestonesSheet
        listed_milestonesSheet sheet isSheet milestoneRow (rows ▸ List.mem_cons_self) "M-001"
        (by decide)
    obtain rfl := List.mem_singleton.mp (show record ∈ [milestone] from isRecord)
    have remaining := remains .plannedDate 6 (by decide) (by decide) (by decide)
    rw [Remains, show fieldText plainEnvironment milestone "id" = "M-001" from rfl,
      show milestonesSheet.register = "milestones" from rfl, capturedCell_plannedDate built] at remaining
    rcases remaining with ⟨-, kept⟩ | ⟨other, -⟩
    · exact kept
    · exact other rfl

end PaymentsPlatform.Programme
