import Mathlib.Data.List.Count
import PaymentsPlatform.Library.Occurrences
import PaymentsPlatform.Mdm.Resolver

/-!
# What the resolution of beneficiaries depends on

A row's resolution is a function of the row and of the number of rows with its verified NIN.  It
says nothing else of a NIN, so the resolutions of two lists of rows agree wherever those numbers
do: after a permutation, and after a renaming of the NINs.
-/

namespace PaymentsPlatform.Mdm

/-- `_required` passes on the three fields of the source key. -/
def Complete (row : Row) : Prop :=
  ∀ field ∈ ["source_system", "source_entity", "source_record_id"],
    required row field = .ok (Json.get row field)

/-- The NIN is a text, if there is one. -/
def NinText (row : Row) : Prop :=
  Json.get row "nin" = .null ∨ ∃ nin, Json.get row "nin" = .string nin

/-- The NIN that takes part in the comparison of rows. -/
def verifiedNin (row : Row) : Option String :=
  match Json.get row "nin" with
  | .string nin => if nin ≠ "" ∧ isVerified row then some nin else none
  | _ => none

/-- Another row has the verified NIN of this one. -/
def SharesNin (rows : List Row) (index : Nat) : Prop :=
  ∃ row nin, rows[index]? = some row ∧ verifiedNin row = some nin ∧
    ∃ place ≠ index, ∃ other, rows[place]? = some other ∧ verifiedNin other = some nin

/-- The resolution names the row it is for. -/
structure Resolution.For (resolution : Resolution) (runtime : Runtime) (row : Row) : Prop where
  masterDomain : resolution.masterDomain = "beneficiary"
  sourceSystem : resolution.sourceSystem = runtime.text (Json.get row "source_system")
  sourceEntity : resolution.sourceEntity = runtime.text (Json.get row "source_entity")
  sourceRecordId : resolution.sourceRecordId = runtime.text (Json.get row "source_record_id")
  goldenRecordId : ∃ goldenId, resolution.goldenRecordId = some goldenId ∧
    stableGoldenId runtime "beneficiary" resolution.sourceSystem resolution.sourceRecordId =
      .ok goldenId

/-- The alert of a quarantined row. -/
def Resolution.alert (resolution : Resolution) : Alert :=
  ⟨resolution.masterDomain, resolution.goldenRecordId.getD "", resolution.sourceSystem,
    resolution.sourceEntity, resolution.sourceRecordId, "SHARED_VERIFIED_NIN", "HIGH"⟩

/-- One resolution for each row, in order; quarantined are the rows that share their NIN, and
they have the alerts. -/
structure Lossless (runtime : Runtime) (rows : List Row) (resolved : Resolved) : Prop where
  each : List.Forall₂ (fun row resolution => resolution.For runtime row) rows resolved.resolutions
  quarantined : ∀ index resolution, resolved.resolutions[index]? = some resolution →
    SharesNin rows index → resolution.matchStatus = "QUARANTINED"
  matched : ∀ index resolution, resolved.resolutions[index]? = some resolution →
    ¬ SharesNin rows index → resolution.matchStatus = "MATCHED"
  alerts : resolved.alerts =
    (resolved.resolutions.filter (·.matchStatus = "QUARANTINED")).map Resolution.alert

/-- Each row has its resolution and its alert, if any, wherever it stands in the two lists. -/
def RowByRow (rows others : List Row) (resolved resolvedOthers : Resolved) : Prop :=
  ∃ (judge : Row → Resolution) (alarm : Row → Option Alert),
    resolved = ⟨rows.map judge, rows.filterMap alarm⟩ ∧
      resolvedOthers = ⟨others.map judge, others.filterMap alarm⟩

/-- A NIN that is a text is replaced. -/
def renamed (rename : String → String) : Json → Json
  | .string nin => .string (rename nin)
  | value => value

def renameNin (rename : String → String) (row : Row) : Row :=
  row.map fun (field, value) => (field, if field = "nin" then renamed rename value else value)

/-- An empty NIN counts as none and is left as it is. -/
def keepEmpty (rename : String → String) (nin : String) : String :=
  if nin = "" then "" else rename nin

def Resolved.crosswalk (resolved : Resolved) (validFrom : String) : List (List (String × Json)) :=
  resolved.resolutions.map fun resolution => crosswalkRecord resolution validFrom

/-! ## One row -/

section Rows

variable (runtime : Runtime)

def quarantines (nins : List String) (row : Row) : Bool :=
  hasVerifiedNin row && 1 < nins.count (runtime.text (Json.get row "nin"))

/-- The golden id of a row whose source key is complete. -/
def goldenIdOf (row : Row) : String :=
  "MDMBEN-" ++ runtime.digest (goldenText "beneficiary"
    (runtime.text (Json.get row "source_system")) (runtime.text (Json.get row "source_record_id")))

def judge (nins : List String) (row : Row) : Resolution where
  masterDomain := "beneficiary"
  goldenRecordId := some (goldenIdOf runtime row)
  sourceSystem := runtime.text (Json.get row "source_system")
  sourceEntity := runtime.text (Json.get row "source_entity")
  sourceRecordId := runtime.text (Json.get row "source_record_id")
  matchRule := if quarantines runtime nins row then "shared_verified_nin"
    else if hasVerifiedNin row then "verified_nin_exact" else "source_record_provenance"
  matchStatus := if quarantines runtime nins row then "QUARANTINED" else "MATCHED"

def alarm (nins : List String) (row : Row) : Option Alert :=
  if quarantines runtime nins row then some (judge runtime nins row).alert else none

variable {runtime}

theorem stableGoldenId_beneficiary (row : Row) :
    stableGoldenId runtime "beneficiary" (runtime.text (Json.get row "source_system"))
      (runtime.text (Json.get row "source_record_id")) = .ok (goldenIdOf runtime row) := rfl

theorem judge_for (nins : List String) (row : Row) : (judge runtime nins row).For runtime row where
  masterDomain := rfl
  sourceSystem := rfl
  sourceEntity := rfl
  sourceRecordId := rfl
  goldenRecordId := ⟨_, rfl, stableGoldenId_beneficiary row⟩

theorem resolveBeneficiary_of_complete {row : Row} (complete : Complete row) (nins : List String)
    (resolved : Resolved) :
    resolveBeneficiary runtime nins resolved row =
      .ok ⟨resolved.resolutions ++ [judge runtime nins row],
        resolved.alerts ++ (alarm runtime nins row).toList⟩ := by
  have system := complete "source_system" (by simp)
  have entity := complete "source_entity" (by simp)
  have recordId := complete "source_record_id" (by simp)
  simp only [resolveBeneficiary, system, entity, recordId, bind, Except.bind,
    stableGoldenId_beneficiary]
  by_cases shared : hasVerifiedNin row ∧ 1 < nins.count (runtime.text (Json.get row "nin"))
  · have isShared : quarantines runtime nins row = true := by simpa [quarantines] using shared
    rw [if_pos shared]
    simp only [judge, alarm, isShared, if_true, Option.toList_some]
    rfl
  · have isAlone : quarantines runtime nins row = false := by
      simpa [quarantines] using shared
    rw [if_neg shared]
    by_cases verified : hasVerifiedNin row
    · rw [if_pos verified]
      simp only [judge, alarm, isAlone, verified, if_true, Bool.false_eq_true, if_false,
        Option.toList_none, List.append_nil]
      rfl
    · rw [if_neg verified]
      simp only [judge, alarm, isAlone, verified, Bool.false_eq_true, if_false,
        Option.toList_none, List.append_nil]
      rfl

theorem foldlM_of_complete {rows : List Row} (complete : ∀ row ∈ rows, Complete row)
    (nins : List String) (resolved : Resolved) :
    rows.foldlM (resolveBeneficiary runtime nins) resolved =
      .ok ⟨resolved.resolutions ++ rows.map (judge runtime nins),
        resolved.alerts ++ rows.filterMap (alarm runtime nins)⟩ := by
  induction rows generalizing resolved with
  | nil => simp [pure, Except.pure]
  | cons row rest ih =>
      rw [List.foldlM_cons, resolveBeneficiary_of_complete (complete row List.mem_cons_self)]
      change rest.foldlM (resolveBeneficiary runtime nins) _ = _
      rw [ih fun other listed => complete other (List.mem_cons_of_mem row listed)]
      cases raised : alarm runtime nins row <;> simp [raised]

theorem resolveBeneficiaries_of_complete {rows : List Row} (complete : ∀ row ∈ rows, Complete row) :
    resolveBeneficiaries runtime rows =
      .ok ⟨rows.map (judge runtime (verifiedNins runtime rows)),
        rows.filterMap (alarm runtime (verifiedNins runtime rows))⟩ :=
  foldlM_of_complete complete _ _

end Rows

/-! ## Shared NINs -/

theorem verifiedNin_eq_some_iff (runtime : Runtime) {row : Row} (ninText : NinText row)
    (nin : String) :
    verifiedNin row = some nin ↔
      hasVerifiedNin row ∧ runtime.text (Json.get row "nin") = nin := by
  rcases ninText with none | ⟨text, isText⟩
  · simp [verifiedNin, hasVerifiedNin, none, Json.truthy]
  · simp [verifiedNin, hasVerifiedNin, isText, Json.truthy, Runtime.text]

theorem count_verifiedNins (runtime : Runtime) {rows : List Row}
    (ninTexts : ∀ row ∈ rows, NinText row) (nin : String) :
    (verifiedNins runtime rows).count nin = rows.countP fun row => verifiedNin row = some nin := by
  induction rows with
  | nil => rfl
  | cons row rest ih =>
      have later := ih fun other listed =>
        ninTexts other (List.mem_cons_of_mem row listed)
      have isSome := verifiedNin_eq_some_iff runtime (ninTexts row List.mem_cons_self) nin
      rw [verifiedNins] at later ⊢
      rw [List.countP_cons, ← later, List.filter_cons]
      by_cases verified : hasVerifiedNin row
      · rw [if_pos verified, List.map_cons, List.count_cons]
        simp [isSome, verified]
      · simp [isSome, verified]

section Judged

variable {runtime : Runtime} {rows : List Row}

theorem sharesNin_iff (runtime : Runtime) (ninTexts : ∀ row ∈ rows, NinText row) {index : Nat}
    {row : Row} (found : rows[index]? = some row) :
    SharesNin rows index ↔ quarantines runtime (verifiedNins runtime rows) row := by
  have ninText := ninTexts row (List.mem_of_getElem? found)
  rw [quarantines, Bool.and_eq_true, decide_eq_true_eq, count_verifiedNins runtime ninTexts]
  constructor
  · rintro ⟨same, nin, isRow, isNin, company⟩
    obtain rfl : row = same := by simpa [found] using isRow
    obtain ⟨verified, text⟩ := (verifiedNin_eq_some_iff runtime ninText nin).mp isNin
    refine ⟨verified, ?_⟩
    rw [text, Occurrences.one_lt_countP_iff found (by simpa using isNin)]
    simpa using company
  · rintro ⟨verified, several⟩
    have isNin := (verifiedNin_eq_some_iff runtime ninText _).mpr ⟨verified, rfl⟩
    rw [Occurrences.one_lt_countP_iff found (by simpa using isNin)] at several
    exact ⟨row, _, found, isNin, by simpa using several⟩

theorem map_alarm (nins : List String) (rows : List Row) :
    rows.filterMap (alarm runtime nins) =
      ((rows.map (judge runtime nins)).filter (·.matchStatus = "QUARANTINED")).map
        Resolution.alert := by
  induction rows with
  | nil => rfl
  | cons row rest ih =>
      by_cases shared : quarantines runtime nins row
      · have raised : alarm runtime nins row = some (judge runtime nins row).alert := by
          rw [alarm, if_pos shared]
        have status : (judge runtime nins row).matchStatus = "QUARANTINED" := by
          simp [judge, shared]
        rw [List.filterMap_cons_some raised, List.map_cons,
          List.filter_cons_of_pos (by simpa using status), List.map_cons, ih]
      · have silent : alarm runtime nins row = none := by
          rw [alarm, if_neg shared]
        have status : (judge runtime nins row).matchStatus = "MATCHED" := by
          simp [judge, shared]
        rw [List.filterMap_cons_none silent, List.map_cons,
          List.filter_cons_of_neg (by simp [status]), ih]

theorem lossless_of_complete (ninTexts : ∀ row ∈ rows, NinText row) :
    Lossless runtime rows ⟨rows.map (judge runtime (verifiedNins runtime rows)),
      rows.filterMap (alarm runtime (verifiedNins runtime rows))⟩ where
  each := by
    rw [List.forall₂_map_right_iff]
    exact List.forall₂_same.mpr fun row _ => judge_for _ row
  quarantined := by
    intro index resolution found shares
    obtain ⟨row, isRow, rfl⟩ := Option.map_eq_some_iff.mp ((List.getElem?_map ..).symm.trans found)
    have shared := (sharesNin_iff runtime ninTexts isRow).mp shares
    simp [judge, shared]
  matched := by
    intro index resolution found alone
    obtain ⟨row, isRow, rfl⟩ := Option.map_eq_some_iff.mp ((List.getElem?_map ..).symm.trans found)
    have single := mt (sharesNin_iff runtime ninTexts isRow).mpr alone
    simp [judge, single]
  alerts := map_alarm _ rows

/-! ## Rows that are judged alike -/

theorem quarantines_congr {nins others : List String}
    (counts : ∀ nin, nins.count nin = others.count nin) (row : Row) :
    quarantines runtime nins row = quarantines runtime others row := by
  rw [quarantines, quarantines, counts]

theorem judge_congr {nins others : List String}
    (counts : ∀ nin, nins.count nin = others.count nin) :
    judge runtime nins = judge runtime others ∧ alarm runtime nins = alarm runtime others := by
  have same : judge runtime nins = judge runtime others := by
    funext row
    rw [judge, judge, quarantines_congr counts]
  refine ⟨same, ?_⟩
  funext row
  rw [alarm, alarm, quarantines_congr counts, same]

theorem rowByRow_of_perm {others : List Row} (permuted : rows.Perm others) :
    RowByRow rows others
      ⟨rows.map (judge runtime (verifiedNins runtime rows)),
        rows.filterMap (alarm runtime (verifiedNins runtime rows))⟩
      ⟨others.map (judge runtime (verifiedNins runtime others)),
        others.filterMap (alarm runtime (verifiedNins runtime others))⟩ := by
  have counts (nin : String) :
      (verifiedNins runtime others).count nin = (verifiedNins runtime rows).count nin :=
    ((permuted.symm.filter _).map _).count_eq nin
  refine ⟨_, _, rfl, ?_⟩
  rw [(judge_congr counts).1, (judge_congr counts).2]

end Judged

/-! ## Renamed NINs -/

section Renamed

variable {runtime : Runtime} {rename : String → String} {row : Row}

theorem lookup_renameNin (rename : String → String) (row : Row) (field : String) :
    (renameNin rename row).lookup field =
      (row.lookup field).map fun value => if field = "nin" then renamed rename value else value := by
  induction row with
  | nil => rfl
  | cons member rest ih =>
      obtain ⟨name, value⟩ := member
      rw [renameNin] at ih ⊢
      rw [List.map_cons, List.lookup_cons, List.lookup_cons, ih]
      by_cases same : field = name
      · subst same
        rw [beq_self_eq_true]
        rfl
      · rw [beq_eq_false_iff_ne.mpr same]

theorem get_renameNin_nin (rename : String → String) (row : Row) :
    Json.get (renameNin rename row) "nin" = renamed rename (Json.get row "nin") := by
  rw [Json.get, Json.get, lookup_renameNin]
  cases row.lookup "nin" <;> rfl

theorem get_renameNin_of_ne {field : String} (other : field ≠ "nin") :
    Json.get (renameNin rename row) field = Json.get row field := by
  rw [Json.get, Json.get, lookup_renameNin]
  simp [other]

theorem Complete.renameNin (complete : Complete row) : Complete (renameNin rename row) := by
  intro field listed
  have other : field ≠ "nin" := by
    rintro rfl
    simp at listed
  have passed := complete field listed
  rw [required] at passed ⊢
  rw [get_renameNin_of_ne other, passed]

/-- What the resolver needs of a renaming. -/
structure KeepsApart (rename : String → String) : Prop where
  injective : Function.Injective rename
  empty : rename "" = ""

theorem keepsApart_keepEmpty (injective : Function.Injective rename)
    (nonempty : ∀ nin, rename nin ≠ "") : KeepsApart (keepEmpty rename) where
  injective := by
    intro nin other same
    rw [keepEmpty, keepEmpty] at same
    split at same <;> split at same
    next first second => rw [first, second]
    next => exact absurd same.symm (nonempty other)
    next => exact absurd same (nonempty nin)
    next => exact injective same
  empty := rfl

theorem hasVerifiedNin_renameNin (keeps : KeepsApart rename) (ninText : NinText row) :
    hasVerifiedNin (renameNin rename row) = hasVerifiedNin row := by
  have verified : isVerified (renameNin rename row) = isVerified row := by
    rw [isVerified, isVerified, get_renameNin_of_ne (by decide)]
  rw [hasVerifiedNin, hasVerifiedNin, verified, get_renameNin_nin]
  rcases ninText with none | ⟨nin, isText⟩
  · rw [none]
    rfl
  · have same : (rename nin).isEmpty = nin.isEmpty := by
      rw [Bool.eq_iff_iff, String.isEmpty_iff, String.isEmpty_iff,
        ← @Function.Injective.eq_iff _ _ rename keeps.injective nin "", keeps.empty]
    simp only [isText, renamed, Json.truthy, same]

theorem text_renameNin (ninText : NinText row) (verified : hasVerifiedNin row) :
    runtime.text (Json.get (renameNin rename row) "nin") =
      rename (runtime.text (Json.get row "nin")) := by
  rw [get_renameNin_nin]
  rcases ninText with none | ⟨nin, isText⟩
  · simp [hasVerifiedNin, none, Json.truthy] at verified
  · rw [isText]
    rfl

theorem verifiedNins_renameNin (keeps : KeepsApart rename) {rows : List Row}
    (ninTexts : ∀ row ∈ rows, NinText row) :
    verifiedNins runtime (rows.map (renameNin rename)) = (verifiedNins runtime rows).map rename := by
  induction rows with
  | nil => rfl
  | cons row rest ih =>
      have ninText := ninTexts row List.mem_cons_self
      have later := ih fun other listed =>
        ninTexts other (List.mem_cons_of_mem row listed)
      rw [verifiedNins, verifiedNins] at later ⊢
      rw [List.map_cons, List.filter_cons, List.filter_cons,
        hasVerifiedNin_renameNin keeps ninText]
      by_cases verified : hasVerifiedNin row
      · rw [if_pos verified, if_pos verified, List.map_cons, List.map_cons, List.map_cons,
          text_renameNin ninText verified, later]
      · rw [if_neg verified, if_neg verified, later]

theorem quarantines_renameNin (keeps : KeepsApart rename) (ninText : NinText row)
    (nins : List String) :
    quarantines runtime (nins.map rename) (renameNin rename row) = quarantines runtime nins row := by
  rw [quarantines, quarantines, hasVerifiedNin_renameNin keeps ninText]
  by_cases verified : hasVerifiedNin row
  · rw [text_renameNin ninText verified, List.count_map_of_injective _ _ keeps.injective]
  · simp [verified]

theorem judge_renameNin (keeps : KeepsApart rename) (ninText : NinText row) (nins : List String) :
    judge runtime (nins.map rename) (renameNin rename row) = judge runtime nins row ∧
      alarm runtime (nins.map rename) (renameNin rename row) = alarm runtime nins row := by
  have system : Json.get (renameNin rename row) "source_system" = Json.get row "source_system" :=
    get_renameNin_of_ne (by decide)
  have entity : Json.get (renameNin rename row) "source_entity" = Json.get row "source_entity" :=
    get_renameNin_of_ne (by decide)
  have recordId : Json.get (renameNin rename row) "source_record_id" =
      Json.get row "source_record_id" := get_renameNin_of_ne (by decide)
  have same : judge runtime (nins.map rename) (renameNin rename row) = judge runtime nins row := by
    simp only [judge, goldenIdOf, system, entity, recordId,
      quarantines_renameNin keeps ninText nins, hasVerifiedNin_renameNin keeps ninText]
  exact ⟨same, by rw [alarm, alarm, quarantines_renameNin keeps ninText nins, same]⟩

theorem resolveBeneficiaries_renameNin (keeps : KeepsApart rename) {rows : List Row}
    (complete : ∀ row ∈ rows, Complete row) (ninTexts : ∀ row ∈ rows, NinText row) :
    resolveBeneficiaries runtime (rows.map (renameNin rename)) =
      resolveBeneficiaries runtime rows := by
  have stillComplete : ∀ row ∈ rows.map (renameNin rename), Complete row := by
    intro row listed
    obtain ⟨original, isRow, rfl⟩ := List.mem_map.mp listed
    exact (complete original isRow).renameNin
  rw [resolveBeneficiaries_of_complete stillComplete, resolveBeneficiaries_of_complete complete,
    verifiedNins_renameNin keeps ninTexts, List.map_map, List.filterMap_map]
  congr 2
  · apply List.map_congr_left
    intro row listed
    exact (judge_renameNin keeps (ninTexts row listed) _).1
  · apply List.filterMap_congr
    intro row listed
    exact (judge_renameNin keeps (ninTexts row listed) _).2

end Renamed

/-! ## The resolution -/

theorem resolveBeneficiaries_faithful (runtime : Runtime) {rows : List Row}
    (complete : ∀ row ∈ rows, Complete row) (ninTexts : ∀ row ∈ rows, NinText row) :
    ∃ resolved, resolveBeneficiaries runtime rows = .ok resolved ∧ Lossless runtime rows resolved ∧
      (∀ others, rows.Perm others → ∃ resolvedOthers,
        resolveBeneficiaries runtime others = .ok resolvedOthers ∧
          RowByRow rows others resolved resolvedOthers) ∧
      ∀ rename, Function.Injective rename → (∀ nin, rename nin ≠ "") → ∃ blind,
        resolveBeneficiaries runtime (rows.map (renameNin (keepEmpty rename))) = .ok blind ∧
          blind = resolved ∧ ∀ validFrom, blind.crosswalk validFrom = resolved.crosswalk validFrom := by
  refine ⟨_, resolveBeneficiaries_of_complete complete, lossless_of_complete ninTexts, ?_, ?_⟩
  · intro others permuted
    exact ⟨_, resolveBeneficiaries_of_complete
      fun row listed => complete row (permuted.mem_iff.mpr listed), rowByRow_of_perm permuted⟩
  · intro rename injective nonempty
    refine ⟨_, ?_, rfl, fun _ => rfl⟩
    rw [resolveBeneficiaries_renameNin (keepsApart_keepEmpty injective nonempty) complete ninTexts,
      resolveBeneficiaries_of_complete complete]

/-! ## A verified NIN that is empty -/

def sampleRuntime : Runtime where
  str _ := ""
  sha256 text := text

def beneficiaryRow (sourceRecordId nin : String) : Row :=
  [("source_system", .string "pdmis"), ("source_entity", .string "beneficiaries"),
    ("source_record_id", .string sourceRecordId), ("nin", .string nin),
    ("nin_verified", .bool true)]

theorem beneficiaryRow_complete {sourceRecordId : String} (given : sourceRecordId ≠ "")
    (nin : String) : Complete (beneficiaryRow sourceRecordId nin) := by
  intro field listed
  simp only [List.mem_cons, List.not_mem_nil, or_false] at listed
  rcases listed with rfl | rfl | rfl
  · simp [required, isMissing, Json.get, beneficiaryRow, Json.isNull]
  · simp [required, isMissing, Json.get, beneficiaryRow, Json.isNull, List.lookup_cons]
  · simp [required, isMissing, Json.get, beneficiaryRow, Json.isNull, List.lookup_cons, given]

theorem beneficiaryRow_ninText (sourceRecordId nin : String) :
    NinText (beneficiaryRow sourceRecordId nin) := .inr ⟨nin, rfl⟩

def sharedNin : List Row := [beneficiaryRow "BEN-1" "NIN-A", beneficiaryRow "BEN-2" "NIN-A"]

theorem sharedNin_complete : ∀ row ∈ sharedNin, Complete row := by
  intro row listed
  rcases List.mem_pair.mp listed with rfl | rfl <;> exact beneficiaryRow_complete (by decide) _

theorem sharedNin_ninText : ∀ row ∈ sharedNin, NinText row := by
  intro row listed
  rcases List.mem_pair.mp listed with rfl | rfl <;> exact beneficiaryRow_ninText _ _

theorem sharedNin_lossless :
    ∃ resolved, resolveBeneficiaries sampleRuntime sharedNin = .ok resolved ∧
      Lossless sampleRuntime sharedNin resolved := by
  obtain ⟨resolved, returned, lossless, -⟩ :=
    resolveBeneficiaries_faithful sampleRuntime sharedNin_complete sharedNin_ninText
  exact ⟨resolved, returned, lossless⟩

/-- An empty NIN is no NIN; its image under the renaming is one. -/
theorem emptyNin_not_blind :
    ¬ ∀ (rows : List Row) (rename : String → String), (∀ row ∈ rows, Complete row) →
      (∀ row ∈ rows, NinText row) → Function.Injective rename → (∀ nin, rename nin ≠ "") →
        resolveBeneficiaries sampleRuntime (rows.map (renameNin rename)) =
          resolveBeneficiaries sampleRuntime rows := by
  intro blind
  have complete (nin : String) : ∀ row ∈ [beneficiaryRow "BEN-1" nin], Complete row := by
    intro row listed
    rw [List.mem_singleton.mp listed]
    exact beneficiaryRow_complete (by decide) nin
  have ninTexts : ∀ row ∈ [beneficiaryRow "BEN-1" ""], NinText row := by
    intro row listed
    rw [List.mem_singleton.mp listed]
    exact beneficiaryRow_ninText _ _
  have injective : Function.Injective fun nin => "N" ++ nin := by
    intro nin other same
    simpa using same
  have same := blind [beneficiaryRow "BEN-1" ""] (fun nin => "N" ++ nin) (complete "") ninTexts
    injective (by simp)
  have renamed : [beneficiaryRow "BEN-1" ""].map (renameNin fun nin => "N" ++ nin) =
      [beneficiaryRow "BEN-1" "N"] := rfl
  rw [renamed, resolveBeneficiaries_of_complete (complete "N"),
    resolveBeneficiaries_of_complete (complete "")] at same
  exact absurd (congrArg (fun result => result.toOption.map fun resolved =>
    resolved.resolutions.map Resolution.matchRule) same) (by decide +kernel)

end PaymentsPlatform.Mdm
