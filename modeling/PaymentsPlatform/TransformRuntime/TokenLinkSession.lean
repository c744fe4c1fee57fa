import PaymentsPlatform.Library.SoleClient
import PaymentsPlatform.TransformRuntime.TokenLinkProgress

/-!
# The session of the child

`_trino_connection` names no catalog and no schema, and `main` validates the staging table by
its bare name.  The counts are then asked of a table that no session without a schema knows.
-/

namespace PaymentsPlatform.TransformRuntime.TokenLink

open RelyGuarantee

/-- The session that `_trino_connection` opens. -/
def openedSession : Option (String × String) := none

/-- The child that is alone and answered throughout returns 0, and the final table has one active
row for each identifier. -/
structure Succeeds (session : Option (String × String)) (environment : Environment)
    (choice : Choice) (store : Store) : Prop where
  passed : ((main environment).alone (perform session choice) store).1 = .ok .passed
  published : ∃ table,
    ((main environment).alone (perform session choice) store).2.final = some table ∧
    ∀ beneficiaryId, (table.rows.countP fun row =>
        row.beneficiaryId = some beneficiaryId ∧ row.isActive = some true) =
      if beneficiaryId ∈ choice.identifiers then 1 else 0

/-- The program raises. -/
def Raises {α : Type} (outcome : Except Fault α) : Prop := ∃ fault, outcome = .error fault

section Scripts

variable {choice : Choice} {environment : Environment} {context : OperationContext}

theorem validateTable_raises (table : String) (expectedRows : Option Nat)
    (version : Option String) :
    Always (perform openedSession choice) (validateTable (.bare table) expectedRows version)
      Raises := by
  unfold validateTable
  apply Always.bind (Always.any _)
  · intro reply _
    split
    next found =>
      split
      next =>
        apply Always.bind (Always.refused fun store => ⟨_, rfl⟩)
        · rintro value ⟨fault, isError⟩
          cases isError
        · exact fun fault _ => ⟨fault, rfl⟩
      next => exact Always.done ⟨_, rfl⟩
    next => exact Always.done ⟨_, rfl⟩
  · exact fun fault _ => ⟨fault, rfl⟩

theorem stage_raises (rows : Nat) (links : List TokenLinkRow) :
    Always (perform openedSession choice) (stage environment context rows links) Raises := by
  have raised {α : Type} (fault : Fault) : Raises (.error fault : Except Fault α) := ⟨fault, rfl⟩
  unfold stage
  apply Always.bind (Always.any _) ?_ fun fault _ => raised fault
  intro location _
  apply Always.bind (Always.any _) ?_ fun fault _ => raised fault
  intro prepared _
  apply Always.bind (Always.any _) ?_ fun fault _ => raised fault
  intro copied _
  apply Always.bind (Always.any _) ?_ fun fault _ => raised fault
  intro added _
  apply Always.bind (validateTable_raises context.stagingTable (some rows)
    (some context.tokenVersion)) ?_ fun fault _ => raised fault
  rintro counted ⟨fault, isError⟩
  cases isError

theorem create_raises :
    Always (perform openedSession choice) (create environment context)
      fun outcome => outcome ≠ .ok .passed := by
  unfold create
  apply Always.bind (Always.any _) ?_ fun fault _ => nofun
  rintro (fault | ⟨rows, links⟩) _
  · exact Always.done nofun
  apply Always.bind (stage_raises rows links).attempt ?_ fun fault _ => nofun
  rintro (fault | ⟨⟩) ⟨ended, isEnded, raised⟩
  · apply Always.bind (Always.any _) ?_ fun fault _ => nofun
    rintro (later | ⟨⟩) _
    · exact Always.done nofun
    · exact Always.done nofun
  · cases isEnded
    obtain ⟨fault, isError⟩ := raised
    cases isError

theorem main_raises (creates : reconciles environment = false) :
    Always (perform openedSession choice) (main environment)
      fun outcome => outcome ≠ .ok .passed := by
  unfold main
  cases operationContext environment with
  | error fault => exact Always.done nofun
  | ok context =>
      simp only [creates, Bool.false_eq_true, if_false]
      exact create_raises

end Scripts

/-- No creation succeeds in the session that `_trino_connection` opens. -/
theorem creation_never_succeeds (environment : Environment)
    (creates : reconciles environment = false) (choice : Choice) (store : Store) :
    ¬ Succeeds openedSession environment choice store :=
  fun succeeds => (main_raises creates).comes store succeeds.passed

/-! ## One execution -/

def soleId : ExecutionId where
  digits := "0123456789abcdef0123456789abcdef".toList
  length := by decide +kernel
  hexadecimal := by
    have digits : "0123456789abcdef0123456789abcdef".toList.all (· ∈ hexadecimalDigits) := by
      decide +kernel
    simpa using digits

def soleEnvironment : Environment where
  getenv := fun name =>
    [("TRANSFORM_EXECUTION_ID", soleId.text),
      ("PROTECTED_BOOTSTRAP_OPERATION", "initial_token_link_creation"),
      ("PROTECTED_BOOTSTRAP_VERSION", "1"),
      ("TRANSFORM_AUTHORITY", "restricted_identity_transform"),
      ("RESTRICTED_TRANSFORM_S3_ACCESS_KEY_ID", "access"),
      ("RESTRICTED_TRANSFORM_S3_SECRET_ACCESS_KEY", "secret")].lookup name
  requireMountedSecret := fun name => .ok (if name = "DP_TOKEN_KEY_VERSION" then "v1" else "key")
  activeKey := .ok ("key", "v1")
  hmac := fun key message => key ++ message
  now := "2026-01-01T00:00:00+00:00"
  withinWarehouse := fun _ => .ok ()

def soleChoice : Choice where
  identifiers := ["1"]
  location := ⟨"s3://bucket/warehouse/" ++ soleId.stagingTable, by decide +kernel⟩

theorem soleCreation_fails :
    ¬ Succeeds openedSession soleEnvironment soleChoice ⟨fun _ => none, fun _ => none⟩ :=
  creation_never_succeeds soleEnvironment (by decide +kernel) soleChoice
    ⟨fun _ => none, fun _ => none⟩

theorem soleEnvironment_context : operationContext soleEnvironment =
    .ok ⟨soleId, soleId.stagingTable, "v1", rfl⟩ := by
  apply operationContext_eq
  all_goals decide +kernel

theorem soleEnvironment_ready :
    Ready soleEnvironment ⟨soleId, soleId.stagingTable, "v1", rfl⟩ soleChoice
      ⟨fun _ => none, fun _ => none⟩ := by
  refine ⟨by decide +kernel, by decide +kernel, rfl, rfl, by decide, by decide, ⟨_, rfl, rfl, ?_⟩,
    ⟨soleChoice.location.text.toList, ?_, rfl⟩⟩
  · decide +kernel
  · decide +kernel

/-- Not even where everything that the child looks for is in place. -/
theorem ready_not_succeeds :
    ¬ ∀ environment context choice store, operationContext environment = .ok context →
      reconciles environment = false → Ready environment context choice store →
        Succeeds openedSession environment choice store := by
  intro succeeds
  have creates : reconciles soleEnvironment = false := by decide +kernel
  exact (main_raises creates).comes _
    (succeeds _ _ _ _ soleEnvironment_context creates soleEnvironment_ready).passed

end PaymentsPlatform.TransformRuntime.TokenLink
