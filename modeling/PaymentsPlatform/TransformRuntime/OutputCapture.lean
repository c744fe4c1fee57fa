import PaymentsPlatform.TransformRuntime.ChildOutput

/-!
# Capturing the output of a child

`execute` of `transform_execution.py` after the child has been started: the thread that drains the
output, and the result.  The first limit cuts the bytes as they come, the last one the text without
its secrets.  What the waiting loop and the check afterwards come to is given.
-/

namespace PaymentsPlatform.TransformRuntime.ChildOutput

open Ingestion (decodeChars decodeIgnore decodeWith decodeWith_take_utf8 cutWith utf8
  length_utf8_cons)

/-- What a call of `process.stdout.read` answers. -/
inductive Read where
  | chunk (bytes : List UInt8)
  | raised (error : String)
  deriving DecidableEq

/-- The variables of `drain_output`. -/
structure Drain where
  retainedOutput : List UInt8
  totalOutputBytes : Nat
  outputReadErrors : List String

/-- A chunk that is not empty. -/
def Drain.extend (outputCapBytes : Nat) (drain : Drain) (chunk : List UInt8) : Drain :=
  let remaining : Int := outputCapBytes - drain.retainedOutput.length
  { drain with
    totalOutputBytes := drain.totalOutputBytes + chunk.length
    retainedOutput :=
      if 0 < remaining then drain.retainedOutput ++ chunk.take remaining.toNat
      else drain.retainedOutput }

/-- `drain_output`, on what the calls answer.  After the last answer the output is at its end. -/
def drainOutput (outputCapBytes : Nat) : Drain → List Read → Drain
  | drain, [] => drain
  | drain, .raised error :: _ =>
      { drain with outputReadErrors := drain.outputReadErrors ++ [error] }
  | drain, .chunk bytes :: rest =>
      if bytes.isEmpty then drain
      else drainOutput outputCapBytes (drain.extend outputCapBytes bytes) rest

/-- What ends the waiting for the child. -/
inductive Failure where
  | operatorCancelled
  | timeoutRequiresReconciliation
  deriving DecidableEq

def Failure.text : Failure → String
  | operatorCancelled => "OPERATOR_CANCELLED"
  | timeoutRequiresReconciliation => "TIMEOUT_REQUIRES_RECONCILIATION"

/-- A child that has ended, and the check after it if there is one. -/
structure Child where
  reads : List Read
  failure : Option Failure
  returncode : Int
  postExecutionCheck : Option (Except String String)

/-- `ProcessResult`. -/
structure Captured where
  status : String
  returnCode : Int
  output : List Char
  outputTruncated : Bool
  failureClass : Option String
  deriving DecidableEq

def postCheckGates : List String := ["SUCCEEDED", "STAGED", "RECONCILIATION_REQUIRED"]

def finish (child : Child) (safeOutput : List Char) (truncated : Bool) :
    Except String Captured :=
  match child.failure with
  | some failure =>
      .ok ⟨if failure = .operatorCancelled then "CANCELLED" else "ORPHANED", child.returncode,
        safeOutput, truncated, some failure.text⟩
  | none =>
      if child.returncode ≠ 0 then
        .ok ⟨"FAILED", child.returncode, safeOutput, truncated, some "DBT_BUILD_FAILED"⟩
      else
        match child.postExecutionCheck with
        | some (.error raised) => .error raised
        | some (.ok gateStatus) =>
            .ok ⟨if gateStatus ∈ postCheckGates then gateStatus else "SUCCEEDED",
              child.returncode, safeOutput, truncated, none⟩
        | none => .ok ⟨"SUCCEEDED", child.returncode, safeOutput, truncated, none⟩

/-- The end of `execute`. -/
def execute (outputCapBytes : Nat) (child : Child) : Except String Captured :=
  let drain := drainOutput outputCapBytes ⟨[], 0, []⟩ child.reads
  if !drain.outputReadErrors.isEmpty then .error "failed to drain transform child output"
  else
    let redactedBytes := utf8 (redact (decodeChars none drain.retainedOutput))
    if outputCapBytes < redactedBytes.length then
      finish child (decodeIgnore (redactedBytes.take outputCapBytes)) true
    else
      finish child (decodeIgnore redactedBytes) (outputCapBytes < drain.totalOutputBytes)

/-! ## What is drained -/

/-- The bytes that were read, however they were split. -/
def bytesRead : List Read → List UInt8
  | .chunk bytes :: rest => if bytes.isEmpty then [] else bytes ++ bytesRead rest
  | _ => []

section Drain

variable {outputCapBytes : Nat} {drain : Drain} {seen : List UInt8}

/-- The drain has seen these bytes. -/
structure Drain.Holds (outputCapBytes : Nat) (drain : Drain) (seen : List UInt8) : Prop where
  retained : drain.retainedOutput = seen.take outputCapBytes
  total : drain.totalOutputBytes = seen.length

theorem Drain.Holds.extend (holds : drain.Holds outputCapBytes seen) (chunk : List UInt8) :
    (drain.extend outputCapBytes chunk).Holds outputCapBytes (seen ++ chunk) where
  retained := by
    have length : (seen.take outputCapBytes).length = min outputCapBytes seen.length :=
      List.length_take
    simp only [Drain.extend, holds.retained, length]
    split
    next room =>
      -- there is room, so all that came before was retained
      have fits : seen.length ≤ outputCapBytes := by omega
      have count : ((outputCapBytes : Int) - (min outputCapBytes seen.length : Nat)).toNat =
          outputCapBytes - seen.length := by omega
      rw [count, List.take_append]
    next full =>
      have reached : outputCapBytes ≤ seen.length := by omega
      rw [List.take_append_of_le_length reached]
  total := by
    rw [List.length_append, ← holds.total]
    rfl

theorem Drain.Holds.drainOutput (holds : drain.Holds outputCapBytes seen) (reads : List Read) :
    (drainOutput outputCapBytes drain reads).Holds outputCapBytes (seen ++ bytesRead reads) := by
  induction reads generalizing drain seen with
  | nil => simpa [ChildOutput.drainOutput, bytesRead] using holds
  | cons read rest ih =>
      cases read with
      | raised error =>
          rw [ChildOutput.drainOutput, bytesRead, List.append_nil]
          · exact ⟨holds.retained, holds.total⟩
          · simp
      | chunk bytes =>
          rw [ChildOutput.drainOutput, bytesRead]
          split
          next => rwa [List.append_nil]
          next =>
            rw [← List.append_assoc]
            exact ih (holds.extend bytes)

theorem holds_drainOutput (outputCapBytes : Nat) (reads : List Read) :
    (drainOutput outputCapBytes ⟨[], 0, []⟩ reads).Holds outputCapBytes (bytesRead reads) := by
  have start : Drain.Holds outputCapBytes ⟨[], 0, []⟩ [] := ⟨List.take_nil.symm, rfl⟩
  exact start.drainOutput reads

end Drain

/-! ## What is shown -/

section Text

variable {size : Nat} {text : List Char}

theorem fitting_eq_cutWith (size : Nat) (text : List Char) :
    fitting size text = cutWith [] size text := by
  induction text generalizing size with
  | nil => rfl
  | cons c rest ih => rw [fitting, cutWith, ih, ite_self]

theorem decodeIgnore_take_utf8 (size : Nat) (text : List Char) :
    decodeIgnore ((utf8 text).take size) = fitting size text := by
  rw [decodeIgnore, decodeWith_take_utf8, fitting_eq_cutWith]

theorem decodeIgnore_utf8 (text : List Char) : decodeIgnore (utf8 text) = text := by
  have whole := decodeIgnore_take_utf8 (utf8 text).length text
  rwa [List.take_length, fitting_of_fits (Nat.le_refl _)] at whole

theorem length_utf8_fitting (size : Nat) (text : List Char) :
    (utf8 (fitting size text)).length ≤ size := by
  induction text generalizing size with
  | nil => exact Nat.zero_le size
  | cons c rest ih =>
      rw [fitting]
      split
      next fits =>
        have later := ih (size - c.utf8Size)
        rw [length_utf8_cons]
        omega
      next => exact Nat.zero_le size

end Text

section Result

variable {outputCapBytes : Nat} {child : Child} {captured : Captured}

theorem finish_ok {safeOutput : List Char} {truncated : Bool}
    (returned : finish child safeOutput truncated = .ok captured) :
    captured.output = safeOutput ∧ captured.outputTruncated = truncated := by
  unfold finish at returned
  split at returned
  next =>
    cases returned
    exact ⟨rfl, rfl⟩
  next =>
    split at returned
    next =>
      cases returned
      exact ⟨rfl, rfl⟩
    next =>
      split at returned
      next => cases returned
      next =>
        cases returned
        exact ⟨rfl, rfl⟩
      next =>
        cases returned
        exact ⟨rfl, rfl⟩

/-- The text that is redacted, of all that was read. -/
def redactedText (child : Child) : List Char := redact (decodeChars none (bytesRead child.reads))

theorem execute_ok (returned : execute outputCapBytes child = .ok captured) :
    captured.output = safeOutput outputCapBytes (bytesRead child.reads) ∧
      (captured.outputTruncated = true ↔ outputCapBytes < (bytesRead child.reads).length ∨
        outputCapBytes < (utf8 (redactedText child)).length) := by
  have drained := holds_drainOutput outputCapBytes child.reads
  unfold execute at returned
  dsimp only at returned
  rw [drained.retained, drained.total] at returned
  have whole : (bytesRead child.reads).length ≤ outputCapBytes →
      (bytesRead child.reads).take outputCapBytes = bytesRead child.reads :=
    List.take_of_length_le
  unfold redactedText safeOutput
  split at returned
  next => cases returned
  next =>
    split at returned
    next exceeds =>
      obtain ⟨output, truncated⟩ := finish_ok returned
      rw [output, truncated, decodeIgnore_take_utf8]
      refine ⟨rfl, iff_of_true rfl ?_⟩
      by_cases short : (bytesRead child.reads).length ≤ outputCapBytes
      · rw [whole short] at exceeds
        exact .inr exceeds
      · exact .inl (by omega)
    next fits =>
      obtain ⟨output, truncated⟩ := finish_ok returned
      rw [output, truncated, decodeIgnore_utf8, fitting_of_fits (by omega), decide_eq_true_iff]
      refine ⟨rfl, .inl, ?_⟩
      rintro (long | exceeds)
      · exact long
      · by_contra short
        rw [whole (by omega)] at fits
        exact fits exceeds

/-- The output of a child is bounded, and exact unless it is said to be truncated. -/
structure FaithfulOutput (outputCapBytes : Nat) (child : Child) (captured : Captured) : Prop where
  bounded : (utf8 captured.output).length ≤ outputCapBytes
  truncated : captured.outputTruncated = true ↔
    outputCapBytes < (bytesRead child.reads).length ∨
      outputCapBytes < (utf8 (redactedText child)).length
  whole : captured.outputTruncated = false →
    captured.output = redact (decodeChars none (bytesRead child.reads))
  /-- It does not matter how the output was split, nor how the child ended. -/
  chunking : ∀ other again, bytesRead other.reads = bytesRead child.reads →
    execute outputCapBytes other = .ok again →
    again.output = captured.output ∧ again.outputTruncated = captured.outputTruncated

theorem execute_faithful (returned : execute outputCapBytes child = .ok captured) :
    FaithfulOutput outputCapBytes child captured := by
  obtain ⟨output, truncated⟩ := execute_ok returned
  constructor
  case bounded =>
    rw [output, safeOutput]
    exact length_utf8_fitting outputCapBytes _
  case truncated => exact truncated
  case whole =>
    intro isWhole
    have fits : ¬ (outputCapBytes < (bytesRead child.reads).length ∨
        outputCapBytes < (utf8 (redactedText child)).length) := by
      rw [← truncated, isWhole]
      exact Bool.false_ne_true
    obtain ⟨bytesFit, textFits⟩ := not_or.mp fits
    rw [output, safeOutput, List.take_of_length_le (by omega)]
    exact fitting_of_fits (by unfold redactedText at textFits; omega)
  case chunking =>
    intro other again same returnedAgain
    obtain ⟨outputAgain, truncatedAgain⟩ := execute_ok returnedAgain
    rw [redactedText, same, ← redactedText, ← truncated] at truncatedAgain
    exact ⟨by rw [outputAgain, output, same], Bool.eq_iff_iff.mpr truncatedAgain⟩

/-- A password in an output whose last character comes in two chunks. -/
def splitOutput : Child where
  reads := [.chunk (utf8 "token=abc ".toList ++ [0xC3]), .chunk [0xA9], .chunk []]
  failure := none
  returncode := 0
  postExecutionCheck := some (.ok "STAGED")

def splitCaptured : Captured := ⟨"STAGED", 0, "token=[REDACTED] é".toList, false, none⟩

theorem splitOutput_faithful :
    execute 64 splitOutput = .ok splitCaptured ∧ FaithfulOutput 64 splitOutput splitCaptured :=
  ⟨by decide +kernel, execute_faithful (by decide +kernel)⟩

end Result

end PaymentsPlatform.TransformRuntime.ChildOutput
