import PaymentsPlatform.Ingestion.Destinations

/-!
# What `process_message` ends with

Its documentation knows of two verdicts and one exception.  Whatever the notification of the
retry topic, the pause or the failure envelope raises inside of the `except` clause is none of
them, nor is the `None` of a loop without a pass.  `processMessage_documented_iff` says for which
scripts the documentation holds.
-/

namespace PaymentsPlatform.Ingestion

/-- A verdict, or `DlqPublishFailedError`. -/
inductive Documented : Except Escape (Option Outcome) → Prop where
  | verdict (outcome : Outcome) : Documented (.ok (some outcome))
  | failStop (envelope : FailureEnvelope) : Documented (.error (.dlqPublishFailed envelope))

theorem not_documented_none : ¬ Documented (.ok none) := nofun

theorem not_documented_raised (raised : Raised) : ¬ Documented (.error (.raised raised)) := nofun

section Script

variable (settings : Settings) (msg : Message) (attempts : Nat → Attempt) (held : Bool)

/-- The `except` clause deals with what a pass raises: it builds the envelope and, if the record
is not given up, notifies the retry topic and pauses. -/
def Attempt.handles (attempt : Attempt) (raised : Raised) (index : Nat) : Prop :=
  if shouldSendToDlq settings raised index then attempt.envelope = none
  else attempt.continues = true

/-- So it does in every pass that the loop comes to from this one on. -/
def HandledFrom (index : Nat) : Prop :=
  ∀ later, index ≤ later →
    (∀ earlier, index ≤ earlier → earlier < later →
      retriedAt settings msg attempts held earlier) →
    ∀ raised, errorAt settings msg attempts held later = some raised →
      (attempts later).handles settings raised later

/-- The loop has a pass, and the `except` clause deals with whatever a pass raises. -/
structure Undisturbed : Prop where
  passes : 0 ≤ settings.maxProcessingRetries
  handled : HandledFrom settings msg attempts held 0

end Script

section Loop

variable {settings : Settings} {msg : Message} {attempts : Nat → Attempt} {held : Bool}
  {index : Nat}

theorem handles_of_retriedAt (retried : retriedAt settings msg attempts held index)
    {raised : Raised} (failed : errorAt settings msg attempts held index = some raised) :
    (attempts index).handles settings raised index := by
  obtain ⟨other, isError, spared, continues⟩ := retried
  obtain rfl := Option.some.inj (failed.symm.trans isError)
  simpa [Attempt.handles, spared] using continues

theorem handledFrom_of_not_retried (notRetried : ¬ retriedAt settings msg attempts held index) :
    HandledFrom settings msg attempts held index ↔
      ∀ raised, errorAt settings msg attempts held index = some raised →
        (attempts index).handles settings raised index := by
  constructor
  · intro handled
    exact handled index (Nat.le_refl index) fun earlier after before => absurd after (by omega)
  · intro here later after retried raised failed
    obtain rfl | beyond := Nat.eq_or_lt_of_le after
    · exact here raised failed
    · exact absurd (retried index (Nat.le_refl index) beyond) notRetried

theorem handledFrom_of_retried (retriedHere : retriedAt settings msg attempts held index) :
    HandledFrom settings msg attempts held index ↔
      HandledFrom settings msg attempts held (index + 1) := by
  constructor
  · intro handled later after retried
    apply handled later (by omega)
    intro earlier low high
    obtain rfl | beyond := Nat.eq_or_lt_of_le low
    · exact retriedHere
    · exact retried earlier beyond high
  · intro handled later after retried raised failed
    obtain rfl | beyond := Nat.eq_or_lt_of_le after
    · exact handles_of_retriedAt retriedHere failed
    · exact handled later beyond (fun earlier low => retried earlier (by omega)) raised failed

theorem sendToDlq_documented_iff (settings : Settings) (attempt : Attempt) (msg : Message)
    (event : Option Event) (error : Raised) (attemptNumber : Nat) (firstFailure : String)
    (world : World) :
    Documented (sendToDlq settings attempt msg event error attemptNumber firstFailure world).1 ↔
      attempt.envelope = none := by
  unfold sendToDlq
  cases attempt.envelope with
  | some raised => simp [not_documented_raised]
  | none =>
      dsimp only
      generalize failureEnvelope msg event error attemptNumber firstFailure attempt.now = envelope
      rcases publishDlqThenCommit settings attempt msg envelope world with
        ⟨raised | _ | _, next⟩
      · exact iff_of_true (.failStop envelope) rfl
      · exact iff_of_true (.failStop envelope) rfl
      · exact iff_of_true (.verdict .dlq) rfl

/-- The retry loop from a pass on ends as documented exactly when its script deals with what is
raised on the way. -/
theorem processFrom_documented_iff (firstFailure : String) {remaining : Nat}
    {event : Option Event} {world : World}
    (aligned : situation settings msg attempts held index =
      (event, recordHeld settings msg world))
    (total : (index : Int) + remaining = settings.maxProcessingRetries + 1)
    (inside : (index : Int) ≤ settings.maxProcessingRetries) :
    Documented (processFrom settings attempts msg firstFailure remaining index event world).1 ↔
      HandledFrom settings msg attempts held index := by
  induction remaining generalizing index event world with
  | zero => omega
  | succ remaining ih =>
      obtain ⟨effects, described, ran⟩ :=
        processOnce_eq settings (attempts index) msg event world
      have errorHere : errorAt settings msg attempts held index =
          (attempts index).error settings msg event (recordHeld settings msg world) := by
        simp only [errorAt, aligned]
      have heldNext := described.recordHeld_eq world rawKey_of_stores
      rw [← errorHere] at ran
      generalize { world with trace := world.trace ++ effects } = next at *
      unfold processFrom
      dsimp only
      rw [ran]
      cases failed : errorAt settings msg attempts held index with
      | none =>
          have notRetried : ¬ retriedAt settings msg attempts held index := by
            rintro ⟨raised, isError, -⟩
            simp [failed] at isError
          rw [handledFrom_of_not_retried notRetried]
          refine iff_of_true (.verdict .ok) fun raised isError => ?_
          simp [failed] at isError
      | some raised =>
          dsimp only [answer]
          cases gives : shouldSendToDlq settings raised index with
          | true =>
              have notRetried : ¬ retriedAt settings msg attempts held index := by
                rintro ⟨other, isError, spared, -⟩
                rw [failed, Option.some.injEq] at isError
                simp [← isError, gives] at spared
              simp only [if_true]
              rw [handledFrom_of_not_retried notRetried, sendToDlq_documented_iff]
              simp [failed, Attempt.handles, gives]
          | false =>
              have retried : retriedAt settings msg attempts held index ↔
                  (attempts index).continues = true := by
                simp [retriedAt, failed, gives]
              have sent := sendToRetry_outcome settings (attempts index) msg
                (((attempts index).decoded event).toOption.getD event) raised index firstFailure
                next
              simp only [Bool.false_eq_true, if_false]
              generalize sendToRetry settings (attempts index) msg
                (((attempts index).decoded event).toOption.getD event) raised index firstFailure
                next = ran at sent ⊢
              obtain ⟨heldLast, continues, escapes⟩ := sent
              rcases ran with ⟨_ | escape, last⟩
              · rw [handledFrom_of_retried (retried.mpr (continues.mp rfl))]
                have insideNext : ((index + 1 : Nat) : Int) ≤ settings.maxProcessingRetries := by
                  simp only [shouldSendToDlq, decide_eq_false_iff_not, not_or] at gives
                  push_cast
                  omega
                refine ih ?_ (by push_cast at total ⊢; omega) insideNext
                rw [heldLast, heldNext]
                simp only [situation, aligned]
              · have stops : ¬ retriedAt settings msg attempts held index := by
                  rw [retried, ← continues]
                  simp
                obtain ⟨other, rfl⟩ := escapes escape rfl
                rw [handledFrom_of_not_retried stops]
                refine iff_of_false (not_documented_raised other) fun here => ?_
                have handled := here raised failed
                rw [Attempt.handles, gives] at handled
                exact stops (retried.mpr (by simpa using handled))

end Loop

/-- `process_message` ends as documented exactly where no service disturbs its `except` clause. -/
theorem processMessage_documented_iff (settings : Settings) (attempts : Nat → Attempt)
    (firstFailure : String) (msg : Message) (world : World) :
    Documented (processMessage settings attempts firstFailure msg world).1 ↔
      Undisturbed settings msg attempts (recordHeld settings msg world) := by
  rw [processMessage]
  by_cases passes : 0 ≤ settings.maxProcessingRetries
  · have fromFirst := @processFrom_documented_iff settings msg attempts
      (recordHeld settings msg world) 0 firstFailure (settings.maxProcessingRetries + 1).toNat none
      world rfl (by omega) (by exact_mod_cast passes)
    rw [fromFirst]
    exact ⟨fun handled => ⟨passes, handled⟩, Undisturbed.handled⟩
  · have empty : (settings.maxProcessingRetries + 1).toNat = 0 := by omega
    rw [empty]
    exact iff_of_false not_documented_none fun undisturbed => passes undisturbed.passes

/-- The object store times out, and the producer refuses the notification of the retry topic. -/
def unnotified : Attempt :=
  { smooth with
    head := some ⟨.botoCoreError, "ReadTimeoutError", "timeout"⟩
    retryPublication := ⟨some ⟨.other, "BufferError", "Local: Queue full"⟩, .ok 0, false, none⟩ }

theorem unnotified_not_documented :
    ¬ ∀ settings attempts firstFailure msg world,
      Documented (processMessage settings attempts firstFailure msg world).1 := by
  intro always
  have ended : (processMessage deployed (fun _ => unnotified) "t1" (loan 100) ⟨[], []⟩).1 =
      .error (.raised ⟨.other, "BufferError", "Local: Queue full"⟩) := by decide +kernel
  have documented := always deployed (fun _ => unnotified) "t1" (loan 100) ⟨[], []⟩
  rw [ended] at documented
  exact not_documented_raised _ documented

end PaymentsPlatform.Ingestion
