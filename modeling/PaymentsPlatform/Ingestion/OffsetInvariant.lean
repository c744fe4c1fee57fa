import PaymentsPlatform.Ingestion.Consumer

/-!
# The source offset invariant

The consumer commits a record only when it is laid down: in Raw under its
deterministic key, or in the DLQ under its failure identity.  Each function is
given one lemma, on what it does to the world (`Advances`) and on what holds
when it returns.
-/

namespace PaymentsPlatform.Ingestion

section Invariant

/-- The record is in Raw under its key, or in the DLQ under its failure identity. -/
def LaidDown (settings : Settings) (world : World) (msg : Message) : Prop :=
  (∃ key, rawKey settings msg = .ok key ∧ world.Holds key) ∨
    world.Acknowledged settings.kafkaDlqTopic msg.failureId

/-- At every call of `commit` so far, its record was laid down before. -/
def Justified (settings : Settings) (world : World) : Prop :=
  ∀ before msg succeeded later, world.trace = before ++ .commit msg succeeded :: later →
    LaidDown settings { world with trace := before } msg

variable {settings : Settings} {world next : World} {msg : Message}

theorem LaidDown.mono (laidDown : LaidDown settings world msg)
    (existing : next.existing = world.existing)
    (extended : ∀ effect ∈ world.trace, effect ∈ next.trace) :
    LaidDown settings next msg := by
  rcases laidDown with ⟨key, isKey, held⟩ | ⟨key, envelope, published, sameId⟩
  · refine .inl ⟨key, isKey, ?_⟩
    rw [World.Holds, existing]
    exact held.imp id (extended _)
  · exact .inr ⟨key, envelope, extended _ published, sameId⟩

theorem Justified.perform {effect : Effect} (justified : Justified settings world)
    (permitted : ∀ msg succeeded, effect = .commit msg succeeded → LaidDown settings world msg) :
    Justified settings (world.perform effect) := by
  intro before msg succeeded later split
  change world.trace ++ [effect] = before ++ .commit msg succeeded :: later at split
  rcases List.eq_nil_or_concat later with rfl | ⟨front, last, rfl⟩
  · -- the new effect is the commit itself
    obtain ⟨same, isCommit⟩ := List.append_inj' split rfl
    rw [← same]
    exact permitted msg succeeded (List.singleton_inj.mp isCommit)
  · rw [List.concat_eq_append, ← List.cons_append, ← List.append_assoc] at split
    obtain ⟨same, -⟩ := List.append_inj' split rfl
    exact justified before msg succeeded front same

/-- What every step of the consumer does to the world. -/
structure Advances (settings : Settings) (world next : World) : Prop where
  existing : next.existing = world.existing
  extended : ∀ effect ∈ world.trace, effect ∈ next.trace
  justified : Justified settings world → Justified settings next

theorem Advances.refl (settings : Settings) (world : World) : Advances settings world world :=
  ⟨rfl, fun _ => id, id⟩

theorem Advances.trans {last : World} (first : Advances settings world next)
    (second : Advances settings next last) : Advances settings world last where
  existing := second.existing.trans first.existing
  extended := fun effect performed => second.extended effect (first.extended effect performed)
  justified := fun before => second.justified (first.justified before)

theorem Advances.laidDown (advances : Advances settings world next)
    (laidDown : LaidDown settings world msg) : LaidDown settings next msg :=
  laidDown.mono advances.existing advances.extended

theorem Advances.perform {effect : Effect}
    (permitted : ∀ msg succeeded, effect = .commit msg succeeded → LaidDown settings world msg) :
    Advances settings world (world.perform effect) where
  existing := rfl
  extended := fun _ performed => List.mem_append_left _ performed
  justified := fun justified => justified.perform permitted

end Invariant

/-- Whatever the services answer, the world advances, and the condition holds of what is
returned and of the world then. -/
structure Safe {Failure Value : Type} (settings : Settings) (world : World)
    (result : Except Failure Value × World) (condition : Value → World → Prop) : Prop where
  advances : Advances settings world result.2
  returned : ∀ value, result.1 = .ok value → condition value result.2

theorem Safe.of_error {Failure Value : Type} {settings : Settings} {world next : World}
    {failure : Failure} {condition : Value → World → Prop}
    (advances : Advances settings world next) :
    Safe settings world (.error failure, next) condition :=
  ⟨advances, fun _ same => by simp at same⟩

theorem Safe.of_ok {Failure Value : Type} {settings : Settings} {world next : World}
    {value : Value} {condition : Value → World → Prop}
    (advances : Advances settings world next) (holds : condition value next) :
    Safe settings world ((.ok value : Except Failure Value), next) condition :=
  ⟨advances, fun _ same => Except.ok.inj same ▸ holds⟩

section Store

variable {settings : Settings} {attempt : Attempt} {world : World}

theorem putObject_safe (settings : Settings) (attempt : Attempt) (key : String)
    (world : World) :
    Safe settings world (putObject attempt key world) fun _ next => next.Holds key := by
  have stores : Advances settings world (world.perform (.stored key)) :=
    Advances.perform fun msg succeeded same => by simp at same
  unfold putObject
  split
  next => exact .of_ok stores (.inr (List.mem_append_right _ (List.mem_singleton_self _)))
  next =>
    split
    next => exact .of_error stores
    next => exact .of_error (Advances.refl settings world)

theorem holds_of_headObject {key : String} (found : headObject attempt key world = .ok ()) :
    world.Holds key := by
  unfold headObject at found
  split at found
  next => simp at found
  next =>
    split at found
    next held => exact held
    next => simp at found

theorem storeObject_safe (settings : Settings) (attempt : Attempt) (key : String)
    (world : World) :
    Safe settings world (storeObject attempt key world) fun answered next =>
      answered = key ∧ next.Holds key := by
  have unchanged := Advances.refl settings world
  unfold storeObject
  cases looked : headObject attempt key world with
  | ok found => exact .of_ok unchanged ⟨rfl, holds_of_headObject looked⟩
  | error raised =>
      dsimp only
      split
      next =>
        split
        next => exact .of_error unchanged
        next =>
          have safe := putObject_safe settings attempt key world
          generalize putObject attempt key world = ran at safe ⊢
          rcases ran with ⟨failure | done, next⟩
          · exact .of_error safe.advances
          · exact .of_ok safe.advances ⟨rfl, safe.returned done rfl⟩
      next => exact .of_error unchanged

theorem key_of_prepareStore {event : Option Event} {msg : Message} {timestamp : Nat}
    {key : String} (prepared : prepareStore settings attempt event msg timestamp = .ok key) :
    deterministicS3Key settings msg.topic msg.partition msg.offset timestamp = .ok key := by
  unfold prepareStore at prepared
  cases computed : deterministicS3Key settings msg.topic msg.partition msg.offset timestamp with
  | error raised =>
      cases called : answer attempt.client <;>
        simp [called, computed, bind, Except.bind] at prepared
  | ok computedKey =>
      cases called : answer attempt.client <;> cases enriched : answer attempt.enriched <;>
        cases decoded : event.isNone <;>
        simp_all [bind, Except.bind, pure, Except.pure]

theorem storeEventToS3_safe (settings : Settings) (attempt : Attempt) (event : Option Event)
    (msg : Message) (timestamp : Nat) (world : World) :
    Safe settings world (storeEventToS3 settings attempt event msg timestamp world)
      fun key next => deterministicS3Key settings msg.topic msg.partition msg.offset timestamp =
        .ok key ∧ next.Holds key := by
  unfold storeEventToS3
  split
  next => exact .of_error (Advances.refl settings world)
  next key prepared =>
    have safe := storeObject_safe settings attempt key world
    generalize storeObject attempt key world = ran at safe ⊢
    rcases ran with ⟨failure | answered, next⟩
    · exact .of_error safe.advances
    · obtain ⟨rfl, held⟩ := safe.returned answered rfl
      exact .of_ok safe.advances ⟨key_of_prepareStore prepared, held⟩

end Store

section Commit

variable {settings : Settings} {attempt : Attempt} {msg : Message} {world : World}

theorem commit_safe (outcome : Option Raised) (laidDown : LaidDown settings world msg) :
    Safe settings world (commit outcome msg world) fun _ next => LaidDown settings next msg := by
  have advances : Advances settings world (world.perform (.commit msg outcome.isNone)) :=
    Advances.perform fun committed succeeded same => by
      rw [Effect.commit.injEq] at same
      exact same.1 ▸ laidDown
  exact ⟨advances, fun _ _ => advances.laidDown laidDown⟩

theorem storeThenCommit_safe (settings : Settings) (attempt : Attempt) (event : Option Event)
    {timestamp : Nat}
    (stamped : sourceTimestamp msg = .ok timestamp) (world : World) :
    Safe settings world (storeThenCommit settings attempt event msg timestamp world)
      fun _ next => LaidDown settings next msg := by
  unfold storeThenCommit
  have stored := storeEventToS3_safe settings attempt event msg timestamp world
  generalize storeEventToS3 settings attempt event msg timestamp world = ran at stored ⊢
  rcases ran with ⟨failure | key, next⟩
  · exact .of_error stored.advances
  · obtain ⟨isKey, held⟩ := stored.returned key rfl
    have isRawKey : rawKey settings msg = .ok key := by
      simp only [rawKey, stamped, bind, Except.bind, isKey]
    have committed := commit_safe attempt.commit
      (show LaidDown settings next msg from .inl ⟨key, isRawKey, held⟩)
    dsimp only
    generalize commit attempt.commit msg next = last at committed ⊢
    rcases last with ⟨failure | done, last⟩
    · exact .of_error (stored.advances.trans committed.advances)
    · exact .of_ok (stored.advances.trans committed.advances) (committed.returned done rfl)

theorem publishFailure_safe (settings : Settings) (publication : Publication) (topic : String)
    (envelope : FailureEnvelope) (key : Option String) (world : World) :
    Safe settings world (publishFailure publication topic envelope key world)
      fun published next => published = true → next.Acknowledged topic envelope.failureId := by
  unfold publishFailure
  split
  next => exact .of_error (Advances.refl settings world)
  next =>
    have advances : Advances settings world (world.perform (.published topic
        (if key.isNone then envelope.businessKey else key) envelope
        publication.acknowledged)) :=
      Advances.perform fun msg succeeded same => by simp at same
    dsimp only
    split
    next => exact .of_error advances
    next remaining flushed =>
      refine .of_ok advances fun published =>
        ⟨if key.isNone then envelope.businessKey else key, envelope,
          List.mem_append_right _ ?_, rfl⟩
      rw [Bool.and_eq_true, Bool.and_eq_true] at published
      have acknowledged : publication.acknowledged = true := by
        simp [Publication.acknowledged, published.1.2, published.2]
      rw [acknowledged]
      exact List.mem_singleton_self _

theorem publishDlqThenCommit_safe (settings : Settings) (attempt : Attempt)
    {envelope : FailureEnvelope}
    (identified : envelope.failureId = msg.failureId) (world : World) :
    Safe settings world (publishDlqThenCommit settings attempt msg envelope world)
      fun published next => published = true → LaidDown settings next msg := by
  unfold publishDlqThenCommit
  have sent := publishFailure_safe settings attempt.dlqPublication settings.kafkaDlqTopic envelope
    (some envelope.failureId) world
  generalize publishFailure attempt.dlqPublication settings.kafkaDlqTopic envelope
    (some envelope.failureId) world = ran at sent ⊢
  rcases ran with ⟨failure | _ | _, next⟩
  · exact .of_error sent.advances
  · exact .of_ok sent.advances (by simp)
  · have acknowledged := sent.returned true rfl rfl
    rw [identified] at acknowledged
    have committed := commit_safe attempt.dlqCommit
      (show LaidDown settings next msg from .inr acknowledged)
    dsimp only
    generalize commit attempt.dlqCommit msg next = last at committed ⊢
    rcases last with ⟨failure | done, last⟩
    · exact .of_error (sent.advances.trans committed.advances)
    · exact .of_ok (sent.advances.trans committed.advances) fun _ => committed.returned done rfl

end Commit

section Process

variable {settings : Settings} {msg : Message}

theorem processOnce_safe (settings : Settings) (attempt : Attempt) (msg : Message)
    (event : Option Event) (world : World) :
    Safe settings world (processOnce settings attempt msg event world).2
      fun _ next => LaidDown settings next msg := by
  unfold processOnce
  dsimp only
  split
  next => exact .of_error (Advances.refl settings world)
  next event _ =>
    split
    next => exact .of_error (Advances.refl settings world)
    next timestamp stamped =>
      have safe := storeThenCommit_safe settings attempt event stamped world
      generalize storeThenCommit settings attempt event msg timestamp world = ran at safe ⊢
      rcases ran with ⟨failure | key, next⟩
      · exact .of_error safe.advances
      · exact .of_ok safe.advances (safe.returned key rfl)

theorem sendToDlq_safe (settings : Settings) (attempt : Attempt) (msg : Message)
    (event : Option Event) (error : Raised) (attemptNumber : Nat) (firstFailure : String)
    (world : World) :
    Safe settings world
      (sendToDlq settings attempt msg event error attemptNumber firstFailure world)
      fun _ next => LaidDown settings next msg := by
  unfold sendToDlq
  split
  next => exact .of_error (Advances.refl settings world)
  next =>
    have safe := publishDlqThenCommit_safe settings attempt
      (show (failureEnvelope msg event error attemptNumber firstFailure attempt.now).failureId =
        msg.failureId from rfl) world
    dsimp only
    generalize publishDlqThenCommit settings attempt msg
      (failureEnvelope msg event error attemptNumber firstFailure attempt.now) world = ran
      at safe ⊢
    rcases ran with ⟨failure | _ | _, next⟩
    · exact .of_error safe.advances
    · exact .of_error safe.advances
    · exact .of_ok safe.advances (safe.returned true rfl rfl)

theorem sendToRetry_advances (settings : Settings) (attempt : Attempt) (msg : Message)
    (event : Option Event) (error : Raised) (attemptNumber : Nat) (firstFailure : String)
    (world : World) :
    Advances settings world
      (sendToRetry settings attempt msg event error attemptNumber firstFailure world).2 := by
  rw [sendToRetry_snd]
  split
  · exact (publishFailure_safe settings attempt.retryPublication settings.kafkaRetryTopic
      (failureEnvelope msg event error (attemptNumber + 1) firstFailure attempt.now) none
      world).advances
  · exact Advances.refl settings world

theorem processFrom_safe (attempts : Nat → Attempt) (firstFailure : String) {remaining : Nat}
    {attemptNumber : Nat} (left : 0 < remaining)
    (reaches : settings.maxProcessingRetries < attemptNumber + remaining)
    (event : Option Event) (world : World) :
    Safe settings world
      (processFrom settings attempts msg firstFailure remaining attemptNumber event world)
      fun _ next => LaidDown settings next msg := by
  induction remaining generalizing attemptNumber event world with
  | zero => exact absurd left (Nat.lt_irrefl 0)
  | succ remaining ih =>
      unfold processFrom
      have once := processOnce_safe settings (attempts attemptNumber) msg event world
      dsimp only
      generalize processOnce settings (attempts attemptNumber) msg event world = ran at once ⊢
      rcases ran with ⟨decoded, error | done, next⟩
      · dsimp only
        split
        next =>
          have sent := sendToDlq_safe settings (attempts attemptNumber) msg decoded error
            attemptNumber firstFailure next
          exact ⟨once.advances.trans sent.advances, sent.returned⟩
        next retries =>
          have early : (attemptNumber : Int) < settings.maxProcessingRetries := by
            simp only [shouldSendToDlq, decide_eq_true_eq, not_or, Int.not_le] at retries
            exact retries.2
          have sent := sendToRetry_advances settings (attempts attemptNumber) msg decoded error
            attemptNumber firstFailure next
          generalize sendToRetry settings (attempts attemptNumber) msg decoded error attemptNumber
            firstFailure next = ran at sent ⊢
          rcases ran with ⟨_ | escape, last⟩
          · have stillReaches : settings.maxProcessingRetries <
                (attemptNumber + 1 : Nat) + remaining := by
              push_cast at reaches ⊢
              omega
            have rest := ih (by omega) stillReaches decoded last
            exact ⟨(once.advances.trans sent).trans rest.advances, rest.returned⟩
          · exact .of_error (once.advances.trans sent)
      · exact .of_ok once.advances (once.returned done rfl)

theorem processMessage_safe (nonneg : 0 ≤ settings.maxProcessingRetries)
    (attempts : Nat → Attempt) (firstFailure : String) (msg : Message) (world : World) :
    Safe settings world (processMessage settings attempts firstFailure msg world)
      fun _ next => LaidDown settings next msg :=
  processFrom_safe attempts firstFailure (by omega) (by omega) none world

end Process

section Loop

variable {settings : Settings}

theorem classifyIngestionTopic_ne_cdc (settings : Settings) (topic sourceSystem : String) :
    classifyIngestionTopic settings topic ≠ .ok (.cdcDatabase sourceSystem) := by
  unfold classifyIngestionTopic
  split
  · simp
  · simp [activatedCdcTopicMap]

theorem handle_safe (nonneg : 0 ≤ settings.maxProcessingRetries)
    (processCdcMessage : CdcProcessor) (consumer : Consumer) (polled : Polled) (msg : Message) :
    Advances settings consumer.world
        (handle settings processCdcMessage consumer polled msg).world ∧
      (LaidDown settings (handle settings processCdcMessage consumer polled msg).world msg ∨
        (handle settings processCdcMessage consumer polled msg).exit.isSome = true) := by
  unfold handle
  split
  next => exact ⟨Advances.refl settings consumer.world, .inr rfl⟩
  next sourceSystem classified =>
    exact absurd classified (classifyIngestionTopic_ne_cdc settings msg.topic sourceSystem)
  next =>
    have safe := processMessage_safe nonneg polled.attempts polled.firstFailure msg consumer.world
    dsimp only
    generalize processMessage settings polled.attempts polled.firstFailure msg consumer.world =
      ran at safe ⊢
    split
    next => exact ⟨safe.advances, .inr rfl⟩
    next => exact ⟨safe.advances, .inr rfl⟩
    next => exact ⟨safe.advances, .inl (safe.returned _ rfl)⟩
    next => exact ⟨safe.advances, .inl (safe.returned _ rfl)⟩

theorem poll_advances (nonneg : 0 ≤ settings.maxProcessingRetries)
    (processCdcMessage : CdcProcessor) (consumer : Consumer) (polled : Polled) :
    Advances settings consumer.world
      (poll settings processCdcMessage consumer polled).world := by
  unfold poll
  split
  next => exact Advances.refl settings consumer.world
  next =>
    split
    next => exact Advances.refl settings consumer.world
    next => exact Advances.refl settings consumer.world
    next => exact Advances.refl settings consumer.world
    next msg _ => exact (handle_safe nonneg processCdcMessage consumer polled msg).1

theorem run_of_exit (processCdcMessage : CdcProcessor) {consumer : Consumer}
    (ended : consumer.exit.isSome = true) (polls : List Polled) :
    Machine.run (poll settings processCdcMessage) consumer polls = consumer := by
  induction polls with
  | nil => rfl
  | cons polled rest ih =>
      rw [Machine.run_cons]
      have stays : poll settings processCdcMessage consumer polled = consumer := by
        simp only [poll, ended, if_true]
      rw [stays]
      exact ih

end Loop

/-- The consumer after a list of polls, on a bucket with some Raw objects in it. -/
def consume (settings : Settings) (processCdcMessage : CdcProcessor) (existing : List String)
    (polls : List Polled) : Consumer :=
  Machine.run (poll settings processCdcMessage) (.start existing) polls

/-- The offset invariant of a consumer. -/
structure OffsetInvariant (settings : Settings) (processCdcMessage : CdcProcessor) : Prop where
  /-- `process_message` commits a record only after it is in Raw or acknowledged by the DLQ. -/
  record : ∀ world, Justified settings world → ∀ attempts firstFailure msg,
    Justified settings (processMessage settings attempts firstFailure msg world).2
  /-- So does the process over its whole life. -/
  process : ∀ existing polls,
    Justified settings (consume settings processCdcMessage existing polls).world
  /-- After a record that was neither stored nor acknowledged no record is processed or
  committed: the process stays as that record left it. -/
  failStop : ∀ existing before polled later msg, polled.poll = .record msg →
    (consume settings processCdcMessage existing before).exit = none →
    ¬ LaidDown settings
      (consume settings processCdcMessage existing (before ++ [polled])).world msg →
    consume settings processCdcMessage existing (before ++ polled :: later) =
      consume settings processCdcMessage existing (before ++ [polled])

theorem source_offset_invariant (settings : Settings)
    (nonneg : 0 ≤ settings.maxProcessingRetries) (processCdcMessage : CdcProcessor) :
    OffsetInvariant settings processCdcMessage where
  record := fun world justified attempts firstFailure msg =>
    (processMessage_safe nonneg attempts firstFailure msg world).advances.justified justified
  process := by
    intro existing polls
    refine Machine.run_invariant (poll settings processCdcMessage)
      (show ∀ consumer polled, Justified settings consumer.world →
        Justified settings (poll settings processCdcMessage consumer polled).world from ?_)
      ?_ polls
    · intro consumer polled
      exact (poll_advances nonneg processCdcMessage consumer polled).justified
    · intro before msg succeeded later split
      simp [Consumer.start] at split
  failStop := by
    intro existing before polled later msg isRecord running lost
    unfold consume at running lost ⊢
    rw [List.append_cons before polled later, Machine.run_append]
    refine run_of_exit processCdcMessage ?_ later
    rw [Machine.run_append, Machine.run_cons, Machine.run_nil] at lost ⊢
    simp only [poll, running, Option.isSome_none, Bool.false_eq_true, if_false, isRecord]
      at lost ⊢
    exact (handle_safe nonneg processCdcMessage _ polled msg).2.resolve_left lost

/-- Three retries, Raw under `raw/v2`. -/
def deployed : Settings where
  kafkaTopics := topicMap.map Prod.fst
  kafkaRetryTopic := "payment-events.retry"
  kafkaDlqTopic := "payment-events.dlq"
  maxProcessingRetries := 3
  rawRoot := "raw"
  rawVersion := "v2"
  rawPrefix := "raw/v2"

/-- An attempt in which every service answers. -/
def smooth : Attempt where
  deserialized := .ok (some ⟨some "e-1", none, none⟩)
  client := none
  enriched := none
  head := none
  serialized := none
  put := ⟨none, true⟩
  commit := none
  envelope := none
  now := "t2"
  retryPublication := ⟨none, .ok 0, true, none⟩
  slept := none
  dlqPublication := ⟨none, .ok 0, true, none⟩
  dlqCommit := none

/-- The record cannot be decoded and the DLQ does not acknowledge it. -/
def poisoned : Attempt :=
  { smooth with
    deserialized := .error ⟨.other, "SerializationError", "poison"⟩
    dlqPublication := ⟨none, .ok 1, false, none⟩ }

def loan (offset : Nat) : Message := ⟨"pdmis.loans", 0, offset, none, none, some (1, some 0)⟩

/-- A good record, a poisoned one whose DLQ copy is lost, and a good one. -/
def poisonedStream : List Polled :=
  [⟨.record (loan 100), fun _ => smooth, "t1"⟩, ⟨.record (loan 101), fun _ => poisoned, "t1"⟩,
    ⟨.record (loan 102), fun _ => smooth, "t1"⟩]

theorem poisonedStream_stops :
    (consume deployed (fun _ _ world => (.ok "", world)) [] poisonedStream).handled =
        [loan 100, loan 101] ∧
      OffsetInvariant deployed fun _ _ world => (.ok "", world) :=
  ⟨by decide +kernel, source_offset_invariant deployed (by decide) _⟩

end PaymentsPlatform.Ingestion
