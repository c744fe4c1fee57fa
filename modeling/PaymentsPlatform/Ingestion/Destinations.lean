import PaymentsPlatform.Ingestion.OffsetInvariant

/-!
# Raw and the DLQ as destinations of one record

Storing and committing are one unit of the retry loop, so a record whose
object is already in Raw can still be given up and sent to the DLQ.  Here each
pass is described by its script alone: what it raises and whether it leaves the
object in Raw.  `raw_dlq_exclusive_iff` says for which scripts a call of
`process_message` uses both destinations.
-/

namespace PaymentsPlatform.Ingestion

section Script

variable (settings : Settings) (msg : Message)

/-- The event that a pass goes on with. -/
def Attempt.decoded (attempt : Attempt) (event : Option Event) : Except Raised (Option Event) :=
  if event.isNone then
    attempt.deserialized.mapError fun raised => permanentProcessingError raised.message
  else .ok event

/-- What a pass does before it looks for the object. -/
def Attempt.prepared (attempt : Attempt) (event : Option Event) : Except Raised String :=
  match attempt.decoded event with
  | .error raised => .error raised
  | .ok event =>
      match sourceTimestamp msg with
      | .error raised => .error raised
      | .ok timestamp => prepareStore settings attempt event msg timestamp

/-- `head_object` says that there is no such object. -/
def Attempt.findsNothing (attempt : Attempt) (held : Bool) : Bool :=
  match attempt.head with
  | some raised => raised.isNotFound
  | none => !held

/-- What the `try` of `store_event_to_s3` raises. -/
def Attempt.storeError (attempt : Attempt) (held : Bool) : Option Raised :=
  if attempt.findsNothing held then attempt.serialized.or attempt.put.raised else attempt.head

/-- What a pass raises, when the object is in the bucket or not. -/
def Attempt.error (attempt : Attempt) (event : Option Event) (held : Bool) : Option Raised :=
  match attempt.prepared settings msg event with
  | .error raised => some raised
  | .ok _ =>
      match attempt.storeError held with
      | some raised => some raised.handledByStore
      | none => attempt.commit

/-- `put_object` is reached, and leaves the object in the bucket even if it raises. -/
def Attempt.puts (attempt : Attempt) (held : Bool) : Bool :=
  attempt.findsNothing held && attempt.serialized.isNone &&
    (attempt.put.raised.isNone || attempt.put.kept)

/-- A pass leaves the object in Raw, although it may fail afterwards. -/
def Attempt.stores (attempt : Attempt) (event : Option Event) (held : Bool) : Bool :=
  (attempt.prepared settings msg event).isOk && attempt.puts held

/-- A pass that failed is followed by the next one. -/
def Attempt.continues (attempt : Attempt) : Bool :=
  attempt.envelope.isNone && attempt.retryPublication.refused.isNone &&
    attempt.retryPublication.flushed.isOk && attempt.slept.isNone

/-- Kafka acknowledges the DLQ copy of a pass that is given up. -/
def Attempt.deadLetters (attempt : Attempt) : Bool :=
  attempt.envelope.isNone && attempt.dlqPublication.refused.isNone &&
    attempt.dlqPublication.acknowledged

/-- The event decoded so far, and whether the object is in the bucket, when a pass begins. -/
def situation (attempts : Nat → Attempt) (held : Bool) : Nat → Option Event × Bool
  | 0 => (none, held)
  | index + 1 =>
      let (event, held) := situation attempts held index
      (((attempts index).decoded event).toOption.getD event,
        held || (attempts index).stores settings msg event held)

/-- What a pass raises where the loop reaches it. -/
def errorAt (attempts : Nat → Attempt) (held : Bool) (index : Nat) : Option Raised :=
  (attempts index).error settings msg (situation settings msg attempts held index).1
    (situation settings msg attempts held index).2

def storesAt (attempts : Nat → Attempt) (held : Bool) (index : Nat) : Bool :=
  (attempts index).stores settings msg (situation settings msg attempts held index).1
    (situation settings msg attempts held index).2

/-- The pass fails and the loop continues. -/
def retriedAt (attempts : Nat → Attempt) (held : Bool) (index : Nat) : Prop :=
  ∃ raised, errorAt settings msg attempts held index = some raised ∧
    shouldSendToDlq settings raised index = false ∧ (attempts index).continues = true

/-- The pass fails and the record goes to the DLQ, which acknowledges it. -/
def deadLetteredAt (attempts : Nat → Attempt) (held : Bool) (index : Nat) : Prop :=
  ∃ raised, errorAt settings msg attempts held index = some raised ∧
    shouldSendToDlq settings raised index = true ∧ (attempts index).deadLetters = true

/-- A pass of the loop stores the object, yet it and every later one fails, until the record
is given up and its DLQ copy acknowledged. -/
def StoredThenGivenUp (attempts : Nat → Attempt) (held : Bool) : Prop :=
  ∃ last : Nat, last ≤ settings.maxProcessingRetries ∧
    (∀ index < last, retriedAt settings msg attempts held index) ∧
    deadLetteredAt settings msg attempts held last ∧
    ∃ index ≤ last, storesAt settings msg attempts held index = true

end Script

section Pass

variable {settings : Settings} {msg : Message} {attempt : Attempt} {world : World}

/-- The record's object is in the bucket. -/
def recordHeld (settings : Settings) (msg : Message) (world : World) : Bool :=
  match rawKey settings msg with
  | .ok key => decide (world.Holds key)
  | .error _ => false

/-- The effects of one pass: it publishes nothing, and stores the record's object or not. -/
structure PassEffects (settings : Settings) (msg : Message) (stores : Bool)
    (effects : List Effect) : Prop where
  stored : ∀ key, .stored key ∈ effects ↔ stores = true ∧ rawKey settings msg = .ok key
  unpublished : ∀ topic key envelope acknowledged,
    .published topic key envelope acknowledged ∉ effects

theorem PassEffects.nil : PassEffects settings msg false [] :=
  ⟨by simp, by simp⟩

theorem PassEffects.commit {stores : Bool} {effects : List Effect}
    (described : PassEffects settings msg stores effects) (succeeded : Bool) :
    PassEffects settings msg stores (effects ++ [.commit msg succeeded]) :=
  ⟨by simp [described.stored], by simp [described.unpublished]⟩

theorem PassEffects.put {key : String} (isKey : rawKey settings msg = .ok key) (stores : Bool) :
    PassEffects settings msg stores (if stores then [.stored key] else []) := by
  cases stores with
  | false => exact .nil
  | true => exact ⟨by simp [isKey, eq_comm], by simp⟩

theorem headObject_eq (key : String) :
    headObject attempt key world =
      if attempt.findsNothing (decide (world.Holds key)) then
        .error (attempt.head.getD ⟨.clientError "404", "ClientError", "Not Found"⟩)
      else answer attempt.head := by
  unfold headObject Attempt.findsNothing
  cases attempt.head with
  | none => by_cases held : world.Holds key <;> simp [held, answer]
  | some raised => cases raised.isNotFound <;> simp [answer]

theorem isNotFound_of_findsNothing {held : Bool} (absent : attempt.findsNothing held = true) :
    (attempt.head.getD ⟨.clientError "404", "ClientError", "Not Found"⟩).isNotFound = true := by
  unfold Attempt.findsNothing at absent
  cases looked : attempt.head with
  | none => simp [Raised.isNotFound, notFoundCodes]
  | some raised => simpa [looked] using absent

theorem isNotFound_of_not_findsNothing {held : Bool} {raised : Raised}
    (present : attempt.findsNothing held = false) (looked : attempt.head = some raised) :
    raised.isNotFound = false := by
  simpa [Attempt.findsNothing, looked] using present

theorem putObject_eq (key : String) :
    putObject attempt key world =
      (answer attempt.put.raised,
        if attempt.put.raised.isNone || attempt.put.kept then world.perform (.stored key)
        else world) := by
  unfold putObject
  cases attempt.put.raised with
  | none => simp [answer]
  | some raised => simp [answer]

theorem storeObject_eq (key : String) :
    storeObject attempt key world =
      (match attempt.storeError (decide (world.Holds key)) with
        | some raised => .error raised
        | none => .ok key,
        if attempt.puts (decide (world.Holds key)) then world.perform (.stored key)
        else world) := by
  unfold storeObject Attempt.storeError Attempt.puts
  rw [headObject_eq]
  cases absent : attempt.findsNothing (decide (world.Holds key)) with
  | true =>
      simp only [if_true, isNotFound_of_findsNothing absent, Bool.true_and]
      cases attempt.serialized with
      | some raised => simp
      | none =>
          rw [putObject_eq]
          cases attempt.put.raised with
          | none => simp [answer]
          | some raised => simp [answer]
  | false =>
      cases looked : attempt.head with
      | none => simp [answer]
      | some raised => simp [answer, isNotFound_of_not_findsNothing absent looked]

theorem rawKey_of_prepared {event : Option Event} {key : String}
    (prepared : attempt.prepared settings msg event = .ok key) :
    rawKey settings msg = .ok key := by
  unfold Attempt.prepared at prepared
  split at prepared
  next => simp at prepared
  next =>
    split at prepared
    next => simp at prepared
    next timestamp stamped =>
      simp only [rawKey, stamped, bind, Except.bind]
      exact key_of_prepareStore prepared

theorem recordHeld_of_rawKey {key : String} (isKey : rawKey settings msg = .ok key) :
    recordHeld settings msg world = decide (world.Holds key) := by
  simp only [recordHeld, isKey]

theorem storeThenCommit_eq {event : Option Event} {timestamp : Nat} {key : String} (world : World)
    (prepared : prepareStore settings attempt event msg timestamp = .ok key)
    (isKey : rawKey settings msg = .ok key) :
    ∃ effects, PassEffects settings msg (attempt.puts (recordHeld settings msg world)) effects ∧
      storeThenCommit settings attempt event msg timestamp world =
        (match attempt.storeError (recordHeld settings msg world) with
          | some raised => .error raised.handledByStore
          | none =>
              match attempt.commit with
              | some raised => .error raised
              | none => .ok key,
          { world with trace := world.trace ++ effects }) := by
  rw [recordHeld_of_rawKey isKey]
  have described := PassEffects.put isKey (attempt.puts (decide (world.Holds key)))
  have stored : (if attempt.puts (decide (world.Holds key)) then world.perform (.stored key)
      else world) = { world with
        trace := world.trace ++
          (if attempt.puts (decide (world.Holds key)) then [.stored key] else []) } := by
    split <;> simp [World.perform]
  unfold storeThenCommit storeEventToS3
  rw [prepared]
  dsimp only
  rw [storeObject_eq, stored]
  cases attempt.storeError (decide (world.Holds key)) with
  | some raised => exact ⟨_, described, rfl⟩
  | none =>
      refine ⟨_, described.commit attempt.commit.isNone, ?_⟩
      cases attempt.commit <;> simp [commit, answer, World.perform, List.append_assoc]

theorem processOnce_eq (settings : Settings) (attempt : Attempt) (msg : Message)
    (event : Option Event) (world : World) :
    ∃ effects, PassEffects settings msg
        (attempt.stores settings msg event (recordHeld settings msg world)) effects ∧
      processOnce settings attempt msg event world =
        ((attempt.decoded event).toOption.getD event,
          answer (attempt.error settings msg event (recordHeld settings msg world)),
          { world with trace := world.trace ++ effects }) := by
  unfold processOnce Attempt.stores Attempt.error Attempt.prepared
  dsimp only
  rw [← Attempt.decoded]
  cases attempt.decoded event with
  | error raised => exact ⟨[], .nil, by simp [Except.toOption, answer]⟩
  | ok decoded =>
      cases stamped : sourceTimestamp msg with
      | error raised => exact ⟨[], .nil, by simp [Except.toOption, answer]⟩
      | ok timestamp =>
          dsimp only
          cases prepared : prepareStore settings attempt decoded msg timestamp with
          | error raised =>
              refine ⟨[], .nil, ?_⟩
              simp [storeThenCommit, storeEventToS3, prepared, Except.toOption, answer]
          | ok key =>
              have isKey : rawKey settings msg = .ok key := by
                simp only [rawKey, stamped, bind, Except.bind]
                exact key_of_prepareStore prepared
              obtain ⟨effects, described, ran⟩ := storeThenCommit_eq world prepared isKey
              refine ⟨effects, described, ?_⟩
              rw [ran]
              cases attempt.storeError (recordHeld settings msg world) with
              | some raised => rfl
              | none => cases attempt.commit <;> rfl

end Pass

section Publications

variable {settings : Settings} {msg : Message} {attempt : Attempt} {world : World}

/-- Some Raw object was stored. -/
def World.Stored (world : World) : Prop := ∃ key, .stored key ∈ world.trace

/-- The DLQ topic has acknowledged the record. -/
def World.DeadLettered (settings : Settings) (msg : Message) (world : World) : Prop :=
  world.Acknowledged settings.kafkaDlqTopic msg.failureId

theorem stored_perform_published {topic : String} {key : Option String}
    {envelope : FailureEnvelope} {acknowledged : Bool} :
    (world.perform (.published topic key envelope acknowledged)).Stored ↔ world.Stored := by
  simp [World.Stored, World.perform]

theorem acknowledged_perform_published {topic wanted failureId : String} {key : Option String}
    {envelope : FailureEnvelope} {acknowledged : Bool} :
    (world.perform (.published topic key envelope acknowledged)).Acknowledged wanted failureId ↔
      world.Acknowledged wanted failureId ∨
        (topic = wanted ∧ acknowledged = true ∧ envelope.failureId = failureId) := by
  simp only [World.Acknowledged, World.perform, List.mem_append, List.mem_singleton]
  constructor
  · rintro ⟨key, envelope, before | same, identified⟩
    · exact .inl ⟨key, envelope, before, identified⟩
    · cases same
      exact .inr ⟨rfl, rfl, identified⟩
  · rintro (⟨key, envelope, before, identified⟩ | ⟨rfl, rfl, identified⟩)
    · exact ⟨key, envelope, .inl before, identified⟩
    · exact ⟨_, _, .inr rfl, identified⟩

theorem stored_perform_commit {succeeded : Bool} :
    (world.perform (.commit msg succeeded)).Stored ↔ world.Stored := by
  simp [World.Stored, World.perform]

theorem acknowledged_perform_commit {wanted failureId : String} {succeeded : Bool} :
    (world.perform (.commit msg succeeded)).Acknowledged wanted failureId ↔
      world.Acknowledged wanted failureId := by
  simp [World.Acknowledged, World.perform]

theorem publishFailure_world (publication : Publication) (topic : String)
    (envelope : FailureEnvelope) (key : Option String) (world : World) :
    (publishFailure publication topic envelope key world).2 =
      if publication.refused.isNone then
        world.perform (.published topic (if key.isNone then envelope.businessKey else key) envelope
          publication.acknowledged)
      else world := by
  unfold publishFailure
  cases publication.refused with
  | some raised => rfl
  | none => cases publication.flushed <;> rfl

theorem publishFailure_stored (publication : Publication) (topic : String)
    (envelope : FailureEnvelope) (key : Option String) (world : World) :
    (publishFailure publication topic envelope key world).2.Stored ↔ world.Stored := by
  rw [publishFailure_world]
  split
  · exact stored_perform_published
  · rfl

theorem publishFailure_acknowledged (publication : Publication) (topic wanted failureId : String)
    (envelope : FailureEnvelope) (key : Option String) (world : World) :
    (publishFailure publication topic envelope key world).2.Acknowledged wanted failureId ↔
      world.Acknowledged wanted failureId ∨
        (publication.refused.isNone = true ∧ topic = wanted ∧ publication.acknowledged = true ∧
          envelope.failureId = failureId) := by
  rw [publishFailure_world]
  split
  next accepted =>
    rw [acknowledged_perform_published]
    simp [accepted]
  next refused => simp [refused]

theorem publishDlqThenCommit_world (settings : Settings) (attempt : Attempt) (msg : Message)
    (envelope : FailureEnvelope) (world : World) :
    let published := (publishFailure attempt.dlqPublication settings.kafkaDlqTopic envelope
      (some envelope.failureId) world).2
    (publishDlqThenCommit settings attempt msg envelope world).2 = published ∨
      ∃ succeeded, (publishDlqThenCommit settings attempt msg envelope world).2 =
        published.perform (.commit msg succeeded) := by
  unfold publishDlqThenCommit
  generalize publishFailure attempt.dlqPublication settings.kafkaDlqTopic envelope
    (some envelope.failureId) world = ran
  rcases ran with ⟨raised | _ | _, next⟩
  · exact .inl rfl
  · exact .inl rfl
  · refine .inr ⟨attempt.dlqCommit.isNone, ?_⟩
    cases attempt.dlqCommit <;> rfl

theorem publishDlqThenCommit_facts (settings : Settings) (attempt : Attempt) (msg : Message)
    (envelope : FailureEnvelope) (world : World) :
    ((publishDlqThenCommit settings attempt msg envelope world).2.Stored ↔ world.Stored) ∧
      ((publishDlqThenCommit settings attempt msg envelope world).2.Acknowledged
          settings.kafkaDlqTopic envelope.failureId ↔
        world.Acknowledged settings.kafkaDlqTopic envelope.failureId ∨
          (attempt.dlqPublication.refused.isNone && attempt.dlqPublication.acknowledged) =
            true) := by
  have stored := publishFailure_stored attempt.dlqPublication settings.kafkaDlqTopic envelope
    (some envelope.failureId) world
  have acknowledged := publishFailure_acknowledged attempt.dlqPublication
    settings.kafkaDlqTopic settings.kafkaDlqTopic envelope.failureId envelope
    (some envelope.failureId) world
  rcases publishDlqThenCommit_world settings attempt msg envelope world with
    same | ⟨succeeded, same⟩
  · rw [same]
    exact ⟨stored, acknowledged.trans (by simp)⟩
  · rw [same, stored_perform_commit, acknowledged_perform_commit]
    exact ⟨stored, acknowledged.trans (by simp)⟩

theorem sendToDlq_world (settings : Settings) (attempt : Attempt) (msg : Message)
    (event : Option Event) (error : Raised) (attemptNumber : Nat) (firstFailure : String)
    (world : World) :
    ((sendToDlq settings attempt msg event error attemptNumber firstFailure world).2.Stored ↔
        world.Stored) ∧
      ((sendToDlq settings attempt msg event error attemptNumber firstFailure world).2.DeadLettered
          settings msg ↔ world.DeadLettered settings msg ∨ attempt.deadLetters = true) := by
  rw [sendToDlq_snd]
  unfold Attempt.deadLetters World.DeadLettered
  split
  next given =>
    obtain ⟨stored, acknowledged⟩ := publishDlqThenCommit_facts settings attempt msg
      (failureEnvelope msg event error attemptNumber firstFailure attempt.now) world
    rw [show (failureEnvelope msg event error attemptNumber firstFailure attempt.now).failureId =
      msg.failureId from rfl] at acknowledged
    exact ⟨stored, by simpa [given] using acknowledged⟩
  next missing => simp [missing]

theorem publishFailure_recordHeld (publication : Publication) (topic : String)
    (envelope : FailureEnvelope) (key : Option String) (settings : Settings) (msg : Message)
    (world : World) :
    recordHeld settings msg (publishFailure publication topic envelope key world).2 =
      recordHeld settings msg world := by
  rw [publishFailure_world]
  split
  · unfold recordHeld
    cases rawKey settings msg with
    | error raised => rfl
    | ok key =>
        rw [decide_eq_decide]
        simp [World.Holds, World.perform]
  · rfl

theorem sendToRetry_outcome (settings : Settings) (attempt : Attempt) (msg : Message)
    (event : Option Event) (error : Raised) (attemptNumber : Nat) (firstFailure : String)
    (world : World) :
    let ran := sendToRetry settings attempt msg event error attemptNumber firstFailure world
    recordHeld settings msg ran.2 = recordHeld settings msg world ∧
      (ran.1 = none ↔ attempt.continues = true) ∧
      ∀ escape, ran.1 = some escape → ∃ raised, escape = .raised raised := by
  unfold sendToRetry Attempt.continues
  cases attempt.envelope with
  | some raised => simp
  | none =>
      dsimp only
      generalize failureEnvelope msg event error (attemptNumber + 1) firstFailure attempt.now =
        envelope
      have held := publishFailure_recordHeld attempt.retryPublication settings.kafkaRetryTopic
        envelope none settings msg world
      have answered : (publishFailure attempt.retryPublication settings.kafkaRetryTopic envelope
          none world).1.isOk =
          (attempt.retryPublication.refused.isNone && attempt.retryPublication.flushed.isOk) := by
        unfold publishFailure
        cases attempt.retryPublication.refused with
        | some raised => rfl
        | none => cases attempt.retryPublication.flushed <;> rfl
      generalize publishFailure attempt.retryPublication settings.kafkaRetryTopic envelope none
        world = ran at held answered ⊢
      rcases ran with ⟨raised | published, next⟩
      · refine ⟨held, ?_, fun escape same => ⟨raised, by simpa [eq_comm] using same⟩⟩
        simp only [reduceCtorEq, Option.isNone_none, Bool.true_and, ← answered]
        simp [Except.isOk, Except.toBool]
      · refine ⟨held, ?_, fun escape same => ?_⟩
        · simp only [Option.isNone_none, Bool.true_and, ← answered]
          simp [Except.isOk, Except.toBool]
        · obtain ⟨raised, -, isRaised⟩ := Option.map_eq_some_iff.mp same
          exact ⟨raised, isRaised.symm⟩

theorem sendToRetry_world (distinct : settings.kafkaRetryTopic ≠ settings.kafkaDlqTopic)
    (attempt : Attempt) (msg : Message) (event : Option Event) (error : Raised)
    (attemptNumber : Nat) (firstFailure : String) (world : World) :
    let ran := sendToRetry settings attempt msg event error attemptNumber firstFailure world
    (ran.2.Stored ↔ world.Stored) ∧
      (ran.2.DeadLettered settings msg ↔ world.DeadLettered settings msg) := by
  intro ran
  rw [show ran.2 = _ from sendToRetry_snd ..]
  unfold World.DeadLettered
  split
  · refine ⟨publishFailure_stored .., ?_⟩
    rw [publishFailure_acknowledged]
    exact or_iff_left fun published => distinct published.2.1
  · exact ⟨Iff.rfl, Iff.rfl⟩

end Publications

section Loop

variable {settings : Settings} {msg : Message} {effects : List Effect} {stores : Bool}

theorem PassEffects.stored_iff (world : World)
    (described : PassEffects settings msg stores effects)
    (keyed : stores = true → ∃ key, rawKey settings msg = .ok key) :
    World.Stored { world with trace := world.trace ++ effects } ↔
      world.Stored ∨ stores = true := by
  simp only [World.Stored, List.mem_append, described.stored]
  constructor
  · rintro ⟨key, before | ⟨now, -⟩⟩
    · exact .inl ⟨key, before⟩
    · exact .inr now
  · rintro (⟨key, before⟩ | now)
    · exact ⟨key, .inl before⟩
    · obtain ⟨key, isKey⟩ := keyed now
      exact ⟨key, .inr ⟨now, isKey⟩⟩

theorem PassEffects.deadLettered_iff (world : World)
    (described : PassEffects settings msg stores effects) :
    World.DeadLettered settings msg { world with trace := world.trace ++ effects } ↔
      world.DeadLettered settings msg := by
  simp only [World.DeadLettered, World.Acknowledged, List.mem_append, described.unpublished,
    or_false]

theorem PassEffects.recordHeld_eq (world : World)
    (described : PassEffects settings msg stores effects)
    (keyed : stores = true → ∃ key, rawKey settings msg = .ok key) :
    recordHeld settings msg { world with trace := world.trace ++ effects } =
      (recordHeld settings msg world || stores) := by
  unfold recordHeld
  cases isKey : rawKey settings msg with
  | error raised =>
      cases stores with
      | false => rfl
      | true => simp [isKey] at keyed
  | ok key =>
      rw [Bool.eq_iff_iff, Bool.or_eq_true, decide_eq_true_iff, decide_eq_true_iff]
      simp [World.Holds, described.stored, isKey, or_assoc]

theorem rawKey_of_stores {attempt : Attempt} {event : Option Event} {held : Bool}
    (stored : attempt.stores settings msg event held = true) :
    ∃ key, rawKey settings msg = .ok key := by
  unfold Attempt.stores at stored
  cases prepared : attempt.prepared settings msg event with
  | error raised => simp [prepared, Except.isOk, Except.toBool] at stored
  | ok key => exact ⟨key, rawKey_of_prepared prepared⟩

/-- From a pass on, some pass is dead-lettered, and the object was stored before or is stored
on the way. -/
def BothFrom (settings : Settings) (msg : Message) (attempts : Nat → Attempt) (held : Bool)
    (index : Nat) (stored : Prop) : Prop :=
  ∃ last : Nat, index ≤ last ∧ last ≤ settings.maxProcessingRetries ∧
    (∀ earlier, index ≤ earlier → earlier < last →
      retriedAt settings msg attempts held earlier) ∧
    deadLetteredAt settings msg attempts held last ∧
    (stored ∨ ∃ storing, index ≤ storing ∧ storing ≤ last ∧
      storesAt settings msg attempts held storing = true)

variable {attempts : Nat → Attempt} {held : Bool} {index : Nat} {stored : Prop}

theorem not_bothFrom (notRetried : ¬ retriedAt settings msg attempts held index)
    (notDead : ¬ deadLetteredAt settings msg attempts held index) :
    ¬ BothFrom settings msg attempts held index stored := by
  rintro ⟨last, after, -, retried, dead, -⟩
  rcases Nat.eq_or_lt_of_le after with rfl | later
  · exact notDead dead
  · exact notRetried (retried index (Nat.le_refl index) later)

theorem bothFrom_of_not_retried (notRetried : ¬ retriedAt settings msg attempts held index)
    (bounded : index ≤ settings.maxProcessingRetries) :
    BothFrom settings msg attempts held index stored ↔
      deadLetteredAt settings msg attempts held index ∧
        (stored ∨ storesAt settings msg attempts held index = true) := by
  constructor
  · rintro ⟨last, after, -, retried, dead, both⟩
    rcases Nat.eq_or_lt_of_le after with rfl | later
    · refine ⟨dead, both.imp_right ?_⟩
      rintro ⟨storing, low, high, stores⟩
      obtain rfl := Nat.le_antisymm low high
      exact stores
    · exact absurd (retried index (Nat.le_refl index) later) notRetried
  · rintro ⟨dead, both⟩
    refine ⟨index, Nat.le_refl index, bounded, ?_, dead, ?_⟩
    · intro earlier low high
      exact absurd high (Nat.not_lt.mpr low)
    · exact both.imp_right fun stores => ⟨index, Nat.le_refl index, Nat.le_refl index, stores⟩

theorem bothFrom_of_retried (retriedHere : retriedAt settings msg attempts held index)
    (notDead : ¬ deadLetteredAt settings msg attempts held index) :
    BothFrom settings msg attempts held index stored ↔
      BothFrom settings msg attempts held (index + 1)
        (stored ∨ storesAt settings msg attempts held index = true) := by
  constructor
  · rintro ⟨last, after, bounded, retried, dead, both⟩
    have later : index < last := by
      rcases Nat.eq_or_lt_of_le after with rfl | later
      · exact absurd dead notDead
      · exact later
    refine ⟨last, later, bounded, fun earlier low => retried earlier (by omega), dead, ?_⟩
    rcases both with before | ⟨storing, low, high, stores⟩
    · exact .inl (.inl before)
    · rcases Nat.eq_or_lt_of_le low with rfl | above
      · exact .inl (.inr stores)
      · exact .inr ⟨storing, above, high, stores⟩
  · rintro ⟨last, after, bounded, retried, dead, both⟩
    refine ⟨last, by omega, bounded, ?_, dead, ?_⟩
    · intro earlier low high
      rcases Nat.eq_or_lt_of_le low with rfl | above
      · exact retriedHere
      · exact retried earlier above high
    · rcases both with (before | stores) | ⟨storing, low, high, stores⟩
      · exact .inl before
      · exact .inr ⟨index, Nat.le_refl index, by omega, stores⟩
      · exact .inr ⟨storing, by omega, high, stores⟩

/-- The retry loop uses both destinations exactly when its script does. -/
theorem processFrom_both_iff (distinct : settings.kafkaRetryTopic ≠ settings.kafkaDlqTopic)
    (attempts : Nat → Attempt) (firstFailure : String) (held : Bool) {remaining index : Nat}
    {event : Option Event} {world : World}
    (aligned : situation settings msg attempts held index =
      (event, recordHeld settings msg world))
    (total : (index : Int) + remaining = settings.maxProcessingRetries + 1)
    (undelivered : ¬ world.DeadLettered settings msg) :
    (processFrom settings attempts msg firstFailure remaining index event world).2.DeadLettered
          settings msg ∧
        (processFrom settings attempts msg firstFailure remaining index event world).2.Stored ↔
      BothFrom settings msg attempts held index world.Stored := by
  induction remaining generalizing index event world with
  | zero =>
      constructor
      · rintro ⟨delivered, -⟩
        exact absurd delivered undelivered
      · rintro ⟨last, after, bounded, -⟩
        omega
  | succ remaining ih =>
      obtain ⟨effects, described, ran⟩ :=
        processOnce_eq settings (attempts index) msg event world
      have errorHere : errorAt settings msg attempts held index =
          (attempts index).error settings msg event (recordHeld settings msg world) := by
        simp only [errorAt, aligned]
      have storesHere : storesAt settings msg attempts held index =
          (attempts index).stores settings msg event (recordHeld settings msg world) := by
        simp only [storesAt, aligned]
      rw [← storesHere] at described
      rw [← errorHere] at ran
      have keyed : storesAt settings msg attempts held index = true →
          ∃ key, rawKey settings msg = .ok key := by
        rw [storesHere]
        exact rawKey_of_stores
      have storedNext := described.stored_iff world keyed
      have undeliveredNext := (described.deadLettered_iff world).not.mpr undelivered
      have heldNext := described.recordHeld_eq world keyed
      generalize { world with trace := world.trace ++ effects } = next at *
      unfold processFrom
      dsimp only
      rw [ran]
      cases failed : errorAt settings msg attempts held index with
      | none =>
          have unmet : ¬ BothFrom settings msg attempts held index world.Stored := by
            apply not_bothFrom
            · rintro ⟨raised, isError, -⟩
              simp [failed] at isError
            · rintro ⟨raised, isError, -⟩
              simp [failed] at isError
          exact iff_of_false (fun both => undeliveredNext both.1) unmet
      | some raised =>
          dsimp only [answer]
          cases gives : shouldSendToDlq settings raised index with
          | true =>
              have notRetried : ¬ retriedAt settings msg attempts held index := by
                rintro ⟨other, isError, spared, -⟩
                rw [failed, Option.some.injEq] at isError
                simp [← isError, gives] at spared
              rw [bothFrom_of_not_retried notRetried (by omega), ← storedNext]
              simp only [if_true]
              have sent := sendToDlq_world settings (attempts index) msg
                (((attempts index).decoded event).toOption.getD event) raised index firstFailure
                next
              rw [sent.1, sent.2, or_iff_right undeliveredNext]
              have dead : deadLetteredAt settings msg attempts held index ↔
                  (attempts index).deadLetters = true := by
                simp [deadLetteredAt, failed, gives]
              rw [dead]
          | false =>
              have notDead : ¬ deadLetteredAt settings msg attempts held index := by
                rintro ⟨other, isError, given, -⟩
                rw [failed, Option.some.injEq] at isError
                simp [← isError, gives] at given
              have retried : retriedAt settings msg attempts held index ↔
                  (attempts index).continues = true := by
                simp [retriedAt, failed, gives]
              have sent := sendToRetry_world distinct (attempts index) msg
                (((attempts index).decoded event).toOption.getD event) raised index firstFailure
                next
              have ended := sendToRetry_outcome settings (attempts index) msg
                (((attempts index).decoded event).toOption.getD event) raised index firstFailure
                next
              simp only [Bool.false_eq_true, if_false]
              generalize sendToRetry settings (attempts index) msg
                (((attempts index).decoded event).toOption.getD event) raised index firstFailure
                next = ran at sent ended ⊢
              obtain ⟨storedLast, deadLast⟩ := sent
              obtain ⟨heldLast, continues, -⟩ := ended
              rcases ran with ⟨_ | escape, last⟩
              · rw [bothFrom_of_retried (retried.mpr (continues.mp rfl)) notDead, ← storedNext,
                  ← storedLast]
                have totalNext : ((index + 1 : Nat) : Int) + remaining =
                    settings.maxProcessingRetries + 1 := by
                  push_cast at total ⊢
                  omega
                refine ih ?_ totalNext (deadLast.not.mpr undeliveredNext)
                rw [heldLast, heldNext, storesHere]
                simp only [situation, aligned]
              · have stops : ¬ retriedAt settings msg attempts held index := by
                  rw [retried, ← continues]
                  simp
                refine iff_of_false (fun both => ?_) (not_bothFrom stops notDead)
                exact undeliveredNext (deadLast.mp both.1)

end Loop

/-- A call of `process_message` whose record is acknowledged by the DLQ has stored no object. -/
def Exclusive (settings : Settings) (msg : Message) (world : World) : Prop :=
  world.DeadLettered settings msg → ¬ world.Stored

theorem raw_dlq_exclusive_iff (settings : Settings)
    (distinct : settings.kafkaRetryTopic ≠ settings.kafkaDlqTopic) (attempts : Nat → Attempt)
    (firstFailure : String) (msg : Message) (existing : List String) :
    Exclusive settings msg
        (processMessage settings attempts firstFailure msg ⟨existing, []⟩).2 ↔
      ¬ StoredThenGivenUp settings msg attempts (recordHeld settings msg ⟨existing, []⟩) := by
  have undelivered : ¬ World.DeadLettered settings msg ⟨existing, []⟩ := by
    simp [World.DeadLettered, World.Acknowledged]
  have unstored : ¬ World.Stored ⟨existing, []⟩ := by
    simp [World.Stored]
  rw [Exclusive, ← not_and, not_iff_not, processMessage]
  by_cases runs : 0 ≤ settings.maxProcessingRetries + 1
  · rw [processFrom_both_iff distinct attempts firstFailure (recordHeld settings msg ⟨existing, []⟩)
      rfl (by omega) undelivered]
    simp only [BothFrom, StoredThenGivenUp, unstored, false_or, Nat.zero_le, true_and,
      forall_const]
  · have empty : (settings.maxProcessingRetries + 1).toNat = 0 := by omega
    rw [empty]
    refine iff_of_false (fun both => undelivered both.1) ?_
    rintro ⟨last, bounded, -⟩
    omega

/-- The object is stored, and the commit times out. -/
def uncommitted : Attempt := { smooth with commit := some ⟨.other, "KafkaException", "timeout"⟩ }

/-- One commit times out, the next one succeeds. -/
def committedLate : Nat → Attempt
  | 0 => uncommitted
  | _ + 1 => smooth

theorem committedLate_exclusive :
    deployed.kafkaRetryTopic ≠ deployed.kafkaDlqTopic ∧
      Exclusive deployed (loan 100)
        (processMessage deployed committedLate "t1" (loan 100) ⟨[], []⟩).2 := by
  refine ⟨by decide, (raw_dlq_exclusive_iff deployed (by decide) committedLate "t1" (loan 100)
    []).mpr ?_⟩
  have spared : errorAt deployed (loan 100) committedLate false 0 =
      some ⟨.other, "KafkaException", "timeout"⟩ := by decide +kernel
  have committed : errorAt deployed (loan 100) committedLate false 1 = none := by decide +kernel
  have unheld : recordHeld deployed (loan 100) ⟨[], []⟩ = false := by decide +kernel
  rw [unheld]
  rintro ⟨last, -, retried, ⟨raised, isError, given, -⟩, -⟩
  rcases last with _ | _ | last
  · rw [spared, Option.some.injEq] at isError
    subst isError
    simp [shouldSendToDlq, deployed] at given
  · simp [committed] at isError
  · obtain ⟨other, isOther, -⟩ := retried 1 (by omega)
    simp [committed] at isOther

/-- No commit ever succeeds: the record is stored and, after the last pass, dead-lettered. -/
theorem uncommitted_not_exclusive :
    ¬ Exclusive deployed (loan 100)
      (processMessage deployed (fun _ => uncommitted) "t1" (loan 100) ⟨[], []⟩).2 := by
  intro exclusive
  have stored : Effect.stored ("raw/v2/category=pdmis/source_group=pdmis/source_system=pdmis/" ++
      "year=1970/month=01/day=01/topic=pdmis.loans/partition=0/offset=100/record.avro") ∈
      (processMessage deployed (fun _ => uncommitted) "t1" (loan 100) ⟨[], []⟩).2.trace := by
    decide +kernel
  have published : Effect.published "payment-events.dlq" (some "pdmis.loans:0:100")
      (failureEnvelope (loan 100) (some ⟨some "e-1", none, none⟩)
        ⟨.other, "KafkaException", "timeout"⟩ 3 "t1" "t2") true ∈
      (processMessage deployed (fun _ => uncommitted) "t1" (loan 100) ⟨[], []⟩).2.trace := by
    decide +kernel
  exact exclusive ⟨_, _, published, rfl⟩ ⟨_, stored⟩

end PaymentsPlatform.Ingestion
