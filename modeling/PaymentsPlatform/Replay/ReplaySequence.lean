import Mathlib.Logic.Relation
import PaymentsPlatform.Ingestion.SourceRecord
import PaymentsPlatform.Library.Machine
import PaymentsPlatform.Replay.ReplayScan

/-!
# Replays one after another

Any number of operators run the tool, while producers append to the source topics and the
consumer stores and dead-letters what it finds there.  A replayed record comes back under a new
offset, hence with a failure identity and a storage key of its own, and nothing but the headers of
the topic tells that it was replayed: the tool reads none of it.
-/

namespace PaymentsPlatform.Replay.Dlq

open PaymentsPlatform.Ingestion (Message)

/-! ## Topics and Raw -/

/-- A record of a source topic, with its header `x-dlq-replay-failure-id`. -/
structure Entry where
  message : Message
  replayOf : Option String

structure Platform where
  topics : List Entry
  dlq : List Record
  /-- The records that have a Raw object. -/
  stored : List Message

/-- Where the broker puts a record that is produced. -/
structure Arrival where
  partition : Nat
  timestamp : Option (Nat × Option Int)
  /-- Whether a record whose delivery is not acknowledged arrives all the same. -/
  unacknowledged : Bool

inductive Action where
  /-- `replay_dlq.py --partition … --offset … --reason … --execute`. -/
  | invoke (partition offset : Int) (reason : String) (world : World) (arrival : Arrival)
  /-- A producer appends a record. -/
  | append (message : Message)
  /-- A record comes to the DLQ. -/
  | deadLetter (record : Record)
  /-- The consumer stores a record. -/
  | store (message : Message)

namespace Platform

/-- The failures of which a replay stands in a source topic, in order. -/
def replayed (platform : Platform) : List String := platform.topics.filterMap Entry.replayOf

def nextOffset (platform : Platform) (topic : String) (partition : Nat) : Nat :=
  platform.topics.countP fun entry =>
    entry.message.topic = topic ∧ entry.message.partition = partition

/-- The record that a publication becomes. -/
def arrived (python : Python) (platform : Platform) (publication : Publication)
    (arrival : Arrival) : Entry :=
  let topic := python.text publication.topic
  ⟨⟨topic, arrival.partition, platform.nextOffset topic arrival.partition, some publication.key,
    some publication.value, arrival.timestamp⟩, some publication.failureId⟩

end Platform

/-- Neither `--allow-duplicate-replay` nor inspection only. -/
def executing (partition offset : Int) (reason : String) : Args :=
  ⟨partition, offset, reason, true, false⟩

/-- What is produced arrives. -/
def arrives (world : World) (arrival : Arrival) : Bool :=
  !world.deliveryFailed || arrival.unacknowledged

def step (python : Python) (platform : Platform) : Action → Platform
  | .invoke partition offset reason world arrival =>
      if world.dlq = platform.dlq ∧ arrives world arrival then
        match (main python (executing partition offset reason) world).published with
        | some publication =>
            { platform with
              topics := platform.topics ++ [platform.arrived python publication arrival] }
        | none => platform
      else platform
  | .append message => { platform with topics := platform.topics ++ [⟨message, none⟩] }
  | .deadLetter record => { platform with dlq := platform.dlq ++ [record] }
  | .store message =>
      if ∃ entry ∈ platform.topics, entry.message = message then
        { platform with stored := platform.stored ++ [message] }
      else platform

/-! ## Idempotence -/

/-- A record of the topics is a replay of the failure. -/
def Replays (platform : Platform) (failure replay : String) : Prop :=
  ∃ entry ∈ platform.topics, entry.replayOf = some failure ∧ entry.message.failureId = replay

/-- Every failure is published at most once, and of a record and its replays at most one is
stored. -/
structure Idempotent (platform : Platform) : Prop where
  published : platform.replayed.Nodup
  stored : ∀ source, ∀ first ∈ platform.stored, ∀ second ∈ platform.stored,
    Relation.ReflTransGen (Replays platform) source first.failureId →
    Relation.ReflTransGen (Replays platform) source second.failureId →
    first.failureId = second.failureId

/-- No operator has a failure published that was published before or whose record is stored, and
the consumer stores no record whose failure was published. -/
def SparesReplayed (python : Python) (platform : Platform) : Action → Prop
  | .invoke partition offset reason world arrival =>
      world.dlq = platform.dlq → arrives world arrival →
        ∀ failure, Requested python (executing partition offset reason) world failure →
          Clear python world → envelopesOf python failure world.delivered ≤ 1 →
          failure ∉ platform.replayed ∧ ∀ message ∈ platform.stored, message.failureId ≠ failure
  | .store message => message.failureId ∉ platform.replayed
  | _ => True

/-- What carries idempotence: stored records have no replays. -/
structure Invariant (platform : Platform) : Prop where
  published : platform.replayed.Nodup
  unreplayed : ∀ message ∈ platform.stored, message.failureId ∉ platform.replayed

section Chains

variable {α : Type} {related : α → α → Prop} {source first second : α}

theorem eq_of_reached_ends (unique : Relator.RightUnique related)
    (toFirst : Relation.ReflTransGen related source first)
    (toSecond : Relation.ReflTransGen related source second)
    (firstEnds : ∀ next, ¬ related first next) (secondEnds : ∀ next, ¬ related second next) :
    first = second := by
  rcases Relation.ReflTransGen.total_of_right_unique unique toFirst toSecond with
    onward | onward
  · rcases Relation.ReflTransGen.cases_head onward with same | ⟨next, leaves, -⟩
    · exact same
    · exact absurd leaves (firstEnds next)
  · rcases Relation.ReflTransGen.cases_head onward with same | ⟨next, leaves, -⟩
    · exact same.symm
    · exact absurd leaves (secondEnds next)

theorem eq_of_nodup_filterMap {β : Type} {f : α → Option β} {list : List α}
    (distinct : (list.filterMap f).Nodup) {value : β} (firstListed : first ∈ list)
    (secondListed : second ∈ list) (firstGives : f first = some value)
    (secondGives : f second = some value) : first = second := by
  induction list with
  | nil => cases firstListed
  | cons head rest ih =>
      rcases List.mem_cons.mp firstListed with rfl | firstLater
      · rcases List.mem_cons.mp secondListed with same | secondLater
        · exact same.symm
        · rw [List.filterMap_cons_some firstGives] at distinct
          exact absurd (List.mem_filterMap.mpr ⟨second, secondLater, secondGives⟩)
            (List.nodup_cons.mp distinct).1
      · rcases List.mem_cons.mp secondListed with rfl | secondLater
        · rw [List.filterMap_cons_some secondGives] at distinct
          exact absurd (List.mem_filterMap.mpr ⟨first, firstLater, firstGives⟩)
            (List.nodup_cons.mp distinct).1
        · apply ih _ firstLater secondLater
          exact (List.sublist_cons_self head rest).filterMap f |>.nodup distinct

end Chains

section Steps

variable {platform : Platform}

theorem Replays.mem_replayed {failure replay : String} (replays : Replays platform failure replay) :
    failure ∈ platform.replayed := by
  obtain ⟨entry, listed, ofFailure, -⟩ := replays
  exact List.mem_filterMap.mpr ⟨entry, listed, ofFailure⟩

theorem replays_unique (published : platform.replayed.Nodup) :
    Relator.RightUnique (Replays platform) := by
  rintro failure first second ⟨entry, listed, ofFailure, rfl⟩ ⟨other, otherListed, otherOf, rfl⟩
  rw [eq_of_nodup_filterMap published listed otherListed ofFailure otherOf]

theorem Invariant.idempotent (invariant : Invariant platform) : Idempotent platform where
  published := invariant.published
  stored := by
    intro source first firstStored second secondStored toFirst toSecond
    apply eq_of_reached_ends (replays_unique invariant.published) toFirst toSecond
    · intro next replays
      exact invariant.unreplayed first firstStored replays.mem_replayed
    · intro next replays
      exact invariant.unreplayed second secondStored replays.mem_replayed

theorem Invariant.step {python : Python} (invariant : Invariant platform) {action : Action}
    (spares : SparesReplayed python platform action) :
    Invariant (step python platform action) := by
  cases action with
  | invoke partition offset reason world arrival =>
      unfold Dlq.step
      dsimp only
      split
      next enabled =>
        obtain ⟨sameDlq, comes⟩ := enabled
        split
        next publication published =>
          obtain ⟨failure, named, requested, clear, alone⟩ := main_published rfl rfl published
          obtain ⟨fresh, unstored⟩ := spares sameDlq comes failure requested clear alone
          have grown : ({ platform with topics := platform.topics ++
              [platform.arrived python publication arrival] } : Platform).replayed =
                platform.replayed ++ [failure] := by
            simp [Platform.replayed, Platform.arrived, named]
          constructor
          · rw [grown, List.nodup_append]
            refine ⟨invariant.published, List.nodup_singleton _, ?_⟩
            intro old listed new single same
            rw [same, List.mem_singleton.mp single] at listed
            exact fresh listed
          · intro message listed
            rw [grown]
            simp [invariant.unreplayed message listed, unstored message listed]
        next => exact invariant
      next => exact invariant
  | append message =>
      have same : (Dlq.step python platform (.append message)).replayed = platform.replayed := by
        simp [Dlq.step, Platform.replayed]
      exact ⟨by rw [same]; exact invariant.published,
        fun other listed => by rw [same]; exact invariant.unreplayed other listed⟩
  | deadLetter record => exact ⟨invariant.published, invariant.unreplayed⟩
  | store message =>
      simp only [Dlq.step]
      split
      next inTopics =>
        refine ⟨invariant.published, fun other listed => ?_⟩
        rcases List.mem_append.mp listed with before | now
        · exact invariant.unreplayed other before
        · rw [List.mem_singleton.mp now]
          exact spares
      next => exact invariant

end Steps

/-- Before the first replay. -/
structure Unreplayed (platform : Platform) : Prop where
  none : ∀ entry ∈ platform.topics, entry.replayOf = none

theorem Unreplayed.invariant {platform : Platform} (fresh : Unreplayed platform) :
    Invariant platform := by
  have none : platform.replayed = [] := List.filterMap_eq_nil_iff.mpr fresh.none
  constructor
  · rw [none]
    exact List.nodup_nil
  · intro message _
    rw [none]
    exact List.not_mem_nil

/-- As long as no failure is replayed again, or instead of being stored, replays are
idempotent. -/
theorem idempotent_of_spared (python : Python) (platform : Platform) (fresh : Unreplayed platform)
    (actions : List Action) (spared : Machine.Along (step python) (SparesReplayed python) platform
      actions) (before rest : List Action) (split : actions = before ++ rest) :
    Idempotent (Machine.run (step python) platform before) := by
  subst split
  have along := ((Machine.along_append (step python)).mp spared).1
  exact (Machine.run_invariant_along (step python)
    (fun platform action spares (invariant : Invariant platform) => invariant.step spares)
    fresh.invariant along).idempotent

theorem replayed_step {python : Python} (platform : Platform) {partition offset : Int}
    {reason failure : String} {world : World} (arrival : Arrival)
    (sameDlq : world.dlq = platform.dlq) (comes : arrives world arrival)
    (requested : Requested python (executing partition offset reason) world failure)
    (clear : Clear python world) (alone : envelopesOf python failure world.delivered ≤ 1) :
    (step python platform (.invoke partition offset reason world arrival)).replayed =
        platform.replayed ++ [failure] ∧
      (step python platform (.invoke partition offset reason world arrival)).dlq =
        platform.dlq := by
  obtain ⟨wanted, published, named⟩ := main_publishes rfl rfl requested clear alone
  simp only [step, sameDlq, comes, and_self, if_true, published]
  simp [Platform.replayed, Platform.arrived, named]

/-! ## Two operators, one failure -/

def singleRecord : Record := ⟨0, 0, some sampleValue⟩

/-- The DLQ holds one envelope, and Kafka answers as it should. -/
def single : World where
  dlq := [singleRecord]
  kafkaSecurityConfig := .ok ()
  fetched := .message singleRecord
  metadata := .ok [0]
  polls := [.message singleRecord, .partitionEof 0, .nothing]
  produce _ := .ok ()
  deliveryFailed := false
  now := "2026-01-01T00:00:00+00:00"
  fetchedStored := by
    intro record same
    cases same
    exact List.mem_cons_self
  pollsStored := List.Subperm.refl _

def singleReplay : Action := .invoke 0 0 "operator request" single ⟨0, none, false⟩

/-- A failed record has been dead-lettered, and none has been stored. -/
def deadLettered : Platform where
  topics := [⟨⟨"payment-events", 0, 7, some [], some [123, 125], none⟩, none⟩]
  dlq := [singleRecord]
  stored := []

theorem single_loaded : loadsValue samplePython singleRecord = .ok sampleEnvelope := by
  simp [loadsValue, samplePython, singleRecord]

theorem single_requested :
    Requested samplePython (executing 0 0 "operator request") single "payment-events:0:7" := by
  have loaded : requestedEnvelope samplePython singleRecord =
      .ok (sampleMembers, "payment-events:0:7") := by
    simp only [requestedEnvelope, single_loaded]
    rfl
  exact ⟨rfl, singleRecord, sampleMembers, ⟨.string "payment-events", [], [123, 125],
    "operator request", "2026-01-01T00:00:00+00:00", "payment-events:0:7"⟩, rfl, rfl, loaded,
    rfl, rfl⟩

theorem single_scanned : single.scanned = single.polls := rfl

theorem single_clear : Clear samplePython single := by
  constructor
  · intro poll listed
    rw [single_scanned] at listed
    simp only [single, List.mem_cons, List.not_mem_nil, or_false] at listed
    rcases listed with rfl | rfl | rfl
    · intro failed isFailed
      rw [single_loaded] at isFailed
      cases isFailed
    · trivial
    · trivial
  · intro envelope listed
    rw [single_scanned] at listed
    simp only [single, List.filterMap_cons, envelope?, single_loaded, Except.toOption] at listed
    simp only [Option.map_some, List.filterMap_nil, List.mem_singleton] at listed
    subst listed
    exact Library.Fallible.succeeds_ok "payment-events:0:7"

theorem single_alone (failure : String) : envelopesOf samplePython failure [singleRecord] ≤ 1 :=
  List.countP_le_length

/-- Whoever replays the failure again publishes it again. -/
theorem replayed_twice :
    (∀ failure, envelopesOf samplePython failure deadLettered.dlq ≤ 1) ∧
      ¬ Idempotent (Machine.run (step samplePython) deadLettered [singleReplay, singleReplay]) := by
  refine ⟨single_alone, fun idempotent => ?_⟩
  have first := replayed_step deadLettered ⟨0, none, false⟩ rfl rfl single_requested single_clear
    (single_alone _)
  have second := replayed_step (step samplePython deadLettered singleReplay) ⟨0, none, false⟩
    first.2.symm rfl single_requested single_clear (single_alone _)
  have published := idempotent.published
  simp only [Machine.run_cons, Machine.run_nil] at published
  unfold singleReplay at published second
  rw [second.1, first.1, List.append_assoc] at published
  have twice : ["payment-events:0:7", "payment-events:0:7"].Nodup :=
    (List.nodup_append.mp published).2.1
  simp at twice

/-- The first replay of a failure is harmless. -/
theorem replayed_once :
    Idempotent (Machine.run (step samplePython) deadLettered [singleReplay]) :=
  idempotent_of_spared samplePython deadLettered ⟨by simp [deadLettered]⟩ [singleReplay]
    ⟨fun _ _ failure _ _ _ => by simp [deadLettered, Platform.replayed], trivial⟩ [singleReplay] []
    rfl

end PaymentsPlatform.Replay.Dlq
