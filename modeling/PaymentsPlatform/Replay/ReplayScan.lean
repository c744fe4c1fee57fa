import PaymentsPlatform.Replay.DlqReplay

/-!
# What the scan of the DLQ establishes

The tool publishes a record whose failure the DLQ holds once, as long as the scan is delivered a
second envelope of the failure wherever there is one (`replay_sole_iff`).
-/

namespace PaymentsPlatform.Replay.Dlq

open PaymentsPlatform.Library.Fallible

variable (python : Python)

/-! ## Envelopes of one failure -/

/-- The failure identity of a record that holds an envelope. -/
def identityOf (record : Record) : Option String :=
  (loadsValue python record >>= failureIdFromEnvelope python).toOption

/-- How many of the records are envelopes of the failure. -/
def envelopesOf (failureId : String) (records : List Record) : Nat :=
  records.countP fun record => identityOf python record = some failureId

/-- The polls that the loop makes: none after one that answers nothing once each partition has
reported its end. -/
def pollsMade (partitions : Nat) : List Int → List Poll → List Poll
  | _, [] => []
  | endOfPartition, .nothing :: rest =>
      if endOfPartition.length = partitions then [.nothing]
      else .nothing :: pollsMade partitions endOfPartition rest
  | endOfPartition, .partitionEof partition :: rest =>
      .partitionEof partition :: pollsMade partitions (endOfPartition.insert partition) rest
  | endOfPartition, poll :: rest => poll :: pollsMade partitions endOfPartition rest

namespace World

/-- The polls that the scan makes; it makes none without the partitions of the topic. -/
def scanned (world : World) : List Poll :=
  match world.metadata with
  | .error _ => []
  | .ok partitions => pollsMade partitions.length [] world.polls

/-- What the broker delivers to the scan. -/
def delivered (world : World) : List Record := world.scanned.filterMap Poll.record?

end World

/-- The envelope that a poll brings to the scan, if its value is JSON. -/
def envelope? : Poll → Option Envelope
  | .message record =>
      (loadsValue python record).toOption.map fun envelope =>
        (record.partition, record.offset, envelope)
  | _ => none

/-- The scan goes on after the poll; a value that is not JSON is passed over. -/
def Readable : Poll → Prop
  | .raised _ => False
  | .message record => ∀ failed, loadsValue python record = .error failed →
      failed.name = "TypeError" ∨ failed.name = "JSONDecodeError"
  | _ => True

/-- Nothing ends the scan before its time, and every envelope it is delivered is an object. -/
structure Clear (world : World) : Prop where
  readable : ∀ poll ∈ world.scanned, Readable python poll
  identified : ∀ envelope ∈ world.scanned.filterMap (envelope? python),
    Succeeds (failureIdFromEnvelope python envelope.2.2)

/-- Nothing but the duplicates can keep the tool from publishing the requested record. -/
def Requested (args : Args) (world : World) (failureId : String) : Prop :=
  world.kafkaSecurityConfig = .ok () ∧
    ∃ record members wanted, world.fetched = .message record ∧ record.offset = args.offset ∧
      requestedEnvelope python record = .ok (members, failureId) ∧
      publication python args world.now members failureId = .ok wanted ∧
      world.produce wanted = .ok ()

/-- What the tool publishes stands for a failure of which the DLQ holds one envelope. -/
def SoleReplay (args : Args) (world : World) : Prop :=
  ∀ published ∈ (main python args world).published,
    envelopesOf python published.failureId world.dlq = 1

/-! ## Grouping -/

variable {python}

/-- The records of a failure, in the order of the scan. -/
def recordsOf (python : Python) (failureId : String) (records : List Envelope) : List Envelope :=
  records.filter fun record =>
    (failureIdFromEnvelope python record.2.2).toOption = some failureId

theorem get?_of_fold {records : List Envelope} {groups result : Dict String (List Envelope)}
    (grouped : records.foldlM (fun groups record => do
      let failureId ← failureIdFromEnvelope python record.2.2
      return addToGroup failureId record groups) groups = .ok result) (key : String) :
    (result.get? key).getD [] = (groups.get? key).getD [] ++ recordsOf python key records := by
  induction records generalizing groups with
  | nil =>
      cases grouped
      simp [recordsOf]
  | cons record rest ih =>
      rw [List.foldlM_cons] at grouped
      obtain ⟨added, isAdded, grouped⟩ := bind_ok grouped
      obtain ⟨failureId, identified, isAdded⟩ := bind_ok isAdded
      cases isAdded
      rw [ih grouped, addToGroup, Dict.get?_set]
      by_cases same : failureId = key
      · subst same
        simp [recordsOf, identified, Except.toOption]
      · simp [recordsOf, identified, Except.toOption, same]

theorem duplicates_isEmpty {records : List Envelope} {groups : Dict String (List Envelope)}
    (grouped : duplicateGroups python records = .ok groups) (failureId : String) :
    ((groups.get? failureId).getD []).isEmpty ↔ (recordsOf python failureId records).length ≤ 1 := by
  obtain ⟨all, isGrouped, filtered⟩ := bind_ok grouped
  cases filtered
  have listed := get?_of_fold isGrouped failureId
  rw [Dict.get?_empty, Option.getD_none, List.nil_append] at listed
  rw [Dict.get?_filter, ← listed]
  cases all.get? failureId with
  | none => simp
  | some group =>
      by_cases several : 1 < group.length
      · have some_in : group ≠ [] := by
          rintro rfl
          simp at several
        simp [Option.filter, several, some_in]
      · have single : group.length ≤ 1 := not_lt.mp several
        simp [Option.filter, several, single]

theorem duplicateGroups_succeeds (records : List Envelope) :
    Succeeds (duplicateGroups python records) ↔
      ∀ envelope ∈ records, Succeeds (failureIdFromEnvelope python envelope.2.2) := by
  have grouped : Succeeds (groupByFailureId python records) ↔
      ∀ envelope ∈ records, Succeeds (failureIdFromEnvelope python envelope.2.2) := by
    apply succeeds_foldlM
    intro groups envelope _
    cases failureIdFromEnvelope python envelope.2.2 with
    | ok failureId => simp [bind, Except.bind, pure, Except.pure]
    | error failed => simp [bind, Except.bind]
  rw [← grouped]
  constructor
  · rintro ⟨groups, returned⟩
    obtain ⟨all, isGrouped, -⟩ := bind_ok returned
    exact ⟨all, isGrouped⟩
  · rintro ⟨all, isGrouped⟩
    refine ⟨all.filter fun _ group => group.length > 1, ?_⟩
    rw [duplicateGroups, isGrouped]
    rfl

/-! ## Scanning -/

theorem scanLoop_ok {partitions : Nat} {endOfPartition : List Int} {records result : List Envelope}
    {polls : List Poll} (returned : scanLoop python partitions endOfPartition records polls = .ok result) :
    (∀ poll ∈ pollsMade partitions endOfPartition polls, Readable python poll) ∧
      result = records ++
        (pollsMade partitions endOfPartition polls).filterMap (envelope? python) := by
  induction polls generalizing endOfPartition records with
  | nil =>
      cases returned
      simp [pollsMade]
  | cons poll rest ih =>
      cases poll with
      | nothing =>
          unfold scanLoop at returned
          unfold pollsMade
          split at returned
          next ended =>
            cases returned
            simp [ended, Readable, envelope?]
          next goesOn =>
            obtain ⟨readable, isResult⟩ := ih returned
            rw [if_neg goesOn]
            exact ⟨List.forall_mem_cons.mpr ⟨trivial, readable⟩, isResult⟩
      | partitionEof partition =>
          obtain ⟨readable, isResult⟩ := ih returned
          exact ⟨List.forall_mem_cons.mpr ⟨trivial, readable⟩, isResult⟩
      | failed =>
          obtain ⟨readable, isResult⟩ := ih returned
          exact ⟨List.forall_mem_cons.mpr ⟨trivial, readable⟩, isResult⟩
      | raised error => cases returned
      | message record =>
          unfold scanLoop at returned
          unfold pollsMade
          rw [List.filterMap_cons]
          split at returned
          next envelope loaded =>
            obtain ⟨readable, isResult⟩ := ih returned
            refine ⟨List.forall_mem_cons.mpr ⟨?_, readable⟩, ?_⟩
            · intro failed isFailed
              rw [loaded] at isFailed
              cases isFailed
            · simp [isResult, envelope?, loaded, Except.toOption]
          next failed isFailed =>
            split at returned
            next tolerated =>
              obtain ⟨readable, isResult⟩ := ih returned
              refine ⟨List.forall_mem_cons.mpr ⟨?_, readable⟩, ?_⟩
              · intro other isOther
                rw [isFailed] at isOther
                cases isOther
                exact tolerated
              · simp [isResult, envelope?, isFailed, Except.toOption]
            next => cases returned

theorem scanLoop_of_readable {partitions : Nat} {endOfPartition : List Int}
    {records : List Envelope} {polls : List Poll}
    (readable : ∀ poll ∈ pollsMade partitions endOfPartition polls, Readable python poll) :
    Succeeds (scanLoop python partitions endOfPartition records polls) := by
  induction polls generalizing endOfPartition records with
  | nil => exact succeeds_ok _
  | cons poll rest ih =>
      cases poll with
      | nothing =>
          unfold scanLoop
          unfold pollsMade at readable
          split
          next => exact succeeds_ok _
          next goesOn =>
            rw [if_neg goesOn] at readable
            exact ih (List.forall_mem_cons.mp readable).2
      | partitionEof partition => exact ih (List.forall_mem_cons.mp readable).2
      | failed => exact ih (List.forall_mem_cons.mp readable).2
      | raised error => exact (List.forall_mem_cons.mp readable).1.elim
      | message record =>
          obtain ⟨tolerated, later⟩ := List.forall_mem_cons.mp readable
          unfold scanLoop
          split
          next => exact ih later
          next failed isFailed =>
            rw [if_pos (tolerated failed isFailed)]
            exact ih later

/-- The scan and the grouping of what it returns. -/
abbrev groupsOfScan (python : Python) (world : World) :
    Except Raised (Dict String (List Envelope)) :=
  scanDlqEnvelopes python world >>= duplicateGroups python

variable {world : World}

theorem scan_ok (secured : world.kafkaSecurityConfig = .ok ()) {records : List Envelope}
    (returned : scanDlqEnvelopes python world = .ok records) :
    (∀ poll ∈ world.scanned, Readable python poll) ∧
      records = world.scanned.filterMap (envelope? python) := by
  unfold scanDlqEnvelopes at returned
  rw [secured] at returned
  unfold World.scanned
  cases listed : world.metadata with
  | error failed =>
      simp only [listed] at returned
      cases returned
      simp
  | ok partitions =>
      simp only [listed] at returned
      simpa using scanLoop_ok returned

theorem groupsOfScan_succeeds (python : Python) (secured : world.kafkaSecurityConfig = .ok ()) :
    Succeeds (groupsOfScan python world) ↔ Clear python world := by
  constructor
  · rintro ⟨groups, returned⟩
    obtain ⟨records, scanned, grouped⟩ := bind_ok returned
    obtain ⟨readable, rfl⟩ := scan_ok secured scanned
    exact ⟨readable, (duplicateGroups_succeeds _).mp ⟨groups, grouped⟩⟩
  · rintro ⟨readable, identified⟩
    have scans : Succeeds (scanDlqEnvelopes python world) := by
      unfold scanDlqEnvelopes
      rw [secured]
      unfold World.scanned at readable
      cases listed : world.metadata with
      | error failed => exact succeeds_ok _
      | ok partitions =>
          rw [listed] at readable
          exact scanLoop_of_readable readable
    obtain ⟨records, scanned⟩ := scans
    obtain ⟨-, rfl⟩ := scan_ok secured scanned
    obtain ⟨groups, grouped⟩ := (duplicateGroups_succeeds _).mpr identified
    exact ⟨groups, by rw [groupsOfScan, scanned]; exact grouped⟩

theorem length_recordsOf (failureId : String) (polls : List Poll) :
    (recordsOf python failureId (polls.filterMap (envelope? python))).length =
      envelopesOf python failureId (polls.filterMap Poll.record?) := by
  induction polls with
  | nil => rfl
  | cons poll rest ih =>
      cases poll with
      | message record =>
          simp only [recordsOf, envelopesOf] at ih ⊢
          cases loaded : loadsValue python record with
          | error failed =>
              have silent : envelope? python (.message record) = none := by
                simp [envelope?, loaded, Except.toOption]
              have unknown : identityOf python record = none := by
                simp [identityOf, loaded, bind, Except.bind, Except.toOption]
              rw [List.filterMap_cons_none silent, ih]
              simp [Poll.record?, unknown]
          | ok envelope =>
              have brings : envelope? python (.message record) =
                  some (record.partition, record.offset, envelope) := by
                simp [envelope?, loaded, Except.toOption]
              have known : identityOf python record =
                  (failureIdFromEnvelope python envelope).toOption := by
                simp [identityOf, loaded, bind, Except.bind]
              have same : (Poll.message record).record? = some record := rfl
              rw [List.filterMap_cons_some brings, List.filter_cons, List.filterMap_cons_some same,
                List.countP_cons, known, ← ih]
              by_cases met : (failureIdFromEnvelope python envelope).toOption = some failureId <;>
                simp [met]
      | nothing => exact ih
      | partitionEof partition => exact ih
      | failed => exact ih
      | raised error => exact ih

/-! ## Publishing -/

theorem publication_failureId {args : Args} {now failureId : String}
    {members : List (String × Json)} {wanted : Publication}
    (prepared : publication python args now members failureId = .ok wanted) :
    wanted.failureId = failureId := by
  obtain ⟨topic, -, prepared⟩ := bind_ok prepared
  obtain ⟨keyText, -, prepared⟩ := bind_ok prepared
  obtain ⟨key, -, prepared⟩ := bind_ok prepared
  obtain ⟨valueText, -, prepared⟩ := bind_ok prepared
  obtain ⟨value, -, prepared⟩ := bind_ok prepared
  cases prepared
  rfl

theorem identityOf_requested {record : Record} {members : List (String × Json)} {failureId : String}
    (requested : requestedEnvelope python record = .ok (members, failureId)) :
    identityOf python record = some failureId := by
  obtain ⟨envelope, loaded, requested⟩ := bind_ok requested
  obtain ⟨identity, identified, requested⟩ := bind_ok requested
  have same : identity = failureId := by
    cases envelope <;> cases requested <;> rfl
  simp [identityOf, loaded, identified, same, bind, Except.bind, Except.toOption]

theorem publish_published {args : Args} {members : List (String × Json)} {failureId : String}
    {wanted : Publication} :
    (publish python args world members failureId).published = some wanted ↔
      publication python args world.now members failureId = .ok wanted ∧
        world.produce wanted = .ok () := by
  unfold publish
  cases publication python args world.now members failureId with
  | error failed => simp
  | ok prepared =>
      cases produced : world.produce prepared with
      | error failed =>
          simp only [produced, reduceCtorEq, Except.ok.injEq, false_iff, not_and]
          rintro rfl
          simp [produced]
      | ok accepted =>
          simp only [produced, Option.some.injEq, Except.ok.injEq]
          constructor
          · rintro rfl
            exact ⟨rfl, produced⟩
          · exact fun same => same.1

section Careful

variable {args : Args} (executing : args.execute = true)
  (careful : args.allowDuplicateReplay = false)

include executing careful

theorem replay_published (secured : world.kafkaSecurityConfig = .ok ()) {record : Record}
    {wanted : Publication} :
    (replay python args world record).published = some wanted ↔
      ∃ members failureId, requestedEnvelope python record = .ok (members, failureId) ∧
        publication python args world.now members failureId = .ok wanted ∧
        world.produce wanted = .ok () ∧ Clear python world ∧
        envelopesOf python failureId world.delivered ≤ 1 := by
  unfold replay
  cases requested : requestedEnvelope python record with
  | error failed => simp
  | ok envelope =>
      obtain ⟨members, failureId⟩ := envelope
      have scans := groupsOfScan_succeeds python secured
      unfold groupsOfScan at scans
      cases scanned : scanDlqEnvelopes python world >>= duplicateGroups python with
      | error failed =>
          rw [scanned] at scans
          have unclear : ¬ Clear python world := fun clear =>
            not_succeeds_error failed (scans.mpr clear)
          simp [unclear]
      | ok groups =>
          have clear := scans.mp ⟨groups, scanned⟩
          obtain ⟨records, returned, grouped⟩ := bind_ok scanned
          obtain ⟨-, rfl⟩ := scan_ok secured returned
          have sole := duplicates_isEmpty grouped failureId
          rw [length_recordsOf] at sole
          change _ ↔ envelopesOf python failureId world.delivered ≤ 1 at sole
          simp only [executing, careful, Bool.not_true, Bool.false_eq_true, if_false, Bool.not_false,
            Bool.and_true, Except.ok.injEq, Prod.mk.injEq]
          by_cases alone : envelopesOf python failureId world.delivered ≤ 1
          · rw [sole.mpr alone, Bool.not_true, if_neg Bool.false_ne_true, publish_published]
            constructor
            · rintro ⟨prepared, produced⟩
              exact ⟨members, failureId, ⟨rfl, rfl⟩, prepared, produced, clear, alone⟩
            · rintro ⟨_, _, ⟨rfl, rfl⟩, prepared, produced, -, -⟩
              exact ⟨prepared, produced⟩
          · rw [Bool.not_eq_true _ |>.mp (mt sole.mp alone), Bool.not_false, if_pos rfl]
            constructor
            · intro impossible
              cases impossible
            · rintro ⟨_, _, ⟨rfl, rfl⟩, -, -, -, single⟩
              exact absurd single alone

theorem main_published {wanted : Publication} :
    (main python args world).published = some wanted →
      ∃ failureId, wanted.failureId = failureId ∧ Requested python args world failureId ∧
        Clear python world ∧ envelopesOf python failureId world.delivered ≤ 1 := by
  intro published
  unfold main at published
  split at published
  next => cases published
  next secured =>
    split at published
    next => cases published
    next record fetched =>
      split at published
      next => cases published
      next found =>
        obtain ⟨members, failureId, requested, prepared, produced, clear, alone⟩ :=
          (replay_published executing careful secured).mp published
        exact ⟨failureId, publication_failureId prepared, ⟨secured, record, members, wanted,
          fetched, not_not.mp found, requested, prepared, produced⟩, clear, alone⟩
    next => cases published

theorem main_publishes {failureId : String} (requested : Requested python args world failureId)
    (clear : Clear python world) (alone : envelopesOf python failureId world.delivered ≤ 1) :
    ∃ wanted, (main python args world).published = some wanted ∧
      wanted.failureId = failureId := by
  obtain ⟨secured, record, members, wanted, fetched, found, isRequested, prepared, produced⟩ :=
    requested
  refine ⟨wanted, ?_, publication_failureId prepared⟩
  unfold main
  rw [secured, fetched]
  simp only [found, ne_eq, not_true_eq_false, if_false]
  exact (replay_published executing careful secured).mpr
    ⟨members, failureId, isRequested, prepared, produced, clear, alone⟩

/-- The tool publishes only what the DLQ holds one envelope of, exactly if it is delivered two
envelopes of a failure wherever the DLQ holds as many. -/
theorem replay_sole_iff : SoleReplay python args world ↔
    ∀ failureId, Requested python args world failureId → Clear python world →
      2 ≤ envelopesOf python failureId world.dlq →
      2 ≤ envelopesOf python failureId world.delivered := by
  constructor
  · intro sole failureId requested clear several
    by_contra few
    obtain ⟨wanted, published, named⟩ :=
      main_publishes executing careful requested clear (by omega)
    have once := sole wanted published
    rw [named] at once
    omega
  · intro delivers wanted published
    obtain ⟨failureId, rfl, requested, clear, alone⟩ := main_published executing careful published
    have few : ¬ 2 ≤ envelopesOf python wanted.failureId world.dlq := by
      intro several
      have both := delivers _ requested clear several
      omega
    have stored : 0 < envelopesOf python wanted.failureId world.dlq := by
      obtain ⟨-, record, members, -, fetched, -, isRequested, -, -⟩ := requested
      have inDlq := world.fetchedStored record (by rw [fetched]; rfl)
      apply List.countP_pos_iff.mpr
      exact ⟨record, inDlq, by simpa using identityOf_requested isRequested⟩
    omega

end Careful

/-! ## A topic whose partitions are not known -/

def sampleMembers : List (String × Json) := [
  ("failure_id", .string "payment-events:0:7"), ("original_topic", .string "payment-events"),
  ("original_partition", .int 0), ("original_offset", .int 7),
  ("original_key_base64", .string ""), ("original_payload_base64", .string "e30=")]

def sampleEnvelope : Json := .object sampleMembers

def sampleValue : List UInt8 :=
  (Json.dumps (fun _ => "") sampleEnvelope).map fun c => UInt8.ofNat c.toNat

def samplePython : Python where
  loads bytes :=
    if bytes = sampleValue then .ok sampleEnvelope
    else .error ⟨"JSONDecodeError", "Expecting value: line 1 column 1 (char 0)"⟩
  str _ := "None"
  b64decode
    | .string "" => .ok []
    | .string "e30=" => .ok [123, 125]
    | _ => .error ⟨"Error", "Incorrect padding"⟩

/-- Two envelopes of one failure; the topic's metadata cannot be read. -/
def unlisted : World where
  dlq := [⟨0, 0, some sampleValue⟩, ⟨1, 5, some sampleValue⟩]
  kafkaSecurityConfig := .ok ()
  fetched := .message ⟨0, 0, some sampleValue⟩
  metadata := .error ⟨"KafkaException", "Local: Broker transport failure"⟩
  polls := []
  produce _ := .ok ()
  deliveryFailed := false
  now := "2026-01-01T00:00:00+00:00"
  fetchedStored := by
    intro record same
    cases same
    exact List.mem_cons_self
  pollsStored := List.nil_subperm

def sampleArgs : Args := ⟨0, 0, "operator request", true, false⟩

theorem unlisted_identity (partition offset : Int) :
    identityOf samplePython ⟨partition, offset, some sampleValue⟩ = some "payment-events:0:7" := by
  simp only [identityOf, loadsValue, samplePython]
  decide

theorem unlisted_requested : Requested samplePython sampleArgs unlisted "payment-events:0:7" := by
  have loaded : requestedEnvelope samplePython ⟨0, 0, some sampleValue⟩ =
      .ok (sampleMembers, "payment-events:0:7") := by
    simp only [requestedEnvelope, loadsValue, samplePython]
    rfl
  exact ⟨rfl, ⟨0, 0, some sampleValue⟩, sampleMembers, ⟨.string "payment-events", [], [123, 125],
    "operator request", "2026-01-01T00:00:00+00:00", "payment-events:0:7"⟩, rfl, rfl, loaded,
    rfl, rfl⟩

/-- The scan is delivered nothing, so that the tool takes the envelope for the only one. -/
theorem unlisted_published : ¬ SoleReplay samplePython sampleArgs unlisted := by
  intro sole
  have clear : Clear samplePython unlisted := by
    constructor <;> simp [World.scanned, unlisted]
  have unseen : envelopesOf samplePython "payment-events:0:7" unlisted.delivered ≤ 1 := by
    simp [World.delivered, World.scanned, unlisted, envelopesOf]
  obtain ⟨wanted, published, named⟩ := main_publishes rfl rfl unlisted_requested clear unseen
  have once := sole wanted published
  rw [named] at once
  simp [envelopesOf, unlisted, unlisted_identity] at once

theorem unlisted_sole_iff : SoleReplay samplePython sampleArgs unlisted ↔
    ∀ failureId, Requested samplePython sampleArgs unlisted failureId →
      Clear samplePython unlisted →
      2 ≤ envelopesOf samplePython failureId unlisted.dlq →
      2 ≤ envelopesOf samplePython failureId unlisted.delivered :=
  replay_sole_iff rfl rfl

end PaymentsPlatform.Replay.Dlq
