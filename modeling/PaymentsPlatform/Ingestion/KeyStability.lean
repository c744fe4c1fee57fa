import Mathlib.Data.List.Basic
import PaymentsPlatform.Ingestion.JsonEvents
import PaymentsPlatform.Library.Fallible

/-!
# Stability of the business key

A record is published under the first key field of its topic that it has, or else under its
`message_id`.  The `message_id` of an event is the first identifier of the record, and is generated
for a record that has none; it also stands before the `message_id` of the record itself.
-/

namespace PaymentsPlatform.Ingestion.JsonSource

open Library.Fallible

/-- What is relied on of `str` and `json`. -/
structure Python.Faithful (python : Python) : Prop where
  text_string : ∀ text, python.text (.string text) = text
  loads_empty : python.loads "" = .error .jsonDecodeError
  loads_dumps : ∀ {text document record}, python.loads text = .ok document →
    record ∈ recordsOf document →
      python.loads (python.dumps (.object record)) = .ok (.object record)

variable (python : Python)

def topicOf (source : Source) : String := (detectSystemFromPath python source.path).topic

/-- The objects of a source that belong to a topic. -/
def documentRecords (source : Source) : List Record :=
  if topicOf python source = "unknown" ∨ topicOf python source ∉ topicMappings then []
  else
    match source.file.bind python.loads with
    | .ok document => recordsOf document
    | .error _ => []

/-- The run turns the record at a position of the source into an event. -/
def Turned (run : Run) (source : Source) (index : Nat) (record event : Record) : Prop :=
  ∃ events, parseJsonEvents python run source = .ok events ∧ events[index]? = some event ∧
    (documentRecords python source)[index]? = some record

/-- The records of a source all of whose amounts can be read. -/
def eventRecords (source : Source) : List Record :=
  if (documentRecords python source).all fun record => (amountOf python record).isOk then
    documentRecords python source
  else []

/-- The first of the fields with an available value. -/
def firstAvailable (reading : String → Json) (fields : List String) : Option (String × Json) :=
  fields.findSome? fun field =>
    if available (reading field) then some (field, reading field) else none

/-- The key fields that no event has itself. -/
def ownFields (topic : String) : List String :=
  (businessKeyFields.lookup topic).getD ["payment_id"]

/-! ## Events of a source -/

variable {python} {run other : Run} {source : Source} {index : Nat} {record event : Record}

theorem eventsOf_ok {filePath : String} {route : Route} {records events : List Record}
    (returned : eventsOf python run filePath route records = .ok events) :
    List.Forall₂ (fun numbered event => ∃ amount, amountOf python numbered.1 = .ok amount ∧
      event = eventOf python run filePath route numbered.2 numbered.1 amount)
      records.zipIdx events := by
  refine (mapM_ok returned).imp ?_
  rintro ⟨record, index⟩ event step
  obtain ⟨amount, read, isEvent⟩ := bind_ok step
  cases isEvent
  exact ⟨amount, read, rfl⟩

theorem succeeds_eventsOf {filePath : String} {route : Route} {records : List Record} :
    Succeeds (eventsOf python run filePath route records) ↔
      ∀ record ∈ records, Succeeds (amountOf python record) := by
  have numbered : ∀ record, record ∈ records ↔ ∃ index, (record, index) ∈ records.zipIdx := by
    intro record
    constructor
    · intro listed
      obtain ⟨index, found⟩ := List.getElem?_of_mem listed
      exact ⟨index, List.mem_zipIdx_iff_getElem?.mpr found⟩
    · rintro ⟨index, found⟩
      exact List.mem_of_getElem? (List.mem_zipIdx_iff_getElem?.mp found)
  have loop : (∃ events, eventsOf python run filePath route records = .ok events ∧
      ∀ event ∈ events, True) ↔ ∀ numbered ∈ records.zipIdx, ∃ event : Record,
        (do
          let amount ← amountOf python numbered.1
          return eventOf python run filePath route numbered.2 numbered.1 amount) = .ok event ∧
        True := @mapM_forall _ _ _ _ (fun _ => True) _
  simp only [implies_true, and_true] at loop
  rw [Succeeds, loop]
  constructor
  · intro all record listed
    obtain ⟨index, found⟩ := (numbered record).mp listed
    obtain ⟨event, step⟩ := all _ found
    obtain ⟨amount, read, -⟩ := bind_ok step
    exact ⟨amount, read⟩
  · rintro all ⟨record, index⟩ found
    obtain ⟨amount, read⟩ := all record ((numbered record).mpr ⟨index, found⟩)
    exact ⟨eventOf python run filePath route index record amount, by
      simp [read, bind, Except.bind, pure, Except.pure]⟩

theorem parseJsonEvents_ok {events : List Record}
    (returned : parseJsonEvents python run source = .ok events) :
    eventsOf python run source.path (detectSystemFromPath python source.path)
      (documentRecords python source) = .ok events := by
  have nothing : ∀ route, eventsOf python run source.path route [] = .ok [] := fun _ => rfl
  unfold parseJsonEvents at returned
  unfold documentRecords topicOf
  dsimp only at returned
  split at returned
  next skipped =>
    rw [if_pos skipped, nothing]
    exact returned
  next routed =>
    rw [if_neg routed]
    split at returned <;> rename_i read <;> rw [read]
    · exact returned
    · exact returned
    · cases returned
    · exact returned

theorem parseJsonEvents_other {events : List Record}
    (returned : parseJsonEvents python run source = .ok events) (other : Run) :
    Succeeds (parseJsonEvents python other source) := by
  have readable := succeeds_eventsOf.mp ⟨events, parseJsonEvents_ok returned⟩
  unfold parseJsonEvents at returned ⊢
  unfold documentRecords topicOf at readable
  dsimp only at returned ⊢
  split at returned
  next skipped =>
    rw [if_pos skipped]
    exact succeeds_ok _
  next routed =>
    rw [if_neg routed] at readable ⊢
    split at returned <;> rename_i read
    · exact succeeds_ok _
    · exact succeeds_ok _
    · cases returned
    · rw [read] at readable
      exact succeeds_eventsOf.mpr readable

theorem Turned.isEvent (turned : Turned python run source index record event) :
    ∃ amount, event = eventOf python run source.path (detectSystemFromPath python source.path)
      index record amount := by
  obtain ⟨events, returned, atIndex, recordAtIndex⟩ := turned
  have each := eventsOf_ok (parseJsonEvents_ok returned)
  obtain ⟨inRange, isEvent⟩ := List.getElem?_eq_some_iff.mp atIndex
  obtain ⟨recordInRange, isRecord⟩ := List.getElem?_eq_some_iff.mp recordAtIndex
  obtain ⟨amount, -, same⟩ := each.get (i := index) (by
    rw [each.length_eq]
    exact inRange) inRange
  refine ⟨amount, ?_⟩
  simpa [isRecord, isEvent] using same

theorem Turned.again (turned : Turned python run source index record event) (other : Run) :
    ∃ again, Turned python other source index record again := by
  obtain ⟨events, returned, atIndex, recordAtIndex⟩ := turned
  obtain ⟨others, returnedOther⟩ := parseJsonEvents_other returned other
  have length := (eventsOf_ok (parseJsonEvents_ok returned)).length_eq
  have otherLength := (eventsOf_ok (parseJsonEvents_ok returnedOther)).length_eq
  obtain ⟨inRange, -⟩ := List.getElem?_eq_some_iff.mp atIndex
  exact ⟨others.get ⟨index, by omega⟩, others, returnedOther, List.getElem?_eq_getElem _,
    recordAtIndex⟩

theorem mem_recordsOf_document (listed : record ∈ documentRecords python source) :
    ∃ text document, python.loads text = .ok document ∧ record ∈ recordsOf document := by
  unfold documentRecords at listed
  split at listed
  next => simp at listed
  next =>
    split at listed
    next document read =>
      obtain ⟨text, -, loaded⟩ := bind_ok read
      exact ⟨text, document, loaded, listed⟩
    next => simp at listed

theorem parseJsonEvents_of_mem (listed : record ∈ documentRecords python source) :
    parseJsonEvents python run source = eventsOf python run source.path
      (detectSystemFromPath python source.path) (documentRecords python source) := by
  unfold documentRecords topicOf at listed ⊢
  unfold parseJsonEvents
  dsimp only
  split at listed
  next => simp at listed
  next routed =>
    rw [if_neg routed, if_neg routed]
    split at listed <;> rename_i read <;> rw [read]
    simp at listed

theorem mem_eventRecords (run : Run) : record ∈ eventRecords python source ↔
    ∃ index event, Turned python run source index record event := by
  have isOk : ∀ {result : Except Trouble Binary}, result.isOk = true ↔ Succeeds result := by
    intro result
    cases result <;> simp [Except.isOk, Except.toBool]
  have all : ((documentRecords python source).all fun record => (amountOf python record).isOk) =
      true ↔ ∀ record ∈ documentRecords python source, Succeeds (amountOf python record) := by
    simp only [List.all_eq_true, isOk]
  unfold eventRecords
  constructor
  · intro listed
    split at listed
    next readable =>
      obtain ⟨events, returned⟩ := succeeds_eventsOf.mpr (all.mp readable)
      have parsed := @parseJsonEvents_of_mem python run source record listed
      rw [← parsed] at returned
      obtain ⟨index, atIndex⟩ := List.getElem?_of_mem listed
      have length := (eventsOf_ok (parseJsonEvents_ok returned)).length_eq
      rw [List.length_zipIdx] at length
      obtain ⟨inRange, -⟩ := List.getElem?_eq_some_iff.mp atIndex
      exact ⟨index, events.get ⟨index, by omega⟩, events, returned, List.getElem?_eq_getElem _,
        atIndex⟩
    next => simp at listed
  · rintro ⟨index, event, events, returned, -, atIndex⟩
    rw [if_pos (all.mpr (succeeds_eventsOf.mp ⟨events, parseJsonEvents_ok returned⟩))]
    exact List.mem_of_getElem? atIndex

/-! ## The key of an event -/

/-- The names of an event without its topic. -/
def eventNames : List String :=
  ["event_id", "message_id", "event_type", "event_family", "source_system", "source_key",
    "source_location", "instructed_amount", "currency", "creation_date", "timestamp", "version",
    "event_data", "payload", "x_attributes", "parsed_event_data"]

theorem get_eq_null {members : Record} {field : String}
    (absent : field ∉ members.map Prod.fst) : Json.get members field = .null := by
  rw [Json.get, Json.lookup_eq_find, Dict.find_eq_none.mpr absent]
  rfl

theorem keyFields_eq (topic : String) : keyFields topic = ownFields topic ++
    if (businessKeyFields.lookup topic).isNone then ["message_id"] else [] := by
  unfold keyFields ownFields
  cases businessKeyFields.lookup topic <;> simp

theorem ownFields_not_event {topic field : String} (own : field ∈ ownFields topic) :
    field ∉ eventNames := by
  unfold ownFields at own
  cases found : businessKeyFields.lookup topic with
  | none =>
      rw [found] at own
      simp only [Option.getD_none, List.mem_singleton] at own
      subst own
      decide
  | some fields =>
      rw [found, Option.getD_some] at own
      rw [Json.lookup_eq_find] at found
      have checked : ∀ entry ∈ businessKeyFields, ∀ field ∈ entry.2, field ∉ eventNames := by
        simp [businessKeyFields, eventNames]
      exact checked _ (Dict.mem_of_find found) field own

/-- The key of a record whose event has this `message_id`. -/
def keyOf (python : Python) (topic sourceKey identifier : String) (record : Record) : String :=
  match firstAvailable (Json.get record) (ownFields topic) with
  | some found => python.text found.2
  | none =>
      if identifier ≠ "" then identifier
      else if (businessKeyFields.lookup topic).isNone ∧ available (Json.get record "message_id") then
        python.text (Json.get record "message_id")
      else sourceKey

section Select

variable {topic identifier : String} {produced : Record} {payload : Json}

theorem orElse_string (text : String) (value : Json) :
    (Json.string text).orElse value = if text = "" then value else .string text := by
  unfold Json.orElse Json.truthy
  by_cases blank : text = "" <;> simp [blank]

theorem firstValue_append {fields rest : List String}
    (absent : ∀ field ∈ fields, Json.get produced field = .null) :
    firstValue produced (.object record) (fields ++ rest) =
      match firstAvailable (Json.get record) fields with
      | some found => .ok (some found.2)
      | none => firstValue produced (.object record) rest := by
  induction fields with
  | nil => rfl
  | cons field later ih =>
      have value : fieldValue produced (.object record) field = .ok (Json.get record field) := by
        rw [fieldValue, absent field List.mem_cons_self]
        rfl
      rw [List.cons_append, firstValue, value, firstAvailable, List.findSome?_cons]
      by_cases isAvailable : available (Json.get record field) = true
      · simp [isAvailable, bind, Except.bind, pure, Except.pure]
      · rw [ih fun other listed => absent other (List.mem_cons_of_mem _ listed)]
        simp [isAvailable, bind, Except.bind, firstAvailable]

theorem fieldValue_messageId
    (hasIdentifier : Json.get produced "message_id" = .string identifier) :
    fieldValue produced (.object record) "message_id" =
      .ok (if identifier = "" then Json.get record "message_id" else .string identifier) := by
  rw [fieldValue, hasIdentifier]
  by_cases blank : identifier = "" <;> simp [blank, Json.truthy, payloadField]

theorem select_eq_keyOf (faithful : python.Faithful) {sourceKey : String}
    (names : produced.map Prod.fst = eventNames)
    (hasPayload : payloadOf python produced = .ok (.object record))
    (hasIdentifier : Json.get produced "message_id" = .string identifier)
    (hasSource : Json.get produced "source_key" = .string sourceKey) (named : sourceKey ≠ "") :
    selectBusinessKey python topic produced =
      .ok (keyOf python topic sourceKey identifier record) := by
  have absent : ∀ field ∈ ownFields topic, Json.get produced field = .null := by
    intro field own
    exact get_eq_null (names ▸ ownFields_not_event own)
  unfold selectBusinessKey keyOf
  rw [hasPayload, keyFields_eq]
  simp only [bind, Except.bind]
  rw [firstValue_append absent, hasIdentifier, hasSource]
  cases firstAvailable (Json.get record) (ownFields topic) with
  | some found => rfl
  | none =>
      cases (businessKeyFields.lookup topic).isNone with
      | false =>
          by_cases blank : identifier = "" <;>
            simp [firstValue, blank, named, Json.truthy, faithful.text_string, pure, Except.pure]
      | true =>
          simp only [if_true, firstValue, fieldValue_messageId hasIdentifier, bind, Except.bind]
          by_cases blank : identifier = ""
          · by_cases isAvailable : available (Json.get record "message_id") = true <;>
              simp [blank, isAvailable, named, Json.truthy, faithful.text_string, pure,
                Except.pure]
          · simp [blank, available, faithful.text_string, pure, Except.pure]

theorem payloadOf_event (faithful : python.Faithful)
    (listed : record ∈ documentRecords python source) {produced : Record}
    (parsed : Json.get produced "parsed_event_data" =
      .string (python.dumps (.object record))) :
    payloadOf python produced = .ok (.object record) := by
  obtain ⟨text, document, loaded, isRecord⟩ := mem_recordsOf_document listed
  have returns := faithful.loads_dumps loaded isRecord
  have notBlank : python.dumps (.object record) ≠ "" := by
    intro blank
    rw [blank, faithful.loads_empty] at returns
    cases returns
  rw [payloadOf, parsed, orElse_string, if_neg notBlank]
  simp only [returns]

theorem Turned.topicAndKey_eq (faithful : python.Faithful)
    (turned : Turned python run source index record event) :
    topicAndKey python event = (.string (topicOf python source),
      .ok (keyOf python (topicOf python source) (basename source.path)
        (messageId python run (detectSystemFromPath python source.path) index record) record)) := by
  obtain ⟨amount, rfl⟩ := turned.isEvent
  obtain ⟨events, -, -, atIndex⟩ := turned
  have listed := List.mem_of_getElem? atIndex
  rw [topicAndKey]
  refine Prod.ext rfl ?_
  apply select_eq_keyOf faithful
  · rfl
  · exact payloadOf_event faithful listed rfl
  · rfl
  · rfl
  · exact source.named

end Select

/-! ## The first key field of a record -/

section FirstAvailable

variable {topic sourceKey : String} {found : String × Json} {value : Json}

theorem firstAvailable_some {reading : String → Json} {fields : List String}
    (isFirst : firstAvailable reading fields = some found) :
    found.1 ∈ fields ∧ reading found.1 = found.2 ∧ available found.2 = true := by
  obtain ⟨field, listed, step⟩ := List.exists_of_findSome?_eq_some isFirst
  split at step
  next isAvailable =>
    cases step
    exact ⟨listed, rfl, isAvailable⟩
  next => cases step

theorem firstAvailable_keyFields (record : Record) (topic : String) :
    firstAvailable (Json.get record) (keyFields topic) =
      (firstAvailable (Json.get record) (ownFields topic)).or
        (firstAvailable (Json.get record)
          (if (businessKeyFields.lookup topic).isNone then ["message_id"] else [])) := by
  rw [keyFields_eq, firstAvailable, List.findSome?_append]
  rfl

theorem messageId_not_own : "message_id" ∉ ownFields topic :=
  fun own => ownFields_not_event own (by simp [eventNames])

theorem keyOf_of_own (isFirst : firstAvailable (Json.get record) (keyFields topic) = some found)
    (own : found.1 ≠ "message_id") (identifier : String) :
    keyOf python topic sourceKey identifier record = python.text found.2 := by
  rw [firstAvailable_keyFields, Option.or_eq_some_iff] at isFirst
  rcases isFirst with
    isOwn | ⟨-, shared⟩
  · rw [keyOf, isOwn]
  · have listed := (firstAvailable_some shared).1
    split at listed
    next => exact absurd (List.mem_singleton.mp listed) own
    next => simp at listed

variable (python) in
/-- The first identifier of a record, or else its `message_id`. -/
def identifierOr (value : Json) (record : Record) : String :=
  ((identification python record).filter fun identifier => identifier ≠ "").getD
    (python.text value)

theorem own_eq_none
    (isFirst : firstAvailable (Json.get record) (keyFields topic) = some ("message_id", value)) :
    firstAvailable (Json.get record) (ownFields topic) = none ∧
      (businessKeyFields.lookup topic).isNone = true := by
  rw [firstAvailable_keyFields, Option.or_eq_some_iff] at isFirst
  rcases isFirst with
    isOwn | ⟨none, shared⟩
  · exact absurd (firstAvailable_some isOwn).1 messageId_not_own
  · refine ⟨none, ?_⟩
    have listed := (firstAvailable_some shared).1
    split at listed
    next isNone => exact isNone
    next => simp at listed

theorem exists_identification
    (isFirst : firstAvailable (Json.get record) (keyFields topic) = some ("message_id", value))
    (named : (firstAvailable (Json.get record) (ownFields topic)).isSome ∨
      (identification python record).isSome) :
    ∃ identifier, identification python record = some identifier := by
  rw [(own_eq_none isFirst).1] at named
  exact Option.isSome_iff_exists.mp (named.resolve_left (by simp))

theorem keyOf_of_shared {identifier : String}
    (isFirst : firstAvailable (Json.get record) (keyFields topic) = some ("message_id", value))
    (identified : identification python record = some identifier) :
    keyOf python topic sourceKey identifier record = identifierOr python value record := by
  obtain ⟨noOwn, isNone⟩ := own_eq_none isFirst
  obtain ⟨-, isValue, isAvailable⟩ := firstAvailable_some isFirst
  dsimp only at isValue isAvailable
  rw [keyOf, noOwn, identifierOr, identified]
  by_cases blank : identifier = "" <;>
    simp [blank, isNone, isValue, isAvailable, Option.filter]

end FirstAvailable

/-! ## Two runs -/

variable (python) in
/-- Whatever a run generates, a record keeps its topic and its key, and records of one topic with
the same first key field have one key. -/
structure Stable (sources : List Source) : Prop where
  repeated : ∀ source ∈ sources, ∀ run other index record event,
    Turned python run source index record event →
      ∃ again, Turned python other source index record again ∧
        topicAndKey python again = topicAndKey python event
  answered : ∀ source ∈ sources, ∀ run index record event,
    Turned python run source index record event →
      ∃ key, (topicAndKey python event).2 = .ok key
  agreed : ∀ first ∈ sources, ∀ second ∈ sources, ∀ run other position index record another
    event again, Turned python run first position record event →
      Turned python other second index another again →
      topicOf python first = topicOf python second → ∀ found,
      firstAvailable (Json.get record) (keyFields (topicOf python first)) = some found →
      firstAvailable (Json.get another) (keyFields (topicOf python first)) = some found →
        (topicAndKey python event).2 = (topicAndKey python again).2

variable (python) in
/-- No record needs a generated identifier, and a shared `message_id` comes with a shared first
identifier. -/
structure Identified (sources : List Source) : Prop where
  named : ∀ source ∈ sources, ∀ record ∈ eventRecords python source,
    (firstAvailable (Json.get record) (ownFields (topicOf python source))).isSome ∨
      (identification python record).isSome
  agreed : ∀ first ∈ sources, ∀ second ∈ sources, topicOf python first = topicOf python second →
    ∀ record ∈ eventRecords python first, ∀ another ∈ eventRecords python second, ∀ value,
      firstAvailable (Json.get record) (keyFields (topicOf python first)) =
        some ("message_id", value) →
      firstAvailable (Json.get another) (keyFields (topicOf python first)) =
        some ("message_id", value) →
      identifierOr python value record = identifierOr python value another

/-- A run that generates one suffix for every record. -/
def constantRun (suffix : String) : Run :=
  ⟨fun _ => "b8c5b7f0-3a66-4f0e-9d9a-000000000000", fun _ => suffix,
    fun _ => "2026-09-10T00:00:00.000Z"⟩

theorem messageId_of_identified {route : Route} {identifier : String}
    (identified : identification python record = some identifier) :
    messageId python run route index record = identifier := by
  rw [messageId, identified, Option.getD_some]

theorem Stable.named (faithful : python.Faithful) {sources : List Source}
    (stable : Stable python sources) (isSource : source ∈ sources)
    (listed : record ∈ eventRecords python source) :
    (firstAvailable (Json.get record) (ownFields (topicOf python source))).isSome ∨
      (identification python record).isSome := by
  by_contra neither
  rw [not_or, Option.not_isSome_iff_eq_none, Option.not_isSome_iff_eq_none] at neither
  obtain ⟨noOwn, unidentified⟩ := neither
  obtain ⟨index, event, turned⟩ := (mem_eventRecords (constantRun "00000000")).mp listed
  obtain ⟨again, turnedAgain, same⟩ :=
    stable.repeated source isSource _ (constantRun "00000001") index record event turned
  have keys := congrArg Prod.snd same
  rw [turnedAgain.topicAndKey_eq faithful, turned.topicAndKey_eq faithful] at keys
  simp only [Except.ok.injEq, keyOf, noOwn, messageId, unidentified, Option.getD_none] at keys
  rw [if_pos (by simp), if_pos (by simp)] at keys
  simp [constantRun] at keys

theorem Stable.identified (faithful : python.Faithful) {sources : List Source}
    (stable : Stable python sources) : Identified python sources where
  named _ isSource _ listed := stable.named faithful isSource listed
  agreed := by
    intro first isFirst second isSecond sameTopic record listed another listedOther value found
      foundOther
    have run := constantRun "00000000"
    obtain ⟨position, event, turned⟩ := (mem_eventRecords run).mp listed
    obtain ⟨index, again, turnedOther⟩ := (mem_eventRecords run).mp listedOther
    have keys := stable.agreed first isFirst second isSecond run run position index record another
      event again turned turnedOther sameTopic _ found foundOther
    obtain ⟨identifier, identified⟩ :=
      exists_identification found (stable.named faithful isFirst listed)
    obtain ⟨otherIdentifier, otherIdentified⟩ := exists_identification
      (sameTopic ▸ foundOther) (stable.named faithful isSecond listedOther)
    rw [turned.topicAndKey_eq faithful, turnedOther.topicAndKey_eq faithful,
      messageId_of_identified identified, messageId_of_identified otherIdentified,
      keyOf_of_shared found identified,
      keyOf_of_shared (sameTopic ▸ foundOther) otherIdentified] at keys
    exact Except.ok.inj keys

theorem Identified.stable (faithful : python.Faithful) {sources : List Source}
    (identified : Identified python sources) : Stable python sources where
  repeated := by
    intro source isSource run other index record event turned
    obtain ⟨again, turnedAgain⟩ := turned.again other
    refine ⟨again, turnedAgain, ?_⟩
    have listed := (mem_eventRecords run).mpr ⟨index, event, turned⟩
    rw [turnedAgain.topicAndKey_eq faithful, turned.topicAndKey_eq faithful]
    rcases identified.named source isSource record listed with
      isOwn | isIdentified
    · obtain ⟨found, isFirst⟩ := Option.isSome_iff_exists.mp isOwn
      simp only [keyOf, isFirst]
    · obtain ⟨identifier, isIdentifier⟩ := Option.isSome_iff_exists.mp isIdentified
      rw [messageId_of_identified isIdentifier, messageId_of_identified isIdentifier]
  answered := by
    intro source _ run index record event turned
    exact ⟨_, by rw [turned.topicAndKey_eq faithful]⟩
  agreed := by
    intro first isFirst second isSecond run other position index record another event again turned
      turnedOther sameTopic found isFound isFoundOther
    rw [turned.topicAndKey_eq faithful, turnedOther.topicAndKey_eq faithful]
    by_cases own : found.1 = "message_id"
    · obtain ⟨field, value⟩ := found
      cases own
      have listed := (mem_eventRecords run).mpr ⟨position, event, turned⟩
      have listedOther := (mem_eventRecords other).mpr ⟨index, again, turnedOther⟩
      obtain ⟨identifier, isIdentifier⟩ :=
        exists_identification isFound (identified.named first isFirst record listed)
      obtain ⟨otherIdentifier, isOther⟩ := exists_identification
        (sameTopic ▸ isFoundOther) (identified.named second isSecond another listedOther)
      rw [messageId_of_identified isIdentifier, messageId_of_identified isOther,
        keyOf_of_shared isFound isIdentifier, keyOf_of_shared (sameTopic ▸ isFoundOther) isOther,
        identified.agreed first isFirst second isSecond sameTopic record listed another listedOther
          value isFound isFoundOther]
    · rw [keyOf_of_own isFound own, keyOf_of_own (sameTopic ▸ isFoundOther) own]

/-- The keys are stable exactly when no record needs what a run generates. -/
theorem keys_stable_iff (faithful : python.Faithful) (sources : List Source) :
    Stable python sources ↔ Identified python sources :=
  ⟨fun stable => stable.identified faithful, fun identified => identified.stable faithful⟩

/-! ## A loan without identifiers -/

def loan : Record := [("disbursed_amount", .int 500000)]

def loanText : String := "\x7b\"disbursed_amount\":500000\x7d"

/-- The library, as it answers for the loan. -/
def loanPython : Python where
  lower text := text
  upper := String.toUpper
  asPosix path := path
  fileName := basename
  loads text := if text = loanText then .ok (.object loan) else .error .jsonDecodeError
  dumps _ := loanText
  text
    | .string text => text
    | .int value => toString value
    | _ => "None"
  float
    | .int value => .ok (.finite value 0)
    | _ => .error .typeError

theorem loanPython_faithful : loanPython.Faithful where
  text_string _ := rfl
  loads_empty := by simp [loanPython, loanText]
  loads_dumps := by
    intro text document record loaded listed
    have isLoan : document = .object loan := by
      simp only [loanPython] at loaded
      split at loaded
      next => exact (Except.ok.inj loaded).symm
      next => cases loaded
    rw [isLoan] at listed
    rw [List.mem_singleton.mp (show record ∈ [loan] from listed)]
    rfl

def loans : Source where
  path := "/app/data/pdmis/loans.json"
  file := .ok loanText
  named := by decide

theorem keys_unstable_loans :
    loanPython.Faithful ∧ ¬ Stable loanPython [loans] := by
  refine ⟨loanPython_faithful, ?_⟩
  intro stable
  have listed : loan ∈ eventRecords loanPython loans := by
    have records : documentRecords loanPython loans = [loan] := by rfl
    rw [eventRecords, records]
    exact List.mem_singleton.mpr rfl
  have named := stable.named loanPython_faithful List.mem_cons_self listed
  revert named
  decide

theorem keys_stable_iff_loans :
    Stable loanPython [loans] ↔ Identified loanPython [loans] :=
  keys_stable_iff loanPython_faithful [loans]

end PaymentsPlatform.Ingestion.JsonSource
