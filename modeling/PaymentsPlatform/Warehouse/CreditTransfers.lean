import PaymentsPlatform.Ingestion.XmlProjection
import PaymentsPlatform.Warehouse.Silver

/-!
# Credit transfers

A payment message from its XML to the payment transactions: `parse_pain001_xml` of
`kafka_producer.py`, the paths of `br_pdm_icmn_vpm_pain001`, and the rows that
`slv_pdm_payments_transactions` keeps.  The paths expect one transfer; where there are several, they
lead into a list and find none.

How Python reads a `float`, how DuckDB casts texts, and the JSON text of a value that is no string
are parameters.
-/

namespace PaymentsPlatform.Warehouse

open Bag Calendar
open Ingestion (xmlToDict strip isSpace ChildName member_of_only xmlToDict_leaf)
open Xml (Element)

/-! ## The producer -/

/-- What is read by Python and by DuckDB. -/
structure Readings where
  /-- `float`, unless it raises. -/
  float : String → Option Binary
  /-- `try_cast(... as timestamp)`. -/
  timestamp : String → Option Timestamp
  /-- `try_cast(... as double)`. -/
  double : String → Option ℚ
  jsonText : Json → String
  jsonText_empty : jsonText (.object []) = "\x7b\x7d"

def rational : Binary → Option ℚ
  | .finite mantissa exponent => some (mantissa * 2 ^ exponent)
  | _ => none

def pain001Namespace : String := "urn:iso:std:iso:20022:tech:xsd:pain.001.001.09"

/-- `ns:{name}`. -/
def tagged (name : String) (element : Element) : Bool :=
  element.uri = pain001Namespace && element.localName = name

/-- `root.find('.//ns:{name}', ns)`. -/
def find (root : Element) (name : String) : Option Element :=
  root.descendants.find? (tagged name)

/-- `root.find('.//ns:{party}/ns:Nm', ns)`. -/
def findName (root : Element) (party : String) : Option Element :=
  ((root.descendants.filter (tagged party)).flatMap fun element =>
    element.children.filter (tagged "Nm")).head?

def textOf : Option Element → Json
  | some element => .string element.text
  | none => .string ""

def currencyOf : Option Element → Json
  | some element =>
      match element.attributes.lookup "Ccy" with
      | some currency => .string currency
      | none => .null
  | none => .string ""

section Producer

variable (readings : Readings)

def amountOf : Option Element → Option Json
  | some element =>
      if element.text = "" then some (.float (.finite 0 0))
      else (readings.float element.text).map .float
  | none => some (.float (.finite 0 0))

/-- `parse_pain001_xml`; nothing is returned of a document that raises. -/
def parsePain001Xml (eventId : String) (root : Element) : Option (List (String × Json)) :=
  (amountOf readings (find root "InstdAmt")).map fun amount =>
    [("event_id", .string eventId), ("message_id", textOf (find root "MsgId")),
      ("creation_date", textOf (find root "CreDtTm")), ("instructed_amount", amount),
      ("currency", currencyOf (find root "InstdAmt")), ("debtor", textOf (findName root "Dbtr")),
      ("creditor", textOf (findName root "Cdtr")),
      ("xml", .object [(root.localName, xmlToDict root)])]

/-- `parse_event`, as far as its `parsed_event_data`. -/
def parseEvent (eventId : String) (root : Element) : Option Json :=
  (parsePain001Xml readings eventId root).map fun payload =>
    .object (payload ++ [("source_system", .string "vpm")])

end Producer

/-! ## Bronze -/

/-- An event as Raw holds it. -/
structure RawEvent where
  parsedEventData : Option Json
  delivery : Delivery

def initiationPath : List String := ["xml", "Document", "CstmrCdtTrfInitn"]

def paymentPath : List String := initiationPath ++ ["PmtInf"]

def transferPath : List String := paymentPath ++ ["CdtTrfTxInf"]

section Bronze

variable (readings : Readings)

/-- `extract_json`. -/
def extractJson (data : Json) (path : List String) : Option String :=
  match data.follow path with
  | some (.string text) => some text
  | some .null => none
  | some value => some (readings.jsonText value)
  | none => none

/-- `try_cast({{ extract_json(...) }} as double)`; the text of a number reads as the number. -/
def extractDouble (data : Json) (path : List String) : Option ℚ :=
  match data.follow path with
  | some (.float value) => rational value
  | some (.int value) => some value
  | some (.string text) => readings.double text
  | _ => none

/-- `br_pdm_icmn_vpm_pain001`. -/
def brPdmIcmnVpmPain001 (data : Json) : Pain001 where
  messageId := extractJson readings data (initiationPath ++ ["GrpHdr", "MsgId"])
  endToEndId := extractJson readings data (transferPath ++ ["PmtId", "EndToEndId"])
  creationAt := (extractJson readings data ["creation_date"]).bind readings.timestamp
  instructedAmount := extractDouble readings data ["instructed_amount"]
  currency := extractJson readings data ["currency"]
  debtorAccountId := extractJson readings data (paymentPath ++ ["DbtrAcct", "Id", "Othr", "Id"])
  creditorAccountId := extractJson readings data (transferPath ++ ["CdtrAcct", "Id", "Othr", "Id"])
  debtorAccountIssuer :=
    extractJson readings data (paymentPath ++ ["DbtrAcct", "Id", "Othr", "Issr"])
  creditorAccountIssuer :=
    extractJson readings data (transferPath ++ ["CdtrAcct", "Id", "Othr", "Issr"])
  instructionId := extractJson readings data (transferPath ++ ["PmtId", "InstrId"])
  transactionId := extractJson readings data (transferPath ++ ["PmtId", "TxId"])
  uetr := extractJson readings data (transferPath ++ ["PmtId", "UETR"])

/-- The row of an event, if it is one of the table. -/
def RawEvent.pain001 (event : RawEvent) : Option (Stored Pain001) :=
  if event.delivery.kafkaTopic = "icmn.vpm.pain001" then
    event.parsedEventData.map fun data => ⟨brPdmIcmnVpmPain001 readings data, event.delivery⟩
  else none

end Bronze

/-! ## Messages -/

/-- The text of the only child with a name, when it has neither attributes nor children. -/
def leafText (element : Element) (name : String) : Option String :=
  (element.only name).bind fun leaf =>
    if leaf.attributes.isEmpty && leaf.children.isEmpty then some (strip isSpace leaf.text)
    else none

/-- A `CdtTrfTxInf`, with its transaction id, its end-to-end id and its amount. -/
structure CreditTransfer (readings : Readings) where
  element : Element
  identification : Element
  amount : Element
  transactionId : String
  endToEndId : String
  instructedAmount : ℚ
  identified : element.only "PmtId" = some identification
  hasTransactionId : leafText identification "TxId" = some transactionId
  filled : transactionId ≠ ""
  hasEndToEndId : leafText identification "EndToEndId" = some endToEndId
  hasAmount : (element.only "Amt").bind (·.only "InstdAmt") = some amount
  written : amount.text ≠ ""
  reads : (readings.float amount.text).bind rational = some instructedAmount

/-- A pain.001 document with one `PmtInf` and its transfers, of which no two have the same
transaction id. -/
structure Pain001Message (readings : Readings) where
  root : Element
  initiation : Element
  paymentInformation : Element
  transfers : List (CreditTransfer readings)
  isDocument : root.localName = "Document"
  initiated : root.only "CstmrCdtTrfInitn" = some initiation
  informed : initiation.only "PmtInf" = some paymentInformation
  transferred : paymentInformation.named "CdtTrfTxInf" = transfers.map CreditTransfer.element
  amounts : root.descendants.filter (tagged "InstdAmt") = transfers.map CreditTransfer.amount
  nonempty : transfers ≠ []
  distinct : (transfers.map CreditTransfer.transactionId).Nodup

namespace Pain001Message

variable {readings : Readings} (message : Pain001Message readings)

theorem exists_data (eventId : String) : ∃ first rest number,
    message.transfers = first :: rest ∧ rational number = some first.instructedAmount ∧
      parseEvent readings eventId message.root = some (.object
        [("event_id", .string eventId), ("message_id", textOf (find message.root "MsgId")),
          ("creation_date", textOf (find message.root "CreDtTm")),
          ("instructed_amount", .float number),
          ("currency", currencyOf (find message.root "InstdAmt")),
          ("debtor", textOf (findName message.root "Dbtr")),
          ("creditor", textOf (findName message.root "Cdtr")),
          ("xml", .object [("Document", xmlToDict message.root)]),
          ("source_system", .string "vpm")]) := by
  obtain ⟨first, rest, shape⟩ := List.exists_cons_of_ne_nil message.nonempty
  obtain ⟨number, isNumber, isAmount⟩ := Option.bind_eq_some_iff.mp first.reads
  have found : find message.root "InstdAmt" = some first.amount := by
    rw [find, ← List.head?_filter, message.amounts, shape]
    rfl
  refine ⟨first, rest, number, shape, isAmount, ?_⟩
  rw [parseEvent, parsePain001Xml, found, amountOf, if_neg first.written, isNumber,
    message.isDocument]
  rfl

theorem exists_parsed (eventId : String) :
    ∃ data, parseEvent readings eventId message.root = some data := by
  obtain ⟨first, rest, number, -, -, isData⟩ := message.exists_data eventId
  exact ⟨_, isData⟩

/-- The row of the message in Bronze. -/
def row : Pain001 :=
  brPdmIcmnVpmPain001 readings ((parseEvent readings "" message.root).getD .null)

theorem row_eq {eventId : String} {data : Json}
    (parsed : parseEvent readings eventId message.root = some data) :
    brPdmIcmnVpmPain001 readings data = message.row := by
  unfold row
  unfold parseEvent parsePain001Xml at parsed ⊢
  cases amount : amountOf readings (find message.root "InstdAmt") with
  | none =>
      rw [amount] at parsed
      cases parsed
  | some value =>
      rw [amount] at parsed
      cases parsed
      rfl

theorem follow_paymentPath {eventId : String} {data : Json}
    (parsed : parseEvent readings eventId message.root = some data) (path : List String) :
    data.follow (paymentPath ++ path) = (xmlToDict message.paymentInformation).follow path := by
  obtain ⟨first, rest, number, -, -, isData⟩ := message.exists_data eventId
  cases parsed.symm.trans isData
  have document : (xmlToDict message.root).member "CstmrCdtTrfInitn" =
      some (xmlToDict message.initiation) :=
    member_of_only ⟨by decide, by decide⟩ message.initiated
  have initiation : (xmlToDict message.initiation).member "PmtInf" =
      some (xmlToDict message.paymentInformation) :=
    member_of_only ⟨by decide, by decide⟩ message.informed
  calc
    Json.follow (paymentPath ++ path) _ =
        (xmlToDict message.root).follow ("CstmrCdtTrfInitn" :: "PmtInf" :: path) := by
      simp [paymentPath, initiationPath, Json.follow, Json.member, Dict.find]
    _ = (xmlToDict message.paymentInformation).follow path := by
      rw [Json.follow_of_member document, Json.follow_of_member initiation]

theorem row_instructedAmount {first : CreditTransfer readings}
    {rest : List (CreditTransfer readings)} (shape : message.transfers = first :: rest) :
    message.row.instructedAmount = some first.instructedAmount := by
  obtain ⟨other, others, number, isFirst, isNumber, isData⟩ := message.exists_data ""
  cases shape.symm.trans isFirst
  rw [row, isData]
  simp [brPdmIcmnVpmPain001, extractDouble, Json.follow, Json.member, Dict.find, isNumber]

theorem extractJson_leaf {data : Json} {path : List String} {element : Element} {name text : String}
    (isChild : ChildName name) (found : ∀ path', data.follow (path ++ path') =
      (xmlToDict element).follow path') (isText : leafText element name = some text) :
    extractJson readings data (path ++ [name]) =
      some (if text = "" then "\x7b\x7d" else text) := by
  obtain ⟨leaf, isLeaf, isText⟩ := Option.bind_eq_some_iff.mp isText
  split at isText
  next plain =>
    rw [Bool.and_eq_true, List.isEmpty_iff, List.isEmpty_iff] at plain
    cases isText
    have member := member_of_only isChild isLeaf
    rw [extractJson, found, Json.follow_of_member member, xmlToDict_leaf plain.1 plain.2]
    by_cases blank : strip isSpace leaf.text = ""
    · rw [if_pos blank, if_pos blank]
      exact congrArg some readings.jsonText_empty
    · rw [if_neg blank, if_neg blank]
      rfl
  next => cases isText

theorem row_of_single {transfer : CreditTransfer readings}
    (single : message.transfers = [transfer]) :
    message.row.transactionId = some transfer.transactionId ∧
      message.row.endToEndId =
        some (if transfer.endToEndId = "" then "\x7b\x7d" else transfer.endToEndId) := by
  obtain ⟨data, isData⟩ := message.exists_parsed ""
  have row := message.row_eq isData
  have only : message.paymentInformation.only "CdtTrfTxInf" = some transfer.element := by
    rw [Element.only, message.transferred, single]
    rfl
  have member : (xmlToDict message.paymentInformation).member "CdtTrfTxInf" =
      some (xmlToDict transfer.element) :=
    member_of_only ⟨by decide, by decide⟩ only
  have identification : (xmlToDict transfer.element).member "PmtId" =
      some (xmlToDict transfer.identification) :=
    member_of_only ⟨by decide, by decide⟩ transfer.identified
  have found (path : List String) : data.follow ((transferPath ++ ["PmtId"]) ++ path) =
      (xmlToDict transfer.identification).follow path := by
    rw [transferPath, List.append_assoc, List.append_assoc, message.follow_paymentPath isData,
      List.singleton_append, List.singleton_append, Json.follow_of_member member,
      Json.follow_of_member identification]
  rw [← row]
  constructor
  · have extracted : extractJson readings data (transferPath ++ ["PmtId"] ++ ["TxId"]) = _ :=
      extractJson_leaf ⟨by decide, by decide⟩ found transfer.hasTransactionId
    rw [if_neg transfer.filled] at extracted
    exact extracted
  · exact extractJson_leaf ⟨by decide, by decide⟩ found transfer.hasEndToEndId

end Pain001Message

/-! ## Silver -/

section Silver

variable {readings : Readings} {message : Pain001Message readings} {event : RawEvent}
  {stored : Stored Pain001}

/-- The event is one of the message. -/
def RawEvent.Carries (event : RawEvent) (message : Pain001Message readings) : Prop :=
  event.delivery.kafkaTopic = "icmn.vpm.pain001" ∧
    ∃ eventId, event.parsedEventData = parseEvent readings eventId message.root

/-- The event is one of another message, and its row is identified otherwise. -/
def RawEvent.Apart (event : RawEvent) (message : Pain001Message readings) : Prop :=
  ∀ stored, event.pain001 readings = some stored →
    stored.content.messageId ≠ message.row.messageId ∧
      ∀ identifier, stored.content.transaction.recordIdentifier = some identifier →
        message.row.transaction.recordIdentifier ≠ some identifier

/-- The events of a message, which may be delivered again, among those of other messages. -/
structure Raw (message : Pain001Message readings) where
  events : Multiset RawEvent
  carried : ∃ event ∈ events, event.Carries message
  apart : ∀ event ∈ events, event.Carries message ∨ event.Apart message

/-- Bronze with the table that is made of Raw. -/
def Raw.bronze (raw : Raw message) (bronze : Bronze) : Bronze :=
  { bronze with icmnVpmPain001 := raw.events.filterMap (RawEvent.pain001 readings) }

/-- The `ICMN_VPM` rows of the message. -/
def Pain001Message.payments (message : Pain001Message readings)
    (kept : Multiset PaymentTransaction) : Multiset PaymentTransaction :=
  kept.filter fun payment =>
    payment.sourceSystem = .icmnVpm ∧ payment.messageId = message.row.messageId

theorem content_of_carries (carries : event.Carries message)
    (isStored : event.pain001 readings = some stored) : stored.content = message.row := by
  obtain ⟨-, eventId, carried⟩ := carries
  unfold RawEvent.pain001 at isStored
  split at isStored
  next =>
    obtain ⟨data, isData, rfl⟩ := Option.map_eq_some_iff.mp isStored
    exact message.row_eq (carried.symm.trans isData)
  next => cases isStored

theorem pain001_of_carries (carries : event.Carries message) :
    event.pain001 readings = some ⟨message.row, event.delivery⟩ := by
  obtain ⟨isTopic, eventId, carried⟩ := carries
  obtain ⟨data, isData⟩ := message.exists_parsed eventId
  rw [RawEvent.pain001, if_pos isTopic, carried, isData, Option.map_some, message.row_eq isData]

theorem exists_event {raw : Raw message} {bronze : Bronze} {payment : PaymentTransaction}
    (identified : payment ∈ (raw.bronze bronze).identifiedTransactions)
    (isSource : payment.sourceSystem = .icmnVpm) :
    ∃ event ∈ raw.events, ∃ stored, event.pain001 readings = some stored ∧
      stored.content.transaction.identified = some payment := by
  obtain ⟨transaction, listed, isPayment⟩ := (Multiset.mem_filterMap _ _).mp identified
  have source : transaction.sourceSystem = .icmnVpm := by
    obtain ⟨identifier, -, rfl⟩ := Option.map_eq_some_iff.mp isPayment
    exact isSource
  simp only [Bronze.transactions, Multiset.mem_add, Multiset.mem_map] at listed
  rcases listed with
    ((((⟨content, isContent, rfl⟩ | ⟨_, -, rfl⟩) | ⟨_, -, rfl⟩) | ⟨_, -, rfl⟩) | ⟨_, -, rfl⟩) |
      ⟨_, -, rfl⟩
  · obtain ⟨stored, isStored, rfl⟩ := Multiset.mem_map.mp isContent
    obtain ⟨event, isEvent, same⟩ := (Multiset.mem_filterMap _ _).mp isStored
    exact ⟨event, isEvent, stored, same, isPayment⟩
  all_goals cases source

/-- The message has the payment of its one row, however often it is delivered. -/
theorem payments_eq (raw : Raw message) (bronze : Bronze)
    (silver : Firsts PaymentTransaction.naturalKey PaymentTransaction.recency
      (raw.bronze bronze).identifiedTransactions) :
    message.payments silver.kept =
      (message.row.transaction.identified.toList : Multiset PaymentTransaction) := by
  have distinct : (message.payments silver.kept).Nodup :=
    (Multiset.Nodup.of_map _ silver.isFirsts.unique).filter _
  have single : (message.row.transaction.identified.toList : Multiset PaymentTransaction).Nodup := by
    cases message.row.transaction.identified <;> simp
  refine (Multiset.Nodup.ext distinct single).mpr fun payment => ?_
  rw [Multiset.mem_coe, Option.mem_toList, Pain001Message.payments, Multiset.mem_filter]
  constructor
  · rintro ⟨isKept, isSource, sameMessage⟩
    obtain ⟨event, isEvent, stored, isStored, isPayment⟩ :=
      exists_event (silver.isFirsts.mem payment isKept) isSource
    rcases raw.apart event isEvent with
      carries | apart
    · rw [content_of_carries carries isStored] at isPayment
      exact isPayment
    · obtain ⟨identifier, -, rfl⟩ := Option.map_eq_some_iff.mp isPayment
      exact absurd sameMessage (apart stored isStored).1
  · intro isPayment
    obtain ⟨identifier, isIdentifier, rfl⟩ := Option.map_eq_some_iff.mp isPayment
    obtain ⟨event, isEvent, carries⟩ := raw.carried
    have identified : { message.row.transaction with recordIdentifier := identifier } ∈
        (raw.bronze bronze).identifiedTransactions := by
      refine (Multiset.mem_filterMap _ _).mpr ⟨message.row.transaction, ?_, isPayment⟩
      simp only [Bronze.transactions, Multiset.mem_add, Multiset.mem_map]
      refine Or.inl (Or.inl (Or.inl (Or.inl (Or.inl ⟨message.row, ?_, rfl⟩))))
      refine Multiset.mem_map.mpr ⟨⟨message.row, event.delivery⟩, ?_, rfl⟩
      exact (Multiset.mem_filterMap _ _).mpr ⟨event, isEvent, pain001_of_carries carries⟩
    obtain ⟨first, isKept, sameKey⟩ := silver.isFirsts.covers _ identified
    obtain ⟨sameSource, sameIdentifier⟩ := Prod.mk.inj sameKey
    obtain ⟨other, isOther, stored, isStored, isFirst⟩ :=
      exists_event (silver.isFirsts.mem first isKept) sameSource
    rcases raw.apart other isOther with
      alsoCarries | apart
    · rw [content_of_carries alsoCarries isStored, isPayment] at isFirst
      cases isFirst
      exact ⟨isKept, rfl, rfl⟩
    · obtain ⟨otherIdentifier, isOtherIdentifier, rfl⟩ := Option.map_eq_some_iff.mp isFirst
      have different := (apart stored isStored).2 otherIdentifier isOtherIdentifier
      exact absurd (isIdentifier.trans (congrArg some sameIdentifier.symm)) different

/-- The rows of the message are one for each transfer, with its ids and its amount. -/
def Pain001Message.Reaches (message : Pain001Message readings)
    (kept : Multiset PaymentTransaction) : Prop :=
  (message.payments kept).map (fun payment =>
      (payment.transactionId, payment.endToEndId, payment.amount)) =
    (message.transfers : Multiset (CreditTransfer readings)).map fun transfer =>
      (some transfer.transactionId, some transfer.endToEndId, some transfer.instructedAmount)

variable (raw : Raw message) (bronze : Bronze) (silver : Firsts PaymentTransaction.naturalKey
  PaymentTransaction.recency (raw.bronze bronze).identifiedTransactions)

theorem not_reaches_of_many (many : 1 < message.transfers.length) :
    ¬ message.Reaches silver.kept := by
  intro reaches
  have cards := congrArg Multiset.card reaches
  rw [Multiset.card_map, Multiset.card_map, payments_eq, Multiset.coe_card, Multiset.coe_card]
    at cards
  have few : message.row.transaction.identified.toList.length ≤ 1 := by
    cases message.row.transaction.identified <;> simp
  omega

theorem reaches_of_single_iff {transfer : CreditTransfer readings}
    (single : message.transfers = [transfer]) :
    message.Reaches silver.kept ↔ transfer.endToEndId ≠ "" := by
  obtain ⟨isTransaction, isEndToEnd⟩ := message.row_of_single single
  have isAmount := message.row_instructedAmount single
  have identified : message.row.transaction.identified =
      some { message.row.transaction with recordIdentifier := transfer.transactionId } := by
    simp [Transaction.identified, Transaction.recordIdentifier, coalesce, Pain001.transaction,
      isTransaction]
  rw [Pain001Message.Reaches, payments_eq, identified, single]
  simp only [Option.toList_some, Multiset.coe_singleton, Multiset.map_singleton,
    Multiset.singleton_inj, Pain001.transaction, isTransaction, isEndToEnd, isAmount,
    Prod.mk.injEq, true_and, and_true, Option.some.injEq]
  by_cases blank : transfer.endToEndId = ""
  · simp [blank]
  · simp [blank]

/-- The transfers of a message reach Silver exactly if it has a single one, and its end-to-end id is
not blank. -/
theorem reaches_iff : message.Reaches silver.kept ↔
    message.transfers.length = 1 ∧ ∀ transfer ∈ message.transfers, transfer.endToEndId ≠ "" := by
  rcases Nat.lt_or_ge 1 message.transfers.length with
    many | few
  · exact iff_of_false (not_reaches_of_many raw bronze silver many) fun single => by omega
  · have one : message.transfers.length = 1 :=
      Nat.le_antisymm few (List.length_pos_iff.mpr message.nonempty)
    obtain ⟨transfer, single⟩ := List.length_eq_one_iff.mp one
    rw [reaches_of_single_iff raw bronze silver single, single]
    simp

end Silver

/-! ## Two transfers -/

section TwoTransfers

/-- Reads the amounts of the example. -/
def plainReadings : Readings where
  float text :=
    if text = "1000" then some (.finite 1000 0) else if text = "500" then some (.finite 500 0)
    else none
  timestamp _ := none
  double _ := none
  jsonText _ := "\x7b\x7d"
  jsonText_empty := rfl

def leaf (name text : String) : Element := .node pain001Namespace name [] text []

def branch (name : String) (children : List Element) : Element :=
  .node pain001Namespace name [] "" children

def identificationOf (transactionId endToEndId : String) : Element :=
  branch "PmtId" [leaf "EndToEndId" endToEndId, leaf "TxId" transactionId]

def amountElement (amount : String) : Element :=
  .node pain001Namespace "InstdAmt" [("Ccy", "UGX")] amount []

def transferElement (transactionId endToEndId amount : String) : Element :=
  branch "CdtTrfTxInf" [identificationOf transactionId endToEndId,
    branch "Amt" [amountElement amount]]

def firstTransfer : CreditTransfer plainReadings where
  element := transferElement "T1" "E1" "1000"
  identification := identificationOf "T1" "E1"
  amount := amountElement "1000"
  transactionId := "T1"
  endToEndId := "E1"
  instructedAmount := 1000
  identified := by rfl
  hasTransactionId := by decide +kernel
  filled := by decide
  hasEndToEndId := by decide +kernel
  hasAmount := by rfl
  written := by decide
  reads := by decide +kernel

def secondTransfer : CreditTransfer plainReadings where
  element := transferElement "T2" "E2" "500"
  identification := identificationOf "T2" "E2"
  amount := amountElement "500"
  transactionId := "T2"
  endToEndId := "E2"
  instructedAmount := 500
  identified := by rfl
  hasTransactionId := by decide +kernel
  filled := by decide
  hasEndToEndId := by decide +kernel
  hasAmount := by rfl
  written := by decide
  reads := by decide +kernel

def paymentInformationOfTwo : Element :=
  branch "PmtInf" [firstTransfer.element, secondTransfer.element]

def initiationOfTwo : Element :=
  branch "CstmrCdtTrfInitn" [branch "GrpHdr" [leaf "MsgId" "M1"], paymentInformationOfTwo]

def twoTransfers : Pain001Message plainReadings where
  root := branch "Document" [initiationOfTwo]
  initiation := initiationOfTwo
  paymentInformation := paymentInformationOfTwo
  transfers := [firstTransfer, secondTransfer]
  isDocument := rfl
  initiated := by rfl
  informed := by rfl
  transferred := by rfl
  amounts := by rfl
  nonempty := List.cons_ne_nil _ _
  distinct := by decide

/-- The event of the message, delivered once. -/
def twoTransfersRaw : Raw twoTransfers where
  events := {⟨parseEvent plainReadings "e1" twoTransfers.root, ⟨"e1", "icmn.vpm.pain001", 0, 0, none⟩⟩}
  carried := ⟨_, Multiset.mem_singleton_self _, rfl, "e1", rfl⟩
  apart event listed := by
    rw [Multiset.mem_singleton.mp listed]
    exact Or.inl ⟨rfl, "e1", rfl⟩

/-- Both transfers of the message are lost. -/
theorem not_all_reach :
    ¬ ∀ (readings : Readings) (message : Pain001Message readings) (raw : Raw message)
      (bronze : Bronze) (silver : Firsts PaymentTransaction.naturalKey PaymentTransaction.recency
        (raw.bronze bronze).identifiedTransactions), message.Reaches silver.kept := by
  intro all
  obtain ⟨silver⟩ : Nonempty (Firsts PaymentTransaction.naturalKey PaymentTransaction.recency
    (twoTransfersRaw.bronze {}).identifiedTransactions) := inferInstance
  exact not_reaches_of_many _ _ silver (by decide) (all _ twoTransfers twoTransfersRaw {} silver)

end TwoTransfers

end PaymentsPlatform.Warehouse
