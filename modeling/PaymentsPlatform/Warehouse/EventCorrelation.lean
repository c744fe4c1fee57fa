import PaymentsPlatform.Warehouse.Silver

/-!
# Correlating technical events with payments

`slv_pdm_payment_event_correlation` links an event to a payment that has one of its identifiers.
The candidates of all events with one event id are ranked together, by an order in which payments
of one message tie.
-/

namespace PaymentsPlatform.Warehouse

open Bag Calendar

/-! ## Technical events -/

inductive TechnicalSource where
  | icmnPmn
  | cpoPlm
  deriving DecidableEq

/-- The columns of the two event tables that are read. -/
structure LifecycleEvent where
  eventId : Option String
  eventType : Option String
  correlationId : Option String
  instructionId : Option String
  endToEndId : Option String
  transactionId : Option String
  uetr : Option String
  businessReference : Option String
  technicalStatus : Option String
  eventTimestamp : Option Timestamp
  deriving DecidableEq

structure TechnicalEvent extends LifecycleEvent where
  technicalSource : TechnicalSource
  deriving DecidableEq

/-- `technical`, of the two event tables. -/
def technicalEvents (pmnEvents plmEvents : Multiset LifecycleEvent) : Multiset TechnicalEvent :=
  pmnEvents.map (fun event => ⟨event, .icmnPmn⟩) + plmEvents.map fun event => ⟨event, .cpoPlm⟩

/-! ## Candidates -/

inductive CorrelationMethod where
  | uetr
  | transactionId
  | endToEndId
  | instructionId
  deriving DecidableEq

def CorrelationMethod.matchPriority : CorrelationMethod → Nat
  | uetr => 1
  | transactionId => 2
  | endToEndId => 3
  | instructionId => 4

def TechnicalEvent.identifier (event : TechnicalEvent) : CorrelationMethod → Option String
  | .uetr => event.uetr
  | .transactionId => event.transactionId
  | .endToEndId => event.endToEndId
  | .instructionId => event.instructionId

def PaymentTransaction.identifier (payment : PaymentTransaction) : CorrelationMethod → Option String
  | .uetr => payment.uetr
  | .transactionId => payment.transactionId
  | .endToEndId => payment.endToEndId
  | .instructionId => payment.instructionId

/-- `case business_source_system`. -/
def PaymentSource.rank : PaymentSource → Nat
  | icmnVpm => 1
  | wendiPain001 => 2
  | mtnPacs008 => 3
  | airtelPacs008 => 4
  | _ => 5

structure EventCandidate where
  technicalEventId : Option String
  businessSourceSystem : PaymentSource
  businessMessageId : Option String
  businessTransactionId : Option String
  correlationMethod : CorrelationMethod
  deriving DecidableEq

/-- `order by` the priority, the source and the message, ascending. -/
def EventCandidate.precedence (candidate : EventCandidate) :
    Natᵒᵈ ×ₗ Natᵒᵈ ×ₗ (WithTop String)ᵒᵈ :=
  toLex (OrderDual.toDual candidate.correlationMethod.matchPriority,
    toLex (OrderDual.toDual candidate.businessSourceSystem.rank,
      OrderDual.toDual (candidate.businessMessageId : WithTop String)))

def eventCandidate (method : CorrelationMethod) (event : TechnicalEvent)
    (payment : PaymentTransaction) : EventCandidate where
  technicalEventId := event.eventId
  businessSourceSystem := payment.sourceSystem
  businessMessageId := payment.messageId
  businessTransactionId := payment.transactionId
  correlationMethod := method

/-- The join of one method, as the four are alike. -/
def candidatesBy (method : CorrelationMethod) (technical : Multiset TechnicalEvent)
    (payments : Multiset PaymentTransaction) : Multiset EventCandidate :=
  (innerJoin technical payments fun event payment =>
    Truth.and (some (event.identifier method).isSome)
      (equals (event.identifier method) (payment.identifier method))).map
        fun (event, payment) => eventCandidate method event payment

def eventCandidates (technical : Multiset TechnicalEvent)
    (payments : Multiset PaymentTransaction) : Multiset EventCandidate :=
  candidatesBy .uetr technical payments + candidatesBy .transactionId technical payments +
    candidatesBy .endToEndId technical payments + candidatesBy .instructionId technical payments

/-- `ranked`, where `match_rank = 1`. -/
abbrev RankedCandidates (technical : Multiset TechnicalEvent)
    (payments : Multiset PaymentTransaction) : Type :=
  Firsts EventCandidate.technicalEventId EventCandidate.precedence
    (eventCandidates technical payments)

/-! ## slv_pdm_payment_event_correlation -/

inductive MatchStatus where
  | matched
  | unmatched
  deriving DecidableEq

/-- A technical event, and the payment that it is linked to. -/
structure EventCorrelation where
  event : TechnicalEvent
  businessSourceSystem : Option PaymentSource
  businessMessageId : Option String
  businessTransactionId : Option String
  correlationMethod : Option CorrelationMethod
  matchStatus : MatchStatus
  deriving DecidableEq

def eventCorrelation (event : TechnicalEvent) (candidate : Option EventCandidate) :
    EventCorrelation where
  event := event
  businessSourceSystem := candidate.map EventCandidate.businessSourceSystem
  businessMessageId := candidate.bind EventCandidate.businessMessageId
  businessTransactionId := candidate.bind EventCandidate.businessTransactionId
  correlationMethod := candidate.map EventCandidate.correlationMethod
  matchStatus :=
    if (candidate.bind EventCandidate.technicalEventId).isNone then .unmatched else .matched

def slvPdmPaymentEventCorrelation (technical : Multiset TechnicalEvent)
    {payments : Multiset PaymentTransaction} (ranked : RankedCandidates technical payments) :
    Multiset EventCorrelation :=
  (leftJoin technical ranked.kept fun event candidate =>
    equals event.eventId candidate.technicalEventId).map
      fun (event, candidate) => eventCorrelation event candidate

/-! ## What the correlation promises -/

/-- The event and the payment have the same identifier. -/
def TechnicalEvent.Shares (event : TechnicalEvent) (method : CorrelationMethod)
    (payment : PaymentTransaction) : Prop :=
  (equals (event.identifier method) (payment.identifier method)).holds

/-- The row is about a payment with the identifier that it names, and no payment has one of the
identifiers before it. -/
structure EventCorrelation.IsLinked (row : EventCorrelation)
    (payments : Multiset PaymentTransaction) : Prop where
  payment : ∃ payment ∈ payments, ∃ method, row.event.Shares method payment ∧
    row.correlationMethod = some method ∧ row.businessSourceSystem = some payment.sourceSystem ∧
    row.businessMessageId = payment.messageId ∧ row.businessTransactionId = payment.transactionId
  foremost : ∀ method, row.correlationMethod = some method → ∀ before,
    before.matchPriority < method.matchPriority → ∀ payment ∈ payments,
      ¬ row.event.Shares before payment

/-- Every event is there once, with a link if and only if it has one, whichever candidates the
window keeps among those that tie. -/
structure CorrelatesFaithfully (technical : Multiset TechnicalEvent)
    (payments : Multiset PaymentTransaction) : Prop where
  complete : ∀ ranked : RankedCandidates technical payments,
    (slvPdmPaymentEventCorrelation technical ranked).map EventCorrelation.event = technical
  unmatched : ∀ ranked : RankedCandidates technical payments,
    ∀ row ∈ slvPdmPaymentEventCorrelation technical ranked, row.matchStatus = .unmatched ↔
      ∀ method, ∀ payment ∈ payments, ¬ row.event.Shares method payment
  linked : ∀ ranked : RankedCandidates technical payments,
    ∀ row ∈ slvPdmPaymentEventCorrelation technical ranked, row.matchStatus = .matched →
      row.IsLinked payments
  deterministic : ∀ ranked ranked' : RankedCandidates technical payments,
    slvPdmPaymentEventCorrelation technical ranked =
      slvPdmPaymentEventCorrelation technical ranked'

/-- The event and the payment share an identifier, and no event with the same event id shares one
with a payment that is ranked before. -/
structure IsForemostLink (technical : Multiset TechnicalEvent)
    (payments : Multiset PaymentTransaction) (method : CorrelationMethod) (event : TechnicalEvent)
    (payment : PaymentTransaction) : Prop where
  mem_technical : event ∈ technical
  mem_payments : payment ∈ payments
  shares : event.Shares method payment
  first : ∀ other ∈ technical, other.eventId = event.eventId → ∀ method', ∀ payment' ∈ payments,
    other.Shares method' payment' →
      (eventCandidate method' other payment').precedence ≤
        (eventCandidate method event payment).precedence

/-- Events that share an identifier with a payment have an event id, and for each event id the
foremost links show one payment, to which every event with this id is linked in this way. -/
structure Unambiguous (technical : Multiset TechnicalEvent)
    (payments : Multiset PaymentTransaction) : Prop where
  named : ∀ event ∈ technical, ∀ method, ∀ payment ∈ payments,
    event.Shares method payment → event.eventId.isSome
  single : ∀ method event payment method' event' payment',
    IsForemostLink technical payments method event payment →
      IsForemostLink technical payments method' event' payment' → event.eventId = event'.eventId →
        eventCandidate method event payment = eventCandidate method' event' payment'
  common : ∀ event ∈ technical, ∀ method event' payment',
    IsForemostLink technical payments method event' payment' → event'.eventId = event.eventId →
      ∃ payment ∈ payments, event.Shares method payment ∧
        eventCandidate method event payment = eventCandidate method event' payment'

/-! ## Candidates and rows -/

section

variable {technical : Multiset TechnicalEvent} {payments : Multiset PaymentTransaction}

theorem mem_candidatesBy {method : CorrelationMethod} {candidate : EventCandidate} :
    candidate ∈ candidatesBy method technical payments ↔
      ∃ event ∈ technical, ∃ payment ∈ payments, event.Shares method payment ∧
        candidate = eventCandidate method event payment := by
  have shares (event : TechnicalEvent) (payment : PaymentTransaction) :
      (Truth.and (some (event.identifier method).isSome)
        (equals (event.identifier method) (payment.identifier method))).holds ↔
        event.Shares method payment := by
    rw [Truth.holds_and, Truth.holds_some, Bool.and_eq_true, TechnicalEvent.Shares, holds_equals]
    constructor
    · exact fun both => both.2
    · intro same
      obtain ⟨value, known, -⟩ := id same
      exact ⟨known ▸ rfl, same⟩
  simp only [candidatesBy, Multiset.mem_map, Prod.exists, mem_innerJoin, shares]
  constructor
  · rintro ⟨event, payment, ⟨inTechnical, inPayments, same⟩, isCandidate⟩
    exact ⟨event, inTechnical, payment, inPayments, same, isCandidate.symm⟩
  · rintro ⟨event, inTechnical, payment, inPayments, same, isCandidate⟩
    exact ⟨event, payment, ⟨inTechnical, inPayments, same⟩, isCandidate.symm⟩

theorem mem_eventCandidates {candidate : EventCandidate} :
    candidate ∈ eventCandidates technical payments ↔
      ∃ event ∈ technical, ∃ payment ∈ payments, event.Shares candidate.correlationMethod payment ∧
        candidate = eventCandidate candidate.correlationMethod event payment := by
  have joined : candidate ∈ eventCandidates technical payments ↔
      ∃ method, candidate ∈ candidatesBy method technical payments := by
    simp only [eventCandidates, Multiset.mem_add]
    constructor
    · intro member
      rcases member with ((byUetr | byTransaction) | byEndToEnd) | byInstruction
      · exact ⟨_, byUetr⟩
      · exact ⟨_, byTransaction⟩
      · exact ⟨_, byEndToEnd⟩
      · exact ⟨_, byInstruction⟩
    · intro ⟨method, member⟩
      cases method with
      | uetr => exact .inl (.inl (.inl member))
      | transactionId => exact .inl (.inl (.inr member))
      | endToEndId => exact .inl (.inr member)
      | instructionId => exact .inr member
  rw [joined]
  constructor
  · intro ⟨method, member⟩
    obtain ⟨event, inTechnical, payment, inPayments, shares, rfl⟩ := mem_candidatesBy.mp member
    exact ⟨event, inTechnical, payment, inPayments, shares, rfl⟩
  · intro found
    exact ⟨_, mem_candidatesBy.mpr found⟩

theorem TechnicalEvent.Shares.mem_eventCandidates {event : TechnicalEvent}
    {method : CorrelationMethod} {payment : PaymentTransaction}
    (shares : event.Shares method payment) (inTechnical : event ∈ technical)
    (inPayments : payment ∈ payments) :
    eventCandidate method event payment ∈ eventCandidates technical payments :=
  Warehouse.mem_eventCandidates.mpr ⟨event, inTechnical, payment, inPayments, shares, rfl⟩

/-- A candidate that no other one of its event id is ranked before. -/
abbrev IsForemostCandidate (technical : Multiset TechnicalEvent)
    (payments : Multiset PaymentTransaction) : EventCandidate → Prop :=
  IsForemost EventCandidate.technicalEventId EventCandidate.precedence
    (eventCandidates technical payments)

theorem isForemostCandidate_iff {candidate : EventCandidate} :
    IsForemostCandidate technical payments candidate ↔ ∃ method event payment,
      IsForemostLink technical payments method event payment ∧
        candidate = eventCandidate method event payment := by
  constructor
  · intro foremost
    obtain ⟨event, inTechnical, payment, inPayments, shares, isCandidate⟩ :=
      mem_eventCandidates.mp foremost.mem
    refine ⟨_, event, payment, ⟨inTechnical, inPayments, shares, ?_⟩, isCandidate⟩
    intro other alsoTechnical ofEvent method' payment' alsoPayments alsoShares
    rw [← isCandidate]
    refine foremost.first _ (alsoShares.mem_eventCandidates alsoTechnical alsoPayments) ?_
    exact isCandidate ▸ ofEvent
  · intro ⟨method, event, payment, link, isCandidate⟩
    rw [isCandidate]
    refine ⟨link.shares.mem_eventCandidates link.mem_technical link.mem_payments, ?_⟩
    intro candidate' member ofEvent
    obtain ⟨other, alsoTechnical, payment', alsoPayments, alsoShares, isOther⟩ :=
      mem_eventCandidates.mp member
    rw [isOther] at ofEvent ⊢
    exact link.first other alsoTechnical ofEvent _ payment' alsoPayments alsoShares

theorem EventCandidate.precedence_lt {candidate other : EventCandidate}
    (before : other.correlationMethod.matchPriority < candidate.correlationMethod.matchPriority) :
    candidate.precedence < other.precedence :=
  Prod.Lex.toLex_lt_toLex.mpr (.inl (OrderDual.toDual_lt_toDual.mpr before))

theorem eventCorrelation_injective {event : TechnicalEvent} {candidate candidate' : EventCandidate}
    (named : candidate.technicalEventId = candidate'.technicalEventId)
    (same : eventCorrelation event (some candidate) = eventCorrelation event (some candidate')) :
    candidate = candidate' := by
  cases candidate
  cases candidate'
  simp only [eventCorrelation, EventCorrelation.mk.injEq, Option.map_some, Option.bind_some,
    Option.some.injEq] at same named
  simp only [EventCandidate.mk.injEq]
  exact ⟨named, same.2.1, same.2.2.1, same.2.2.2.1, same.2.2.2.2.1⟩

theorem card_partners_kept_le_one (ranked : RankedCandidates technical payments)
    (event : TechnicalEvent) :
    (partners ranked.kept fun candidate =>
      equals event.eventId candidate.technicalEventId).card ≤ 1 :=
  card_partners_equals_le_one (isKey_of_nodup_map EventCandidate.technicalEventId some
    (fun _ _ _ named => named) ranked.isFirsts.unique) _

theorem map_event_correlation (ranked : RankedCandidates technical payments) :
    (slvPdmPaymentEventCorrelation technical ranked).map EventCorrelation.event = technical := by
  rw [slvPdmPaymentEventCorrelation, Multiset.map_map]
  exact map_fst_leftJoin_of_le_one fun event _ => card_partners_kept_le_one ranked event

theorem eventCorrelation_cases {ranked : RankedCandidates technical payments}
    {row : EventCorrelation} (member : row ∈ slvPdmPaymentEventCorrelation technical ranked) :
    row.event ∈ technical ∧
      ((∃ candidate ∈ ranked.kept, (equals row.event.eventId candidate.technicalEventId).holds ∧
          row = eventCorrelation row.event (some candidate)) ∨
        (row = eventCorrelation row.event none ∧
          ∀ candidate ∈ ranked.kept,
            ¬ (equals row.event.eventId candidate.technicalEventId).holds)) := by
  obtain ⟨⟨event, partner⟩, joined, rfl⟩ := Multiset.mem_map.mp member
  obtain ⟨inTechnical, inPadded⟩ := mem_leftJoin.mp joined
  refine ⟨inTechnical, ?_⟩
  rcases mem_padded inPadded with ⟨rfl, alone⟩ | ⟨candidate, isPartner, rfl⟩
  · refine .inr ⟨rfl, fun candidate inKept holds => ?_⟩
    exact Multiset.notMem_zero candidate (alone ▸ mem_partners.mpr ⟨inKept, holds⟩)
  · obtain ⟨inKept, holds⟩ := mem_partners.mp isPartner
    exact .inl ⟨candidate, inKept, holds, rfl⟩

theorem mem_correlation_of_kept {ranked : RankedCandidates technical payments}
    {event : TechnicalEvent} {candidate : EventCandidate} (inTechnical : event ∈ technical)
    (inKept : candidate ∈ ranked.kept)
    (named : (equals event.eventId candidate.technicalEventId).holds) :
    eventCorrelation event (some candidate) ∈ slvPdmPaymentEventCorrelation technical ranked :=
  Multiset.mem_map.mpr ⟨(event, some candidate), some_mem_leftJoin inTechnical inKept named, rfl⟩

theorem matchStatus_eq_matched {event : TechnicalEvent} {candidate : EventCandidate}
    (named : (equals event.eventId candidate.technicalEventId).holds) :
    (eventCorrelation event (some candidate)).matchStatus = .matched := by
  obtain ⟨value, -, known⟩ := holds_equals.mp named
  simp [eventCorrelation, known]

end

/-! ## When the promises hold -/

namespace CorrelatesFaithfully

variable {technical : Multiset TechnicalEvent} {payments : Multiset PaymentTransaction}
  (faithful : CorrelatesFaithfully technical payments)

include faithful

theorem named {event : TechnicalEvent} (inTechnical : event ∈ technical)
    {method : CorrelationMethod} {payment : PaymentTransaction} (inPayments : payment ∈ payments)
    (shares : event.Shares method payment) : event.eventId.isSome := by
  obtain ⟨ranked⟩ : Nonempty (RankedCandidates technical payments) := inferInstance
  have shown := map_event_correlation ranked ▸ inTechnical
  obtain ⟨row, member, rfl⟩ := Multiset.mem_map.mp shown
  rcases (eventCorrelation_cases member).2 with ⟨candidate, -, holds, -⟩ | ⟨isUnmatched, -⟩
  · obtain ⟨value, known, -⟩ := holds_equals.mp holds
    exact known ▸ rfl
  · have unmatched := (faithful.unmatched ranked row member).mp (isUnmatched ▸ rfl)
    exact absurd shares (unmatched method payment inPayments)

theorem exists_mem_correlation {event : TechnicalEvent} (inTechnical : event ∈ technical)
    {candidate : EventCandidate} (foremost : IsForemostCandidate technical payments candidate)
    (ofEvent : candidate.technicalEventId = event.eventId) :
    (equals event.eventId candidate.technicalEventId).holds ∧
      ∃ ranked : RankedCandidates technical payments, candidate ∈ ranked.kept ∧
        eventCorrelation event (some candidate) ∈ slvPdmPaymentEventCorrelation technical ranked := by
  obtain ⟨source, alsoTechnical, payment, inPayments, shares, isCandidate⟩ :=
    mem_eventCandidates.mp foremost.mem
  obtain ⟨value, known⟩ := Option.isSome_iff_exists.mp (faithful.named alsoTechnical inPayments shares)
  have ofCandidate : candidate.technicalEventId = some value := isCandidate ▸ known
  have holds := holds_equals.mpr ⟨value, ofEvent.symm.trans ofCandidate, ofCandidate⟩
  obtain ⟨kept, isFirsts, inKept⟩ := foremost.exists_isFirsts
  exact ⟨holds, ⟨kept, isFirsts⟩, inKept, mem_correlation_of_kept inTechnical inKept holds⟩

theorem single {candidate candidate' : EventCandidate}
    (foremost : IsForemostCandidate technical payments candidate)
    (foremost' : IsForemostCandidate technical payments candidate')
    (same : candidate.technicalEventId = candidate'.technicalEventId) : candidate = candidate' := by
  obtain ⟨event, inTechnical, payment, inPayments, shares, isCandidate⟩ :=
    mem_eventCandidates.mp foremost.mem
  have ofEvent : candidate.technicalEventId = event.eventId := isCandidate ▸ rfl
  obtain ⟨-, ranked, -, shown⟩ := faithful.exists_mem_correlation inTechnical foremost ofEvent
  obtain ⟨-, ranked', inKept', -⟩ :=
    faithful.exists_mem_correlation inTechnical foremost' (same.symm.trans ofEvent)
  rw [faithful.deterministic ranked ranked'] at shown
  have isEvent : (eventCorrelation event (some candidate)).event = event := rfl
  rcases (eventCorrelation_cases shown).2 with ⟨other, alsoKept, holds, isRow⟩ | ⟨isUnmatched, -⟩
  · rw [isEvent] at holds isRow
    obtain ⟨value, known, alsoKnown⟩ := holds_equals.mp holds
    have isOther : other = candidate' := by
      refine ranked'.isFirsts.eq_of_name_eq alsoKept inKept' ?_
      rw [alsoKnown, ← same, ofEvent, known]
    rw [isOther] at isRow
    exact eventCorrelation_injective same isRow
  · have noMethod := congrArg EventCorrelation.correlationMethod isUnmatched
    cases noMethod

theorem common {event : TechnicalEvent} (inTechnical : event ∈ technical)
    {candidate : EventCandidate} (foremost : IsForemostCandidate technical payments candidate)
    (ofEvent : candidate.technicalEventId = event.eventId) :
    ∃ payment ∈ payments, event.Shares candidate.correlationMethod payment ∧
      candidate = eventCandidate candidate.correlationMethod event payment := by
  obtain ⟨holds, ranked, -, shown⟩ := faithful.exists_mem_correlation inTechnical foremost ofEvent
  obtain ⟨payment, inPayments, method, shares, isMethod, isSource, isMessage, isTransaction⟩ :=
    (faithful.linked ranked _ shown (matchStatus_eq_matched holds)).payment
  cases candidate
  cases Option.some.inj isMethod
  cases Option.some.inj isSource
  cases isMessage
  cases isTransaction
  cases ofEvent
  exact ⟨payment, inPayments, shares, rfl⟩

end CorrelatesFaithfully

namespace Unambiguous

variable {technical : Multiset TechnicalEvent} {payments : Multiset PaymentTransaction}
  (unambiguous : Unambiguous technical payments)

include unambiguous

theorem candidate_eq {candidate candidate' : EventCandidate}
    (foremost : IsForemostCandidate technical payments candidate)
    (foremost' : IsForemostCandidate technical payments candidate')
    (same : candidate.technicalEventId = candidate'.technicalEventId) : candidate = candidate' := by
  obtain ⟨method, event, payment, link, rfl⟩ := isForemostCandidate_iff.mp foremost
  obtain ⟨method', event', payment', link', rfl⟩ := isForemostCandidate_iff.mp foremost'
  exact unambiguous.single method event payment method' event' payment' link link' same

theorem kept_eq (ranked ranked' : RankedCandidates technical payments) :
    ranked.kept = ranked'.kept :=
  kept_eq_iff.mpr (fun _ _ => unambiguous.candidate_eq) _ _ ranked.isFirsts ranked'.isFirsts

theorem exists_payment {ranked : RankedCandidates technical payments} {event : TechnicalEvent}
    (inTechnical : event ∈ technical) {candidate : EventCandidate}
    (inKept : candidate ∈ ranked.kept)
    (holds : (equals event.eventId candidate.technicalEventId).holds) :
    ∃ payment ∈ payments, event.Shares candidate.correlationMethod payment ∧
      candidate = eventCandidate candidate.correlationMethod event payment := by
  obtain ⟨value, known, alsoKnown⟩ := holds_equals.mp holds
  obtain ⟨method, event', payment', link, rfl⟩ :=
    isForemostCandidate_iff.mp (ranked.isFirsts.isForemost inKept)
  obtain ⟨payment, inPayments, shares, same⟩ := unambiguous.common event inTechnical method event'
    payment' link (alsoKnown.trans known.symm)
  exact ⟨payment, inPayments, shares, same.symm⟩

theorem unmatched {ranked : RankedCandidates technical payments} {row : EventCorrelation}
    (member : row ∈ slvPdmPaymentEventCorrelation technical ranked) :
    row.matchStatus = .unmatched ↔
      ∀ method, ∀ payment ∈ payments, ¬ row.event.Shares method payment := by
  obtain ⟨inTechnical, cases⟩ := eventCorrelation_cases member
  rcases cases with ⟨candidate, inKept, holds, isRow⟩ | ⟨isRow, alone⟩
  · obtain ⟨payment, inPayments, shares, -⟩ :=
      unambiguous.exists_payment inTechnical inKept holds
    rw [isRow, matchStatus_eq_matched holds]
    constructor
    · intro isUnmatched
      cases isUnmatched
    · intro none
      exact absurd shares (none _ payment inPayments)
  · refine ⟨fun _ method payment inPayments shares => ?_, fun _ => isRow ▸ rfl⟩
    obtain ⟨value, known⟩ := Option.isSome_iff_exists.mp
      (unambiguous.named row.event inTechnical method payment inPayments shares)
    obtain ⟨first, inKept, named⟩ := ranked.isFirsts.covers _
      (shares.mem_eventCandidates inTechnical inPayments)
    exact alone first inKept (holds_equals.mpr ⟨value, known, named.trans known⟩)

theorem linked {ranked : RankedCandidates technical payments} {row : EventCorrelation}
    (member : row ∈ slvPdmPaymentEventCorrelation technical ranked)
    (matched : row.matchStatus = .matched) : row.IsLinked payments := by
  obtain ⟨inTechnical, cases⟩ := eventCorrelation_cases member
  rcases cases with ⟨candidate, inKept, holds, isRow⟩ | ⟨isRow, -⟩
  · obtain ⟨payment, inPayments, shares, isCandidate⟩ :=
      unambiguous.exists_payment inTechnical inKept holds
    have isMethod : row.correlationMethod = some candidate.correlationMethod := isRow ▸ rfl
    refine ⟨⟨payment, inPayments, candidate.correlationMethod, shares, isMethod, ?_, ?_, ?_⟩, ?_⟩
    · exact isRow.symm ▸ isCandidate.symm ▸ rfl
    · exact isRow.symm ▸ isCandidate.symm ▸ rfl
    · exact isRow.symm ▸ isCandidate.symm ▸ rfl
    · intro method named before earlier other alsoPayments alsoShares
      cases Option.some.inj (named.symm.trans isMethod)
      -- the candidate of the earlier identifier would have been kept instead
      have ofEvent : row.event.eventId = candidate.technicalEventId := isCandidate ▸ rfl
      have rank := ranked.isFirsts.first candidate inKept _
        (alsoShares.mem_eventCandidates inTechnical alsoPayments) ofEvent
      exact absurd rank (EventCandidate.precedence_lt earlier).not_ge
  · rw [isRow] at matched
    cases matched

end Unambiguous

/-- The correlation keeps its promises exactly when no event id leaves it a choice. -/
theorem correlatesFaithfully_iff (pmnEvents plmEvents : Multiset LifecycleEvent)
    (payments : Multiset PaymentTransaction) :
    CorrelatesFaithfully (technicalEvents pmnEvents plmEvents) payments ↔
      Unambiguous (technicalEvents pmnEvents plmEvents) payments := by
  constructor
  · intro faithful
    refine ⟨fun event inTechnical method payment => faithful.named inTechnical, ?_, ?_⟩
    · intro method event payment method' event' payment' link link' same
      exact faithful.single (isForemostCandidate_iff.mpr ⟨_, _, _, link, rfl⟩)
        (isForemostCandidate_iff.mpr ⟨_, _, _, link', rfl⟩) same
    · intro event inTechnical method event' payment' link same
      obtain ⟨payment, inPayments, shares, shown⟩ := faithful.common inTechnical
        (isForemostCandidate_iff.mpr ⟨_, _, _, link, rfl⟩) same
      exact ⟨payment, inPayments, shares, shown.symm⟩
  · intro unambiguous
    refine ⟨map_event_correlation, fun _ row => unambiguous.unmatched,
      fun _ row => unambiguous.linked, fun ranked ranked' => ?_⟩
    simp only [slvPdmPaymentEventCorrelation, unambiguous.kept_eq ranked ranked']

/-! ## Two transactions of one loan -/

/-- An agent's transaction has no message id. -/
def agentTransaction (transactionId : String) : PaymentTransaction where
  transactionId := some transactionId
  endToEndId := some "LOAN-000001"
  instructionId := none
  uetr := none
  messageId := none
  beneficiaryId := none
  saccoId := none
  agentId := some "AGENT-0001"
  sourceSystem := .agent
  occurredAt := none
  amount := some 100000
  currency := some "UGX"
  transactionStatus := some "COMPLETED"
  recordIdentifier := transactionId

def loanEvent : LifecycleEvent where
  eventId := some "EVENT-0001"
  eventType := some "PAYMENT_INITIATED"
  correlationId := none
  instructionId := none
  endToEndId := some "LOAN-000001"
  transactionId := none
  uetr := none
  businessReference := none
  technicalStatus := none
  eventTimestamp := none

/-- An event of a loan may be linked to either of the loan's transactions. -/
theorem loanEvent_not_correlatesFaithfully :
    ¬ ∀ (pmnEvents plmEvents : Multiset LifecycleEvent) (payments : Multiset PaymentTransaction),
      CorrelatesFaithfully (technicalEvents pmnEvents plmEvents) payments := by
  intro always
  let payments : Multiset PaymentTransaction := {agentTransaction "AT-1", agentTransaction "AT-2"}
  have faithful := always {loanEvent} 0 payments
  have candidates : eventCandidates (technicalEvents {loanEvent} 0) payments =
      {eventCandidate .endToEndId ⟨loanEvent, .icmnPmn⟩ (agentTransaction "AT-1"),
        eventCandidate .endToEndId ⟨loanEvent, .icmnPmn⟩ (agentTransaction "AT-2")} := by
    decide +kernel
  have foremost (candidate : EventCandidate)
      (member : candidate ∈ eventCandidates (technicalEvents {loanEvent} 0) payments) :
      IsForemostCandidate (technicalEvents {loanEvent} 0) payments candidate := by
    refine ⟨member, fun other alsoMember _ => ?_⟩
    rw [candidates] at member alsoMember
    simp only [Multiset.insert_eq_cons, Multiset.mem_cons, Multiset.mem_singleton] at member alsoMember
    rcases member with rfl | rfl <;> rcases alsoMember with rfl | rfl <;> exact le_rfl
  have same := faithful.single
    (foremost (eventCandidate .endToEndId ⟨loanEvent, .icmnPmn⟩ (agentTransaction "AT-1"))
      (by rw [candidates]; decide))
    (foremost (eventCandidate .endToEndId ⟨loanEvent, .icmnPmn⟩ (agentTransaction "AT-2"))
      (by rw [candidates]; decide)) rfl
  exact absurd (congrArg EventCandidate.businessTransactionId same) (by decide)

end PaymentsPlatform.Warehouse
