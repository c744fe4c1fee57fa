import PaymentsPlatform.Warehouse.Matches

/-!
# Reconciling status reports

`slv_pdm_payments_reconciliation` joins a status report with the message and the payments it may be
about, and keeps one of what it finds.  The transactions of the original message are compared by the
name of their source, which the two models spell alike for `ICMN_VPM` alone.
-/

namespace PaymentsPlatform.Warehouse

open Bag Calendar

/-! ## The joins -/

/-- `partition by status_source, message_id`. -/
def PaymentStatus.key (report : PaymentStatus) : StatusSource × Option String :=
  (report.statusSource, report.messageId)

/-- The original message of a report. -/
def originalOn (report : PaymentStatus) (message : PaymentMessage) : Truth :=
  equals report.originalMessageId message.messageId

/-- The payment with the original transaction id of a report. -/
def exactOn (report : PaymentStatus) (payment : PaymentTransaction) : Truth :=
  equals report.originalTransactionId payment.transactionId

/-- The payment of a message, of the same source. -/
def messageOn (message : Option PaymentMessage) (payment : PaymentTransaction) : Truth :=
  (equals (message.map fun message => message.sourceSystem.text)
    (some payment.sourceSystem.text)).and
  (equals (message.bind PaymentMessage.messageId) payment.messageId)

/-- The payment with the end-to-end id of a report, of the source it reports on. -/
def fallbackOn (report : PaymentStatus) (payment : PaymentTransaction) : Truth :=
  (equals report.endToEndId payment.endToEndId).and
  (equals (some payment.sourceSystem) report.statusSource.fallbackSource)

section Contents

variable (reports : Multiset PaymentStatus) (messages : Multiset PaymentMessage)
  (payments : Multiset PaymentTransaction)

/-- `candidates`, of whatever the three tables hold. -/
def reconciliationCandidates : Multiset Candidate :=
  let originals := leftJoin reports messages originalOn
  let exactPayments := leftJoin originals payments fun row => exactOn row.1
  let messagePayments := leftJoin exactPayments payments fun row => messageOn row.1.2
  let fallbackPayments := leftJoin messagePayments payments fun row => fallbackOn row.1.1.1
  fallbackPayments.map fun ((((status, message), exactPayment), messagePayment), fallbackPayment) =>
    ⟨status, message, exactPayment, messagePayment, fallbackPayment⟩

/-- `candidate_rank = 1`. -/
abbrev RankedReports : Type :=
  Firsts Candidate.statusKey Candidate.precedence
    (reconciliationCandidates reports messages payments)

variable {reports messages payments} in
def slvPdmPaymentsReconciliation (ranked : RankedReports reports messages payments) :
    Multiset Reconciliation :=
  ranked.kept.map Candidate.reconciliation

end Contents

/-! ## What the reconciliation promises -/

namespace Reconciliation

variable (row : Reconciliation)

def statusKey : StatusSource × Option String := (row.statusSource, row.statusMessageId)

def IsAbout (payment : PaymentTransaction) : Prop :=
  row.transactionSource = some payment.sourceSystem ∧ row.transactionId = payment.transactionId

end Reconciliation

section Promises

variable (reports : Multiset PaymentStatus) (messages : Multiset PaymentMessage)
  (payments : Multiset PaymentTransaction)

/-- The join that the method names has supplied the transaction of the row.  A message supplies
none. -/
def SuppliedBy (report : PaymentStatus) (row : Reconciliation) : Option MatchMethod → Prop
  | some .transactionId =>
      ∃ payment ∈ payments, (exactOn report payment).holds ∧ row.IsAbout payment
  | some .messageTransaction => ∃ message ∈ messages, (originalOn report message).holds ∧
      ∃ payment ∈ payments, (messageOn (some message) payment).holds ∧ row.IsAbout payment
  | some .endToEndIdAndSource =>
      ∃ payment ∈ payments, (fallbackOn report payment).holds ∧ row.IsAbout payment
  | some .messageId | none => row.transactionSource = none ∧ row.transactionId = none

/-- There is something that the report may be about. -/
def HasCounterpart (report : PaymentStatus) : Prop :=
  (∃ message ∈ messages, (originalOn report message).holds) ∨
    (∃ payment ∈ payments, (exactOn report payment).holds) ∨
    (∃ message ∈ messages, (originalOn report message).holds ∧
      ∃ payment ∈ payments, (messageOn (some message) payment).holds) ∨
    ∃ payment ∈ payments, (fallbackOn report payment).holds

/-- Whichever candidates the window keeps among those that tie. -/
structure ReconcilesFaithfully : Prop where
  complete : ∀ ranked : RankedReports reports messages payments,
    (slvPdmPaymentsReconciliation ranked).map Reconciliation.statusKey =
      (reports.map PaymentStatus.key).dedup
  supplied : ∀ ranked : RankedReports reports messages payments, ∀ report ∈ reports,
    ∀ row ∈ slvPdmPaymentsReconciliation ranked, row.statusKey = report.key →
      SuppliedBy messages payments report row row.matchMethod
  unmatched : ∀ ranked : RankedReports reports messages payments, ∀ report ∈ reports,
    ∀ row ∈ slvPdmPaymentsReconciliation ranked, row.statusKey = report.key →
      (row.reconciliationStatus = .unmatched ↔ ¬ HasCounterpart messages payments report)
  linked : ∀ ranked : RankedReports reports messages payments, ∀ report ∈ reports,
    (∀ payment ∈ payments, ¬ (exactOn report payment).holds) →
      ∀ message ∈ messages, (originalOn report message).holds →
        (∃ payment ∈ payments, (equals message.messageId payment.messageId).holds) →
          ∃ row ∈ slvPdmPaymentsReconciliation ranked, row.statusKey = report.key ∧
            ∃ payment ∈ payments, (equals message.messageId payment.messageId).holds ∧
              row.IsAbout payment
  deterministic : ∀ ranked ranked' : RankedReports reports messages payments,
    slvPdmPaymentsReconciliation ranked = slvPdmPaymentsReconciliation ranked'

/-- Some payment of the original message, of the same source, has a transaction id. -/
def HasMessageTransaction (report : PaymentStatus) : Prop :=
  ∃ message ∈ messages, (originalOn report message).holds ∧
    ∃ payment ∈ payments, (messageOn (some message) payment).holds ∧ payment.transactionId.isSome

/-- What a report is about is told by the tables. -/
structure Reconcilable (report : PaymentStatus) : Prop where
  /-- The payments with the original transaction id are of one source. -/
  exactSource : ∀ payment ∈ payments, (exactOn report payment).holds →
    ∀ payment' ∈ payments, (exactOn report payment').holds →
      payment.sourceSystem = payment'.sourceSystem
  /-- The original messages are of one source, unless the payments of one are what is linked. -/
  messageSource : (∃ payment ∈ payments, (exactOn report payment).holds) ∨
      ¬ HasMessageTransaction messages payments report →
    ∀ message ∈ messages, (originalOn report message).holds →
      ∀ message' ∈ messages, (originalOn report message').holds →
        message.sourceSystem = message'.sourceSystem
  /-- Those payments have one transaction id. -/
  messageTransaction : (∀ payment ∈ payments, ¬ (exactOn report payment).holds) →
    ∀ message ∈ messages, (originalOn report message).holds →
      ∀ payment ∈ payments, (messageOn (some message) payment).holds →
        payment.transactionId.isSome →
          ∀ payment' ∈ payments, (messageOn (some message) payment').holds →
            payment'.transactionId.isSome → payment.transactionId = payment'.transactionId
  /-- Where only the message is found, there is no payment that could have been. -/
  messageAlone : (∀ payment ∈ payments, ¬ (exactOn report payment).holds) →
    ¬ HasMessageTransaction messages payments report →
      ∀ message ∈ messages, (originalOn report message).holds → ∀ payment ∈ payments,
        ¬ (equals message.messageId payment.messageId).holds ∧ ¬ (fallbackOn report payment).holds
  /-- Where only payments with the end-to-end id are found, one has a transaction id. -/
  fallback : (∀ payment ∈ payments, ¬ (exactOn report payment).holds) →
    (∀ message ∈ messages, ¬ (originalOn report message).holds) →
      (∃ payment ∈ payments, (fallbackOn report payment).holds) →
        ∃ payment ∈ payments, (fallbackOn report payment).holds ∧ payment.transactionId.isSome

end Promises

/-! ## Candidates -/

section Candidates

variable {reports : Multiset PaymentStatus} {messages : Multiset PaymentMessage}
  {payments : Multiset PaymentTransaction}

variable (reports messages payments) in
/-- What each of the joins has put beside the report. -/
structure IsCandidate (candidate : Candidate) : Prop where
  status : candidate.status ∈ reports
  message : IsPartner messages (originalOn candidate.status) candidate.message
  exactPayment : IsPartner payments (exactOn candidate.status) candidate.exactPayment
  messagePayment : IsPartner payments (messageOn candidate.message) candidate.messagePayment
  fallbackPayment : IsPartner payments (fallbackOn candidate.status) candidate.fallbackPayment

theorem mem_reconciliationCandidates {candidate : Candidate} :
    candidate ∈ reconciliationCandidates reports messages payments ↔
      IsCandidate reports messages payments candidate := by
  constructor
  · intro member
    obtain ⟨⟨⟨⟨⟨status, message⟩, exactPayment⟩, messagePayment⟩, fallbackPayment⟩, joined, rfl⟩ :=
      Multiset.mem_map.mp member
    obtain ⟨joined, isFallback⟩ := mem_leftJoin.mp joined
    obtain ⟨joined, ofMessage⟩ := mem_leftJoin.mp joined
    obtain ⟨joined, isExact⟩ := mem_leftJoin.mp joined
    obtain ⟨isReport, isOriginal⟩ := mem_leftJoin.mp joined
    exact ⟨isReport, mem_padded_partners.mp isOriginal, mem_padded_partners.mp isExact,
      mem_padded_partners.mp ofMessage, mem_padded_partners.mp isFallback⟩
  · intro isCandidate
    refine Multiset.mem_map.mpr ⟨((((candidate.status, candidate.message), candidate.exactPayment),
      candidate.messagePayment), candidate.fallbackPayment), ?_, rfl⟩
    refine mem_leftJoin.mpr ⟨?_, mem_padded_partners.mpr isCandidate.fallbackPayment⟩
    refine mem_leftJoin.mpr ⟨?_, mem_padded_partners.mpr isCandidate.messagePayment⟩
    refine mem_leftJoin.mpr ⟨?_, mem_padded_partners.mpr isCandidate.exactPayment⟩
    exact mem_leftJoin.mpr ⟨isCandidate.status, mem_padded_partners.mpr isCandidate.message⟩

theorem exists_isCandidate {report : PaymentStatus} (isReport : report ∈ reports) :
    ∃ candidate, IsCandidate reports messages payments candidate ∧ candidate.status = report := by
  obtain ⟨message, isOriginal⟩ := exists_isPartner messages (originalOn report)
  obtain ⟨exactPayment, isExact⟩ := exists_isPartner payments (exactOn report)
  obtain ⟨messagePayment, ofMessage⟩ := exists_isPartner payments (messageOn message)
  obtain ⟨fallbackPayment, isFallback⟩ := exists_isPartner payments (fallbackOn report)
  exact ⟨⟨report, message, exactPayment, messagePayment, fallbackPayment⟩,
    ⟨isReport, isOriginal, isExact, ofMessage, isFallback⟩, rfl⟩

theorem transactionId_of_exactOn {report : PaymentStatus} {payment : PaymentTransaction}
    (holds : (exactOn report payment).holds) :
    payment.transactionId.isSome ∧ payment.transactionId = report.originalTransactionId := by
  obtain ⟨value, known, alsoKnown⟩ := holds_equals.mp holds
  exact ⟨alsoKnown ▸ rfl, alsoKnown.trans known.symm⟩

theorem messageId_of_originalOn {report : PaymentStatus} {message : PaymentMessage}
    (holds : (originalOn report message).holds) :
    message.messageId.isSome ∧ message.messageId = report.originalMessageId := by
  obtain ⟨value, known, alsoKnown⟩ := holds_equals.mp holds
  exact ⟨alsoKnown ▸ rfl, alsoKnown.trans known.symm⟩

theorem messageOn_some_iff {message : PaymentMessage} {payment : PaymentTransaction} :
    (messageOn (some message) payment).holds ↔ message.sourceSystem = .icmnVpm ∧
      payment.sourceSystem = .icmnVpm ∧ (equals message.messageId payment.messageId).holds := by
  have alike : message.sourceSystem.text = payment.sourceSystem.text ↔
      message.sourceSystem = .icmnVpm ∧ payment.sourceSystem = .icmnVpm := by
    cases message.sourceSystem <;> cases payment.sourceSystem <;> decide
  rw [messageOn, Truth.holds_and, Bool.and_eq_true, holds_equals, Option.map_some, Option.bind_some]
  constructor
  · rintro ⟨⟨value, known, alsoKnown⟩, same⟩
    obtain ⟨ofMessage, ofPayment⟩ :=
      alike.mp (Option.some.inj (known.trans alsoKnown.symm))
    exact ⟨ofMessage, ofPayment, same⟩
  · rintro ⟨ofMessage, ofPayment, same⟩
    exact ⟨⟨_, rfl, congrArg some (alike.mpr ⟨ofMessage, ofPayment⟩).symm⟩, same⟩

theorem not_messageOn_none (payment : PaymentTransaction) : ¬ (messageOn none payment).holds := by
  rw [messageOn, Truth.holds_and, Bool.and_eq_true, holds_equals]
  rintro ⟨⟨value, known, -⟩, -⟩
  cases known

theorem sourceSystem_of_fallbackOn {report : PaymentStatus} {payment : PaymentTransaction}
    (holds : (fallbackOn report payment).holds) :
    some payment.sourceSystem = report.statusSource.fallbackSource := by
  rw [fallbackOn, Truth.holds_and, Bool.and_eq_true] at holds
  obtain ⟨value, known, alsoKnown⟩ := holds_equals.mp holds.2
  exact known.trans alsoKnown.symm

namespace IsCandidate

variable {candidate : Candidate} (isCandidate : IsCandidate reports messages payments candidate)

include isCandidate

theorem exactTransaction_isSome_iff : candidate.exactTransaction.isSome ↔
    ∃ payment ∈ payments, (exactOn candidate.status payment).holds := by
  rw [← isCandidate.exactPayment.isSome_iff, Candidate.exactTransaction]
  have isPartner := isCandidate.exactPayment
  cases found : candidate.exactPayment with
  | none => rfl
  | some payment =>
      rw [found] at isPartner
      exact iff_of_true (transactionId_of_exactOn isPartner.2).1 rfl

theorem paymentMessage_isSome_iff : candidate.paymentMessage.isSome ↔
    ∃ message ∈ messages, (originalOn candidate.status message).holds := by
  rw [← isCandidate.message.isSome_iff, Candidate.paymentMessage]
  have isPartner := isCandidate.message
  cases found : candidate.message with
  | none => rfl
  | some message =>
      rw [found] at isPartner
      exact iff_of_true (messageId_of_originalOn isPartner.2).1 rfl

theorem paymentMessage_of_message {message : PaymentMessage}
    (original : candidate.message = some message) : candidate.paymentMessage.isSome := by
  have isMessage := isCandidate.message
  rw [original] at isMessage
  rw [Candidate.paymentMessage, original]
  exact (messageId_of_originalOn isMessage.2).1

theorem paymentMessage_eq (found : candidate.paymentMessage.isSome) :
    candidate.paymentMessage = candidate.status.originalMessageId := by
  have isMessage := isCandidate.message
  unfold Candidate.paymentMessage at found ⊢
  cases original : candidate.message with
  | none =>
      rw [original] at found
      cases found
  | some message =>
      rw [original] at isMessage
      exact (messageId_of_originalOn isMessage.2).2

theorem map_sourceSystem_eq {candidate' : Candidate}
    (isCandidate' : IsCandidate reports messages payments candidate')
    (sameReport : candidate.status = candidate'.status)
    (alike : ∀ message ∈ messages, (originalOn candidate.status message).holds →
      ∀ message' ∈ messages, (originalOn candidate.status message').holds →
        message.sourceSystem = message'.sourceSystem) :
    (candidate.message.map fun message => message.sourceSystem) =
      candidate'.message.map fun message => message.sourceSystem := by
  have isMessage := isCandidate.message
  have isMessage' := isCandidate'.message
  rw [← sameReport] at isMessage'
  cases original : candidate.message with
  | none =>
      cases original' : candidate'.message with
      | none => rfl
      | some message' =>
          rw [original] at isMessage
          rw [original'] at isMessage'
          exact absurd isMessage'.2 (isMessage message' isMessage'.1)
  | some message =>
      rw [original] at isMessage
      cases original' : candidate'.message with
      | none =>
          rw [original'] at isMessage'
          exact absurd isMessage.2 (isMessage' message isMessage.1)
      | some message' =>
          rw [original'] at isMessage'
          exact congrArg some
            (alike message isMessage.1 isMessage.2 message' isMessage'.1 isMessage'.2)

theorem hasMessageTransaction (found : candidate.messageTransaction.isSome) :
    HasMessageTransaction messages payments candidate.status := by
  have isMessage := isCandidate.message
  have isPayment := isCandidate.messagePayment
  unfold Candidate.messageTransaction at found
  cases ofMessage : candidate.messagePayment with
  | none =>
      rw [ofMessage] at found
      cases found
  | some payment =>
      rw [ofMessage] at found isPayment
      cases original : candidate.message with
      | none =>
          rw [original] at isPayment
          exact absurd isPayment.2 (not_messageOn_none payment)
      | some message =>
          rw [original] at isMessage isPayment
          exact ⟨message, isMessage.1, isMessage.2, payment, isPayment.1, isPayment.2, found⟩

end IsCandidate

/-! ## The row of a candidate -/

theorem Reconciliation.eq_of_columns {row row' : Reconciliation}
    (report : (row.statusSource, row.statusMessageId, row.originalMessageId,
      row.originalTransactionId, row.endToEndId) = (row'.statusSource, row'.statusMessageId, row'.originalMessageId,
      row'.originalTransactionId, row'.endToEndId))
    (originalMessageSource : row.originalMessageSource = row'.originalMessageSource)
    (paymentMessageId : row.paymentMessageId = row'.paymentMessageId)
    (transactionSource : row.transactionSource = row'.transactionSource)
    (transactionId : row.transactionId = row'.transactionId)
    (reconciliationStatus : row.reconciliationStatus = row'.reconciliationStatus)
    (matchMethod : row.matchMethod = row'.matchMethod) : row = row' := by
  cases row
  cases row'
  simp_all

/-- `nulls last`, ascending. -/
def Candidate.fallbackOrder (candidate : Candidate) : WithTop String :=
  candidate.fallbackTransaction

theorem Candidate.precedence_le_iff {first second : Candidate} :
    first.precedence ≤ second.precedence ↔ second.methodRank < first.methodRank ∨
      second.methodRank = first.methodRank ∧ second.fallbackOrder ≤ first.fallbackOrder := by
  rw [Candidate.precedence, Candidate.precedence, Prod.Lex.toLex_le_toLex,
    OrderDual.toDual_lt_toDual, OrderDual.toDual_inj, @eq_comm _ first.methodRank]
  rfl

section Rows

variable {candidate : Candidate} {payment : PaymentTransaction}

theorem exactTransaction_of_none (absent : candidate.exactPayment = none) :
    candidate.exactTransaction = none := by
  rw [Candidate.exactTransaction, absent]
  rfl

theorem messageTransaction_of_none (absent : candidate.messagePayment = none) :
    candidate.messageTransaction = none := by
  rw [Candidate.messageTransaction, absent]
  rfl

theorem fallbackTransaction_of_none (absent : candidate.fallbackPayment = none) :
    candidate.fallbackTransaction = none := by
  rw [Candidate.fallbackTransaction, absent]
  rfl

theorem reconciliation_of_exactPayment (found : candidate.exactPayment = some payment)
    (identified : payment.transactionId.isSome) :
    candidate.reconciliation.matchMethod = some .transactionId ∧
      candidate.reconciliation.IsAbout payment ∧
      candidate.reconciliation.reconciliationStatus = .matched := by
  obtain ⟨value, known⟩ := Option.isSome_iff_exists.mp identified
  have isExact : candidate.exactTransaction = some value := by
    rw [Candidate.exactTransaction, found]
    exact known
  simp [Candidate.reconciliation, Reconciliation.IsAbout, isExact, found, known, coalesce]

theorem reconciliation_of_messagePayment (absent : candidate.exactPayment = none)
    (found : candidate.messagePayment = some payment) (identified : payment.transactionId.isSome) :
    candidate.reconciliation.matchMethod = some .messageTransaction ∧
      candidate.reconciliation.IsAbout payment ∧
      candidate.reconciliation.reconciliationStatus = .matched := by
  obtain ⟨value, known⟩ := Option.isSome_iff_exists.mp identified
  have ofMessage : candidate.messageTransaction = some value := by
    rw [Candidate.messageTransaction, found]
    exact known
  simp [Candidate.reconciliation, Reconciliation.IsAbout, exactTransaction_of_none absent, absent,
    ofMessage, found, known, coalesce]

theorem reconciliation_of_paymentMessage (absent : candidate.exactPayment = none)
    (unidentified : candidate.messageTransaction = none) (found : candidate.paymentMessage.isSome) :
    candidate.reconciliation.matchMethod = some .messageId ∧
      candidate.reconciliation.reconciliationStatus = .matched ∧
      candidate.reconciliation.transactionSource =
        (candidate.messagePayment.map fun payment => payment.sourceSystem).or
          (candidate.fallbackPayment.map fun payment => payment.sourceSystem) ∧
      candidate.reconciliation.transactionId = candidate.fallbackTransaction := by
  refine ⟨?_, ?_, ?_, ?_⟩
  · simp [Candidate.reconciliation, exactTransaction_of_none absent, unidentified, found]
  · simp [Candidate.reconciliation, found]
  · cases ofMessage : candidate.messagePayment <;> cases isFallback : candidate.fallbackPayment <;>
      simp [Candidate.reconciliation, absent, ofMessage, isFallback, coalesce]
  · cases isFallback : candidate.fallbackTransaction <;>
      simp [Candidate.reconciliation, exactTransaction_of_none absent, unidentified, isFallback,
        coalesce]

theorem reconciliation_of_fallbackPayment (absent : candidate.exactPayment = none)
    (noMessage : candidate.message = none) (noPayment : candidate.messagePayment = none)
    (found : candidate.fallbackPayment = some payment) (identified : payment.transactionId.isSome) :
    candidate.reconciliation.matchMethod = some .endToEndIdAndSource ∧
      candidate.reconciliation.IsAbout payment ∧
      candidate.reconciliation.reconciliationStatus = .matched := by
  obtain ⟨value, known⟩ := Option.isSome_iff_exists.mp identified
  have isFallback : candidate.fallbackTransaction = some value := by
    rw [Candidate.fallbackTransaction, found]
    exact known
  simp [Candidate.reconciliation, Reconciliation.IsAbout, exactTransaction_of_none absent, absent,
    Candidate.paymentMessage, noMessage, Candidate.messageTransaction, noPayment, isFallback, found,
    known, coalesce]

theorem reconciliation_of_nothing (absent : candidate.exactPayment = none)
    (noMessage : candidate.message = none) (noPayment : candidate.messagePayment = none)
    (unidentified : candidate.fallbackTransaction = none) :
    candidate.reconciliation.matchMethod = none ∧
      candidate.reconciliation.transactionSource =
        candidate.fallbackPayment.map (fun payment => payment.sourceSystem) ∧
      candidate.reconciliation.transactionId = none ∧
      candidate.reconciliation.reconciliationStatus = .unmatched := by
  refine ⟨?_, ?_, ?_, ?_⟩
  · simp [Candidate.reconciliation, exactTransaction_of_none absent, Candidate.paymentMessage,
      noMessage, Candidate.messageTransaction, noPayment, unidentified]
  · cases isFallback : candidate.fallbackPayment <;>
      simp [Candidate.reconciliation, absent, noPayment, isFallback, coalesce]
  · simp [Candidate.reconciliation, exactTransaction_of_none absent, Candidate.messageTransaction,
      noPayment, unidentified, coalesce]
  · simp [Candidate.reconciliation, exactTransaction_of_none absent, Candidate.paymentMessage,
      noMessage, Candidate.messageTransaction, noPayment, unidentified]

end Rows

end Candidates

end PaymentsPlatform.Warehouse
