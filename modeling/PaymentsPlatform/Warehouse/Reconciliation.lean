import PaymentsPlatform.Warehouse.ReconciliationCandidates

/-!
# Which row a status report is given

Of the candidates of a report, the reconciliation may keep any that is ranked first.  What it
promises holds exactly where the tables tell what each report is about
(`reconcilesFaithfully_iff`).
-/

namespace PaymentsPlatform.Warehouse

open Bag Calendar

/-! ## The candidates that may be kept -/

section Foremost

variable (reports : Multiset PaymentStatus) (messages : Multiset PaymentMessage)
  (payments : Multiset PaymentTransaction)

abbrev IsForemostReport (candidate : Candidate) : Prop :=
  IsForemost Candidate.statusKey Candidate.precedence
    (reconciliationCandidates reports messages payments) candidate

variable {reports messages payments} {candidate candidate' : Candidate}

theorem Candidate.methodRank_le (exactly : candidate.exactTransaction = none) :
    candidate.methodRank ≤ 2 ↔ candidate.messageTransaction.isSome := by
  rw [Candidate.methodRank, exactly, if_neg (by simp)]
  split
  next identified => exact iff_of_true le_rfl identified
  next unidentified =>
    refine iff_of_false ?_ unidentified
    split <;> decide

namespace IsForemostReport

variable (foremost : IsForemostReport reports messages payments candidate)

include foremost

theorem isCandidate : IsCandidate reports messages payments candidate :=
  mem_reconciliationCandidates.mp foremost.mem

theorem first (other : Candidate) (isCandidate : IsCandidate reports messages payments other)
    (sameReport : other.status = candidate.status) : other.precedence ≤ candidate.precedence := by
  refine IsForemost.first foremost other (mem_reconciliationCandidates.mpr isCandidate) ?_
  rw [Candidate.statusKey, Candidate.statusKey, sameReport]

theorem messageTransaction_isSome_iff (inexact : candidate.exactTransaction = none) :
    candidate.messageTransaction.isSome ↔
      HasMessageTransaction messages payments candidate.status := by
  constructor
  · exact foremost.isCandidate.hasMessageTransaction
  · rintro ⟨message, isMessage, isOriginal, payment, isPayment, ofMessage, identified⟩
    have linked := foremost.isCandidate
    have ranked := foremost.first
      { candidate with message := some message, messagePayment := some payment }
      ⟨linked.status, ⟨isMessage, isOriginal⟩, linked.exactPayment, ⟨isPayment, ofMessage⟩,
        linked.fallbackPayment⟩ rfl
    have least := (@Candidate.methodRank_le
      { candidate with message := some message, messagePayment := some payment } inexact).mpr
        identified
    refine (Candidate.methodRank_le inexact).mp (le_trans ?_ least)
    rcases Candidate.precedence_le_iff.mp ranked with before | ⟨same, -⟩
    · exact before.le
    · exact same.le

theorem fallbackTransaction_isSome_iff : candidate.fallbackTransaction.isSome ↔
    ∃ payment ∈ payments, (fallbackOn candidate.status payment).holds ∧
      payment.transactionId.isSome := by
  have isFallback := foremost.isCandidate.fallbackPayment
  constructor
  · intro identified
    unfold Candidate.fallbackTransaction at identified
    cases found : candidate.fallbackPayment with
    | none =>
        rw [found] at identified
        cases identified
    | some payment =>
        rw [found] at identified isFallback
        exact ⟨payment, isFallback.1, isFallback.2, identified⟩
  · rintro ⟨payment, isPayment, holds, identified⟩
    have linked := foremost.isCandidate
    have ranked := foremost.first { candidate with fallbackPayment := some payment }
      ⟨linked.status, linked.message, linked.exactPayment, linked.messagePayment,
        ⟨isPayment, holds⟩⟩ rfl
    obtain ⟨value, known⟩ := Option.isSome_iff_exists.mp identified
    rcases Candidate.precedence_le_iff.mp ranked with before | ⟨-, below⟩
    · exact absurd before (lt_irrefl _)
    · cases least : candidate.fallbackTransaction with
      | some first => rfl
      | none =>
          -- what has no transaction id is ranked last
          have isLast : candidate.fallbackOrder = ⊤ := least
          have isFirst :
              ({ candidate with fallbackPayment := some payment } : Candidate).fallbackOrder =
                (value : WithTop String) := known
          rw [isLast, isFirst] at below
          exact absurd (top_le_iff.mp below) WithTop.coe_ne_top

theorem precedence_eq (foremost' : IsForemostReport reports messages payments candidate')
    (sameReport : candidate.status = candidate'.status) :
    candidate.methodRank = candidate'.methodRank ∧
      candidate.fallbackTransaction = candidate'.fallbackTransaction := by
  have before := foremost.first candidate' foremost'.isCandidate sameReport.symm
  have after := foremost'.first candidate foremost.isCandidate sameReport
  have same := le_antisymm after before
  exact Prod.mk.inj same

theorem replace (isCandidate : IsCandidate reports messages payments candidate')
    (sameReport : candidate'.status = candidate.status)
    (sameRank : candidate'.methodRank = candidate.methodRank)
    (sameFallback : candidate'.fallbackPayment = candidate.fallbackPayment) :
    IsForemostReport reports messages payments candidate' := by
  refine IsForemost.of_le foremost (mem_reconciliationCandidates.mpr isCandidate) ?_ ?_
  · rw [Candidate.statusKey, Candidate.statusKey, sameReport]
  · rw [Candidate.precedence, Candidate.precedence, Candidate.fallbackTransaction,
      Candidate.fallbackTransaction, sameRank, sameFallback]

theorem exists_mem :
    ∃ ranked : RankedReports reports messages payments,
      candidate.reconciliation ∈ slvPdmPaymentsReconciliation ranked := by
  obtain ⟨kept, isFirsts, inKept⟩ := IsForemost.exists_isFirsts foremost
  exact ⟨⟨kept, isFirsts⟩, Multiset.mem_map_of_mem _ inKept⟩

end IsForemostReport

theorem exists_foremost_of_row (keyed : (reports.map PaymentStatus.key).Nodup)
    {ranked : RankedReports reports messages payments} {report : PaymentStatus}
    (isReport : report ∈ reports) {row : Reconciliation}
    (isRow : row ∈ slvPdmPaymentsReconciliation ranked) (same : row.statusKey = report.key) :
    ∃ candidate, IsForemostReport reports messages payments candidate ∧
      candidate.status = report ∧ candidate.reconciliation = row := by
  obtain ⟨candidate, inKept, rfl⟩ := Multiset.mem_map.mp isRow
  have foremost : IsForemostReport reports messages payments candidate :=
    ranked.isFirsts.isForemost inKept
  exact ⟨candidate, foremost, Multiset.inj_on_of_nodup_map keyed _ foremost.isCandidate.status _
    isReport same, rfl⟩

theorem exists_row (ranked : RankedReports reports messages payments) {report : PaymentStatus}
    (isReport : report ∈ reports) :
    ∃ row ∈ slvPdmPaymentsReconciliation ranked, row.statusKey = report.key := by
  obtain ⟨candidate, isCandidate, rfl⟩ := exists_isCandidate isReport
  obtain ⟨kept, inKept, named⟩ := ranked.isFirsts.covers candidate
    (mem_reconciliationCandidates.mpr isCandidate)
  exact ⟨kept.reconciliation, Multiset.mem_map_of_mem _ inKept, named⟩

theorem map_statusKey (ranked : RankedReports reports messages payments) :
    (slvPdmPaymentsReconciliation ranked).map Reconciliation.statusKey =
      (reports.map PaymentStatus.key).dedup := by
  have isKey : (slvPdmPaymentsReconciliation ranked).map Reconciliation.statusKey =
      ranked.kept.map Candidate.statusKey := Multiset.map_map _ _ _
  refine (Multiset.Nodup.ext ?_ (Multiset.nodup_dedup _)).mpr fun key => ?_
  · exact isKey ▸ ranked.isFirsts.unique
  · rw [Multiset.mem_dedup]
    constructor
    · intro member
      obtain ⟨candidate, inKept, rfl⟩ := Multiset.mem_map.mp (isKey ▸ member)
      have isCandidate := mem_reconciliationCandidates.mp (ranked.isFirsts.mem candidate inKept)
      exact Multiset.mem_map_of_mem PaymentStatus.key isCandidate.status
    · intro member
      obtain ⟨report, isReport, rfl⟩ := Multiset.mem_map.mp member
      obtain ⟨row, isRow, named⟩ := exists_row ranked isReport
      exact named ▸ Multiset.mem_map_of_mem Reconciliation.statusKey isRow

/-! ## Where the tables tell what a report is about -/

/-- What the method of a kept candidate says, where nothing else was found that could have been. -/
inductive ReportVerdict (candidate : Candidate) : Option MatchMethod → Prop where
  | exactPayment (payment : PaymentTransaction) (found : candidate.exactPayment = some payment)
      (identified : payment.transactionId.isSome) : ReportVerdict candidate (some .transactionId)
  | messagePayment (absent : candidate.exactPayment = none) (message : PaymentMessage)
      (original : candidate.message = some message) (payment : PaymentTransaction)
      (found : candidate.messagePayment = some payment)
      (identified : payment.transactionId.isSome) :
      ReportVerdict candidate (some .messageTransaction)
  | messageAlone (absent : candidate.exactPayment = none) (message : PaymentMessage)
      (original : candidate.message = some message) (noPayment : candidate.messagePayment = none)
      (noFallback : candidate.fallbackPayment = none) : ReportVerdict candidate (some .messageId)
  | fallbackPayment (absent : candidate.exactPayment = none) (noMessage : candidate.message = none)
      (noPayment : candidate.messagePayment = none) (payment : PaymentTransaction)
      (found : candidate.fallbackPayment = some payment)
      (identified : payment.transactionId.isSome) :
      ReportVerdict candidate (some .endToEndIdAndSource)
  | nothing (absent : candidate.exactPayment = none) (noMessage : candidate.message = none)
      (noPayment : candidate.messagePayment = none)
      (noFallback : candidate.fallbackPayment = none) : ReportVerdict candidate none

theorem Candidate.matchMethod_eq : candidate.reconciliation.matchMethod =
    if candidate.methodRank = 1 then some .transactionId
    else if candidate.methodRank = 2 then some .messageTransaction
    else if candidate.methodRank = 3 then some .messageId
    else if candidate.fallbackTransaction.isSome then some .endToEndIdAndSource
    else none := by
  simp only [Candidate.reconciliation, Candidate.methodRank]
  split
  next => rfl
  next =>
    split
    next => rfl
    next =>
      split
      next => rfl
      next => rfl

theorem IsForemostReport.verdict (foremost : IsForemostReport reports messages payments candidate)
    (reconcilable : Reconcilable messages payments candidate.status) :
    ReportVerdict candidate candidate.reconciliation.matchMethod := by
  have linked := foremost.isCandidate
  have isExact := linked.exactPayment
  have isMessage := linked.message
  have ofMessage := linked.messagePayment
  have isFallback := linked.fallbackPayment
  cases exactly : candidate.exactPayment with
  | some payment =>
      rw [exactly] at isExact
      have identified := (transactionId_of_exactOn isExact.2).1
      rw [(reconciliation_of_exactPayment exactly identified).1]
      exact .exactPayment payment exactly identified
  | none =>
      rw [exactly] at isExact
      have inexact := exactTransaction_of_none exactly
      cases original : candidate.message with
      | none =>
          rw [original] at ofMessage
          have noPayment := ofMessage.eq_none fun payment _ => not_messageOn_none payment
          rw [original] at isMessage
          cases found : candidate.fallbackPayment with
          | none =>
              have unidentified := fallbackTransaction_of_none found
              rw [(reconciliation_of_nothing exactly original noPayment unidentified).1]
              exact .nothing exactly original noPayment found
          | some payment =>
              rw [found] at isFallback
              have identified := foremost.fallbackTransaction_isSome_iff.mpr
                (reconcilable.fallback isExact isMessage ⟨payment, isFallback⟩)
              rw [Candidate.fallbackTransaction, found] at identified
              rw [(reconciliation_of_fallbackPayment exactly original noPayment found identified).1]
              exact .fallbackPayment exactly original noPayment payment found identified
      | some message =>
          rw [original] at isMessage ofMessage
          by_cases transacted : candidate.messageTransaction.isSome
          · unfold Candidate.messageTransaction at transacted
            cases found : candidate.messagePayment with
            | none =>
                rw [found] at transacted
                cases transacted
            | some payment =>
                rw [found] at transacted
                rw [(reconciliation_of_messagePayment exactly found transacted).1]
                exact .messagePayment exactly message original payment found transacted
          · have alone := reconcilable.messageAlone isExact
              (mt (foremost.messageTransaction_isSome_iff inexact).mpr transacted) message
              isMessage.1 isMessage.2
            have noPayment := ofMessage.eq_none fun payment isPayment holds =>
              (alone payment isPayment).1 (messageOn_some_iff.mp holds).2.2
            have noFallback := isFallback.eq_none fun payment isPayment =>
              (alone payment isPayment).2
            rw [(reconciliation_of_paymentMessage exactly
              (Option.not_isSome_iff_eq_none.mp transacted)
              (linked.paymentMessage_of_message original)).1]
            exact .messageAlone exactly message original noPayment noFallback

namespace ReportVerdict

variable {method : Option MatchMethod}

theorem supplied (verdict : ReportVerdict candidate method)
    (linked : IsCandidate reports messages payments candidate) :
    SuppliedBy messages payments candidate.status candidate.reconciliation method := by
  have isExact := linked.exactPayment
  have isMessage := linked.message
  have ofMessage := linked.messagePayment
  have isFallback := linked.fallbackPayment
  cases verdict with
  | exactPayment payment found identified =>
      rw [found] at isExact
      exact ⟨payment, isExact.1, isExact.2, (reconciliation_of_exactPayment found identified).2.1⟩
  | messagePayment absent message original payment found identified =>
      rw [original] at isMessage ofMessage
      rw [found] at ofMessage
      exact ⟨message, isMessage.1, isMessage.2, payment, ofMessage.1, ofMessage.2,
        (reconciliation_of_messagePayment absent found identified).2.1⟩
  | messageAlone absent message original noPayment noFallback =>
      have unidentified := messageTransaction_of_none noPayment
      obtain ⟨-, -, source, transaction⟩ := reconciliation_of_paymentMessage absent unidentified
        (linked.paymentMessage_of_message original)
      constructor
      · rw [source, noPayment, noFallback]
        rfl
      · rw [transaction, Candidate.fallbackTransaction, noFallback]
        rfl
  | fallbackPayment absent noMessage noPayment payment found identified =>
      rw [found] at isFallback
      exact ⟨payment, isFallback.1, isFallback.2,
        (reconciliation_of_fallbackPayment absent noMessage noPayment found identified).2.1⟩
  | nothing absent noMessage noPayment noFallback =>
      have unidentified := fallbackTransaction_of_none noFallback
      obtain ⟨-, source, transaction, -⟩ :=
        reconciliation_of_nothing absent noMessage noPayment unidentified
      exact ⟨by rw [source, noFallback]; rfl, transaction⟩

theorem unmatched_iff (verdict : ReportVerdict candidate method)
    (linked : IsCandidate reports messages payments candidate) :
    candidate.reconciliation.reconciliationStatus = .unmatched ↔
      ¬ HasCounterpart messages payments candidate.status := by
  have matched (isMatched : candidate.reconciliation.reconciliationStatus = .matched)
      (counterpart : HasCounterpart messages payments candidate.status) :
      candidate.reconciliation.reconciliationStatus = .unmatched ↔
        ¬ HasCounterpart messages payments candidate.status :=
    iff_of_false (by simp [isMatched]) (not_not.mpr counterpart)
  have isExact := linked.exactPayment
  have isMessage := linked.message
  have isFallback := linked.fallbackPayment
  cases verdict with
  | exactPayment payment found identified =>
      rw [found] at isExact
      exact matched (reconciliation_of_exactPayment found identified).2.2
        (.inr (.inl ⟨payment, isExact⟩))
  | messagePayment absent message original payment found identified =>
      rw [original] at isMessage
      exact matched (reconciliation_of_messagePayment absent found identified).2.2
        (.inl ⟨message, isMessage⟩)
  | messageAlone absent message original noPayment noFallback =>
      have unidentified := messageTransaction_of_none noPayment
      rw [original] at isMessage
      exact matched (reconciliation_of_paymentMessage absent unidentified
        (linked.paymentMessage_of_message original)).2.1 (.inl ⟨message, isMessage⟩)
  | fallbackPayment absent noMessage noPayment payment found identified =>
      rw [found] at isFallback
      exact matched
        (reconciliation_of_fallbackPayment absent noMessage noPayment found identified).2.2
        (.inr (.inr (.inr ⟨payment, isFallback⟩)))
  | nothing absent noMessage noPayment noFallback =>
      have unidentified := fallbackTransaction_of_none noFallback
      rw [absent] at isExact
      rw [noMessage] at isMessage
      rw [noFallback] at isFallback
      refine iff_of_true
        (reconciliation_of_nothing absent noMessage noPayment unidentified).2.2.2 ?_
      rintro (⟨message, inMessages, holds⟩ | ⟨payment, inPayments, holds⟩ |
        ⟨message, inMessages, holds, -⟩ | ⟨payment, inPayments, holds⟩)
      · exact isMessage message inMessages holds
      · exact isExact payment inPayments holds
      · exact isMessage message inMessages holds
      · exact isFallback payment inPayments holds

end ReportVerdict

namespace IsForemostReport

variable (foremost : IsForemostReport reports messages payments candidate)
  (reconcilable : Reconcilable messages payments candidate.status)

include foremost reconcilable

theorem linked (inexact : ∀ payment ∈ payments, ¬ (exactOn candidate.status payment).holds)
    {message : PaymentMessage} (isMessage : message ∈ messages)
    (isOriginal : (originalOn candidate.status message).holds)
    (transacted : ∃ payment ∈ payments, (equals message.messageId payment.messageId).holds) :
    ∃ payment ∈ payments, (equals message.messageId payment.messageId).holds ∧
      candidate.reconciliation.IsAbout payment := by
  have linked := foremost.isCandidate
  have isExact := linked.exactPayment
  have found := linked.message
  have ofMessage := linked.messagePayment
  have verdict := foremost.verdict reconcilable
  generalize candidate.reconciliation.matchMethod = method at verdict
  cases verdict with
  | exactPayment payment exactly identified =>
      rw [exactly] at isExact
      exact absurd isExact.2 (inexact payment isExact.1)
  | messagePayment absent original isFound payment ofOriginal identified =>
      rw [isFound] at found ofMessage
      rw [ofOriginal] at ofMessage
      have same := (messageOn_some_iff.mp ofMessage.2).2.2
      rw [(messageId_of_originalOn found.2).2, ← (messageId_of_originalOn isOriginal).2] at same
      exact ⟨payment, ofMessage.1, same,
        (reconciliation_of_messagePayment absent ofOriginal identified).2.1⟩
  | messageAlone absent other original noPayment noFallback =>
      have unidentified : ¬ candidate.messageTransaction.isSome := by
        simp [Candidate.messageTransaction, noPayment]
      have alone := reconcilable.messageAlone inexact
        (mt (foremost.messageTransaction_isSome_iff (exactTransaction_of_none absent)).mpr
          unidentified) message isMessage isOriginal
      obtain ⟨payment, isPayment, same⟩ := transacted
      exact absurd same (alone payment isPayment).1
  | fallbackPayment absent noMessage noPayment payment isFallback identified =>
      rw [noMessage] at found
      exact absurd isOriginal (found message isMessage)
  | nothing absent noMessage noPayment noFallback =>
      rw [noMessage] at found
      exact absurd isOriginal (found message isMessage)

end IsForemostReport

/-- The columns that the candidates of one report may differ in, where they are ranked alike. -/
structure SameColumns (candidate candidate' : Candidate) : Prop where
  messageSource : (candidate.message.map fun message => message.sourceSystem) =
    candidate'.message.map fun message => message.sourceSystem
  transactionSource :
    candidate.reconciliation.transactionSource = candidate'.reconciliation.transactionSource
  transactionId : candidate.reconciliation.transactionId = candidate'.reconciliation.transactionId

section Alike

variable (linked : IsCandidate reports messages payments candidate)
  (linked' : IsCandidate reports messages payments candidate')
  (sameReport : candidate.status = candidate'.status)
  (reconcilable : Reconcilable messages payments candidate.status)

include linked linked' sameReport reconcilable

theorem sameColumns_of_exactPayment {payment payment' : PaymentTransaction}
    (found : candidate.exactPayment = some payment)
    (found' : candidate'.exactPayment = some payment') : SameColumns candidate candidate' := by
  have isExact := linked.exactPayment
  have isExact' := linked'.exactPayment
  rw [found] at isExact
  rw [found', ← sameReport] at isExact'
  obtain ⟨identified, exactly⟩ := transactionId_of_exactOn isExact.2
  obtain ⟨identified', exactly'⟩ := transactionId_of_exactOn isExact'.2
  obtain ⟨-, ⟨source, transaction⟩, -⟩ := reconciliation_of_exactPayment found identified
  obtain ⟨-, ⟨source', transaction'⟩, -⟩ := reconciliation_of_exactPayment found' identified'
  refine ⟨linked.map_sourceSystem_eq linked' sameReport
    (reconcilable.messageSource (.inl ⟨payment, isExact⟩)), ?_, ?_⟩
  · rw [source, source', reconcilable.exactSource payment isExact.1 isExact.2 payment' isExact'.1
      isExact'.2]
  · rw [transaction, transaction', exactly, exactly']

theorem sameColumns_of_messagePayment (absent : candidate.exactPayment = none)
    (absent' : candidate'.exactPayment = none) {message message' : PaymentMessage}
    (original : candidate.message = some message) (original' : candidate'.message = some message')
    {payment payment' : PaymentTransaction} (found : candidate.messagePayment = some payment)
    (found' : candidate'.messagePayment = some payment') (identified : payment.transactionId.isSome)
    (identified' : payment'.transactionId.isSome) : SameColumns candidate candidate' := by
  have isExact := linked.exactPayment
  have isMessage := linked.message
  have isMessage' := linked'.message
  have ofMessage := linked.messagePayment
  have ofMessage' := linked'.messagePayment
  rw [absent] at isExact
  rw [original] at isMessage ofMessage
  rw [original'] at isMessage' ofMessage'
  rw [found] at ofMessage
  rw [found'] at ofMessage'
  obtain ⟨-, ⟨source, transaction⟩, -⟩ := reconciliation_of_messagePayment absent found identified
  obtain ⟨-, ⟨source', transaction'⟩, -⟩ :=
    reconciliation_of_messagePayment absent' found' identified'
  obtain ⟨isSource, paymentSource, same⟩ := messageOn_some_iff.mp ofMessage.2
  obtain ⟨isSource', paymentSource', same'⟩ := messageOn_some_iff.mp ofMessage'.2
  have sameMessage : message'.messageId = message.messageId := by
    rw [(messageId_of_originalOn isMessage'.2).2, (messageId_of_originalOn isMessage.2).2,
      sameReport]
  rw [sameMessage] at same'
  refine ⟨?_, ?_, ?_⟩
  · rw [original, original', Option.map_some, Option.map_some, isSource, isSource']
  · rw [source, source', paymentSource, paymentSource']
  · rw [transaction, transaction']
    exact reconcilable.messageTransaction isExact message isMessage.1 isMessage.2 payment
      ofMessage.1 ofMessage.2 identified payment' ofMessage'.1
      (messageOn_some_iff.mpr ⟨isSource, paymentSource', same'⟩) identified'

end Alike

namespace IsForemostReport

variable (foremost : IsForemostReport reports messages payments candidate)
  (reconcilable : Reconcilable messages payments candidate.status)

include foremost reconcilable

theorem sameColumns (foremost' : IsForemostReport reports messages payments candidate')
    (sameReport : candidate.status = candidate'.status) : SameColumns candidate candidate' := by
  obtain ⟨sameRank, sameFallback⟩ := foremost.precedence_eq foremost' sameReport
  have linked := foremost.isCandidate
  have linked' := foremost'.isCandidate
  have verdict := foremost.verdict reconcilable
  have verdict' := foremost'.verdict (sameReport ▸ reconcilable)
  -- the two have one method, so that their verdicts are of one kind
  rw [Candidate.matchMethod_eq, sameRank, sameFallback, ← Candidate.matchMethod_eq] at verdict
  generalize candidate'.reconciliation.matchMethod = method at verdict verdict'
  cases verdict with
  | exactPayment payment found identified =>
      cases verdict' with
      | exactPayment payment' found' identified' =>
          exact sameColumns_of_exactPayment linked linked' sameReport reconcilable found found'
  | messagePayment absent message original payment found identified =>
      cases verdict' with
      | messagePayment absent' message' original' payment' found' identified' =>
          exact sameColumns_of_messagePayment linked linked' sameReport reconcilable absent absent'
            original original' found found' identified identified'
  | messageAlone absent message original noPayment noFallback =>
      cases verdict' with
      | messageAlone absent' message' original' noPayment' noFallback' =>
          have unidentified := messageTransaction_of_none noPayment
          obtain ⟨-, -, source, transaction⟩ := reconciliation_of_paymentMessage absent unidentified
            (linked.paymentMessage_of_message original)
          obtain ⟨-, -, source', transaction'⟩ := reconciliation_of_paymentMessage absent'
            (messageTransaction_of_none noPayment') (linked'.paymentMessage_of_message original')
          have noTransaction := mt (foremost.messageTransaction_isSome_iff
            (exactTransaction_of_none absent)).mpr (by simp [unidentified])
          exact ⟨linked.map_sourceSystem_eq linked' sameReport
              (reconcilable.messageSource (.inr noTransaction)),
            by rw [source, source', noPayment, noPayment', noFallback, noFallback'],
            by rw [transaction, transaction', sameFallback]⟩
  | fallbackPayment absent noMessage noPayment payment found identified =>
      cases verdict' with
      | fallbackPayment absent' noMessage' noPayment' payment' found' identified' =>
          have isFallback := linked.fallbackPayment
          have isFallback' := linked'.fallbackPayment
          rw [found] at isFallback
          rw [found', ← sameReport] at isFallback'
          obtain ⟨-, ⟨source, transaction⟩, -⟩ :=
            reconciliation_of_fallbackPayment absent noMessage noPayment found identified
          obtain ⟨-, ⟨source', transaction'⟩, -⟩ :=
            reconciliation_of_fallbackPayment absent' noMessage' noPayment' found' identified'
          rw [Candidate.fallbackTransaction, Candidate.fallbackTransaction, found, found']
            at sameFallback
          exact ⟨by rw [noMessage, noMessage'],
            by rw [source, source', sourceSystem_of_fallbackOn isFallback.2,
              sourceSystem_of_fallbackOn isFallback'.2],
            by rw [transaction, transaction']; exact sameFallback⟩
  | nothing absent noMessage noPayment noFallback =>
      cases verdict' with
      | nothing absent' noMessage' noPayment' noFallback' =>
          have unidentified := fallbackTransaction_of_none noFallback
          obtain ⟨-, source, transaction, -⟩ :=
            reconciliation_of_nothing absent noMessage noPayment unidentified
          obtain ⟨-, source', transaction', -⟩ :=
            reconciliation_of_nothing absent' noMessage' noPayment' (sameFallback ▸ unidentified)
          exact ⟨by rw [noMessage, noMessage'], by rw [source, source', noFallback, noFallback'],
            by rw [transaction, transaction']⟩

theorem reconciliation_eq (foremost' : IsForemostReport reports messages payments candidate')
    (sameReport : candidate.status = candidate'.status) :
    candidate.reconciliation = candidate'.reconciliation := by
  obtain ⟨sameRank, sameFallback⟩ := foremost.precedence_eq foremost' sameReport
  have linked := foremost.isCandidate
  have linked' := foremost'.isCandidate
  have verdict := foremost.verdict reconcilable
  have verdict' := foremost'.verdict (sameReport ▸ reconcilable)
  have sameMethod :
      candidate.reconciliation.matchMethod = candidate'.reconciliation.matchMethod := by
    rw [Candidate.matchMethod_eq, Candidate.matchMethod_eq, sameRank, sameFallback]
  have sameStatus : candidate.reconciliation.reconciliationStatus =
      candidate'.reconciliation.reconciliationStatus := by
    have unmatched := verdict.unmatched_iff linked
    rw [sameReport, ← verdict'.unmatched_iff linked'] at unmatched
    cases shown : candidate.reconciliation.reconciliationStatus <;>
      cases shown' : candidate'.reconciliation.reconciliationStatus <;> simp_all
  have samePaymentMessage : candidate.paymentMessage = candidate'.paymentMessage := by
    have sameKnown := linked.paymentMessage_isSome_iff
    rw [sameReport, ← linked'.paymentMessage_isSome_iff] at sameKnown
    by_cases known : candidate.paymentMessage.isSome
    · rw [linked.paymentMessage_eq known, linked'.paymentMessage_eq (sameKnown.mp known),
        sameReport]
    · rw [Option.not_isSome_iff_eq_none.mp known,
        Option.not_isSome_iff_eq_none.mp (mt sameKnown.mpr known)]
  have columns := foremost.sameColumns reconcilable foremost' sameReport
  exact Reconciliation.eq_of_columns
    (congrArg (fun report : PaymentStatus => (report.statusSource, report.messageId,
      report.originalMessageId, report.originalTransactionId, report.endToEndId)) sameReport)
    columns.messageSource samePaymentMessage columns.transactionSource columns.transactionId
    sameStatus sameMethod

end IsForemostReport

/-! ## When the promises hold -/

theorem Candidate.methodRank_of_exact (found : candidate.exactTransaction.isSome) :
    candidate.methodRank = 1 := if_pos found

theorem Candidate.methodRank_of_messageTransaction (inexact : candidate.exactTransaction = none)
    (found : candidate.messageTransaction.isSome) : candidate.methodRank = 2 := by
  rw [Candidate.methodRank, inexact, if_neg (by simp), if_pos found]

theorem Candidate.methodRank_of_paymentMessage (inexact : candidate.exactTransaction = none)
    (unidentified : candidate.messageTransaction = none) (found : candidate.paymentMessage.isSome) :
    candidate.methodRank = 3 := by
  rw [Candidate.methodRank, inexact, unidentified, if_neg (by simp), if_neg (by simp), if_pos found]

section Faithful

variable (keyed : (reports.map PaymentStatus.key).Nodup) {report : PaymentStatus}
  (isReport : report ∈ reports)

theorem eq_of_statusKey_eq {ranked : RankedReports reports messages payments}
    {row row' : Reconciliation} (isRow : row ∈ slvPdmPaymentsReconciliation ranked)
    (isRow' : row' ∈ slvPdmPaymentsReconciliation ranked) (same : row.statusKey = row'.statusKey) :
    row = row' := by
  have distinct : ((slvPdmPaymentsReconciliation ranked).map Reconciliation.statusKey).Nodup := by
    rw [map_statusKey]
    exact Multiset.nodup_dedup _
  exact Multiset.inj_on_of_nodup_map distinct row isRow row' isRow' same

include keyed isReport in
variable (messages payments) in
theorem exists_foremost : ∃ candidate, IsForemostReport reports messages payments candidate ∧
    candidate.status = report := by
  obtain ⟨ranked⟩ : Nonempty (RankedReports reports messages payments) := inferInstance
  obtain ⟨row, isRow, same⟩ := exists_row ranked isReport
  obtain ⟨candidate, foremost, isStatus, -⟩ := exists_foremost_of_row keyed isReport isRow same
  exact ⟨candidate, foremost, isStatus⟩

namespace ReconcilesFaithfully

variable (faithful : ReconcilesFaithfully reports messages payments)

include faithful

theorem reconciliation_eq (foremost : IsForemostReport reports messages payments candidate)
    (foremost' : IsForemostReport reports messages payments candidate')
    (sameReport : candidate.status = candidate'.status) :
    candidate.reconciliation = candidate'.reconciliation := by
  obtain ⟨ranked, isRow⟩ := foremost.exists_mem
  obtain ⟨ranked', isRow'⟩ := foremost'.exists_mem
  rw [faithful.deterministic ranked' ranked] at isRow'
  refine eq_of_statusKey_eq isRow isRow' ?_
  change candidate.status.key = candidate'.status.key
  rw [sameReport]

include keyed isReport

theorem exactSource {payment payment' : PaymentTransaction} (isPayment : payment ∈ payments)
    (isExact : (exactOn report payment).holds) (isPayment' : payment' ∈ payments)
    (isExact' : (exactOn report payment').holds) :
    payment.sourceSystem = payment'.sourceSystem := by
  obtain ⟨candidate, foremost, rfl⟩ := exists_foremost messages payments keyed isReport
  have linked := foremost.isCandidate
  have exactly := linked.exactTransaction_isSome_iff.mpr ⟨payment, isPayment, isExact⟩
  have kept {other : PaymentTransaction} (isOther : other ∈ payments)
      (holds : (exactOn candidate.status other).holds) :
      IsForemostReport reports messages payments { candidate with exactPayment := some other } := by
    refine foremost.replace ⟨linked.status, linked.message, ⟨isOther, holds⟩, linked.messagePayment,
      linked.fallbackPayment⟩ rfl ?_ rfl
    rw [Candidate.methodRank_of_exact exactly, Candidate.methodRank_of_exact]
    exact (transactionId_of_exactOn holds).1
  have same := faithful.reconciliation_eq (kept isPayment isExact) (kept isPayment' isExact') rfl
  exact Option.some.inj (congrArg Reconciliation.transactionSource same)

theorem messageSource (settled : (∃ payment ∈ payments, (exactOn report payment).holds) ∨
      ¬ HasMessageTransaction messages payments report)
    {message message' : PaymentMessage} (isMessage : message ∈ messages)
    (isOriginal : (originalOn report message).holds) (isMessage' : message' ∈ messages)
    (isOriginal' : (originalOn report message').holds) :
    message.sourceSystem = message'.sourceSystem := by
  obtain ⟨candidate, foremost, rfl⟩ := exists_foremost messages payments keyed isReport
  have linked := foremost.isCandidate
  have kept {other : PaymentMessage} (isOther : other ∈ messages)
      (holds : (originalOn candidate.status other).holds) :
      ∃ messagePayment, IsForemostReport reports messages payments
        { candidate with message := some other, messagePayment := messagePayment } := by
    obtain ⟨messagePayment, ofMessage⟩ := exists_isPartner payments (messageOn (some other))
    have linkedOther : IsCandidate reports messages payments
        { candidate with message := some other, messagePayment := messagePayment } :=
      ⟨linked.status, ⟨isOther, holds⟩, linked.exactPayment, ofMessage, linked.fallbackPayment⟩
    refine ⟨messagePayment, foremost.replace linkedOther rfl ?_ rfl⟩
    by_cases exactly : candidate.exactTransaction.isSome
    · rw [Candidate.methodRank_of_exact exactly]
      exact Candidate.methodRank_of_exact exactly
    · have noTransaction := settled.resolve_left (mt linked.exactTransaction_isSome_iff.mpr exactly)
      have inexact := Option.not_isSome_iff_eq_none.mp exactly
      rw [Candidate.methodRank_of_paymentMessage inexact
        (Option.not_isSome_iff_eq_none.mp (mt linked.hasMessageTransaction noTransaction))
        (linked.paymentMessage_isSome_iff.mpr ⟨other, isOther, holds⟩)]
      exact Candidate.methodRank_of_paymentMessage inexact
        (Option.not_isSome_iff_eq_none.mp (mt linkedOther.hasMessageTransaction noTransaction))
        (linkedOther.paymentMessage_of_message rfl)
  obtain ⟨messagePayment, foremostOne⟩ := kept isMessage isOriginal
  obtain ⟨messagePayment', foremostOther⟩ := kept isMessage' isOriginal'
  have same := faithful.reconciliation_eq foremostOne foremostOther rfl
  exact Option.some.inj (congrArg Reconciliation.originalMessageSource same)

theorem messageTransaction (inexact : ∀ payment ∈ payments, ¬ (exactOn report payment).holds)
    {message : PaymentMessage} (isMessage : message ∈ messages)
    (isOriginal : (originalOn report message).holds) {payment payment' : PaymentTransaction}
    (isPayment : payment ∈ payments) (ofMessage : (messageOn (some message) payment).holds)
    (identified : payment.transactionId.isSome) (isPayment' : payment' ∈ payments)
    (ofMessage' : (messageOn (some message) payment').holds)
    (identified' : payment'.transactionId.isSome) :
    payment.transactionId = payment'.transactionId := by
  obtain ⟨candidate, foremost, rfl⟩ := exists_foremost messages payments keyed isReport
  have linked := foremost.isCandidate
  have absent := linked.exactPayment.eq_none inexact
  have kept {other : PaymentTransaction} (isOther : other ∈ payments)
      (holds : (messageOn (some message) other).holds) (known : other.transactionId.isSome) :
      IsForemostReport reports messages payments
        { candidate with message := some message, messagePayment := some other } := by
    refine foremost.replace ⟨linked.status, ⟨isMessage, isOriginal⟩, linked.exactPayment,
      ⟨isOther, holds⟩, linked.fallbackPayment⟩ rfl ?_ rfl
    have found := (foremost.messageTransaction_isSome_iff (exactTransaction_of_none absent)).mpr
      ⟨message, isMessage, isOriginal, other, isOther, holds, known⟩
    rw [Candidate.methodRank_of_messageTransaction (exactTransaction_of_none absent) found]
    exact Candidate.methodRank_of_messageTransaction (exactTransaction_of_none absent) known
  have same := faithful.reconciliation_eq (kept isPayment ofMessage identified)
    (kept isPayment' ofMessage' identified') rfl
  have shown := @reconciliation_of_messagePayment
    { candidate with message := some message, messagePayment := some payment } payment absent rfl
    identified
  have shown' := @reconciliation_of_messagePayment
    { candidate with message := some message, messagePayment := some payment' } payment' absent rfl
    identified'
  rw [← shown.2.1.2, ← shown'.2.1.2, same]

theorem messageAlone (inexact : ∀ payment ∈ payments, ¬ (exactOn report payment).holds)
    (noTransaction : ¬ HasMessageTransaction messages payments report) {message : PaymentMessage}
    (isMessage : message ∈ messages) (isOriginal : (originalOn report message).holds)
    {payment : PaymentTransaction} (isPayment : payment ∈ payments) :
    ¬ (equals message.messageId payment.messageId).holds ∧ ¬ (fallbackOn report payment).holds := by
  obtain ⟨candidate, foremost, rfl⟩ := exists_foremost messages payments keyed isReport
  have linked := foremost.isCandidate
  obtain ⟨ranked, isRow⟩ := foremost.exists_mem
  have absent := linked.exactPayment.eq_none inexact
  obtain ⟨isMethod, -, source, -⟩ := reconciliation_of_paymentMessage absent
    (Option.not_isSome_iff_eq_none.mp (mt linked.hasMessageTransaction noTransaction))
    (linked.paymentMessage_isSome_iff.mpr ⟨message, isMessage, isOriginal⟩)
  have supplied := faithful.supplied ranked candidate.status isReport candidate.reconciliation isRow
    rfl
  rw [isMethod] at supplied
  have noSource := source.symm.trans supplied.1
  constructor
  · intro same
    obtain ⟨row, isRow', sameKey, other, -, -, shown, -⟩ := faithful.linked ranked candidate.status
      isReport inexact message isMessage isOriginal ⟨payment, isPayment, same⟩
    rw [eq_of_statusKey_eq isRow' isRow sameKey, supplied.1] at shown
    cases shown
  · intro holds
    have found := linked.fallbackPayment.isSome_iff.mpr ⟨payment, isPayment, holds⟩
    obtain ⟨other, isFallback⟩ := Option.isSome_iff_exists.mp found
    rw [isFallback, Option.or_eq_none_iff] at noSource
    cases noSource.2

theorem fallback (inexact : ∀ payment ∈ payments, ¬ (exactOn report payment).holds)
    (noMessage : ∀ message ∈ messages, ¬ (originalOn report message).holds)
    (found : ∃ payment ∈ payments, (fallbackOn report payment).holds) :
    ∃ payment ∈ payments, (fallbackOn report payment).holds ∧ payment.transactionId.isSome := by
  obtain ⟨candidate, foremost, rfl⟩ := exists_foremost messages payments keyed isReport
  have linked := foremost.isCandidate
  obtain ⟨ranked, isRow⟩ := foremost.exists_mem
  rw [← foremost.fallbackTransaction_isSome_iff]
  by_contra unidentified
  have absent := linked.exactPayment.eq_none inexact
  have original := linked.message.eq_none noMessage
  have noPayment := linked.messagePayment.eq_none
    (original ▸ fun other _ => not_messageOn_none other)
  have unmatched := (reconciliation_of_nothing absent original noPayment
    (Option.not_isSome_iff_eq_none.mp unidentified)).2.2.2
  exact (faithful.unmatched ranked candidate.status isReport candidate.reconciliation isRow rfl).mp
    unmatched (.inr (.inr (.inr found)))

end ReconcilesFaithfully

include keyed in
theorem reconcilesFaithfully_of_reconcilable
    (reconcilable : ∀ report ∈ reports, Reconcilable messages payments report) :
    ReconcilesFaithfully reports messages payments := by
  have tells {candidate : Candidate}
      (foremost : IsForemostReport reports messages payments candidate) :
      Reconcilable messages payments candidate.status :=
    reconcilable candidate.status foremost.isCandidate.status
  constructor
  case complete => exact map_statusKey
  case supplied =>
    intro ranked report isReport row isRow same
    obtain ⟨candidate, foremost, rfl, rfl⟩ := exists_foremost_of_row keyed isReport isRow same
    exact (foremost.verdict (tells foremost)).supplied foremost.isCandidate
  case unmatched =>
    intro ranked report isReport row isRow same
    obtain ⟨candidate, foremost, rfl, rfl⟩ := exists_foremost_of_row keyed isReport isRow same
    exact (foremost.verdict (tells foremost)).unmatched_iff foremost.isCandidate
  case linked =>
    intro ranked report isReport inexact message isMessage isOriginal transacted
    obtain ⟨row, isRow, same⟩ := exists_row ranked isReport
    obtain ⟨candidate, foremost, rfl, rfl⟩ := exists_foremost_of_row keyed isReport isRow same
    exact ⟨_, isRow, same,
      foremost.linked (tells foremost) inexact isMessage isOriginal transacted⟩
  case deterministic =>
    intro ranked ranked'
    refine (@map_kept_eq_iff _ _ _ _ _ _ _ _ Candidate.reconciliation Reconciliation.statusKey
      fun _ _ => rfl).mpr ?_ ranked.kept ranked'.kept ranked.isFirsts ranked'.isFirsts
    intro candidate candidate' foremost foremost' same
    refine IsForemostReport.reconciliation_eq foremost (tells foremost) foremost' ?_
    exact Multiset.inj_on_of_nodup_map keyed _ (IsForemostReport.isCandidate foremost).status _
      (IsForemostReport.isCandidate foremost').status same

end Faithful

end Foremost

/-- The promises hold exactly where the tables tell what each report is about. -/
theorem reconcilesFaithfully_iff {statusEvents : Multiset (Stored PaymentStatus)}
    (reported : Firsts PaymentStatus.messageKey Stored.recency statusEvents)
    (messages : Multiset PaymentMessage) (payments : Multiset PaymentTransaction) :
    ReconcilesFaithfully (contents reported.kept) messages payments ↔
      ∀ report ∈ contents reported.kept, Reconcilable messages payments report := by
  have keyed : ((contents reported.kept).map PaymentStatus.key).Nodup := by
    rw [contents, Multiset.map_map]
    exact reported.isFirsts.unique
  constructor
  · intro faithful report isReport
    exact ⟨fun _ isPayment isExact _ => faithful.exactSource keyed isReport isPayment isExact,
      fun settled _ isMessage isOriginal _ =>
        faithful.messageSource keyed isReport settled isMessage isOriginal,
      fun inexact _ isMessage isOriginal _ isPayment ofMessage identified _ =>
        faithful.messageTransaction keyed isReport inexact isMessage isOriginal isPayment ofMessage
          identified,
      fun inexact noTransaction _ isMessage isOriginal _ =>
        faithful.messageAlone keyed isReport inexact noTransaction isMessage isOriginal,
      faithful.fallback keyed isReport⟩
  · exact reconcilesFaithfully_of_reconcilable keyed

/-! ## A group that is rejected -/

def walletInstruction : WendiPain001 :=
  ⟨some "WENDI-PAIN001-LOAN-000001", some "LOAN-000001", none, some 1000000, some "UGX", none,
    some "WENDI-TX-LOAN-000001", none⟩

/-- The group of the message is rejected, with no word of its transactions. -/
def walletRejection : Pain002 :=
  ⟨some "WENDI-PAIN002-LOAN-000001", some "WENDI-PAIN001-LOAN-000001", none, none, none,
    some "RJCT", none, none, none⟩

def rejectedGroup : Bronze where
  wendiPain001 := {⟨walletInstruction, ⟨"E-1", "wendi.pain001", 0, 0, none⟩⟩}
  wendiPain002 := {⟨walletRejection, ⟨"E-2", "wendi.pain002", 0, 0, none⟩⟩}

def rejectedSilver : Silver rejectedGroup := Bronze.KeysDistinct.silver (by decide +kernel)

/-- The message is of `WENDI` and its payment of `WENDI_PAIN001`, so that they are not joined. -/
theorem rejectedGroup_not_reconcilesFaithfully :
    ¬ ReconcilesFaithfully rejectedSilver.slvPdmPaymentsStatusReport
      rejectedSilver.slvPdmPaymentsMessages rejectedSilver.slvPdmPaymentsTransactions.kept := by
  intro faithful
  let report : PaymentStatus := walletRejection.status .wendi
  let message : PaymentMessage := ⟨walletInstruction.messageId, .pain001, .wendi, none⟩
  let payment : PaymentTransaction := ⟨walletInstruction.transaction, "WENDI-TX-LOAN-000001"⟩
  have keyed : (rejectedSilver.slvPdmPaymentsStatusReport.map PaymentStatus.key).Nodup := by
    decide +kernel
  have isReport : report ∈ rejectedSilver.slvPdmPaymentsStatusReport := by decide +kernel
  have isMessage : message ∈ rejectedSilver.slvPdmPaymentsMessages := by decide +kernel
  have isPayment : payment ∈ rejectedSilver.slvPdmPaymentsTransactions.kept := by decide +kernel
  have inexact : ∀ payment ∈ rejectedSilver.slvPdmPaymentsTransactions.kept,
      ¬ (exactOn report payment).holds := by
    decide +kernel
  have ofWallet : ∀ payment ∈ rejectedSilver.slvPdmPaymentsTransactions.kept,
      payment.sourceSystem ≠ .icmnVpm := by
    decide +kernel
  have noTransaction : ¬ HasMessageTransaction rejectedSilver.slvPdmPaymentsMessages
      rejectedSilver.slvPdmPaymentsTransactions.kept report := by
    rintro ⟨_, -, -, other, isOther, ofMessage, -⟩
    exact ofWallet other isOther (messageOn_some_iff.mp ofMessage).2.1
  have alone := faithful.messageAlone keyed isReport inexact noTransaction isMessage
    (by decide +kernel) isPayment
  exact alone.1 (by decide +kernel)

end PaymentsPlatform.Warehouse
