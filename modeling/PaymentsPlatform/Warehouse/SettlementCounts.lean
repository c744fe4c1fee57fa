import PaymentsPlatform.Warehouse.PaymentLifecycle

/-!
# Counting settlements

A loan's row counts its settlements after they were joined with the status reports about them.
Channels and accepted channels are counted once however many reports there are; a settlement is
counted once for each of its reports.
-/

namespace PaymentsPlatform.Warehouse

open Bag Calendar

/-- The settlements of a loan by the networks. -/
def settlementsOf (payments : Multiset PaymentTransaction) (loanId : Option String) :
    Multiset PaymentTransaction :=
  payments.filter fun payment => payment.sourceSystem ∈ [PaymentSource.mtnPacs008, .airtelPacs008] ∧
    (equals payment.endToEndId loanId).holds

/-- The networks that settled a loan. -/
def channelsOf (payments : Multiset PaymentTransaction) (loanId : Option String) :
    Multiset PaymentSource :=
  ((settlementsOf payments loanId).map fun payment => payment.sourceSystem).dedup

/-- The status reports of a network on a loan. -/
def reportsOn (report : Multiset PaymentStatus) (loanId : Option String) (channel : PaymentSource) :
    Multiset PaymentStatus :=
  report.filter fun status => (equals status.endToEndId loanId).holds ∧
    some status.statusSource = channel.settlementStatusSource

/-- One of the reports accepts the settlement. -/
def IsAccepted (report : Multiset PaymentStatus) (loanId : Option String) (channel : PaymentSource) :
    Prop :=
  ∃ status ∈ reportsOn report loanId channel, (status.hasStatus "ACSC").holds

instance (report : Multiset PaymentStatus) (loanId : Option String) :
    DecidablePred (IsAccepted report loanId) :=
  fun _ => Multiset.decidableExistsMultiset

/-- One row for each loan, which counts its settlements, their networks and the networks that
accepted. -/
structure CountsSettlements (loans : Multiset Loan) (payments : Multiset PaymentTransaction)
    (report : Multiset PaymentStatus) (lifecycles : Multiset PaymentLifecycle) : Prop where
  rows : lifecycles.map PaymentLifecycle.loanId = loans.map Loan.loanId
  attempts : ∀ row ∈ lifecycles,
    row.settlementAttemptCount = (settlementsOf payments row.loanId).card
  channels : ∀ row ∈ lifecycles,
    row.settlementChannelCount = (channelsOf payments row.loanId).card
  accepted : ∀ row ∈ lifecycles,
    row.settlementCount = ((channelsOf payments row.loanId).filter
      (IsAccepted report row.loanId)).card

section Loan

variable (payments : Multiset PaymentTransaction) (report : Multiset PaymentStatus) (loanId : String)

theorem settlementsOf_eq : settlementsOf payments (some loanId) =
    (payments.filter IsSettlement).filter fun payment => payment.endToEndId = some loanId := by
  rw [settlementsOf, Multiset.filter_filter]
  refine Multiset.filter_congr fun payment _ => ?_
  rw [holds_equals]
  constructor
  · rintro ⟨network, known, named, same⟩
    have ofLoan : payment.endToEndId = some loanId := named.trans same.symm
    exact ⟨ofLoan, network, Option.isSome_of_eq_some ofLoan⟩
  · rintro ⟨ofLoan, network, -⟩
    exact ⟨network, loanId, ofLoan, rfl⟩

theorem settlementsOf_none : settlementsOf payments none = 0 :=
  Multiset.filter_eq_nil.mpr fun payment _ => by simp

theorem keys_eq : ((((payments.filter IsSettlement).map fun payment =>
    (payment.endToEndId, payment.sourceSystem)).dedup).filter fun key => key.1 = some loanId) =
      (channelsOf payments (some loanId)).map fun channel => (some loanId, channel) := by
  have distinct : ((channelsOf payments (some loanId)).map fun channel =>
      (some loanId, channel)).Nodup :=
    (Multiset.nodup_dedup _).map (Prod.mk_right_injective (some loanId))
  refine (Multiset.Nodup.ext ((Multiset.nodup_dedup _).filter _) distinct).mpr fun key => ?_
  simp only [channelsOf, settlementsOf_eq, Multiset.mem_filter, Multiset.mem_map, Multiset.mem_dedup]
  constructor
  · rintro ⟨⟨payment, settles, rfl⟩, ofLoan⟩
    exact ⟨payment.sourceSystem, ⟨payment, ⟨settles, ofLoan⟩, rfl⟩, Prod.ext ofLoan.symm rfl⟩
  · rintro ⟨channel, ⟨payment, ⟨settles, ofLoan⟩, rfl⟩, rfl⟩
    exact ⟨⟨payment, settles, Prod.ext ofLoan rfl⟩, rfl⟩

theorem settlementStatuses_eq : (settlementStatuses payments report).filter
    (fun row => IsSettlement row.1 ∧ row.1.endToEndId = some loanId) =
      leftJoin (settlementsOf payments (some loanId)) report fun payment status =>
        (equals payment.endToEndId status.endToEndId).and
          (equals (some status.statusSource) payment.sourceSystem.settlementStatusSource) := by
  rw [settlementStatuses, filter_leftJoin fun payment : PaymentTransaction =>
    IsSettlement payment ∧ payment.endToEndId = some loanId, settlementsOf_eq,
    Multiset.filter_filter]
  simp only [and_comm]

variable {payments report loanId}

theorem partners_eq {payment : PaymentTransaction}
    (member : payment ∈ settlementsOf payments (some loanId)) :
    (partners report fun status => (equals payment.endToEndId status.endToEndId).and
      (equals (some status.statusSource) payment.sourceSystem.settlementStatusSource)) =
      reportsOn report (some loanId) payment.sourceSystem := by
  rw [settlementsOf_eq] at member
  have ofLoan := (Multiset.mem_filter.mp member).2
  refine Multiset.filter_congr fun status _ => ?_
  rw [Truth.holds_and, Bool.and_eq_true, holds_equals, holds_equals, holds_equals, ofLoan]
  constructor
  · rintro ⟨⟨known, sameLoan, named⟩, source, ofReport, sameSource⟩
    exact ⟨⟨known, named, sameLoan⟩, ofReport.trans sameSource.symm⟩
  · rintro ⟨⟨known, named, sameLoan⟩, same⟩
    exact ⟨⟨known, sameLoan, named⟩, status.statusSource, rfl, same.symm⟩

/-! ## The counts of a loan -/

theorem attempts_eq_iff : (((settlementAttempts payments report).filter fun attempt =>
    attempt.loanId = some loanId).map SettlementAttempt.attemptCount).sum =
      (settlementsOf payments (some loanId)).card ↔
    ∀ channel ∈ channelsOf payments (some loanId),
      (reportsOn report (some loanId) channel).card ≤ 1 := by
  have counted := @sum_filter_groupBy _ _ _ _
    (fun row : PaymentTransaction × Option PaymentStatus => (row.1.endToEndId, row.1.sourceSystem))
    settlementAttempt (fun attempt => (attempt.loanId, attempt.sourceSystem)) (fun _ _ => rfl)
    SettlementAttempt.attemptCount (fun _ _ => rfl)
    ((settlementStatuses payments report).filter fun row => IsSettlement row.1)
    (fun key => key.1 = some loanId) _
  rw [Multiset.filter_filter] at counted
  simp only [and_comm (b := IsSettlement _)] at counted
  rw [settlementStatuses_eq] at counted
  rw [settlementAttempts, counted, card_leftJoin_eq_iff]
  constructor
  · intro single channel listed
    obtain ⟨payment, member, rfl⟩ := Multiset.mem_map.mp (Multiset.mem_dedup.mp listed)
    exact partners_eq member ▸ single payment member
  · intro single payment member
    rw [partners_eq member]
    exact single _ (Multiset.mem_dedup.mpr (Multiset.mem_map_of_mem _ member))

variable (payments report loanId)

theorem map_settled_eq : ((settlementAttempts payments report).filter fun attempt =>
    attempt.loanId = some loanId).map SettlementAttempt.settled =
      (channelsOf payments (some loanId)).map fun channel =>
        attemptOfVerdicts (payments.filter IsSettlement) (verdicts report loanId)
          (some loanId, channel) := by
  rw [map_settled_settlementAttempts, keys_eq, Multiset.map_map]
  rfl

theorem card_attempts : ((settlementAttempts payments report).filter fun attempt =>
    attempt.loanId = some loanId).card = (channelsOf payments (some loanId)).card := by
  have same := congrArg Multiset.card (map_settled_eq payments report loanId)
  rwa [Multiset.card_map, Multiset.card_map] at same

variable {payments report loanId}

theorem wasAccepted_iff {channel : PaymentSource}
    (listed : channel ∈ channelsOf payments (some loanId)) :
    (attemptOfVerdicts (payments.filter IsSettlement) (verdicts report loanId)
      (some loanId, channel)).wasAccepted.holds ↔ IsAccepted report (some loanId) channel := by
  obtain ⟨payment, member, rfl⟩ := Multiset.mem_map.mp (Multiset.mem_dedup.mp listed)
  rw [settlementsOf_eq] at member
  obtain ⟨settles, ofLoan⟩ := Multiset.mem_filter.mp member
  dsimp only [attemptOfVerdicts]
  rw [Truth.holds_some, decide_eq_true_iff]
  simp only [judged, Multiset.mem_map, Multiset.mem_bind, IsAccepted]
  constructor
  · rintro ⟨row, ⟨_, -, verdict, isPadded, rfl⟩, isAccepted⟩
    obtain ⟨found, isVerdict, accepted⟩ := Option.map_eq_some_iff.mp isAccepted
    rcases mem_padded isPadded with ⟨missing, -⟩ | ⟨_, inVerdicts, same⟩
    · cases missing.symm.trans isVerdict
    · obtain rfl := Option.some.inj (isVerdict.symm.trans same)
      obtain ⟨inReport, ofChannel⟩ := Multiset.mem_filter.mp inVerdicts
      rw [verdicts_eq_map] at inReport
      obtain ⟨status, onLoan, rfl⟩ := Multiset.mem_map.mp inReport
      obtain ⟨reported, named⟩ := Multiset.mem_filter.mp onLoan
      exact ⟨status, Multiset.mem_filter.mpr ⟨reported, holds_equals.mpr ⟨loanId, named, rfl⟩,
        ofChannel⟩, accepted⟩
  · rintro ⟨status, isReport, accepted⟩
    obtain ⟨reported, onLoan, ofChannel⟩ := Multiset.mem_filter.mp isReport
    obtain ⟨_, named, same⟩ := holds_equals.mp onLoan
    have inVerdicts : status.verdict ∈ (verdicts report loanId).filter fun verdict =>
        some verdict.statusSource = payment.sourceSystem.settlementStatusSource := by
      refine Multiset.mem_filter.mpr ⟨?_, ofChannel⟩
      rw [verdicts_eq_map]
      exact Multiset.mem_map_of_mem _ (Multiset.mem_filter.mpr ⟨reported, named.trans same.symm⟩)
    refine ⟨(payment, some status.verdict), ⟨payment, Multiset.mem_filter.mpr
      ⟨settles, Prod.ext ofLoan rfl⟩, some status.verdict, ?_, rfl⟩, congrArg some accepted⟩
    exact mem_padded_of_mem inVerdicts

theorem countWhere_wasAccepted : countWhere SettlementAttempt.wasAccepted
    ((settlementAttempts payments report).filter fun attempt => attempt.loanId = some loanId) =
      ((channelsOf payments (some loanId)).filter (IsAccepted report (some loanId))).card := by
  have counted : countWhere SettlementAttempt.wasAccepted
      ((settlementAttempts payments report).filter fun attempt => attempt.loanId = some loanId) =
      countWhere SettlementAttempt.wasAccepted
        (((settlementAttempts payments report).filter fun attempt =>
          attempt.loanId = some loanId).map SettlementAttempt.settled) := by
    rw [countWhere, countWhere, Multiset.filter_map, Multiset.card_map]
    exact congrArg Multiset.card (Multiset.filter_congr fun attempt _ => by
      simp [SettlementAttempt.settled])
  rw [counted, map_settled_eq, countWhere, Multiset.filter_map, Multiset.card_map]
  exact congrArg Multiset.card (Multiset.filter_congr fun channel listed => wasAccepted_iff listed)

end Loan

section Lifecycle

variable {loans : Multiset Loan} {payments : Multiset PaymentTransaction}
  {report : Multiset PaymentStatus} {notifications : Multiset Camt054}
  {statementRows : Multiset Camt053}

/-- The three counts of a loan's row. -/
def PaymentLifecycle.settlementCounts (row : PaymentLifecycle) : Nat × Nat × Nat :=
  (row.settlementAttemptCount, row.settlementChannelCount, row.settlementCount)

theorem settlementCounts_eq {row : PaymentLifecycle}
    (member : row ∈ lifecycleOf loans payments report notifications statementRows) :
    row.settlementCounts = match row.loanId with
      | none => (0, 0, 0)
      | some loanId =>
          let attempts := (settlementAttempts payments report).filter fun attempt =>
            attempt.loanId = some loanId
          ((attempts.map SettlementAttempt.attemptCount).sum, attempts.card,
            countWhere SettlementAttempt.wasAccepted attempts) := by
  rw [lifecycleOf_eq] at member
  obtain ⟨loan, -, rfl⟩ := Multiset.mem_map.mp member
  dsimp only [PaymentLifecycle.settlementCounts, lifecycleRow]
  cases loan.loanId with
  | none => rfl
  | some loanId =>
      refine Prod.ext ?_ (Prod.ext ?_ ?_)
      · exact getD_groupOf Settlement.settlementAttemptCount
          (fun group => (group.map SettlementAttempt.attemptCount).sum) (fun _ _ => rfl) rfl _ loanId
      · exact getD_groupOf Settlement.settlementChannelCount Multiset.card (fun _ _ => rfl)
          Multiset.card_zero _ loanId
      · exact getD_groupOf Settlement.settlementCount
          (countWhere SettlementAttempt.wasAccepted) (fun _ _ => rfl) rfl _ loanId

theorem exists_loan_of_lifecycle {row : PaymentLifecycle}
    (member : row ∈ lifecycleOf loans payments report notifications statementRows) :
    ∃ loan ∈ loans, row.loanId = loan.loanId := by
  rw [lifecycleOf_eq] at member
  obtain ⟨loan, listed, rfl⟩ := Multiset.mem_map.mp member
  exact ⟨loan, listed, rfl⟩

theorem settlementChannelCount_eq {row : PaymentLifecycle}
    (member : row ∈ lifecycleOf loans payments report notifications statementRows) :
    row.settlementChannelCount = (channelsOf payments row.loanId).card := by
  have isCount := congrArg (fun counts => counts.2.1) (settlementCounts_eq member)
  cases named : row.loanId with
  | none =>
      rw [named] at isCount
      rw [channelsOf, settlementsOf_none]
      exact isCount
  | some loanId =>
      rw [named] at isCount
      exact isCount.trans (card_attempts payments report loanId)

theorem settlementCount_eq {row : PaymentLifecycle}
    (member : row ∈ lifecycleOf loans payments report notifications statementRows) :
    row.settlementCount =
      ((channelsOf payments row.loanId).filter (IsAccepted report row.loanId)).card := by
  have isCount := congrArg (fun counts => counts.2.2) (settlementCounts_eq member)
  cases named : row.loanId with
  | none =>
      rw [named] at isCount
      rw [channelsOf, settlementsOf_none]
      exact isCount
  | some loanId =>
      rw [named] at isCount
      exact isCount.trans countWhere_wasAccepted

theorem single_of_countsSettlements (counts : CountsSettlements loans payments report
    (lifecycleOf loans payments report notifications statementRows)) {loan : Loan}
    (listed : loan ∈ loans) {channel : PaymentSource}
    (isChannel : channel ∈ channelsOf payments loan.loanId) :
    (reportsOn report loan.loanId channel).card ≤ 1 := by
  obtain ⟨row, member, same⟩ :=
    exists_mem_lifecycleOf listed payments report notifications statementRows
  have attempts := counts.attempts row member
  have isCount := congrArg Prod.fst (settlementCounts_eq member)
  rw [← same] at isChannel ⊢
  cases named : row.loanId with
  | none => simp [named, channelsOf, settlementsOf_none] at isChannel
  | some loanId =>
      rw [named] at attempts isChannel isCount
      exact attempts_eq_iff.mp (isCount.symm.trans attempts) channel isChannel

/-- Every settlement counts once if no network has sent two reports on a loan that it settled. -/
theorem countsSettlements_iff : CountsSettlements loans payments report
    (lifecycleOf loans payments report notifications statementRows) ↔
      ∀ loan ∈ loans, ∀ channel ∈ channelsOf payments loan.loanId,
        (reportsOn report loan.loanId channel).card ≤ 1 := by
  constructor
  · intro counts loan listed channel isChannel
    exact single_of_countsSettlements counts listed isChannel
  · intro single
    refine ⟨?_, ?_, ?_, ?_⟩
    · rw [lifecycleOf_eq, Multiset.map_map]
      rfl
    · intro row member
      have isCount := congrArg Prod.fst (settlementCounts_eq member)
      obtain ⟨loan, listed, same⟩ := exists_loan_of_lifecycle member
      have alone := single loan listed
      rw [← same] at alone
      cases named : row.loanId with
      | none =>
          rw [named] at isCount
          rw [settlementsOf_none]
          exact isCount
      | some loanId =>
          rw [named] at isCount alone
          exact isCount.trans (attempts_eq_iff.mpr alone)
    · exact fun row => settlementChannelCount_eq
    · exact fun row => settlementCount_eq

end Lifecycle

def settledLoan : Loan where
  loanId := some "LOAN-000001"
  beneficiaryId := none
  saccoId := none
  businessPlanId := none
  applicationDate := none
  approvalDate := none
  verificationDate := none
  disbursementDate := none
  cashoutDate := none
  asOfDate := none
  amountApproved := none
  amountDisbursed := none
  amountRepaid := none
  lastPaymentDate := none
  updatedAt := none

def mtnSettlement : PaymentTransaction where
  transactionId := some "TX-LOAN-000001"
  endToEndId := some "LOAN-000001"
  instructionId := none
  uetr := none
  messageId := some "MTN-PACS008-LOAN-000001"
  beneficiaryId := none
  saccoId := none
  agentId := none
  sourceSystem := .mtnPacs008
  occurredAt := none
  amount := some 1000000
  currency := some "UGX"
  transactionStatus := none
  recordIdentifier := "TX-LOAN-000001"

/-- A report by MTN on the settlement. -/
def mtnReport (messageId transactionStatus : String) : PaymentStatus where
  statusSource := .mtn
  messageId := some messageId
  originalMessageId := none
  originalTransactionId := some "TX-LOAN-000001"
  endToEndId := some "LOAN-000001"
  statusAt := none
  groupStatus := none
  transactionStatus := some transactionStatus
  reasonCode := none
  additionalInfo := none

/-- A settlement that is pending first and then accepted is two attempts. -/
theorem pendingThenAccepted_not_countsSettlements :
    ¬ ∀ (loans : Multiset Loan) (payments : Multiset PaymentTransaction)
      (report : Multiset PaymentStatus) (notifications : Multiset Camt054)
      (statementRows : Multiset Camt053), CountsSettlements loans payments report
        (lifecycleOf loans payments report notifications statementRows) := by
  intro always
  have counts := always {settledLoan} {mtnSettlement}
    {mtnReport "MTN-PACS002-1" "PDNG", mtnReport "MTN-PACS002-2" "ACSC"} 0 0
  have single := @single_of_countsSettlements _ _ _ _ _ counts settledLoan
    (Multiset.mem_singleton_self _) .mtnPacs008 (by decide)
  exact absurd single (by decide)

end PaymentsPlatform.Warehouse
