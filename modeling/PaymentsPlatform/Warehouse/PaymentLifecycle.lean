import PaymentsPlatform.Warehouse.Silver

/-!
# The life of a loan's payment

`slv_pdm_payment_lifecycle` reads the payments and the status reports of Silver, and the
notifications and statements of Bronze.  A loan reads no more of the status reports than how many
of each source are about it, and how many of these reject, hold or accept it.
-/

namespace PaymentsPlatform.Warehouse

open Bag Calendar

/-! ## The aggregates -/

structure PaymentStage where
  loanId : Option String
  instructionCount : Nat
  instructedAmount : Option ℚ
  routingEventCount : Nat
  cashoutCount : Nat
  cashoutAmount : Option ℚ
  firstCashoutAt : Option Timestamp

structure SettlementAttempt where
  loanId : Option String
  sourceSystem : PaymentSource
  attemptCount : Nat
  attemptedAmount : Option ℚ
  wasAccepted : Truth

structure Settlement where
  loanId : Option String
  settlementAttemptCount : Nat
  settlementChannelCount : Nat
  acceptedSettlementChannelCount : Nat
  settlementCount : Nat
  settledAmount : Option ℚ

structure StatusSummary where
  loanId : Option String
  paymentStatusCount : Nat
  settlementStatusCount : Nat
  rejectedStatusCount : Nat
  pendingStatusCount : Nat
  acceptedStatusCount : Nat

structure CreditSummary where
  loanId : Option String
  creditNotificationCount : Nat
  creditedAmount : Option ℚ
  firstCreditedAt : Option Timestamp

structure StatementSummary where
  loanId : Option String
  statementEvidenceCount : Nat

/-- `source_system = source`. -/
def PaymentTransaction.isFrom (source : PaymentSource) (payment : PaymentTransaction) : Truth :=
  some (decide (payment.sourceSystem = source))

/-- `transaction_status = code or group_status = code`. -/
def PaymentStatus.hasStatus (code : String) (status : PaymentStatus) : Truth :=
  (equals status.transactionStatus (some code)).or (equals status.groupStatus (some code))

/-- The source of the status reports on a network's settlements. -/
def PaymentSource.settlementStatusSource : PaymentSource → Option StatusSource
  | mtnPacs008 => some .mtn
  | airtelPacs008 => some .airtel
  | _ => none

def paymentStage (loanId : Option String) (group : Multiset PaymentTransaction) : PaymentStage where
  loanId := loanId
  instructionCount := countWhere (PaymentTransaction.isFrom .icmnVpm) group
  instructedAmount :=
    maxOf (valuesWhere (PaymentTransaction.isFrom .icmnVpm) (fun payment => payment.amount) group)
  routingEventCount := countWhere (PaymentTransaction.isFrom .wendiPain001) group
  cashoutCount := countWhere (PaymentTransaction.isFrom .agent) group
  cashoutAmount :=
    sumOf (valuesWhere (PaymentTransaction.isFrom .agent) (fun payment => payment.amount) group)
  firstCashoutAt :=
    minOf (valuesWhere (PaymentTransaction.isFrom .agent) (fun payment => payment.occurredAt) group)

def paymentStages (payments : Multiset PaymentTransaction) : Multiset PaymentStage :=
  groupBy (fun payment => payment.endToEndId) paymentStage
    (payments.filter fun payment => payment.endToEndId.isSome)

def settlementAttempt (key : Option String × PaymentSource)
    (group : Multiset (PaymentTransaction × Option PaymentStatus)) : SettlementAttempt where
  loanId := key.1
  sourceSystem := key.2
  attemptCount := group.card
  attemptedAmount := maxOf (group.map fun row => row.1.amount)
  wasAccepted := boolOr (group.map fun row => row.2.bind (PaymentStatus.hasStatus "ACSC"))

/-- The payment is a settlement by a network, on a known loan. -/
def IsSettlement (payment : PaymentTransaction) : Prop :=
  payment.sourceSystem ∈ [PaymentSource.mtnPacs008, .airtelPacs008] ∧ payment.endToEndId.isSome

instance : DecidablePred IsSettlement := fun _ => inferInstanceAs (Decidable (_ ∧ _))

def settlementStatuses (payments : Multiset PaymentTransaction) (report : Multiset PaymentStatus) :
    Multiset (PaymentTransaction × Option PaymentStatus) :=
  leftJoin payments report fun payment status =>
    (equals payment.endToEndId status.endToEndId).and
      (equals (some status.statusSource) payment.sourceSystem.settlementStatusSource)

def settlementAttempts (payments : Multiset PaymentTransaction) (report : Multiset PaymentStatus) :
    Multiset SettlementAttempt :=
  groupBy (fun row => (row.1.endToEndId, row.1.sourceSystem)) settlementAttempt
    ((settlementStatuses payments report).filter fun row => IsSettlement row.1)

def settlement (loanId : Option String) (group : Multiset SettlementAttempt) : Settlement where
  loanId := loanId
  settlementAttemptCount := (group.map SettlementAttempt.attemptCount).sum
  settlementChannelCount := group.card
  acceptedSettlementChannelCount := countWhere SettlementAttempt.wasAccepted group
  settlementCount := countWhere SettlementAttempt.wasAccepted group
  settledAmount :=
    maxOf (valuesWhere SettlementAttempt.wasAccepted SettlementAttempt.attemptedAmount group)

def settlements (payments : Multiset PaymentTransaction) (report : Multiset PaymentStatus) :
    Multiset Settlement :=
  groupBy SettlementAttempt.loanId settlement (settlementAttempts payments report)

def statusSummary (loanId : Option String) (group : Multiset PaymentStatus) : StatusSummary where
  loanId := loanId
  paymentStatusCount :=
    countWhere (fun status => among (some status.statusSource) [.cpoPsn, .cpoPlm, .wendi]) group
  settlementStatusCount :=
    countWhere (fun status => among (some status.statusSource) [.mtn, .airtel]) group
  rejectedStatusCount := countWhere (PaymentStatus.hasStatus "RJCT") group
  pendingStatusCount := countWhere (PaymentStatus.hasStatus "PDNG") group
  acceptedStatusCount := countWhere (PaymentStatus.hasStatus "ACSC") group

def statuses (report : Multiset PaymentStatus) : Multiset StatusSummary :=
  groupBy PaymentStatus.endToEndId statusSummary
    (report.filter fun status => status.endToEndId.isSome)

def creditSummary (loanId : Option String) (group : Multiset Camt054) : CreditSummary where
  loanId := loanId
  creditNotificationCount := group.card
  creditedAmount :=
    maxOf (group.map fun row => coalesce [row.transactionAmount, row.entryAmount])
  firstCreditedAt := minOf (group.map Camt054.notificationCreatedAt)

def credits (notifications : Multiset Camt054) : Multiset CreditSummary :=
  groupBy Camt054.endToEndId creditSummary
    (notifications.filter fun row => row.endToEndId.isSome)

def statementSummary (loanId : Option String) (group : Multiset Camt053) : StatementSummary :=
  ⟨loanId, group.card⟩

def statements (statementRows : Multiset Camt053) : Multiset StatementSummary :=
  groupBy Camt053.endToEndId statementSummary
    (statementRows.filter fun row => row.endToEndId.isSome)

/-! ## slv_pdm_payment_lifecycle -/

inductive ControlStatus where
  | observed
  | missing
  | rejected
  | pending
  | notApplicable
  | notObservable
  deriving DecidableEq

structure PaymentLifecycle where
  loanId : Option String
  beneficiaryId : Option String
  saccoId : Option String
  approvalDate : Option Date
  amountApproved : Option ℚ
  amountDisbursed : Option ℚ
  amountRepaid : Option ℚ
  instructionCount : Nat
  instructedAmount : Option ℚ
  routingEventCount : Nat
  paymentStatusCount : Nat
  settlementAttemptCount : Nat
  settlementCount : Nat
  settlementChannelCount : Nat
  acceptedSettlementChannelCount : Nat
  settledAmount : Option ℚ
  settlementStatusCount : Nat
  creditNotificationCount : Nat
  creditedAmount : Option ℚ
  firstCreditedAt : Option Timestamp
  statementEvidenceCount : Nat
  cashoutCount : Nat
  cashoutAmount : Option ℚ
  firstCashoutAt : Option Timestamp
  rejectedStatusCount : Nat
  pendingStatusCount : Nat
  acceptedStatusCount : Nat
  approvedControlStatus : ControlStatus
  instructedControlStatus : ControlStatus
  sentStatusControlStatus : ControlStatus
  settledControlStatus : ControlStatus
  creditedControlStatus : ControlStatus
  cashoutControlStatus : ControlStatus
  repaidControlStatus : ControlStatus
  recoveryControlStatus : ControlStatus
  deceasedEligibilityControlStatus : ControlStatus
  officialDeviceCollusionControlStatus : ControlStatus
  approvedToInstructedVariance : Option ℚ
  instructedToSettledVariance : Option ℚ
  settledToCreditedVariance : Option ℚ
  disbursedToCreditedVariance : Option ℚ
  creditedToCashoutVariance : Option ℚ
  deriving DecidableEq

/-- `left - right`. -/
def difference (left right : Option ℚ) : Option ℚ :=
  left.bind fun leftValue => right.map fun rightValue => leftValue - rightValue

/-- The status of a control that may be overtaken by a rejected or a pending report. -/
def overtaken (observed rejected pending : Nat) (ifRejected : ControlStatus) : ControlStatus :=
  if 0 < observed then .observed
  else if 0 < rejected then ifRejected
  else if 0 < pending then .pending
  else .missing

def observedIf (condition : Bool) : ControlStatus := if condition then .observed else .missing

/-- The row of a loan, from what the five joins found for it. -/
def lifecycleRow (loan : Loan) (stage : Option PaymentStage) (settlement : Option Settlement)
    (status : Option StatusSummary) (credit : Option CreditSummary)
    (statement : Option StatementSummary) : PaymentLifecycle :=
  let instructionCount := (stage.map PaymentStage.instructionCount).getD 0
  let instructedAmount := stage.bind PaymentStage.instructedAmount
  let paymentStatusCount := (status.map StatusSummary.paymentStatusCount).getD 0
  let settlementCount := (settlement.map Settlement.settlementCount).getD 0
  let settledAmount := settlement.bind Settlement.settledAmount
  let creditNotificationCount := (credit.map CreditSummary.creditNotificationCount).getD 0
  let creditedAmount := credit.bind CreditSummary.creditedAmount
  let cashoutCount := (stage.map PaymentStage.cashoutCount).getD 0
  let cashoutAmount := stage.bind PaymentStage.cashoutAmount
  let rejectedStatusCount := (status.map StatusSummary.rejectedStatusCount).getD 0
  let pendingStatusCount := (status.map StatusSummary.pendingStatusCount).getD 0
  { loanId := loan.loanId
    beneficiaryId := loan.beneficiaryId
    saccoId := loan.saccoId
    approvalDate := loan.approvalDate
    amountApproved := loan.amountApproved
    amountDisbursed := loan.amountDisbursed
    amountRepaid := loan.amountRepaid
    instructionCount
    instructedAmount
    routingEventCount := (stage.map PaymentStage.routingEventCount).getD 0
    paymentStatusCount
    settlementAttemptCount := (settlement.map Settlement.settlementAttemptCount).getD 0
    settlementCount
    settlementChannelCount := (settlement.map Settlement.settlementChannelCount).getD 0
    acceptedSettlementChannelCount :=
      (settlement.map Settlement.acceptedSettlementChannelCount).getD 0
    settledAmount
    settlementStatusCount := (status.map StatusSummary.settlementStatusCount).getD 0
    creditNotificationCount
    creditedAmount
    firstCreditedAt := credit.bind CreditSummary.firstCreditedAt
    statementEvidenceCount := (statement.map StatementSummary.statementEvidenceCount).getD 0
    cashoutCount
    cashoutAmount
    firstCashoutAt := stage.bind PaymentStage.firstCashoutAt
    rejectedStatusCount
    pendingStatusCount
    acceptedStatusCount := (status.map StatusSummary.acceptedStatusCount).getD 0
    approvedControlStatus := observedIf (exceeds loan.amountApproved (some 0)).holds
    instructedControlStatus := observedIf (0 < instructionCount)
    sentStatusControlStatus := observedIf (0 < paymentStatusCount)
    settledControlStatus :=
      overtaken settlementCount rejectedStatusCount pendingStatusCount .rejected
    creditedControlStatus :=
      overtaken creditNotificationCount rejectedStatusCount pendingStatusCount .notApplicable
    cashoutControlStatus :=
      overtaken cashoutCount rejectedStatusCount pendingStatusCount .notApplicable
    repaidControlStatus := observedIf (exceeds (coalesce [loan.amountRepaid, some 0]) (some 0)).holds
    recoveryControlStatus := .notObservable
    deceasedEligibilityControlStatus := .notObservable
    officialDeviceCollusionControlStatus := .notObservable
    approvedToInstructedVariance := difference instructedAmount loan.amountApproved
    instructedToSettledVariance := difference settledAmount instructedAmount
    settledToCreditedVariance := difference creditedAmount settledAmount
    disbursedToCreditedVariance := difference creditedAmount loan.amountDisbursed
    creditedToCashoutVariance := difference cashoutAmount creditedAmount }

/-- The model, as a query over the tables that it reads. -/
def lifecycleOf (loans : Multiset Loan) (payments : Multiset PaymentTransaction)
    (report : Multiset PaymentStatus) (notifications : Multiset Camt054)
    (statementRows : Multiset Camt053) : Multiset PaymentLifecycle :=
  let stages := leftJoin loans (paymentStages payments)
    fun loan stage => equals loan.loanId stage.loanId
  let settlements := leftJoin stages (settlements payments report)
    fun row settlement => equals row.1.loanId settlement.loanId
  let statuses := leftJoin settlements (statuses report)
    fun row status => equals row.1.1.loanId status.loanId
  let credits := leftJoin statuses (credits notifications)
    fun row credit => equals row.1.1.1.loanId credit.loanId
  let statements := leftJoin credits (statements statementRows)
    fun row statement => equals row.1.1.1.1.loanId statement.loanId
  statements.map fun (((((loan, stage), settlement), status), credit), statement) =>
    lifecycleRow loan stage settlement status credit statement

def Silver.slvPdmPaymentLifecycle {bronze : Bronze} (silver : Silver bronze) :
    Multiset PaymentLifecycle :=
  lifecycleOf silver.slvPdmLoans silver.slvPdmPaymentsTransactions.kept
    silver.slvPdmPaymentsStatusReport (contents bronze.wendiCamt054) (contents bronze.wendiCamt053)

/-! ## One row for each loan -/

theorem lifecycleOf_eq (loans : Multiset Loan) (payments : Multiset PaymentTransaction)
    (report : Multiset PaymentStatus) (notifications : Multiset Camt054)
    (statementRows : Multiset Camt053) :
    lifecycleOf loans payments report notifications statementRows = loans.map fun loan =>
      lifecycleRow loan
        (groupOf (fun payment => payment.endToEndId) paymentStage
          (payments.filter fun payment => payment.endToEndId.isSome) loan.loanId)
        (groupOf SettlementAttempt.loanId settlement (settlementAttempts payments report)
          loan.loanId)
        (groupOf PaymentStatus.endToEndId statusSummary
          (report.filter fun status => status.endToEndId.isSome) loan.loanId)
        (groupOf Camt054.endToEndId creditSummary
          (notifications.filter fun row => row.endToEndId.isSome) loan.loanId)
        (groupOf Camt053.endToEndId statementSummary
          (statementRows.filter fun row => row.endToEndId.isSome) loan.loanId) := by
  dsimp only [lifecycleOf, paymentStages, settlements, statuses, credits, statements]
  rw [leftJoin_groupBy (fun _ _ => rfl : ∀ value group, (paymentStage value group).loanId = value),
    leftJoin_groupBy (fun _ _ => rfl : ∀ value group, (settlement value group).loanId = value),
    leftJoin_groupBy (fun _ _ => rfl : ∀ value group, (statusSummary value group).loanId = value),
    leftJoin_groupBy (fun _ _ => rfl : ∀ value group, (creditSummary value group).loanId = value),
    leftJoin_groupBy (fun _ _ => rfl : ∀ value group, (statementSummary value group).loanId = value)]
  simp only [Multiset.map_map, Function.comp_apply]

/-! ## What a loan reads of the status reports -/

/-- What a status report says about settling a payment. -/
structure Verdict where
  statusSource : StatusSource
  rejected : Bool
  pending : Bool
  accepted : Bool
  deriving DecidableEq

namespace PaymentStatus

def verdict (status : PaymentStatus) : Verdict where
  statusSource := status.statusSource
  rejected := (status.hasStatus "RJCT").holds
  pending := (status.hasStatus "PDNG").holds
  accepted := (status.hasStatus "ACSC").holds

/-- The verdict on a loan, of a report that is about it. -/
def evidence (loanId : String) (status : PaymentStatus) : Option Verdict :=
  if status.endToEndId = some loanId then some status.verdict else none

end PaymentStatus

/-- The verdicts on a loan. -/
def verdicts (report : Multiset PaymentStatus) (loanId : String) : Multiset Verdict :=
  report.filterMap (PaymentStatus.evidence loanId)

theorem verdicts_eq_map (report : Multiset PaymentStatus) (loanId : String) :
    verdicts report loanId = (report.filter fun status => status.endToEndId = some loanId).map
      PaymentStatus.verdict := by
  rw [Multiset.map_filter_eq_filterMap]
  rfl

theorem card_filter_reports (report : Multiset PaymentStatus) (loanId : String)
    (test : Verdict → Bool) :
    ((report.filter fun status => status.endToEndId = some loanId).filter fun status =>
        test status.verdict).card = ((verdicts report loanId).filter fun verdict => test verdict).card := by
  rw [verdicts_eq_map, Multiset.filter_map, Multiset.card_map]
  rfl

section Statuses

theorem filter_isSome_filter_eq {α : Type} {column : α → Option String} (rows : Multiset α)
    (loanId : String) :
    ((rows.filter fun row => (column row).isSome).filter fun row => column row = some loanId) =
      rows.filter fun row => column row = some loanId := by
  rw [Multiset.filter_filter]
  exact Multiset.filter_congr fun row _ =>
    ⟨And.left, fun named => ⟨named, Option.isSome_of_eq_some named⟩⟩

/-- The summary of a loan's status reports counts its verdicts. -/
def summaryOfVerdicts (loanId : String) (verdicts : Multiset Verdict) : StatusSummary where
  loanId := some loanId
  paymentStatusCount := (verdicts.filter fun verdict =>
    decide (verdict.statusSource ∈ [StatusSource.cpoPsn, .cpoPlm, .wendi])).card
  settlementStatusCount := (verdicts.filter fun verdict =>
    decide (verdict.statusSource ∈ [StatusSource.mtn, .airtel])).card
  rejectedStatusCount := (verdicts.filter fun verdict => verdict.rejected).card
  pendingStatusCount := (verdicts.filter fun verdict => verdict.pending).card
  acceptedStatusCount := (verdicts.filter fun verdict => verdict.accepted).card

theorem groupOf_statuses (report : Multiset PaymentStatus) (loanId : String) :
    groupOf PaymentStatus.endToEndId statusSummary
        (report.filter fun status => status.endToEndId.isSome) (some loanId) =
      if verdicts report loanId = 0 then none
      else some (summaryOfVerdicts loanId (verdicts report loanId)) := by
  have summary : statusSummary (some loanId)
      (report.filter fun status => status.endToEndId = some loanId) =
      summaryOfVerdicts loanId (verdicts report loanId) := by
    simp only [statusSummary, summaryOfVerdicts, countWhere, ← card_filter_reports, among,
      Option.map_some, Truth.holds_some]
    rfl
  have empty : (report.filter fun status => status.endToEndId = some loanId).card = 0 ↔
      verdicts report loanId = 0 := by
    rw [verdicts_eq_map, Multiset.map_eq_zero, Multiset.card_eq_zero]
  rw [groupOf_some, filter_isSome_filter_eq, summary]
  simp only [empty]

end Statuses

section Settlements

/-- An attempt, without telling a report that does not accept from no report. -/
def SettlementAttempt.settled (attempt : SettlementAttempt) : SettlementAttempt :=
  { attempt with wasAccepted := some attempt.wasAccepted.holds }

theorem settlement_settled (loanId : Option String) (attempts : Multiset SettlementAttempt) :
    settlement loanId (attempts.map SettlementAttempt.settled) = settlement loanId attempts := by
  have accepted : (attempts.map SettlementAttempt.settled).filter
      (fun attempt => attempt.wasAccepted.holds) =
      (attempts.filter fun attempt => attempt.wasAccepted.holds).map SettlementAttempt.settled := by
    rw [Multiset.filter_map]
    exact congrArg _ (Multiset.filter_congr fun attempt _ => by
      simp [SettlementAttempt.settled])
  simp only [settlement, countWhere, valuesWhere, accepted, Multiset.map_map, Multiset.card_map]
  rfl

/-- A settlement with the verdicts on it. -/
def judged (payments : Multiset PaymentTransaction) (verdicts : Multiset Verdict)
    (sourceSystem : PaymentSource) : Multiset (PaymentTransaction × Option Verdict) :=
  payments.bind fun payment => (padded (verdicts.filter fun verdict =>
    some verdict.statusSource = sourceSystem.settlementStatusSource)).map
      fun verdict => (payment, verdict)

/-- An attempt, from the verdicts on its loan. -/
def attemptOfVerdicts (payments : Multiset PaymentTransaction) (verdicts : Multiset Verdict)
    (key : Option String × PaymentSource) : SettlementAttempt :=
  let group := judged (payments.filter fun payment =>
    (payment.endToEndId, payment.sourceSystem) = key) verdicts key.2
  { loanId := key.1
    sourceSystem := key.2
    attemptCount := group.card
    attemptedAmount := maxOf (group.map fun row => row.1.amount)
    wasAccepted := some (decide (some true ∈ group.map fun row => row.2.map Verdict.accepted)) }

theorem map_verdict_settlementStatuses {payments : Multiset PaymentTransaction}
    {report : Multiset PaymentStatus} {loanId : String} {sourceSystem : PaymentSource}
    (onLoan : ∀ payment ∈ payments, (payment.endToEndId, payment.sourceSystem) =
      (some loanId, sourceSystem)) :
    (settlementStatuses payments report).map (fun row => (row.1, row.2.map PaymentStatus.verdict)) =
      judged payments (verdicts report loanId) sourceSystem := by
  unfold settlementStatuses leftJoin judged
  rw [Multiset.map_bind]
  refine Multiset.bind_congr fun payment member => ?_
  obtain ⟨ofLoan, ofSource⟩ := Prod.mk.inj (onLoan payment member)
  have matching : (partners report fun status =>
      (equals payment.endToEndId status.endToEndId).and
        (equals (some status.statusSource) payment.sourceSystem.settlementStatusSource)).map
        PaymentStatus.verdict =
      (verdicts report loanId).filter fun verdict =>
        some verdict.statusSource = sourceSystem.settlementStatusSource := by
    rw [verdicts_eq_map, Multiset.filter_map, Multiset.filter_filter, partners]
    refine congrArg _ (Multiset.filter_congr fun status _ => ?_)
    rw [Truth.holds_and, Bool.and_eq_true, holds_equals, holds_equals, ofLoan, ofSource]
    simp only [PaymentStatus.verdict, Function.comp_apply]
    constructor
    · rintro ⟨⟨found, ofPayment, named⟩, known, same, source⟩
      exact ⟨same.trans source.symm, named.trans ofPayment.symm⟩
    · rintro ⟨source, named⟩
      exact ⟨⟨loanId, rfl, named⟩, status.statusSource, rfl, source.symm⟩
  rw [← matching, ← map_padded, Multiset.map_map, Multiset.map_map]
  rfl

theorem settled_settlementAttempt (payments : Multiset PaymentTransaction)
    (report : Multiset PaymentStatus) (loanId : String) (sourceSystem : PaymentSource) :
    (settlementAttempt (some loanId, sourceSystem)
      ((settlementStatuses payments report).filter fun row =>
        (row.1.endToEndId, row.1.sourceSystem) = (some loanId, sourceSystem))).settled =
      attemptOfVerdicts payments (verdicts report loanId) (some loanId, sourceSystem) := by
  have group : (settlementStatuses (payments.filter fun payment =>
      (payment.endToEndId, payment.sourceSystem) = (some loanId, sourceSystem)) report).map
        (fun row => (row.1, row.2.map PaymentStatus.verdict)) =
      judged (payments.filter fun payment =>
        (payment.endToEndId, payment.sourceSystem) = (some loanId, sourceSystem))
        (verdicts report loanId) sourceSystem :=
    map_verdict_settlementStatuses fun payment member => (Multiset.mem_filter.mp member).2
  rw [settlementStatuses, filter_leftJoin fun payment : PaymentTransaction =>
    (payment.endToEndId, payment.sourceSystem) = (some loanId, sourceSystem)]
  have accepted (rows : Multiset (PaymentTransaction × Option PaymentStatus)) :
      (boolOr (rows.map fun row => row.2.bind (PaymentStatus.hasStatus "ACSC"))).holds =
        decide (some true ∈ rows.map fun row =>
          (row.2.map PaymentStatus.verdict).map Verdict.accepted) := by
    rw [Bool.eq_iff_iff, holds_boolOr, decide_eq_true_iff, Multiset.mem_map, Multiset.mem_map]
    refine exists_congr fun row => and_congr_right fun _ => ?_
    rcases row with ⟨payment, _ | status⟩
    · simp
    · simp [PaymentStatus.verdict, Truth.holds]
  simp only [settlementAttempt, SettlementAttempt.settled, attemptOfVerdicts, ← group, accepted,
    Multiset.card_map, Multiset.map_map, Function.comp_def]
  rfl

theorem map_settled_settlementAttempts (payments : Multiset PaymentTransaction)
    (report : Multiset PaymentStatus) (loanId : String) :
    ((settlementAttempts payments report).filter fun attempt => attempt.loanId = some loanId).map
        SettlementAttempt.settled =
      ((((payments.filter IsSettlement).map fun payment =>
        (payment.endToEndId, payment.sourceSystem)).dedup).filter fun key =>
          key.1 = some loanId).map
        (attemptOfVerdicts (payments.filter IsSettlement) (verdicts report loanId)) := by
  have keys : ((settlementStatuses (payments.filter IsSettlement) report).map fun row =>
      (row.1.endToEndId, row.1.sourceSystem)).dedup =
      ((payments.filter IsSettlement).map fun payment =>
        (payment.endToEndId, payment.sourceSystem)).dedup := by
    refine Multiset.dedup_ext.mpr fun key => ?_
    simp only [Multiset.mem_map]
    constructor
    · rintro ⟨⟨payment, status⟩, member, rfl⟩
      exact ⟨payment, (mem_leftJoin.mp member).1, rfl⟩
    · rintro ⟨payment, member, rfl⟩
      obtain ⟨status, joined⟩ := exists_mem_leftJoin member report fun payment status =>
        (equals payment.endToEndId status.endToEndId).and
          (equals (some status.statusSource) payment.sourceSystem.settlementStatusSource)
      exact ⟨(payment, status), joined, rfl⟩
  have settled : (settlementStatuses payments report).filter (fun row => IsSettlement row.1) =
      settlementStatuses (payments.filter IsSettlement) report :=
    filter_leftJoin IsSettlement payments report _
  rw [settlementAttempts, settled, groupBy, keys, Multiset.filter_map, Multiset.map_map]
  refine Multiset.map_congr rfl fun key member => ?_
  obtain ⟨loan, sourceSystem⟩ := key
  obtain rfl : loan = some loanId := (Multiset.mem_filter.mp member).2
  exact settled_settlementAttempt (payments.filter IsSettlement) report loanId sourceSystem

theorem groupOf_settlements_congr (payments : Multiset PaymentTransaction)
    {report report' : Multiset PaymentStatus} {loanId : String}
    (same : verdicts report loanId = verdicts report' loanId) :
    groupOf SettlementAttempt.loanId settlement (settlementAttempts payments report) (some loanId) =
      groupOf SettlementAttempt.loanId settlement (settlementAttempts payments report')
        (some loanId) := by
  have attempts : ((settlementAttempts payments report).filter fun attempt =>
      attempt.loanId = some loanId).map SettlementAttempt.settled =
      ((settlementAttempts payments report').filter fun attempt =>
        attempt.loanId = some loanId).map SettlementAttempt.settled := by
    rw [map_settled_settlementAttempts, map_settled_settlementAttempts, same]
  have present (report : Multiset PaymentStatus) :
      some loanId ∈ (settlementAttempts payments report).map SettlementAttempt.loanId ↔
        ((settlementAttempts payments report).filter fun attempt =>
          attempt.loanId = some loanId).map SettlementAttempt.settled ≠ 0 := by
    rw [Ne, Multiset.map_eq_zero, Multiset.filter_eq_nil, Multiset.mem_map]
    simp only [not_forall, not_not, exists_prop]
  have summaries : settlement (some loanId) ((settlementAttempts payments report).filter fun attempt =>
      attempt.loanId = some loanId) = settlement (some loanId)
        ((settlementAttempts payments report').filter fun attempt => attempt.loanId = some loanId) := by
    rw [← settlement_settled, attempts, settlement_settled]
  unfold groupOf
  rw [summaries]
  exact if_congr (and_congr_right fun _ => (present report).trans (attempts ▸ (present report').symm))
    rfl rfl

end Settlements

/-! ## Loans that read the same -/

theorem lifecycleOf_congr (loans : Multiset Loan) (payments : Multiset PaymentTransaction)
    {report report' : Multiset PaymentStatus} {notifications notifications' : Multiset Camt054}
    {statementRows statementRows' : Multiset Camt053}
    (same : ∀ loan ∈ loans, ∀ loanId, loan.loanId = some loanId →
      verdicts report loanId = verdicts report' loanId ∧
      (notifications.filter fun row => row.endToEndId = some loanId) =
        (notifications'.filter fun row => row.endToEndId = some loanId) ∧
      (statementRows.filter fun row => row.endToEndId = some loanId) =
        statementRows'.filter fun row => row.endToEndId = some loanId) :
    lifecycleOf loans payments report notifications statementRows =
      lifecycleOf loans payments report' notifications' statementRows' := by
  rw [lifecycleOf_eq, lifecycleOf_eq]
  refine Multiset.map_congr rfl fun loan member => ?_
  cases named : loan.loanId with
  | none => rfl
  | some loanId =>
      obtain ⟨reports, ofNotifications, ofStatements⟩ := same loan member loanId named
      have credited : groupOf Camt054.endToEndId creditSummary
          (notifications.filter fun row => row.endToEndId.isSome) (some loanId) =
          groupOf Camt054.endToEndId creditSummary
            (notifications'.filter fun row => row.endToEndId.isSome) (some loanId) :=
        groupOf_congr (by rw [filter_isSome_filter_eq, filter_isSome_filter_eq, ofNotifications])
      have stated : groupOf Camt053.endToEndId statementSummary
          (statementRows.filter fun row => row.endToEndId.isSome) (some loanId) =
          groupOf Camt053.endToEndId statementSummary
            (statementRows'.filter fun row => row.endToEndId.isSome) (some loanId) :=
        groupOf_congr (by rw [filter_isSome_filter_eq, filter_isSome_filter_eq, ofStatements])
      rw [groupOf_settlements_congr payments reports, groupOf_statuses, groupOf_statuses, reports,
        credited, stated]

/-- The columns of a row that count status reports. -/
def PaymentLifecycle.statusSummary (row : PaymentLifecycle) : StatusSummary where
  loanId := row.loanId
  paymentStatusCount := row.paymentStatusCount
  settlementStatusCount := row.settlementStatusCount
  rejectedStatusCount := row.rejectedStatusCount
  pendingStatusCount := row.pendingStatusCount
  acceptedStatusCount := row.acceptedStatusCount

theorem counts_of_mem_lifecycleOf {loans : Multiset Loan} {payments : Multiset PaymentTransaction}
    {report : Multiset PaymentStatus} {notifications : Multiset Camt054}
    {statementRows : Multiset Camt053} {row : PaymentLifecycle} {loanId : String}
    (member : row ∈ lifecycleOf loans payments report notifications statementRows)
    (named : row.loanId = some loanId) :
    row.statusSummary = summaryOfVerdicts loanId (verdicts report loanId) ∧
      row.creditNotificationCount =
        (notifications.filter fun row => row.endToEndId = some loanId).card ∧
      row.statementEvidenceCount =
        (statementRows.filter fun row => row.endToEndId = some loanId).card := by
  rw [lifecycleOf_eq] at member
  obtain ⟨loan, -, rfl⟩ := Multiset.mem_map.mp member
  have ofLoan : loan.loanId = some loanId := named
  rw [ofLoan, groupOf_statuses]
  refine ⟨?_, ?_, ?_⟩
  · by_cases none : verdicts report loanId = 0
    · simp only [none, if_true, PaymentLifecycle.statusSummary, lifecycleRow, ofLoan]
      rfl
    · simp only [none, if_false, PaymentLifecycle.statusSummary, lifecycleRow, ofLoan]
      rfl
  · rw [← filter_isSome_filter_eq notifications loanId]
    exact getD_groupOf CreditSummary.creditNotificationCount Multiset.card (fun _ _ => rfl)
      Multiset.card_zero _ loanId
  · rw [← filter_isSome_filter_eq statementRows loanId]
    exact getD_groupOf StatementSummary.statementEvidenceCount Multiset.card (fun _ _ => rfl)
      Multiset.card_zero _ loanId

theorem exists_mem_lifecycleOf {loans : Multiset Loan} {loan : Loan} (member : loan ∈ loans)
    (payments : Multiset PaymentTransaction) (report : Multiset PaymentStatus)
    (notifications : Multiset Camt054) (statementRows : Multiset Camt053) :
    ∃ row ∈ lifecycleOf loans payments report notifications statementRows,
      row.loanId = loan.loanId := by
  rw [lifecycleOf_eq]
  exact ⟨_, Multiset.mem_map_of_mem _ member, rfl⟩

end PaymentsPlatform.Warehouse
