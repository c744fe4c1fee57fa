import PaymentsPlatform.Warehouse.SettlementCounts
import PaymentsPlatform.Warehouse.StarSchema

/-!
# Payment operations

`cns_pdm_payment_operations` shows each payment with one status, the greatest text among those that
its reports give.  The lifecycle of the payment's loan asks whether one of the same reports accepts.
-/

namespace PaymentsPlatform.Warehouse

open Bag Calendar

/-! ## reported_status -/

structure ReportedStatus where
  transactionId : Option String
  transactionStatus : Option String
  groupStatus : Option String

/-- The greatest of the statuses that reports give on a transaction. -/
def reportedStatusOf (transactionId : Option String) (group : Multiset PaymentStatus) :
    ReportedStatus where
  transactionId := transactionId
  transactionStatus := maxOf (valuesWhere (fun status => some status.transactionStatus.isSome)
    PaymentStatus.transactionStatus group)
  groupStatus := maxOf (valuesWhere (fun status => some status.groupStatus.isSome)
    PaymentStatus.groupStatus group)

def reportedStatus (report : Multiset PaymentStatus) : Multiset ReportedStatus :=
  groupBy PaymentStatus.originalTransactionId reportedStatusOf
    (report.filter fun status => status.originalTransactionId.isSome)

/-! ## cns_pdm_payment_operations -/

inductive OperationStatus where
  | successful
  | failed
  | pending
  | notReported
  deriving DecidableEq

def successCodes : List String := ["ACSC", "COMPLETED", "SUCCESSFUL"]

def failureCodes : List String := ["RJCT", "FAILED"]

def operationStatus (resolved : Option String) : OperationStatus :=
  if (among resolved successCodes).holds then .successful
  else if (among resolved failureCodes).holds then .failed
  else if (equals resolved (some "PDNG")).holds then .pending
  else .notReported

structure PaymentOperation where
  paymentSk : String
  paymentDateSk : String
  paymentId : Option String
  transactionId : Option String
  beneficiarySk : String
  beneficiaryToken : Option String
  loanId : Option String
  saccoSk : String
  saccoId : Option String
  geographySk : String
  region : Option String
  district : Option String
  calendarDate : Option Date
  occurredAt : Option Timestamp
  sourceSystem : PaymentSource
  currency : Option String
  paymentAmount : Option ℚ
  sourceTransactionStatus : Option String
  transactionStatus : Option String
  paymentStatus : OperationStatus
  entityMatchStatus : Option EntityMatchStatus
  /-- `reconciliation_status` is `RECONCILED`. -/
  reconciliationStatus : Bool
  accountSubstitutionIndicator : Truth
  isSuccessful : Truth
  isFailed : Truth
  isReconciled : Bool
  isUnreconciled : Bool
  isEntityMatched : Truth
  paymentCount : Nat
  deriving DecidableEq

/-- The status of a payment, or else of the reports on it. -/
def resolvedTransactionStatus (payment : PaymentFact) (status : Option ReportedStatus) :
    Option String :=
  coalesce [payment.transactionStatus, status.bind ReportedStatus.transactionStatus,
    status.bind ReportedStatus.groupStatus]

def paymentOperation :
    ((PaymentFact × Option ReportedStatus) × Option DateRow) × Option SaccoRow → PaymentOperation :=
  fun (((payment, status), date), sacco) =>
    let resolved := resolvedTransactionStatus payment status
    { paymentSk := payment.paymentSk
      paymentDateSk := payment.paymentDateSk
      paymentId := payment.transactionId
      transactionId := payment.transactionId
      beneficiarySk := payment.beneficiarySk
      beneficiaryToken := payment.beneficiaryToken
      loanId := payment.loanId
      saccoSk := payment.saccoSk
      saccoId := sacco.bind SaccoRow.saccoId
      geographySk := payment.geographySk
      region := payment.region
      district := payment.district
      calendarDate := date.bind DateRow.calendarDate
      occurredAt := payment.occurredAt
      sourceSystem := payment.sourceSystem
      currency := payment.currency
      paymentAmount := payment.paymentAmount
      sourceTransactionStatus := payment.transactionStatus
      transactionStatus := resolved
      paymentStatus := operationStatus resolved
      entityMatchStatus := payment.entityMatchStatus
      reconciliationStatus := payment.isReconciled
      accountSubstitutionIndicator := payment.isAccountSubstituted
      isSuccessful := among resolved successCodes
      isFailed := among resolved failureCodes
      isReconciled := payment.isReconciled
      isUnreconciled := !payment.isReconciled
      isEntityMatched := payment.isEntityMatched
      paymentCount := 1 }

namespace Layers

variable {bronze : Bronze} (layers : Layers bronze)

def cnsPdmPaymentOperations (md5 : String → String) : Multiset PaymentOperation :=
  let payments := leftJoin (layers.gldFctPdmPayments md5)
    (reportedStatus layers.slvPdmPaymentsStatusReport)
    fun payment status => equals payment.transactionId status.transactionId
  let dates := leftJoin payments (layers.gldDimPdmDate md5)
    fun row date => equals (some row.1.paymentDateSk) (some date.dateSk)
  let saccos := leftJoin dates (layers.gldDimPdmSacco md5)
    fun row sacco => equals (some row.1.1.saccoSk) (some sacco.saccoSk)
  saccos.map paymentOperation

/-! ## What is shown of a payment -/

variable {layers} {md5 : String → String}

/-- The reports on a transaction, by which its rows are joined. -/
def reportedOn (transactionId : Option String) : Option ReportedStatus :=
  groupOf PaymentStatus.originalTransactionId reportedStatusOf
    (layers.slvPdmPaymentsStatusReport.filter fun status => status.originalTransactionId.isSome)
    transactionId

theorem mem_cnsPdmPaymentOperations {row : PaymentOperation}
    (member : row ∈ layers.cnsPdmPaymentOperations md5) :
    ∃ fact ∈ layers.gldFctPdmPayments md5, row.transactionId = fact.transactionId ∧
      row.sourceSystem = fact.sourceSystem ∧ row.paymentStatus = operationStatus
        (resolvedTransactionStatus fact (layers.reportedOn fact.transactionId)) := by
  obtain ⟨⟨⟨⟨fact, status⟩, date⟩, sacco⟩, joined, rfl⟩ := Multiset.mem_map.mp member
  have withStatus := (mem_leftJoin.mp (mem_leftJoin.mp joined).1).1
  rw [reportedStatus, leftJoin_groupBy (fun _ _ => rfl : ∀ value group,
    (reportedStatusOf value group).transactionId = value)] at withStatus
  obtain ⟨_, inFact, same⟩ := Multiset.mem_map.mp withStatus
  obtain ⟨rfl, rfl⟩ := Prod.mk.inj same
  exact ⟨_, inFact, rfl, rfl, rfl⟩

theorem exists_operation_of_fact {fact : PaymentFact} (member : fact ∈ layers.gldFctPdmPayments md5) :
    ∃ row ∈ layers.cnsPdmPaymentOperations md5, row.transactionId = fact.transactionId ∧
      row.sourceSystem = fact.sourceSystem := by
  obtain ⟨_, withStatus⟩ := exists_mem_leftJoin member
    (reportedStatus layers.slvPdmPaymentsStatusReport)
    fun payment status => equals payment.transactionId status.transactionId
  obtain ⟨_, withDate⟩ := exists_mem_leftJoin withStatus (layers.gldDimPdmDate md5)
    fun row date => equals (some row.1.paymentDateSk) (some date.dateSk)
  obtain ⟨_, withSacco⟩ := exists_mem_leftJoin withDate (layers.gldDimPdmSacco md5)
    fun row sacco => equals (some row.1.1.saccoSk) (some sacco.saccoSk)
  exact ⟨_, Multiset.mem_map.mpr ⟨_, withSacco, rfl⟩, rfl, rfl⟩

theorem exists_operation {payment : PaymentTransaction}
    (member : payment ∈ layers.slvPdmPaymentsTransactions.kept) :
    ∃ row ∈ layers.cnsPdmPaymentOperations md5, row.transactionId = payment.transactionId ∧
      row.sourceSystem = payment.sourceSystem := by
  obtain ⟨_, withEntity⟩ := exists_mem_leftJoin member layers.slvPdmPaymentEntityMatches
    fun payment entity => (equals (some payment.sourceSystem) (some entity.sourceSystem)).and
      (equals payment.transactionId entity.transactionId)
  obtain ⟨_, _, _, _, _, inFact⟩ := exists_fact_of_entity md5 withEntity
  exact exists_operation_of_fact inFact

end Layers

/-! ## What Silver knows of a settlement -/

namespace Silver

variable {bronze : Bronze} {silver : Silver bronze}

theorem transactionStatus_eq_none {payment : PaymentTransaction}
    (member : payment ∈ silver.slvPdmPaymentsTransactions.kept)
    (settles : payment.sourceSystem ∈ [PaymentSource.mtnPacs008, .airtelPacs008]) :
    payment.transactionStatus = none := by
  obtain ⟨transaction, inBronze, found⟩ := (Multiset.mem_filterMap _ _).mp
    (silver.slvPdmPaymentsTransactions.isFirsts.mem payment member)
  obtain ⟨recordIdentifier, -, rfl⟩ := Option.map_eq_some_iff.mp found
  simp only [Bronze.transactions, Multiset.mem_add, Multiset.mem_map] at inBronze
  rcases inBronze with ((((⟨_, _, rfl⟩ | ⟨_, _, rfl⟩) | ⟨_, _, rfl⟩) | ⟨_, _, rfl⟩) | ⟨_, _, rfl⟩) |
    ⟨_, _, rfl⟩
  · rfl
  · rfl
  · rfl
  · rfl
  · exact absurd settles (by simp [WalletTransaction.transaction])
  · exact absurd settles (by simp [AgentTransaction.transaction])

theorem groupStatus_eq_none {status : PaymentStatus}
    (member : status ∈ silver.slvPdmPaymentsStatusReport)
    (ofNetwork : status.statusSource ∈ [StatusSource.mtn, .airtel]) : status.groupStatus = none := by
  obtain ⟨row, inWindow, rfl⟩ := Multiset.mem_map.mp member
  have inBronze := silver.rankedStatusReport.isFirsts.mem row inWindow
  simp only [Bronze.statusEvents, Multiset.mem_add, Multiset.mem_map] at inBronze
  rcases inBronze with ((⟨_, _, rfl⟩ | ⟨_, _, rfl⟩) | ⟨_, _, rfl⟩) | ⟨_, _, rfl⟩
  · exact absurd ofNetwork (by simp [Stored.map, Pain002.status])
  · exact absurd ofNetwork (by simp [Stored.map, Pain002.status])
  · rfl
  · rfl

end Silver

/-! ## The settlement in both models -/

/-- The payment is the only settlement of its loan by a network, no other payment has its
transaction, and the reports on the transaction are those of the network on the loan. -/
structure SoleSettlement {bronze : Bronze} (layers : Layers bronze) (loanId transactionId : String)
    (payment : PaymentTransaction) : Prop where
  loan : ∃ loan ∈ layers.slvPdmLoans, loan.loanId = some loanId
  sole : settlementsOf layers.slvPdmPaymentsTransactions.kept (some loanId) = {payment}
  known : payment.transactionId = some transactionId
  unshared : ∀ other ∈ layers.slvPdmPaymentsTransactions.kept,
    other.transactionId = some transactionId → other = payment
  reported : ∀ status ∈ layers.slvPdmPaymentsStatusReport,
    status.originalTransactionId = some transactionId ↔
      status ∈ reportsOn layers.slvPdmPaymentsStatusReport (some loanId) payment.sourceSystem
  stated : ∀ status ∈ reportsOn layers.slvPdmPaymentsStatusReport (some loanId)
    payment.sourceSystem, status.transactionStatus.isSome

/-- The row shows the payment. -/
def PaymentOperation.Shows (row : PaymentOperation) (payment : PaymentTransaction) : Prop :=
  row.sourceSystem = payment.sourceSystem ∧ row.transactionId = payment.transactionId

/-- The payment is shown as successful if its loan counts it as accepted, and not as failed if the
loan is settled. -/
structure AgreesOnSettlement (md5 : String → String) {bronze : Bronze} (layers : Layers bronze)
    (loanId : String) (payment : PaymentTransaction) : Prop where
  successful : (∃ row ∈ layers.cnsPdmPaymentOperations md5,
      row.Shows payment ∧ row.paymentStatus = .successful) ↔
    ∃ row ∈ layers.slvPdmPaymentLifecycle, row.loanId = some loanId ∧ row.settlementCount = 1
  failed : ∀ row ∈ layers.cnsPdmPaymentOperations md5, row.Shows payment →
    ∀ lifecycle ∈ layers.slvPdmPaymentLifecycle, lifecycle.loanId = some loanId →
      lifecycle.settledControlStatus = .observed → row.paymentStatus ≠ .failed

/-- Some report accepts exactly if one that no other exceeds does, by one of its names. -/
def GreatestAccepts (reports : Multiset PaymentStatus) : Prop :=
  (∃ status ∈ reports, status.transactionStatus = some "ACSC") ↔
    ∃ status ∈ reports, (among status.transactionStatus successCodes).holds ∧
      ∀ other ∈ reports, nullsLast other.transactionStatus ≤ nullsLast status.transactionStatus

theorem settledControlStatus_ne_observed {bronze : Bronze} {silver : Silver bronze}
    {row : PaymentLifecycle} (member : row ∈ silver.slvPdmPaymentLifecycle)
    (none : row.settlementCount = 0) : row.settledControlStatus ≠ .observed := by
  rw [Silver.slvPdmPaymentLifecycle, lifecycleOf_eq] at member
  obtain ⟨loan, -, rfl⟩ := Multiset.mem_map.mp member
  dsimp only [lifecycleRow] at none ⊢
  rw [none, overtaken, if_neg (lt_irrefl 0)]
  split
  next => decide
  next => split <;> decide

namespace SoleSettlement

variable {bronze : Bronze} {layers : Layers bronze} {loanId transactionId : String}
  {payment : PaymentTransaction} {md5 : String → String}
  (sole : SoleSettlement layers loanId transactionId payment)

include sole

theorem mem_settlements :
    payment ∈ settlementsOf layers.slvPdmPaymentsTransactions.kept (some loanId) :=
  sole.sole ▸ Multiset.mem_singleton_self payment

theorem mem_transactions : payment ∈ layers.slvPdmPaymentsTransactions.kept :=
  Multiset.mem_of_mem_filter sole.mem_settlements

theorem settles : payment.sourceSystem ∈ [PaymentSource.mtnPacs008, .airtelPacs008] :=
  (Multiset.mem_filter.mp sole.mem_settlements).2.1

theorem reportedOn_eq : layers.reportedOn (some transactionId) =
    if (reportsOn layers.slvPdmPaymentsStatusReport (some loanId) payment.sourceSystem).card = 0 then
      none
    else some (reportedStatusOf (some transactionId)
      (reportsOn layers.slvPdmPaymentsStatusReport (some loanId) payment.sourceSystem)) := by
  have same : (layers.slvPdmPaymentsStatusReport.filter fun status =>
      status.originalTransactionId = some transactionId) =
      reportsOn layers.slvPdmPaymentsStatusReport (some loanId) payment.sourceSystem :=
    Multiset.filter_congr fun status member => (sole.reported status member).trans
      ⟨fun onLoan => (Multiset.mem_filter.mp onLoan).2,
        fun onLoan => Multiset.mem_filter.mpr ⟨member, onLoan⟩⟩
  rw [Layers.reportedOn, groupOf_some, filter_isSome_filter_eq, same]

theorem paymentStatus_eq {row : PaymentOperation} (member : row ∈ layers.cnsPdmPaymentOperations md5)
    (shows : row.Shows payment) : row.paymentStatus = operationStatus
      (maxOf ((reportsOn layers.slvPdmPaymentsStatusReport (some loanId)
        payment.sourceSystem).map PaymentStatus.transactionStatus)) := by
  obtain ⟨fact, inFact, ofFact, -, isStatus⟩ := Layers.mem_cnsPdmPaymentOperations member
  obtain ⟨other, _, _, _, _, _, _, withEntity, -, -, -, rfl⟩ := sources_of_mem inFact
  have isPayment : other = payment := sole.unshared other (mem_leftJoin.mp withEntity).1
    (ofFact.symm.trans (shows.2.trans sole.known))
  subst isPayment
  rw [isStatus]
  refine congrArg operationStatus ?_
  dsimp only [paymentFact, paymentColumns, resolvedTransactionStatus]
  rw [Silver.transactionStatus_eq_none sole.mem_transactions sole.settles, sole.known,
    sole.reportedOn_eq]
  split
  next none =>
    rw [Multiset.card_eq_zero.mp none]
    rfl
  next several =>
    obtain ⟨status, member⟩ := Multiset.card_pos_iff_exists_mem.mp (Nat.pos_of_ne_zero several)
    have values : valuesWhere (fun status => some status.transactionStatus.isSome)
        PaymentStatus.transactionStatus (reportsOn layers.slvPdmPaymentsStatusReport
          (some loanId) other.sourceSystem) = (reportsOn layers.slvPdmPaymentsStatusReport
            (some loanId) other.sourceSystem).map PaymentStatus.transactionStatus := by
      refine congrArg (Multiset.map PaymentStatus.transactionStatus)
        (Multiset.filter_eq_self.mpr fun status member => ?_)
      rw [Truth.holds_some]
      exact sole.stated status member
    cases greatest : maxOf ((reportsOn layers.slvPdmPaymentsStatusReport (some loanId)
        other.sourceSystem).map PaymentStatus.transactionStatus) with
    | none =>
        have missing := maxOf_eq_none.mp greatest _ (Multiset.mem_map_of_mem _ member)
        exact absurd (sole.stated status member) (by simp [missing])
    | some found => simp [coalesce, reportedStatusOf, values, greatest]

theorem settlementCount_eq {row : PaymentLifecycle} (member : row ∈ layers.slvPdmPaymentLifecycle)
    (ofLoan : row.loanId = some loanId) : row.settlementCount =
      if IsAccepted layers.slvPdmPaymentsStatusReport (some loanId) payment.sourceSystem then 1
      else 0 := by
  have channels : channelsOf layers.slvPdmPaymentsTransactions.kept (some loanId) =
      {payment.sourceSystem} := by
    rw [channelsOf, sole.sole]
    rfl
  rw [Warehouse.settlementCount_eq member, ofLoan, channels, Multiset.filter_singleton]
  split <;> rfl

theorem exists_lifecycle : ∃ row ∈ layers.slvPdmPaymentLifecycle, row.loanId = some loanId := by
  obtain ⟨loan, listed, named⟩ := sole.loan
  obtain ⟨row, member, same⟩ := exists_mem_lifecycleOf listed
    layers.slvPdmPaymentsTransactions.kept layers.slvPdmPaymentsStatusReport
    (contents bronze.wendiCamt054) (contents bronze.wendiCamt053)
  exact ⟨row, member, same.trans named⟩

theorem isAccepted_iff :
    IsAccepted layers.slvPdmPaymentsStatusReport (some loanId) payment.sourceSystem ↔
      ∃ status ∈ reportsOn layers.slvPdmPaymentsStatusReport (some loanId) payment.sourceSystem,
        status.transactionStatus = some "ACSC" := by
  refine exists_congr fun status => and_congr_right fun isReport => ?_
  obtain ⟨inReport, -, ofChannel⟩ := Multiset.mem_filter.mp isReport
  have ofNetwork : status.statusSource ∈ [StatusSource.mtn, .airtel] := by
    have settles := sole.settles
    revert ofChannel settles
    cases payment.sourceSystem <;> cases status.statusSource <;> decide
  rw [PaymentStatus.hasStatus, Silver.groupStatus_eq_none inReport ofNetwork, Truth.holds_or,
    holds_none_equals, Bool.or_false, holds_equals]
  simp

end SoleSettlement

theorem operationStatus_eq_successful {resolved : Option String} :
    operationStatus resolved = .successful ↔ (among resolved successCodes).holds := by
  unfold operationStatus
  split
  next holds => simp [holds]
  next other =>
    simp only [other]
    split
    next => decide
    next => split <;> decide

theorem holds_among_maxOf {reports : Multiset PaymentStatus} {codes : List String} :
    (among (maxOf (reports.map PaymentStatus.transactionStatus)) codes).holds ↔
      ∃ status ∈ reports, (among status.transactionStatus codes).holds ∧
        ∀ other ∈ reports, nullsLast other.transactionStatus ≤ nullsLast status.transactionStatus := by
  have holds {value : Option String} :
      (among value codes).holds ↔ ∃ code ∈ codes, value = some code := by
    cases value <;> simp [among, Truth.holds, eq_comm]
  rw [holds]
  constructor
  · rintro ⟨code, listed, greatest⟩
    obtain ⟨member, upper⟩ := maxOf_eq_some.mp greatest
    obtain ⟨status, inReports, same⟩ := Multiset.mem_map.mp member
    refine ⟨status, inReports, holds.mpr ⟨code, listed, same⟩, fun other alsoInReports => ?_⟩
    rw [same]
    cases named : other.transactionStatus with
    | none => exact bot_le
    | some value =>
        exact WithBot.coe_le_coe.mpr
          (upper value (named ▸ Multiset.mem_map_of_mem _ alsoInReports))
  · rintro ⟨status, inReports, isCode, upper⟩
    obtain ⟨code, listed, same⟩ := holds.mp isCode
    refine ⟨code, listed, maxOf_eq_some.mpr ⟨same ▸ Multiset.mem_map_of_mem _ inReports, ?_⟩⟩
    intro value member
    obtain ⟨other, alsoInReports, named⟩ := Multiset.mem_map.mp member
    have below := upper other alsoInReports
    rw [same, named] at below
    exact WithBot.coe_le_coe.mp below

/-- A settlement that is alone on its loan is shown as its loan counts it exactly when no report
beside those that accept it has a greater status. -/
theorem agreesOnSettlement_iff (md5 : String → String) {bronze : Bronze} {layers : Layers bronze}
    {loanId transactionId : String} {payment : PaymentTransaction}
    (sole : SoleSettlement layers loanId transactionId payment) :
    AgreesOnSettlement md5 layers loanId payment ↔ GreatestAccepts
      (reportsOn layers.slvPdmPaymentsStatusReport (some loanId) payment.sourceSystem) := by
  have shown : (∃ row ∈ layers.cnsPdmPaymentOperations md5,
      row.Shows payment ∧ row.paymentStatus = .successful) ↔
      ∃ status ∈ reportsOn layers.slvPdmPaymentsStatusReport (some loanId) payment.sourceSystem,
        (among status.transactionStatus successCodes).holds ∧
          ∀ other ∈ reportsOn layers.slvPdmPaymentsStatusReport (some loanId) payment.sourceSystem,
            nullsLast other.transactionStatus ≤ nullsLast status.transactionStatus := by
    rw [← holds_among_maxOf, ← operationStatus_eq_successful]
    constructor
    · rintro ⟨row, member, shows, successful⟩
      exact (sole.paymentStatus_eq member shows).symm.trans successful
    · intro successful
      obtain ⟨row, member, ofTransaction, ofSource⟩ :=
        @Layers.exists_operation _ layers md5 _ sole.mem_transactions
      exact ⟨row, member, ⟨ofSource, ofTransaction⟩,
        (sole.paymentStatus_eq member ⟨ofSource, ofTransaction⟩).trans successful⟩
  have counted : (∃ row ∈ layers.slvPdmPaymentLifecycle,
      row.loanId = some loanId ∧ row.settlementCount = 1) ↔
      ∃ status ∈ reportsOn layers.slvPdmPaymentsStatusReport (some loanId) payment.sourceSystem,
        status.transactionStatus = some "ACSC" := by
    rw [← sole.isAccepted_iff]
    constructor
    · rintro ⟨row, member, ofLoan, isOne⟩
      rw [sole.settlementCount_eq member ofLoan] at isOne
      by_contra refused
      rw [if_neg refused] at isOne
      cases isOne
    · intro accepted
      obtain ⟨row, member, ofLoan⟩ := sole.exists_lifecycle
      exact ⟨row, member, ofLoan, by rw [sole.settlementCount_eq member ofLoan, if_pos accepted]⟩
  constructor
  · intro agrees
    exact (counted.symm.trans agrees.successful.symm).trans shown
  · intro greatest
    refine ⟨shown.trans (greatest.symm.trans counted.symm), ?_⟩
    intro row member shows lifecycle inLifecycles ofLoan settled failed
    have accepted : IsAccepted layers.slvPdmPaymentsStatusReport (some loanId)
        payment.sourceSystem := by
      by_contra refused
      have none := sole.settlementCount_eq inLifecycles ofLoan
      rw [if_neg refused] at none
      exact settledControlStatus_ne_observed inLifecycles none settled
    obtain ⟨other, alsoMember, alsoShows, successful⟩ :=
      shown.mpr (greatest.mp (sole.isAccepted_iff.mp accepted))
    rw [sole.paymentStatus_eq member shows, ← sole.paymentStatus_eq alsoMember alsoShows,
      successful] at failed
    cases failed

/-! ## A settlement that is accepted, at once or after a rejection -/

/-- The events of a loan that MTN settles, with the statuses that it reports in turn. -/
def settledBronze (statuses : List String) : Bronze where
  pdmisLoans := {⟨settledLoan, ⟨"E-1", "pdmis.loans", 0, 0, none⟩⟩}
  mobileMtnPacs008 := {⟨⟨some "MTN-PACS008-LOAN-000001", some "LOAN-000001",
    some "TX-LOAN-000001", none, some 1000000, some "UGX"⟩,
    ⟨"E-2", "mobile.mtn.pacs008", 0, 0, none⟩⟩}
  mobileMtnPacs002 := Multiset.ofList (statuses.map fun status =>
    ⟨⟨some ("MTN-PACS002-" ++ status), some "TX-LOAN-000001", some "LOAN-000001", none, some status,
      none, none⟩, ⟨status, "mobile.mtn.pacs002", 0, 0, none⟩⟩)

def acceptedLayers : Layers (settledBronze ["ACSC"]) where
  toSilver := Bronze.KeysDistinct.silver (by decide +kernel)
  rankedCandidates := ⟨_, .of_nodup (by decide +kernel)⟩

def rejectedThenAcceptedLayers : Layers (settledBronze ["RJCT", "ACSC"]) where
  toSilver := Bronze.KeysDistinct.silver (by decide +kernel)
  rankedCandidates := ⟨_, .of_nodup (by decide +kernel)⟩

theorem accepted_sole :
    SoleSettlement acceptedLayers "LOAN-000001" "TX-LOAN-000001" mtnSettlement where
  loan := ⟨settledLoan, by decide +kernel, rfl⟩
  sole := by decide +kernel
  known := rfl
  unshared := by decide +kernel
  reported := by decide +kernel
  stated := by decide +kernel

theorem rejectedThenAccepted_sole :
    SoleSettlement rejectedThenAcceptedLayers "LOAN-000001" "TX-LOAN-000001" mtnSettlement where
  loan := ⟨settledLoan, by decide +kernel, rfl⟩
  sole := by decide +kernel
  known := rfl
  unshared := by decide +kernel
  reported := by decide +kernel
  stated := by decide +kernel

theorem accepted_agrees :
    AgreesOnSettlement id acceptedLayers "LOAN-000001" mtnSettlement := by
  have isReport : mtnReport "MTN-PACS002-ACSC" "ACSC" ∈
      reportsOn acceptedLayers.slvPdmPaymentsStatusReport (some "LOAN-000001") .mtnPacs008 := by
    decide +kernel
  exact (agreesOnSettlement_iff id accepted_sole).mpr
    ⟨fun _ => ⟨_, isReport, rfl, by decide +kernel⟩, fun _ => ⟨_, isReport, rfl⟩⟩

/-- A settlement that is rejected and then accepted is shown as failed. -/
theorem rejectedThenAccepted_not_agrees :
    ¬ ∀ (md5 : String → String) (bronze : Bronze) (layers : Layers bronze)
      (loanId transactionId : String) (payment : PaymentTransaction),
      SoleSettlement layers loanId transactionId payment →
        AgreesOnSettlement md5 layers loanId payment := by
  intro always
  have sole := rejectedThenAccepted_sole
  have agrees := always id _ _ _ _ _ sole
  obtain ⟨lifecycle, member, ofLoan⟩ := sole.exists_lifecycle
  obtain ⟨row, shown, shows, successful⟩ := agrees.successful.mpr
    ⟨lifecycle, member, ofLoan, by rw [sole.settlementCount_eq member ofLoan]; decide⟩
  rw [sole.paymentStatus_eq shown shows] at successful
  exact absurd successful (by decide +kernel)

end PaymentsPlatform.Warehouse
