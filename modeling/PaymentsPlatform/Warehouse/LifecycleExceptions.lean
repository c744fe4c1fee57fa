import PaymentsPlatform.Warehouse.PaymentLifecycle
import PaymentsPlatform.Warehouse.StarSchema

/-!
# Exceptions in the life of a loan

`cns_pdm_lifecycle_exceptions` and `cns_pdm_financial_fund_flow` give every row of the lifecycle
fact a priority, by one expression that each of them has a copy of.
`cns_pdm_lifecycle_exception_cases` lists the exceptions of each row with a severity of their own.
-/

namespace PaymentsPlatform.Warehouse

open Bag Calendar

/-! ## gld_fct_pdm_payment_lifecycle -/

/-- The tables that the lifecycle models read. -/
structure LifecycleSources where
  slvPdmPaymentLifecycle : Multiset PaymentLifecycle := 0
  slvPdmLoanBeneficiaryLinks : Multiset LoanBeneficiaryLink := 0
  slvPdmBeneficiaries : Multiset Identity := 0
  gldDimPdmSacco : Multiset SaccoRow := 0

/-- A row of the fact, which repeats the columns of the Silver row. -/
structure LifecycleFact where
  lifecycle : PaymentLifecycle
  lifecycleSk : String
  beneficiarySk : String
  saccoSk : String
  geographySk : String
  approvalDateSk : String
  beneficiaryToken : Option String
  area : Option Area
  deriving DecidableEq

def lifecycleFact (md5 : String → String) (lifecycle : PaymentLifecycle)
    (loanLink : Option LoanBeneficiaryLink) (beneficiary : Option Identity) : LifecycleFact where
  lifecycle := lifecycle
  lifecycleSk := goldSurrogateKey md5 [lifecycle.loanId]
  beneficiarySk := goldSurrogateKey md5 [loanLink.bind LoanBeneficiaryLink.beneficiaryToken]
  saccoSk := goldSurrogateKey md5 [lifecycle.saccoId]
  geographySk := goldSurrogateKey md5 (Area.columns (beneficiary.map Identity.area))
  approvalDateSk := goldSurrogateKey md5 [lifecycle.approvalDate.map Date.text]
  beneficiaryToken := loanLink.bind LoanBeneficiaryLink.beneficiaryToken
  area := beneficiary.map Identity.area

namespace LifecycleSources

variable (sources : LifecycleSources)

def loanLinkOn (lifecycle : PaymentLifecycle) (loanLink : LoanBeneficiaryLink) : Truth :=
  equals lifecycle.loanId loanLink.loanId

def beneficiaryOn (row : PaymentLifecycle × Option LoanBeneficiaryLink) (beneficiary : Identity) :
    Truth :=
  equals (row.2.bind LoanBeneficiaryLink.beneficiaryToken) beneficiary.beneficiaryToken

def lifecycleLinks : Multiset (PaymentLifecycle × Option LoanBeneficiaryLink) :=
  leftJoin sources.slvPdmPaymentLifecycle sources.slvPdmLoanBeneficiaryLinks loanLinkOn

def lifecycleBeneficiaries :
    Multiset ((PaymentLifecycle × Option LoanBeneficiaryLink) × Option Identity) :=
  leftJoin sources.lifecycleLinks sources.slvPdmBeneficiaries beneficiaryOn

def gldFctPdmPaymentLifecycle (md5 : String → String) : Multiset LifecycleFact :=
  sources.lifecycleBeneficiaries.map fun ((lifecycle, loanLink), beneficiary) =>
    lifecycleFact md5 lifecycle loanLink beneficiary

end LifecycleSources

/-! ## The priority -/

inductive InterventionPriority where
  | high
  | medium
  | low
  deriving DecidableEq

/-- `coalesce(variance <> 0, false)`. -/
def deviates (variance : Option ℚ) : Bool := (differs variance (some 0)).holds

/-- `coalesce(variance > 0, false)`. -/
def overshoots (variance : Option ℚ) : Bool := (exceeds variance (some 0)).holds

namespace PaymentLifecycle

variable (row : PaymentLifecycle)

def hasRejectedResubmission : Bool := 0 < row.rejectedStatusCount && 1 < row.instructionCount

def hasDualSettlementRoute : Bool := 1 < row.settlementChannelCount

def hasMultipleCashouts : Bool := 1 < row.cashoutCount

def hasCreditAfterRejection : Bool :=
  0 < row.rejectedStatusCount && 0 < row.creditNotificationCount

/-- One of the amounts is not the one that it follows from. -/
def hasVariance : Bool :=
  deviates row.approvedToInstructedVariance || deviates row.instructedToSettledVariance ||
    deviates row.settledToCreditedVariance || deviates row.disbursedToCreditedVariance ||
    overshoots row.creditedToCashoutVariance

/-- The nine conditions under which a loan needs an intervention at once. -/
def isUrgent : Bool :=
  row.hasVariance || row.hasRejectedResubmission || row.hasDualSettlementRoute ||
    row.hasMultipleCashouts || row.hasCreditAfterRejection

/-- The expression of the two models. -/
def interventionPriority : InterventionPriority :=
  if row.isUrgent then .high
  else if row.instructedControlStatus = .missing ∨ row.settledControlStatus = .missing ∨
      row.creditedControlStatus = .missing then .medium
  else .low

end PaymentLifecycle

/-! ## cns_pdm_lifecycle_exceptions and cns_pdm_financial_fund_flow -/

structure LifecycleException where
  fact : LifecycleFact
  saccoId : Option String
  hasRejectedResubmission : Bool
  hasDualSettlementRoute : Bool
  hasMultipleCashouts : Bool
  hasCashoutAboveCredit : Bool
  hasCreditAfterRejection : Bool
  interventionPriority : InterventionPriority
  deriving DecidableEq

def lifecycleException (fact : LifecycleFact) (sacco : Option SaccoRow) : LifecycleException where
  fact := fact
  saccoId := sacco.bind SaccoRow.saccoId
  hasRejectedResubmission := fact.lifecycle.hasRejectedResubmission
  hasDualSettlementRoute := fact.lifecycle.hasDualSettlementRoute
  hasMultipleCashouts := fact.lifecycle.hasMultipleCashouts
  hasCashoutAboveCredit := overshoots fact.lifecycle.creditedToCashoutVariance
  hasCreditAfterRejection := fact.lifecycle.hasCreditAfterRejection
  interventionPriority := fact.lifecycle.interventionPriority

/-- A row of the fund flow, less the columns that it only renames. -/
structure FundFlow where
  fact : LifecycleFact
  approvalToRepaymentVariance : ℚ
  interventionPriority : InterventionPriority
  deriving DecidableEq

def fundFlow (fact : LifecycleFact) : FundFlow where
  fact := fact
  approvalToRepaymentVariance :=
    fact.lifecycle.amountRepaid.getD 0 - fact.lifecycle.amountApproved.getD 0
  interventionPriority := fact.lifecycle.interventionPriority

namespace LifecycleSources

variable (sources : LifecycleSources) (md5 : String → String)

def saccoOn (fact : LifecycleFact) (sacco : SaccoRow) : Truth :=
  equals (some fact.saccoSk) (some sacco.saccoSk)

def cnsPdmLifecycleExceptions : Multiset LifecycleException :=
  (leftJoin (sources.gldFctPdmPaymentLifecycle md5) sources.gldDimPdmSacco saccoOn).map
    fun (fact, sacco) => lifecycleException fact sacco

def cnsPdmFinancialFundFlow : Multiset FundFlow :=
  (sources.gldFctPdmPaymentLifecycle md5).map fundFlow

end LifecycleSources

/-! ## cns_pdm_lifecycle_exception_cases -/

inductive LifecycleStage where
  | paymentInstruction
  | paymentSettlement
  | crediting
  | repayment
  | disbursement
  | cashout
  deriving DecidableEq

inductive ExceptionType where
  | missingStage
  | settlementException
  | amountVariance
  deriving DecidableEq

inductive ExceptionSeverity where
  | high
  | medium
  deriving DecidableEq

structure ExceptionCase where
  lifecycleSk : String
  loanId : Option String
  beneficiaryToken : Option String
  saccoId : Option String
  region : Option String
  district : Option String
  lifecycleStage : LifecycleStage
  exceptionType : ExceptionType
  exceptionReason : String
  exceptionSeverity : ExceptionSeverity
  eventDate : Option Timestamp
  currentStatus : ControlStatus
  requiresReview : Bool
  interpretation : String
  deriving DecidableEq

/-- One of the selects of `cases`: which rows it takes, and what it says of them. -/
structure CaseBranch where
  lifecycleStage : LifecycleStage
  exceptionType : ExceptionType
  condition : PaymentLifecycle → Bool
  exceptionReason : PaymentLifecycle → String
  exceptionSeverity : PaymentLifecycle → ExceptionSeverity
  eventDate : PaymentLifecycle → Option Timestamp
  currentStatus : PaymentLifecycle → ControlStatus

/-- The three selects of a stage that is missing. -/
def missingStage (stage : LifecycleStage) (status : PaymentLifecycle → ControlStatus)
    (reason : String) (eventDate : PaymentLifecycle → Option Timestamp) : CaseBranch where
  lifecycleStage := stage
  exceptionType := .missingStage
  condition row := status row = .missing
  exceptionReason _ := reason
  exceptionSeverity _ := .medium
  eventDate := eventDate
  currentStatus := status

def settlementException : CaseBranch where
  lifecycleStage := .paymentSettlement
  exceptionType := .settlementException
  condition row := row.settledControlStatus ∈ [ControlStatus.missing, .rejected]
  exceptionReason row := if row.settledControlStatus = .rejected then "Settlement rejected"
    else "No successful settlement observed"
  exceptionSeverity row := if row.settledControlStatus = .rejected then .high else .medium
  eventDate _ := none
  currentStatus row := row.settledControlStatus

/-- The five selects of a variance. -/
def amountVariance (stage : LifecycleStage) (condition : PaymentLifecycle → Bool) (reason : String)
    (eventDate : PaymentLifecycle → Option Timestamp)
    (status : PaymentLifecycle → ControlStatus) : CaseBranch where
  lifecycleStage := stage
  exceptionType := .amountVariance
  condition := condition
  exceptionReason _ := reason
  exceptionSeverity _ := .high
  eventDate := eventDate
  currentStatus := status

def caseBranches : List CaseBranch :=
  [missingStage .paymentInstruction PaymentLifecycle.instructedControlStatus
      "No payment instruction observed" (fun _ => none),
    settlementException,
    missingStage .crediting PaymentLifecycle.creditedControlStatus
      "No credit notification observed" PaymentLifecycle.firstCreditedAt,
    missingStage .repayment PaymentLifecycle.repaidControlStatus
      "No repayment observed" (fun _ => none),
    amountVariance .paymentInstruction (fun row => deviates row.approvedToInstructedVariance)
      "Instructed amount differs from approved amount" (fun _ => none)
      PaymentLifecycle.instructedControlStatus,
    amountVariance .paymentSettlement (fun row => deviates row.instructedToSettledVariance)
      "Settled amount differs from instructed amount" (fun _ => none)
      PaymentLifecycle.settledControlStatus,
    amountVariance .crediting (fun row => deviates row.settledToCreditedVariance)
      "Credited amount differs from settled amount" PaymentLifecycle.firstCreditedAt
      PaymentLifecycle.creditedControlStatus,
    amountVariance .disbursement (fun row => deviates row.disbursedToCreditedVariance)
      "Credited amount differs from recorded disbursement" PaymentLifecycle.firstCreditedAt
      PaymentLifecycle.creditedControlStatus,
    amountVariance .cashout (fun row => overshoots row.creditedToCashoutVariance)
      "Cash-out amount exceeds credited amount" PaymentLifecycle.firstCashoutAt
      PaymentLifecycle.cashoutControlStatus]

def exceptionCase (branch : CaseBranch) (row : LifecycleException) : ExceptionCase where
  lifecycleSk := row.fact.lifecycleSk
  loanId := row.fact.lifecycle.loanId
  beneficiaryToken := row.fact.beneficiaryToken
  saccoId := row.saccoId
  region := row.fact.area.bind Area.region
  district := row.fact.area.bind Area.district
  lifecycleStage := branch.lifecycleStage
  exceptionType := branch.exceptionType
  exceptionReason := branch.exceptionReason row.fact.lifecycle
  exceptionSeverity := branch.exceptionSeverity row.fact.lifecycle
  eventDate := branch.eventDate row.fact.lifecycle
  currentStatus := branch.currentStatus row.fact.lifecycle
  requiresReview := true
  interpretation := "INDICATOR_NOT_FRAUD_DETERMINATION"

/-- The rows that a select takes. -/
def CaseBranch.cases (branch : CaseBranch) (base : Multiset LifecycleException) :
    Multiset ExceptionCase :=
  (base.filter fun row => branch.condition row.fact.lifecycle).map (exceptionCase branch)

def LifecycleSources.cnsPdmLifecycleExceptionCases (sources : LifecycleSources)
    (md5 : String → String) : Multiset ExceptionCase :=
  (caseBranches.map fun branch => branch.cases (sources.cnsPdmLifecycleExceptions md5)).sum

/-! ## What is promised -/

/-- The grain of the cases. -/
def ExceptionCase.key (exception : ExceptionCase) :
    Option String × LifecycleStage × ExceptionType :=
  (exception.loanId, exception.lifecycleStage, exception.exceptionType)

/-- A severe case belongs to a loan of the highest priority, the two priorities of a loan are one,
and no case is there twice. -/
structure LifecycleSources.SeverityAgrees (sources : LifecycleSources) (md5 : String → String) :
    Prop where
  exceptions : ∀ exception ∈ sources.cnsPdmLifecycleExceptionCases md5,
    exception.exceptionSeverity = .high → ∀ row ∈ sources.cnsPdmLifecycleExceptions md5,
      row.fact.lifecycle.loanId = exception.loanId → row.interventionPriority = .high
  fundFlow : ∀ exception ∈ sources.cnsPdmLifecycleExceptionCases md5,
    exception.exceptionSeverity = .high → ∀ flow ∈ sources.cnsPdmFinancialFundFlow md5,
      flow.fact.lifecycle.loanId = exception.loanId → flow.interventionPriority = .high
  equal : ∀ row ∈ sources.cnsPdmLifecycleExceptions md5,
    ∀ flow ∈ sources.cnsPdmFinancialFundFlow md5,
      row.fact.lifecycle.loanId = flow.fact.lifecycle.loanId →
        row.interventionPriority = flow.interventionPriority
  single : ((sources.cnsPdmLifecycleExceptionCases md5).map ExceptionCase.key).Nodup

/-- Something about the loan is listed. -/
def PaymentLifecycle.IsExceptional (row : PaymentLifecycle) : Prop :=
  ∃ branch ∈ caseBranches, branch.condition row

instance (row : PaymentLifecycle) : Decidable row.IsExceptional :=
  inferInstanceAs (Decidable (∃ branch ∈ caseBranches, branch.condition row = true))

/-- A rejected settlement is never all that is wrong, and a loan with an exception is joined with
one link, one beneficiary and one SACCO at most. -/
structure LifecycleSources.Consistent (sources : LifecycleSources) (md5 : String → String) :
    Prop where
  rejected : ∀ row ∈ sources.slvPdmPaymentLifecycle,
    row.settledControlStatus = .rejected → row.isUrgent
  loanLink : ∀ row ∈ sources.slvPdmPaymentLifecycle, row.IsExceptional →
    (partners sources.slvPdmLoanBeneficiaryLinks (LifecycleSources.loanLinkOn row)).card ≤ 1
  beneficiary : ∀ row ∈ sources.slvPdmPaymentLifecycle, row.IsExceptional →
    ∀ loanLink ∈ sources.slvPdmLoanBeneficiaryLinks,
      (LifecycleSources.loanLinkOn row loanLink).holds →
        (partners sources.slvPdmBeneficiaries fun beneficiary =>
          equals loanLink.beneficiaryToken beneficiary.beneficiaryToken).card ≤ 1
  sacco : ∀ row ∈ sources.slvPdmPaymentLifecycle, row.IsExceptional →
    (sources.gldDimPdmSacco.filter fun sacco =>
      sacco.saccoSk = goldSurrogateKey md5 [row.saccoId]).card ≤ 1

/-! ## Rows -/

namespace LifecycleSources

variable {sources : LifecycleSources} {md5 : String → String}

theorem mem_gldFctPdmPaymentLifecycle {fact : LifecycleFact}
    (member : fact ∈ sources.gldFctPdmPaymentLifecycle md5) :
    fact.lifecycle ∈ sources.slvPdmPaymentLifecycle := by
  obtain ⟨⟨⟨lifecycle, loanLink⟩, beneficiary⟩, joined, rfl⟩ := Multiset.mem_map.mp member
  exact (mem_leftJoin.mp (mem_leftJoin.mp joined).1).1

theorem mem_cnsPdmLifecycleExceptions {row : LifecycleException}
    (member : row ∈ sources.cnsPdmLifecycleExceptions md5) :
    row.fact.lifecycle ∈ sources.slvPdmPaymentLifecycle ∧
      row.interventionPriority = row.fact.lifecycle.interventionPriority := by
  obtain ⟨⟨fact, sacco⟩, joined, rfl⟩ := Multiset.mem_map.mp member
  exact ⟨mem_gldFctPdmPaymentLifecycle (mem_leftJoin.mp joined).1, rfl⟩

theorem mem_cnsPdmFinancialFundFlow {flow : FundFlow}
    (member : flow ∈ sources.cnsPdmFinancialFundFlow md5) :
    flow.fact.lifecycle ∈ sources.slvPdmPaymentLifecycle ∧
      flow.interventionPriority = flow.fact.lifecycle.interventionPriority := by
  obtain ⟨fact, joined, rfl⟩ := Multiset.mem_map.mp member
  exact ⟨mem_gldFctPdmPaymentLifecycle joined, rfl⟩

theorem exists_exception {lifecycle : PaymentLifecycle}
    (member : lifecycle ∈ sources.slvPdmPaymentLifecycle) :
    ∃ row ∈ sources.cnsPdmLifecycleExceptions md5, row.fact.lifecycle = lifecycle := by
  obtain ⟨loanLink, linked⟩ :=
    exists_mem_leftJoin member sources.slvPdmLoanBeneficiaryLinks loanLinkOn
  obtain ⟨beneficiary, joined⟩ :=
    exists_mem_leftJoin linked sources.slvPdmBeneficiaries beneficiaryOn
  have isFact : lifecycleFact md5 lifecycle loanLink beneficiary ∈
      sources.gldFctPdmPaymentLifecycle md5 :=
    Multiset.mem_map.mpr ⟨((lifecycle, loanLink), beneficiary), joined, rfl⟩
  obtain ⟨sacco, found⟩ := exists_mem_leftJoin isFact sources.gldDimPdmSacco saccoOn
  exact ⟨_, Multiset.mem_map_of_mem _ found, rfl⟩

theorem cnsPdmLifecycleExceptionCases_eq :
    sources.cnsPdmLifecycleExceptionCases md5 =
      (sources.cnsPdmLifecycleExceptions md5).bind fun row =>
        Multiset.ofList ((caseBranches.filter fun branch =>
          branch.condition row.fact.lifecycle).map fun branch => exceptionCase branch row) := by
  unfold cnsPdmLifecycleExceptionCases CaseBranch.cases
  generalize caseBranches = branches
  exact sum_map_filter_eq_bind (fun (branch : CaseBranch) (row : LifecycleException) =>
    branch.condition row.fact.lifecycle) exceptionCase branches _

theorem mem_cnsPdmLifecycleExceptionCases {exception : ExceptionCase} :
    exception ∈ sources.cnsPdmLifecycleExceptionCases md5 ↔
      ∃ row ∈ sources.cnsPdmLifecycleExceptions md5, ∃ branch ∈ caseBranches,
        branch.condition row.fact.lifecycle ∧ exceptionCase branch row = exception := by
  simp only [cnsPdmLifecycleExceptionCases_eq, Multiset.mem_bind, Multiset.mem_coe, List.mem_map,
    List.mem_filter, and_assoc]

end LifecycleSources

/-! ## Severity and priority -/

theorem PaymentLifecycle.interventionPriority_eq_high {row : PaymentLifecycle} :
    row.interventionPriority = .high ↔ row.isUrgent := by
  unfold interventionPriority
  split
  next urgent => simp [urgent]
  next calm => split <;> simp [calm]

theorem severe_cases {row : PaymentLifecycle} {branch : CaseBranch} (listed : branch ∈ caseBranches)
    (taken : branch.condition row) (severe : branch.exceptionSeverity row = .high) :
    row.hasVariance ∨ row.settledControlStatus = .rejected := by
  simp only [caseBranches, List.mem_cons, List.not_mem_nil, or_false] at listed
  rcases listed with rfl | rfl | rfl | rfl | rfl | rfl | rfl | rfl | rfl
  · cases severe
  · by_contra neither
    have other : settlementException.exceptionSeverity row = .medium :=
      if_neg fun rejected => neither (.inr rejected)
    rw [other] at severe
    cases severe
  · cases severe
  · cases severe
  all_goals
    simp only [amountVariance] at taken
    simp [PaymentLifecycle.hasVariance, taken]

theorem severe_of_rejected {row : PaymentLifecycle}
    (rejected : row.settledControlStatus = .rejected) :
    settlementException.condition row ∧ settlementException.exceptionSeverity row = .high := by
  simp [settlementException, rejected]

theorem settlementException_mem : settlementException ∈ caseBranches := by
  simp [caseBranches]

/-! ## The grain of the cases -/

/-- The keys of the cases of a loan. -/
def PaymentLifecycle.caseKeys (row : PaymentLifecycle) :
    List (Option String × LifecycleStage × ExceptionType) :=
  (caseBranches.filter fun branch => branch.condition row).map fun branch =>
    (row.loanId, branch.lifecycleStage, branch.exceptionType)

theorem nodup_caseKeys (row : PaymentLifecycle) : row.caseKeys.Nodup := by
  have distinct : (caseBranches.map fun branch =>
      (branch.lifecycleStage, branch.exceptionType)).Nodup := by
    decide
  have part := ((List.filter_sublist (p := fun branch => branch.condition row)
    (l := caseBranches)).map fun branch =>
      (branch.lifecycleStage, branch.exceptionType)).nodup distinct
  have tagged := part.map (Prod.mk_right_injective row.loanId)
  rwa [List.map_map] at tagged

theorem mem_caseKeys {row : PaymentLifecycle}
    {key : Option String × LifecycleStage × ExceptionType} (listed : key ∈ row.caseKeys) :
    row.loanId = key.1 ∧ row.IsExceptional := by
  obtain ⟨branch, taken, rfl⟩ := List.mem_map.mp listed
  obtain ⟨isBranch, condition⟩ := List.mem_filter.mp taken
  exact ⟨rfl, branch, isBranch, condition⟩

theorem PaymentLifecycle.IsExceptional.exists_caseKey {row : PaymentLifecycle}
    (exceptional : row.IsExceptional) : ∃ key, key ∈ row.caseKeys := by
  obtain ⟨branch, isBranch, condition⟩ := exceptional
  exact ⟨_, List.mem_map.mpr ⟨branch, List.mem_filter.mpr ⟨isBranch, condition⟩, rfl⟩⟩

namespace LifecycleSources

variable {sources : LifecycleSources} {md5 : String → String}

/-- The rows of a loan. -/
def exceptionsOf (sources : LifecycleSources) (md5 : String → String)
    (lifecycle : PaymentLifecycle) : Multiset LifecycleException :=
  (sources.cnsPdmLifecycleExceptions md5).filter fun row => row.fact.lifecycle = lifecycle

theorem map_key_cases :
    (sources.cnsPdmLifecycleExceptionCases md5).map ExceptionCase.key =
      (sources.cnsPdmLifecycleExceptions md5).bind fun row =>
        Multiset.ofList row.fact.lifecycle.caseKeys := by
  rw [cnsPdmLifecycleExceptionCases_eq, Multiset.map_bind]
  refine Multiset.bind_congr fun row _ => ?_
  rw [Multiset.map_coe, List.map_map]
  rfl

theorem nodup_cases_iff (unique : (sources.slvPdmPaymentLifecycle.map PaymentLifecycle.loanId).Nodup) :
    ((sources.cnsPdmLifecycleExceptionCases md5).map ExceptionCase.key).Nodup ↔
      ∀ row ∈ sources.slvPdmPaymentLifecycle, row.IsExceptional →
        (sources.exceptionsOf md5 row).card ≤ 1 := by
  have each (row : LifecycleException) (_ : row ∈ sources.cnsPdmLifecycleExceptions md5) :
      (Multiset.ofList row.fact.lifecycle.caseKeys).Nodup :=
    Multiset.coe_nodup.mpr (nodup_caseKeys row.fact.lifecycle)
  rw [map_key_cases, nodup_bind_iff each]
  simp only [Multiset.mem_coe]
  constructor
  · intro few row member exceptional
    obtain ⟨key, listed⟩ := exceptional.exists_caseKey
    refine le_trans (Multiset.card_le_card ?_) (few key)
    exact Multiset.monotone_filter_right _ fun other same => same.symm ▸ listed
  · intro few key
    rcases ((sources.cnsPdmLifecycleExceptions md5).filter fun row =>
      key ∈ row.fact.lifecycle.caseKeys).empty_or_exists_mem with none | ⟨first, member⟩
    · simp [none]
    · obtain ⟨isRow, listed⟩ := Multiset.mem_filter.mp member
      obtain ⟨ofKey, exceptional⟩ := mem_caseKeys listed
      have inLifecycle := (mem_cnsPdmLifecycleExceptions isRow).1
      refine le_trans (Multiset.card_le_card ?_) (few _ inLifecycle exceptional)
      rw [exceptionsOf, Multiset.le_filter]
      refine ⟨Multiset.filter_le _ _, fun other alsoMember => ?_⟩
      obtain ⟨alsoRow, alsoListed⟩ := Multiset.mem_filter.mp alsoMember
      -- loans have one row of the lifecycle each
      exact Multiset.inj_on_of_nodup_map unique _ (mem_cnsPdmLifecycleExceptions alsoRow).1 _
        inLifecycle ((mem_caseKeys alsoListed).1.trans ofKey.symm)

/-- The joins of one row of the lifecycle. -/
def rowSources (sources : LifecycleSources) (lifecycle : PaymentLifecycle) : LifecycleSources :=
  { sources with slvPdmPaymentLifecycle := {lifecycle} }

theorem exceptionsOf_eq (distinct : sources.slvPdmPaymentLifecycle.Nodup)
    {lifecycle : PaymentLifecycle} (member : lifecycle ∈ sources.slvPdmPaymentLifecycle) :
    sources.exceptionsOf md5 lifecycle =
      (sources.rowSources lifecycle).cnsPdmLifecycleExceptions md5 := by
  have alone : (sources.slvPdmPaymentLifecycle.filter fun row => row = lifecycle) = {lifecycle} := by
    rw [Multiset.filter_eq', Multiset.count_eq_one_of_mem distinct member, Multiset.replicate_one]
  have linked : sources.lifecycleLinks.filter (fun row => row.1 = lifecycle) =
      (sources.rowSources lifecycle).lifecycleLinks := by
    rw [lifecycleLinks, filter_leftJoin fun row => row = lifecycle, alone]
    rfl
  have joined : sources.lifecycleBeneficiaries.filter (fun row => row.1.1 = lifecycle) =
      (sources.rowSources lifecycle).lifecycleBeneficiaries := by
    rw [lifecycleBeneficiaries,
      filter_leftJoin fun row : PaymentLifecycle × Option LoanBeneficiaryLink => row.1 = lifecycle,
      linked]
    rfl
  have facts : (sources.gldFctPdmPaymentLifecycle md5).filter (fun fact => fact.lifecycle = lifecycle) =
      (sources.rowSources lifecycle).gldFctPdmPaymentLifecycle md5 := by
    rw [gldFctPdmPaymentLifecycle, Multiset.filter_map, gldFctPdmPaymentLifecycle, ← joined]
    rfl
  rw [exceptionsOf, cnsPdmLifecycleExceptions, Multiset.filter_map]
  have withSaccos := filter_leftJoin (fun fact : LifecycleFact => fact.lifecycle = lifecycle)
    (sources.gldFctPdmPaymentLifecycle md5) sources.gldDimPdmSacco saccoOn
  rw [facts] at withSaccos
  exact congrArg _ withSaccos

theorem partners_saccoOn (fact : LifecycleFact) :
    partners sources.gldDimPdmSacco (saccoOn fact) =
      sources.gldDimPdmSacco.filter fun sacco => sacco.saccoSk = fact.saccoSk := by
  refine Multiset.filter_congr fun sacco _ => ?_
  rw [saccoOn, holds_equals]
  constructor
  · intro ⟨value, ofFact, ofSacco⟩
    exact Option.some.inj (ofSacco.trans ofFact.symm)
  · intro same
    exact ⟨_, rfl, congrArg some same⟩

theorem card_cnsPdmLifecycleExceptions :
    (sources.cnsPdmLifecycleExceptions md5).card =
      (leftJoin (sources.gldFctPdmPaymentLifecycle md5) sources.gldDimPdmSacco saccoOn).card :=
  Multiset.card_map _ _

theorem card_gldFctPdmPaymentLifecycle :
    (sources.gldFctPdmPaymentLifecycle md5).card = sources.lifecycleBeneficiaries.card :=
  Multiset.card_map _ _

theorem card_joins_eq_iff {lifecycle : PaymentLifecycle} :
    ((sources.rowSources lifecycle).cnsPdmLifecycleExceptions md5).card ≤ 1 ↔
      (∀ row ∈ ({lifecycle} : Multiset PaymentLifecycle),
        (partners sources.slvPdmLoanBeneficiaryLinks (loanLinkOn row)).card ≤ 1) ∧
      (∀ row ∈ (sources.rowSources lifecycle).lifecycleLinks,
        (partners sources.slvPdmBeneficiaries (beneficiaryOn row)).card ≤ 1) ∧
      ∀ fact ∈ (sources.rowSources lifecycle).gldFctPdmPaymentLifecycle md5,
        (partners sources.gldDimPdmSacco (saccoOn fact)).card ≤ 1 := by
  have links := card_le_card_leftJoin {lifecycle} sources.slvPdmLoanBeneficiaryLinks loanLinkOn
  have beneficiaries := card_le_card_leftJoin (sources.rowSources lifecycle).lifecycleLinks
    sources.slvPdmBeneficiaries beneficiaryOn
  have saccos := card_le_card_leftJoin
    ((sources.rowSources lifecycle).gldFctPdmPaymentLifecycle md5) sources.gldDimPdmSacco saccoOn
  have facts := @card_gldFctPdmPaymentLifecycle (sources.rowSources lifecycle) md5
  rw [card_cnsPdmLifecycleExceptions, ← card_leftJoin_eq_iff, ← card_leftJoin_eq_iff,
    ← card_leftJoin_eq_iff]
  rw [Multiset.card_singleton] at links ⊢
  change 1 ≤ (sources.rowSources lifecycle).lifecycleLinks.card at links
  change _ ≤ (sources.rowSources lifecycle).lifecycleBeneficiaries.card at beneficiaries
  change (leftJoin ((sources.rowSources lifecycle).gldFctPdmPaymentLifecycle md5)
      sources.gldDimPdmSacco saccoOn).card ≤ 1 ↔
    (sources.rowSources lifecycle).lifecycleLinks.card = 1 ∧
      (sources.rowSources lifecycle).lifecycleBeneficiaries.card =
        (sources.rowSources lifecycle).lifecycleLinks.card ∧ _
  omega

theorem card_exceptions_le_one_iff (lifecycle : PaymentLifecycle) :
    ((sources.rowSources lifecycle).cnsPdmLifecycleExceptions md5).card ≤ 1 ↔
      (partners sources.slvPdmLoanBeneficiaryLinks (loanLinkOn lifecycle)).card ≤ 1 ∧
      (∀ loanLink ∈ sources.slvPdmLoanBeneficiaryLinks, (loanLinkOn lifecycle loanLink).holds →
        (partners sources.slvPdmBeneficiaries fun beneficiary =>
          equals loanLink.beneficiaryToken beneficiary.beneficiaryToken).card ≤ 1) ∧
      (sources.gldDimPdmSacco.filter fun sacco =>
        sacco.saccoSk = goldSurrogateKey md5 [lifecycle.saccoId]).card ≤ 1 := by
  rw [card_joins_eq_iff]
  refine and_congr ?_ (and_congr ?_ ?_)
  · simp
  · constructor
    · intro each loanLink inLinks holds
      exact each (lifecycle, some loanLink)
        (some_mem_leftJoin (Multiset.mem_singleton_self _) inLinks holds)
    · intro each row member
      obtain ⟨first, loanLink⟩ := row
      cases loanLink with
      | none => simp [partners, beneficiaryOn]
      | some loanLink =>
          have isFirst := Multiset.mem_singleton.mp (mem_leftJoin.mp member).1
          obtain ⟨inLinks, holds⟩ := partner_of_mem_leftJoin member
          exact each loanLink inLinks (isFirst ▸ holds)
  · have saccoSk (fact : LifecycleFact)
        (member : fact ∈ (sources.rowSources lifecycle).gldFctPdmPaymentLifecycle md5) :
        fact.saccoSk = goldSurrogateKey md5 [lifecycle.saccoId] := by
      have isRow := Multiset.mem_singleton.mp (mem_gldFctPdmPaymentLifecycle member)
      obtain ⟨⟨⟨first, loanLink⟩, beneficiary⟩, -, rfl⟩ := Multiset.mem_map.mp member
      exact congrArg (fun row : PaymentLifecycle => goldSurrogateKey md5 [row.saccoId]) isRow
    constructor
    · intro each
      obtain ⟨row, member, -⟩ := @exists_exception (sources.rowSources lifecycle) md5 lifecycle
        (Multiset.mem_singleton_self _)
      obtain ⟨⟨fact, sacco⟩, joined, -⟩ := Multiset.mem_map.mp member
      have isFact := (mem_leftJoin.mp joined).1
      have few := each fact isFact
      rwa [partners_saccoOn, saccoSk fact isFact] at few
    · intro few fact isFact
      rw [partners_saccoOn, saccoSk fact isFact]
      exact few

/-! ## When severity and priority agree -/

theorem equal_priorities
    (unique : (sources.slvPdmPaymentLifecycle.map PaymentLifecycle.loanId).Nodup)
    {row : LifecycleException} (isRow : row ∈ sources.cnsPdmLifecycleExceptions md5)
    {flow : FundFlow} (isFlow : flow ∈ sources.cnsPdmFinancialFundFlow md5)
    (same : row.fact.lifecycle.loanId = flow.fact.lifecycle.loanId) :
    row.interventionPriority = flow.interventionPriority := by
  obtain ⟨inLifecycle, ofRow⟩ := mem_cnsPdmLifecycleExceptions isRow
  obtain ⟨alsoInLifecycle, ofFlow⟩ := mem_cnsPdmFinancialFundFlow isFlow
  rw [ofRow, ofFlow, Multiset.inj_on_of_nodup_map unique _ inLifecycle _ alsoInLifecycle same]

theorem consistent_of_severityAgrees
    (unique : (sources.slvPdmPaymentLifecycle.map PaymentLifecycle.loanId).Nodup)
    (agrees : sources.SeverityAgrees md5) : sources.Consistent md5 := by
  have joinedOnce (row : PaymentLifecycle) (member : row ∈ sources.slvPdmPaymentLifecycle)
      (exceptional : row.IsExceptional) := by
    have few := (nodup_cases_iff unique).mp agrees.single row member exceptional
    rw [exceptionsOf_eq (Multiset.Nodup.of_map _ unique) member] at few
    exact (card_exceptions_le_one_iff row).mp few
  refine ⟨fun row member rejected => ?_, fun row member exceptional => ?_,
    fun row member exceptional => ?_, fun row member exceptional => ?_⟩
  · obtain ⟨taken, severe⟩ := severe_of_rejected rejected
    obtain ⟨exception, isRow, rfl⟩ := @exists_exception _ md5 _ member
    have isCase := mem_cnsPdmLifecycleExceptionCases.mpr
      ⟨exception, isRow, settlementException, settlementException_mem, taken, rfl⟩
    have high := agrees.exceptions _ isCase severe exception isRow rfl
    rw [(mem_cnsPdmLifecycleExceptions isRow).2] at high
    exact PaymentLifecycle.interventionPriority_eq_high.mp high
  · exact (joinedOnce row member exceptional).1
  · exact (joinedOnce row member exceptional).2.1
  · exact (joinedOnce row member exceptional).2.2

theorem severityAgrees_of_consistent
    (unique : (sources.slvPdmPaymentLifecycle.map PaymentLifecycle.loanId).Nodup)
    (consistent : sources.Consistent md5) : sources.SeverityAgrees md5 := by
  have exceptions (exception : ExceptionCase)
      (isCase : exception ∈ sources.cnsPdmLifecycleExceptionCases md5)
      (severe : exception.exceptionSeverity = .high) (row : LifecycleException)
      (isRow : row ∈ sources.cnsPdmLifecycleExceptions md5)
      (ofLoan : row.fact.lifecycle.loanId = exception.loanId) :
      row.interventionPriority = .high := by
    obtain ⟨other, alsoRow, branch, isBranch, taken, rfl⟩ :=
      mem_cnsPdmLifecycleExceptionCases.mp isCase
    obtain ⟨inLifecycle, ofRow⟩ := mem_cnsPdmLifecycleExceptions isRow
    have same := Multiset.inj_on_of_nodup_map unique _ inLifecycle _
      (mem_cnsPdmLifecycleExceptions alsoRow).1 ofLoan
    rw [ofRow, PaymentLifecycle.interventionPriority_eq_high, same]
    rcases severe_cases isBranch taken severe with varies | rejected
    · simp [PaymentLifecycle.isUrgent, varies]
    · exact consistent.rejected _ (mem_cnsPdmLifecycleExceptions alsoRow).1 rejected
  refine ⟨exceptions, ?_, fun row isRow flow isFlow => equal_priorities unique isRow isFlow, ?_⟩
  · intro exception isCase severe flow isFlow ofLoan
    obtain ⟨row, isRow, same⟩ := @exists_exception _ md5 _ (mem_cnsPdmFinancialFundFlow isFlow).1
    have ofFlow := congrArg PaymentLifecycle.loanId same
    rw [← equal_priorities unique isRow isFlow ofFlow]
    exact exceptions exception isCase severe row isRow (ofFlow.trans ofLoan)
  · refine (nodup_cases_iff unique).mpr fun row member exceptional => ?_
    rw [exceptionsOf_eq (Multiset.Nodup.of_map _ unique) member]
    exact (card_exceptions_le_one_iff row).mpr ⟨consistent.loanLink row member exceptional,
      consistent.beneficiary row member exceptional, consistent.sacco row member exceptional⟩

/-- Severity and priority agree exactly when a rejected settlement is never all that is wrong with a
loan, and no join repeats a loan with an exception. -/
theorem severityAgrees_iff
    (unique : (sources.slvPdmPaymentLifecycle.map PaymentLifecycle.loanId).Nodup) :
    sources.SeverityAgrees md5 ↔ sources.Consistent md5 :=
  ⟨consistent_of_severityAgrees unique, severityAgrees_of_consistent unique⟩

end LifecycleSources

/-! ## A rejected settlement -/

/-- A loan on which one status report says that the payment is rejected. -/
def rejectedLifecycle (instructionCount : Nat) : PaymentLifecycle :=
  lifecycleRow
    { loanId := some "LOAN-000001"
      beneficiaryId := none
      saccoId := none
      businessPlanId := none
      applicationDate := none
      approvalDate := none
      verificationDate := none
      disbursementDate := none
      cashoutDate := none
      asOfDate := none
      amountApproved := none
      amountDisbursed := none
      amountRepaid := none
      lastPaymentDate := none
      updatedAt := none }
    (some ⟨some "LOAN-000001", instructionCount, none, 0, 0, none, none⟩) none
    (some ⟨some "LOAN-000001", 0, 1, 1, 0, 0⟩) none none

def rejectedSources (instructionCount : Nat) : LifecycleSources where
  slvPdmPaymentLifecycle := {rejectedLifecycle instructionCount}

/-- After a second instruction the loan is urgent. -/
theorem resubmitted_severityAgrees : (rejectedSources 2).SeverityAgrees id :=
  (LifecycleSources.severityAgrees_iff (by decide)).mpr
    { rejected := fun row member _ => by
        rw [Multiset.mem_singleton.mp member]
        decide +kernel
      loanLink := fun _ _ _ => Nat.zero_le 1
      beneficiary := fun _ _ _ _ absent => absurd absent (Multiset.notMem_zero _)
      sacco := fun _ _ _ => Nat.zero_le 1 }

/-- A loan whose one instruction is rejected is of low priority. -/
theorem rejected_not_severityAgrees :
    ¬ ∀ (md5 : String → String) (sources : LifecycleSources),
      (sources.slvPdmPaymentLifecycle.map PaymentLifecycle.loanId).Nodup →
        sources.SeverityAgrees md5 := by
  intro always
  have unique : ((rejectedSources 1).slvPdmPaymentLifecycle.map PaymentLifecycle.loanId).Nodup := by
    decide
  have consistent := LifecycleSources.consistent_of_severityAgrees unique (always id _ unique)
  have urgent := consistent.rejected _ (Multiset.mem_singleton_self _) (by decide +kernel)
  exact absurd urgent (by decide +kernel)

end PaymentsPlatform.Warehouse
