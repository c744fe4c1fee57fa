import Mathlib.Algebra.Order.Group.Unbundled.Abs
import PaymentsPlatform.Warehouse.Matches

/-!
# Results of the data quality rules

`slv_pdm_dq_results` has a row for each rule and each entity that the rule is about.  The verdict
of a rule may be unknown, and its status is then the one of a failure; three of the rules about
loans can be unknown, where an amount or a date that they compare is missing.
-/

namespace PaymentsPlatform.Warehouse

open Bag Calendar

/-! ## What the rules read -/

/-- The columns of a loan that only the rules read. -/
structure LoanAccount extends Loan where
  amountRequested : Option ℚ
  principalRepaid : Option ℚ
  interestCharged : Option ℚ
  interestPaid : Option ℚ
  principalOutstandingBalance : Option ℚ
  interestOutstandingBalance : Option ℚ
  outstandingBalance : Option ℚ
  loanStatus : Option String
  deriving DecidableEq

/-- The tables of Silver that the rules read. -/
structure DqSources where
  slvPdmPaymentsTransactions : Multiset PaymentTransaction := 0
  slvPdmPaymentEntityMatches : Multiset EntityMatch := 0
  slvPdmPaymentsReconciliation : Multiset Reconciliation := 0
  slvPdmLoans : Multiset LoanAccount := 0
  slvPdmLoanBeneficiaryLinks : Multiset LoanBeneficiaryLink := 0
  slvPdmBeneficiaries : Multiset Identity := 0
  slvPdmSaccos : Multiset Sacco := 0
  slvPdmBusinessPlans : Multiset BusinessPlan := 0

/-! ## The rules -/

inductive EntityType where
  | paymentTransaction
  | paymentEntityMatch
  | paymentReconciliation
  | loan
  deriving DecidableEq

def EntityType.text : EntityType → String
  | paymentTransaction => "PAYMENT_TRANSACTION"
  | paymentEntityMatch => "PAYMENT_ENTITY_MATCH"
  | paymentReconciliation => "PAYMENT_RECONCILIATION"
  | loan => "LOAN"

inductive RuleCode where
  | amountPositive
  | currencyIsoLength
  | crossDomainEntityMatched
  | paymentStatusReconciled
  | requestedAmountPositive
  | approvedNotAboveRequested
  | disbursedNotAboveApproved
  | repaidNotAboveDue
  | repaidComponentsReconcile
  | outstandingComponentsReconcile
  | contractualBalanceReconciles
  | approvalDateOrder
  | lifecycleDateOrder
  | beneficiaryExists
  | saccoExists
  | businessPlanExists
  deriving DecidableEq

theorem EntityType.text_injective : Function.Injective EntityType.text := by
  intro first second same
  cases first <;> cases second <;> first | rfl | exact absurd same (by decide)

def RuleCode.text : RuleCode → String
  | amountPositive => "AMOUNT_POSITIVE"
  | currencyIsoLength => "CURRENCY_ISO_LENGTH"
  | crossDomainEntityMatched => "CROSS_DOMAIN_ENTITY_MATCHED"
  | paymentStatusReconciled => "PAYMENT_STATUS_RECONCILED"
  | requestedAmountPositive => "REQUESTED_AMOUNT_POSITIVE"
  | approvedNotAboveRequested => "APPROVED_NOT_ABOVE_REQUESTED"
  | disbursedNotAboveApproved => "DISBURSED_NOT_ABOVE_APPROVED"
  | repaidNotAboveDue => "REPAID_NOT_ABOVE_DUE"
  | repaidComponentsReconcile => "REPAID_COMPONENTS_RECONCILE"
  | outstandingComponentsReconcile => "OUTSTANDING_COMPONENTS_RECONCILE"
  | contractualBalanceReconciles => "CONTRACTUAL_BALANCE_RECONCILES"
  | approvalDateOrder => "APPROVAL_DATE_ORDER"
  | lifecycleDateOrder => "LIFECYCLE_DATE_ORDER"
  | beneficiaryExists => "BENEFICIARY_EXISTS"
  | saccoExists => "SACCO_EXISTS"
  | businessPlanExists => "BUSINESS_PLAN_EXISTS"

def RuleCode.all : List RuleCode :=
  [amountPositive, currencyIsoLength, crossDomainEntityMatched, paymentStatusReconciled,
    requestedAmountPositive, approvedNotAboveRequested, disbursedNotAboveApproved,
    repaidNotAboveDue, repaidComponentsReconcile, outstandingComponentsReconcile,
    contractualBalanceReconciles, approvalDateOrder, lifecycleDateOrder, beneficiaryExists,
    saccoExists, businessPlanExists]

theorem RuleCode.text_injective : Function.Injective RuleCode.text := by
  have listed (code : RuleCode) : code ∈ all := by cases code <;> decide
  have distinct : (all.map text).Nodup := by decide +kernel
  intro first second same
  exact List.inj_on_of_nodup_map distinct (listed first) (listed second) same

/-- A rule with its verdict on an entity. -/
structure Rule where
  ruleCode : RuleCode
  rulePassed : Truth
  ruleDetail : String
  deriving DecidableEq

def paymentRules (payment : PaymentTransaction) : List Rule :=
  [⟨.amountPositive, Truth.and (some payment.amount.isSome) (exceeds payment.amount (some 0)),
      "Payment amount must be greater than zero"⟩,
    ⟨.currencyIsoLength,
      Truth.and (some payment.currency.isSome) (equals (payment.currency.map String.length) (some 3)),
      "Currency must contain a three-character ISO code"⟩]

def entityMatchRule (entity : EntityMatch) : Rule where
  ruleCode := .crossDomainEntityMatched
  rulePassed := some (decide (entity.entityMatchStatus ∈
    [EntityMatchStatus.matched, .notApplicable]))
  ruleDetail :=
    "Payment-to-loan, beneficiary, SACCO, business-plan and agent links must resolve"

def reconciliationRule (reconciliation : Reconciliation) : Rule where
  ruleCode := .paymentStatusReconciled
  rulePassed := some (decide (reconciliation.reconciliationStatus = .matched))
  ruleDetail := "Payment status must match an originating message or transaction"

/-- `coalesce(amount, 0)`. -/
def orZero (amount : Option ℚ) : ℚ := amount.getD 0

/-- `abs(difference) <= 0.05`. -/
def withinTolerance (difference : ℚ) : Truth := some (decide (|difference| ≤ 1 / 20))

/-- `amount is null or (amount >= 0 and amount <= limit)`, which three rules have. -/
def amountWithin (amount limit : Option ℚ) : Truth :=
  Truth.or (some amount.isNone) (Truth.and (atMost (some 0) amount) (atMost amount limit))

namespace LoanAccount

variable (loan : LoanAccount)

/-- The dates of a disbursed loan, each with the one that cannot be before it. -/
def stages : List (Option Date × Option Date) :=
  [(loan.approvalDate, loan.verificationDate), (loan.verificationDate, loan.disbursementDate),
    (loan.disbursementDate, loan.cashoutDate), (loan.cashoutDate, loan.asOfDate)]

def lifecycleDateOrder : Truth :=
  Truth.or (differs loan.loanStatus (some "DISBURSED"))
    (Truth.all (loan.stages.map fun stage => atMost stage.1 stage.2))

def rules : List Rule :=
  [⟨.requestedAmountPositive,
      Truth.and (some loan.amountRequested.isSome) (exceeds loan.amountRequested (some 0)),
      "Requested amount must be greater than zero"⟩,
    ⟨.approvedNotAboveRequested, amountWithin loan.amountApproved loan.amountRequested,
      "Approved amount must be non-negative and not exceed requested amount"⟩,
    ⟨.disbursedNotAboveApproved, amountWithin loan.amountDisbursed loan.amountApproved,
      "Disbursed amount must be non-negative and not exceed approved amount"⟩,
    ⟨.repaidNotAboveDue, amountWithin loan.amountRepaid
        (some (orZero loan.amountDisbursed + orZero loan.interestCharged)),
      "Repaid amount must be non-negative and not exceed principal plus charged interest"⟩,
    ⟨.repaidComponentsReconcile, withinTolerance
        (orZero loan.amountRepaid - orZero loan.principalRepaid - orZero loan.interestPaid),
      "Amount repaid must equal principal repaid plus interest paid within UGX 0.05"⟩,
    ⟨.outstandingComponentsReconcile, withinTolerance
        (orZero loan.outstandingBalance - orZero loan.principalOutstandingBalance -
          orZero loan.interestOutstandingBalance),
      "Outstanding balance must equal principal plus interest outstanding within UGX 0.05"⟩,
    ⟨.contractualBalanceReconciles, withinTolerance
        (orZero loan.amountDisbursed + orZero loan.interestCharged - orZero loan.amountRepaid -
          orZero loan.outstandingBalance),
      "Disbursed principal plus charged interest must reconcile to repaid plus outstanding within UGX 0.05"⟩,
    ⟨.approvalDateOrder,
      Truth.or (Truth.or (some loan.approvalDate.isNone) (some loan.applicationDate.isNone))
        (atMost loan.applicationDate loan.approvalDate),
      "Approval date cannot precede application date"⟩,
    ⟨.lifecycleDateOrder, loan.lifecycleDateOrder,
      "Disbursed loan lifecycle dates must be ordered through the observation date"⟩]

end LoanAccount

/-- A loan with what its references are joined with. -/
structure LoanReferences where
  loan : LoanAccount
  loanLink : Option LoanBeneficiaryLink
  beneficiary : Option Identity
  sacco : Option Sacco
  businessPlan : Option BusinessPlan

def LoanReferences.rules (row : LoanReferences) : List Rule :=
  [⟨.beneficiaryExists,
      some ((row.loanLink.bind LoanBeneficiaryLink.beneficiaryToken).isSome &&
        (row.beneficiary.bind Identity.beneficiaryToken).isSome),
      "Loan beneficiary must resolve through the canonical beneficiary token"⟩,
    ⟨.saccoExists, some (row.loan.saccoId.isNone || (row.sacco.bind Sacco.saccoId).isSome),
      "Loan SACCO must resolve when supplied"⟩,
    ⟨.businessPlanExists, some (row.loan.businessPlanId.isNone ||
        (row.businessPlan.bind BusinessPlan.businessPlanId).isSome),
      "Loan business plan must resolve when supplied"⟩]

/-! ## slv_pdm_dq_results -/

inductive RuleStatus where
  | pass
  | fail
  deriving DecidableEq

/-- A row.  An unknown verdict has the status of a failure. -/
structure DqResult where
  entityType : EntityType
  entityId : Option String
  ruleCode : RuleCode
  rulePassed : Truth
  ruleStatus : RuleStatus
  ruleDetail : String
  isGraded : ruleStatus = if rulePassed.holds then .pass else .fail
  deriving DecidableEq

def dqResult (entityType : EntityType) (entityId : Option String) (rule : Rule) : DqResult where
  entityType := entityType
  entityId := entityId
  ruleCode := rule.ruleCode
  rulePassed := rule.rulePassed
  ruleStatus := if rule.rulePassed.holds then .pass else .fail
  ruleDetail := rule.ruleDetail
  isGraded := rfl

def StatusSource.text : StatusSource → String
  | cpoPsn => "CPO_PSN"
  | cpoPlm => "CPO_PLM"
  | wendi => "WENDI"
  | mtn => "MTN"
  | airtel => "AIRTEL"

/-- `source_system || ':' || transaction_id`. -/
def transactionEntityId (sourceSystem : PaymentSource) (transactionId : Option String) :
    Option String :=
  transactionId.map fun known => sourceSystem.text ++ ":" ++ known

def Reconciliation.entityId (reconciliation : Reconciliation) : Option String :=
  reconciliation.statusMessageId.map fun statusMessageId =>
    reconciliation.statusSource.text ++ ":" ++ statusMessageId ++ ":" ++
      (reconciliation.transactionSource.map PaymentSource.text).getD "NO_TRANSACTION" ++ ":" ++
      reconciliation.transactionId.getD "NO_TRANSACTION"

def entityMatchResult (entity : EntityMatch) : DqResult :=
  dqResult .paymentEntityMatch (transactionEntityId entity.sourceSystem entity.transactionId)
    (entityMatchRule entity)

namespace DqSources

variable (sources : DqSources)

/-- The loans with the four joins of the last part. -/
def loanReferences : Multiset LoanReferences :=
  let loanLinks := leftJoin sources.slvPdmLoans sources.slvPdmLoanBeneficiaryLinks
    fun loan loanLink => equals loan.loanId loanLink.loanId
  let beneficiaries := leftJoin loanLinks sources.slvPdmBeneficiaries
    fun row beneficiary => equals (row.2.bind LoanBeneficiaryLink.beneficiaryToken)
      beneficiary.beneficiaryToken
  let saccos := leftJoin beneficiaries sources.slvPdmSaccos
    fun row sacco => equals row.1.1.saccoId sacco.saccoId
  let businessPlans := leftJoin saccos sources.slvPdmBusinessPlans
    fun row plan => equals row.1.1.1.businessPlanId plan.businessPlanId
  businessPlans.map fun ((((loan, loanLink), beneficiary), sacco), businessPlan) =>
    ⟨loan, loanLink, beneficiary, sacco, businessPlan⟩

/-- The rules of every entity of a table. -/
def results {α : Type} (rows : Multiset α) (entityType : EntityType) (entityId : α → Option String)
    (rules : α → List Rule) : Multiset DqResult :=
  rows.bind fun row => Multiset.ofList ((rules row).map (dqResult entityType (entityId row)))

def slvPdmDqResults : Multiset DqResult :=
  results sources.slvPdmPaymentsTransactions .paymentTransaction
      (fun payment => transactionEntityId payment.sourceSystem payment.transactionId) paymentRules +
    sources.slvPdmPaymentEntityMatches.map entityMatchResult +
    sources.slvPdmPaymentsReconciliation.map (fun reconciliation =>
      dqResult .paymentReconciliation reconciliation.entityId (reconciliationRule reconciliation)) +
    results sources.slvPdmLoans .loan (fun loan => loan.loanId) LoanAccount.rules +
    results sources.loanReferences .loan (fun row => row.loan.loanId) LoanReferences.rules

end DqSources

/-! ## Verdicts -/

namespace DqResult

theorem ruleStatus_eq_pass {result : DqResult} :
    result.ruleStatus = .pass ↔ result.rulePassed = some true := by
  rw [result.isGraded, ← Truth.holds_iff]
  split
  next passed => simp [passed]
  next failed => simp [failed]

theorem ruleStatus_eq_fail {result : DqResult} :
    result.ruleStatus = .fail ↔ result.rulePassed ≠ some true := by
  rw [ne_eq, ← ruleStatus_eq_pass]
  cases result.ruleStatus <;> simp

end DqResult

theorem isSome_amountWithin {amount limit : Option ℚ} :
    (amountWithin amount limit).isSome ↔
      ∀ value, amount = some value → 0 ≤ value → limit.isSome := by
  cases amount with
  | none => simp [amountWithin, Truth.or]
  | some value =>
      rcases lt_or_ge value 0 with negative | positive
      · cases limit <;>
          simp [amountWithin, Truth.or, Truth.and, atMost, compared, negative, negative.not_ge]
      · cases limit <;> simp [amountWithin, Truth.or, Truth.and, atMost, compared, positive]

namespace LoanAccount

variable {loan : LoanAccount}

/-- All dates are there, each not before the one that precedes it. -/
def DatesOrdered (loan : LoanAccount) : Prop :=
  ∀ stage ∈ loan.stages, ∃ earlier later, stage.1 = some earlier ∧ stage.2 = some later ∧
    earlier ≤ later

/-- A date is before the one that precedes it. -/
def DatesDisordered (loan : LoanAccount) : Prop :=
  ∃ stage ∈ loan.stages, ∃ earlier later, stage.1 = some later ∧ stage.2 = some earlier ∧
    earlier < later

/-- No rule compares with an amount, a date or a status that is missing, unless its verdict is known
without. -/
structure VerdictsKnown (loan : LoanAccount) : Prop where
  approved : ∀ amount, loan.amountApproved = some amount → 0 ≤ amount →
    loan.amountRequested.isSome
  disbursed : ∀ amount, loan.amountDisbursed = some amount → 0 ≤ amount →
    loan.amountApproved.isSome
  ofDisbursed : loan.loanStatus = some "DISBURSED" → loan.DatesOrdered ∨ loan.DatesDisordered
  withoutStatus : loan.loanStatus = none → loan.DatesOrdered

theorem holds_stages :
    (Truth.all (loan.stages.map fun stage => atMost stage.1 stage.2)).holds ↔
      loan.DatesOrdered := by
  simp only [Truth.holds_all, List.forall_mem_map, holds_atMost, DatesOrdered]

theorem stages_eq_false :
    Truth.all (loan.stages.map fun stage => atMost stage.1 stage.2) = some false ↔
      loan.DatesDisordered := by
  simp only [Truth.all_eq_false, List.mem_map, exists_exists_and_eq_and, atMost_eq_false,
    DatesDisordered]

theorem isSome_lifecycleDateOrder :
    loan.lifecycleDateOrder.isSome ↔
      (loan.loanStatus = some "DISBURSED" → loan.DatesOrdered ∨ loan.DatesDisordered) ∧
        (loan.loanStatus = none → loan.DatesOrdered) := by
  have known := @Truth.isSome_iff
    (Truth.all (loan.stages.map fun stage => atMost stage.1 stage.2))
  rw [holds_stages, stages_eq_false] at known
  have holds := @holds_stages loan
  unfold lifecycleDateOrder
  generalize Truth.all (loan.stages.map fun stage => atMost stage.1 stage.2) = ordered at *
  cases loan.loanStatus with
  | none =>
      rw [← holds]
      rcases ordered with _ | _ | _ <;> simp [differs, compared, Truth.or, Truth.holds]
  | some status =>
      by_cases disbursed : status = "DISBURSED"
      · simp [differs, compared, disbursed, Truth.or, known]
      · simp [differs, compared, disbursed, Truth.or]

theorem verdictsKnown_iff :
    (∀ rule ∈ loan.rules, rule.rulePassed.isSome) ↔ loan.VerdictsKnown := by
  have requested : (Truth.and (some loan.amountRequested.isSome)
      (exceeds loan.amountRequested (some 0))).isSome := by
    cases loan.amountRequested <;> rfl
  have repaid : (amountWithin loan.amountRepaid
      (some (orZero loan.amountDisbursed + orZero loan.interestCharged))).isSome :=
    isSome_amountWithin.mpr fun _ _ _ => rfl
  have approval : (Truth.or (Truth.or (some loan.approvalDate.isNone)
      (some loan.applicationDate.isNone)) (atMost loan.applicationDate loan.approvalDate)).isSome := by
    cases loan.approvalDate <;> cases loan.applicationDate <;> rfl
  simp only [rules, List.forall_mem_cons, requested, repaid, approval, withinTolerance,
    isSome_amountWithin, isSome_lifecycleDateOrder, Option.isSome_some, true_and, List.not_mem_nil,
    false_implies, implies_true, and_true]
  constructor
  · intro ⟨approved, disbursed, ofDisbursed, withoutStatus⟩
    exact ⟨approved, disbursed, ofDisbursed, withoutStatus⟩
  · intro known
    exact ⟨known.approved, known.disbursed, known.ofDisbursed, known.withoutStatus⟩

end LoanAccount

namespace DqSources

variable {sources : DqSources}

theorem mem_results {α : Type} {rows : Multiset α} {entityType : EntityType}
    {entityId : α → Option String} {rules : α → List Rule} {result : DqResult} :
    result ∈ results rows entityType entityId rules ↔
      ∃ row ∈ rows, ∃ rule ∈ rules row, dqResult entityType (entityId row) rule = result := by
  simp only [results, Multiset.mem_bind, Multiset.mem_coe, List.mem_map]

theorem forall_mem_results {α : Type} {rows : Multiset α} {entityType : EntityType}
    {entityId : α → Option String} {rules : α → List Rule} :
    (∀ result ∈ results rows entityType entityId rules, result.rulePassed.isSome) ↔
      ∀ row ∈ rows, ∀ rule ∈ rules row, rule.rulePassed.isSome := by
  constructor
  · intro known row inRows rule inRules
    exact known _ (mem_results.mpr ⟨row, inRows, rule, inRules, rfl⟩)
  · intro known result member
    obtain ⟨row, inRows, rule, inRules, rfl⟩ := mem_results.mp member
    exact known row inRows rule inRules

theorem forall_isSome_iff :
    (∀ result ∈ sources.slvPdmDqResults, result.rulePassed.isSome) ↔
      ∀ loan ∈ sources.slvPdmLoans, loan.VerdictsKnown := by
  have payments (payment : PaymentTransaction) (rule : Rule) (member : rule ∈ paymentRules payment) :
      rule.rulePassed.isSome := by
    simp only [paymentRules, List.mem_cons, List.not_mem_nil, or_false] at member
    rcases member with rfl | rfl
    · cases payment.amount <;> rfl
    · cases payment.currency <;> rfl
  have references (row : LoanReferences) (rule : Rule) (member : rule ∈ row.rules) :
      rule.rulePassed.isSome := by
    simp only [LoanReferences.rules, List.mem_cons, List.not_mem_nil, or_false] at member
    rcases member with rfl | rfl | rfl <;> rfl
  have ofLoans := @forall_mem_results _ sources.slvPdmLoans .loan (fun loan => loan.loanId)
    LoanAccount.rules
  simp only [LoanAccount.verdictsKnown_iff] at ofLoans
  rw [← ofLoans]
  constructor
  · intro known result member
    exact known result (Multiset.mem_add.mpr (.inl (Multiset.mem_add.mpr (.inr member))))
  · intro known result member
    simp only [slvPdmDqResults, Multiset.mem_add] at member
    rcases member with (((ofPayment | ofMatch) | ofReconciliation) | ofLoan) | ofReferences
    · obtain ⟨payment, -, rule, inRules, rfl⟩ := mem_results.mp ofPayment
      exact payments payment rule inRules
    · obtain ⟨entity, -, rfl⟩ := Multiset.mem_map.mp ofMatch
      rfl
    · obtain ⟨reconciliation, -, rfl⟩ := Multiset.mem_map.mp ofReconciliation
      rfl
    · exact known result ofLoan
    · obtain ⟨row, -, rule, inRules, rfl⟩ := mem_results.mp ofReferences
      exact references row rule inRules

end DqSources

end PaymentsPlatform.Warehouse
