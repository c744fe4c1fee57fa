import PaymentsPlatform.Warehouse.Silver

/-!
# Matching payments

The Silver models that the payment fact joins with a payment: the loan, the people and the places
it is matched with, the controls on its creditor's account, and the status reports that answer it.
-/

namespace PaymentsPlatform.Warehouse

open Bag Calendar

/-! ## slv_pdm_payment_entity_matches -/

inductive EntityMatchStatus where
  | notApplicable
  | loanNotMatched
  | beneficiaryNotMatched
  | beneficiaryMismatch
  | saccoNotMatched
  | saccoMismatch
  | businessPlanNotMatched
  | agentNotMatched
  | matched
  deriving DecidableEq

structure EntityMatch where
  sourceSystem : PaymentSource
  transactionId : Option String
  endToEndId : Option String
  transactionBeneficiaryToken : Option String
  transactionSaccoId : Option String
  transactionAgentId : Option String
  loanId : Option String
  loanBeneficiaryToken : Option String
  loanSaccoId : Option String
  businessPlanId : Option String
  matchedBeneficiaryToken : Option String
  matchedSaccoId : Option String
  matchedBusinessPlanId : Option String
  matchedAgentId : Option String
  entityMatchStatus : EntityMatchStatus
  deriving DecidableEq

/-- What one payment is joined with. -/
structure EntityJoin where
  payment : PaymentTransaction
  loan : Option Loan
  loanLink : Option LoanBeneficiaryLink
  transactionIdentity : Option Identity
  beneficiary : Option Identity
  sacco : Option Sacco
  businessPlan : Option BusinessPlan
  agent : Option Agent

namespace EntityJoin

variable (row : EntityJoin)

def entityMatchStatus : EntityMatchStatus :=
  let loanId := row.loan.bind Loan.loanId
  let loanBeneficiaryId := row.loan.bind Loan.beneficiaryId
  let loanBeneficiaryToken := row.loanLink.bind LoanBeneficiaryLink.beneficiaryToken
  let transactionToken := row.transactionIdentity.bind Identity.beneficiaryToken
  let loanSaccoId := row.loan.bind Loan.saccoId
  let businessPlanId := row.loan.bind Loan.businessPlanId
  if row.payment.endToEndId.isNone then .notApplicable
  else if loanId.isNone then .loanNotMatched
  else if loanBeneficiaryId.isSome ∧ loanBeneficiaryToken.isNone then .beneficiaryNotMatched
  else if row.payment.beneficiaryId.isSome ∧ transactionToken ≠ loanBeneficiaryToken then
    .beneficiaryMismatch
  else if loanSaccoId.isSome ∧ (row.sacco.bind Sacco.saccoId).isNone then .saccoNotMatched
  else if row.payment.saccoId.isSome ∧ (differs row.payment.saccoId loanSaccoId).holds then
    .saccoMismatch
  else if businessPlanId.isSome ∧ (row.businessPlan.bind BusinessPlan.businessPlanId).isNone then
    .businessPlanNotMatched
  else if row.payment.agentId.isSome ∧ (row.agent.bind Agent.agentId).isNone then .agentNotMatched
  else .matched

def entityMatch : EntityMatch where
  sourceSystem := row.payment.sourceSystem
  transactionId := row.payment.transactionId
  endToEndId := row.payment.endToEndId
  transactionBeneficiaryToken := row.transactionIdentity.bind Identity.beneficiaryToken
  transactionSaccoId := row.payment.saccoId
  transactionAgentId := row.payment.agentId
  loanId := row.loan.bind Loan.loanId
  loanBeneficiaryToken := row.loanLink.bind LoanBeneficiaryLink.beneficiaryToken
  loanSaccoId := row.loan.bind Loan.saccoId
  businessPlanId := row.loan.bind Loan.businessPlanId
  matchedBeneficiaryToken := row.beneficiary.bind Identity.beneficiaryToken
  matchedSaccoId := row.sacco.bind Sacco.saccoId
  matchedBusinessPlanId := row.businessPlan.bind BusinessPlan.businessPlanId
  matchedAgentId := row.agent.bind Agent.agentId
  entityMatchStatus := row.entityMatchStatus

end EntityJoin

namespace Silver

variable {bronze : Bronze} (silver : Silver bronze)

/-- A payment with its loan. -/
def paymentLoans : Multiset (PaymentTransaction × Option Loan) :=
  leftJoin silver.slvPdmPaymentsTransactions.kept silver.slvPdmLoans
    fun payment loan => equals payment.endToEndId loan.loanId

/-- The seven joins of a payment, in their order. -/
def entityJoins : Multiset
    (((((((PaymentTransaction × Option Loan) × Option LoanBeneficiaryLink) × Option Identity) ×
      Option Identity) × Option Sacco) × Option BusinessPlan) × Option Agent) :=
  let loanLinks := leftJoin silver.paymentLoans silver.slvPdmLoanBeneficiaryLinks
    fun row loanLink => equals (row.2.bind Loan.loanId) loanLink.loanId
  let transactionIdentities := leftJoin loanLinks silver.vltPdmBeneficiaryIdentity
    fun row identity => equals row.1.1.beneficiaryId identity.beneficiaryId
  let beneficiaries := leftJoin transactionIdentities silver.slvPdmBeneficiaries
    fun row beneficiary => equals (row.1.2.bind LoanBeneficiaryLink.beneficiaryToken)
      beneficiary.beneficiaryToken
  let saccos := leftJoin beneficiaries silver.slvPdmSaccos
    fun row sacco => equals (row.1.1.1.2.bind Loan.saccoId) sacco.saccoId
  let businessPlans := leftJoin saccos silver.slvPdmBusinessPlans
    fun row plan => equals (row.1.1.1.1.2.bind Loan.businessPlanId) plan.businessPlanId
  leftJoin businessPlans silver.slvPdmAgents
    fun row agent => equals row.1.1.1.1.1.1.agentId agent.agentId

def slvPdmPaymentEntityMatches : Multiset EntityMatch :=
  (silver.entityJoins.map fun row =>
    let (((((((payment, loan), loanLink), transactionIdentity), beneficiary), sacco),
      businessPlan), agent) := row
    EntityJoin.entityMatch ⟨payment, loan, loanLink, transactionIdentity, beneficiary, sacco,
      businessPlan, agent⟩).dedup

variable {silver}

theorem isKey_entityJoins (keyed : silver.VaultKeyed) :
    IsKey (((((((PaymentTransaction.transactionKey ∘ Prod.fst) ∘ Prod.fst) ∘ Prod.fst) ∘
      Prod.fst) ∘ Prod.fst) ∘ Prod.fst) ∘ Prod.fst) silver.entityJoins := by
  refine isKey_leftJoin ?_ fun row _ => card_partners_equals_le_one silver.isKey_slvPdmAgents _
  refine isKey_leftJoin ?_ fun row _ => card_partners_equals_le_one silver.isKey_slvPdmBusinessPlans _
  refine isKey_leftJoin ?_ fun row _ => card_partners_equals_le_one silver.isKey_slvPdmSaccos _
  refine isKey_leftJoin ?_ fun row _ =>
    card_partners_equals_le_one (isKey_slvPdmBeneficiaries keyed) _
  refine isKey_leftJoin ?_ fun row _ => card_partners_equals_le_one keyed.ids _
  refine isKey_leftJoin ?_ fun row _ =>
    card_partners_equals_le_one (isKey_slvPdmLoanBeneficiaryLinks keyed) _
  refine isKey_leftJoin ?_ fun row _ => card_partners_equals_le_one silver.isKey_slvPdmLoans _
  exact silver.isKey_slvPdmPaymentsTransactions

/-- The match is about this payment and this loan. -/
structure IsMatchOf (entity : EntityMatch) (payment : PaymentTransaction) (loan : Option Loan) :
    Prop where
  sourceSystem : entity.sourceSystem = payment.sourceSystem
  transactionId : entity.transactionId = payment.transactionId
  transactionSaccoId : entity.transactionSaccoId = payment.saccoId
  loanSaccoId : entity.loanSaccoId = loan.bind Loan.saccoId

theorem exists_loan_of_match {entity : EntityMatch}
    (member : entity ∈ silver.slvPdmPaymentEntityMatches) :
    ∃ payment loan, (payment, loan) ∈ silver.paymentLoans ∧ IsMatchOf entity payment loan := by
  obtain ⟨⟨⟨⟨⟨⟨⟨⟨payment, loan⟩, _⟩, _⟩, _⟩, _⟩, _⟩, _⟩, joined, rfl⟩ :=
    Multiset.mem_map.mp (Multiset.mem_dedup.mp member)
  have withPlan := (mem_leftJoin.mp joined).1
  have withSacco := (mem_leftJoin.mp withPlan).1
  have withBeneficiary := (mem_leftJoin.mp withSacco).1
  have withIdentity := (mem_leftJoin.mp withBeneficiary).1
  have withLink := (mem_leftJoin.mp withIdentity).1
  exact ⟨payment, loan, (mem_leftJoin.mp withLink).1, rfl, rfl, rfl, rfl⟩

theorem exists_entityJoin_of_loan {payment : PaymentTransaction} {loan : Option Loan}
    (member : (payment, loan) ∈ silver.paymentLoans) :
    ∃ loanLink identity beneficiary sacco plan agent,
      (((((((payment, loan), loanLink), identity), beneficiary), sacco), plan), agent) ∈
        silver.entityJoins := by
  obtain ⟨_, withLink⟩ := exists_mem_leftJoin member silver.slvPdmLoanBeneficiaryLinks
    fun row loanLink => equals (row.2.bind Loan.loanId) loanLink.loanId
  obtain ⟨_, withIdentity⟩ := exists_mem_leftJoin withLink silver.vltPdmBeneficiaryIdentity
    fun row identity => equals row.1.1.beneficiaryId identity.beneficiaryId
  obtain ⟨_, withBeneficiary⟩ := exists_mem_leftJoin withIdentity silver.slvPdmBeneficiaries
    fun row beneficiary => equals (row.1.2.bind LoanBeneficiaryLink.beneficiaryToken)
      beneficiary.beneficiaryToken
  obtain ⟨_, withSacco⟩ := exists_mem_leftJoin withBeneficiary silver.slvPdmSaccos
    fun row sacco => equals (row.1.1.1.2.bind Loan.saccoId) sacco.saccoId
  obtain ⟨_, withPlan⟩ := exists_mem_leftJoin withSacco silver.slvPdmBusinessPlans
    fun row plan => equals (row.1.1.1.1.2.bind Loan.businessPlanId) plan.businessPlanId
  obtain ⟨_, withAgent⟩ := exists_mem_leftJoin withPlan silver.slvPdmAgents
    fun row agent => equals row.1.1.1.1.1.1.agentId agent.agentId
  exact ⟨_, _, _, _, _, _, withAgent⟩

theorem exists_match_of_loan {payment : PaymentTransaction} {loan : Option Loan}
    (member : (payment, loan) ∈ silver.paymentLoans) :
    ∃ entity ∈ silver.slvPdmPaymentEntityMatches, IsMatchOf entity payment loan := by
  obtain ⟨_, _, _, _, _, _, joined⟩ := exists_entityJoin_of_loan member
  exact ⟨_, Multiset.mem_dedup.mpr (Multiset.mem_map.mpr ⟨_, joined, rfl⟩), rfl, rfl, rfl, rfl⟩

theorem isKey_slvPdmPaymentEntityMatches (keyed : silver.VaultKeyed) :
    IsKey (fun entity => transactionKey entity.sourceSystem entity.transactionId)
      silver.slvPdmPaymentEntityMatches := by
  refine IsKey.of_le (isKey_map.mpr ?_) (Multiset.dedup_le _)
  exact isKey_entityJoins keyed

end Silver

/-! ## slv_pdm_payment_party_roles and slv_pdm_payment_account_controls -/

inductive PartyRole where
  | debtor
  | creditor
  deriving DecidableEq

structure PaymentPartyRole where
  messageId : Option String
  partyRole : PartyRole
  accountId : Option String
  accountIssuer : Option String
  deriving DecidableEq

def Pain001.debtorRole (row : Pain001) : PaymentPartyRole :=
  ⟨row.messageId, .debtor, row.debtorAccountId, row.debtorAccountIssuer⟩

def Pain001.creditorRole (row : Pain001) : PaymentPartyRole :=
  ⟨row.messageId, .creditor, row.creditorAccountId, row.creditorAccountIssuer⟩

def Bronze.slvPdmPaymentPartyRoles (bronze : Bronze) : Multiset PaymentPartyRole :=
  (((contents bronze.icmnVpmPain001).filter fun row => row.debtorAccountId.isSome).map
      Pain001.debtorRole +
    ((contents bronze.icmnVpmPain001).filter fun row => row.creditorAccountId.isSome).map
      Pain001.creditorRole).dedup

/-- `regexp_replace(text, '[^0-9]', '')`. -/
def digitsOf (text : String) : String := String.ofList (text.toList.filter Char.isDigit)

/-- `nullif(text, '')`. -/
def nullIfEmpty (text : Option String) : Option String := text.filter fun known => known ≠ ""

structure BeneficiaryContact where
  loanId : Option String
  phone : Option String

structure AccountControl where
  sourceSystem : PaymentSource
  transactionId : Option String
  creditorAccountIssuer : Option String
  isAccountSubstituted : Truth
  deriving DecidableEq

/-- The account of the creditor is a mobile number that is not the beneficiary's. -/
def isAccountSubstituted (accountIssuer accountDigits phone : Option String) : Truth :=
  if (among accountIssuer ["MTN", "AIRTEL"]).holds ∧ (nullIfEmpty accountDigits).isSome ∧
      (nullIfEmpty ((coalesce [phone, some ""]).map digitsOf)).isSome ∧
      (differs accountDigits (phone.map digitsOf)).holds then some true
  else if accountIssuer.isNone ∨ (nullIfEmpty accountDigits).isNone then none
  else some false

namespace Silver

variable {bronze : Bronze} (silver : Silver bronze)

/-- The payments whose transaction is known. -/
def transactionPayments : Multiset PaymentTransaction :=
  silver.slvPdmPaymentsTransactions.kept.filter fun payment => payment.transactionId.isSome

/-- The role of a creditor in the message of a payment. -/
def creditorOf (payment : PaymentTransaction) (role : PaymentPartyRole) : Truth :=
  (equals payment.messageId role.messageId).and (some (decide (role.partyRole = .creditor)))

def creditors : Multiset (PaymentTransaction × Option PaymentPartyRole) :=
  leftJoin silver.transactionPayments bronze.slvPdmPaymentPartyRoles creditorOf

def beneficiaryContacts : Multiset BeneficiaryContact :=
  (innerJoin silver.slvPdmLoanBeneficiaryLinks silver.vltPdmBeneficiaryIdentity
    fun loanLink identity => equals loanLink.beneficiaryToken identity.beneficiaryToken).map
      fun (loanLink, identity) => ⟨loanLink.loanId, identity.phone⟩

def accountControl : (PaymentTransaction × Option PaymentPartyRole) × Option BeneficiaryContact →
    AccountControl :=
  fun ((payment, role), contact) =>
    let accountIssuer := role.bind PaymentPartyRole.accountIssuer
    let accountDigits := (role.bind PaymentPartyRole.accountId).map digitsOf
    { sourceSystem := payment.sourceSystem
      transactionId := payment.transactionId
      creditorAccountIssuer := accountIssuer
      isAccountSubstituted := Warehouse.isAccountSubstituted accountIssuer accountDigits
        (contact.bind BeneficiaryContact.phone) }

def slvPdmPaymentAccountControls : Multiset AccountControl :=
  (leftJoin silver.creditors silver.beneficiaryContacts
    fun row contact => equals row.1.endToEndId contact.loanId).map accountControl

variable {silver}

theorem isKey_beneficiaryContacts (keyed : silver.VaultKeyed) :
    IsKey BeneficiaryContact.loanId silver.beneficiaryContacts :=
  isKey_map.mpr (isKey_innerJoin (isKey_slvPdmLoanBeneficiaryLinks keyed) fun _ _ =>
    card_partners_equals_le_one keyed.tokens _)

theorem isKey_slvPdmPaymentAccountControls (keyed : silver.VaultKeyed)
    (single : ∀ payment ∈ silver.transactionPayments,
      (partners bronze.slvPdmPaymentPartyRoles (creditorOf payment)).card ≤ 1) :
    IsKey (fun control => transactionKey control.sourceSystem control.transactionId)
      silver.slvPdmPaymentAccountControls := by
  have ofCreditors : IsKey (PaymentTransaction.transactionKey ∘ Prod.fst) silver.creditors :=
    isKey_leftJoin (silver.isKey_slvPdmPaymentsTransactions.of_le (Multiset.filter_le _ _)) single
  exact isKey_map.mpr (isKey_leftJoin ofCreditors fun _ _ =>
    card_partners_equals_le_one (isKey_beneficiaryContacts keyed) _)

end Silver

/-! ## slv_pdm_payments_reconciliation -/

inductive ReconciliationStatus where
  | matched
  | unmatched
  deriving DecidableEq

inductive MatchMethod where
  | transactionId
  | messageTransaction
  | messageId
  | endToEndIdAndSource
  deriving DecidableEq

structure Reconciliation where
  statusSource : StatusSource
  statusMessageId : Option String
  originalMessageId : Option String
  originalMessageSource : Option MessageSource
  paymentMessageId : Option String
  originalTransactionId : Option String
  endToEndId : Option String
  transactionSource : Option PaymentSource
  transactionId : Option String
  reconciliationStatus : ReconciliationStatus
  matchMethod : Option MatchMethod
  deriving DecidableEq

/-- The system whose payments a status report without identifiers is about. -/
def StatusSource.fallbackSource : StatusSource → Option PaymentSource
  | cpoPsn => some .icmnVpm
  | cpoPlm => none
  | wendi => some .wendiPain001
  | mtn => some .mtnPacs008
  | airtel => some .airtelPacs008

/-- A status report with the message and the payments it may be about. -/
structure Candidate where
  status : PaymentStatus
  message : Option PaymentMessage
  exactPayment : Option PaymentTransaction
  messagePayment : Option PaymentTransaction
  fallbackPayment : Option PaymentTransaction

namespace Candidate

variable (candidate : Candidate)

def exactTransaction : Option String :=
  candidate.exactPayment.bind fun payment => payment.transactionId

def messageTransaction : Option String :=
  candidate.messagePayment.bind fun payment => payment.transactionId

def fallbackTransaction : Option String :=
  candidate.fallbackPayment.bind fun payment => payment.transactionId

def paymentMessage : Option String := candidate.message.bind fun message => message.messageId

/-- `partition by status.status_source, status.message_id`. -/
def statusKey : StatusSource × Option String :=
  (candidate.status.statusSource, candidate.status.messageId)

def methodRank : Nat :=
  if candidate.exactTransaction.isSome then 1
  else if candidate.messageTransaction.isSome then 2
  else if candidate.paymentMessage.isSome then 3
  else 4

/-- `order by` the rank of the method and the transaction of the fallback, ascending. -/
def precedence : Natᵒᵈ ×ₗ (WithTop String)ᵒᵈ :=
  toLex (OrderDual.toDual candidate.methodRank,
    OrderDual.toDual (candidate.fallbackTransaction : WithTop String))

def reconciliation : Reconciliation where
  statusSource := candidate.status.statusSource
  statusMessageId := candidate.status.messageId
  originalMessageId := candidate.status.originalMessageId
  originalMessageSource := candidate.message.map fun message => message.sourceSystem
  paymentMessageId := candidate.paymentMessage
  originalTransactionId := candidate.status.originalTransactionId
  endToEndId := candidate.status.endToEndId
  transactionSource := coalesce
    [candidate.exactPayment.map fun payment => payment.sourceSystem,
      candidate.messagePayment.map fun payment => payment.sourceSystem,
      candidate.fallbackPayment.map fun payment => payment.sourceSystem]
  transactionId := coalesce
    [candidate.exactTransaction, candidate.messageTransaction, candidate.fallbackTransaction]
  reconciliationStatus :=
    if candidate.paymentMessage.isSome ∨ candidate.exactTransaction.isSome ∨
        candidate.messageTransaction.isSome ∨ candidate.fallbackTransaction.isSome then .matched
    else .unmatched
  matchMethod :=
    if candidate.exactTransaction.isSome then some .transactionId
    else if candidate.messageTransaction.isSome then some .messageTransaction
    else if candidate.paymentMessage.isSome then some .messageId
    else if candidate.fallbackTransaction.isSome then some .endToEndIdAndSource
    else none

end Candidate

namespace Silver

variable {bronze : Bronze} (silver : Silver bronze)

def candidates : Multiset Candidate :=
  let payments := silver.slvPdmPaymentsTransactions.kept
  let messages := leftJoin silver.slvPdmPaymentsStatusReport silver.slvPdmPaymentsMessages
    fun status message => equals status.originalMessageId message.messageId
  let exactPayments := leftJoin messages payments
    fun row payment => equals row.1.originalTransactionId payment.transactionId
  let messagePayments := leftJoin exactPayments payments
    fun row payment =>
      (equals (row.1.2.map fun message => message.sourceSystem.text)
        (some payment.sourceSystem.text)).and
      (equals (row.1.2.bind PaymentMessage.messageId) payment.messageId)
  let fallbackPayments := leftJoin messagePayments payments
    fun row payment =>
      (equals row.1.1.1.endToEndId payment.endToEndId).and
      (equals (some payment.sourceSystem) row.1.1.1.statusSource.fallbackSource)
  fallbackPayments.map fun ((((status, message), exactPayment), messagePayment), fallbackPayment) =>
    ⟨status, message, exactPayment, messagePayment, fallbackPayment⟩

end Silver

/-- The models up to Silver, with the choices of their windows. -/
structure Layers (bronze : Bronze) extends Silver bronze where
  rankedCandidates : Firsts Candidate.statusKey Candidate.precedence toSilver.candidates

theorem Layers.nonempty (bronze : Bronze) : Nonempty (Layers bronze) := by
  obtain ⟨silver⟩ := Silver.nonempty bronze
  exact ⟨⟨silver, Classical.arbitrary _⟩⟩

namespace Layers

variable {bronze : Bronze} (layers : Layers bronze)

def slvPdmPaymentsReconciliation : Multiset Reconciliation :=
  layers.rankedCandidates.kept.map Candidate.reconciliation

end Layers

end PaymentsPlatform.Warehouse
