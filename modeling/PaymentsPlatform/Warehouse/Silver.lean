import PaymentsPlatform.Warehouse.Bronze

/-!
# Silver

The models between Bronze and the payment facts.  A model that keeps the first row of each
partition may keep any of the rows that tie for it, so `Silver` holds one choice for each of
them; the other models are functions of these choices.
-/

namespace PaymentsPlatform.Warehouse

open Bag Calendar

/-! ## slv_pdm_payments_transactions -/

/-- The values of `source_system` among the payment transactions. -/
inductive PaymentSource where
  | icmnVpm
  | wendiPain001
  | mtnPacs008
  | airtelPacs008
  | wendiWallet
  | agent
  deriving DecidableEq

def PaymentSource.text : PaymentSource → String
  | icmnVpm => "ICMN_VPM"
  | wendiPain001 => "WENDI_PAIN001"
  | mtnPacs008 => "MTN_PACS008"
  | airtelPacs008 => "AIRTEL_PACS008"
  | wendiWallet => "WENDI_WALLET"
  | agent => "AGENT"

theorem PaymentSource.text_injective : Function.Injective PaymentSource.text := by
  intro first second same
  cases first <;> cases second <;> first | rfl | exact absurd same (by decide)

structure Transaction where
  transactionId : Option String
  endToEndId : Option String
  instructionId : Option String
  uetr : Option String
  messageId : Option String
  beneficiaryId : Option String
  saccoId : Option String
  agentId : Option String
  sourceSystem : PaymentSource
  occurredAt : Option Timestamp
  amount : Option ℚ
  currency : Option String
  transactionStatus : Option String
  deriving DecidableEq

/-- A transaction whose record identifier is not null. -/
structure PaymentTransaction extends Transaction where
  recordIdentifier : String
  deriving DecidableEq

def Pain001.transaction (row : Pain001) : Transaction where
  transactionId := row.transactionId
  endToEndId := row.endToEndId
  instructionId := row.instructionId
  uetr := row.uetr
  messageId := row.messageId
  beneficiaryId := none
  saccoId := none
  agentId := none
  sourceSystem := .icmnVpm
  occurredAt := row.creationAt
  amount := row.instructedAmount
  currency := row.currency
  transactionStatus := none

def WendiPain001.transaction (row : WendiPain001) : Transaction where
  transactionId := row.transactionId
  endToEndId := row.endToEndId
  instructionId := row.instructionId
  uetr := row.uetr
  messageId := row.messageId
  beneficiaryId := none
  saccoId := none
  agentId := none
  sourceSystem := .wendiPain001
  occurredAt := row.creationAt
  amount := row.instructedAmount
  currency := row.currency
  transactionStatus := none

/-- The two network tables are projected alike. -/
def Pacs008.transaction (sourceSystem : PaymentSource) (row : Pacs008) : Transaction where
  transactionId := row.transactionId
  endToEndId := row.endToEndId
  instructionId := none
  uetr := none
  messageId := row.messageId
  beneficiaryId := none
  saccoId := none
  agentId := none
  sourceSystem := sourceSystem
  occurredAt := row.creationAt
  amount := row.instructedAmount
  currency := row.currency
  transactionStatus := none

def WalletTransaction.transaction (row : WalletTransaction) : Transaction where
  transactionId := coalesce [row.wendiTransactionId, row.walletEventId]
  endToEndId := row.loanId
  instructionId := none
  uetr := none
  messageId := none
  beneficiaryId := row.beneficiaryId
  saccoId := row.saccoId
  agentId := row.agentId
  sourceSystem := .wendiWallet
  occurredAt := row.eventTimestamp
  amount := row.amount
  currency := row.currency
  transactionStatus := row.transactionStatus

def AgentTransaction.transaction (row : AgentTransaction) : Transaction where
  transactionId := row.transactionId
  endToEndId := row.loanId
  instructionId := none
  uetr := none
  messageId := none
  beneficiaryId := row.beneficiaryId
  saccoId := none
  agentId := row.agentId
  sourceSystem := .agent
  occurredAt := row.transactionTimestamp
  amount := row.amount
  currency := some "UGX"
  transactionStatus := row.status

/-- The rows of a table, without the coordinates of their delivery. -/
def contents {α : Type} (table : Multiset (Stored α)) : Multiset α := table.map Stored.content

namespace Transaction

def recordIdentifier (transaction : Transaction) : Option String :=
  coalesce [transaction.transactionId, transaction.instructionId, transaction.endToEndId,
    transaction.messageId]

def identified (transaction : Transaction) : Option PaymentTransaction :=
  transaction.recordIdentifier.map fun recordIdentifier => { transaction with recordIdentifier }

end Transaction

namespace Bronze

variable (bronze : Bronze)

def transactions : Multiset Transaction :=
  (contents bronze.icmnVpmPain001).map Pain001.transaction +
    (contents bronze.wendiPain001).map WendiPain001.transaction +
    (contents bronze.mobileMtnPacs008).map (Pacs008.transaction .mtnPacs008) +
    (contents bronze.mobileAirtelPacs008).map (Pacs008.transaction .airtelPacs008) +
    (contents bronze.wendiTransactions).map WalletTransaction.transaction +
    (contents bronze.agentTransactions).map AgentTransaction.transaction

/-- `identified_transactions`, where the record identifier is not null. -/
def identifiedTransactions : Multiset PaymentTransaction :=
  bronze.transactions.filterMap Transaction.identified

end Bronze

/-- A transaction that is known, within its source system. -/
def transactionKey (sourceSystem : PaymentSource) (transactionId : Option String) :
    Option (PaymentSource × String) :=
  transactionId.map fun known => (sourceSystem, known)

namespace PaymentTransaction

def transactionKey (payment : PaymentTransaction) : Option (PaymentSource × String) :=
  Warehouse.transactionKey payment.sourceSystem payment.transactionId

/-- `partition by source_system, record_identifier`. -/
def naturalKey (payment : PaymentTransaction) : PaymentSource × String :=
  (payment.sourceSystem, payment.recordIdentifier)

/-- `order by occurred_at desc nulls last`. -/
def recency (payment : PaymentTransaction) : WithBot Timestamp := nullsLast payment.occurredAt

end PaymentTransaction

/-! ## slv_pdm_payments_status_report -/

/-- The values of `status_source`; no status report comes from `CPO_PLM`. -/
inductive StatusSource where
  | cpoPsn
  | cpoPlm
  | wendi
  | mtn
  | airtel
  deriving DecidableEq

structure PaymentStatus where
  statusSource : StatusSource
  messageId : Option String
  originalMessageId : Option String
  originalTransactionId : Option String
  endToEndId : Option String
  statusAt : Option Timestamp
  groupStatus : Option String
  transactionStatus : Option String
  reasonCode : Option String
  additionalInfo : Option String
  deriving DecidableEq

/-- The status tables of the bank and of the wallet are projected alike. -/
def Pain002.status (statusSource : StatusSource) (row : Pain002) : PaymentStatus where
  statusSource := statusSource
  messageId := row.messageId
  originalMessageId := row.originalMessageId
  originalTransactionId := row.originalTransactionId
  endToEndId := row.endToEndId
  statusAt := row.creationAt
  groupStatus := row.groupStatus
  transactionStatus := row.transactionStatus
  reasonCode := row.reasonCode
  additionalInfo := row.additionalInfo

def Pacs002.status (statusSource : StatusSource) (row : Pacs002) : PaymentStatus where
  statusSource := statusSource
  messageId := row.messageId
  originalMessageId := none
  originalTransactionId := row.originalTransactionId
  endToEndId := row.endToEndId
  statusAt := row.creationAt
  groupStatus := none
  transactionStatus := row.transactionStatus
  reasonCode := row.statusReasonCode
  additionalInfo := row.statusAdditionalInfo

/-- A row with another content and the coordinates that it has. -/
def Stored.map {α β : Type} (project : α → β) (row : Stored α) : Stored β :=
  ⟨project row.content, row.delivery⟩

namespace Bronze

variable (bronze : Bronze)

def statusEvents : Multiset (Stored PaymentStatus) :=
  bronze.cpoPsnPain002.map (Stored.map (Pain002.status .cpoPsn)) +
    bronze.wendiPain002.map (Stored.map (Pain002.status .wendi)) +
    bronze.mobileMtnPacs002.map (Stored.map (Pacs002.status .mtn)) +
    bronze.mobileAirtelPacs002.map (Stored.map (Pacs002.status .airtel))

end Bronze

/-- `partition by status_source, message_id`. -/
def PaymentStatus.messageKey (row : Stored PaymentStatus) : StatusSource × Option String :=
  (row.content.statusSource, row.content.messageId)

/-! ## slv_pdm_payments_messages -/

/-- The values of `source_system` among the payment messages. -/
inductive MessageSource where
  | icmnVpm
  | cpoPsn
  | wendi
  | mtn
  | airtel
  deriving DecidableEq

def MessageSource.text : MessageSource → String
  | icmnVpm => "ICMN_VPM"
  | cpoPsn => "CPO_PSN"
  | wendi => "WENDI"
  | mtn => "MTN"
  | airtel => "AIRTEL"

inductive MessageType where
  | pain001
  | pain002
  | pacs008
  | pacs002
  deriving DecidableEq

structure PaymentMessage where
  messageId : Option String
  messageType : MessageType
  sourceSystem : MessageSource
  creationAt : Option Timestamp
  deriving DecidableEq

namespace Bronze

variable (bronze : Bronze)

def messages : Multiset (Stored PaymentMessage) :=
  bronze.icmnVpmPain001.map
      (Stored.map fun row => ⟨row.messageId, .pain001, .icmnVpm, row.creationAt⟩) +
    bronze.cpoPsnPain002.map
      (Stored.map fun row => ⟨row.messageId, .pain002, .cpoPsn, row.creationAt⟩) +
    bronze.wendiPain001.map
      (Stored.map fun row => ⟨row.messageId, .pain001, .wendi, row.creationAt⟩) +
    bronze.wendiPain002.map
      (Stored.map fun row => ⟨row.messageId, .pain002, .wendi, row.creationAt⟩) +
    bronze.mobileMtnPacs008.map
      (Stored.map fun row => ⟨row.messageId, .pacs008, .mtn, row.creationAt⟩) +
    bronze.mobileAirtelPacs008.map
      (Stored.map fun row => ⟨row.messageId, .pacs008, .airtel, row.creationAt⟩) +
    bronze.mobileMtnPacs002.map
      (Stored.map fun row => ⟨row.messageId, .pacs002, .mtn, row.creationAt⟩) +
    bronze.mobileAirtelPacs002.map
      (Stored.map fun row => ⟨row.messageId, .pacs002, .airtel, row.creationAt⟩)

end Bronze

/-- `partition by source_system, message_id`. -/
def PaymentMessage.messageKey (row : Stored PaymentMessage) : MessageSource × Option String :=
  (row.content.sourceSystem, row.content.messageId)

/-! ## The windows of Silver -/

/-- What the models with a window keep of Bronze. -/
structure Silver (bronze : Bronze) where
  slvPdmPaymentsTransactions :
    Firsts PaymentTransaction.naturalKey PaymentTransaction.recency bronze.identifiedTransactions
  rankedStatusReport : Firsts PaymentStatus.messageKey Stored.recency bronze.statusEvents
  rankedMessages : Firsts PaymentMessage.messageKey Stored.recency bronze.messages
  rankedLoans : Firsts (fun row => row.content.loanId) (Stored.revision Loan.updatedAt)
    bronze.pdmisLoans
  rankedBeneficiaries : Firsts (fun row => row.content.beneficiaryId)
    (Stored.revision Beneficiary.updatedAt) bronze.pdmisBeneficiaries
  rankedSaccos : Firsts (fun row => row.content.saccoId) (Stored.revision Sacco.updatedAt)
    bronze.pdmisSaccos
  rankedBusinessPlans : Firsts (fun row => row.content.businessPlanId)
    (Stored.revision BusinessPlan.updatedAt) bronze.pdmisBusinessPlans
  rankedAgents : Firsts (fun row => row.content.agentId) (Stored.revision Agent.updatedAt)
    bronze.agentProfiles
  rankedLocations : Firsts (fun row => (row.content.agentId, row.content.locationType))
    Stored.recency bronze.agentLocations

theorem Silver.nonempty (bronze : Bronze) : Nonempty (Silver bronze) :=
  ⟨⟨Classical.arbitrary _, Classical.arbitrary _, Classical.arbitrary _, Classical.arbitrary _,
    Classical.arbitrary _, Classical.arbitrary _, Classical.arbitrary _, Classical.arbitrary _,
    Classical.arbitrary _⟩⟩

/-- No two rows share what a window partitions by. -/
def Bronze.KeysDistinct (bronze : Bronze) : Prop :=
  (bronze.identifiedTransactions.map PaymentTransaction.naturalKey).Nodup ∧
    (bronze.statusEvents.map PaymentStatus.messageKey).Nodup ∧
    (bronze.messages.map PaymentMessage.messageKey).Nodup ∧
    (bronze.pdmisLoans.map fun row => row.content.loanId).Nodup ∧
    (bronze.pdmisBeneficiaries.map fun row => row.content.beneficiaryId).Nodup ∧
    (bronze.pdmisSaccos.map fun row => row.content.saccoId).Nodup ∧
    (bronze.pdmisBusinessPlans.map fun row => row.content.businessPlanId).Nodup ∧
    (bronze.agentProfiles.map fun row => row.content.agentId).Nodup ∧
    (bronze.agentLocations.map fun row => (row.content.agentId, row.content.locationType)).Nodup

instance (bronze : Bronze) : Decidable bronze.KeysDistinct :=
  inferInstanceAs (Decidable (_ ∧ _))

/-- Where no two rows share a key, the windows keep all of them. -/
def Bronze.KeysDistinct.silver {bronze : Bronze} (distinct : bronze.KeysDistinct) :
    Silver bronze where
  slvPdmPaymentsTransactions := ⟨_, .of_nodup distinct.1⟩
  rankedStatusReport := ⟨_, .of_nodup distinct.2.1⟩
  rankedMessages := ⟨_, .of_nodup distinct.2.2.1⟩
  rankedLoans := ⟨_, .of_nodup distinct.2.2.2.1⟩
  rankedBeneficiaries := ⟨_, .of_nodup distinct.2.2.2.2.1⟩
  rankedSaccos := ⟨_, .of_nodup distinct.2.2.2.2.2.1⟩
  rankedBusinessPlans := ⟨_, .of_nodup distinct.2.2.2.2.2.2.1⟩
  rankedAgents := ⟨_, .of_nodup distinct.2.2.2.2.2.2.2.1⟩
  rankedLocations := ⟨_, .of_nodup distinct.2.2.2.2.2.2.2.2⟩

/-- A row of the identity vault. -/
structure Identity where
  beneficiaryId : Option String
  beneficiaryToken : Option String
  phone : Option String
  area : Area
  registrationDate : Option Date
  deriving DecidableEq

structure LoanBeneficiaryLink where
  loanId : Option String
  beneficiaryToken : Option String
  deriving DecidableEq

namespace Silver

variable {bronze : Bronze} (silver : Silver bronze)

def slvPdmPaymentsStatusReport : Multiset PaymentStatus :=
  contents silver.rankedStatusReport.kept

def slvPdmPaymentsMessages : Multiset PaymentMessage := contents silver.rankedMessages.kept

def slvPdmLoans : Multiset Loan := contents silver.rankedLoans.kept

def slvPdmSaccos : Multiset Sacco := contents silver.rankedSaccos.kept

def slvPdmBusinessPlans : Multiset BusinessPlan := contents silver.rankedBusinessPlans.kept

def slvPdmAgents : Multiset Agent := contents silver.rankedAgents.kept

def slvPdmAgentLocations : Multiset AgentLocation := contents silver.rankedLocations.kept

def vltPdmBeneficiaryIdentity : Multiset Identity :=
  ((innerJoin (contents silver.rankedBeneficiaries.kept) bronze.beneficiaryTokenLink
    fun beneficiary link => equals beneficiary.beneficiaryId link.beneficiaryId).filter
      fun joined => joined.2.isActive.holds).map fun (beneficiary, link) =>
        { beneficiaryId := beneficiary.beneficiaryId
          beneficiaryToken := link.beneficiaryToken
          phone := beneficiary.phone
          area := beneficiary.area
          registrationDate := beneficiary.registrationDate }

def slvPdmBeneficiaries : Multiset Identity :=
  silver.vltPdmBeneficiaryIdentity.filter fun identity => identity.beneficiaryToken.isSome

def slvPdmLoanBeneficiaryLinks : Multiset LoanBeneficiaryLink :=
  (innerJoin silver.slvPdmLoans silver.vltPdmBeneficiaryIdentity fun loan identity =>
    equals loan.beneficiaryId identity.beneficiaryId).map fun (loan, identity) =>
      ⟨loan.loanId, identity.beneficiaryToken⟩

/-- One row of the identity vault for each beneficiary, and one for each token. -/
structure VaultKeyed : Prop where
  ids : IsKey Identity.beneficiaryId silver.vltPdmBeneficiaryIdentity
  tokens : IsKey Identity.beneficiaryToken silver.vltPdmBeneficiaryIdentity

/-! ## Rows of Silver -/

theorem contents_kept_eq_zero {α : Type} {κ ρ : Type} [LE ρ] {name : Stored α → κ}
    {rank : Stored α → ρ} {table : Multiset (Stored α)} (window : Firsts name rank table)
    (empty : table = 0) : contents window.kept = 0 := by
  have none : window.kept = 0 := Multiset.eq_zero_of_forall_notMem fun row member =>
    Multiset.notMem_zero row (empty ▸ window.isFirsts.mem row member)
  rw [contents, none, Multiset.map_zero]

theorem recordIdentifier_of_mem {payment : PaymentTransaction}
    (member : payment ∈ silver.slvPdmPaymentsTransactions.kept) :
    payment.toTransaction.recordIdentifier = some payment.recordIdentifier := by
  have identified := silver.slvPdmPaymentsTransactions.isFirsts.mem payment member
  obtain ⟨transaction, -, found⟩ := (Multiset.mem_filterMap _ _).mp identified
  obtain ⟨recordIdentifier, named, rfl⟩ := Option.map_eq_some_iff.mp found
  exact named

theorem isKey_contents {α : Type} {κ : Type} {key : α → Option κ} {table : Multiset (Stored α)}
    (unique : (table.map fun row => key row.content).Nodup) : IsKey key (contents table) := by
  refine isKey_of_nodup_map key some (fun row _ value named => named) ?_
  rwa [contents, Multiset.map_map]

/-! ## Keys of Silver -/

theorem isKey_slvPdmPaymentsTransactions :
    IsKey PaymentTransaction.transactionKey silver.slvPdmPaymentsTransactions.kept := by
  refine isKey_of_nodup_map PaymentTransaction.naturalKey id ?_
    silver.slvPdmPaymentsTransactions.isFirsts.unique
  rintro payment member value keyed
  obtain ⟨transactionId, known, rfl⟩ := Option.map_eq_some_iff.mp keyed
  have identified := silver.recordIdentifier_of_mem member
  simp only [Transaction.recordIdentifier, coalesce, known, List.findSome?_cons, id,
    Option.some.injEq] at identified
  simp [PaymentTransaction.naturalKey, identified]

theorem isKey_slvPdmLoans : IsKey Loan.loanId silver.slvPdmLoans :=
  isKey_contents silver.rankedLoans.isFirsts.unique

theorem isKey_slvPdmSaccos : IsKey Sacco.saccoId silver.slvPdmSaccos :=
  isKey_contents silver.rankedSaccos.isFirsts.unique

theorem isKey_slvPdmBusinessPlans : IsKey BusinessPlan.businessPlanId silver.slvPdmBusinessPlans :=
  isKey_contents silver.rankedBusinessPlans.isFirsts.unique

theorem isKey_slvPdmAgents : IsKey Agent.agentId silver.slvPdmAgents :=
  isKey_contents silver.rankedAgents.isFirsts.unique

variable {silver}

theorem isKey_slvPdmBeneficiaries (keyed : silver.VaultKeyed) :
    IsKey Identity.beneficiaryToken silver.slvPdmBeneficiaries :=
  keyed.tokens.of_le (Multiset.filter_le _ _)

theorem isKey_slvPdmLoanBeneficiaryLinks (keyed : silver.VaultKeyed) :
    IsKey LoanBeneficiaryLink.loanId silver.slvPdmLoanBeneficiaryLinks := by
  refine isKey_map.mpr (isKey_innerJoin silver.isKey_slvPdmLoans fun loan _ => ?_)
  exact card_partners_equals_le_one keyed.ids _

theorem exists_identity_of_link {loanLink : LoanBeneficiaryLink}
    (member : loanLink ∈ silver.slvPdmLoanBeneficiaryLinks) :
    ∃ identity ∈ silver.vltPdmBeneficiaryIdentity,
      identity.beneficiaryToken = loanLink.beneficiaryToken := by
  obtain ⟨⟨loan, identity⟩, joined, rfl⟩ := Multiset.mem_map.mp member
  exact ⟨identity, (mem_innerJoin.mp joined).2.1, rfl⟩

end Silver

end PaymentsPlatform.Warehouse
