import Mathlib.Data.Prod.Lex
import Mathlib.Data.String.Basic
import Mathlib.Algebra.Order.Ring.Unbundled.Rat
import PaymentsPlatform.Library.BagQueries
import PaymentsPlatform.Library.Calendar

/-!
# Bronze

The tables that hold one row for each delivered event.  A row is what the event says, with the
coordinates of its delivery; an event that is delivered again is another row of the same content.
-/

namespace PaymentsPlatform.Warehouse

open Bag Calendar

/-- Where and when Kafka delivered an event. -/
structure Delivery where
  eventId : String
  kafkaTopic : String
  kafkaPartition : Nat
  kafkaOffset : Nat
  kafkaTimestamp : Option Timestamp
  deriving DecidableEq

structure Stored (α : Type) where
  content : α
  delivery : Delivery
  deriving DecidableEq

namespace Stored

/-- `order by kafka_timestamp desc, kafka_offset desc`. -/
def recency {α : Type} (row : Stored α) : WithBot Timestamp ×ₗ Nat :=
  toLex (nullsLast row.delivery.kafkaTimestamp, row.delivery.kafkaOffset)

/-- `order by updated_at desc nulls last, kafka_timestamp desc, kafka_offset desc`. -/
def revision {α : Type} (updatedAt : α → Option Timestamp) (row : Stored α) :
    WithBot Timestamp ×ₗ WithBot Timestamp ×ₗ Nat :=
  toLex (nullsLast (updatedAt row.content), row.recency)

end Stored

/-! ## What the events say -/

structure Pain001 where
  messageId : Option String
  endToEndId : Option String
  creationAt : Option Timestamp
  instructedAmount : Option ℚ
  currency : Option String
  debtorAccountId : Option String
  creditorAccountId : Option String
  debtorAccountIssuer : Option String
  creditorAccountIssuer : Option String
  instructionId : Option String
  transactionId : Option String
  uetr : Option String
  deriving DecidableEq

structure WendiPain001 where
  messageId : Option String
  endToEndId : Option String
  creationAt : Option Timestamp
  instructedAmount : Option ℚ
  currency : Option String
  instructionId : Option String
  transactionId : Option String
  uetr : Option String
  deriving DecidableEq

structure Pacs008 where
  messageId : Option String
  endToEndId : Option String
  transactionId : Option String
  creationAt : Option Timestamp
  instructedAmount : Option ℚ
  currency : Option String
  deriving DecidableEq

structure WalletTransaction where
  walletEventId : Option String
  loanId : Option String
  beneficiaryId : Option String
  saccoId : Option String
  eventTimestamp : Option Timestamp
  amount : Option ℚ
  currency : Option String
  transactionStatus : Option String
  wendiTransactionId : Option String
  agentId : Option String
  deriving DecidableEq

structure AgentTransaction where
  transactionId : Option String
  agentId : Option String
  loanId : Option String
  beneficiaryId : Option String
  transactionTimestamp : Option Timestamp
  amount : Option ℚ
  status : Option String
  deriving DecidableEq

structure Pain002 where
  messageId : Option String
  originalMessageId : Option String
  originalTransactionId : Option String
  endToEndId : Option String
  creationAt : Option Timestamp
  groupStatus : Option String
  transactionStatus : Option String
  reasonCode : Option String
  additionalInfo : Option String
  deriving DecidableEq

structure Pacs002 where
  messageId : Option String
  originalTransactionId : Option String
  endToEndId : Option String
  creationAt : Option Timestamp
  transactionStatus : Option String
  statusReasonCode : Option String
  statusAdditionalInfo : Option String
  deriving DecidableEq

structure Camt053 where
  endToEndId : Option String
  deriving DecidableEq

structure Camt054 where
  endToEndId : Option String
  notificationCreatedAt : Option Timestamp
  entryAmount : Option ℚ
  transactionAmount : Option ℚ
  deriving DecidableEq

/-- A place, as far as analytics may know it. -/
@[ext]
structure Area where
  region : Option String
  district : Option String
  county : Option String
  subCounty : Option String
  deriving DecidableEq

structure Loan where
  loanId : Option String
  beneficiaryId : Option String
  saccoId : Option String
  businessPlanId : Option String
  applicationDate : Option Date
  approvalDate : Option Date
  verificationDate : Option Date
  disbursementDate : Option Date
  cashoutDate : Option Date
  asOfDate : Option Date
  amountApproved : Option ℚ
  amountDisbursed : Option ℚ
  amountRepaid : Option ℚ
  lastPaymentDate : Option Date
  updatedAt : Option Timestamp
  deriving DecidableEq

structure Beneficiary where
  beneficiaryId : Option String
  phone : Option String
  area : Area
  registrationDate : Option Date
  updatedAt : Option Timestamp
  deriving DecidableEq

structure Sacco where
  saccoId : Option String
  area : Area
  updatedAt : Option Timestamp
  deriving DecidableEq

structure BusinessPlan where
  businessPlanId : Option String
  updatedAt : Option Timestamp
  deriving DecidableEq

structure Agent where
  agentId : Option String
  area : Area
  updatedAt : Option Timestamp
  deriving DecidableEq

structure AgentLocation where
  agentId : Option String
  locationType : Option String
  latitude : Option ℚ
  longitude : Option ℚ
  deriving DecidableEq

/-- A row of the table that the token worker fills. -/
structure TokenLink where
  beneficiaryId : Option String
  beneficiaryToken : Option String
  isActive : Truth
  deriving DecidableEq

structure Bronze where
  icmnVpmPain001 : Multiset (Stored Pain001) := 0
  wendiPain001 : Multiset (Stored WendiPain001) := 0
  mobileMtnPacs008 : Multiset (Stored Pacs008) := 0
  mobileAirtelPacs008 : Multiset (Stored Pacs008) := 0
  wendiTransactions : Multiset (Stored WalletTransaction) := 0
  agentTransactions : Multiset (Stored AgentTransaction) := 0
  cpoPsnPain002 : Multiset (Stored Pain002) := 0
  wendiPain002 : Multiset (Stored Pain002) := 0
  mobileMtnPacs002 : Multiset (Stored Pacs002) := 0
  mobileAirtelPacs002 : Multiset (Stored Pacs002) := 0
  wendiCamt053 : Multiset (Stored Camt053) := 0
  wendiCamt054 : Multiset (Stored Camt054) := 0
  pdmisLoans : Multiset (Stored Loan) := 0
  pdmisBeneficiaries : Multiset (Stored Beneficiary) := 0
  pdmisSaccos : Multiset (Stored Sacco) := 0
  pdmisBusinessPlans : Multiset (Stored BusinessPlan) := 0
  agentProfiles : Multiset (Stored Agent) := 0
  agentLocations : Multiset (Stored AgentLocation) := 0
  beneficiaryTokenLink : Multiset TokenLink := 0

end PaymentsPlatform.Warehouse
