import PaymentsPlatform.Warehouse.Silver

/-!
# One row for each transaction

`slv_pdm_payments_transactions` keeps the latest row of each source system and record identifier.
The record identifier is the first identifier that is known, of whichever kind, so a transaction id
and an instruction id of the same text name one payment.
-/

namespace PaymentsPlatform.Warehouse

open Bag Calendar

/-- What the window of `slv_pdm_payments_transactions` may keep of Bronze. -/
abbrev RankedTransactions (bronze : Bronze) : Type :=
  Firsts PaymentTransaction.naturalKey PaymentTransaction.recency bronze.identifiedTransactions

/-- The output row is the one that the payment has. -/
def PaymentTransaction.StandsFor (row payment : PaymentTransaction) : Prop :=
  row.naturalKey = payment.naturalKey

/-- The two payments have different output rows. -/
def KeptApart (kept : Multiset PaymentTransaction) (payment other : PaymentTransaction) : Prop :=
  ∃ row ∈ kept, ∃ otherRow ∈ kept, row ≠ otherRow ∧ row.StandsFor payment ∧
    otherRow.StandsFor other

/-- The payment says `value` as its instruction, end-to-end or message id. -/
def PaymentTransaction.Says (payment : PaymentTransaction) (value : String) : Prop :=
  some value ∈ [payment.instructionId, payment.endToEndId, payment.messageId]

/-! ## What is promised -/

/-- The transactions that Bronze says with this source and record identifier. -/
def Bronze.transactionsOf (bronze : Bronze) (sourceSystem : PaymentSource)
    (recordIdentifier : String) : Multiset Transaction :=
  bronze.transactions.filter fun transaction =>
    transaction.sourceSystem = sourceSystem ∧
      transaction.recordIdentifier = some recordIdentifier

/-- One row for every source and record identifier that occurs, from a latest row of Bronze. -/
structure KeepsLatest (bronze : Bronze) (kept : Multiset PaymentTransaction) : Prop where
  single : ∀ key, (kept.filter fun row => row.naturalKey = key).card ≤ 1
  present : ∀ sourceSystem recordIdentifier,
    bronze.transactionsOf sourceSystem recordIdentifier ≠ 0 →
      (kept.filter fun row => row.naturalKey = (sourceSystem, recordIdentifier)).card = 1
  latest : ∀ row ∈ kept,
    row.toTransaction ∈ bronze.transactionsOf row.sourceSystem row.recordIdentifier ∧
      ∀ other ∈ bronze.transactionsOf row.sourceSystem row.recordIdentifier,
        nullsLast other.occurredAt ≤ nullsLast row.occurredAt

/-- What is promised of distinct payments, however ties are broken. -/
structure KeepsPaymentsApart (bronze : Bronze) : Prop where
  keepsLatest : ∀ ranked : RankedTransactions bronze, KeepsLatest bronze ranked.kept
  apart : ∀ ranked : RankedTransactions bronze, ∀ payment ∈ bronze.identifiedTransactions,
    ∀ other ∈ bronze.identifiedTransactions, ∀ value, payment.transactionId = some value →
      other.sourceSystem = payment.sourceSystem → other.transactionId = none → other.Says value →
        KeptApart ranked.kept payment other
  deterministic : ∀ ranked ranked' : RankedTransactions bronze, ranked.kept = ranked'.kept

/-- The rows of one source and record identifier that occurred last say the same. -/
def Bronze.LatestAgree (bronze : Bronze) : Prop :=
  ∀ payment payment',
    IsForemost PaymentTransaction.naturalKey PaymentTransaction.recency
      bronze.identifiedTransactions payment →
    IsForemost PaymentTransaction.naturalKey PaymentTransaction.recency
      bronze.identifiedTransactions payment' →
        payment.naturalKey = payment'.naturalKey → payment = payment'

/-- What the record identifier gives: payments are told apart by the first identifier that they
have, and a latest row that is alone is kept. -/
structure KeepsIdentifiersApart (bronze : Bronze) : Prop where
  keepsLatest : ∀ ranked : RankedTransactions bronze, KeepsLatest bronze ranked.kept
  apart : ∀ ranked : RankedTransactions bronze, ∀ payment ∈ bronze.identifiedTransactions,
    ∀ other ∈ bronze.identifiedTransactions, ∀ value, payment.transactionId = some value →
      other.sourceSystem = payment.sourceSystem → other.transactionId = none →
        (KeptApart ranked.kept payment other ↔
          coalesce [other.instructionId, other.endToEndId, other.messageId] ≠ some value)
  deterministic : bronze.LatestAgree →
    ∀ ranked ranked' : RankedTransactions bronze, ranked.kept = ranked'.kept

/-! ## The record identifier -/

theorem Transaction.identified_eq_some {transaction : Transaction} {payment : PaymentTransaction} :
    transaction.identified = some payment ↔ transaction = payment.toTransaction ∧
      payment.toTransaction.recordIdentifier = some payment.recordIdentifier := by
  unfold Transaction.identified
  rw [Option.map_eq_some_iff]
  constructor
  · intro ⟨identifier, known, isPayment⟩
    subst isPayment
    exact ⟨rfl, known⟩
  · intro ⟨isTransaction, known⟩
    subst isTransaction
    exact ⟨_, known, rfl⟩

theorem mem_identifiedTransactions {bronze : Bronze} {payment : PaymentTransaction} :
    payment ∈ bronze.identifiedTransactions ↔
      payment.toTransaction ∈
        bronze.transactionsOf payment.sourceSystem payment.recordIdentifier := by
  rw [Bronze.identifiedTransactions, Multiset.mem_filterMap, Bronze.transactionsOf,
    Multiset.mem_filter]
  constructor
  · intro ⟨transaction, member, known⟩
    obtain ⟨rfl, identified⟩ := Transaction.identified_eq_some.mp known
    exact ⟨member, rfl, identified⟩
  · intro ⟨member, _, identified⟩
    exact ⟨_, member, Transaction.identified_eq_some.mpr ⟨rfl, identified⟩⟩

theorem identified_of_mem {bronze : Bronze} {sourceSystem : PaymentSource} {recordIdentifier : String}
    {transaction : Transaction}
    (member : transaction ∈ bronze.transactionsOf sourceSystem recordIdentifier) :
    { transaction with recordIdentifier } ∈ bronze.identifiedTransactions ∧
      transaction.sourceSystem = sourceSystem := by
  have ofSource := (Multiset.mem_filter.mp member).2.1
  subst ofSource
  exact ⟨mem_identifiedTransactions.mpr member, rfl⟩

theorem PaymentTransaction.recordIdentifier_of_transactionId {bronze : Bronze}
    {payment : PaymentTransaction} (member : payment ∈ bronze.identifiedTransactions)
    {value : String} (known : payment.transactionId = some value) :
    payment.recordIdentifier = value := by
  have identified := (Multiset.mem_filter.mp (mem_identifiedTransactions.mp member)).2.2
  rw [Transaction.recordIdentifier, known] at identified
  exact (Option.some.inj identified).symm

theorem PaymentTransaction.coalesce_of_transactionId_eq_none {bronze : Bronze}
    {payment : PaymentTransaction} (member : payment ∈ bronze.identifiedTransactions)
    (missing : payment.transactionId = none) :
    coalesce [payment.instructionId, payment.endToEndId, payment.messageId] =
      some payment.recordIdentifier := by
  have identified := (Multiset.mem_filter.mp (mem_identifiedTransactions.mp member)).2.2
  rw [Transaction.recordIdentifier, missing] at identified
  exact identified

/-! ## The window -/

theorem keepsLatest {bronze : Bronze} (ranked : RankedTransactions bronze) :
    KeepsLatest bronze ranked.kept where
  single key := by
    have counted := Multiset.nodup_iff_count_le_one.mp ranked.isFirsts.unique key
    rw [Multiset.count_map] at counted
    simpa only [eq_comm] using counted
  present sourceSystem recordIdentifier occurs := by
    rw [card_filter_eq_one ranked.isFirsts.unique, ranked.isFirsts.mem_names]
    obtain ⟨transaction, member⟩ := Multiset.exists_mem_of_ne_zero occurs
    obtain ⟨identified, ofSource⟩ := identified_of_mem member
    exact Multiset.mem_map.mpr ⟨_, identified, Prod.ext ofSource rfl⟩
  latest row inKept := by
    refine ⟨mem_identifiedTransactions.mp (ranked.isFirsts.mem row inKept), fun other member => ?_⟩
    obtain ⟨identified, ofSource⟩ := identified_of_mem member
    exact ranked.isFirsts.first row inKept _ identified (Prod.ext ofSource rfl)

theorem keptApart_iff {bronze : Bronze} (ranked : RankedTransactions bronze)
    {payment other : PaymentTransaction} (member : payment ∈ bronze.identifiedTransactions)
    (alsoMember : other ∈ bronze.identifiedTransactions) :
    KeptApart ranked.kept payment other ↔ payment.naturalKey ≠ other.naturalKey := by
  constructor
  · intro ⟨row, inKept, otherRow, alsoKept, different, ofPayment, ofOther⟩ same
    exact different (ranked.isFirsts.eq_of_name_eq inKept alsoKept
      (ofPayment.trans (same.trans ofOther.symm)))
  · intro different
    obtain ⟨row, inKept, ofPayment⟩ := ranked.isFirsts.covers payment member
    obtain ⟨otherRow, alsoKept, ofOther⟩ := ranked.isFirsts.covers other alsoMember
    refine ⟨row, inKept, otherRow, alsoKept, fun same => ?_, ofPayment, ofOther⟩
    exact different (ofPayment.symm.trans ((congrArg _ same).trans ofOther))

/-- Payments of one source are told apart by the first identifier that each of them has. -/
theorem keepsIdentifiersApart (bronze : Bronze) : KeepsIdentifiersApart bronze where
  keepsLatest := keepsLatest
  apart ranked payment member other alsoMember value known sameSource missing := by
    have isValue := PaymentTransaction.recordIdentifier_of_transactionId member known
    rw [keptApart_iff ranked member alsoMember,
      PaymentTransaction.coalesce_of_transactionId_eq_none alsoMember missing, not_iff_not]
    constructor
    · intro same
      rw [← isValue]
      exact congrArg some (congrArg Prod.snd same).symm
    · intro same
      exact Prod.ext sameSource.symm (isValue.trans (Option.some.inj same).symm)
  deterministic agree ranked ranked' :=
    kept_eq_iff.mpr agree _ _ ranked.isFirsts ranked'.isFirsts

/-! ## A transaction id that is another payment's instruction id -/

def walletInitiation (transactionId instructionId : Option String) : WendiPain001 where
  messageId := none
  endToEndId := some "LOAN-000001"
  creationAt := none
  instructedAmount := some 1000000
  currency := some "UGX"
  instructionId := instructionId
  transactionId := transactionId
  uetr := none

/-- Two initiations of the wallet: the second has no transaction id, and the first's as its
instruction id. -/
def coincidingBronze : Bronze where
  wendiPain001 := {⟨walletInitiation (some "PAY-1") none, ⟨"E-1", "wendi.pain001", 0, 0, none⟩⟩,
    ⟨walletInitiation none (some "PAY-1"), ⟨"E-2", "wendi.pain001", 0, 1, none⟩⟩}

theorem coinciding_not_keepsPaymentsApart : ¬ ∀ bronze : Bronze, KeepsPaymentsApart bronze := by
  intro always
  obtain ⟨ranked⟩ : Nonempty (RankedTransactions coincidingBronze) := inferInstance
  let payment : PaymentTransaction :=
    { (walletInitiation (some "PAY-1") none).transaction with recordIdentifier := "PAY-1" }
  let other : PaymentTransaction :=
    { (walletInitiation none (some "PAY-1")).transaction with recordIdentifier := "PAY-1" }
  have member : payment ∈ coincidingBronze.identifiedTransactions := by decide +kernel
  have alsoMember : other ∈ coincidingBronze.identifiedTransactions := by decide +kernel
  have apart := (always coincidingBronze).apart ranked payment member other alsoMember "PAY-1" rfl
    rfl rfl (.head _)
  exact (keptApart_iff ranked member alsoMember).mp apart rfl

end PaymentsPlatform.Warehouse
