import PaymentsPlatform.Warehouse.Matches

/-!
# The payment fact

`gld_fct_pdm_payments` joins every payment with six other models.  Five of them have one row for
what they are joined on.  The sixth, the account controls, has one for each creditor that the
payment's message names, and Bronze may hold a message that names several.
-/

namespace PaymentsPlatform.Warehouse

open Bag Calendar

/-! ## Surrogate keys -/

/-- The text that `gold_surrogate_key` hashes. -/
def keyText (columns : List (Option String)) : String :=
  String.ofList (['|', '|'].intercalate (columns.map fun column =>
    (column.getD "__UNKNOWN__").toList))

def goldSurrogateKey (md5 : String → String) (columns : List (Option String)) : String :=
  md5 (keyText columns)

/-! ## gld_fct_pdm_payments -/

structure ReconciliationCount where
  sourceSystem : Option PaymentSource
  transactionId : Option String
  statusEventCount : Nat
  matchedStatusEventCount : Nat
  unmatchedStatusEventCount : Nat
  deriving DecidableEq

/-- The columns of a fact row that are the payment's own. -/
structure PaymentColumns where
  paymentSk : String
  paymentDateSk : String
  sourceSystem : PaymentSource
  transactionId : Option String
  loanId : Option String
  messageId : Option String
  instructionId : Option String
  uetr : Option String
  occurredAt : Option Timestamp
  currency : Option String
  transactionStatus : Option String
  paymentAmount : Option ℚ
  deriving DecidableEq

structure PaymentFact extends PaymentColumns where
  beneficiarySk : String
  saccoSk : String
  agentSk : String
  geographySk : String
  entityMatchStatus : Option EntityMatchStatus
  beneficiaryToken : Option String
  region : Option String
  district : Option String
  county : Option String
  subCounty : Option String
  creditorAccountIssuer : Option String
  statusEventCount : Nat
  matchedStatusEventCount : Nat
  unmatchedStatusEventCount : Nat
  paymentCount : Nat
  isEntityMatched : Truth
  isReconciled : Bool
  isAccountSubstituted : Truth
  deriving DecidableEq

def Area.columns (area : Option Area) : List (Option String) :=
  [area.bind Area.region, area.bind Area.district, area.bind Area.county,
    area.bind Area.subCounty]

section Columns

variable (md5 : String → String)

def paymentSk (naturalKey : PaymentSource × String) : String :=
  goldSurrogateKey md5 [some naturalKey.1.text, some naturalKey.2]

def paymentColumns (payment : PaymentTransaction) : PaymentColumns where
  paymentSk := paymentSk md5 payment.naturalKey
  paymentDateSk := goldSurrogateKey md5 [payment.occurredAt.map fun time => time.date.text]
  sourceSystem := payment.sourceSystem
  transactionId := payment.transactionId
  loanId := payment.endToEndId
  messageId := payment.messageId
  instructionId := payment.instructionId
  uetr := payment.uetr
  occurredAt := payment.occurredAt
  currency := payment.currency
  transactionStatus := payment.transactionStatus
  paymentAmount := payment.amount

def paymentFact : (((((PaymentTransaction × Option EntityMatch) × Option LoanBeneficiaryLink) ×
    Option Identity) × Option Agent) × Option ReconciliationCount) × Option AccountControl →
    PaymentFact :=
  fun ((((((payment, entity), loanLink), beneficiary), agent), reconciliation), controls) =>
    let area := beneficiary.map Identity.area
    let beneficiaryToken := loanLink.bind LoanBeneficiaryLink.beneficiaryToken
    let saccoId := coalesce [entity.bind EntityMatch.transactionSaccoId,
      entity.bind EntityMatch.loanSaccoId]
    let matchedCount := (reconciliation.map ReconciliationCount.matchedStatusEventCount).getD 0
    let unmatchedCount := (reconciliation.map ReconciliationCount.unmatchedStatusEventCount).getD 0
    { paymentColumns md5 payment with
      beneficiarySk := goldSurrogateKey md5 [beneficiaryToken]
      saccoSk := goldSurrogateKey md5 [saccoId]
      agentSk := goldSurrogateKey md5 [agent.bind Agent.agentId]
      geographySk := goldSurrogateKey md5 (Area.columns area)
      entityMatchStatus := entity.map EntityMatch.entityMatchStatus
      beneficiaryToken := beneficiaryToken
      region := area.bind Area.region
      district := area.bind Area.district
      county := area.bind Area.county
      subCounty := area.bind Area.subCounty
      creditorAccountIssuer := controls.bind AccountControl.creditorAccountIssuer
      statusEventCount := (reconciliation.map ReconciliationCount.statusEventCount).getD 0
      matchedStatusEventCount := matchedCount
      unmatchedStatusEventCount := unmatchedCount
      paymentCount := 1
      isEntityMatched := equals (entity.map EntityMatch.entityMatchStatus) (some .matched)
      isReconciled := 0 < matchedCount && unmatchedCount = 0
      isAccountSubstituted := controls.bind AccountControl.isAccountSubstituted }

end Columns

namespace Layers

variable {bronze : Bronze} (layers : Layers bronze)

/-- The status reports that are about a transaction, counted. -/
def reconciliationCounts : Multiset ReconciliationCount :=
  groupBy (fun row => (row.transactionSource, row.transactionId))
    (fun (sourceSystem, transactionId) group =>
      { sourceSystem, transactionId
        statusEventCount := group.card
        matchedStatusEventCount :=
          countWhere (fun row => some (decide (row.reconciliationStatus = .matched))) group
        unmatchedStatusEventCount :=
          countWhere (fun row => some (decide (row.reconciliationStatus = .unmatched))) group })
    (layers.slvPdmPaymentsReconciliation.filter fun row => row.transactionId.isSome)

/-- A payment with its matches. -/
def paymentEntities : Multiset (PaymentTransaction × Option EntityMatch) :=
  leftJoin layers.slvPdmPaymentsTransactions.kept layers.slvPdmPaymentEntityMatches
    fun payment entity => (equals (some payment.sourceSystem) (some entity.sourceSystem)).and
      (equals payment.transactionId entity.transactionId)

/-- A payment with what the first five joins add to it. -/
def paymentJoins : Multiset (((((PaymentTransaction × Option EntityMatch) ×
    Option LoanBeneficiaryLink) × Option Identity) × Option Agent) × Option ReconciliationCount) :=
  let loanLinks := leftJoin layers.paymentEntities layers.slvPdmLoanBeneficiaryLinks
    fun row loanLink => equals row.1.endToEndId loanLink.loanId
  let beneficiaries := leftJoin loanLinks layers.slvPdmBeneficiaries
    fun row beneficiary => equals (row.2.bind LoanBeneficiaryLink.beneficiaryToken)
      beneficiary.beneficiaryToken
  let agents := leftJoin beneficiaries layers.slvPdmAgents
    fun row agent => equals (row.1.1.2.bind EntityMatch.transactionAgentId) agent.agentId
  leftJoin agents layers.reconciliationCounts
    fun row reconciliation =>
      (equals (some row.1.1.1.1.sourceSystem) reconciliation.sourceSystem).and
        (equals row.1.1.1.1.transactionId reconciliation.transactionId)

def controlOf (payment : PaymentTransaction) (control : AccountControl) : Truth :=
  (equals (some payment.sourceSystem) (some control.sourceSystem)).and
    (equals payment.transactionId control.transactionId)

def gldFctPdmPayments (md5 : String → String) : Multiset PaymentFact :=
  (leftJoin layers.paymentJoins layers.slvPdmPaymentAccountControls
    fun row control => controlOf row.1.1.1.1.1 control).map (paymentFact md5)

/-! ## The five joins with a key -/

variable {layers}

theorem card_transaction_partners_le_one {α : Type} {right : Multiset α}
    {sourceSystem : α → Option PaymentSource} {transactionId : α → Option String}
    (unique : IsKey (fun row => (sourceSystem row).bind fun sourceSystem =>
      transactionKey sourceSystem (transactionId row)) right)
    (source : PaymentSource) (transaction : Option String) :
    (partners right fun row => (equals (some source) (sourceSystem row)).and
      (equals transaction (transactionId row))).card ≤ 1 := by
  refine card_partners_le_one unique fun first second matched alsoMatched => ?_
  simp only [Truth.holds_and, Bool.and_eq_true, holds_equals, Option.some.injEq] at matched alsoMatched
  obtain ⟨⟨_, rfl, ofFirst⟩, known, rfl, named⟩ := matched
  obtain ⟨⟨_, rfl, ofSecond⟩, _, same, alsoNamed⟩ := alsoMatched
  refine ⟨(source, known), ?_, ?_⟩
  · simp [transactionKey, ofFirst, named]
  · simp [transactionKey, ofSecond, alsoNamed, Option.some.inj same]

theorem isKey_reconciliationCounts :
    IsKey (fun row : ReconciliationCount => row.sourceSystem.bind fun sourceSystem =>
      transactionKey sourceSystem row.transactionId) layers.reconciliationCounts := by
  refine isKey_of_nodup_map (fun row => (row.sourceSystem, row.transactionId))
    (fun (sourceSystem, transactionId) => (some sourceSystem, some transactionId)) ?_
    (nodup_map_groupBy (fun value group => rfl) _)
  rintro row - value keyed
  obtain ⟨sourceSystem, known, named⟩ := Option.bind_eq_some_iff.mp keyed
  obtain ⟨transactionId, alsoKnown, rfl⟩ := Option.map_eq_some_iff.mp named
  simp [known, alsoKnown]

theorem map_paymentJoins (keyed : layers.VaultKeyed) {γ : Type} (project : PaymentTransaction → γ) :
    layers.paymentJoins.map (((((project ∘ Prod.fst) ∘ Prod.fst) ∘ Prod.fst) ∘ Prod.fst) ∘ Prod.fst) =
      layers.slvPdmPaymentsTransactions.kept.map project := by
  refine (map_leftJoin fun row _ => card_transaction_partners_le_one
    isKey_reconciliationCounts _ _).trans ?_
  refine (map_leftJoin fun row _ =>
    card_partners_equals_le_one layers.isKey_slvPdmAgents _).trans ?_
  refine (map_leftJoin fun row _ =>
    card_partners_equals_le_one (Silver.isKey_slvPdmBeneficiaries keyed) _).trans ?_
  refine (map_leftJoin fun row _ =>
    card_partners_equals_le_one (Silver.isKey_slvPdmLoanBeneficiaryLinks keyed) _).trans ?_
  exact map_leftJoin fun row _ =>
    card_transaction_partners_le_one (Silver.isKey_slvPdmPaymentEntityMatches keyed) _ _

end Layers

/-! ## The grain of the fact -/

section SurrogateKeys

theorem eq_of_append_bar {word word' rest rest' : List Char} (free : '|' ∉ word)
    (free' : '|' ∉ word') (same : word ++ '|' :: rest = word' ++ '|' :: rest') :
    word = word' ∧ rest = rest' := by
  have upTo {word : List Char} (rest : List Char) (free : '|' ∉ word) :
      (word ++ '|' :: rest).takeWhile (· ≠ '|') = word := by
    have others (character : Char) (member : character ∈ word) : decide (character ≠ '|') = true := by
      refine decide_eq_true fun bar => free ?_
      exact bar ▸ member
    rw [List.takeWhile_append_of_pos others]
    simp
  have words := congrArg (List.takeWhile (· ≠ '|')) same
  rw [upTo rest free, upTo rest' free'] at words
  subst words
  exact ⟨rfl, (List.cons.inj (List.append_cancel_left same)).2⟩

theorem toList_keyText_cons_cons (first second : Option String) (columns : List (Option String)) :
    (keyText (first :: second :: columns)).toList =
      (first.getD "__UNKNOWN__").toList ++ '|' :: '|' :: (keyText (second :: columns)).toList := by
  simp [keyText, List.intercalate]

@[simp]
theorem keyText_singleton (column : Option String) :
    keyText [column] = column.getD "__UNKNOWN__" := by
  simp [keyText, List.intercalate]

theorem paymentSk_injective {md5 : String → String} (injective : Function.Injective md5) :
    Function.Injective (paymentSk md5) := by
  rintro ⟨source, identifier⟩ ⟨source', identifier'⟩ same
  have texts := congrArg String.toList (injective same)
  rw [toList_keyText_cons_cons, toList_keyText_cons_cons] at texts
  have free (source : PaymentSource) : '|' ∉ source.text.toList := by
    cases source <;> decide
  obtain ⟨names, rest⟩ := eq_of_append_bar (free source) (free source') texts
  obtain rfl := PaymentSource.text_injective (String.toList_inj.mp names)
  have identifiers := String.toList_inj.mp (List.cons.inj rest).2
  simpa using identifiers

end SurrogateKeys

/-- The fact has one row for each payment, under a key of its own, and the same total. -/
structure KeepsGrain (md5 : String → String) {bronze : Bronze} (layers : Layers bronze) : Prop where
  rows : (layers.gldFctPdmPayments md5).map PaymentFact.toPaymentColumns =
    layers.slvPdmPaymentsTransactions.kept.map (paymentColumns md5)
  unique : ((layers.gldFctPdmPayments md5).map fun row => row.paymentSk).Nodup
  total : sumOf ((layers.gldFctPdmPayments md5).map fun row => row.paymentAmount) =
    sumOf (layers.slvPdmPaymentsTransactions.kept.map fun payment => payment.amount)

/-- The payment messages with this identifier that name an account of the creditor name the same
account and issuer. -/
def OneCreditor (bronze : Bronze) (messageId : Option String) : Prop :=
  ∀ row ∈ contents bronze.icmnVpmPain001, ∀ row' ∈ contents bronze.icmnVpmPain001,
    (equals messageId row.messageId).holds → (equals messageId row'.messageId).holds →
      row.creditorAccountId.isSome → row'.creditorAccountId.isSome →
        row.creditorAccountId = row'.creditorAccountId ∧
          row.creditorAccountIssuer = row'.creditorAccountIssuer

theorem creditorOf_holds {payment : PaymentTransaction} {role : PaymentPartyRole} :
    (Silver.creditorOf payment role).holds ↔
      (equals payment.messageId role.messageId).holds ∧ role.partyRole = .creditor := by
  simp [Silver.creditorOf]

theorem mem_slvPdmPaymentPartyRoles_creditor {bronze : Bronze} {role : PaymentPartyRole}
    (creditor : role.partyRole = .creditor) :
    role ∈ bronze.slvPdmPaymentPartyRoles ↔
      ∃ row ∈ contents bronze.icmnVpmPain001, row.creditorAccountId.isSome ∧
        row.creditorRole = role := by
  simp only [Bronze.slvPdmPaymentPartyRoles, Multiset.mem_dedup, Multiset.mem_add,
    Multiset.mem_map, Multiset.mem_filter]
  constructor
  · rintro (⟨row, -, rfl⟩ | ⟨row, ⟨member, named⟩, made⟩)
    · exact absurd creditor (by simp [Pain001.debtorRole])
    · exact ⟨row, member, named, made⟩
  · rintro ⟨row, member, named, made⟩
    exact .inr ⟨row, ⟨member, named⟩, made⟩

theorem oneCreditor_iff {bronze : Bronze} {payment : PaymentTransaction} :
    (partners bronze.slvPdmPaymentPartyRoles (Silver.creditorOf payment)).card ≤ 1 ↔
      OneCreditor bronze payment.messageId := by
  have distinct : (partners bronze.slvPdmPaymentPartyRoles (Silver.creditorOf payment)).Nodup :=
    (Multiset.nodup_dedup _).filter _
  rw [card_le_one_iff_of_nodup distinct]
  constructor
  · intro single row member row' member' inMessage inMessage' named named'
    have partner {row : Pain001} (member : row ∈ contents bronze.icmnVpmPain001)
        (inMessage : (equals payment.messageId row.messageId).holds)
        (named : row.creditorAccountId.isSome) :
        row.creditorRole ∈
          partners bronze.slvPdmPaymentPartyRoles (Silver.creditorOf payment) :=
      mem_partners.mpr ⟨(mem_slvPdmPaymentPartyRoles_creditor rfl).mpr ⟨row, member, named, rfl⟩,
        creditorOf_holds.mpr ⟨inMessage, rfl⟩⟩
    have same := single _ (partner member inMessage named) _ (partner member' inMessage' named')
    exact ⟨congrArg PaymentPartyRole.accountId same, congrArg PaymentPartyRole.accountIssuer same⟩
  · intro single role member role' member'
    obtain ⟨inRoles, ofPayment⟩ := mem_partners.mp member
    obtain ⟨inRoles', ofPayment'⟩ := mem_partners.mp member'
    obtain ⟨inMessage, creditor⟩ := creditorOf_holds.mp ofPayment
    obtain ⟨inMessage', creditor'⟩ := creditorOf_holds.mp ofPayment'
    obtain ⟨row, inBronze, named, rfl⟩ := (mem_slvPdmPaymentPartyRoles_creditor creditor).mp inRoles
    obtain ⟨row', inBronze', named', rfl⟩ :=
      (mem_slvPdmPaymentPartyRoles_creditor creditor').mp inRoles'
    obtain ⟨account, issuer⟩ :=
      single row inBronze row' inBronze' inMessage inMessage' named named'
    obtain ⟨message, ofMessage, ofRow⟩ := holds_equals.mp inMessage
    obtain ⟨_, alsoOfMessage, ofRow'⟩ := holds_equals.mp inMessage'
    have messages : row.messageId = row'.messageId :=
      ofRow.trans ((ofMessage.symm.trans alsoOfMessage).trans ofRow'.symm)
    simp only [Pain001.creditorRole, PaymentPartyRole.mk.injEq, true_and]
    exact ⟨messages, account, issuer⟩

theorem card_creditors_le_card_controls {bronze : Bronze} {layers : Layers bronze}
    (keyed : layers.VaultKeyed) {payment : PaymentTransaction}
    (member : payment ∈ layers.transactionPayments) :
    (partners bronze.slvPdmPaymentPartyRoles (Silver.creditorOf payment)).card ≤
      (partners layers.slvPdmPaymentAccountControls (Layers.controlOf payment)).card := by
  let same (other : PaymentTransaction) : Prop :=
    ((equals (some payment.sourceSystem) (some other.sourceSystem)).and
      (equals payment.transactionId other.transactionId)).holds
  have itself : same payment := by
    have known : payment.transactionId.isSome := (Multiset.mem_filter.mp member).2
    obtain ⟨transactionId, named⟩ := Option.isSome_iff_exists.mp known
    simp [same, named, equals, compared]
  have contacts : (leftJoin layers.creditors layers.beneficiaryContacts fun row contact =>
      equals row.1.endToEndId contact.loanId).map Prod.fst = layers.creditors :=
    map_fst_leftJoin_of_le_one fun row _ =>
      card_partners_equals_le_one (Silver.isKey_beneficiaryContacts keyed) _
  have ofCreditors : (partners layers.slvPdmPaymentAccountControls (Layers.controlOf payment)).card =
      (layers.creditors.filter fun row => same row.1).card := by
    have filtered := congrArg (fun rows => (rows.filter fun row => same row.1).card) contacts
    simp only [Multiset.filter_map, Multiset.card_map] at filtered
    rw [← filtered, partners, Silver.slvPdmPaymentAccountControls, Multiset.filter_map,
      Multiset.card_map]
    rfl
  rw [ofCreditors]
  have joined : (padded (partners bronze.slvPdmPaymentPartyRoles (Silver.creditorOf payment))).map
      (fun role => (payment, role)) ≤ layers.creditors.filter fun row => same row.1 := by
    refine Multiset.le_filter.mpr ⟨Multiset.le_bind _ member, fun row inJoin => ?_⟩
    obtain ⟨role, -, rfl⟩ := Multiset.mem_map.mp inJoin
    exact itself
  have counted := Multiset.card_le_card joined
  rw [Multiset.card_map, card_padded] at counted
  exact (le_max_right _ _).trans counted

theorem card_lt_card_gldFctPdmPayments (md5 : String → String) {bronze : Bronze}
    {layers : Layers bronze} (keyed : layers.VaultKeyed) {payment : PaymentTransaction}
    (member : payment ∈ layers.slvPdmPaymentsTransactions.kept)
    (several : 1 < (partners layers.slvPdmPaymentAccountControls (Layers.controlOf payment)).card) :
    layers.slvPdmPaymentsTransactions.kept.card < (layers.gldFctPdmPayments md5).card := by
  have payments := Layers.map_paymentJoins keyed id
  rw [Multiset.map_id] at payments
  obtain ⟨row, inJoins, ofRow⟩ := Multiset.mem_map.mp (payments.symm ▸ member)
  have counted : layers.paymentJoins.card = layers.slvPdmPaymentsTransactions.kept.card := by
    rw [← payments, Multiset.card_map]
  have joined : row.1.1.1.1.1 = payment := ofRow
  rw [← counted, Layers.gldFctPdmPayments, Multiset.card_map]
  refine card_lt_card_leftJoin inJoins ?_
  rw [joined]
  exact several

theorem oneCreditor_of_keepsGrain {md5 : String → String} {bronze : Bronze}
    {layers : Layers bronze} (keyed : layers.VaultKeyed) (keeps : KeepsGrain md5 layers)
    {payment : PaymentTransaction} (member : payment ∈ layers.transactionPayments) :
    (partners bronze.slvPdmPaymentPartyRoles (Silver.creditorOf payment)).card ≤ 1 := by
  by_contra several
  have repeated := card_lt_card_gldFctPdmPayments md5 keyed
    (Multiset.mem_of_mem_filter member)
    ((Nat.lt_of_not_le several).trans_le (card_creditors_le_card_controls keyed member))
  have rows := congrArg Multiset.card keeps.rows
  rw [Multiset.card_map, Multiset.card_map] at rows
  omega

theorem keepsGrain_of_oneCreditor {md5 : String → String} (injective : Function.Injective md5)
    {bronze : Bronze} {layers : Layers bronze} (keyed : layers.VaultKeyed)
    (single : ∀ payment ∈ layers.transactionPayments,
      (partners bronze.slvPdmPaymentPartyRoles (Silver.creditorOf payment)).card ≤ 1) :
    KeepsGrain md5 layers := by
  have rows : (layers.gldFctPdmPayments md5).map PaymentFact.toPaymentColumns =
      layers.slvPdmPaymentsTransactions.kept.map (paymentColumns md5) := by
    rw [Layers.gldFctPdmPayments, Multiset.map_map, ← Layers.map_paymentJoins keyed]
    refine Eq.trans ?_ (map_leftJoin fun row _ => @Layers.card_transaction_partners_le_one _ _
      (some ∘ AccountControl.sourceSystem) _
      (Silver.isKey_slvPdmPaymentAccountControls keyed single) row.1.1.1.1.1.sourceSystem
      row.1.1.1.1.1.transactionId)
    exact Multiset.map_congr rfl fun row _ => rfl
  refine ⟨rows, ?_, ?_⟩
  · have keys := congrArg (Multiset.map PaymentColumns.paymentSk) rows
    rw [Multiset.map_map, Multiset.map_map] at keys
    refine keys ▸ ?_
    have named : layers.slvPdmPaymentsTransactions.kept.map
        (PaymentColumns.paymentSk ∘ paymentColumns md5) =
        (layers.slvPdmPaymentsTransactions.kept.map PaymentTransaction.naturalKey).map
          (paymentSk md5) := by
      rw [Multiset.map_map]
      rfl
    rw [named]
    exact layers.slvPdmPaymentsTransactions.isFirsts.unique.map (paymentSk_injective injective)
  · have amounts := congrArg (Multiset.map PaymentColumns.paymentAmount) rows
    rw [Multiset.map_map, Multiset.map_map] at amounts
    exact congrArg sumOf amounts

/-- The fact keeps the grain of the payments exactly when the message of each known transaction
names one creditor at most. -/
theorem keepsGrain_iff {md5 : String → String} (injective : Function.Injective md5)
    {bronze : Bronze} (layers : Layers bronze) (keyed : layers.VaultKeyed) :
    KeepsGrain md5 layers ↔ ∀ payment ∈ layers.slvPdmPaymentsTransactions.kept,
      payment.transactionId.isSome → OneCreditor bronze payment.messageId := by
  constructor
  · intro keeps payment member known
    exact oneCreditor_iff.mp
      (oneCreditor_of_keepsGrain keyed keeps (Multiset.mem_filter.mpr ⟨member, known⟩))
  · intro single
    refine keepsGrain_of_oneCreditor injective keyed fun payment member => ?_
    obtain ⟨inSilver, known⟩ := Multiset.mem_filter.mp member
    exact oneCreditor_iff.mpr (single payment inSilver known)

/-! ## Messages with one transfer and with two -/

/-- A transfer of the message `MSG-1`, as Bronze stores it. -/
def storedTransfer (offset : Nat) (transactionId creditorAccount : String) : Stored Pain001 where
  content :=
    { messageId := some "MSG-1"
      endToEndId := some "LOAN-1"
      creationAt := none
      instructedAmount := some 100
      currency := some "UGX"
      debtorAccountId := some "SACCO-1"
      creditorAccountId := some creditorAccount
      debtorAccountIssuer := some "WENDI"
      creditorAccountIssuer := some "MTN"
      instructionId := none
      transactionId := some transactionId
      uetr := none }
  delivery :=
    { eventId := transactionId
      kafkaTopic := "icmn.vpm.pain001"
      kafkaPartition := 0
      kafkaOffset := offset
      kafkaTimestamp := none }

theorem vault_eq_zero {bronze : Bronze} (unlinked : bronze.beneficiaryTokenLink = 0)
    (silver : Silver bronze) : silver.vltPdmBeneficiaryIdentity = 0 := by
  simp [Silver.vltPdmBeneficiaryIdentity, unlinked, innerJoin, partners]

theorem vaultKeyed_of_unlinked {bronze : Bronze} (unlinked : bronze.beneficiaryTokenLink = 0)
    (silver : Silver bronze) : silver.VaultKeyed := by
  constructor <;> simp [vault_eq_zero unlinked, IsKey]

def oneTransfer : Bronze where
  icmnVpmPain001 := {storedTransfer 0 "TX-1" "0771000001"}

def twoCreditors : Bronze where
  icmnVpmPain001 := {storedTransfer 0 "TX-1" "0771000001", storedTransfer 1 "TX-2" "0771000002"}

theorem oneTransfer_keepsGrain : ∃ layers : Layers oneTransfer, KeepsGrain id layers := by
  obtain ⟨layers⟩ := Layers.nonempty oneTransfer
  refine ⟨layers, (keepsGrain_iff Function.injective_id layers
    (vaultKeyed_of_unlinked rfl layers.toSilver)).mpr ?_⟩
  intro payment _ _ row member row' member' _ _ _ _
  simp only [oneTransfer, contents, Multiset.map_singleton, Multiset.mem_singleton] at member member'
  rw [member, member']
  exact ⟨rfl, rfl⟩

/-- Two rows of one message with two creditors: each of the payments is in the fact twice. -/
theorem twoCreditors_not_keepsGrain :
    ¬ ∀ (md5 : String → String), Function.Injective md5 →
      ∀ (bronze : Bronze) (layers : Layers bronze), layers.VaultKeyed → KeepsGrain md5 layers := by
  intro always
  obtain ⟨layers⟩ := Layers.nonempty twoCreditors
  have keyed := vaultKeyed_of_unlinked (rfl : twoCreditors.beneficiaryTokenLink = 0) layers.toSilver
  have keeps := always id Function.injective_id twoCreditors layers keyed
  have identified : ∀ payment ∈ twoCreditors.identifiedTransactions,
      payment.transactionId.isSome ∧ payment.messageId = some "MSG-1" := by
    decide
  have stored : twoCreditors.identifiedTransactions ≠ 0 := by decide
  obtain ⟨row, inBronze⟩ := Multiset.exists_mem_of_ne_zero stored
  obtain ⟨payment, member, -⟩ := layers.slvPdmPaymentsTransactions.isFirsts.covers row inBronze
  obtain ⟨known, message⟩ :=
    identified payment (layers.slvPdmPaymentsTransactions.isFirsts.mem payment member)
  have single := oneCreditor_iff.mp
    (oneCreditor_of_keepsGrain keyed keeps (Multiset.mem_filter.mpr ⟨member, known⟩))
  rw [message] at single
  have accounts := single (storedTransfer 0 "TX-1" "0771000001").content (by decide)
    (storedTransfer 1 "TX-2" "0771000002").content (by decide) rfl rfl rfl rfl
  exact absurd accounts.1 (by decide)

end PaymentsPlatform.Warehouse
