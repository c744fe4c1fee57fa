import PaymentsPlatform.Warehouse.DqResults

/-!
# What a matched payment resolves to

`slv_pdm_payment_entity_matches` says `MATCHED` of a payment when none of its checks refuses it.  A
check that compares a reference of the payment with one of its loan lets the payment pass where the
loan has no such reference.
-/

namespace PaymentsPlatform.Warehouse

open Bag Calendar

/-! ## Rows and references -/

namespace EntityJoin

variable (row : EntityJoin)

def loanId : Option String := row.loan.bind Loan.loanId

def loanBeneficiary : Option String := row.loan.bind Loan.beneficiaryId

def loanSacco : Option String := row.loan.bind Loan.saccoId

def loanBusinessPlan : Option String := row.loan.bind Loan.businessPlanId

def loanToken : Option String := row.loanLink.bind LoanBeneficiaryLink.beneficiaryToken

def paymentToken : Option String := row.transactionIdentity.bind Identity.beneficiaryToken

end EntityJoin

namespace Silver

variable {bronze : Bronze} (silver : Silver bronze)

/-- The rows that the seven joins give, before what is shown of them. -/
def joinedEntities : Multiset EntityJoin :=
  silver.entityJoins.map fun (((((((payment, loan), loanLink), transactionIdentity), beneficiary),
    sacco), businessPlan), agent) =>
      ⟨payment, loan, loanLink, transactionIdentity, beneficiary, sacco, businessPlan, agent⟩

def HasLoan (id : String) : Prop := ∃ loan ∈ silver.slvPdmLoans, loan.loanId = some id

def HasBeneficiary (id : String) : Prop :=
  ∃ beneficiary ∈ silver.slvPdmBeneficiaries, beneficiary.beneficiaryId = some id

def HasSacco (id : String) : Prop := ∃ sacco ∈ silver.slvPdmSaccos, sacco.saccoId = some id

def HasBusinessPlan (id : String) : Prop :=
  ∃ plan ∈ silver.slvPdmBusinessPlans, plan.businessPlanId = some id

def HasAgent (id : String) : Prop := ∃ agent ∈ silver.slvPdmAgents, agent.agentId = some id

end Silver

/-! ## What is promised of a match -/

namespace EntityJoin

/-- Every reference of the payment and of its loan is one of Silver's. -/
structure LinksResolve (row : EntityJoin) {bronze : Bronze} (silver : Silver bronze) : Prop where
  loan : ∀ id, row.payment.endToEndId = some id → silver.HasLoan id
  beneficiary : ∀ id, row.payment.beneficiaryId = some id → silver.HasBeneficiary id
  sacco : ∀ id, row.payment.saccoId = some id → silver.HasSacco id
  agent : ∀ id, row.payment.agentId = some id → silver.HasAgent id
  loanBeneficiary : ∀ id, row.loanBeneficiary = some id → silver.HasBeneficiary id
  loanSacco : ∀ id, row.loanSacco = some id → silver.HasSacco id
  loanBusinessPlan : ∀ id, row.loanBusinessPlan = some id → silver.HasBusinessPlan id

/-- The payment has a loan, and names the beneficiary and the SACCO of its loan if any. -/
structure Resolves (row : EntityJoin) {bronze : Bronze} (silver : Silver bronze) : Prop extends
    row.LinksResolve silver where
  hasLoan : ∃ id, row.payment.endToEndId = some id
  sameBeneficiary : row.payment.beneficiaryId.isSome →
    row.paymentToken.isSome ∧ row.paymentToken = row.loanToken
  sameSacco : row.payment.saccoId.isSome → row.payment.saccoId = row.loanSacco

/-- What each of the checks refuses. -/
inductive IsRefused (row : EntityJoin) {bronze : Bronze} (silver : Silver bronze) : Prop where
  | withoutLoan (missing : row.payment.endToEndId = none)
  | loan (id : String) (named : row.payment.endToEndId = some id) (unknown : ¬ silver.HasLoan id)
  | beneficiary (named : row.loanBeneficiary.isSome) (untold : row.loanToken = none)
  | otherBeneficiary (named : row.payment.beneficiaryId.isSome)
      (other : row.paymentToken ≠ row.loanToken)
  | sacco (id : String) (named : row.loanSacco = some id) (unknown : ¬ silver.HasSacco id)
  | otherSacco (id id' : String) (named : row.payment.saccoId = some id)
      (ofLoan : row.loanSacco = some id') (other : id ≠ id')
  | businessPlan (id : String) (named : row.loanBusinessPlan = some id)
      (unknown : ¬ silver.HasBusinessPlan id)
  | agent (id : String) (named : row.payment.agentId = some id) (unknown : ¬ silver.HasAgent id)

end EntityJoin

namespace Silver

variable {bronze : Bronze} (silver : Silver bronze)

/-- A matched payment resolves. -/
def MatchedResolves : Prop :=
  ∀ entity ∈ silver.slvPdmPaymentEntityMatches, entity.entityMatchStatus = .matched →
    ∀ row ∈ silver.joinedEntities, row.entityMatch = entity → row.Resolves silver

/-- A match that passes its rule does what the rule says. -/
def PassesResolve : Prop :=
  ∀ entity ∈ silver.slvPdmPaymentEntityMatches, (entityMatchResult entity).ruleStatus = .pass →
    ∀ row ∈ silver.joinedEntities, row.entityMatch = entity → row.LinksResolve silver

/-- Where no check refuses a payment, its loan has a SACCO if the payment names one, and a
beneficiary if the payment names one. -/
def LoansCover : Prop :=
  ∀ row ∈ silver.joinedEntities, ¬ row.IsRefused silver →
    (row.payment.saccoId.isSome → row.loanSacco.isSome) ∧
      (row.payment.beneficiaryId.isSome → row.loanBeneficiary.isSome)

/-- A payment without a loan refers to nothing that is missing. -/
def LoanlessResolve : Prop :=
  ∀ payment ∈ silver.slvPdmPaymentsTransactions.kept, payment.endToEndId = none →
    (∀ id, payment.beneficiaryId = some id → silver.HasBeneficiary id) ∧
      (∀ id, payment.saccoId = some id → silver.HasSacco id) ∧
        ∀ id, payment.agentId = some id → silver.HasAgent id

/-! ## The joins -/

variable {silver}

theorem mem_slvPdmPaymentEntityMatches {entity : EntityMatch} :
    entity ∈ silver.slvPdmPaymentEntityMatches ↔
      ∃ row ∈ silver.joinedEntities, row.entityMatch = entity := by
  have same : silver.slvPdmPaymentEntityMatches =
      (silver.joinedEntities.map EntityJoin.entityMatch).dedup := by
    rw [joinedEntities, Multiset.map_map]
    rfl
  rw [same, Multiset.mem_dedup, Multiset.mem_map]

theorem exists_joined {payment : PaymentTransaction}
    (member : payment ∈ silver.slvPdmPaymentsTransactions.kept) :
    ∃ row ∈ silver.joinedEntities, row.payment = payment := by
  obtain ⟨loan, withLoan⟩ := exists_mem_leftJoin member silver.slvPdmLoans
    fun payment loan => equals payment.endToEndId loan.loanId
  obtain ⟨_, _, _, _, _, _, joined⟩ := exists_entityJoin_of_loan withLoan
  exact ⟨_, Multiset.mem_map_of_mem _ joined, rfl⟩

/-- What the joins put beside a payment. -/
structure IsJoined (silver : Silver bronze) (row : EntityJoin) : Prop where
  payment : row.payment ∈ silver.slvPdmPaymentsTransactions.kept
  loanId : ∀ {id}, row.loanId = some id ↔ row.payment.endToEndId = some id ∧ silver.HasLoan id
  loan : ∀ {loan}, row.loan = some loan →
    loan ∈ silver.slvPdmLoans ∧ (equals row.payment.endToEndId loan.loanId).holds
  loanLink : ∀ {loanLink}, row.loanLink = some loanLink →
    loanLink ∈ silver.slvPdmLoanBeneficiaryLinks ∧ (equals row.loanId loanLink.loanId).holds
  identity : ∀ {identity}, row.transactionIdentity = some identity →
    identity ∈ silver.vltPdmBeneficiaryIdentity ∧
      (equals row.payment.beneficiaryId identity.beneficiaryId).holds
  sacco : ∀ {id}, row.sacco.bind Sacco.saccoId = some id ↔
    row.loanSacco = some id ∧ silver.HasSacco id
  businessPlan : ∀ {id}, row.businessPlan.bind BusinessPlan.businessPlanId = some id ↔
    row.loanBusinessPlan = some id ∧ silver.HasBusinessPlan id
  agent : ∀ {id}, row.agent.bind Agent.agentId = some id ↔
    row.payment.agentId = some id ∧ silver.HasAgent id

theorem isJoined {row : EntityJoin} (member : row ∈ silver.joinedEntities) :
    silver.IsJoined row := by
  obtain ⟨⟨⟨⟨⟨⟨⟨⟨payment, loan⟩, loanLink⟩, identity⟩, beneficiary⟩, sacco⟩, plan⟩, agent⟩, joined,
    rfl⟩ := Multiset.mem_map.mp member
  have withPlan := (mem_leftJoin.mp joined).1
  have withSacco := (mem_leftJoin.mp withPlan).1
  have withBeneficiary := (mem_leftJoin.mp withSacco).1
  have withIdentity := (mem_leftJoin.mp withBeneficiary).1
  have withLink := (mem_leftJoin.mp withIdentity).1
  have withLoan := (mem_leftJoin.mp withLink).1
  refine ⟨(mem_leftJoin.mp withLoan).1, bind_eq_some_of_mem_leftJoin withLoan, ?_, ?_, ?_,
    bind_eq_some_of_mem_leftJoin withSacco, bind_eq_some_of_mem_leftJoin withPlan,
    bind_eq_some_of_mem_leftJoin joined⟩
  · intro found isLoan
    cases isLoan
    exact partner_of_mem_leftJoin withLoan
  · intro found isLink
    cases isLink
    exact partner_of_mem_leftJoin withLink
  · intro found isIdentity
    cases isIdentity
    exact partner_of_mem_leftJoin withIdentity

theorem hasBeneficiary_of_identity {identity : Identity}
    (member : identity ∈ silver.vltPdmBeneficiaryIdentity) {id : String}
    (named : identity.beneficiaryId = some id) (known : identity.beneficiaryToken.isSome) :
    silver.HasBeneficiary id :=
  ⟨identity, Multiset.mem_filter.mpr ⟨member, known⟩, named⟩

end Silver

namespace Silver.IsJoined

variable {bronze : Bronze} {silver : Silver bronze} {row : EntityJoin}
  (joined : silver.IsJoined row)

include joined

theorem hasBeneficiary_of_paymentToken {id : String} (named : row.payment.beneficiaryId = some id)
    (known : row.paymentToken.isSome) : silver.HasBeneficiary id := by
  unfold EntityJoin.paymentToken at known
  cases found : row.transactionIdentity with
  | none =>
      rw [found] at known
      cases known
  | some identity =>
      rw [found] at known
      obtain ⟨member, holds⟩ := joined.identity found
      obtain ⟨value, ofPayment, ofIdentity⟩ := holds_equals.mp holds
      exact silver.hasBeneficiary_of_identity member
        (ofIdentity.trans (ofPayment.symm.trans named)) known

theorem exists_identity_of_loanToken (known : row.loanToken.isSome) :
    ∃ identity ∈ silver.vltPdmBeneficiaryIdentity, identity.beneficiaryToken = row.loanToken ∧
      identity.beneficiaryId.isSome ∧ identity.beneficiaryId = row.loanBeneficiary := by
  unfold EntityJoin.loanToken at known ⊢
  cases found : row.loanLink with
  | none =>
      rw [found] at known
      cases known
  | some loanLink =>
      obtain ⟨inLinks, holds⟩ := joined.loanLink found
      obtain ⟨⟨loan, identity⟩, isLinked, rfl⟩ := Multiset.mem_map.mp inLinks
      obtain ⟨inLoans, inVault, same⟩ := mem_innerJoin.mp isLinked
      obtain ⟨value, ofRow, ofLoan⟩ := holds_equals.mp holds
      obtain ⟨beneficiary, ofBeneficiary, ofIdentity⟩ := holds_equals.mp same
      obtain ⟨rowLoan, isLoan, named⟩ := Option.bind_eq_some_iff.mp ofRow
      have isSame : rowLoan = loan :=
        silver.isKey_slvPdmLoans.eq_of_key (joined.loan isLoan).1 inLoans named ofLoan
      refine ⟨identity, inVault, rfl, ofIdentity ▸ rfl, ?_⟩
      rw [EntityJoin.loanBeneficiary, isLoan, isSame]
      exact ofIdentity.trans ofBeneficiary.symm

theorem hasBeneficiary_of_loanToken {id : String} (named : row.loanBeneficiary = some id)
    (known : row.loanToken.isSome) : silver.HasBeneficiary id := by
  obtain ⟨identity, member, sameToken, -, same⟩ := joined.exists_identity_of_loanToken known
  exact silver.hasBeneficiary_of_identity member (same.trans named) (sameToken ▸ known)

theorem loanToken_eq_none (missing : row.loanBeneficiary = none) : row.loanToken = none := by
  by_contra known
  obtain ⟨identity, -, -, named, same⟩ :=
    joined.exists_identity_of_loanToken (Option.isSome_iff_ne_none.mpr known)
  rw [same, missing] at named
  cases named

end Silver.IsJoined

/-! ## The checks -/

theorem isNone_iff_not_has {found known : Option String} {Has : String → Prop}
    (finds : ∀ {id}, found = some id ↔ known = some id ∧ Has id) {id : String}
    (named : known = some id) : found.isNone ↔ ¬ Has id := by
  cases isFound : found with
  | none =>
      refine iff_of_true rfl fun has => ?_
      have missing := finds.mpr ⟨named, has⟩
      rw [isFound] at missing
      cases missing
  | some value =>
      obtain ⟨same, has⟩ := finds.mp isFound
      cases Option.some.inj (named.symm.trans same)
      exact iff_of_false (fun missing => nomatch missing) fun unknown => unknown has

theorem isSome_and_isNone_iff {found known : Option String} {Has : String → Prop}
    (finds : ∀ {id}, found = some id ↔ known = some id ∧ Has id) :
    known.isSome ∧ found.isNone ↔ ∃ id, known = some id ∧ ¬ Has id := by
  constructor
  · intro ⟨isKnown, missing⟩
    obtain ⟨id, named⟩ := Option.isSome_iff_exists.mp isKnown
    exact ⟨id, named, (isNone_iff_not_has finds named).mp missing⟩
  · intro ⟨id, named, unknown⟩
    exact ⟨named ▸ rfl, (isNone_iff_not_has finds named).mpr unknown⟩

theorem holds_differs {α : Type} [DecidableEq α] {left right : Option α} :
    (differs left right).holds ↔
      ∃ leftValue rightValue, left = some leftValue ∧ right = some rightValue ∧
        leftValue ≠ rightValue := by
  cases left <;> cases right <;> simp [differs, compared, Truth.holds]

namespace EntityJoin

variable {row : EntityJoin}

theorem entityMatchStatus_eq_notApplicable :
    row.entityMatchStatus = .notApplicable ↔ row.payment.endToEndId = none := by
  unfold entityMatchStatus
  dsimp only
  rw [← Option.isNone_iff_eq_none]
  split_ifs <;> simp [*]

theorem entityMatchStatus_eq_matched :
    row.entityMatchStatus = .matched ↔
      ¬ row.payment.endToEndId.isNone ∧ ¬ row.loanId.isNone ∧
      ¬ (row.loanBeneficiary.isSome ∧ row.loanToken.isNone) ∧
      ¬ (row.payment.beneficiaryId.isSome ∧ row.paymentToken ≠ row.loanToken) ∧
      ¬ (row.loanSacco.isSome ∧ (row.sacco.bind Sacco.saccoId).isNone) ∧
      ¬ (row.payment.saccoId.isSome ∧ (differs row.payment.saccoId row.loanSacco).holds) ∧
      ¬ (row.loanBusinessPlan.isSome ∧
        (row.businessPlan.bind BusinessPlan.businessPlanId).isNone) ∧
      ¬ (row.payment.agentId.isSome ∧ (row.agent.bind Agent.agentId).isNone) := by
  change (if row.payment.endToEndId.isNone then EntityMatchStatus.notApplicable
    else if row.loanId.isNone then .loanNotMatched
    else if row.loanBeneficiary.isSome ∧ row.loanToken.isNone then .beneficiaryNotMatched
    else if row.payment.beneficiaryId.isSome ∧ row.paymentToken ≠ row.loanToken then
      .beneficiaryMismatch
    else if row.loanSacco.isSome ∧ (row.sacco.bind Sacco.saccoId).isNone then .saccoNotMatched
    else if row.payment.saccoId.isSome ∧ (differs row.payment.saccoId row.loanSacco).holds then
      .saccoMismatch
    else if row.loanBusinessPlan.isSome ∧
      (row.businessPlan.bind BusinessPlan.businessPlanId).isNone then .businessPlanNotMatched
    else if row.payment.agentId.isSome ∧ (row.agent.bind Agent.agentId).isNone then
      .agentNotMatched
    else .matched) = .matched ↔ _
  split_ifs <;> simp only [*, ne_eq, reduceCtorEq, not_true_eq_false, not_false_eq_true, and_true,
    false_and, and_false]

variable {bronze : Bronze} {silver : Silver bronze}

theorem entityMatchStatus_eq_matched_iff (joined : silver.IsJoined row) :
    row.entityMatchStatus = .matched ↔ ¬ row.IsRefused silver := by
  have unknownLoan : row.payment.endToEndId.isSome ∧ row.loanId.isNone ↔
      ∃ id, row.payment.endToEndId = some id ∧ ¬ silver.HasLoan id :=
    isSome_and_isNone_iff joined.loanId
  rw [entityMatchStatus_eq_matched, isSome_and_isNone_iff joined.sacco,
    isSome_and_isNone_iff joined.businessPlan, isSome_and_isNone_iff joined.agent, holds_differs]
  constructor
  · intro ⟨hasLoan, loan, beneficiary, otherBeneficiary, sacco, otherSacco, plan, agent⟩ refused
    cases refused with
    | withoutLoan missing => exact hasLoan (missing ▸ rfl)
    | loan id named unknown => exact loan (unknownLoan.mpr ⟨id, named, unknown⟩).2
    | beneficiary named untold => exact beneficiary ⟨named, untold ▸ rfl⟩
    | otherBeneficiary named other => exact otherBeneficiary ⟨named, other⟩
    | sacco id named unknown => exact sacco ⟨id, named, unknown⟩
    | otherSacco id id' named ofLoan other =>
        exact otherSacco ⟨named ▸ rfl, id, id', named, ofLoan, other⟩
    | businessPlan id named unknown => exact plan ⟨id, named, unknown⟩
    | agent id named unknown => exact agent ⟨id, named, unknown⟩
  · intro accepted
    refine ⟨fun missing => ?_, fun missing => ?_, fun both => ?_, fun both => ?_, fun found => ?_,
      fun both => ?_, fun found => ?_, fun found => ?_⟩
    · exact accepted (.withoutLoan (Option.isNone_iff_eq_none.mp missing))
    · cases named : row.payment.endToEndId with
      | none => exact accepted (.withoutLoan named)
      | some id =>
          obtain ⟨id, named, unknown⟩ := unknownLoan.mp ⟨named ▸ rfl, missing⟩
          exact accepted (.loan id named unknown)
    · exact accepted (.beneficiary both.1 (Option.isNone_iff_eq_none.mp both.2))
    · exact accepted (.otherBeneficiary both.1 both.2)
    · obtain ⟨id, named, unknown⟩ := found
      exact accepted (.sacco id named unknown)
    · obtain ⟨-, id, id', named, ofLoan, other⟩ := both
      exact accepted (.otherSacco id id' named ofLoan other)
    · obtain ⟨id, named, unknown⟩ := found
      exact accepted (.businessPlan id named unknown)
    · obtain ⟨id, named, unknown⟩ := found
      exact accepted (.agent id named unknown)

/-- A payment that no check refuses resolves exactly if its loan has what it compares with. -/
theorem resolves_iff (joined : silver.IsJoined row) (accepted : ¬ row.IsRefused silver) :
    row.Resolves silver ↔ (row.payment.saccoId.isSome → row.loanSacco.isSome) ∧
      (row.payment.beneficiaryId.isSome → row.loanBeneficiary.isSome) := by
  constructor
  · intro resolves
    refine ⟨fun named => resolves.sameSacco named ▸ named, fun named => ?_⟩
    obtain ⟨known, same⟩ := resolves.sameBeneficiary named
    by_contra missing
    rw [same, joined.loanToken_eq_none (Option.not_isSome_iff_eq_none.mp missing)] at known
    cases known
  · intro ⟨saccoCovered, beneficiaryCovered⟩
    have hasSacco (id : String) (named : row.loanSacco = some id) : silver.HasSacco id := by
      by_contra unknown
      exact accepted (.sacco id named unknown)
    have sameSacco (named : row.payment.saccoId.isSome) : row.payment.saccoId = row.loanSacco := by
      obtain ⟨id, ofPayment⟩ := Option.isSome_iff_exists.mp named
      obtain ⟨id', ofLoan⟩ := Option.isSome_iff_exists.mp (saccoCovered named)
      by_contra other
      rw [ofPayment, ofLoan] at other
      exact accepted (.otherSacco id id' ofPayment ofLoan fun same => other (same ▸ rfl))
    have hasToken (named : row.loanBeneficiary.isSome) : row.loanToken.isSome := by
      by_contra untold
      exact accepted (.beneficiary named (Option.not_isSome_iff_eq_none.mp untold))
    have sameToken (named : row.payment.beneficiaryId.isSome) :
        row.paymentToken = row.loanToken := by
      by_contra other
      exact accepted (.otherBeneficiary named other)
    have paymentToken (named : row.payment.beneficiaryId.isSome) : row.paymentToken.isSome :=
      sameToken named ▸ hasToken (beneficiaryCovered named)
    refine ⟨⟨?_, ?_, ?_, ?_, ?_, hasSacco, ?_⟩, ?_, ?_, sameSacco⟩
    · intro id named
      by_contra unknown
      exact accepted (.loan id named unknown)
    · intro id named
      exact joined.hasBeneficiary_of_paymentToken named (paymentToken (named ▸ rfl))
    · intro id named
      exact hasSacco id ((sameSacco (named ▸ rfl)).symm.trans named)
    · intro id named
      by_contra unknown
      exact accepted (.agent id named unknown)
    · intro id named
      exact joined.hasBeneficiary_of_loanToken named (hasToken (named ▸ rfl))
    · intro id named
      by_contra unknown
      exact accepted (.businessPlan id named unknown)
    · by_contra missing
      refine accepted (.withoutLoan (Option.eq_none_iff_forall_ne_some.mpr fun id named => ?_))
      exact missing ⟨id, named⟩
    · intro named
      exact ⟨paymentToken named, sameToken named⟩

theorem linksResolve_iff (joined : silver.IsJoined row)
    (loanless : row.payment.endToEndId = none) :
    row.LinksResolve silver ↔
      (∀ id, row.payment.beneficiaryId = some id → silver.HasBeneficiary id) ∧
        (∀ id, row.payment.saccoId = some id → silver.HasSacco id) ∧
          ∀ id, row.payment.agentId = some id → silver.HasAgent id := by
  have noLoan : row.loan = none := by
    refine Option.eq_none_iff_forall_ne_some.mpr fun loan isLoan => ?_
    obtain ⟨id, named, -⟩ := holds_equals.mp (joined.loan isLoan).2
    rw [loanless] at named
    cases named
  constructor
  · intro resolves
    exact ⟨resolves.beneficiary, resolves.sacco, resolves.agent⟩
  · intro ⟨beneficiary, sacco, agent⟩
    refine ⟨fun id named => ?_, beneficiary, sacco, agent, fun id named => ?_, fun id named => ?_,
      fun id named => ?_⟩
    · rw [loanless] at named
      cases named
    · rw [loanBeneficiary, noLoan] at named
      cases named
    · rw [loanSacco, noLoan] at named
      cases named
    · rw [loanBusinessPlan, noLoan] at named
      cases named

end EntityJoin

/-! ## When a match resolves -/

namespace Silver

variable {bronze : Bronze} {silver : Silver bronze}

theorem matchedResolves_iff : silver.MatchedResolves ↔ silver.LoansCover := by
  constructor
  · intro resolves row member accepted
    have joined := silver.isJoined member
    have matched := (EntityJoin.entityMatchStatus_eq_matched_iff joined).mpr accepted
    exact (EntityJoin.resolves_iff joined accepted).mp
      (resolves _ (silver.mem_slvPdmPaymentEntityMatches.mpr ⟨row, member, rfl⟩) matched row member rfl)
  · intro covers entity _ matched row member isRow
    have joined := silver.isJoined member
    subst isRow
    have accepted := (EntityJoin.entityMatchStatus_eq_matched_iff joined).mp matched
    exact (EntityJoin.resolves_iff joined accepted).mpr (covers row member accepted)

theorem passes_iff {row : EntityJoin} :
    (entityMatchResult row.entityMatch).ruleStatus = .pass ↔
      row.entityMatchStatus = .matched ∨ row.payment.endToEndId = none := by
  rw [entityMatchResult, DqResult.ruleStatus_eq_pass, dqResult, entityMatchRule, Option.some.injEq,
    decide_eq_true_eq, List.mem_cons, List.mem_singleton,
    ← EntityJoin.entityMatchStatus_eq_notApplicable]
  rfl

theorem passesResolve_iff (resolves : silver.MatchedResolves) :
    silver.PassesResolve ↔ silver.LoanlessResolve := by
  constructor
  · intro passes payment inPayments loanless
    obtain ⟨row, member, rfl⟩ := silver.exists_joined inPayments
    have resolves := passes _ (silver.mem_slvPdmPaymentEntityMatches.mpr ⟨row, member, rfl⟩)
      (passes_iff.mpr (.inr loanless)) row member rfl
    exact (EntityJoin.linksResolve_iff (silver.isJoined member) loanless).mp resolves
  · intro loanless entity inMatches passes row member isRow
    have joined := silver.isJoined member
    subst isRow
    rcases passes_iff.mp passes with matched | withoutLoan
    · exact (resolves _ inMatches matched row member rfl).toLinksResolve
    · exact (EntityJoin.linksResolve_iff joined withoutLoan).mpr
        (loanless row.payment joined.payment withoutLoan)

/-- Matched payments resolve exactly if their loans have a SACCO and a beneficiary to compare with;
so do those that pass their rule exactly if payments without a loan refer to nothing missing. -/
theorem matchesResolve_iff (silver : Silver bronze) :
    (silver.MatchedResolves ↔ silver.LoansCover) ∧
      (silver.MatchedResolves ∧ silver.PassesResolve ↔
        silver.LoansCover ∧ silver.LoanlessResolve) := by
  refine ⟨matchedResolves_iff, ?_⟩
  constructor
  · intro ⟨resolves, passes⟩
    exact ⟨matchedResolves_iff.mp resolves, (passesResolve_iff resolves).mp passes⟩
  · intro ⟨covers, loanless⟩
    have resolves := matchedResolves_iff.mpr covers
    exact ⟨resolves, (passesResolve_iff resolves).mpr loanless⟩

end Silver

/-! ## A SACCO that the loan does not name -/

/-- A loan that refers to nothing. -/
def bareLoan : Loan where
  loanId := some "LOAN-000001"
  beneficiaryId := none
  saccoId := none
  businessPlanId := none
  applicationDate := none
  approvalDate := none
  verificationDate := none
  disbursementDate := none
  cashoutDate := none
  asOfDate := none
  amountApproved := none
  amountDisbursed := none
  amountRepaid := none
  lastPaymentDate := none
  updatedAt := none

def walletPayment : WalletTransaction where
  walletEventId := some "W-1"
  loanId := some "LOAN-000001"
  beneficiaryId := none
  saccoId := some "SACCO-9"
  eventTimestamp := none
  amount := some 100000
  currency := some "UGX"
  transactionStatus := none
  wendiTransactionId := none
  agentId := none

/-- A payment of the wallet in a SACCO, for a loan that names none. -/
def unnamedSaccoBronze : Bronze where
  pdmisLoans := {⟨bareLoan, ⟨"E-1", "pdmis.loans", 0, 0, none⟩⟩}
  wendiTransactions := {⟨walletPayment, ⟨"E-2", "wendi.transactions", 0, 0, none⟩⟩}

def unnamedSaccoSilver : Silver unnamedSaccoBronze := Bronze.KeysDistinct.silver (by decide +kernel)

/-- The payment is matched although its SACCO is neither its loan's nor one of Silver's. -/
theorem unnamedSacco_not_resolves :
    ¬ ∀ (bronze : Bronze) (silver : Silver bronze),
      silver.MatchedResolves ∧ silver.PassesResolve := by
  intro always
  have covers := Silver.matchedResolves_iff.mp (always _ unnamedSaccoSilver).1
  have loans : unnamedSaccoSilver.slvPdmLoans = {bareLoan} := by decide +kernel
  have payments : unnamedSaccoSilver.slvPdmPaymentsTransactions.kept =
      {{ walletPayment.transaction with recordIdentifier := "W-1" }} := by decide +kernel
  obtain ⟨row, member, isPayment⟩ := Silver.exists_joined (payments ▸ Multiset.mem_singleton_self _)
  have joined := Silver.isJoined member
  have hasLoan : unnamedSaccoSilver.HasLoan "LOAN-000001" :=
    ⟨bareLoan, loans ▸ Multiset.mem_singleton_self _, rfl⟩
  have isLoan : row.loan = some bareLoan := by
    obtain ⟨loan, found, -⟩ := Option.bind_eq_some_iff.mp
      (joined.loanId.mpr ⟨isPayment ▸ rfl, hasLoan⟩)
    have inLoans := (joined.loan found).1
    rw [loans, Multiset.mem_singleton] at inLoans
    rw [found, inLoans]
  have accepted : ¬ row.IsRefused unnamedSaccoSilver := by
    intro refused
    cases refused with
    | withoutLoan missing =>
        rw [isPayment] at missing
        cases missing
    | loan id named unknown =>
        rw [isPayment] at named
        cases named
        exact unknown hasLoan
    | beneficiary named =>
        rw [EntityJoin.loanBeneficiary, isLoan] at named
        cases named
    | otherBeneficiary named =>
        rw [isPayment] at named
        cases named
    | sacco id named =>
        rw [EntityJoin.loanSacco, isLoan] at named
        cases named
    | otherSacco id id' named ofLoan =>
        rw [EntityJoin.loanSacco, isLoan] at ofLoan
        cases ofLoan
    | businessPlan id named =>
        rw [EntityJoin.loanBusinessPlan, isLoan] at named
        cases named
    | agent id named =>
        rw [isPayment] at named
        cases named
  have covered := (covers row member accepted).1 (isPayment ▸ rfl)
  rw [EntityJoin.loanSacco, isLoan] at covered
  cases covered

end PaymentsPlatform.Warehouse
