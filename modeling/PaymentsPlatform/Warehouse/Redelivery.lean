import PaymentsPlatform.Warehouse.PaymentLifecycle

/-!
# Redelivered events

At-least-once delivery stores an event again under other Kafka coordinates.  The windows of
Silver partition by what the event says, so they keep as many rows as before; but the lifecycle
counts the rows of camt.054 and of camt.053 themselves, and a window that orders by the
coordinates may keep another version of a status report.
-/

namespace PaymentsPlatform.Warehouse

open Bag Calendar

/-- A table with more deliveries of its rows. -/
def Copies {α : Type} (table table' : Multiset (Stored α)) : Prop :=
  ∃ copies, table' = table + copies ∧
    ∀ row ∈ copies, ∃ original ∈ table, row.content = original.content

/-- The payment tables have more deliveries of their rows; the other tables are the same. -/
structure Redelivered (bronze bronze' : Bronze) : Prop where
  icmnVpmPain001 : Copies bronze.icmnVpmPain001 bronze'.icmnVpmPain001
  wendiPain001 : Copies bronze.wendiPain001 bronze'.wendiPain001
  mobileMtnPacs008 : Copies bronze.mobileMtnPacs008 bronze'.mobileMtnPacs008
  mobileAirtelPacs008 : Copies bronze.mobileAirtelPacs008 bronze'.mobileAirtelPacs008
  wendiTransactions : Copies bronze.wendiTransactions bronze'.wendiTransactions
  agentTransactions : Copies bronze.agentTransactions bronze'.agentTransactions
  cpoPsnPain002 : Copies bronze.cpoPsnPain002 bronze'.cpoPsnPain002
  wendiPain002 : Copies bronze.wendiPain002 bronze'.wendiPain002
  mobileMtnPacs002 : Copies bronze.mobileMtnPacs002 bronze'.mobileMtnPacs002
  mobileAirtelPacs002 : Copies bronze.mobileAirtelPacs002 bronze'.mobileAirtelPacs002
  wendiCamt053 : Copies bronze.wendiCamt053 bronze'.wendiCamt053
  wendiCamt054 : Copies bronze.wendiCamt054 bronze'.wendiCamt054
  pdmisLoans : bronze'.pdmisLoans = bronze.pdmisLoans
  pdmisBeneficiaries : bronze'.pdmisBeneficiaries = bronze.pdmisBeneficiaries
  pdmisSaccos : bronze'.pdmisSaccos = bronze.pdmisSaccos
  pdmisBusinessPlans : bronze'.pdmisBusinessPlans = bronze.pdmisBusinessPlans
  agentProfiles : bronze'.agentProfiles = bronze.agentProfiles
  agentLocations : bronze'.agentLocations = bronze.agentLocations
  beneficiaryTokenLink : bronze'.beneficiaryTokenLink = bronze.beneficiaryTokenLink

/-- What `slv_pdm_payment_lifecycle` may hold, whichever of the rows that tie the windows keep. -/
def Bronze.Lifecycles (bronze : Bronze) : Set (Multiset PaymentLifecycle) :=
  {rows | ∃ silver : Silver bronze, silver.slvPdmPaymentLifecycle = rows}

/-- Delivering payment events again leaves every column of every loan as it was. -/
def Bronze.Insensitive (bronze : Bronze) : Prop :=
  ∀ bronze', Redelivered bronze bronze' → bronze'.Lifecycles = bronze.Lifecycles

def Bronze.IsLoan (bronze : Bronze) (loanId : String) : Prop :=
  ∃ row ∈ bronze.pdmisLoans, row.content.loanId = some loanId

/-- The end-to-end identifier of no notification and of no statement is a loan, and the versions
of a status report say the same of every loan. -/
structure Bronze.Settled (bronze : Bronze) : Prop where
  notifications : ∀ row ∈ bronze.wendiCamt054, ∀ loanId, bronze.IsLoan loanId →
    row.content.endToEndId ≠ some loanId
  statements : ∀ row ∈ bronze.wendiCamt053, ∀ loanId, bronze.IsLoan loanId →
    row.content.endToEndId ≠ some loanId
  versions : ∀ first ∈ bronze.statusEvents, ∀ second ∈ bronze.statusEvents,
    PaymentStatus.messageKey first = PaymentStatus.messageKey second →
      ∀ loanId, bronze.IsLoan loanId →
        first.content.evidence loanId = second.content.evidence loanId

/-! ## Copies -/

section Copies

variable {α : Type} {table table' : Multiset (Stored α)}

theorem Copies.refl (table : Multiset (Stored α)) : Copies table table :=
  ⟨0, (add_zero table).symm, fun row member => absurd member (Multiset.notMem_zero row)⟩

theorem Copies.cons (row : Stored α) {original : Stored α} (member : original ∈ table)
    (same : row.content = original.content) : Copies table (row ::ₘ table) := by
  refine ⟨{row}, by rw [add_comm, Multiset.singleton_add], fun copy inCopies => ?_⟩
  rw [Multiset.mem_singleton.mp inCopies]
  exact ⟨original, member, same⟩

theorem Copies.mem_contents (copies : Copies table table') {content : α} :
    content ∈ contents table' ↔ content ∈ contents table := by
  obtain ⟨added, rfl, ofTable⟩ := copies
  rw [contents, contents, Multiset.map_add, Multiset.mem_add]
  refine ⟨?_, Or.inl⟩
  rintro (old | new)
  · exact old
  · obtain ⟨row, member, rfl⟩ := Multiset.mem_map.mp new
    obtain ⟨original, inTable, same⟩ := ofTable row member
    exact same ▸ Multiset.mem_map_of_mem Stored.content inTable

end Copies

section Redelivered

variable {bronze bronze' : Bronze}

theorem Redelivered.mem_identifiedTransactions (redelivered : Redelivered bronze bronze')
    (payment : PaymentTransaction) :
    payment ∈ bronze'.identifiedTransactions ↔ payment ∈ bronze.identifiedTransactions := by
  simp only [Bronze.identifiedTransactions, Bronze.transactions, Multiset.mem_filterMap,
    Multiset.mem_add, Multiset.mem_map, redelivered.icmnVpmPain001.mem_contents,
    redelivered.wendiPain001.mem_contents, redelivered.mobileMtnPacs008.mem_contents,
    redelivered.mobileAirtelPacs008.mem_contents, redelivered.wendiTransactions.mem_contents,
    redelivered.agentTransactions.mem_contents]

theorem contents_map {α β : Type} (project : α → β) (table : Multiset (Stored α)) :
    contents (table.map (Stored.map project)) = (contents table).map project := by
  rw [contents, contents, Multiset.map_map, Multiset.map_map]
  rfl

theorem Bronze.contents_statusEvents (bronze : Bronze) :
    contents bronze.statusEvents =
      (contents bronze.cpoPsnPain002).map (Pain002.status .cpoPsn) +
        (contents bronze.wendiPain002).map (Pain002.status .wendi) +
        (contents bronze.mobileMtnPacs002).map (Pacs002.status .mtn) +
        (contents bronze.mobileAirtelPacs002).map (Pacs002.status .airtel) := by
  simp only [← contents_map]
  exact (Multiset.map_add _ _ _).trans (by rw [Multiset.map_add, Multiset.map_add]; rfl)

theorem Redelivered.mem_contents_statusEvents (redelivered : Redelivered bronze bronze')
    (status : PaymentStatus) :
    status ∈ contents bronze'.statusEvents ↔ status ∈ contents bronze.statusEvents := by
  simp only [Bronze.contents_statusEvents, Multiset.mem_add, Multiset.mem_map,
    redelivered.cpoPsnPain002.mem_contents, redelivered.wendiPain002.mem_contents,
    redelivered.mobileMtnPacs002.mem_contents, redelivered.mobileAirtelPacs002.mem_contents]

end Redelivered

/-! ## Bronzes that the loans read alike -/

theorem Bronze.mem_lifecycles {bronze : Bronze} {rows : Multiset PaymentLifecycle} :
    rows ∈ bronze.Lifecycles ↔ ∃ loans payments report,
      IsFirsts (fun row => row.content.loanId) (Stored.revision Loan.updatedAt) bronze.pdmisLoans
        loans ∧
      IsFirsts PaymentTransaction.naturalKey PaymentTransaction.recency
        bronze.identifiedTransactions payments ∧
      IsFirsts PaymentStatus.messageKey Stored.recency bronze.statusEvents report ∧
      lifecycleOf (contents loans) payments (contents report) (contents bronze.wendiCamt054)
        (contents bronze.wendiCamt053) = rows := by
  constructor
  · rintro ⟨silver, rfl⟩
    exact ⟨_, _, _, silver.rankedLoans.isFirsts, silver.slvPdmPaymentsTransactions.isFirsts,
      silver.rankedStatusReport.isFirsts, rfl⟩
  · rintro ⟨loans, payments, report, ofLoans, ofPayments, ofReport, rfl⟩
    obtain ⟨silver⟩ := Silver.nonempty bronze
    exact ⟨{ silver with
      rankedLoans := ⟨loans, ofLoans⟩
      slvPdmPaymentsTransactions := ⟨payments, ofPayments⟩
      rankedStatusReport := ⟨report, ofReport⟩ }, rfl⟩

theorem Bronze.exists_mem_of_isLoan {bronze : Bronze} {loanId : String}
    (isLoan : bronze.IsLoan loanId) {rows : Multiset PaymentLifecycle}
    (member : rows ∈ bronze.Lifecycles) : ∃ row ∈ rows, row.loanId = some loanId := by
  obtain ⟨loans, payments, report, ofLoans, -, -, rfl⟩ := Bronze.mem_lifecycles.mp member
  obtain ⟨stored, inBronze, named⟩ := isLoan
  obtain ⟨first, inKept, same⟩ := ofLoans.covers stored inBronze
  obtain ⟨row, inRows, ofLoan⟩ := exists_mem_lifecycleOf
    (Multiset.mem_map_of_mem Stored.content inKept) payments (contents report)
    (contents bronze.wendiCamt054) (contents bronze.wendiCamt053)
  exact ⟨row, inRows, ofLoan.trans (same.trans named)⟩

theorem Bronze.isLoan_of_mem {bronze : Bronze} {loans : Multiset (Stored Loan)}
    (ofLoans : IsFirsts (fun row => row.content.loanId) (Stored.revision Loan.updatedAt)
      bronze.pdmisLoans loans) {loan : Loan} (member : loan ∈ contents loans) {loanId : String}
    (named : loan.loanId = some loanId) : bronze.IsLoan loanId := by
  obtain ⟨stored, inKept, rfl⟩ := Multiset.mem_map.mp member
  exact ⟨stored, ofLoans.mem stored inKept, named⟩

/-- Two Bronzes of which every loan reads the same. -/
structure ReadAlike (bronze bronze' : Bronze) : Prop where
  loans : bronze.pdmisLoans = bronze'.pdmisLoans
  payments : ∀ payment,
    payment ∈ bronze.identifiedTransactions ↔ payment ∈ bronze'.identifiedTransactions
  statuses : ∀ status,
    status ∈ contents bronze.statusEvents ↔ status ∈ contents bronze'.statusEvents
  versions : ∀ first ∈ bronze.statusEvents, ∀ second ∈ bronze'.statusEvents,
    PaymentStatus.messageKey first = PaymentStatus.messageKey second →
      ∀ loanId, bronze.IsLoan loanId →
        first.content.evidence loanId = second.content.evidence loanId
  notifications : ∀ loanId, bronze.IsLoan loanId →
    ((contents bronze.wendiCamt054).filter fun row => row.endToEndId = some loanId) =
      (contents bronze'.wendiCamt054).filter fun row => row.endToEndId = some loanId
  statements : ∀ loanId, bronze.IsLoan loanId →
    ((contents bronze.wendiCamt053).filter fun row => row.endToEndId = some loanId) =
      (contents bronze'.wendiCamt053).filter fun row => row.endToEndId = some loanId

namespace ReadAlike

variable {bronze bronze' : Bronze}

theorem isLoan_iff (alike : ReadAlike bronze bronze') {loanId : String} :
    bronze.IsLoan loanId ↔ bronze'.IsLoan loanId := by
  rw [Bronze.IsLoan, Bronze.IsLoan, alike.loans]

theorem symm (alike : ReadAlike bronze bronze') : ReadAlike bronze' bronze where
  loans := alike.loans.symm
  payments payment := (alike.payments payment).symm
  statuses status := (alike.statuses status).symm
  versions first inEvents second alsoInEvents same loanId isLoan :=
    (alike.versions second alsoInEvents first inEvents same.symm loanId
      (alike.isLoan_iff.mpr isLoan)).symm
  notifications loanId isLoan := (alike.notifications loanId (alike.isLoan_iff.mpr isLoan)).symm
  statements loanId isLoan := (alike.statements loanId (alike.isLoan_iff.mpr isLoan)).symm

theorem mem_messageKeys (alike : ReadAlike bronze bronze') (key : StatusSource × Option String) :
    key ∈ bronze.statusEvents.map PaymentStatus.messageKey ↔
      key ∈ bronze'.statusEvents.map PaymentStatus.messageKey := by
  have ofContent (events : Multiset (Stored PaymentStatus)) :
      events.map PaymentStatus.messageKey =
        (contents events).map fun status => (status.statusSource, status.messageId) := by
    rw [contents, Multiset.map_map]
    rfl
  simp only [ofContent, Multiset.mem_map, alike.statuses]

theorem lifecycles_subset (alike : ReadAlike bronze bronze') :
    bronze.Lifecycles ⊆ bronze'.Lifecycles := by
  intro rows member
  obtain ⟨loans, payments, report, ofLoans, ofPayments, ofReport, rfl⟩ :=
    Bronze.mem_lifecycles.mp member
  obtain ⟨report', ofReport'⟩ :=
    exists_isFirsts PaymentStatus.messageKey Stored.recency bronze'.statusEvents
  refine Bronze.mem_lifecycles.mpr ⟨loans, payments, report', alike.loans ▸ ofLoans,
    ofPayments.of_mem_iff alike.payments, ofReport', ?_⟩
  refine (lifecycleOf_congr _ _ fun loan inLoans loanId named => ?_).symm
  have isLoan := Bronze.isLoan_of_mem ofLoans inLoans named
  refine ⟨?_, alike.notifications loanId isLoan, alike.statements loanId isLoan⟩
  rw [verdicts, verdicts, contents, contents, Multiset.filterMap_map, Multiset.filterMap_map]
  refine ofReport.filterMap_eq ofReport' alike.mem_messageKeys fun first inKept second alsoInKept
    same => ?_
  exact alike.versions first (ofReport.mem first inKept) second (ofReport'.mem second alsoInKept)
    same loanId isLoan

theorem lifecycles_eq (alike : ReadAlike bronze bronze') :
    bronze.Lifecycles = bronze'.Lifecycles :=
  Set.Subset.antisymm alike.lifecycles_subset alike.symm.lifecycles_subset

end ReadAlike

theorem filter_contents_eq_zero {α : Type} {column : α → Option String}
    {table : Multiset (Stored α)} {loanId : String}
    (unnamed : ∀ row ∈ table, column row.content ≠ some loanId) :
    ((contents table).filter fun row => column row = some loanId) = 0 := by
  refine Multiset.filter_eq_nil.mpr fun row member => ?_
  obtain ⟨stored, inTable, rfl⟩ := Multiset.mem_map.mp member
  exact unnamed stored inTable

theorem Bronze.Settled.readAlike {bronze bronze' : Bronze} (settled : bronze.Settled)
    (redelivered : Redelivered bronze bronze') : ReadAlike bronze bronze' where
  loans := redelivered.pdmisLoans.symm
  payments payment := (redelivered.mem_identifiedTransactions payment).symm
  statuses status := (redelivered.mem_contents_statusEvents status).symm
  versions first inEvents second inEvents' same loanId isLoan := by
    have inContents := (redelivered.mem_contents_statusEvents second.content).mp
      (Multiset.mem_map_of_mem Stored.content inEvents')
    obtain ⟨original, ofBronze, sameContent⟩ := Multiset.mem_map.mp inContents
    rw [settled.versions first inEvents original ofBronze ?_ loanId isLoan, sameContent]
    rw [same, PaymentStatus.messageKey, PaymentStatus.messageKey, sameContent]
  notifications loanId isLoan := by
    rw [filter_contents_eq_zero fun row member => settled.notifications row member loanId isLoan,
      filter_contents_eq_zero fun row member named => ?_]
    have inContents := redelivered.wendiCamt054.mem_contents.mp
      (Multiset.mem_map_of_mem Stored.content member)
    obtain ⟨original, ofBronze, sameContent⟩ := Multiset.mem_map.mp inContents
    exact settled.notifications original ofBronze loanId isLoan (sameContent ▸ named)
  statements loanId isLoan := by
    rw [filter_contents_eq_zero fun row member => settled.statements row member loanId isLoan,
      filter_contents_eq_zero fun row member named => ?_]
    have inContents := redelivered.wendiCamt053.mem_contents.mp
      (Multiset.mem_map_of_mem Stored.content member)
    obtain ⟨original, ofBronze, sameContent⟩ := Multiset.mem_map.mp inContents
    exact settled.statements original ofBronze loanId isLoan (sameContent ▸ named)

/-! ## What one more delivery changes -/

section Deliveries

variable (bronze : Bronze)

theorem Redelivered.refl : Redelivered bronze bronze :=
  ⟨.refl _, .refl _, .refl _, .refl _, .refl _, .refl _, .refl _, .refl _, .refl _, .refl _,
    .refl _, .refl _, rfl, rfl, rfl, rfl, rfl, rfl, rfl⟩

variable {bronze}

theorem redelivered_notification {row : Stored Camt054} (member : row ∈ bronze.wendiCamt054) :
    Redelivered bronze { bronze with wendiCamt054 := row ::ₘ bronze.wendiCamt054 } :=
  { Redelivered.refl bronze with wendiCamt054 := .cons row member rfl }

theorem redelivered_statement {row : Stored Camt053} (member : row ∈ bronze.wendiCamt053) :
    Redelivered bronze { bronze with wendiCamt053 := row ::ₘ bronze.wendiCamt053 } :=
  { Redelivered.refl bronze with wendiCamt053 := .cons row member rfl }

theorem exists_redelivered_status {row : Stored PaymentStatus} (member : row ∈ bronze.statusEvents)
    (delivery : Delivery) :
    ∃ bronze', Redelivered bronze bronze' ∧
      bronze'.statusEvents = ⟨row.content, delivery⟩ ::ₘ bronze.statusEvents := by
  simp only [Bronze.statusEvents, Multiset.mem_add, Multiset.mem_map] at member
  rcases member with ((⟨stored, inTable, rfl⟩ | ⟨stored, inTable, rfl⟩) | ⟨stored, inTable, rfl⟩) |
    ⟨stored, inTable, rfl⟩
  · refine ⟨{ bronze with cpoPsnPain002 := ⟨stored.content, delivery⟩ ::ₘ bronze.cpoPsnPain002 },
      { Redelivered.refl bronze with cpoPsnPain002 := .cons _ inTable rfl }, ?_⟩
    simp only [Bronze.statusEvents, Multiset.map_cons, Multiset.cons_add]
    rfl
  · refine ⟨{ bronze with wendiPain002 := ⟨stored.content, delivery⟩ ::ₘ bronze.wendiPain002 },
      { Redelivered.refl bronze with wendiPain002 := .cons _ inTable rfl }, ?_⟩
    simp only [Bronze.statusEvents, Multiset.map_cons, Multiset.cons_add, Multiset.add_cons]
    rfl
  · refine ⟨{ bronze with
        mobileMtnPacs002 := ⟨stored.content, delivery⟩ ::ₘ bronze.mobileMtnPacs002 },
      { Redelivered.refl bronze with mobileMtnPacs002 := .cons _ inTable rfl }, ?_⟩
    simp only [Bronze.statusEvents, Multiset.map_cons, Multiset.cons_add, Multiset.add_cons]
    rfl
  · refine ⟨{ bronze with
        mobileAirtelPacs002 := ⟨stored.content, delivery⟩ ::ₘ bronze.mobileAirtelPacs002 },
      { Redelivered.refl bronze with mobileAirtelPacs002 := .cons _ inTable rfl }, ?_⟩
    simp only [Bronze.statusEvents, Multiset.map_cons, Multiset.add_cons]
    rfl

theorem Bronze.counts_of_mem_lifecycles {rows : Multiset PaymentLifecycle}
    (member : rows ∈ bronze.Lifecycles) {row : PaymentLifecycle} (inRows : row ∈ rows)
    {loanId : String} (named : row.loanId = some loanId) :
    row.creditNotificationCount =
        ((contents bronze.wendiCamt054).filter fun row => row.endToEndId = some loanId).card ∧
      row.statementEvidenceCount =
        ((contents bronze.wendiCamt053).filter fun row => row.endToEndId = some loanId).card := by
  obtain ⟨loans, payments, report, -, -, -, rfl⟩ := Bronze.mem_lifecycles.mp member
  exact (counts_of_mem_lifecycleOf inRows named).2

theorem Bronze.nonempty_lifecycles (bronze : Bronze) : bronze.Lifecycles.Nonempty := by
  obtain ⟨silver⟩ := Silver.nonempty bronze
  exact ⟨_, silver, rfl⟩

theorem card_filter_contents_cons {α : Type} {column : α → Option String} {row : Stored α}
    {loanId : String} (named : column row.content = some loanId) (table : Multiset (Stored α)) :
    ((contents (row ::ₘ table)).filter fun row => column row = some loanId).card =
      ((contents table).filter fun row => column row = some loanId).card + 1 := by
  have kept := Multiset.filter_cons_of_pos (p := fun row => column row = some loanId)
    (table.map Stored.content) named
  rw [contents, Multiset.map_cons, kept, Multiset.card_cons, contents]

theorem Bronze.Insensitive.notifications (insensitive : bronze.Insensitive) {row : Stored Camt054}
    (member : row ∈ bronze.wendiCamt054) {loanId : String} (isLoan : bronze.IsLoan loanId) :
    row.content.endToEndId ≠ some loanId := by
  intro named
  obtain ⟨rows, ofBronze⟩ := bronze.nonempty_lifecycles
  obtain ⟨lifecycle, inRows, ofLoan⟩ := Bronze.exists_mem_of_isLoan isLoan ofBronze
  have once := (Bronze.counts_of_mem_lifecycles ofBronze inRows ofLoan).1
  rw [← insensitive _ (redelivered_notification member)] at ofBronze
  have twice := (Bronze.counts_of_mem_lifecycles ofBronze inRows ofLoan).1
  rw [card_filter_contents_cons named, ← once] at twice
  omega

theorem Bronze.Insensitive.statements (insensitive : bronze.Insensitive) {row : Stored Camt053}
    (member : row ∈ bronze.wendiCamt053) {loanId : String} (isLoan : bronze.IsLoan loanId) :
    row.content.endToEndId ≠ some loanId := by
  intro named
  obtain ⟨rows, ofBronze⟩ := bronze.nonempty_lifecycles
  obtain ⟨lifecycle, inRows, ofLoan⟩ := Bronze.exists_mem_of_isLoan isLoan ofBronze
  have once := (Bronze.counts_of_mem_lifecycles ofBronze inRows ofLoan).2
  rw [← insensitive _ (redelivered_statement member)] at ofBronze
  have twice := (Bronze.counts_of_mem_lifecycles ofBronze inRows ofLoan).2
  rw [card_filter_contents_cons named, ← once] at twice
  omega

end Deliveries

/-! ## Versions of a status report -/

section Versions

variable {bronze : Bronze} {loanId : String}

/-- What the lifecycle counts of the verdicts on a loan. -/
def countedTests : List (Verdict → Bool) :=
  [fun _ => true, Verdict.rejected, Verdict.pending, Verdict.accepted]

/-- The report is on the loan, and its verdict passes the test. -/
def PaymentStatus.passes (loanId : String) (test : Verdict → Bool) (status : PaymentStatus) : Bool :=
  (status.evidence loanId).any test

theorem exists_column {test : Verdict → Bool} (counted : test ∈ countedTests) (loanId : String) :
    ∃ column : StatusSummary → Nat, ∀ verdicts,
      (verdicts.filter fun verdict => test verdict).card =
        column (summaryOfVerdicts loanId verdicts) := by
  simp only [countedTests, List.mem_cons, List.not_mem_nil, or_false] at counted
  rcases counted with rfl | rfl | rfl | rfl
  · refine ⟨fun summary => summary.paymentStatusCount + summary.settlementStatusCount,
      fun verdicts => ?_⟩
    have others : (verdicts.filter fun verdict =>
        decide (verdict.statusSource ∈ [StatusSource.mtn, .airtel])) =
        verdicts.filter fun verdict =>
          ¬ decide (verdict.statusSource ∈ [StatusSource.cpoPsn, .cpoPlm, .wendi]) :=
      Multiset.filter_congr fun verdict _ => by
        generalize verdict.statusSource = source
        cases source <;> decide
    simp only [summaryOfVerdicts, others]
    rw [← Multiset.card_add, Multiset.filter_add_not]
    exact congrArg Multiset.card (Multiset.filter_eq_self.mpr fun _ _ => trivial)
  · exact ⟨StatusSummary.rejectedStatusCount, fun _ => rfl⟩
  · exact ⟨StatusSummary.pendingStatusCount, fun _ => rfl⟩
  · exact ⟨StatusSummary.acceptedStatusCount, fun _ => rfl⟩

theorem evidence_eq {first second : PaymentStatus} (source : first.statusSource = second.statusSource)
    (same : ∀ test ∈ countedTests, first.passes loanId test = second.passes loanId test) :
    first.evidence loanId = second.evidence loanId := by
  simp only [countedTests, List.forall_mem_cons, PaymentStatus.passes, PaymentStatus.evidence] at same
  obtain ⟨named, rejected, pending, accepted, -⟩ := same
  unfold PaymentStatus.evidence
  by_cases ofFirst : first.endToEndId = some loanId <;>
    by_cases ofSecond : second.endToEndId = some loanId
  · simp only [ofFirst, ofSecond, if_true, Option.any_some] at rejected pending accepted ⊢
    rw [Option.some.injEq, Verdict.mk.injEq]
    exact ⟨source, rejected, pending, accepted⟩
  · simp [ofFirst, ofSecond] at named
  · simp [ofFirst, ofSecond] at named
  · rw [if_neg ofFirst, if_neg ofSecond]

theorem card_passes (report : Multiset PaymentStatus) (test : Verdict → Bool) :
    (report.filter fun status => status.passes loanId test).card =
      ((verdicts report loanId).filter fun verdict => test verdict).card := by
  rw [← card_filter_reports, Multiset.filter_filter]
  refine congrArg Multiset.card (Multiset.filter_congr fun status _ => ?_)
  rw [PaymentStatus.passes, PaymentStatus.evidence]
  split
  next named => simp [named]
  next other => simp [other]

theorem card_passes_eq {loans loans' : Multiset Loan}
    {payments payments' : Multiset PaymentTransaction} {report report' : Multiset PaymentStatus}
    {notifications notifications' : Multiset Camt054} {statementRows statementRows' : Multiset Camt053}
    (same : lifecycleOf loans payments report notifications statementRows =
      lifecycleOf loans' payments' report' notifications' statementRows')
    {loan : Loan} (member : loan ∈ loans) (named : loan.loanId = some loanId)
    {test : Verdict → Bool} (counted : test ∈ countedTests) :
    (report.filter fun status => status.passes loanId test).card =
      (report'.filter fun status => status.passes loanId test).card := by
  obtain ⟨row, inRows, ofLoan⟩ :=
    exists_mem_lifecycleOf member payments report notifications statementRows
  have first := (counts_of_mem_lifecycleOf inRows (ofLoan.trans named)).1
  have second := (counts_of_mem_lifecycleOf (same ▸ inRows) (ofLoan.trans named)).1
  obtain ⟨column, reads⟩ := exists_column counted loanId
  rw [card_passes, card_passes, reads, reads, ← first, ← second]

/-- How many rows fail the test where `expected` passes it, or pass it where it fails. -/
def deviations (loanId : String) (test : Verdict → Bool) (expected : Bool)
    (report : Multiset (Stored PaymentStatus)) : Nat :=
  (report.filter fun row => row.content.passes loanId test ≠ expected).card

theorem deviations_cons_of_ne {test : Verdict → Bool} {expected : Bool} {row : Stored PaymentStatus}
    (otherwise : row.content.passes loanId test ≠ expected)
    (rest : Multiset (Stored PaymentStatus)) :
    deviations loanId test expected (row ::ₘ rest) = deviations loanId test expected rest + 1 :=
  (congrArg Multiset.card (Multiset.filter_cons_of_pos
    (p := fun row : Stored PaymentStatus => row.content.passes loanId test ≠ expected) rest
    otherwise)).trans (Multiset.card_cons _ _)

theorem deviations_cons_self {test : Verdict → Bool} (row : Stored PaymentStatus)
    (rest : Multiset (Stored PaymentStatus)) :
    deviations loanId test (row.content.passes loanId test) (row ::ₘ rest) =
      deviations loanId test (row.content.passes loanId test) rest :=
  congrArg Multiset.card (Multiset.filter_cons_of_neg
    (p := fun other : Stored PaymentStatus =>
      other.content.passes loanId test ≠ row.content.passes loanId test) rest (not_not.mpr rfl))

theorem deviations_eq {test : Verdict → Bool} {report report' : Multiset (Stored PaymentStatus)}
    (many : report.card = report'.card)
    (same : ((contents report).filter fun status => status.passes loanId test).card =
      ((contents report').filter fun status => status.passes loanId test).card) (expected : Bool) :
    deviations loanId test expected report = deviations loanId test expected report' := by
  simp only [contents, Multiset.filter_map, Multiset.card_map, Function.comp_def] at same
  have split (report : Multiset (Stored PaymentStatus)) := congrArg Multiset.card
    (Multiset.filter_add_not (fun row => (row.content.passes loanId test) = true) report)
  have first := split report
  have second := split report'
  rw [Multiset.card_add] at first second
  unfold deviations
  cases expected
  · simpa using same
  · simp only [ne_eq]
    omega

theorem exists_isFirsts_least (events : Multiset (Stored PaymentStatus))
    (measure : Multiset (Stored PaymentStatus) → Nat) :
    ∃ report, IsFirsts PaymentStatus.messageKey Stored.recency events report ∧
      ∀ report', IsFirsts PaymentStatus.messageKey Stored.recency events report' →
        measure report ≤ measure report' := by
  let measured (window : Firsts PaymentStatus.messageKey Stored.recency events) : Nat :=
    measure window.kept
  exact ⟨_, (Function.argmin measured).isFirsts, fun report' ofReport' =>
    Function.argmin_le measured ⟨report', ofReport'⟩⟩

/-- An insensitive Bronze has no two versions of a status report that say different things of a
loan: whichever the window keeps, the other one may be delivered again after it. -/
theorem Bronze.Insensitive.versions (insensitive : bronze.Insensitive)
    {first second : Stored PaymentStatus} (inEvents : first ∈ bronze.statusEvents)
    (alsoInEvents : second ∈ bronze.statusEvents)
    (sameKey : PaymentStatus.messageKey first = PaymentStatus.messageKey second)
    (isLoan : bronze.IsLoan loanId) :
    first.content.evidence loanId = second.content.evidence loanId := by
  refine evidence_eq (congrArg Prod.fst sameKey) fun test counted => ?_
  by_contra different
  obtain ⟨report, ofReport⟩ :=
    exists_isFirsts PaymentStatus.messageKey Stored.recency bronze.statusEvents
  obtain ⟨kept, inKept, keptKey⟩ := ofReport.covers first inEvents
  -- one of the two versions is not the one that was kept
  obtain ⟨other, inBronze, otherKey, otherwise⟩ : ∃ other ∈ bronze.statusEvents,
      PaymentStatus.messageKey kept = PaymentStatus.messageKey other ∧
        other.content.passes loanId test ≠ kept.content.passes loanId test := by
    by_cases ofFirst : first.content.passes loanId test = kept.content.passes loanId test
    · exact ⟨second, alsoInEvents, keptKey.trans sameKey,
        fun ofSecond => different (ofFirst.trans ofSecond.symm)⟩
    · exact ⟨first, inEvents, keptKey, ofFirst⟩
  let copy : Stored PaymentStatus :=
    ⟨other.content, { kept.delivery with kafkaOffset := kept.delivery.kafkaOffset + 1 }⟩
  have differs : copy.content.passes loanId test ≠ kept.content.passes loanId test := otherwise
  obtain ⟨bronze', redelivered, events⟩ : ∃ bronze', Redelivered bronze bronze' ∧
      bronze'.statusEvents = copy ::ₘ bronze.statusEvents := exists_redelivered_status inBronze _
  have later : ∀ row ∈ bronze.statusEvents,
      PaymentStatus.messageKey row = PaymentStatus.messageKey copy → row.recency < copy.recency := by
    intro row member same
    refine (ofReport.first kept inKept row member (same.trans otherKey.symm)).trans_lt ?_
    exact Prod.Lex.toLex_lt_toLex.mpr (.inr ⟨rfl, Nat.lt_succ_self _⟩)
  obtain ⟨latest, ofLatest, fewest⟩ := exists_isFirsts_least bronze'.statusEvents
    (deviations loanId test (kept.content.passes loanId test))
  have names (report' : Multiset (Stored PaymentStatus))
      (ofReport' : IsFirsts PaymentStatus.messageKey Stored.recency bronze'.statusEvents report') :
      report'.map PaymentStatus.messageKey = latest.map PaymentStatus.messageKey :=
    ofReport'.map_name_eq ofLatest fun _ => Iff.rfl
  rw [events] at ofLatest
  obtain ⟨rest, rfl⟩ := Multiset.exists_cons_of_mem (ofLatest.mem_of_greatest later)
  have swapped := ofLatest.swap (ofReport.mem kept inKept) otherKey
    (ofReport.first kept inKept)
  obtain ⟨loans, ofLoans⟩ := exists_isFirsts (fun row : Stored Loan => row.content.loanId)
    (Stored.revision Loan.updatedAt) bronze.pdmisLoans
  obtain ⟨payments, ofPayments⟩ := exists_isFirsts PaymentTransaction.naturalKey
    PaymentTransaction.recency bronze.identifiedTransactions
  have ofBronze := Bronze.mem_lifecycles.mpr ⟨loans, payments, _, ofLoans, ofPayments, swapped, rfl⟩
  rw [← insensitive bronze' redelivered] at ofBronze
  obtain ⟨loans', payments', report', -, -, ofReport', same⟩ := Bronze.mem_lifecycles.mp ofBronze
  obtain ⟨stored, inRegistry, named⟩ := isLoan
  obtain ⟨loan, inLoans, sameLoan⟩ := ofLoans.covers stored inRegistry
  have agrees := card_passes_eq same.symm (Multiset.mem_map_of_mem Stored.content inLoans)
    (sameLoan.trans named) counted
  have many : (kept ::ₘ rest).card = report'.card := by
    rw [← Multiset.card_map PaymentStatus.messageKey report', names report' ofReport',
      Multiset.card_map, Multiset.card_cons, Multiset.card_cons]
  have fewer := deviations_eq many agrees (kept.content.passes loanId test)
  have least := fewest report' ofReport'
  rw [← fewer, deviations_cons_of_ne differs, deviations_cons_self] at least
  omega

end Versions

/-! ## When redelivery changes nothing -/

/-- The lifecycle is insensitive to redelivery exactly if no notification and no statement names
a loan and the versions of a status report say the same of the loans. -/
theorem insensitive_iff (bronze : Bronze) : bronze.Insensitive ↔ bronze.Settled := by
  constructor
  · intro insensitive
    exact {
      notifications := fun row member loanId isLoan => insensitive.notifications member isLoan
      statements := fun row member loanId isLoan => insensitive.statements member isLoan
      versions := fun first inEvents second alsoInEvents same loanId isLoan =>
        insensitive.versions inEvents alsoInEvents same isLoan }
  · intro settled bronze' redelivered
    exact (settled.readAlike redelivered).lifecycles_eq.symm

/-- A loan, and a notification that it was credited. -/
def oneNotification : Bronze where
  pdmisLoans := {⟨⟨some "L1", none, none, none, none, none, none, none, none, none, some 1000000,
    none, none, none, none⟩, ⟨"e1", "pdmis.loans", 0, 0, none⟩⟩}
  wendiCamt054 := {⟨⟨some "L1", none, some 1000000, none⟩, ⟨"e2", "wendi.camt054", 0, 0, none⟩⟩}

/-- The notification delivered twice is counted twice. -/
theorem oneNotification_not_insensitive : ¬ ∀ bronze : Bronze, bronze.Insensitive := by
  intro insensitive
  exact (insensitive oneNotification).notifications (Multiset.mem_singleton_self _)
    ⟨_, Multiset.mem_singleton_self _, rfl⟩ rfl

end PaymentsPlatform.Warehouse
