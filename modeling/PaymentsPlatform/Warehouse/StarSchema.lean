import PaymentsPlatform.Warehouse.PaymentFact

/-!
# The star schema

The payment fact computes the keys of its dimensions by itself, from other models than the
dimensions do.  Every key is the hash of a text in which a missing value is a word and columns are
separated by two bars, so a value that is this word, or two tuples with one text, collide.
-/

namespace PaymentsPlatform.Warehouse

open Bag Calendar

/-- What `gold_surrogate_key` reads in place of a missing value. -/
def unknownMember : String := "__UNKNOWN__"

/-! ## The dimensions -/

structure DateRow where
  dateSk : String
  calendarDate : Option Date
  deriving DecidableEq

structure AgentRow where
  agentSk : String
  geographySk : String
  agentId : Option String
  latitude : Option ℚ
  longitude : Option ℚ
  deriving DecidableEq

structure SaccoRow where
  saccoSk : String
  geographySk : String
  saccoId : Option String
  deriving DecidableEq

structure BeneficiaryRow where
  beneficiarySk : String
  geographySk : String
  beneficiaryToken : Option String
  area : Option Area
  deriving DecidableEq

structure GeographyRow where
  geographySk : String
  districtSk : String
  countySk : String
  subCountySk : String
  area : Area
  deriving DecidableEq

namespace Layers

variable {bronze : Bronze} (layers : Layers bronze)

def dates : Multiset (Option Date) :=
  (layers.slvPdmPaymentsTransactions.kept.map (fun payment =>
      payment.occurredAt.map Timestamp.date) +
    layers.slvPdmLoans.map Loan.applicationDate +
    layers.slvPdmLoans.map Loan.approvalDate +
    layers.slvPdmLoans.map Loan.verificationDate +
    layers.slvPdmLoans.map Loan.disbursementDate +
    layers.slvPdmLoans.map Loan.cashoutDate +
    layers.slvPdmLoans.map Loan.asOfDate +
    layers.slvPdmLoans.map Loan.lastPaymentDate +
    layers.slvPdmBeneficiaries.map Identity.registrationDate).dedup

def geographies : Multiset Area :=
  (layers.slvPdmBeneficiaries.map Identity.area + layers.slvPdmSaccos.map Sacco.area +
    layers.slvPdmAgents.map Agent.area + {⟨none, none, none, none⟩}).dedup

variable (md5 : String → String)

def gldDimPdmDate : Multiset DateRow :=
  (layers.dates.filter fun date => date.isSome).map
      (fun date => ⟨goldSurrogateKey md5 [date.map Date.text], date⟩) +
    {⟨goldSurrogateKey md5 [none], none⟩}

def gldDimPdmAgent : Multiset AgentRow :=
  ((leftJoin layers.slvPdmAgents layers.slvPdmAgentLocations fun agent location =>
      (equals agent.agentId location.agentId).and
        (equals location.locationType (some "PRIMARY"))).filter fun row =>
          row.1.agentId.isSome).map (fun (agent, location) =>
      { agentSk := goldSurrogateKey md5 [agent.agentId]
        geographySk := goldSurrogateKey md5 (Area.columns agent.area)
        agentId := agent.agentId
        latitude := location.bind AgentLocation.latitude
        longitude := location.bind AgentLocation.longitude }) +
    {⟨goldSurrogateKey md5 [none], goldSurrogateKey md5 (Area.columns none), none, none, none⟩}

def gldDimPdmSacco : Multiset SaccoRow :=
  (layers.slvPdmSaccos.filter fun sacco => sacco.saccoId.isSome).map (fun sacco =>
      { saccoSk := goldSurrogateKey md5 [sacco.saccoId]
        geographySk := goldSurrogateKey md5 (Area.columns sacco.area)
        saccoId := sacco.saccoId }) +
    {⟨goldSurrogateKey md5 [none], goldSurrogateKey md5 (Area.columns none), none⟩}

def gldDimPdmBeneficiary : Multiset BeneficiaryRow :=
  (layers.slvPdmBeneficiaries.filter fun beneficiary => beneficiary.beneficiaryToken.isSome).map
      (fun beneficiary =>
        { beneficiarySk := goldSurrogateKey md5 [beneficiary.beneficiaryToken]
          geographySk := goldSurrogateKey md5 (Area.columns beneficiary.area)
          beneficiaryToken := beneficiary.beneficiaryToken
          area := beneficiary.area }) +
    {⟨goldSurrogateKey md5 [none], goldSurrogateKey md5 (Area.columns none), none, none⟩}

def gldDimPdmGeography : Multiset GeographyRow :=
  layers.geographies.map fun area : Area =>
    { geographySk := goldSurrogateKey md5 (Area.columns area)
      districtSk := goldSurrogateKey md5 [area.region, area.district]
      countySk := goldSurrogateKey md5 [area.region, area.district, area.county]
      subCountySk := goldSurrogateKey md5 (Area.columns area)
      area := area }

end Layers

/-! ## Columns that run together -/

/-- What is hashed of a column. -/
def wordOf (column : Option String) : List Char := (column.getD unknownMember).toList

def separated (word : List Char) : List Char := '|' :: '|' :: word

/-- After `more`, a separator and each of the words, the same text reads as a separator and each of
the others: the first of them ends within `more` or goes on past it, into the words. -/
inductive ReadsAs : List Char → List (List Char) → List (List Char) → Prop
  | done : ReadsAs [] [] []
  | within {rest other : List Char} {words others : List (List Char)} :
      ReadsAs rest words others → ReadsAs (separated other ++ rest) words (other :: others)
  | past {more rest other : List Char} {words others : List (List Char)} : rest ≠ [] →
      more ++ rest = separated other → ReadsAs rest others words →
        ReadsAs more words (other :: others)

/-- The word of the first column in the one row begins with that in the other, and its remainder runs
on into the columns that follow there. -/
def RunTogether : List (Option String) → List (Option String) → Prop
  | first :: columns, first' :: columns' => ∃ more,
      (wordOf first = wordOf first' ++ more ∧
        ReadsAs more (columns.map wordOf) (columns'.map wordOf)) ∨
      (wordOf first' = wordOf first ++ more ∧
        ReadsAs more (columns'.map wordOf) (columns.map wordOf))
  | _, _ => False

theorem readsAs_iff {more : List Char} {words others : List (List Char)} :
    ReadsAs more words others ↔ more ++ words.flatMap separated = others.flatMap separated := by
  constructor
  · intro reads
    induction reads with
    | done => rfl
    | within _ ih => rw [List.append_assoc, ih, List.flatMap_cons]
    | past _ spelled _ ih => rw [List.flatMap_cons, ← spelled, List.append_assoc, ih]
  · -- one column of one of the two rows is read at a time
    intro same
    generalize isSize : words.length + others.length = size
    induction size generalizing more words others with
    | zero =>
        obtain ⟨noWords, noOthers⟩ := Nat.add_eq_zero_iff.mp isSize
        rw [List.length_eq_zero_iff] at noWords noOthers
        subst noWords noOthers
        simp only [List.flatMap_nil, List.append_nil] at same
        exact same ▸ .done
    | succ size ih =>
        cases others with
        | nil =>
            obtain ⟨rfl, noWords⟩ := List.append_eq_nil_iff.mp same
            cases words with
            | nil => exact .done
            | cons word words => simp [separated] at noWords
        | cons other others =>
            rw [List.length_cons] at isSize
            rw [List.flatMap_cons] at same
            rcases List.append_eq_append_iff.mp same with
              ⟨rest, spelled, onward⟩ | ⟨rest, rfl, onward⟩
            · by_cases ends : rest = []
              · subst ends
                rw [List.append_nil] at spelled
                have onwards : ReadsAs [] words others := ih onward (by omega)
                have here : ReadsAs (separated other ++ []) words (other :: others) :=
                  .within onwards
                rwa [List.append_nil, spelled] at here
              · exact .past ends spelled.symm (ih onward.symm (by omega))
            · exact .within (ih onward.symm (by omega))

theorem toList_keyText (first : Option String) (columns : List (Option String)) :
    (keyText (first :: columns)).toList =
      wordOf first ++ (columns.map wordOf).flatMap separated := by
  induction columns generalizing first with
  | nil => simp [wordOf, unknownMember]
  | cons second columns ih =>
      rw [toList_keyText_cons_cons, ih]
      rfl

theorem keyText_eq_iff {first first' : Option String} {columns columns' : List (Option String)} :
    keyText (first :: columns) = keyText (first' :: columns') ↔
      RunTogether (first :: columns) (first' :: columns') := by
  rw [← String.toList_inj, toList_keyText, toList_keyText, List.append_eq_append_iff, RunTogether]
  simp only [readsAs_iff, exists_or]
  rw [or_comm]
  simp only [eq_comm]

/-- A column without a bar that is not the word for a missing value. -/
def Plain (column : Option String) : Prop :=
  '|' ∉ wordOf column ∧ column ≠ some unknownMember

theorem eq_of_wordOf {column column' : Option String} (plain : Plain column)
    (plain' : Plain column') (same : wordOf column = wordOf column') : column = column' := by
  have texts : column.getD unknownMember = column'.getD unknownMember := String.toList_inj.mp same
  cases column with
  | none =>
      cases column' with
      | none => rfl
      | some text => exact absurd (congrArg some texts.symm) plain'.2
  | some text =>
      cases column' with
      | none => exact absurd (congrArg some texts) plain.2
      | some text' => exact congrArg some texts

theorem eq_of_runTogether {first first' : Option String} {columns columns' : List (Option String)}
    (together : RunTogether (first :: columns) (first' :: columns'))
    (plain : ∀ column ∈ first :: columns, Plain column)
    (plain' : ∀ column ∈ first' :: columns', Plain column)
    (lengths : columns.length = columns'.length) : first :: columns = first' :: columns' := by
  have texts := congrArg String.toList (keyText_eq_iff.mpr together)
  rw [toList_keyText, toList_keyText] at texts
  clear together
  induction columns generalizing first first' columns' with
  | nil =>
      rw [List.eq_nil_of_length_eq_zero lengths.symm] at texts ⊢
      simp only [List.map_nil, List.flatMap_nil, List.append_nil] at texts
      rw [eq_of_wordOf (plain first (by simp)) (plain' first' (by simp)) texts]
  | cons second columns ih =>
      cases columns' with
      | nil => cases lengths
      | cons second' columns' =>
          obtain ⟨words, rest⟩ := eq_of_append_bar (plain first (by simp)).1
            (plain' first' (by simp)).1 texts
          rw [eq_of_wordOf (plain first (by simp)) (plain' first' (by simp)) words,
            ih (fun column listed => plain column (List.mem_cons_of_mem _ listed))
              (fun column listed => plain' column (List.mem_cons_of_mem _ listed))
              (Nat.succ.inj lengths) (List.cons.inj rest).2]

/-! ## Keys that are hashes of texts -/

section Keys

variable {md5 : String → String} (injective : Function.Injective md5)

include injective

theorem goldSurrogateKey_inj {columns columns' : List (Option String)} :
    goldSurrogateKey md5 columns = goldSurrogateKey md5 columns' ↔
      keyText columns = keyText columns' :=
  injective.eq_iff

theorem nodup_keys_iff {values : Multiset String} (unique : values.Nodup) :
    (values.map (fun value => goldSurrogateKey md5 [some value]) +
      {goldSurrogateKey md5 [none]}).Nodup ↔ unknownMember ∉ values := by
  have collide (value : String) :
      goldSurrogateKey md5 [some value] = goldSurrogateKey md5 [none] ↔ value = unknownMember := by
    simp [goldSurrogateKey_inj injective, unknownMember]
  have distinct : (values.map fun value => goldSurrogateKey md5 [some value]).Nodup := by
    refine unique.map fun first second same => ?_
    simpa [goldSurrogateKey_inj injective] using same
  rw [add_comm, Multiset.singleton_add, Multiset.nodup_cons]
  simp only [Multiset.mem_map, collide, exists_eq_right, distinct, and_true]

theorem mem_keys_iff {values : Multiset String} {column : Option String} :
    goldSurrogateKey md5 [column] ∈ values.map (fun value => goldSurrogateKey md5 [some value]) +
        {goldSurrogateKey md5 [none]} ↔
      ∀ value, column = some value → value = unknownMember ∨ value ∈ values := by
  simp only [Multiset.mem_add, Multiset.mem_map, Multiset.mem_singleton,
    goldSurrogateKey_inj injective, keyText_singleton, Option.getD_some, Option.getD_none]
  cases column with
  | none => simp
  | some value => simp [or_comm, unknownMember]

end Keys

section Dimensions

variable {bronze : Bronze} (layers : Layers bronze) (md5 : String → String)

theorem dateSks : (layers.gldDimPdmDate md5).map DateRow.dateSk =
    ((layers.dates.filterMap id).map Date.text).map
      (fun value => goldSurrogateKey md5 [some value]) + {goldSurrogateKey md5 [none]} := by
  have values := map_filter_isSome id
    (fun date => goldSurrogateKey md5 [date.map Date.text]) layers.dates
  rw [Layers.gldDimPdmDate, Multiset.map_add, Multiset.map_map, Multiset.map_map]
  exact congrArg (· + _) values

theorem saccoSks : (layers.gldDimPdmSacco md5).map SaccoRow.saccoSk =
    (layers.slvPdmSaccos.filterMap Sacco.saccoId).map
      (fun value => goldSurrogateKey md5 [some value]) + {goldSurrogateKey md5 [none]} := by
  rw [Layers.gldDimPdmSacco, Multiset.map_add, Multiset.map_map]
  exact congrArg (· + _) (map_filter_isSome Sacco.saccoId
    (fun column => goldSurrogateKey md5 [column]) layers.slvPdmSaccos)

theorem beneficiarySks : (layers.gldDimPdmBeneficiary md5).map BeneficiaryRow.beneficiarySk =
    (layers.slvPdmBeneficiaries.filterMap Identity.beneficiaryToken).map
      (fun value => goldSurrogateKey md5 [some value]) + {goldSurrogateKey md5 [none]} := by
  rw [Layers.gldDimPdmBeneficiary, Multiset.map_add, Multiset.map_map]
  exact congrArg (· + _) (map_filter_isSome Identity.beneficiaryToken
    (fun column => goldSurrogateKey md5 [column]) layers.slvPdmBeneficiaries)

theorem isKey_slvPdmAgentLocations :
    IsKey (fun location : AgentLocation => location.agentId.bind fun agentId =>
      location.locationType.map fun locationType => (agentId, locationType))
      layers.slvPdmAgentLocations := by
  refine isKey_of_nodup_map (fun location => (location.agentId, location.locationType))
    (fun key => (some key.1, some key.2)) ?_ ?_
  · rintro location - value keyed
    obtain ⟨agentId, known, typed⟩ := Option.bind_eq_some_iff.mp keyed
    obtain ⟨locationType, alsoKnown, rfl⟩ := Option.map_eq_some_iff.mp typed
    simp [known, alsoKnown]
  · rw [Silver.slvPdmAgentLocations, contents, Multiset.map_map]
    exact layers.rankedLocations.isFirsts.unique

theorem card_primary_locations_le_one (agentId : Option String) :
    (partners layers.slvPdmAgentLocations fun location =>
      (equals agentId location.agentId).and
        (equals location.locationType (some "PRIMARY"))).card ≤ 1 := by
  refine card_partners_le_one (isKey_slvPdmAgentLocations layers)
    fun first second matched alsoMatched => ?_
  simp only [Truth.holds_and, Bool.and_eq_true, holds_equals, Option.some.injEq] at matched alsoMatched
  obtain ⟨⟨known, rfl, ofFirst⟩, _, typed, rfl⟩ := matched
  obtain ⟨⟨_, same, ofSecond⟩, _, alsoTyped, rfl⟩ := alsoMatched
  refine ⟨(known, "PRIMARY"), ?_, ?_⟩
  · simp [ofFirst, typed]
  · simp [ofSecond, alsoTyped, Option.some.inj same]

theorem agentSks : (layers.gldDimPdmAgent md5).map AgentRow.agentSk =
    (layers.slvPdmAgents.filterMap Agent.agentId).map
      (fun value => goldSurrogateKey md5 [some value]) + {goldSurrogateKey md5 [none]} := by
  have joined := congrArg (fun rows => (rows.filter fun agent => agent.agentId.isSome).map
      fun agent => goldSurrogateKey md5 [agent.agentId])
    (map_fst_leftJoin_of_le_one fun (agent : Agent) (_ : agent ∈ layers.slvPdmAgents) =>
      card_primary_locations_le_one layers agent.agentId)
  simp only [Multiset.filter_map, Multiset.map_map] at joined
  rw [← map_filter_isSome Agent.agentId (fun column => goldSurrogateKey md5 [column]), ← joined,
    Layers.gldDimPdmAgent, Multiset.map_add, Multiset.map_map]
  rfl

theorem geographySks : (layers.gldDimPdmGeography md5).map GeographyRow.geographySk =
    layers.geographies.map fun area : Area => goldSurrogateKey md5 (Area.columns area) := by
  rw [Layers.gldDimPdmGeography, Multiset.map_map]
  rfl

end Dimensions

/-! ## Closure -/

/-- Each key of a fact row is the key of one row of its dimension. -/
structure KeysFound (md5 : String → String) {bronze : Bronze} (layers : Layers bronze)
    (fact : PaymentFact) : Prop where
  date : ((layers.gldDimPdmDate md5).filter fun row => row.dateSk = fact.paymentDateSk).card = 1
  agent : ((layers.gldDimPdmAgent md5).filter fun row => row.agentSk = fact.agentSk).card = 1
  sacco : ((layers.gldDimPdmSacco md5).filter fun row => row.saccoSk = fact.saccoSk).card = 1
  beneficiary : ((layers.gldDimPdmBeneficiary md5).filter fun row =>
    row.beneficiarySk = fact.beneficiarySk).card = 1
  geography : ((layers.gldDimPdmGeography md5).filter fun row =>
    row.geographySk = fact.geographySk).card = 1

/-- The keys of the dimensions are unique, a geography key belongs to one tuple, and the fact
finds every key that it holds. -/
structure Closed (md5 : String → String) {bronze : Bronze} (layers : Layers bronze) : Prop where
  dates : ((layers.gldDimPdmDate md5).map DateRow.dateSk).Nodup
  agents : ((layers.gldDimPdmAgent md5).map AgentRow.agentSk).Nodup
  saccos : ((layers.gldDimPdmSacco md5).map SaccoRow.saccoSk).Nodup
  beneficiaries : ((layers.gldDimPdmBeneficiary md5).map BeneficiaryRow.beneficiarySk).Nodup
  geographies : ((layers.gldDimPdmGeography md5).map GeographyRow.geographySk).Nodup
  areas : ∀ row ∈ layers.gldDimPdmGeography md5, ∀ row' ∈ layers.gldDimPdmGeography md5,
    row.geographySk = row'.geographySk → row.area = row'.area
  facts : ∀ fact ∈ layers.gldFctPdmPayments md5, KeysFound md5 layers fact

/-- The SACCO of a payment, or else of its loan. -/
def paymentSacco (payment : PaymentTransaction) (loan : Option Loan) : Option String :=
  coalesce [payment.saccoId, loan.bind Loan.saccoId]

/-- No identifier is the word for a missing one, the columns of no two areas run together, and the
SACCO of each known transaction is registered. -/
structure Distinguishable {bronze : Bronze} (layers : Layers bronze) : Prop where
  agents : unknownMember ∉ layers.slvPdmAgents.filterMap Agent.agentId
  saccos : unknownMember ∉ layers.slvPdmSaccos.filterMap Sacco.saccoId
  beneficiaries : unknownMember ∉ layers.slvPdmBeneficiaries.filterMap Identity.beneficiaryToken
  areas : ∀ area ∈ layers.geographies, ∀ area' ∈ layers.geographies,
    RunTogether (Area.columns area) (Area.columns area') → area = area'
  registered : ∀ payment loan, (payment, loan) ∈ layers.paymentLoans →
    payment.transactionId.isSome → ∀ saccoId, paymentSacco payment loan = some saccoId →
      saccoId = unknownMember ∨ saccoId ∈ layers.slvPdmSaccos.filterMap Sacco.saccoId

/-! ## Where the keys of a fact come from -/

section Sources

variable {bronze : Bronze} {layers : Layers bronze} {md5 : String → String}

theorem sources_of_mem {fact : PaymentFact} (member : fact ∈ layers.gldFctPdmPayments md5) :
    ∃ payment entity loanLink beneficiary agent reconciliation control,
      (payment, entity) ∈ layers.paymentEntities ∧
      (∀ found, loanLink = some found → found ∈ layers.slvPdmLoanBeneficiaryLinks) ∧
      (∀ found, beneficiary = some found → found ∈ layers.slvPdmBeneficiaries) ∧
      (∀ found, agent = some found → found ∈ layers.slvPdmAgents) ∧
      fact = paymentFact md5
        ((((((payment, entity), loanLink), beneficiary), agent), reconciliation), control) := by
  obtain ⟨⟨⟨⟨⟨⟨⟨payment, entity⟩, loanLink⟩, beneficiary⟩, agent⟩, reconciliation⟩, control⟩,
    joined, rfl⟩ := Multiset.mem_map.mp member
  have withReconciliation := (mem_leftJoin.mp joined).1
  have withAgent := (mem_leftJoin.mp withReconciliation).1
  have withBeneficiary := (mem_leftJoin.mp withAgent).1
  have withLink := (mem_leftJoin.mp withBeneficiary).1
  refine ⟨payment, entity, loanLink, beneficiary, agent, reconciliation, control,
    (mem_leftJoin.mp withLink).1, ?_, ?_, ?_, rfl⟩
  · rintro found rfl
    exact (partner_of_mem_leftJoin withLink).1
  · rintro found rfl
    exact (partner_of_mem_leftJoin withBeneficiary).1
  · rintro found rfl
    exact (partner_of_mem_leftJoin withAgent).1

theorem sacco_of_entity {payment : PaymentTransaction} {entity : EntityMatch}
    (member : (payment, some entity) ∈ layers.paymentEntities) :
    payment.transactionId.isSome ∧ ∃ loan, (payment, loan) ∈ layers.paymentLoans ∧
      paymentSacco payment loan = coalesce [entity.transactionSaccoId, entity.loanSaccoId] := by
  have inSilver := (mem_leftJoin.mp member).1
  obtain ⟨inMatches, holds⟩ := partner_of_mem_leftJoin member
  obtain ⟨matched, loan, withLoan, isMatch⟩ := Silver.exists_loan_of_match inMatches
  simp only [Truth.holds_and, Bool.and_eq_true, holds_equals, Option.some.injEq] at holds
  obtain ⟨⟨_, rfl, source⟩, transactionId, known, alsoKnown⟩ := holds
  have same : payment = matched := by
    refine layers.isKey_slvPdmPaymentsTransactions.eq_of_key inSilver (mem_leftJoin.mp withLoan).1
      (Option.map_eq_some_iff.mpr ⟨transactionId, known, rfl⟩)
      (Option.map_eq_some_iff.mpr ⟨transactionId, isMatch.transactionId ▸ alsoKnown, ?_⟩)
    rw [← isMatch.sourceSystem, source]
  subst same
  refine ⟨Option.isSome_of_eq_some known, loan, withLoan, ?_⟩
  rw [isMatch.transactionSaccoId, isMatch.loanSaccoId, paymentSacco]

theorem exists_fact_of_entity (md5 : String → String) {payment : PaymentTransaction}
    {entity : Option EntityMatch} (withEntity : (payment, entity) ∈ layers.paymentEntities) :
    ∃ loanLink beneficiary agent reconciliation control, paymentFact md5
      ((((((payment, entity), loanLink), beneficiary), agent), reconciliation), control) ∈
        layers.gldFctPdmPayments md5 := by
  obtain ⟨_, withLink⟩ := exists_mem_leftJoin withEntity layers.slvPdmLoanBeneficiaryLinks
    fun row loanLink => equals row.1.endToEndId loanLink.loanId
  obtain ⟨_, withBeneficiary⟩ := exists_mem_leftJoin withLink layers.slvPdmBeneficiaries
    fun row beneficiary => equals (row.2.bind LoanBeneficiaryLink.beneficiaryToken)
      beneficiary.beneficiaryToken
  obtain ⟨_, withAgent⟩ := exists_mem_leftJoin withBeneficiary layers.slvPdmAgents
    fun row agent => equals (row.1.1.2.bind EntityMatch.transactionAgentId) agent.agentId
  obtain ⟨_, withReconciliation⟩ := exists_mem_leftJoin withAgent layers.reconciliationCounts
    fun row reconciliation => (equals (some row.1.1.1.1.sourceSystem) reconciliation.sourceSystem).and
      (equals row.1.1.1.1.transactionId reconciliation.transactionId)
  obtain ⟨_, withControls⟩ := exists_mem_leftJoin withReconciliation
    layers.slvPdmPaymentAccountControls fun row control => Layers.controlOf row.1.1.1.1.1 control
  exact ⟨_, _, _, _, _, Multiset.mem_map.mpr ⟨_, withControls, rfl⟩⟩

theorem exists_fact_of_loan (md5 : String → String) {payment : PaymentTransaction}
    {loan : Option Loan} (member : (payment, loan) ∈ layers.paymentLoans)
    (known : payment.transactionId.isSome) :
    ∃ fact ∈ layers.gldFctPdmPayments md5,
      fact.saccoSk = goldSurrogateKey md5 [paymentSacco payment loan] := by
  obtain ⟨entity, inMatches, isMatch⟩ := Silver.exists_match_of_loan member
  have withEntity : (payment, some entity) ∈ layers.paymentEntities := by
    refine some_mem_leftJoin (mem_leftJoin.mp member).1 inMatches ?_
    obtain ⟨transactionId, named⟩ := Option.isSome_iff_exists.mp known
    simp [isMatch.sourceSystem, isMatch.transactionId, named, equals, compared]
  obtain ⟨_, _, _, _, _, inFact⟩ := exists_fact_of_entity md5 withEntity
  refine ⟨_, inFact, ?_⟩
  simp only [paymentFact, Option.bind_some, paymentSacco, isMatch.transactionSaccoId,
    isMatch.loanSaccoId]

end Sources

section Closure

variable {md5 : String → String} (injective : Function.Injective md5) {bronze : Bronze}
  {layers : Layers bronze}

theorem nodup_dateSks (injective : Function.Injective md5) (layers : Layers bronze) :
    ((layers.gldDimPdmDate md5).map DateRow.dateSk).Nodup := by
  have distinct : ((layers.dates.filterMap id).map Date.text).Nodup := by
    refine Multiset.Nodup.map Date.text_injective ((Multiset.nodup_dedup _).filterMap id ?_)
    intro first second date inFirst inSecond
    exact (Option.mem_def.mp inFirst).trans (Option.mem_def.mp inSecond).symm
  rw [dateSks, nodup_keys_iff injective distinct]
  intro member
  obtain ⟨date, -, written⟩ := Multiset.mem_map.mp member
  have chars : date.chars = unknownMember.toList := by
    rw [← written, Date.text, String.toList_ofList]
  have underscore : '_' ∈ date.chars := chars ▸ (by decide : '_' ∈ unknownMember.toList)
  rcases Date.mem_chars underscore with digit | dash
  · exact absurd digit (by decide)
  · exact absurd dash (by decide)

include injective

theorem distinguishable_of_closed (keyed : layers.VaultKeyed) (closed : Closed md5 layers) :
    Distinguishable layers := by
  refine ⟨?_, ?_, ?_, ?_, ?_⟩
  · exact (nodup_keys_iff injective layers.isKey_slvPdmAgents).mp (agentSks layers md5 ▸ closed.agents)
  · exact (nodup_keys_iff injective layers.isKey_slvPdmSaccos).mp (saccoSks layers md5 ▸ closed.saccos)
  · exact (nodup_keys_iff injective (Silver.isKey_slvPdmBeneficiaries keyed)).mp
      (beneficiarySks layers md5 ▸ closed.beneficiaries)
  · intro area member area' member' together
    have keys := closed.geographies
    rw [geographySks] at keys
    exact Multiset.inj_on_of_nodup_map keys area member area' member'
      ((goldSurrogateKey_inj injective).mpr (keyText_eq_iff.mpr together))
  · intro payment loan joined known saccoId named
    obtain ⟨fact, inFact, keyOfFact⟩ := exists_fact_of_loan md5 joined known
    have found := (card_filter_eq_one closed.saccos).mp (closed.facts fact inFact).sacco
    rw [keyOfFact, saccoSks] at found
    exact (mem_keys_iff injective).mp found saccoId named

/-- Every key that a fact computes is in its dimension, if the SACCO is registered. -/
theorem keysFound_of_distinguishable (distinguishable : Distinguishable layers)
    (agents : ((layers.gldDimPdmAgent md5).map AgentRow.agentSk).Nodup)
    (saccos : ((layers.gldDimPdmSacco md5).map SaccoRow.saccoSk).Nodup)
    (beneficiaries : ((layers.gldDimPdmBeneficiary md5).map BeneficiaryRow.beneficiarySk).Nodup)
    (geographies : ((layers.gldDimPdmGeography md5).map GeographyRow.geographySk).Nodup)
    {fact : PaymentFact} (member : fact ∈ layers.gldFctPdmPayments md5) :
    KeysFound md5 layers fact := by
  obtain ⟨payment, entity, loanLink, beneficiary, agent, reconciliation, control, withEntity,
    linkInSilver, beneficiaryInSilver, agentInSilver, rfl⟩ := sources_of_mem member
  have inSilver := (mem_leftJoin.mp withEntity).1
  constructor
  case date =>
    refine (card_filter_eq_one (nodup_dateSks injective layers)).mpr ?_
    rw [dateSks]
    refine (mem_keys_iff injective).mpr fun value named => .inr ?_
    obtain ⟨time, occurred, rfl⟩ := Option.map_eq_some_iff.mp named
    have inDates : some time.date ∈ layers.dates := by
      simp only [Layers.dates, Multiset.mem_dedup, Multiset.mem_add]
      have ofPayment := Multiset.mem_map_of_mem
        (fun payment : PaymentTransaction => payment.occurredAt.map Timestamp.date) inSilver
      rw [occurred] at ofPayment
      tauto
    exact Multiset.mem_map_of_mem _ ((Multiset.mem_filterMap id _).mpr ⟨_, inDates, rfl⟩)
  case agent =>
    refine (card_filter_eq_one agents).mpr ?_
    rw [agentSks]
    refine (mem_keys_iff injective).mpr fun value named => .inr ?_
    obtain ⟨found, ofAgent, known⟩ := Option.bind_eq_some_iff.mp named
    exact (Multiset.mem_filterMap _ _).mpr ⟨found, agentInSilver found ofAgent, known⟩
  case sacco =>
    refine (card_filter_eq_one saccos).mpr ?_
    rw [saccoSks]
    refine (mem_keys_iff injective).mpr fun value named => ?_
    cases entity with
    | none => exact absurd named (by simp [coalesce])
    | some entity =>
        obtain ⟨known, loan, joined, same⟩ := sacco_of_entity withEntity
        exact distinguishable.registered payment loan joined known value (same.trans named)
  case beneficiary =>
    refine (card_filter_eq_one beneficiaries).mpr ?_
    rw [beneficiarySks]
    refine (mem_keys_iff injective).mpr fun value named => .inr ?_
    obtain ⟨found, ofLink, known⟩ := Option.bind_eq_some_iff.mp named
    obtain ⟨identity, inVault, sameToken⟩ :=
      Silver.exists_identity_of_link (linkInSilver found ofLink)
    have hasToken := sameToken.trans known
    exact (Multiset.mem_filterMap _ _).mpr ⟨identity,
      Multiset.mem_filter.mpr ⟨inVault, Option.isSome_of_eq_some hasToken⟩, hasToken⟩
  case geography =>
    refine (card_filter_eq_one geographies).mpr ?_
    rw [geographySks]
    have inAreas : (beneficiary.map Identity.area).getD ⟨none, none, none, none⟩ ∈
        layers.geographies := by
      simp only [Layers.geographies, Multiset.mem_dedup, Multiset.mem_add, Multiset.mem_singleton]
      cases beneficiary with
      | none => simp
      | some found =>
          exact .inl (.inl (.inl (Multiset.mem_map_of_mem _ (beneficiaryInSilver found rfl))))
    refine Multiset.mem_map.mpr ⟨_, inAreas, ?_⟩
    cases beneficiary <;> rfl

theorem closed_of_distinguishable (distinguishable : Distinguishable layers)
    (keyed : layers.VaultKeyed) : Closed md5 layers := by
  have agents : ((layers.gldDimPdmAgent md5).map AgentRow.agentSk).Nodup := by
    rw [agentSks, nodup_keys_iff injective layers.isKey_slvPdmAgents]
    exact distinguishable.agents
  have saccos : ((layers.gldDimPdmSacco md5).map SaccoRow.saccoSk).Nodup := by
    rw [saccoSks, nodup_keys_iff injective layers.isKey_slvPdmSaccos]
    exact distinguishable.saccos
  have beneficiaries :
      ((layers.gldDimPdmBeneficiary md5).map BeneficiaryRow.beneficiarySk).Nodup := by
    rw [beneficiarySks, nodup_keys_iff injective (Silver.isKey_slvPdmBeneficiaries keyed)]
    exact distinguishable.beneficiaries
  have geographies : ((layers.gldDimPdmGeography md5).map GeographyRow.geographySk).Nodup := by
    rw [geographySks]
    refine (Multiset.nodup_dedup _).map_on fun area member area' member' same => ?_
    exact distinguishable.areas area member area' member'
      (keyText_eq_iff.mp ((goldSurrogateKey_inj injective).mp same))
  refine ⟨nodup_dateSks injective layers, agents, saccos, beneficiaries, geographies, ?_, ?_⟩
  · intro row member row' member' same
    rw [Multiset.inj_on_of_nodup_map geographies row member row' member' same]
  · intro fact member
    exact keysFound_of_distinguishable injective distinguishable agents saccos beneficiaries
      geographies member

end Closure

/-- The star schema is closed exactly when its identifiers and areas are distinguishable and the
SACCO of each known transaction is registered. -/
theorem closed_iff {md5 : String → String} (injective : Function.Injective md5) {bronze : Bronze}
    (layers : Layers bronze) (keyed : layers.VaultKeyed) :
    Closed md5 layers ↔ Distinguishable layers :=
  ⟨distinguishable_of_closed injective keyed,
    fun distinguishable => closed_of_distinguishable injective distinguishable keyed⟩

theorem areas_of_plain {bronze : Bronze} {layers : Layers bronze}
    (plain : ∀ area ∈ layers.geographies, ∀ column ∈ Area.columns (some area), Plain column) :
    ∀ area ∈ layers.geographies, ∀ area' ∈ layers.geographies,
      RunTogether (Area.columns area) (Area.columns area') → area = area' := by
  intro area member area' member' together
  have same : Area.columns (some area) = Area.columns (some area') :=
    eq_of_runTogether together (plain area member) (plain area' member') rfl
  simp only [Area.columns, Option.bind_some, List.cons.injEq, and_true] at same
  obtain ⟨region, district, county, subCounty⟩ := same
  cases area
  cases area'
  simp_all

/-! ## A schema that is closed and one that is not -/

theorem oneTransfer_closed : ∃ layers : Layers oneTransfer, Closed id layers := by
  obtain ⟨layers⟩ := Layers.nonempty oneTransfer
  have noLoans : layers.slvPdmLoans = 0 := Silver.contents_kept_eq_zero layers.rankedLoans rfl
  have noAgents : layers.slvPdmAgents = 0 := Silver.contents_kept_eq_zero layers.rankedAgents rfl
  have noSaccos : layers.slvPdmSaccos = 0 := Silver.contents_kept_eq_zero layers.rankedSaccos rfl
  have nobody : layers.slvPdmBeneficiaries = 0 := by
    rw [Silver.slvPdmBeneficiaries, vault_eq_zero rfl, Multiset.filter_zero]
  have unassigned : ∀ payment ∈ oneTransfer.identifiedTransactions, payment.saccoId = none := by
    decide
  refine ⟨layers, (closed_iff Function.injective_id layers
    (vaultKeyed_of_unlinked rfl layers.toSilver)).mpr ⟨?_, ?_, ?_, ?_, ?_⟩⟩
  · simp [noAgents]
  · simp [noSaccos]
  · simp [nobody]
  · refine areas_of_plain fun area member column listed => ?_
    have nowhere : area = ⟨none, none, none, none⟩ := by
      simpa [Layers.geographies, noAgents, noSaccos, nobody] using member
    have missing : column = none := by
      simpa [nowhere, Area.columns] using listed
    subst missing
    exact ⟨by decide, by simp⟩
  · intro payment loan joined known saccoId named
    obtain ⟨inSilver, inPadded⟩ := mem_leftJoin.mp joined
    have ofPayment := unassigned payment
      (layers.slvPdmPaymentsTransactions.isFirsts.mem payment inSilver)
    simp only [noLoans, partners, Multiset.filter_zero, padded, Multiset.card_zero, if_true,
      Multiset.mem_singleton] at inPadded
    simp [paymentSacco, ofPayment, inPadded, coalesce] at named

/-- A wallet transaction of a SACCO that Bronze does not know. -/
def unregisteredSacco : Bronze where
  wendiTransactions := {{
    content :=
      { walletEventId := some "WALLET-1"
        loanId := none
        beneficiaryId := none
        saccoId := some "SACCO-1"
        eventTimestamp := none
        amount := some 100
        currency := some "UGX"
        transactionStatus := none
        wendiTransactionId := none
        agentId := none }
    delivery :=
      { eventId := "WALLET-1"
        kafkaTopic := "wendi.transactions"
        kafkaPartition := 0
        kafkaOffset := 0
        kafkaTimestamp := none } }}

theorem unregisteredSacco_not_closed :
    ¬ ∀ (md5 : String → String), Function.Injective md5 →
      ∀ (bronze : Bronze) (layers : Layers bronze), layers.VaultKeyed → Closed md5 layers := by
  intro always
  obtain ⟨layers⟩ := Layers.nonempty unregisteredSacco
  have keyed := vaultKeyed_of_unlinked (rfl : unregisteredSacco.beneficiaryTokenLink = 0)
    layers.toSilver
  have distinguishable := distinguishable_of_closed Function.injective_id keyed
    (always id Function.injective_id unregisteredSacco layers keyed)
  have identified : ∀ payment ∈ unregisteredSacco.identifiedTransactions,
      payment.transactionId.isSome ∧ payment.saccoId = some "SACCO-1" := by
    decide
  have stored : unregisteredSacco.identifiedTransactions ≠ 0 := by decide
  obtain ⟨row, inBronze⟩ := Multiset.exists_mem_of_ne_zero stored
  obtain ⟨payment, member, -⟩ := layers.slvPdmPaymentsTransactions.isFirsts.covers row inBronze
  obtain ⟨known, assigned⟩ :=
    identified payment (layers.slvPdmPaymentsTransactions.isFirsts.mem payment member)
  obtain ⟨loan, joined⟩ := exists_mem_leftJoin member layers.slvPdmLoans
    fun payment loan => equals payment.endToEndId loan.loanId
  have noSaccos : layers.slvPdmSaccos = 0 := Silver.contents_kept_eq_zero layers.rankedSaccos rfl
  have registered := distinguishable.registered payment loan joined known "SACCO-1"
    (by simp [paymentSacco, assigned, coalesce])
  simp [noSaccos, unknownMember] at registered

end PaymentsPlatform.Warehouse
