import PaymentsPlatform.Library.Fallible
import PaymentsPlatform.Library.Separated
import PaymentsPlatform.Mdm.Beneficiaries
import PaymentsPlatform.Mdm.Publisher

/-!
# Composite identities

A golden record id is the hash of a text, and a Kafka key is a text, in which several source values
stand between bars.  Two tuples of values make one text if they print alike, or if a value has a
bar itself and the tuple is cut elsewhere.
-/

namespace PaymentsPlatform.Mdm

open PaymentsPlatform.Library.Fallible
open Separated (pieces)

variable (runtime : Runtime)

/-- Different values with the same texts. -/
def PrintAlike (values others : List Json) : Prop :=
  values ≠ others ∧ values.map runtime.text = others.map runtime.text

/-- Different texts that bars cut into the same pieces. -/
def Straddle (texts others : List String) : Prop :=
  texts ≠ others ∧ pieces '|' (texts.map String.toList) = pieces '|' (others.map String.toList)

def Collides (values others : List Json) : Prop :=
  PrintAlike runtime values others ∨
    Straddle (values.map runtime.text) (others.map runtime.text)

/-- The source system and the source record id determine the golden id. -/
def GoldenIdsApart (domain : String) (source other : Json × Json) : Prop :=
  source ≠ other →
    stableGoldenId runtime domain (runtime.text source.1) (runtime.text source.2) ≠
      stableGoldenId runtime domain (runtime.text other.1) (runtime.text other.2)

/-- The truncated hash tells the two texts apart. -/
def HashesApart (domain : String) (source other : Json × Json) : Prop :=
  runtime.digest (goldenText domain (runtime.text source.1) (runtime.text source.2)) =
      runtime.digest (goldenText domain (runtime.text other.1) (runtime.text other.2)) →
    goldenText domain (runtime.text source.1) (runtime.text source.2) =
      goldenText domain (runtime.text other.1) (runtime.text other.2)

def keyValues (spec : Spec) (record : Row) : List Json := spec.key.fields.map (Json.get record)

/-- The records agree in the key fields. -/
def AgreeOnKey (spec : Spec) (record other : Row) : Prop :=
  ∀ field ∈ spec.key.fields, Json.get record field = Json.get other field

/-- No record is lost for one that differs in a key field. -/
def KeepsRecords (spec : Spec) (items : List Item) : Prop :=
  ∀ item ∈ items, ∃ kept ∈ compacted items, AgreeOnKey spec kept.record item.record

/-! ## Tuples of values -/

section Tuples

variable {runtime} {values others : List Json}

theorem pieces_eq_iff :
    pieces '|' ((values.map runtime.text).map String.toList) =
        pieces '|' ((others.map runtime.text).map String.toList) ↔
      values = others ∨ Collides runtime values others := by
  constructor
  · intro same
    by_cases sameTexts : values.map runtime.text = others.map runtime.text
    · by_cases sameValues : values = others
      · exact .inl sameValues
      · exact .inr (.inl ⟨sameValues, sameTexts⟩)
    · exact .inr (.inr ⟨sameTexts, same⟩)
  · rintro (rfl | ⟨-, sameTexts⟩ | ⟨-, same⟩)
    · rfl
    · rw [sameTexts]
    · exact same

theorem Collides.ne (collides : Collides runtime values others) : values ≠ others := by
  rintro rfl
  rcases collides with ⟨different, -⟩ | ⟨different, -⟩
  · exact different rfl
  · exact different rfl

theorem apart_iff {same : Prop} (read : same ↔ values = others ∨ Collides runtime values others) :
    (values ≠ others → ¬ same) ↔ ¬ Collides runtime values others := by
  constructor
  · intro apart collides
    exact apart collides.ne (read.mpr (.inr collides))
  · intro free different isSame
    rcases read.mp isSame with equal | collides
    · exact different equal
    · exact free collides

theorem not_collides_of_plain {texts otherTexts : List String}
    (plain : ∀ text ∈ texts, '|' ∉ text.toList)
    (plainOthers : ∀ text ∈ otherTexts, '|' ∉ text.toList) :
    ¬ Collides runtime (texts.map .string) (otherTexts.map .string) := by
  have printed (texts : List String) : (texts.map Json.string).map runtime.text = texts := by
    rw [List.map_map]
    exact List.map_id texts
  rintro (⟨different, same⟩ | ⟨different, same⟩)
  · rw [printed, printed] at same
    exact different (congrArg _ same)
  · rw [printed, printed] at different same
    rw [Separated.pieces_of_notMem (by simpa using plain),
      Separated.pieces_of_notMem (by simpa using plainOthers)] at same
    exact different (List.map_injective_iff.mpr (fun _ _ => String.toList_inj.mp) same)

end Tuples

/-! ## Golden record ids -/

section GoldenIds

variable {runtime} {domain : String}

theorem goldenText_eq_iff {system recordId otherSystem otherId : String} :
    goldenText domain system recordId = goldenText domain otherSystem otherId ↔
      pieces '|' [system.toList, recordId.toList] =
        pieces '|' [otherSystem.toList, otherId.toList] := by
  have joined (system recordId : String) : (goldenText domain system recordId).toList =
      ['|'].intercalate ["pdm-mdm".toList, domain.toList, system.toList, recordId.toList] := by
    simp [goldenText, List.intercalate]
  rw [← String.toList_inj, joined, joined,
    Separated.intercalate_eq_iff (List.cons_ne_nil _ _) (List.cons_ne_nil _ _)]
  simp only [pieces, List.flatMap_cons, List.append_cancel_left_eq]

theorem stableGoldenId_eq_iff {source other : Json × Json}
    (known : domain ∈ goldenPrefixes.map Prod.fst)
    (hashes : HashesApart runtime domain source other) :
    stableGoldenId runtime domain (runtime.text source.1) (runtime.text source.2) =
        stableGoldenId runtime domain (runtime.text other.1) (runtime.text other.2) ↔
      [source.1, source.2] = [other.1, other.2] ∨
        Collides runtime [source.1, source.2] [other.1, other.2] := by
  rw [← pieces_eq_iff]
  simp only [List.map_cons, List.map_nil]
  rw [← @goldenText_eq_iff domain]
  obtain ⟨goldenPrefix, isPrefix⟩ : ∃ goldenPrefix, goldenPrefixes.lookup domain =
      some goldenPrefix := by
    simp only [goldenPrefixes, List.map_cons, List.map_nil, List.mem_cons, List.not_mem_nil,
      or_false] at known
    rcases known with rfl | rfl | rfl | rfl <;> exact ⟨_, rfl⟩
  simp only [stableGoldenId, isPrefix, Except.ok.injEq]
  constructor
  · intro same
    apply hashes
    rw [← String.toList_inj] at same ⊢
    simpa using same
  · intro same
    rw [same]

theorem goldenIdsApart_iff {source other : Json × Json}
    (known : domain ∈ goldenPrefixes.map Prod.fst)
    (hashes : HashesApart runtime domain source other) :
    GoldenIdsApart runtime domain source other ↔
      ¬ Collides runtime [source.1, source.2] [other.1, other.2] := by
  rw [← apart_iff (stableGoldenId_eq_iff known hashes)]
  obtain ⟨system, recordId⟩ := source
  obtain ⟨otherSystem, otherId⟩ := other
  simp [GoldenIdsApart]

end GoldenIds

/-! ## Kafka keys -/

section Keys

variable {runtime} {spec : Spec} {record other : Row} {key otherKey : String}

theorem mapM_keyValue {fields values : List String}
    (read : fields.mapM (keyValue runtime record) = .ok values) :
    values = fields.map fun field => runtime.text (Json.get record field) := by
  induction fields generalizing values with
  | nil =>
      cases read
      rfl
  | cons field rest ih =>
      rw [List.mapM_cons] at read
      obtain ⟨value, isValue, read⟩ := bind_ok read
      obtain ⟨later, others, read⟩ := bind_ok read
      cases read
      rw [keyValue] at isValue
      split at isValue
      next => cases isValue
      next =>
        cases isValue
        rw [ih others]
        rfl

theorem stableKey_eq (built : stableKey runtime spec record = .ok key) :
    key = "|".intercalate ((keyValues spec record).map runtime.text) := by
  obtain ⟨values, read, joined⟩ := bind_ok built
  cases joined
  rw [mapM_keyValue read, keyValues, List.map_map]
  rfl

theorem keyValues_eq_iff :
    keyValues spec record = keyValues spec other ↔ AgreeOnKey spec record other :=
  List.map_inj_left

theorem key_eq_iff (several : spec.key.fields ≠ []) (built : stableKey runtime spec record = .ok key)
    (builtOther : stableKey runtime spec other = .ok otherKey) :
    key = otherKey ↔ keyValues spec record = keyValues spec other ∨
      Collides runtime (keyValues spec record) (keyValues spec other) := by
  have nonempty (record : Row) :
      ((keyValues spec record).map runtime.text).map String.toList ≠ [] := by
    simpa [keyValues] using several
  rw [← pieces_eq_iff, ← Separated.intercalate_eq_iff (nonempty record) (nonempty other),
    stableKey_eq built, stableKey_eq builtOther, ← String.toList_inj, String.toList_intercalate,
    String.toList_intercalate]
  rfl

theorem keysApart_iff (several : spec.key.fields ≠ [])
    (built : stableKey runtime spec record = .ok key)
    (builtOther : stableKey runtime spec other = .ok otherKey) :
    (¬ AgreeOnKey spec record other → key ≠ otherKey) ↔
      ¬ Collides runtime (keyValues spec record) (keyValues spec other) := by
  rw [← apart_iff (key_eq_iff several built builtOther), ← keyValues_eq_iff]

end Keys

/-! ## Compaction -/

theorem compacted_subset (items : List Item) : compacted items ⊆ items := by
  induction items with
  | nil => exact List.Subset.refl _
  | cons item rest ih =>
      rw [compacted]
      split
      next => exact fun other kept => List.mem_cons_of_mem item (ih kept)
      next => exact List.cons_subset_cons item ih

theorem exists_mem_compacted {items : List Item} {item : Item} (listed : item ∈ items) :
    ∃ kept ∈ compacted items, kept.topic = item.topic ∧ kept.key = item.key := by
  induction items generalizing item with
  | nil => cases listed
  | cons head rest ih =>
      rw [compacted]
      split
      next replaced =>
        rcases List.mem_cons.mp listed with rfl | later
        · obtain ⟨other, isLater, same⟩ := List.any_eq_true.mp replaced
          have same : other.topic = item.topic ∧ other.key = item.key := by simpa using same
          obtain ⟨kept, isKept, topic, key⟩ := ih isLater
          exact ⟨kept, isKept, topic.trans same.1, key.trans same.2⟩
        · exact ih later
      next =>
        rcases List.mem_cons.mp listed with rfl | later
        · exact ⟨item, List.mem_cons_self, rfl, rfl⟩
        · obtain ⟨kept, isKept, same⟩ := ih later
          exact ⟨kept, List.mem_cons_of_mem head isKept, same⟩

theorem eq_of_mem_compacted {items : List Item} {kept other : Item} (isKept : kept ∈ compacted items)
    (isOther : other ∈ compacted items) (topic : kept.topic = other.topic)
    (key : kept.key = other.key) : kept = other := by
  induction items with
  | nil => cases isKept
  | cons head rest ih =>
      rw [compacted] at isKept isOther
      split at isKept
      next replaced =>
        rw [if_pos replaced] at isOther
        exact ih isKept isOther
      next last =>
        rw [if_neg last] at isOther
        have later : ∀ item ∈ compacted rest, item.topic = head.topic → item.key ≠ head.key := by
          intro item isItem sameTopic sameKey
          apply last
          exact List.any_eq_true.mpr ⟨item, compacted_subset rest isItem, by simp [sameTopic, sameKey]⟩
        rcases List.mem_cons.mp isKept with rfl | keptLater <;>
          rcases List.mem_cons.mp isOther with rfl | otherLater
        · rfl
        · exact absurd key.symm (later other otherLater topic.symm)
        · exact absurd key (later kept keptLater topic)
        · exact ih keptLater otherLater

section Plans

variable {runtime} {contracts : Contracts} {authority : String} {spec : Spec} {items : List Item}

theorem planSpec_item (planned : planSpec runtime contracts authority spec = .ok items) :
    ∀ item ∈ items, item.topic = spec.topic ∧ stableKey runtime spec item.record = .ok item.key ∧
      contracts.policies.lookup spec.topic = some authority ∧ spec.authority = authority ∧
        ∃ rows, contracts.loadJson spec.file = .ok rows ∧ item.record ∈ rows := by
  intro item listed
  unfold planSpec at planned
  split at planned
  next => cases planned
  next expected isPolicy =>
    split at planned
    next =>
      cases planned
      cases listed
    next own =>
      obtain ⟨_, valid, planned⟩ := bind_ok planned
      obtain ⟨rows, loaded, planned⟩ := bind_ok planned
      obtain ⟨row, isRow, isItem⟩ := exists_of_mem_mapM planned listed
      obtain ⟨key, built, isItem⟩ := bind_ok isItem
      cases isItem
      have isAuthority : expected = authority := by
        unfold validateAuthority at valid
        split at valid
        next => cases valid
        next same => exact (not_not.mp same).symm.trans (not_not.mp own)
      exact ⟨rfl, built, isPolicy.trans (congrArg some isAuthority), not_not.mp own, rows, loaded,
        isRow⟩

theorem keepsRecords_iff (several : spec.key.fields ≠ [])
    (planned : planSpec runtime contracts authority spec = .ok items) :
    KeepsRecords spec items ↔ ∀ item ∈ items, ∀ other ∈ items,
      ¬ Collides runtime (keyValues spec item.record) (keyValues spec other.record) := by
  have each (item : Item) (listed : item ∈ items) :=
    (planSpec_item planned item listed).imp_right And.left
  -- The key of a record is a function of its key fields.
  have keyed {item other : Item} (isItem : item ∈ items) (isOther : other ∈ items)
      (agree : AgreeOnKey spec item.record other.record) : item.key = other.key :=
    (key_eq_iff several (each item isItem).2 (each other isOther).2).mpr
      (.inl (keyValues_eq_iff.mpr agree))
  constructor
  · intro keeps item isItem other isOther collides
    obtain ⟨kept, isKept, agree⟩ := keeps item isItem
    obtain ⟨keptOther, isKeptOther, agreeOther⟩ := keeps other isOther
    have inItems := compacted_subset items isKept
    have inItemsOther := compacted_subset items isKeptOther
    have sameKey : kept.key = keptOther.key := by
      rw [keyed inItems isItem agree, keyed inItemsOther isOther agreeOther]
      exact (key_eq_iff several (each item isItem).2 (each other isOther).2).mpr (.inr collides)
    have sameTopic : kept.topic = keptOther.topic := by
      rw [(each kept inItems).1, (each keptOther inItemsOther).1]
    obtain rfl := eq_of_mem_compacted isKept isKeptOther sameTopic sameKey
    apply collides.ne
    rw [← keyValues_eq_iff.mpr agree, keyValues_eq_iff.mpr agreeOther]
  · intro free item isItem
    obtain ⟨kept, isKept, -, sameKey⟩ := exists_mem_compacted isItem
    have inItems := compacted_subset items isKept
    refine ⟨kept, isKept, keyValues_eq_iff.mp ?_⟩
    rcases (key_eq_iff several (each kept inItems).2 (each item isItem).2).mp sameKey with
      equal | collides
    · exact equal
    · exact absurd collides (free kept inItems item isItem)

end Plans

/-! ## Both identities -/

/-- Golden ids and Kafka keys tell records apart, and compaction keeps them, exactly where no two
tuples of values print alike or straddle a bar. -/
theorem compositeIdentities_iff (runtime : Runtime) :
    (∀ domain ∈ goldenPrefixes.map Prod.fst, ∀ source other : Json × Json,
      HashesApart runtime domain source other →
        (GoldenIdsApart runtime domain source other ↔
          ¬ Collides runtime [source.1, source.2] [other.1, other.2])) ∧
    (∀ spec : Spec, spec.key.fields ≠ [] → ∀ (record other : Row) (key otherKey : String),
      stableKey runtime spec record = .ok key → stableKey runtime spec other = .ok otherKey →
        ((¬ AgreeOnKey spec record other → key ≠ otherKey) ↔
          ¬ Collides runtime (keyValues spec record) (keyValues spec other))) ∧
    ∀ (contracts : Contracts) (authority : String) (spec : Spec) (items : List Item),
      spec.key.fields ≠ [] → planSpec runtime contracts authority spec = .ok items →
        (KeepsRecords spec items ↔ ∀ item ∈ items, ∀ other ∈ items,
          ¬ Collides runtime (keyValues spec item.record) (keyValues spec other.record)) :=
  ⟨fun _ known _ _ hashes => goldenIdsApart_iff known hashes,
    fun _ several _ _ _ _ built builtOther => keysApart_iff several built builtOther,
    fun _ _ _ _ several planned => keepsRecords_iff several planned⟩

/-! ## Source keys with a bar -/

/-- The registered specification of the crosswalk. -/
def crosswalkSpec : Spec where
  file := "data/mdm/source_crosswalk.json"
  topic := "mdm.crosswalk.restricted"
  key := .keyFields ["master_domain", "source_system", "source_record_id"]
  authority := "restricted_identity"

def crosswalkRow (source : String × String) : Row :=
  [("master_domain", .string "beneficiary"), ("source_system", .string source.1),
    ("source_record_id", .string source.2)]

/-- The hashes of two golden texts. -/
def hashingRuntime : Runtime :=
  { sampleRuntime with
    sha256 := fun text =>
      if text = "pdm-mdm|beneficiary|pdmis|BEN-0001" then
        "cef9de5ced4675c2b6fee23a7f998a2a7533843b280045e8e6e5fb9395d95e95"
      else "601eef5c4bd88413b93b5645efd09a2a31f1fe3e1e4f7dde19758cd697c69fb9" }

theorem stableKey_crosswalkRow (runtime : Runtime) {system recordId : String}
    (named : system ≠ "") (numbered : recordId ≠ "") :
    stableKey runtime crosswalkSpec (crosswalkRow (system, recordId)) =
      .ok ("|".intercalate ["beneficiary", system, recordId]) := by
  have domain : keyValue runtime (crosswalkRow (system, recordId)) "master_domain" =
      .ok "beneficiary" := by
    simp [keyValue, isMissing, crosswalkRow, Json.get, Json.isNull, Runtime.text]
  have source : keyValue runtime (crosswalkRow (system, recordId)) "source_system" =
      .ok system := by
    simp [keyValue, isMissing, crosswalkRow, Json.get, Json.isNull, Runtime.text, List.lookup_cons, named]
  have number : keyValue runtime (crosswalkRow (system, recordId)) "source_record_id" =
      .ok recordId := by
    simp [keyValue, isMissing, crosswalkRow, Json.get, Json.isNull, Runtime.text, List.lookup_cons,
      numbered]
  simp only [stableKey, crosswalkSpec, KeySpec.fields, List.mapM_cons, List.mapM_nil, domain, source,
    number, bind, Except.bind, pure, Except.pure]

/-- A file with two records. -/
def twoRecords : Contracts where
  registry := [crosswalkSpec]
  policies := [(crosswalkSpec.topic, crosswalkSpec.authority)]
  loadJson _ := .ok [crosswalkRow ("pdmis", "BEN-0001"), crosswalkRow ("pdmis", "BEN-0002")]

def twoItems : List Item :=
  [⟨crosswalkSpec.topic, "beneficiary|pdmis|BEN-0001", crosswalkRow ("pdmis", "BEN-0001")⟩,
    ⟨crosswalkSpec.topic, "beneficiary|pdmis|BEN-0002", crosswalkRow ("pdmis", "BEN-0002")⟩]

theorem planSpec_twoRecords :
    planSpec hashingRuntime twoRecords crosswalkSpec.authority crosswalkSpec = .ok twoItems := by
  have first := @stableKey_crosswalkRow hashingRuntime "pdmis" "BEN-0001" (by decide) (by decide)
  have second := @stableKey_crosswalkRow hashingRuntime "pdmis" "BEN-0002" (by decide) (by decide)
  simp only [planSpec, ne_eq, not_true_eq_false, if_false, validateAuthority, twoRecords, planItem,
    List.mapM_cons, List.mapM_nil, first, second, bind, Except.bind, pure, Except.pure]
  rfl

theorem plainSources_apart :
    GoldenIdsApart hashingRuntime "beneficiary" (.string "pdmis", .string "BEN-0001")
        (.string "pdmis", .string "BEN-0002") ∧
      (¬ AgreeOnKey crosswalkSpec (crosswalkRow ("pdmis", "BEN-0001"))
          (crosswalkRow ("pdmis", "BEN-0002")) →
        "|".intercalate ["beneficiary", "pdmis", "BEN-0001"] ≠
          "|".intercalate ["beneficiary", "pdmis", "BEN-0002"]) ∧
      KeepsRecords crosswalkSpec twoItems := by
  have identities := compositeIdentities_iff hashingRuntime
  have hashes : HashesApart hashingRuntime "beneficiary" (.string "pdmis", .string "BEN-0001")
      (.string "pdmis", .string "BEN-0002") := by
    intro same
    exact absurd same (by decide +kernel)
  refine ⟨?_, ?_, ?_⟩
  · apply (identities.1 "beneficiary" (by decide) _ _ hashes).mpr
    exact @not_collides_of_plain _ ["pdmis", "BEN-0001"] ["pdmis", "BEN-0002"] (by decide)
      (by decide)
  · apply (identities.2.1 crosswalkSpec (by decide) _ _ _ _
      (stableKey_crosswalkRow _ (by decide) (by decide))
      (stableKey_crosswalkRow _ (by decide) (by decide))).mpr
    exact @not_collides_of_plain _ ["beneficiary", "pdmis", "BEN-0001"]
      ["beneficiary", "pdmis", "BEN-0002"] (by decide) (by decide)
  · apply (identities.2.2 twoRecords crosswalkSpec.authority crosswalkSpec twoItems (by decide)
      planSpec_twoRecords).mpr
    intro item isItem other isOther
    have values (item : Item) (isItem : item ∈ twoItems) : ∃ recordId : String,
        keyValues crosswalkSpec item.record =
          ["beneficiary", "pdmis", recordId].map Json.string ∧ '|' ∉ recordId.toList := by
      rcases List.mem_pair.mp isItem with rfl | rfl
      · exact ⟨"BEN-0001", rfl, by decide⟩
      · exact ⟨"BEN-0002", rfl, by decide⟩
    obtain ⟨recordId, isValues, plain⟩ := values item isItem
    obtain ⟨otherId, isOtherValues, plainOther⟩ := values other isOther
    rw [isValues, isOtherValues]
    exact not_collides_of_plain (by simpa using plain) (by simpa using plainOther)

/-- A bar in the source system or in the record id leaves open where the one ends. -/
theorem barredSources_collide :
    HashesApart sampleRuntime "beneficiary" (.string "pdmis|x", .string "1")
        (.string "pdmis", .string "x|1") ∧
      ¬ GoldenIdsApart sampleRuntime "beneficiary" (.string "pdmis|x", .string "1")
        (.string "pdmis", .string "x|1") ∧
      ¬ AgreeOnKey crosswalkSpec (crosswalkRow ("pdmis|x", "1")) (crosswalkRow ("pdmis", "x|1")) ∧
      ∃ key, stableKey sampleRuntime crosswalkSpec (crosswalkRow ("pdmis|x", "1")) = .ok key ∧
        stableKey sampleRuntime crosswalkSpec (crosswalkRow ("pdmis", "x|1")) = .ok key := by
  refine ⟨fun _ => rfl, ?_, ?_, ?_⟩
  · intro apart
    have different : ((.string "pdmis|x", .string "1") : Json × Json) ≠
        (.string "pdmis", .string "x|1") := by simp
    exact apart different rfl
  · intro agree
    exact absurd (agree "source_system" (by decide)) (by simp [crosswalkRow, Json.get, List.lookup_cons])
  · exact ⟨_, stableKey_crosswalkRow _ (by decide) (by decide),
      stableKey_crosswalkRow _ (by decide) (by decide)⟩

end PaymentsPlatform.Mdm
