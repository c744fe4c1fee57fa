import PaymentsPlatform.AgentApi.Knowledge

/-!
# What a query can tell

An identity sees no difference between two sequences of documents that differ in documents it may
not see, as long as these share neither a document id nor a chunk id with one that it may see:
ingesting again under a document id replaces the version before (`retrieval_noninterference`).
-/

namespace PaymentsPlatform.AgentApi.Knowledge

open LocalKnowledgeRetriever

/-- The second sequence leaves out some documents that the identity may not see, and has other
content for some others. -/
inductive Altered (identity : IdentityContext) :
    List KnowledgeDocument → List KnowledgeDocument → Prop where
  | nil : Altered identity [] []
  | same {document history altered} : Altered identity history altered →
      Altered identity (document :: history) (document :: altered)
  | removed {document history altered} : allowed identity document.metadata = false →
      Altered identity history altered → Altered identity (document :: history) altered
  | changed {document history altered} {content : String} :
      allowed identity document.metadata = false → Altered identity history altered →
      Altered identity (document :: history) ({ document with content := content } :: altered)

variable (retriever : LocalKnowledgeRetriever)

/-- Two documents that get in each other's way neither by their ids nor by those of their
chunks. -/
structure Apart (first second : KnowledgeDocument) : Prop where
  documentId : retriever.documentId first ≠ retriever.documentId second
  chunkId : ∀ chunk ∈ retriever.chunksOf first, ∀ other ∈ retriever.chunksOf second,
    chunk.chunkId ≠ other.chunkId

/-- No document that the identity may not see gets in the way of one that it may see. -/
def Undisturbed (identity : IdentityContext) (history : List KnowledgeDocument) : Prop :=
  ∀ document ∈ history, ∀ other ∈ history, allowed identity document.metadata = true →
    allowed identity other.metadata = false → Apart retriever document other

/-- The document and the position of a chunk. -/
def KnowledgeChunk.place (chunk : KnowledgeChunk) : String × Nat := (chunk.documentId, chunk.ordinal)

variable {retriever} {identity : IdentityContext} {history altered : List KnowledgeDocument}
  {document : KnowledgeDocument} {chunks : Chunks} {query : KnowledgeQuery}

/-! ## Chunks of a document -/

theorem documentId_of_mem {chunk : KnowledgeChunk} (listed : chunk ∈ retriever.chunksOf document) :
    chunk.documentId = retriever.documentId document := by
  obtain ⟨entry, -, rfl⟩ := List.mem_map.mp listed
  rfl

theorem allowed_of_mem {chunk : KnowledgeChunk} (listed : chunk ∈ retriever.chunksOf document) :
    allowed identity chunk.metadata = allowed identity document.metadata := by
  obtain ⟨entry, -, rfl⟩ := List.mem_map.mp listed
  rfl

theorem nodup_places (retriever : LocalKnowledgeRetriever) (document : KnowledgeDocument) :
    ((retriever.chunksOf document).map KnowledgeChunk.place).Nodup := by
  have ordinals : ((retriever.chunksOf document).map KnowledgeChunk.ordinal).Nodup := by
    unfold chunksOf
    rw [List.map_map]
    change ((List.zipIdx _).map Prod.snd).Nodup
    rw [List.zipIdx_map_snd]
    exact List.nodup_range'
  apply List.Nodup.of_map Prod.snd
  rw [List.map_map]
  exact ordinals

/-- The chunks of a document by their ids. -/
def own (retriever : LocalKnowledgeRetriever) (document : KnowledgeDocument) : Chunks :=
  .ofList ((retriever.chunksOf document).map fun chunk => (chunk.chunkId, chunk))

theorem get?_own {key : String} {chunk : KnowledgeChunk}
    (found : (own retriever document).get? key = some chunk) :
    chunk ∈ retriever.chunksOf document ∧ chunk.chunkId = key := by
  obtain ⟨listed, isListed, same⟩ := List.mem_map.mp (Dict.mem_of_get?_ofList found)
  cases same
  exact ⟨isListed, rfl⟩

theorem get?_ingest (key : String) : (retriever.ingest chunks document).get? key =
    ((own retriever document).get? key).or
      ((chunks.get? key).filter fun chunk =>
        chunk.documentId ≠ retriever.documentId document) := by
  have folded := @Dict.get?_foldl_set _ _ _
    ((retriever.chunksOf document).map fun chunk => (chunk.chunkId, chunk))
    (chunks.filter fun _ chunk => chunk.documentId ≠ retriever.documentId document) key
  rw [List.foldl_map] at folded
  rw [own, Dict.get?_ofList]
  rw [Dict.get?_filter] at folded
  exact folded

@[simp]
theorem ingestAll_nil : retriever.ingestAll [] = .empty := rfl

theorem ingestAll_concat (history : List KnowledgeDocument) (document : KnowledgeDocument) :
    retriever.ingestAll (history ++ [document]) =
      retriever.ingest (retriever.ingestAll history) document := by
  simp only [ingestAll, List.foldl_append, List.foldl_cons, List.foldl_nil]

theorem origin {key : String} {chunk : KnowledgeChunk}
    (found : (retriever.ingestAll history).get? key = some chunk) :
    ∃ document ∈ history, chunk ∈ retriever.chunksOf document ∧ chunk.chunkId = key := by
  induction history using List.reverseRecOn with
  | nil => simp at found
  | append_singleton past document ih =>
      rw [ingestAll_concat, get?_ingest, Option.or_eq_some_iff] at found
      rcases found with
        isOwn | ⟨-, before⟩
      · exact ⟨document, List.mem_append_right _ (List.mem_singleton.mpr rfl), get?_own isOwn⟩
      · obtain ⟨before, -⟩ := Option.filter_eq_some_iff.mp before
        obtain ⟨other, listed, isChunk⟩ := ih before
        exact ⟨other, List.mem_append_left _ listed, isChunk⟩

/-! ## Places -/

/-- No two chunks have the same place. -/
def Placed (chunks : Chunks) : Prop :=
  ∀ key chunk other placed, chunks.get? key = some chunk → chunks.get? other = some placed →
    chunk.place = placed.place → key = other

theorem placed_foldl {added : List KnowledgeChunk} (distinct : (added.map KnowledgeChunk.place).Nodup)
    (fresh : ∀ key chunk, chunks.get? key = some chunk → chunk.place ∉ added.map KnowledgeChunk.place)
    (placed : Placed chunks) :
    Placed (added.foldl (fun chunks chunk => chunks.set chunk.chunkId chunk) chunks) := by
  induction added generalizing chunks with
  | nil => exact placed
  | cons chunk rest ih =>
      obtain ⟨new, restDistinct⟩ := List.nodup_cons.mp distinct
      have elsewhere : ∀ key known, chunks.get? key = some known →
          known.place ≠ chunk.place ∧ known.place ∉ rest.map KnowledgeChunk.place := by
        intro key known found
        have notAdded := fresh key known found
        rw [List.map_cons, List.mem_cons, not_or] at notAdded
        exact notAdded
      apply ih restDistinct
      · intro key known found
        rw [Dict.get?_set] at found
        split at found
        next =>
          cases found
          exact new
        next => exact (elsewhere key known found).2
      · intro key known other second found second_found same
        rw [Dict.get?_set] at found second_found
        split at found <;> split at second_found
        next first second => rw [← first, ← second]
        next =>
          cases found
          exact absurd same.symm (elsewhere other second second_found).1
        next =>
          cases second_found
          exact absurd same (elsewhere key known found).1
        next => exact placed key known other second found second_found same

theorem placed_ingestAll (history : List KnowledgeDocument) :
    Placed (retriever.ingestAll history) := by
  induction history using List.reverseRecOn with
  | nil =>
      intro key chunk other placed found
      simp at found
  | append_singleton past document ih =>
      rw [ingestAll_concat, ingest]
      apply placed_foldl (nodup_places retriever document)
      · intro key chunk found listed
        rw [Dict.get?_filter, Option.filter_eq_some_iff] at found
        obtain ⟨added, isAdded, same⟩ := List.mem_map.mp listed
        apply of_decide_eq_true found.2
        rw [← documentId_of_mem isAdded]
        exact (congrArg Prod.fst same).symm
      · intro key chunk other placed found second
        rw [Dict.get?_filter, Option.filter_eq_some_iff] at found second
        exact ih key chunk other placed found.1 second.1

theorem nodup_values_place (placed : Placed chunks) :
    (chunks.values.map KnowledgeChunk.place).Nodup := by
  rw [Dict.values, List.map_map]
  apply List.Nodup.map_on
  · rintro ⟨key, chunk⟩ listed ⟨other, known⟩ isListed same
    have found := Dict.mem_items.mp listed
    have isFound := Dict.mem_items.mp isListed
    have sameKey := placed key chunk other known found isFound same
    subst sameKey
    rw [found] at isFound
    cases isFound
    rfl
  · exact chunks.distinct.of_map

theorem nodup_rankingKeys (placed : Placed chunks) :
    ((ranked chunks query).map (rankingKey query)).Nodup := by
  have places : ((ranked chunks query).map KnowledgeChunk.place).Nodup :=
    (nodup_values_place placed).sublist (List.filter_sublist.map _)
  apply List.Nodup.of_map (fun key => (ofLex (ofLex key).2 : String × ℕ))
  rw [List.map_map]
  exact places

theorem insertionSort_eq_of_perm {α β : Type} [LinearOrder β] {key : α → β} {first second : List α}
    (perm : first.Perm second) (distinct : (first.map key).Nodup) :
    first.insertionSort (fun a b => key a ≤ key b) =
      second.insertionSort (fun a b => key a ≤ key b) := by
  have total : Std.Total fun a b : α => key a ≤ key b := ⟨fun a b => le_total (key a) (key b)⟩
  have transitive : IsTrans α fun a b => key a ≤ key b := ⟨fun _ _ _ => le_trans⟩
  apply @List.Perm.eq_of_pairwise α fun a b => key a ≤ key b
  · intro a b isFirst isSecond below above
    have inFirst : b ∈ first := perm.mem_iff.mpr ((List.mem_insertionSort _).mp isSecond)
    exact List.inj_on_of_nodup_map distinct ((List.mem_insertionSort _).mp isFirst) inFirst
      (le_antisymm below above)
  · exact List.pairwise_insertionSort _ first
  · exact List.pairwise_insertionSort _ second
  · exact (List.perm_insertionSort _ first).trans
      (perm.trans (List.perm_insertionSort _ second).symm)

/-! ## What the identity may see -/

/-- The chunks that the identity may see. -/
def visible (identity : IdentityContext) (chunks : Chunks) : Chunks :=
  chunks.filter fun _ chunk => allowed identity chunk.metadata

theorem ranked_visible (chunks : Chunks) (query : KnowledgeQuery) :
    ranked (visible query.userContext chunks) query = ranked chunks query := by
  unfold ranked visible
  rw [Dict.values_filter, List.filter_filter]
  apply List.filter_congr
  intro chunk _
  cases allowed query.userContext chunk.metadata <;> simp

theorem retrieve_of_visible {other : Chunks}
    (same : visible query.userContext chunks = visible query.userContext other) :
    retrieve chunks query = retrieve other query := by
  unfold retrieve
  rw [← ranked_visible chunks, ← ranked_visible other, same]

theorem visible_foldl_set {added : List KnowledgeChunk}
    (mayBeSeen : ∀ chunk ∈ added, allowed identity chunk.metadata = true)
    (before : ∀ chunk ∈ added, ∀ old, chunks.get? chunk.chunkId = some old →
      allowed identity old.metadata = true) :
    visible identity (added.foldl (fun chunks chunk => chunks.set chunk.chunkId chunk) chunks) =
      added.foldl (fun chunks chunk => chunks.set chunk.chunkId chunk) (visible identity chunks) := by
  induction added generalizing chunks with
  | nil => rfl
  | cons chunk rest ih =>
      have chunkSeen := mayBeSeen chunk List.mem_cons_self
      rw [List.foldl_cons, List.foldl_cons, ih]
      · congr 1
        exact Dict.filter_set_of_kept chunkSeen (before chunk List.mem_cons_self)
      · exact fun other listed => mayBeSeen other (List.mem_cons_of_mem _ listed)
      · intro other listed old found
        rw [Dict.get?_set] at found
        split at found
        next =>
          cases found
          exact chunkSeen
        next => exact before other (List.mem_cons_of_mem _ listed) old found

theorem visible_foldl_hidden {added : List KnowledgeChunk}
    (hidden : ∀ chunk ∈ added, allowed identity chunk.metadata = false)
    (before : ∀ chunk ∈ added, ∀ old, chunks.get? chunk.chunkId = some old →
      allowed identity old.metadata = false) :
    visible identity (added.foldl (fun chunks chunk => chunks.set chunk.chunkId chunk) chunks) =
      visible identity chunks := by
  induction added generalizing chunks with
  | nil => rfl
  | cons chunk rest ih =>
      have chunkHidden := hidden chunk List.mem_cons_self
      rw [List.foldl_cons, ih]
      · exact Dict.filter_set_of_dropped chunkHidden (before chunk List.mem_cons_self)
      · exact fun other listed => hidden other (List.mem_cons_of_mem _ listed)
      · intro other listed old found
        rw [Dict.get?_set] at found
        split at found
        next =>
          cases found
          exact chunkHidden
        next => exact before other (List.mem_cons_of_mem _ listed) old found

section Visible

variable {past : List KnowledgeDocument}

theorem visible_ingest (mayBeSeen : allowed identity document.metadata = true)
    (apart : ∀ other ∈ past, allowed identity other.metadata = false →
      Apart retriever document other) :
    visible identity (retriever.ingest (retriever.ingestAll past) document) =
      retriever.ingest (visible identity (retriever.ingestAll past)) document := by
  unfold ingest
  rw [visible_foldl_set]
  · congr 1
    exact Dict.filter_comm _
  · exact fun chunk listed => (allowed_of_mem listed).trans mayBeSeen
  · intro chunk listed old found
    rw [Dict.get?_filter, Option.filter_eq_some_iff] at found
    obtain ⟨other, isPast, isChunk, sameId⟩ := origin found.1
    rw [allowed_of_mem isChunk]
    by_contra isHidden
    exact (apart other isPast (Bool.eq_false_iff.mpr isHidden)).chunkId chunk listed old isChunk
      sameId.symm

theorem visible_ingest_hidden (hidden : allowed identity document.metadata = false)
    (apart : ∀ other ∈ past, allowed identity other.metadata = true →
      Apart retriever other document) :
    visible identity (retriever.ingest (retriever.ingestAll past) document) =
      visible identity (retriever.ingestAll past) := by
  unfold ingest
  rw [visible_foldl_hidden]
  · unfold visible
    apply Dict.ext
    simp only [Dict.filter]
    rw [List.filter_filter]
    apply List.filter_congr
    rintro ⟨key, chunk⟩ listed
    obtain ⟨other, isPast, isChunk, -⟩ := origin (Dict.mem_items.mp listed)
    cases seen : allowed identity chunk.metadata with
    | false => simp
    | true =>
        rw [allowed_of_mem isChunk] at seen
        simp [documentId_of_mem isChunk, (apart other isPast seen).documentId]
  · exact fun chunk listed => (allowed_of_mem listed).trans hidden
  · intro chunk listed old found
    rw [Dict.get?_filter, Option.filter_eq_some_iff] at found
    obtain ⟨other, isPast, isChunk, sameId⟩ := origin found.1
    rw [allowed_of_mem isChunk]
    by_contra isSeen
    exact (apart other isPast (Bool.eq_true_of_not_eq_false isSeen)).chunkId old isChunk chunk listed
      sameId

theorem visible_ingestAll (undisturbed : Undisturbed retriever identity history) :
    visible identity (retriever.ingestAll history) =
      retriever.ingestAll (history.filter fun document => allowed identity document.metadata) := by
  induction history using List.reverseRecOn with
  | nil => rfl
  | append_singleton past document ih =>
      have inPast : ∀ other ∈ past, other ∈ past ++ [document] := fun other listed =>
        List.mem_append_left _ listed
      have isLast : document ∈ past ++ [document] :=
        List.mem_append_right _ (List.mem_singleton.mpr rfl)
      have earlier := ih fun first isFirst second isSecond =>
        undisturbed first (inPast first isFirst) second (inPast second isSecond)
      rw [ingestAll_concat, List.filter_append]
      cases seen : allowed identity document.metadata with
      | true =>
          rw [visible_ingest seen fun other listed => undisturbed document isLast other
            (inPast other listed) seen, earlier, List.filter_cons, if_pos seen, List.filter_nil,
            ingestAll_concat]
      | false =>
          rw [visible_ingest_hidden seen fun other listed isSeen => undisturbed other
            (inPast other listed) document isLast isSeen seen, earlier,
            List.filter_cons_of_neg (by simp [seen]), List.filter_nil, List.append_nil]

end Visible

theorem filter_allowed_of_altered (changes : Altered identity history altered) :
    history.filter (fun document => allowed identity document.metadata) =
      altered.filter fun document => allowed identity document.metadata := by
  induction changes with
  | nil => rfl
  | same _ ih => rw [List.filter_cons, List.filter_cons, ih]
  | removed hidden _ ih =>
      rw [List.filter_cons_of_neg (by simp [hidden]), ih]
  | changed hidden _ ih =>
      rw [List.filter_cons_of_neg (by simp [hidden]), List.filter_cons_of_neg (by simp [hidden]),
        ih]

/-! ## The order of ingestion -/

theorem Apart.symm {first second : KnowledgeDocument} (apart : Apart retriever first second) :
    Apart retriever second first :=
  ⟨apart.documentId.symm, fun chunk listed other isListed same =>
    apart.chunkId other isListed chunk listed same.symm⟩

theorem get?_ingestAll (apart : history.Pairwise (Apart retriever)) {key : String}
    {chunk : KnowledgeChunk} : (retriever.ingestAll history).get? key = some chunk ↔
      ∃ document ∈ history, (own retriever document).get? key = some chunk := by
  induction history using List.reverseRecOn with
  | nil => simp
  | append_singleton past document ih =>
      obtain ⟨pastApart, -, fromLast⟩ := List.pairwise_append.mp apart
      have apartFrom : ∀ other ∈ past, Apart retriever other document := fun other listed =>
        fromLast other listed document (List.mem_singleton.mpr rfl)
      rw [ingestAll_concat, get?_ingest, Option.or_eq_some_iff, Option.filter_eq_some_iff,
        ih pastApart]
      constructor
      · rintro (isOwn | ⟨-, ⟨other, listed, isOther⟩, -⟩)
        · exact ⟨document, List.mem_append_right _ (List.mem_singleton.mpr rfl), isOwn⟩
        · exact ⟨other, List.mem_append_left _ listed, isOther⟩
      · rintro ⟨other, listed, isOther⟩
        rcases List.mem_append.mp listed with
          inPast | isLast
        · obtain ⟨isChunk, sameId⟩ := get?_own isOther
          refine Or.inr ⟨?_, ⟨other, inPast, isOther⟩, ?_⟩
          · by_contra present
            obtain ⟨known, isOwn⟩ := Option.ne_none_iff_exists'.mp present
            obtain ⟨isKnown, knownId⟩ := get?_own isOwn
            exact (apartFrom other inPast).chunkId chunk isChunk known isKnown
              (sameId.trans knownId.symm)
          · rw [documentId_of_mem isChunk]
            exact decide_eq_true (apartFrom other inPast).documentId
        · rw [List.mem_singleton] at isLast
          subst isLast
          exact Or.inl isOther

theorem retrieve_of_perm {reordered : List KnowledgeDocument} (perm : history.Perm reordered)
    (apart : history.Pairwise (Apart retriever)) :
    retrieve (retriever.ingestAll history) query = retrieve (retriever.ingestAll reordered) query := by
  have reorderedApart := perm.pairwise apart Apart.symm
  have samePairs : (retriever.ingestAll history).items.Perm
      (retriever.ingestAll reordered).items := by
    apply Dict.items_perm_of_get?
    intro key chunk
    rw [get?_ingestAll apart, get?_ingestAll reorderedApart]
    simp only [perm.mem_iff]
  have sameRanked : (ranked (retriever.ingestAll history) query).Perm
      (ranked (retriever.ingestAll reordered) query) := (samePairs.map _).filter _
  unfold retrieve
  rw [insertionSort_eq_of_perm sameRanked (nodup_rankingKeys (placed_ingestAll history))]

/-- What an identity retrieves depends neither on documents that it may not see nor on the order
in which documents are ingested, and the ranking never compares two chunks. -/
theorem retrieval_noninterference (retriever : LocalKnowledgeRetriever) (query : KnowledgeQuery) :
    (∀ history altered, Altered query.userContext history altered →
      Undisturbed retriever query.userContext history →
      Undisturbed retriever query.userContext altered →
      retrieve (retriever.ingestAll history) query =
        retrieve (retriever.ingestAll altered) query) ∧
    (∀ history reordered, history.Perm reordered → history.Pairwise (Apart retriever) →
      retrieve (retriever.ingestAll history) query =
        retrieve (retriever.ingestAll reordered) query) ∧
    ∀ history, ((ranked (retriever.ingestAll history) query).map (rankingKey query)).Nodup := by
  refine ⟨?_, ?_, ?_⟩
  · intro history altered changes undisturbed alteredUndisturbed
    apply retrieve_of_visible
    rw [visible_ingestAll undisturbed, visible_ingestAll alteredUndisturbed,
      filter_allowed_of_altered changes]
  · exact fun history reordered perm apart => retrieve_of_perm perm apart
  · exact fun history => nodup_rankingKeys (placed_ingestAll history)

/-! ## A policy in two versions -/

def policy (id content : String) (classification : DataClassification) : KnowledgeDocument where
  documentId := some id
  content := content
  metadata := {
    title := "Policy"
    sourceType := "policy"
    sourceUri := "policy://payments"
    classification := classification
    createdAt := "2025-01-01"
    updatedAt := "2025-01-01" }

def retrieverOf (hash : String → String) : LocalKnowledgeRetriever := ⟨800, by decide, hash⟩

/-- The one chunk of the public version. -/
def draftChunk (hash : String → String) : KnowledgeChunk where
  documentId := "p"
  chunkId := (retrieverOf hash).chunkId "p" 0 "draft"
  ordinal := 0
  content := "draft"
  metadata := { (policy "p" "draft" .publicData).metadata with
    contentHash := some ((retrieverOf hash).contentHash (policy "p" "draft" .publicData)) }

/-- The query of an identity without roles. -/
def policyQuery : KnowledgeQuery where
  query := "policy"
  userContext := ⟨"u-1", [], [], none, none, none⟩

theorem hits_eq_nil (some_limit : query.limit ≠ 0) :
    (retrieve chunks query).hits = [] ↔ ranked chunks query = [] := by
  unfold retrieve
  simp only [List.map_eq_nil_iff, List.take_eq_nil_iff, some_limit, false_or]
  rw [← List.length_eq_zero_iff, List.length_insertionSort, List.length_eq_zero_iff]

theorem documentId_policy (retriever : LocalKnowledgeRetriever) (content : String)
    (classification : DataClassification) :
    retriever.documentId (policy "p" content classification) = "p" := by
  rw [documentId, show (policy "p" content classification).documentId = some "p" from rfl]
  exact if_neg (by decide)

theorem chunksOf_draft (hash : String → String) :
    (retrieverOf hash).chunksOf (policy "p" "draft" .publicData) = [draftChunk hash] := by
  have whole : (retrieverOf id).split (normalizeContent "draft") = ["draft"] := by decide +kernel
  have parts : (retrieverOf hash).split (normalizeContent "draft") = ["draft"] := whole
  unfold chunksOf
  rw [documentId_policy, show (policy "p" "draft" .publicData).content = "draft" from rfl, parts]
  rfl

theorem ranked_draft (hash : String → String) :
    ranked ((retrieverOf hash).ingestAll [policy "p" "draft" .publicData]) policyQuery ≠ [] := by
  have counted : overlap policyQuery (draftChunk id) = 1 := by decide +kernel
  have matching : overlap policyQuery (draftChunk hash) = 1 := counted
  unfold ingestAll ingest
  rw [List.foldl_cons, List.foldl_nil, chunksOf_draft]
  apply List.ne_nil_of_mem
  apply List.mem_filter.mpr
  refine ⟨List.mem_singleton.mpr rfl, ?_⟩
  rw [matching]
  rfl

theorem ranked_restricted (hash : String → String) : ranked ((retrieverOf hash).ingestAll
    [policy "p" "draft" .publicData, policy "p" "final" .restricted]) policyQuery = [] := by
  apply List.filter_eq_nil_iff.mpr
  intro chunk listed
  obtain ⟨⟨key, known⟩, isItem, same⟩ := List.mem_map.mp listed
  have found := Dict.mem_items.mp isItem
  change known = chunk at same
  subst same
  rw [show [policy "p" "draft" .publicData, policy "p" "final" .restricted] =
    [policy "p" "draft" .publicData] ++ [policy "p" "final" .restricted] from rfl,
    ingestAll_concat, get?_ingest, Option.or_eq_some_iff] at found
  rcases found with
    isOwn | ⟨-, before⟩
  · rw [allowed_of_mem (get?_own isOwn).1]
    simp [show allowed policyQuery.userContext (policy "p" "final" .restricted).metadata = false
      from rfl]
  · obtain ⟨before, other⟩ := Option.filter_eq_some_iff.mp before
    obtain ⟨document, isDraft, isChunk, -⟩ := origin before
    rw [List.mem_singleton] at isDraft
    subst isDraft
    rw [documentId_of_mem isChunk, documentId_policy, documentId_policy] at other
    simp at other

/-- The restricted version hides the public one, whatever the hash. -/
theorem restricted_version_interferes : ¬ ∃ hash, ∀ history altered,
    Altered policyQuery.userContext history altered →
      retrieve ((retrieverOf hash).ingestAll history) policyQuery =
        retrieve ((retrieverOf hash).ingestAll altered) policyQuery := by
  rintro ⟨hash, noninterference⟩
  have same := noninterference
    [policy "p" "draft" .publicData, policy "p" "final" .restricted]
    [policy "p" "draft" .publicData] (.same (.removed rfl .nil))
  apply ranked_draft hash
  rw [← hits_eq_nil (by decide), ← same, hits_eq_nil (by decide)]
  exact ranked_restricted hash

theorem policies_apart : Apart (retrieverOf id) (policy "p" "draft" .publicData)
    (policy "q" "final" .restricted) where
  documentId := by decide +kernel
  chunkId := by decide +kernel

theorem policies_noninterference :
    retrieve ((retrieverOf id).ingestAll
        [policy "p" "draft" .publicData, policy "q" "final" .restricted]) policyQuery =
      retrieve ((retrieverOf id).ingestAll [policy "p" "draft" .publicData]) policyQuery ∧
    retrieve ((retrieverOf id).ingestAll
        [policy "p" "draft" .publicData, policy "q" "final" .restricted]) policyQuery =
      retrieve ((retrieverOf id).ingestAll
        [policy "q" "final" .restricted, policy "p" "draft" .publicData]) policyQuery := by
  obtain ⟨unseen, unordered, -⟩ := retrieval_noninterference (retrieverOf id) policyQuery
  constructor
  · apply unseen
    · exact .same (.removed rfl .nil)
    · intro document listed other isListed seen hidden
      rcases List.mem_pair.mp listed with rfl | rfl
      · rcases List.mem_pair.mp isListed with rfl | rfl
        · cases hidden
        · exact policies_apart
      · cases seen
    · intro document listed other isListed seen hidden
      rw [List.mem_singleton] at isListed
      subst isListed
      cases hidden
  · apply unordered
    · exact List.Perm.swap _ _ _
    · exact List.pairwise_pair.mpr policies_apart

end PaymentsPlatform.AgentApi.Knowledge
