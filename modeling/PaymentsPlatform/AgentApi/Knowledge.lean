import Mathlib.Data.Prod.Lex
import Mathlib.Data.Rat.Defs
import Mathlib.Algebra.Order.Ring.Unbundled.Rat
import Mathlib.Data.String.Basic
import PaymentsPlatform.AgentApi.Authority
import PaymentsPlatform.Library.Dict

/-!
# Knowledge retrieval

`LocalKnowledgeRetriever` of `knowledge.py`: documents are split into chunks, the chunks of all
documents share one dictionary, and a query ranks the chunks that the identity may see.  The
hash is a parameter, scores are the exact quotients of which the program holds the `float`, and
dates are texts.
-/

namespace PaymentsPlatform.AgentApi

open Ingestion (strip isSpace)

namespace Knowledge

/-! ## Documents -/

structure KnowledgeMetadata where
  title : String
  sourceType : String
  sourceUri : String
  version : String := "1"
  effectiveDate : Option String := none
  classification : DataClassification := .internal
  allowedRoles : List String := []
  geographyScope : Option String := none
  contentHash : Option String := none
  createdAt : String
  updatedAt : String
  deriving DecidableEq

structure KnowledgeDocument where
  documentId : Option String
  content : String
  metadata : KnowledgeMetadata
  deriving DecidableEq

structure KnowledgeChunk where
  documentId : String
  chunkId : String
  ordinal : Nat
  content : String
  metadata : KnowledgeMetadata
  deriving DecidableEq

structure KnowledgeQuery where
  query : String
  userContext : IdentityContext
  limit : Nat := 5

structure KnowledgeCitation where
  documentId : String
  chunkId : String
  title : String
  sourceUri : String
  deriving DecidableEq

structure KnowledgeEvidence where
  citation : KnowledgeCitation
  classification : DataClassification
  retrievalScore : ℚ
  contentHash : String
  deriving DecidableEq

structure KnowledgeHit where
  chunk : KnowledgeChunk
  score : ℚ
  evidence : KnowledgeEvidence
  promptInjectionRedacted : Bool
  deriving DecidableEq

structure RetrievalResult where
  query : String
  hits : List KnowledgeHit
  citations : List KnowledgeCitation
  deriving DecidableEq

/-! ## Texts -/

/-- Where `str.splitlines` ends a line. -/
def isLineBreak (c : Char) : Bool :=
  (10 ≤ c.toNat ∧ c.toNat ≤ 13) ∨ (28 ≤ c.toNat ∧ c.toNat ≤ 30) ∨ c.toNat ∈ [133, 8232, 8233]

/-- `str.splitlines`, with the line so far in reverse. -/
def splitLines (line : List Char) : List Char → List (List Char)
  | [] => if line.isEmpty then [] else [line.reverse]
  | [c] => if isLineBreak c then [line.reverse] else [(c :: line).reverse]
  | c :: next :: rest =>
      if c.toNat = 13 ∧ next.toNat = 10 then line.reverse :: splitLines [] rest
      else if isLineBreak c then line.reverse :: splitLines [] (next :: rest)
      else splitLines (c :: line) (next :: rest)

/-- `str.rstrip`. -/
def rstrip (line : List Char) : List Char := (line.reverse.dropWhile isSpace).reverse

/-- `"\n".join(line.rstrip() for line in content.strip().splitlines())`. -/
def normalizeContent (content : String) : String :=
  "\n".intercalate ((splitLines [] (strip isSpace content).toList).map fun line =>
    String.ofList (rstrip line))

/-- `re.split(r"\n\s*\n", content)`, stripped and without the empty parts: the runs of lines that
are not blank. -/
def paragraphs (content : String) : List String :=
  (((content.toList.splitOn (Char.ofNat 10)).splitOnP (·.all isSpace)).filter (· ≠ [])).map
    fun lines => strip isSpace ("\n".intercalate (lines.map String.ofList))

/-- `[text[i:i + size] for i in range(0, len(text), size)]`. -/
def pieces (size : Nat) (text : String) : List String :=
  (List.range ((text.toList.length + size - 1) / size)).map fun index =>
    String.ofList ((text.toList.drop (index * size)).take size)

/-- `str.lower` of a character, as far as it makes letters of the Latin alphabet. -/
def lower (c : Char) : List Char :=
  if c.toNat = 0x212A then ['k']
  else if c.toNat = 0x130 then ['i', Char.ofNat 0x307]
  else [c.toLower]

/-- `_tokens`: the runs of `[a-z0-9]`, each once. -/
def tokens (value : String) : List String :=
  ((((value.toList.flatMap lower).splitOnP fun c => !(c.isLower || c.isDigit)).filter
    (· ≠ [])).map String.ofList).dedup

/-- A character as `re.IGNORECASE` compares it with a Latin letter. -/
def foldCase (c : Char) : Char :=
  if c.toNat = 0x212A then 'k'
  else if c.toNat = 0x130 ∨ c.toNat = 0x131 then 'i'
  else if c.toNat = 0x17F then 's'
  else c.toLower

/-- What `INJECTION` looks for in a line. -/
def injections : List String :=
  ["ignore previous instructions", "ignore system instructions", "ignore all previous instructions",
    "ignore all system instructions", "system prompt", "grant permission", "grant me permission",
    "execute unrestricted sql", "override governance"]

def isInjection (line : List Char) : Bool :=
  injections.any fun phrase => (line.map foldCase).tails.any phrase.toList.isPrefixOf

/-- `INJECTION.search`. -/
def hasInjection (content : String) : Bool :=
  (content.toList.splitOn (Char.ofNat 10)).any isInjection

/-- `INJECTION.sub`: the whole line goes. -/
def redact (content : String) : String :=
  "\n".intercalate ((content.toList.splitOn (Char.ofNat 10)).map fun line =>
    if isInjection line then "[untrusted instruction redacted]" else String.ofList line)

/-! ## The retriever -/

structure LocalKnowledgeRetriever where
  chunkSize : Nat
  bounded : 100 ≤ chunkSize ∧ chunkSize ≤ 4000
  /-- `_hash`. -/
  hash : String → String

/-- `_allowed`, by the metadata that every chunk of a document carries. -/
def allowed (identity : IdentityContext) (metadata : KnowledgeMetadata) : Bool :=
  if metadata.allowedRoles ≠ [] ∧ ∀ role ∈ identity.roles, role ∉ metadata.allowedRoles then false
  else
    match metadata.classification with
    | .publicData => true
    | .internal => "can_view_internal_data" ∈ capabilitiesForRoles identity.roles
    | .confidential => "can_view_confidential_data" ∈ capabilitiesForRoles identity.roles
    | .restricted => "can_view_restricted_data" ∈ capabilitiesForRoles identity.roles

/-- The chunks of all documents, by their ids. -/
abbrev Chunks := Dict String KnowledgeChunk

namespace LocalKnowledgeRetriever

variable (retriever : LocalKnowledgeRetriever)

/-- `_hash(value)[:24]`. -/
def shortHash (value : String) : String := String.ofList ((retriever.hash value).toList.take 24)

/-- One piece of a paragraph: the chunks that are full, and the current one. -/
def addPiece (state : List String × String) (piece : String) : List String × String :=
  let candidate := strip isSpace (state.2 ++ "\n\n" ++ piece)
  if state.2 ≠ "" ∧ candidate.toList.length > retriever.chunkSize then
    (state.1 ++ [state.2], piece)
  else (state.1, candidate)

/-- `_split`. -/
def split (content : String) : List String :=
  let state := ((paragraphs content).flatMap (pieces retriever.chunkSize)).foldl
    retriever.addPiece ([], "")
  if state.2 ≠ "" then state.1 ++ [state.2] else state.1

/-- `content_hash`. -/
def contentHash (document : KnowledgeDocument) : String :=
  retriever.hash (normalizeContent document.content)

/-- The id of a document, which is its own unless it is missing or empty. -/
def documentId (document : KnowledgeDocument) : String :=
  match document.documentId with
  | some id => if id = "" then derived else id
  | none => derived
where
  derived := "kdoc-" ++ retriever.shortHash (document.metadata.sourceType ++ "|" ++
    document.metadata.sourceUri ++ "|" ++ document.metadata.version ++ "|" ++
    retriever.contentHash document)

def chunkId (documentId : String) (ordinal : Nat) (content : String) : String :=
  "kchunk-" ++ retriever.shortHash (documentId ++ "|" ++ toString ordinal ++ "|" ++ content)

/-- The chunks of a document, in order. -/
def chunksOf (document : KnowledgeDocument) : List KnowledgeChunk :=
  (retriever.split (normalizeContent document.content)).zipIdx.map fun (content, ordinal) => {
    documentId := retriever.documentId document
    chunkId := retriever.chunkId (retriever.documentId document) ordinal content
    ordinal := ordinal
    content := content
    metadata := { document.metadata with
      contentHash := some (retriever.contentHash document) } }

/-- `ingest`: the chunks that the document had before go, and its chunks are set. -/
def ingest (chunks : Chunks) (document : KnowledgeDocument) : Chunks :=
  (retriever.chunksOf document).foldl (fun chunks chunk => chunks.set chunk.chunkId chunk)
    (chunks.filter fun _ chunk => chunk.documentId ≠ retriever.documentId document)

/-- The chunks after a sequence of `ingest` calls. -/
def ingestAll (history : List KnowledgeDocument) : Chunks :=
  history.foldl retriever.ingest .empty

end LocalKnowledgeRetriever

/-! ## Retrieval -/

/-- How many tokens of the query a chunk has. -/
def overlap (query : KnowledgeQuery) (chunk : KnowledgeChunk) : Nat :=
  ((tokens query.query).filter
    (· ∈ tokens (chunk.metadata.title ++ " " ++ chunk.content))).length

def score (query : KnowledgeQuery) (chunk : KnowledgeChunk) : ℚ :=
  min 1 ((overlap query chunk : ℚ) / (max 1 (tokens query.query).length : ℕ))

/-- The chunks that take part in the ranking, in the order of the dictionary. -/
def ranked (chunks : Chunks) (query : KnowledgeQuery) : List KnowledgeChunk :=
  chunks.values.filter fun chunk =>
    allowed query.userContext chunk.metadata && overlap query chunk ≠ 0

/-- What the ranking compares before it would compare chunks. -/
def rankingKey (query : KnowledgeQuery) (chunk : KnowledgeChunk) : ℚ ×ₗ String ×ₗ ℕ :=
  toLex (-score query chunk, toLex (chunk.documentId, chunk.ordinal))

def hit (query : KnowledgeQuery) (stored : KnowledgeChunk) : KnowledgeHit :=
  let redacted := hasInjection stored.content
  let chunk := if redacted then { stored with content := redact stored.content } else stored
  { chunk := chunk
    score := score query stored
    evidence := {
      citation := ⟨chunk.documentId, chunk.chunkId, chunk.metadata.title, chunk.metadata.sourceUri⟩
      classification := chunk.metadata.classification
      retrievalScore := score query stored
      contentHash := chunk.metadata.contentHash.getD "" }
    promptInjectionRedacted := redacted }

def retrieve (chunks : Chunks) (query : KnowledgeQuery) : RetrievalResult :=
  let hits := (((ranked chunks query).insertionSort fun first second =>
    rankingKey query first ≤ rankingKey query second).take query.limit).map (hit query)
  { query := query.query
    hits := hits
    citations := hits.map fun hit => hit.evidence.citation }

end Knowledge

end PaymentsPlatform.AgentApi
