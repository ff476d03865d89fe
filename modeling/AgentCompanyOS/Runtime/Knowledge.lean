import Mathlib.Data.Rat.Defs
import AgentCompanyOS.Runtime.Tool

/-!
# Approved knowledge

`domain/knowledge.py` and `domain/chunking.py`: versioned sources, the chunks that a
version is cut into, queries, and the evidence packs that a run works with. A chunk's
identifier is the digest of its place and its content. The content of a version is what
an ingestor has normalized.
-/

set_option autoImplicit false

namespace AgentCompanyOS.Runtime

open Foundation Domain

abbrev KnowledgeSourceId := OpaqueId .knowledgeSource
abbrev KnowledgeChunkId := OpaqueId .knowledgeChunk
abbrev EvidencePackId := OpaqueId .evidencePack

inductive SourceType where
  | text | markdown | structuredFacts
deriving DecidableEq

inductive TrustClass where
  | authoritative | approvedInternal | unverifiedExternal
deriving DecidableEq

def TrustClass.value : TrustClass → PyStr
  | authoritative => py "authoritative"
  | approvedInternal => py "approved_internal"
  | unverifiedExternal => py "unverified_external"

inductive SourceStatus where
  | active | disabled
deriving DecidableEq

/-! ## Bounded text -/

/-- The control characters that `bounded_text` refuses. -/
def isControl (c : CodePoint) : Bool :=
  (c.val < 32 && c.val != 10 && c.val != 9) || (127 ≤ c.val && c.val < 160)

/-- `bounded_text`. -/
def boundedText (value : PyStr) (maximum : Nat) : Except DomainError Unit :=
  if strip value = [] ∨ maximum < value.length then
    .error (.invariantViolation "knowledge_text_bound" [])
  else if value.any isControl = true then
    .error (.invariantViolation "knowledge_control_character" [])
  else if value.any isSurrogate = true then .error (.invariantViolation "knowledge_utf8" [])
  else .ok ()

/-! ## Sources -/

structure IngestionLimits where
  sourceBytes : Nat
  normalizedChars : Nat
  facts : Nat
  chunkChars : Nat
  chunks : Nat
deriving DecidableEq

/-- `IngestionLimits()`. -/
def IngestionLimits.default : IngestionLimits := ⟨32768, 16000, 50, 800, 64⟩

structure KnowledgeFact where
  key : PyStr
  value : PyStr
deriving DecidableEq

/-- What an ingestor makes of the bytes of a source. -/
structure NormalizedContent where
  text : PyStr
  company : Option PyStr
  facts : List KnowledgeFact
deriving DecidableEq

structure KnowledgeSource where
  id : KnowledgeSourceId
  workspaceId : WorkspaceId
  name : PyStr
  sourceType : SourceType
  trust : TrustClass
  createdAt : Instant
  version : Version
  contentVersion : Version
  status : SourceStatus
deriving DecidableEq

/-- `KnowledgeSource(...)` of a new source. -/
def KnowledgeSource.create (id : KnowledgeSourceId) (workspaceId : WorkspaceId) (name : PyStr)
    (sourceType : SourceType) (trust : TrustClass) (createdAt : Instant) :
    Except DomainError KnowledgeSource := do
  boundedText name 128
  .ok ⟨id, workspaceId, name, sourceType, trust, createdAt, .initial, .initial, .active⟩

/-- A source with its next content. -/
def KnowledgeSource.successor (source : KnowledgeSource) : KnowledgeSource :=
  { source with
    version := source.version.next
    contentVersion := source.contentVersion.next }

/-- The content of a source at one content version. -/
structure KnowledgeSourceVersion where
  source : KnowledgeSource
  content : NormalizedContent
  contentHash : PyStr
  createdAt : Instant
  limits : IngestionLimits
deriving DecidableEq

/-- The name of the chunking algorithm. -/
def chunkingAlgorithm : PyStr := py "paragraph-or-fact-v1"

/-- `KnowledgeSourceVersion(...)` with the digest of its text. -/
def KnowledgeSourceVersion.create (source : KnowledgeSource) (content : NormalizedContent)
    (contentHash : PyStr) (createdAt : Instant) (limits : IngestionLimits) :
    Except DomainError KnowledgeSourceVersion := do
  boundedText content.text limits.normalizedChars
  if limits.facts < content.facts.length ∨
      ¬(source.sourceType = .structuredFacts ↔ content.facts ≠ []) ∨
      createdAt < source.createdAt then
    .error (.invariantViolation "knowledge_content_hash_or_schema" [])
  else .ok ⟨source, content, contentHash, createdAt, limits⟩

/-! ## Chunks -/

structure KnowledgeChunk where
  id : KnowledgeChunkId
  workspaceId : WorkspaceId
  sourceId : KnowledgeSourceId
  sourceVersion : Version
  ordinal : Nat
  text : PyStr
  contentHash : PyStr
  fact : Option KnowledgeFact
deriving DecidableEq

/-- `KnowledgeChunk.reference`; a lone surrogate has no percent encoding. -/
def KnowledgeChunk.reference (chunk : KnowledgeChunk) : Except Exc PyStr :=
  match percentEncode chunk.sourceId.value, percentEncode chunk.id.value with
  | some source, some id =>
      .ok (py "knowledge:" ++ source ++ py ":" ++ pyNat chunk.sourceVersion.value ++ py ":" ++ id)
  | _, _ => .error .other

/-- The text after a blank line that starts here, as `\n[ \t]*\n` matches it. -/
def afterBlankLine : PyStr → Option PyStr
  | c :: rest =>
      if c = 10 then
        match rest.dropWhile fun b => b = 32 ∨ b = 9 with
        | b :: after => if b = 10 then some after else none
        | [] => none
      else none
  | [] => none

/-- `re.split` at blank lines; the fuel is more than the text is long. -/
def paragraphs : Nat → PyStr → PyStr → List PyStr
  | 0, current, _ => [current.reverse]
  | _ + 1, current, [] => [current.reverse]
  | fuel + 1, current, c :: rest =>
      match afterBlankLine (c :: rest) with
      | some after => current.reverse :: paragraphs fuel [] after
      | none => paragraphs fuel (c :: current) rest

/-- `max(text.rfind(" "), text.rfind("\n"))`; zero also stands for no occurrence. -/
def lastBreak (text : PyStr) : Nat :=
  (text.zipIdx.filter fun p => p.1 = 32 ∨ p.1 = 10).foldl (fun _ p => p.2) 0

/-- Where a long paragraph is cut. -/
def cutEnd (limit : Nat) (remaining : PyStr) : Nat :=
  let stop := min limit remaining.length
  if stop < remaining.length ∧ 0 < lastBreak (remaining.take stop) then
    lastBreak (remaining.take stop)
  else stop

/-- The pieces of one paragraph after the pieces so far, until there are too many; the
fuel is more than the text is long, and every cut takes at least one character. -/
def cutParagraph (limit most : Nat) : Nat → List PyStr → PyStr → Except DomainError (List PyStr)
  | 0, parts, _ => .ok parts
  | _ + 1, parts, [] => .ok parts
  | fuel + 1, parts, remaining =>
      let stop := cutEnd limit remaining
      let part := strip (remaining.take stop)
      let parts := if part = [] then parts else parts ++ [part]
      if most < parts.length then .error (.invariantViolation "knowledge_chunk_count" [])
      else cutParagraph limit most fuel parts (strip (remaining.drop stop))

/-- The pieces of a text. -/
def cutText (limit most : Nat) (text : PyStr) : Except DomainError (List PyStr) :=
  (paragraphs (text.length + 1) [] text).foldlM
    (fun parts paragraph =>
      cutParagraph limit most (paragraph.length + 1) parts (strip paragraph)) []

/-- The texts of the chunks of a version, with their facts. -/
def chunkParts (version : KnowledgeSourceVersion) :
    Except DomainError (List (PyStr × Option KnowledgeFact)) :=
  let content := version.content
  if content.facts ≠ [] then
    .ok (content.facts.map fun fact =>
      ((content.company.getD (py "None")) ++ py "\n" ++ fact.key ++ py ": " ++ fact.value,
        some fact))
  else do
    let parts ← cutText version.limits.chunkChars version.limits.chunks content.text
    .ok (parts.map fun part => (part, none))

/-- The chunks of one stored version. -/
structure ChunkSet where
  sourceId : KnowledgeSourceId
  version : Version
  chunks : List KnowledgeChunk
deriving DecidableEq

/-! ## Packs -/

structure KnowledgeQuery where
  workspaceId : WorkspaceId
  text : PyStr
  sourceFilters : List KnowledgeSourceId
  trustFilters : List TrustClass
  topK : Nat
  maxContextChars : Nat
  maxPerSource : Nat
deriving DecidableEq

/-- A chunk as evidence, with its score. -/
structure EvidenceCandidate where
  chunk : KnowledgeChunk
  sourceName : PyStr
  trust : TrustClass
  sourceCreatedAt : Instant
  score : Rat
deriving DecidableEq

structure RetrievalResult where
  candidates : List EvidenceCandidate
  candidateCount : Nat
  truncated : Bool
  strategy : PyStr
  strategyVersion : Nat
deriving DecidableEq

structure EvidencePack where
  id : EvidencePackId
  workspaceId : WorkspaceId
  runId : AgentRunId
  query : KnowledgeQuery
  result : RetrievalResult
  createdAt : Instant
deriving DecidableEq

/-- `EvidencePack(...)`. -/
def EvidencePack.create (pack : EvidencePack) : Except DomainError EvidencePack :=
  if pack.workspaceId ≠ pack.query.workspaceId ∨
      pack.query.topK < pack.result.candidates.length ∨
      pack.result.candidates.any (·.chunk.workspaceId ≠ pack.workspaceId) = true then
    .error (.invariantViolation "knowledge_pack_schema" [])
  else .ok pack

/-- The pack without its last candidate. -/
def EvidencePack.shortened (pack : EvidencePack) : EvidencePack :=
  { pack with result := { pack.result with
      candidates := pack.result.candidates.dropLast
      truncated := true } }

/-! ## Packs as text -/

/-- A member of a JSON object that is a string. -/
def textMember (key : String) (value : PyStr) : PyStr × Json := (py key, .str value)

/-- `candidate_data`, its keys sorted. -/
def EvidenceCandidate.data (scoreText : Rat → PyStr) (item : EvidenceCandidate) :
    Except Exc Json := do
  let chunk := item.chunk
  let reference ← chunk.reference
  .ok (.obj [textMember "chunk_id" chunk.id.value,
    (py "fact", match chunk.fact with
      | some fact => .obj [textMember "key" fact.key, textMember "value" fact.value]
      | none => .null),
    textMember "hash" chunk.contentHash,
    textMember "instruction_trust" (py "untrusted_source_data"),
    (py "ordinal", .int chunk.ordinal), textMember "reference" reference,
    (py "score", .float (scoreText item.score)),
    textMember "source_created_at" (isoformat item.sourceCreatedAt),
    textMember "source_id" chunk.sourceId.value, textMember "source_name" item.sourceName,
    (py "source_version", .int chunk.sourceVersion.value), textMember "text" chunk.text,
    textMember "trust" item.trust.value])

/-- The query of a pack, as `serialize_pack` shows it. -/
def KnowledgeQuery.data (query : KnowledgeQuery) : Json :=
  .obj [(py "max_context_chars", .int query.maxContextChars),
    (py "max_per_source", .int query.maxPerSource),
    (py "source_filters", .arr (query.sourceFilters.map fun id => .str id.value)),
    textMember "text" query.text, (py "top_k", .int query.topK),
    (py "trust_filters", .arr (query.trustFilters.map fun t => .str t.value))]

/-- `serialize_pack`, its keys sorted. -/
def EvidencePack.data (scoreText : Rat → PyStr) (pack : EvidencePack) : Except Exc Json := do
  let candidates ← pack.result.candidates.mapM (EvidenceCandidate.data scoreText)
  .ok (.obj [(py "candidate_count", .int pack.result.candidateCount),
    (py "candidates", .arr candidates), textMember "created_at" (isoformat pack.createdAt),
    textMember "id" pack.id.value, (py "query", pack.query.data),
    textMember "run_id" pack.runId.value, (py "schema_version", .int 1),
    textMember "strategy" pack.result.strategy,
    (py "strategy_version", .int pack.result.strategyVersion),
    (py "truncated", .bool pack.result.truncated),
    textMember "workspace_id" pack.workspaceId.value])

/-- `EvidenceCandidate.context_chars`. -/
def EvidenceCandidate.contextChars (scoreText : Rat → PyStr) (item : EvidenceCandidate) :
    Except Exc Nat := do
  let data ← item.data scoreText
  .ok (data.dumps (.spaced false)).length

/-- `EvidencePack.context_chars`. -/
def EvidencePack.contextChars (scoreText : Rat → PyStr) (pack : EvidencePack) :
    Except Exc Nat := do
  let data ← pack.data scoreText
  .ok (data.dumps (.spaced false)).length

end AgentCompanyOS.Runtime
