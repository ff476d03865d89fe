import Mathlib.Algebra.GroupWithZero.Nat
import AgentCompanyOS.Runtime.Review

/-!
# Knowledge and memory retrieval

`InMemoryKnowledgeStore`, `KnowledgeService` and the part of `MemoryService.retrieve`
that works on the run. The ingestor and the retriever are ports: what an ingestor makes
of the bytes is an argument of the commands that publish, a retriever is an argument of
the retrieval. The memory store is outside the model, so that what it answers is an
argument too.

A retrieval changes a run like any other service: it saves the next version, in which
only the active pack is new.
-/

set_option autoImplicit false

namespace AgentCompanyOS.Runtime

open Foundation Foundation.Txn Domain

/-! ## The knowledge store -/

/-- `InMemoryKnowledgeStore.source`. -/
def getSource (workspaceId : WorkspaceId) (sourceId : KnowledgeSourceId) :
    RuntimeTxn KnowledgeSource := do
  let store ← getStore
  let source ← need (store.knowledgeSources.get? sourceId)
    (.domain (.entityNotFound (py "KnowledgeSource") sourceId.value))
  raiseIf (source.workspaceId ≠ workspaceId)
    (.domain (.workspaceMismatch (py "knowledge") workspaceId.value source.workspaceId.value))
  pure source

/-- `InMemoryKnowledgeStore.version`. -/
def getSourceVersion (workspaceId : WorkspaceId) (sourceId : KnowledgeSourceId)
    (version : Version) : RuntimeTxn KnowledgeSourceVersion := do
  let _ ← getSource workspaceId sourceId
  let store ← getStore
  need (store.knowledgeVersions.get? (sourceId, version))
    (.domain (.entityNotFound (py "KnowledgeSourceVersion") sourceId.value))

/-- `InMemoryKnowledgeStore.chunks`. -/
def getChunks (workspaceId : WorkspaceId) (sourceId : KnowledgeSourceId) (version : Version) :
    RuntimeTxn (List KnowledgeChunk) := do
  let _ ← getSourceVersion workspaceId sourceId version
  let store ← getStore
  let stored ← need (store.knowledgeChunks.get? (sourceId, version)) .other
  pure stored.chunks

/-- `InMemoryKnowledgeStore.pack`. -/
def getPack (workspaceId : WorkspaceId) (runId : AgentRunId) (packId : EvidencePackId) :
    RuntimeTxn EvidencePack := do
  let _ ← getRun workspaceId runId
  let store ← getStore
  let pack ← need (store.evidencePacks.get? packId)
    (.domain (.entityNotFound (py "EvidencePack") packId.value))
  raiseIf (pack.workspaceId ≠ workspaceId)
    (.domain (.workspaceMismatch (py "EvidencePack") workspaceId.value pack.workspaceId.value))
  raiseIf (pack.runId ≠ runId) (violation "knowledge_pack_run_binding")
  pure pack

/-- `InMemoryKnowledgeStore.packs`. -/
def listPacks (workspaceId : WorkspaceId) (runId : AgentRunId) :
    RuntimeTxn (List EvidencePack) := do
  let _ ← getRun workspaceId runId
  let store ← getStore
  pure (store.evidencePacks.values.filter fun p =>
    p.workspaceId = workspaceId ∧ p.runId = runId)

/-- `chunk_content`: every part becomes a chunk under the digest of its place. -/
def chunkContent (platform : Platform) (version : KnowledgeSourceVersion) :
    Except Exc (List KnowledgeChunk) := do
  let limits := version.limits
  let source := version.source
  let parts ← (chunkParts version).mapError .domain
  if parts = [] ∨ limits.chunks < parts.length then .error (violation "knowledge_chunk_count")
  else parts.zipIdx.mapM fun ((text, fact), ordinal) => do
    let _ ← (boundedText text limits.chunkChars).mapError .domain
    let contentHash ← platform.hexdigest text
    let id ← platform.hexdigest (Json.dumps (.spaced true) (.arr [.str source.workspaceId.value,
      .str source.id.value, .int source.contentVersion.value, .str chunkingAlgorithm,
      .int limits.chunkChars, .int ordinal, .str contentHash]))
    let id ← (OpaqueId.parse .knowledgeChunk id).mapError .domain
    .ok ⟨id, source.workspaceId, source.id, source.contentVersion, ordinal, text, contentHash,
      fact⟩

/-- What `publish` asks of a source that is stored, or of a new one. -/
def checkPublished (source : KnowledgeSource) (expected : Option Version) : RuntimeTxn Unit := do
  let store ← getStore
  match store.knowledgeSources.get? source.id with
  | some _ => do
      let previous ← getSource source.workspaceId source.id
      raiseIf (expected ≠ some previous.version)
        (.domain (.versionConflict (py "KnowledgeSource") source.id.value
          ((expected.map Version.value).getD 0) previous.version.value))
      raiseIf (source ≠ previous.successor ∨ previous.status ≠ .active)
        (violation "knowledge_lineage_immutable_or_disabled")
  | none => do
      raiseIf (expected ≠ none ∨ source.version ≠ .initial ∨ source.contentVersion ≠ .initial ∨
          source.status ≠ .active)
        (violation "knowledge_initial_version")
      raiseIf (100 ≤ (store.knowledgeSources.values.filter
          (·.workspaceId = source.workspaceId)).length)
        (violation "knowledge_workspace_source_limit")

/-- The checks of `publish`. -/
def checkPublish (platform : Platform) (version : KnowledgeSourceVersion)
    (chunks : List KnowledgeChunk) (expected : Option Version) : RuntimeTxn Unit := do
  let source := version.source
  let _ ← inDomain (getWorkspace source.workspaceId)
  checkPublished source expected
  let store ← getStore
  raiseIf (store.knowledgeVersions.contains version.key = true ∨ 20 < source.contentVersion.value)
    (violation "knowledge_version_history_bound")
  let cut ← Txn.ofExcept (chunkContent platform version)
  raiseIf (chunks ≠ cut) (violation "knowledge_chunk_source_binding")

/-- A published version in the store. -/
def RuntimeStore.published (store : RuntimeStore) (version : KnowledgeSourceVersion)
    (chunks : List KnowledgeChunk) : RuntimeStore :=
  { store with
    knowledgeSources := store.knowledgeSources.put version.source
    knowledgeVersions := store.knowledgeVersions.put version
    knowledgeChunks :=
      store.knowledgeChunks.put ⟨version.source.id, version.source.contentVersion, chunks⟩ }

/-- `InMemoryKnowledgeStore.publish`. -/
def storePublished (platform : Platform) (version : KnowledgeSourceVersion)
    (chunks : List KnowledgeChunk) (expected : Option Version) : RuntimeTxn Unit := atomic do
  checkPublish platform version chunks expected
  modifyStore fun store => store.published version chunks

/-- `InMemoryKnowledgeStore.disable`. -/
def storeDisabled (workspaceId : WorkspaceId) (sourceId : KnowledgeSourceId)
    (expected : Version) : RuntimeTxn KnowledgeSource := atomic do
  let previous ← getSource workspaceId sourceId
  raiseIf (expected ≠ previous.version)
    (.domain (.versionConflict (py "KnowledgeSource") sourceId.value expected.value
      previous.version.value))
  raiseIf (previous.status ≠ .active) (violation "knowledge_already_disabled")
  let updated := { previous with version := previous.version.next, status := .disabled }
  modifyStore fun store =>
    { store with knowledgeSources := store.knowledgeSources.put updated }
  pure updated

/-- `scope.source_ids`, or what a query asks for. -/
def KnowledgeQuery.sources (query : KnowledgeQuery) (d : AgentDefinitionVersion) :
    List KnowledgeSourceId :=
  if query.sourceFilters = [] then d.knowledgeSources else query.sourceFilters

/-- `scope.trust_classes`, or what a query asks for. -/
def KnowledgeQuery.trust (query : KnowledgeQuery) (d : AgentDefinitionVersion) :
    List TrustClass :=
  if query.trustFilters = [] then d.knowledgeTrust else query.trustFilters

/-- The filters of a query stay in the scope of the definition. -/
def KnowledgeQuery.inScope (query : KnowledgeQuery) (d : AgentDefinitionVersion) : Prop :=
  d.knowledgeSources ≠ [] ∧ (∀ id ∈ query.sourceFilters, id ∈ d.knowledgeSources) ∧
    ∀ trust ∈ query.trustFilters, trust ∈ d.knowledgeTrust

instance (query : KnowledgeQuery) (d : AgentDefinitionVersion) : Decidable (query.inScope d) :=
  inferInstanceAs (Decidable (_ ∧ _))

/-- What `save_pack` asks of each candidate, after the candidates before it. -/
def checkPackCandidates (pack : EvidencePack) (d : AgentDefinitionVersion) :
    List EvidenceCandidate → List EvidenceCandidate → RuntimeTxn Unit
  | _, [] => pure ()
  | before, candidate :: rest => do
      let chunk := candidate.chunk
      let source ← getSource pack.workspaceId chunk.sourceId
      let version ← getSourceVersion pack.workspaceId chunk.sourceId chunk.sourceVersion
      raiseIf (chunk.workspaceId ≠ pack.workspaceId ∨ chunk.sourceId ∉ d.knowledgeSources ∨
          source.trust ∉ d.knowledgeTrust ∨ source.status ≠ .active ∨
          source.contentVersion ≠ chunk.sourceVersion ∨ source.id ∉ pack.query.sources d ∨
          source.trust ∉ pack.query.trust d)
        (violation "knowledge_pack_evidence_binding")
      let chunks ← getChunks pack.workspaceId source.id chunk.sourceVersion
      raiseIf (chunk ∉ chunks ∨ candidate.sourceName ≠ version.source.name ∨
          candidate.trust ≠ version.source.trust ∨ candidate.sourceCreatedAt ≠ version.createdAt)
        (violation "knowledge_pack_evidence_binding")
      raiseIf (before.any (fun c => c.chunk.sourceId = source.id ∧
            c.chunk.contentHash = chunk.contentHash) = true ∨
          pack.query.maxPerSource < (before.filter (·.chunk.sourceId = source.id)).length + 1 ∨
          candidate.score ≤ 0)
        (violation "knowledge_pack_duplicate_or_diversity")
      checkPackCandidates pack d (before ++ [candidate]) rest

/-- The checks of `save_pack`. -/
def checkPack (platform : Platform) (pack : EvidencePack) : RuntimeTxn Unit := do
  let run ← getRun pack.workspaceId pack.runId
  let store ← getStore
  raiseIf (store.evidencePacks.contains pack.id = true ∨
      pack.query.workspaceId ≠ pack.workspaceId)
    (violation "knowledge_pack_identity_or_limit")
  let packs ← listPacks pack.workspaceId pack.runId
  raiseIf (5 ≤ packs.length) (violation "knowledge_pack_identity_or_limit")
  let size ← Txn.ofExcept (pack.contextChars platform.scoreText)
  raiseIf (pack.query.maxContextChars < size ∨ run.status ≠ .running ∨
      run.workingState.invocationPending = true ∨
      ¬(run.createdAt ≤ pack.createdAt ∧ pack.createdAt < run.deadline))
    (violation "knowledge_pack_identity_or_limit")
  raiseIf (¬pack.query.inScope run.definitionVersion) (violation "knowledge_pack_query_scope")
  checkPackCandidates pack run.definitionVersion [] pack.result.candidates

/-- `save_pack`. -/
def savePack (platform : Platform) (pack : EvidencePack) : RuntimeTxn Unit := atomic do
  checkPack platform pack
  modifyStore fun store => { store with evidencePacks := store.evidencePacks.put pack }

/-! ## What a run may use -/

/-- What `active_pack` asks of a candidate: its source is active and in scope, and its
chunk is stored. -/
def checkAuthorized (run : AgentRun) (item : EvidenceCandidate) : RuntimeTxn Unit := do
  let source ← getSource run.workspaceId item.chunk.sourceId
  raiseIf (source.status ≠ .active ∨ source.id ∉ run.definitionVersion.knowledgeSources ∨
      source.trust ∉ run.definitionVersion.knowledgeTrust)
    (violation "knowledge_evidence_revoked_or_invalid")
  let chunks ← getChunks run.workspaceId source.id item.chunk.sourceVersion
  raiseIf (item.chunk ∉ chunks) (violation "knowledge_evidence_revoked_or_invalid")

/-- `active_pack`. -/
def activePack (run : AgentRun) : RuntimeTxn (Option EvidencePack) :=
  match run.workingState.activeEvidencePackId with
  | none => pure none
  | some packId => do
      let pack ← getPack run.workspaceId run.id packId
      forEach pack.result.candidates (checkAuthorized run)
      pure (some pack)

/-- The facts of a pack, under the references of their chunks. -/
def EvidencePack.facts (pack : EvidencePack) : Except Exc (List Fact) :=
  (pack.result.candidates.filterMap fun item =>
    item.chunk.fact.map fun fact => (item.chunk, fact)).mapM fun (chunk, fact) => do
      let reference ← chunk.reference
      .ok ⟨fact.key, fact.value, reference⟩

/-- `KnowledgeService.evidence`. -/
def packEvidence (run : AgentRun) : RuntimeTxn (List Fact) := do
  let pack ← activePack run
  match pack with
  | none => pure []
  | some pack => Txn.ofExcept pack.facts

/-! ## Publishing -/

/-- `_source_event` with the check of the store's `append_event`. -/
def sourceEvent (env : Env) (source : KnowledgeSource) (kind : EventType)
    (metadata : List (String × PyStr)) : RuntimeTxn Unit := do
  let id ← fresh env .event
  let at' ← now env
  let pairs ← checked (cleanMetadata metadata)
  let event ← checked (Event.create id source.workspaceId kind .knowledgeSource source.id.text
    source.version at' pairs)
  let stored ← getSource source.workspaceId source.id
  let store ← getStore
  raiseIf (event.entityVersion ≠ stored.version ∨ event.id ∈ store.knowledgeEvents.map Event.id)
    (violation "knowledge_event_binding")
  modifyStore fun store => { store with knowledgeEvents := store.knowledgeEvents ++ [event] }

/-- `_publish`, with what the ingestor has made of the bytes. -/
def publishContent (platform : Platform) (limits : IngestionLimits) (source : KnowledgeSource)
    (normalized : Except Exc NormalizedContent) (expected : Option Version) :
    RuntimeTxn Unit := do
  let content ← Txn.ofExcept normalized
  let contentHash ← Txn.ofExcept (platform.hexdigest content.text)
  let at' ← now platform.toEnv
  let version ← checked (KnowledgeSourceVersion.create source content contentHash at' limits)
  let chunks ← Txn.ofExcept (chunkContent platform version)
  storePublished platform version chunks expected
  sourceEvent platform.toEnv source .knowledgeSourcePublished
    [("content_version", pyNat source.contentVersion.value),
      ("chunk_count", pyNat chunks.length), ("content_hash", version.contentHash)]

/-- `PublishKnowledgeSource`, the bytes as the ingestor normalizes them. -/
structure PublishKnowledgeSource where
  workspaceId : WorkspaceId
  name : PyStr
  sourceType : SourceType
  trust : TrustClass
  normalized : Except Exc NormalizedContent

/-- `publish_source`. -/
def publishSource (platform : Platform) (limits : IngestionLimits)
    (command : PublishKnowledgeSource) : RuntimeTxn KnowledgeSource := atomic do
  let _ ← inDomain (getWorkspace command.workspaceId)
  let id ← fresh platform.toEnv .knowledgeSource
  let createdAt ← now platform.toEnv
  let source ← checked (KnowledgeSource.create id command.workspaceId command.name
    command.sourceType command.trust createdAt)
  publishContent platform limits source command.normalized none
  pure source

/-- `publish_version`. -/
def publishSourceVersion (platform : Platform) (limits : IngestionLimits)
    (workspaceId : WorkspaceId) (sourceId : KnowledgeSourceId) (expected : Version)
    (normalized : Except Exc NormalizedContent) : RuntimeTxn KnowledgeSource := atomic do
  let previous ← getSource workspaceId sourceId
  let source := previous.successor
  publishContent platform limits source normalized (some expected)
  pure source

/-- `disable_source`. -/
def disableSource (env : Env) (workspaceId : WorkspaceId) (sourceId : KnowledgeSourceId)
    (expected : Version) : RuntimeTxn KnowledgeSource := atomic do
  let source ← storeDisabled workspaceId sourceId expected
  sourceEvent env source .knowledgeSourceDisabled []
  pure source

/-! ## Retrieving -/

/-- `KnowledgeRetriever.retrieve`. -/
abbrev Retriever := KnowledgeQuery → List EvidenceCandidate → Except Exc RetrievalResult

/-- The version check of the services that change a run. -/
def expectRunVersion (run : AgentRun) (expected : Version) : RuntimeTxn Unit :=
  raiseIf (run.version ≠ expected)
    (.domain (.versionConflict (py "AgentRun") run.id.value expected.value run.version.value))

/-- `KnowledgeService._parents`. -/
def knowledgeParents (run : AgentRun) : RuntimeTxn Unit := do
  let goal ← inDomain (getGoal run.goalId)
  let task ← inDomain (getTask run.taskId)
  let attempt ← inDomain (getTaskAttempt run.taskAttemptId)
  let execution ← inDomain (getExecution run.executionId)
  raiseIf (goal.workspaceId ≠ run.workspaceId ∨ task.workspaceId ≠ run.workspaceId ∨
      attempt.workspaceId ≠ run.workspaceId ∨ execution.workspaceId ≠ run.workspaceId ∨
      task.goalId ≠ goal.id ∨ execution.goalId ≠ goal.id ∨ attempt.taskId ≠ task.id ∨
      attempt.executionId ≠ execution.id ∨ goal.status ≠ .active ∨ task.status ≠ .inProgress ∨
      attempt.status ≠ .running ∨ execution.status ≠ .running)
    (violation "knowledge_active_parent_binding")

/-- The candidates of the sources that a query may see. -/
def eligibleCandidates (workspaceId : WorkspaceId) (trust : List TrustClass) :
    List KnowledgeSourceId → RuntimeTxn (List EvidenceCandidate)
  | [] => pure []
  | sourceId :: rest => do
      let source ← getSource workspaceId sourceId
      if source.status ≠ .active ∨ source.trust ∉ trust then
        eligibleCandidates workspaceId trust rest
      else do
        let version ← getSourceVersion workspaceId sourceId source.contentVersion
        let chunks ← getChunks workspaceId sourceId source.contentVersion
        let others ← eligibleCandidates workspaceId trust rest
        pure ((chunks.map fun chunk =>
          ⟨chunk, source.name, source.trust, version.createdAt, 0⟩) ++ others)

/-- What `_validate_result` asks of each candidate, after the candidates before it. -/
def checkCandidates (query : KnowledgeQuery) (eligible : List EvidenceCandidate) :
    List EvidenceCandidate → List EvidenceCandidate → Except Exc Unit
  | _, [] => .ok ()
  | before, item :: rest =>
      let same := before.filter (·.chunk.sourceId = item.chunk.sourceId)
      if { item with score := 0 } ∉ eligible ∨
          same.any (·.chunk.contentHash = item.chunk.contentHash) = true ∨
          ¬(0 < item.score ∧ item.score ≤ 1) then
        .error (violation "knowledge_candidate_not_authorized")
      else if query.maxPerSource < same.length + 1 then
        .error (violation "knowledge_diversity_bound")
      else checkCandidates query eligible (before ++ [item]) rest

/-- The characters of all candidates. -/
def evidenceChars (platform : Platform) (candidates : List EvidenceCandidate) : Except Exc Nat := do
  let sizes ← candidates.mapM (EvidenceCandidate.contextChars platform.scoreText)
  .ok sizes.sum

/-- `_validate_result`. -/
def validateResult (platform : Platform) (query : KnowledgeQuery) (result : RetrievalResult)
    (eligible : List EvidenceCandidate) : Except Exc Unit :=
  if query.topK < result.candidates.length ∨
      ¬(result.candidates.length ≤ result.candidateCount ∧
        result.candidateCount ≤ eligible.length) ∨
      result.strategy ≠ py "lexical-overlap" ∨ result.strategyVersion ≠ 1 then
    .error (violation "knowledge_retrieval_contract")
  else do
    let size ← evidenceChars platform result.candidates
    if query.maxContextChars < size then .error (violation "knowledge_retrieval_contract")
    else checkCandidates query eligible [] result.candidates

/-- The pack that fits the query: candidates are dropped from the end until it does. -/
def shortenPack (platform : Platform) : Nat → EvidencePack → Except Exc EvidencePack
  | 0, pack => .ok pack
  | fuel + 1, pack => do
      let size ← pack.contextChars platform.scoreText
      if pack.query.maxContextChars < size ∧ pack.result.candidates ≠ [] then
        shortenPack platform fuel pack.shortened
      else .ok pack

/-- `KnowledgeService._run_event`. -/
def knowledgeEvent (env : Env) (run : AgentRun) (kind : EventType)
    (extra : List (String × PyStr)) : RuntimeTxn Unit :=
  runEvent env run kind
    ([("agent_run_id", run.id.value), ("execution_id", run.executionId.value),
      ("task_attempt_id", run.taskAttemptId.value),
      ("agent_definition_id", run.definitionVersion.definition.id.value),
      ("agent_definition_version", pyNat run.definitionVersion.version.value)] ++ extra)

/-- The source versions that a retrieval has used. -/
def sourceVersions (candidates : List EvidenceCandidate) : PyStr :=
  let names := sortedSet (candidates.map fun c =>
    c.chunk.sourceId.value ++ py "@" ++ pyNat c.chunk.sourceVersion.value)
  if names = [] then py "none" else (names.intersperse (py ",")).flatten

/-- The metadata of an executed query. -/
def retrievalMetadata (pack : EvidencePack) (duration : Int) (chars : Nat) :
    List (String × PyStr) :=
  let result := pack.result
  [("evidence_pack_id", pack.id.value), ("query_length", pyNat pack.query.text.length),
    ("strategy", result.strategy), ("strategy_version", pyNat result.strategyVersion),
    ("candidate_count", pyNat result.candidateCount),
    ("returned_count", pyNat result.candidates.length),
    ("duration_ms", pyNat (max 0 duration).toNat), ("evidence_chars", pyNat chars),
    ("source_count", pyNat (result.candidates.map (·.chunk.sourceId)).dedup.length),
    ("source_versions", sourceVersions result.candidates),
    ("truncated", if result.truncated = true then py "true" else py "false")]

/-- The checks of `_retrieve` before it asks the retriever. -/
def checkRetrieval (env : Env) (run : AgentRun) (expected : Version) (query : KnowledgeQuery) :
    RuntimeTxn Unit := do
  expectRunVersion run expected
  raiseIf (run.status ≠ .running ∨ run.workingState.invocationPending = true)
    (violation "knowledge_requires_idle_active_run")
  let at' ← now env
  raiseIf (run.deadline ≤ at') (violation "knowledge_requires_idle_active_run")
  knowledgeParents run
  raiseIf (query.workspaceId ≠ run.workspaceId ∨ ¬query.inScope run.definitionVersion)
    (violation "knowledge_query_scope_denied")
  let packs ← listPacks run.workspaceId run.id
  raiseIf (5 ≤ packs.length) (violation "knowledge_queries_per_run")

/-- The pack that a retriever's answer leads to. -/
def packOf (platform : Platform) (run : AgentRun) (query : KnowledgeQuery)
    (result : RetrievalResult) : RuntimeTxn EvidencePack := do
  let at' ← now platform.toEnv
  raiseIf (run.deadline ≤ at') (violation "knowledge_deadline_exceeded")
  let id ← fresh platform.toEnv .evidencePack
  let createdAt ← now platform.toEnv
  let full ← checked (EvidencePack.create ⟨id, run.workspaceId, run.id, query, result, createdAt⟩)
  let pack ← Txn.ofExcept (shortenPack platform result.candidates.length full)
  let size ← Txn.ofExcept (pack.contextChars platform.scoreText)
  raiseIf (query.maxContextChars < size) (violation "knowledge_pack_envelope_exceeds_budget")
  pure pack

/-- `_retrieve`. -/
def retrievePack (platform : Platform) (retriever : Retriever) (workspaceId : WorkspaceId)
    (runId : AgentRunId) (expected : Version) (query : KnowledgeQuery) :
    RuntimeTxn EvidencePack := atomic do
  let env := platform.toEnv
  let run ← getRun workspaceId runId
  checkRetrieval env run expected query
  let started ← now env
  let eligible ← eligibleCandidates workspaceId (query.trust run.definitionVersion)
    (query.sources run.definitionVersion)
  let result ← Txn.ofExcept (retriever query eligible)
  Txn.ofExcept (validateResult platform query result eligible)
  let pack ← packOf platform run query result
  savePack platform pack
  let at' ← now env
  let updated ← checked (run.evolve at' {
    workingState := some { run.workingState with activeEvidencePackId := some pack.id } })
  saveRun updated run.version none
  let ended ← now env
  let chars ← Txn.ofExcept (evidenceChars platform pack.result.candidates)
  knowledgeEvent env updated .knowledgeQueryExecuted
    (retrievalMetadata pack (platform.milliseconds (ended - started)) chars)
  knowledgeEvent env updated .evidencePackCreated [("evidence_pack_id", pack.id.value)]
  pure pack

/-- The audit commit of a query that raised a domain error; the error goes on. -/
def rejectRetrieval (env : Env) (workspaceId : WorkspaceId) (runId : AgentRunId) (e : Exc) :
    RuntimeTxn EvidencePack :=
  match e with
  | .domain error => do
      atomic do
        let run ← getRun workspaceId runId
        knowledgeEvent env run .knowledgeQueryRejected [("error_code", error.code)]
      raise e
  | _ => raise e

/-- `KnowledgeService.retrieve`. -/
def retrieveKnowledge (platform : Platform) (retriever : Retriever) (workspaceId : WorkspaceId)
    (runId : AgentRunId) (expected : Version) (query : KnowledgeQuery) :
    RuntimeTxn EvidencePack :=
  catching (retrievePack platform retriever workspaceId runId expected query)
    (rejectRetrieval platform.toEnv workspaceId runId)

/-- What the memory store and its retriever answer: whether the query is in scope and
below the limit of packs, and the hits of the saved pack with its rendered length. -/
structure MemoryAnswer where
  inScope : Bool
  pack : Except Exc (Nat × Nat)

/-- `MemoryService.retrieve`, as far as it concerns the run. -/
def retrieveMemory (env : Env) (answer : MemoryAnswer) (workspaceId : WorkspaceId)
    (runId : AgentRunId) (expected : Version) : RuntimeTxn Unit := atomic do
  let run ← getRun workspaceId runId
  expectRunVersion run expected
  let at' ← now env
  raiseIf (run.status ≠ .running ∨ run.workingState.invocationPending = true ∨
      run.deadline ≤ at' ∨ answer.inScope = false)
    (violation "memory_query_scope_or_run_state")
  let id ← fresh env .memoryContextPack
  let (hits, chars) ← Txn.ofExcept answer.pack
  let updated ← checked (run.evolve at' {
    workingState := some { run.workingState with activeMemoryPackId := some id } })
  saveRun updated run.version none
  let metadata := [("memory_pack_id", id.value),
    ("strategy_version", py "exact-subject-lexical-v1"),
    ("returned_count", pyNat hits), ("memory_chars", pyNat chars)]
  runEvent env updated .memoryRetrieved metadata
  runEvent env updated .memoryContextPackCreated metadata

end AgentCompanyOS.Runtime
