import AgentCompanyOS.Memory.Store
import AgentCompanyOS.Runtime.Dispatch

/-!
# The memory service

`MemoryService`: trusted host commands for reviewed, scoped retained memory. Provenance is
compared with the evidence of the source run, which the code indexes by source id first; of
several statements with one source id the index keeps the last.
-/

set_option autoImplicit false

namespace AgentCompanyOS.Memory

open Foundation Foundation.Txn Domain AgentCompanyOS.Runtime

/-- What a host gives the service: identifiers and a clock, Python's `str.casefold`, the
secrets that the policy detects, the retriever, and which of the two evidence ports are
there. -/
structure MemoryPlatform extends Env where
  casefold : PyStr → PyStr
  secret : PyStr → Bool
  retriever : MemoryQuery → List MemoryEntry → Except Exc MemoryRetrievalResult
  knowledge : Bool
  tools : Bool

variable (platform : MemoryPlatform)

/-! ## Provenance -/

/-- `ProposeMemoryCandidate`. -/
structure ProposeMemoryCandidate where
  workspaceId : WorkspaceId
  runId : AgentRunId
  memoryType : MemoryType
  subject : PyStr
  content : PyStr
  scope : MemoryScope
  provenance : MemoryProvenance
  sensitivity : MemorySensitivity
  claimKey : Option PyStr
  claimValue : Option PyStr
  expiresAt : Option Instant

/-- A value under a source id: of a fact with its key, or of a text without one. -/
structure Statement where
  sourceId : PyStr
  key : Option PyStr
  value : PyStr
deriving DecidableEq

def Statement.ofFact (fact : Fact) : Statement := ⟨fact.sourceId, some fact.key, fact.value⟩

def Statement.ofText (source : SourceText) : Statement := ⟨source.sourceId, none, source.text⟩

/-- What the caller has told a run, the facts before the texts. -/
def userStatements (run : AgentRun) : List Statement :=
  run.context.facts.map Statement.ofFact ++ run.context.sourceTexts.map Statement.ofText

/-- A statement says what a proposal claims: the key and the value, or as a text the value. -/
def Statement.claims (statement : Statement) (command : ProposeMemoryCandidate) : Prop :=
  (command.claimKey = statement.key ∧ command.claimValue = some statement.value) ∨
    (statement.key = none ∧ command.claimValue = some statement.value)

instance (statement : Statement) (command : ProposeMemoryCandidate) :
    Decidable (statement.claims command) := inferInstanceAs (Decidable (_ ∨ _))

/-- The statement that the index of the code keeps under a source id. -/
def indexed (statements : List Statement) (reference : PyStr) : Option Statement :=
  (Registry.ofList statements : Registry Statement.sourceId).get? reference

/-- What `_validate_provenance` asks of the statements of a user or of a tool. -/
def checkStatements (rule : String) (statements : List Statement)
    (command : ProposeMemoryCandidate) : Except Exc Unit :=
  let references := command.provenance.sourceReferences
  if ¬((∀ r ∈ references, (indexed statements r).isSome = true) ∧
      ∃ r ∈ references, ∃ s ∈ indexed statements r, command.content = s.value) then
    .error (violation rule)
  else if command.claimKey ≠ none ∧
      ¬∃ r ∈ references, ∃ s ∈ indexed statements r, s.claims command then
    .error (violation "memory_claim_provenance")
  else .ok ()

/-- What `_validate_provenance` asks of the result of a task. -/
def checkTaskResult (result : Option ResearchBrief) (command : ProposeMemoryCandidate) :
    Except Exc Unit :=
  match result with
  | none => .error (violation "memory_task_result_provenance")
  | some brief =>
      if ¬∀ r ∈ command.provenance.sourceReferences, r ∈ brief.sourceReferences then
        .error (violation "memory_task_result_provenance")
      else if command.content ∉ brief.summary :: brief.findings.map Fact.value then
        .error (violation "memory_task_result_content")
      else if command.claimKey ≠ none ∧ ¬∃ fact ∈ brief.findings,
          command.claimKey = some fact.key ∧ command.claimValue = some fact.value then
        .error (violation "memory_claim_provenance")
      else .ok ()

/-- `_validate_provenance`. -/
def validateProvenance (run : AgentRun) (command : ProposeMemoryCandidate) : MemoryTxn Unit :=
  match command.provenance.kind with
  | .userStatement =>
      Txn.ofExcept (checkStatements "memory_user_statement_provenance" (userStatements run) command)
  | .toolReceipt => do
      raiseIf (platform.tools = false) (violation "memory_tool_provenance_unavailable")
      let facts ← inRuntime (evidence run)
      Txn.ofExcept (checkStatements "memory_tool_receipt_provenance"
        (facts.map Statement.ofFact) command)
  | .knowledgeEvidence => do
      raiseIf (platform.knowledge = false) (violation "memory_knowledge_provenance_unavailable")
      let facts ← inRuntime (packEvidence run)
      raiseIf (¬∀ r ∈ command.provenance.sourceReferences, r ∈ facts.map Fact.sourceId)
        (violation "memory_knowledge_provenance")
  | .taskResult => Txn.ofExcept (checkTaskResult run.result command)
  | .agentOutput =>
      raiseIf (¬∀ r ∈ command.provenance.sourceReferences, r = py "agent_run:" ++ run.id.value)
        (violation "memory_agent_output_provenance")

/-! ## Proposing and reviewing -/

/-- The candidate that a command proposes. -/
def ProposeMemoryCandidate.fields (command : ProposeMemoryCandidate) (id : MemoryCandidateId)
    (at' : Instant) : CandidateFields where
  id := id
  workspaceId := command.workspaceId
  memoryType := command.memoryType
  subject := command.subject
  content := command.content
  scope := command.scope
  provenance := command.provenance
  sensitivity := command.sensitivity
  createdAt := at'
  claimKey := command.claimKey
  claimValue := command.claimValue
  expiresAt := command.expiresAt
  status := .proposed
  version := .initial
  policyVersion := policyVersion
  rejectionReason := none

/-- A proposed candidate after the policy has seen it. -/
def MemoryCandidate.judged (secret : PyStr → Bool) (c : MemoryCandidate) :
    Except DomainError MemoryCandidate :=
  match (c.evaluate secret).decision with
  | .requiresReview => c.review
  | .reject => c.reject (c.evaluate secret).reason

/-- The events of a candidate that the policy has seen. -/
def judgedEvents (updated : MemoryCandidate) (reason : PyStr) : MemoryTxn Unit := do
  candidateEvent platform.toEnv updated .memoryCandidateCreated []
  candidateEvent platform.toEnv updated
    (if updated.status = .underReview then .memoryReviewRequested else .memoryCandidateRejected)
    [("reason", reason)]

/-- What `propose` does with a candidate that has been filed. -/
def judge (proposed : MemoryCandidate) : MemoryTxn MemoryCandidate := do
  let updated ← checked (proposed.judged platform.secret)
  saveCandidate platform.casefold updated proposed.version
  judgedEvents platform updated (proposed.evaluate platform.secret).reason
  pure updated

/-- `propose`. -/
def propose (command : ProposeMemoryCandidate) : MemoryTxn MemoryCandidate := atomic do
  let run ← inRuntime (getRun command.workspaceId command.runId)
  raiseIf (command.provenance.runId ≠ run.id ∨ run.status ≠ .succeeded)
    (violation "memory_candidate_requires_successful_source_run")
  validateProvenance platform run command
  let id ← fresh platform.toEnv .memoryCandidate
  let at' ← now platform.toEnv
  let proposed ← checked (MemoryCandidate.create (command.fields id at'))
  let stored ← addCandidate platform.casefold proposed
  if stored.id ≠ proposed.id then pure stored else judge platform proposed

/-- The version check of the review commands. -/
def expectCandidate (candidate : MemoryCandidate) (expected : Version) : MemoryTxn Unit :=
  raiseIf (candidate.version ≠ expected)
    (.domain (.versionConflict (py "MemoryCandidate") candidate.id.value expected.value
      candidate.version.value))

/-- `reject`. -/
def reject (workspaceId : WorkspaceId) (candidateId : MemoryCandidateId) (expected : Version)
    (reviewerId reason : PyStr) : MemoryTxn MemoryCandidate := atomic do
  let candidate ← getCandidate workspaceId candidateId
  expectCandidate candidate expected
  let updated ← checked (candidate.reject reason)
  saveCandidate platform.casefold updated expected
  candidateEvent platform.toEnv updated .memoryCandidateRejected
    [("reviewer_id", reviewerId), ("reason", reason.take 256)]
  pure updated

/-- The entry that an approval supersedes: of the same scope and subject. -/
def previousEntry (workspaceId : WorkspaceId) (promoted : MemoryCandidate) :
    Option MemoryEntryId → MemoryTxn (Option MemoryEntry)
  | none => pure none
  | some entryId => do
      let previous ← getEntry workspaceId entryId
      raiseIf (previous.scope ≠ promoted.scope ∨
          platform.casefold previous.subject ≠ platform.casefold promoted.subject)
        (violation "memory_supersession_subject_scope")
      pure (some previous)

/-- End the entry that an approval supersedes. -/
def endPrevious (entry : MemoryEntry) (at' : Instant) : Option MemoryEntry → MemoryTxn Unit
  | none => pure ()
  | some previous => do
      let ended ← checked (previous.finish .superseded at'
        (py "superseded_by:" ++ entry.id.value))
      saveEntry ended previous.version
      entryEvent platform.toEnv ended .memorySuperseded [("new_entry_id", entry.id.value)]

/-- `approve`. -/
def approve (workspaceId : WorkspaceId) (candidateId : MemoryCandidateId) (expected : Version)
    (reviewerId : PyStr) (supersedesId : Option MemoryEntryId) : MemoryTxn MemoryEntry :=
  atomic do
    let candidate ← getCandidate workspaceId candidateId
    expectCandidate candidate expected
    let promoted ← checked candidate.promote
    saveCandidate platform.casefold promoted expected
    let at' ← now platform.toEnv
    let previous ← previousEntry platform workspaceId promoted supersedesId
    let id ← fresh platform.toEnv .memoryEntry
    let entry ← checked (MemoryEntry.create
      ⟨id, promoted, reviewerId, at', .active, .initial, supersedesId, none, none⟩)
    addEntry platform.casefold entry
    endPrevious platform entry at' previous
    entryEvent platform.toEnv entry .memoryPromoted [("reviewer_id", reviewerId)]
    pure entry

/-- `revoke`. -/
def revoke (workspaceId : WorkspaceId) (entryId : MemoryEntryId) (expected : Version)
    (reviewerId reason : PyStr) : MemoryTxn MemoryEntry := atomic do
  let entry ← getEntry workspaceId entryId
  raiseIf (entry.version ≠ expected)
    (.domain (.versionConflict (py "MemoryEntry") entry.id.value expected.value
      entry.version.value))
  let at' ← now platform.toEnv
  let updated ← checked (entry.finish .revoked at' reason)
  saveEntry updated expected
  entryEvent platform.toEnv updated .memoryRevoked
    [("reviewer_id", reviewerId), ("reason", reason.take 256)]
  pure updated

/-! ## Retrieving -/

/-- `strategy_version` of the retrieval that the service accepts. -/
def strategyVersion : PyStr := py "exact-subject-lexical-v1"

/-- The entries that a query may see at a time. -/
def eligibleEntries (query : MemoryQuery) (at' : Instant) (entries : List MemoryEntry) :
    List MemoryEntry :=
  entries.filter fun entry => entry.status = .active ∧ ¬entry.isExpired at' ∧
    entry.scope ∈ query.scopes ∧ entry.sensitivity ∈ query.sensitivities

/-- What `_validate_result` asks of each hit, after the hits before it. -/
def checkHits (eligible : List MemoryEntry) : List MemoryEntryId → List MemoryHit → Except Exc Unit
  | _, [] => .ok ()
  | seen, hit :: rest =>
      if hit.entry ∉ eligible ∨ hit.entry.id ∈ seen ∨ ¬(1 ≤ hit.score ∧ hit.score ≤ 2) ∨
          hit.conflictingEntryIds ≠ [] ∨ hit.conflictsWithKnowledge = true then
        .error (violation "memory_retrieval_unauthorized_or_forged")
      else checkHits eligible (seen ++ [hit.entry.id]) rest

/-- `_validate_result`. -/
def validateMemoryResult (query : MemoryQuery) (result : MemoryRetrievalResult)
    (eligible : List MemoryEntry) : Except Exc Unit :=
  if query.topK < result.hits.length ∨ result.strategyVersion ≠ strategyVersion then
    .error (violation "memory_retrieval_contract")
  else checkHits eligible [] result.hits

/-- `self.knowledge.evidence(run)`, or nothing without the port. -/
def knowledgeEvidence (run : AgentRun) : MemoryTxn (List Fact) :=
  if platform.knowledge = true then inRuntime (packEvidence run) else pure []

/-- The value that the code's index of the evidence keeps under a key. -/
def knownValue (facts : List Fact) (key : PyStr) : Option PyStr :=
  ((Registry.ofList facts : Registry Fact.key).get? key).map Fact.value

/-- A hit with its conflicts. -/
def MemoryHit.marked (hit : MemoryHit) (facts : List Fact) (eligible : List MemoryEntry) :
    MemoryHit :=
  let key := hit.entry.candidate.claimKey
  let value := hit.entry.candidate.claimValue
  { hit with
    conflictingEntryIds := (eligible.filter fun other => other.id ≠ hit.entry.id ∧ key ≠ none ∧
      other.candidate.claimKey = key ∧ other.candidate.claimValue ≠ value).map (·.id)
    conflictsWithKnowledge := Decidable.decide
      (∃ k ∈ key, ∃ known ∈ knownValue facts k, some known ≠ value) }

/-- `_mark_conflicts`, with the evidence of the run. -/
def markConflicts (facts : List Fact) (result : MemoryRetrievalResult)
    (eligible : List MemoryEntry) : MemoryRetrievalResult :=
  { result with hits := result.hits.map fun hit => hit.marked facts eligible }

/-- The hits that fit the query: the last ones are dropped until the rest does. -/
def fitHits (maxChars : Nat) : Nat → List MemoryHit → List MemoryHit
  | 0, hits => hits
  | fuel + 1, hits =>
      if maxChars < (serializeMemoryPack hits).length ∧ hits ≠ [] then
        fitHits maxChars fuel hits.dropLast
      else hits

/-- The checks of `retrieve` before it asks the retriever. -/
def checkMemoryQuery (run : AgentRun) (workspaceId : WorkspaceId) (query : MemoryQuery)
    (at' : Instant) : MemoryTxn Unit := do
  let access := run.definitionVersion
  raiseIf (run.status ≠ .running ∨ run.workingState.invocationPending = true ∨
      run.deadline ≤ at' ∨ query.workspaceId ≠ workspaceId ∨ access.memoryScopes = [] ∨
      ¬(∀ scope ∈ query.scopes, scope ∈ access.memoryScopes) ∨
      ¬(∀ s ∈ query.sensitivities, s ∈ access.memorySensitivities))
    (violation "memory_query_scope_or_run_state")
  let packs ← listMemoryPacks workspaceId run.id
  raiseIf (5 ≤ packs.length) (violation "memory_query_scope_or_run_state")

/-- The pack of a result that has been marked. -/
def memoryPackOf (id : MemoryContextPackId) (workspaceId : WorkspaceId) (runId : AgentRunId)
    (query : MemoryQuery) (result : MemoryRetrievalResult) (at' : Instant) :
    Except DomainError MemoryContextPack := do
  let provisional ← MemoryContextPack.create ⟨id, workspaceId, runId, query, result, at', 0⟩
  let hits := fitHits query.maxContextChars result.hits.length result.hits
  MemoryContextPack.create { provisional.toPackFields with
    result := { result with hits := hits }
    contextChars := (serializeMemoryPack hits).length }

/-- The metadata of a retrieval. -/
def memoryMetadata (pack : MemoryContextPack) : List (String × PyStr) :=
  [("memory_pack_id", pack.id.value), ("strategy_version", pack.result.strategyVersion),
    ("returned_count", pyNat pack.result.hits.length), ("memory_chars", pyNat pack.contextChars)]

/-- The run that a pack is made active on. -/
def activatePack (run : AgentRun) (pack : MemoryContextPack) (at' : Instant) :
    RuntimeTxn Unit := do
  let updated ← checked (run.evolve at' {
    workingState := some { run.workingState with activeMemoryPackId := some pack.id } })
  saveRun updated run.version none
  runEvent platform.toEnv updated .memoryRetrieved (memoryMetadata pack)
  runEvent platform.toEnv updated .memoryContextPackCreated (memoryMetadata pack)

/-- `retrieve`. -/
def retrieve (workspaceId : WorkspaceId) (runId : AgentRunId) (expected : Version)
    (query : MemoryQuery) : MemoryTxn MemoryContextPack := atomic do
  let run ← inRuntime (getRun workspaceId runId)
  inRuntime (expectRunVersion run expected)
  let at' ← now platform.toEnv
  checkMemoryQuery run workspaceId query at'
  let entries ← listEntries workspaceId
  let eligible := eligibleEntries query at' entries
  let result ← Txn.ofExcept (platform.retriever query eligible)
  Txn.ofExcept (validateMemoryResult query result eligible)
  let facts ← knowledgeEvidence platform run
  let id ← fresh platform.toEnv .memoryContextPack
  let pack ← checked (memoryPackOf id workspaceId runId query
    (markConflicts facts result eligible) at')
  saveMemoryPack pack
  inRuntime (activatePack platform run pack at')
  pure pack

/-! ## What a run may use -/

end AgentCompanyOS.Memory
