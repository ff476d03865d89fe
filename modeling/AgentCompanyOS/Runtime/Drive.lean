import AgentCompanyOS.Runtime.Dispatch
import AgentCompanyOS.Runtime.Retrieval

/-!
# Driving an agent run

`AgentRuntimeService`, cut at its awaits: the entry check of `drive`, the claim of an
iteration, the two transactions that record a decision, and the failure transaction
that every error path ends in. The language model, the memory store and the messages are
outside the model; what they answer is an input of the transaction.
-/

set_option autoImplicit false

namespace AgentCompanyOS.Runtime

open Foundation Foundation.Txn Domain

/-! ## Shared steps -/

/-- `AgentRuntimeService._event`. -/
def agentEvent (env : Env) (run : AgentRun) (kind : EventType) (extra : List (String × PyStr)) :
    RuntimeTxn Unit :=
  runEvent env run kind
    ([("execution_id", run.executionId.value), ("task_id", run.taskId.value),
      ("task_attempt_id", run.taskAttemptId.value), ("agent_run_id", run.id.value),
      ("agent_definition_id", run.definitionVersion.definition.id.value),
      ("agent_definition_version", pyNat run.definitionVersion.version.value),
      ("iteration", pyNat run.workingState.iteration),
      ("model_name", run.definitionVersion.modelName.val),
      ("policy_version", run.policyVersion.val), ("runtime_protocol", run.runtimeProtocol.val),
      ("evaluator_version", run.evaluatorVersion.val), ("status", run.status.value.val)] ++ extra)

/-- The transition that `_save` records when the status changes. -/
def statusTransition (env : Env) (previous updated : AgentRun) (kind : EventType) :
    RuntimeTxn (Option StateTransition) :=
  if previous.status ≠ updated.status then do
    let id ← fresh env .stateTransition
    let at' ← now env
    let transition ← checked (StateTransition.create id updated.workspaceId .agentRun
      updated.id.text previous.status.value updated.status.value kind.value previous.version
      updated.version at')
    pure (some transition)
  else pure none

/-- `_save`. -/
def saveEvolved (env : Env) (previous updated : AgentRun) (kind : EventType) :
    RuntimeTxn Unit := do
  let transition ← statusTransition env previous updated kind
  saveRun updated previous.version transition
  agentEvent env updated kind []

/-- The parents of a run, read together. -/
structure RuntimeSnapshot where
  goal : Goal
  task : Task
  attempt : TaskAttempt
  execution : Execution

def RuntimeSnapshot.versions (s : RuntimeSnapshot) : List Version :=
  [s.goal.version, s.task.version, s.attempt.version, s.execution.version]

/-- The workspace check of `_parents` on one parent. -/
def sameRunWorkspace (run : AgentRun) (actual : WorkspaceId) : RuntimeTxn Unit :=
  raiseIf (actual ≠ run.workspaceId)
    (.domain (.workspaceMismatch (py "AgentRun") run.workspaceId.value actual.value))

/-- `AgentRuntimeService._parents`. -/
def runParents (run : AgentRun) (waiting : Bool) : RuntimeTxn RuntimeSnapshot := do
  let attempt ← inDomain (getTaskAttempt run.taskAttemptId)
  let task ← inDomain (getTask run.taskId)
  let execution ← inDomain (getExecution run.executionId)
  let goal ← inDomain (getGoal run.goalId)
  forEach [attempt.workspaceId, task.workspaceId, execution.workspaceId, goal.workspaceId,
    run.context.workspaceId, run.definitionVersion.definition.workspaceId] (sameRunWorkspace run)
  raiseIf (attempt.taskId ≠ task.id ∨ attempt.executionId ≠ execution.id ∨
      task.goalId ≠ goal.id ∨ execution.goalId ≠ goal.id ∨ run.context.taskId ≠ task.id)
    (violation "runtime_parent_bindings")
  raiseIf (attempt.status ≠ .running ∨ task.status ≠ .inProgress ∨
      execution.status ≠ (if waiting = true then .waiting else .running) ∨ goal.status ≠ .active)
    (violation "runtime_parents_must_be_active")
  pure ⟨goal, task, attempt, execution⟩

/-- `_deadline`. -/
def beforeDeadline (env : Env) (run : AgentRun) : RuntimeTxn Unit := do
  let at' ← now env
  raiseIf (run.deadline ≤ at') (.model .deadlineExceeded)

/-! ## Configuration -/

theorem single_agent_visible : strip (py "single-agent-v1") ≠ [] := strip_py_ne_nil _ rfl

/-- The `runtime_protocol` that a host gives a definition. -/
def protocolFor (host : Host) (d : AgentDefinitionVersion) : Text :=
  if host.tools = true ∧ host.governance = true then txt "single-agent-governance-v1"
  else if d.memoryScopes ≠ [] then txt "single-agent-memory-v1"
  else if d.knowledgeSources ≠ [] then txt "single-agent-knowledge-v1"
  else if ActionType.callTool ∈ d.allowedActions then txt "single-agent-tools-v1"
  else txt "single-agent-v1" single_agent_visible

/-- The policy version of a definition without governance. -/
def ungovernedPolicy (d : AgentDefinitionVersion) : Text :=
  if d.memoryScopes ≠ [] then txt "governed-memory-v1"
  else if d.knowledgeSources ≠ [] then txt "bounded-knowledge-tools-v1"
  else if ActionType.callTool ∈ d.allowedActions then txt "read-only-tools-v1"
  else txt "internal-actions-v1"

/-- The `policy_version` of a new run. -/
def policyFor (host : Host) (d : AgentDefinitionVersion) : Text :=
  if host.tools = true ∧ host.governance = true then txt "consequential-actions-v1"
  else ungovernedPolicy d

/-- `ActionPolicy.version_for`. -/
def policyVersionFor (run : AgentRun) : Text :=
  if run.runtimeProtocol = txt "single-agent-governance-v1" then txt "consequential-actions-v1"
  else ungovernedPolicy run.definitionVersion

/-- The `evaluator_version` of a definition. -/
def evaluatorFor (d : AgentDefinitionVersion) : Text :=
  if d.knowledgeSources ≠ [] then txt "knowledge-facts-v1"
  else if ActionType.callTool ∈ d.allowedActions then txt "receipt-facts-v1"
  else txt "supplied-facts-v1"

/-- `ActionPolicy.authorize`. -/
def authorizeDecision (run : AgentRun) (decision : ModelDecision) : RuntimeTxn Unit := do
  raiseIf (decision.actionType ∉ run.definitionVersion.allowedActions) (.model .unauthorizedAction)
  raiseIf (decision.actionType = .completeTask ∧ run.definitionVersion.autonomyCeiling < 1)
    (.model .autonomyDenied)

/-! ## Context -/

/-- What the memory and message ports answer: the characters that the active memory pack
and the messages add to a request. -/
structure PortAnswers where
  memory : Except Exc Nat
  messages : Except Exc Nat

/-- A port that a host may lack. -/
def askPort (present : Bool) (answer : Except Exc Nat) : RuntimeTxn Nat :=
  if present = true then Txn.ofExcept answer else pure 0

/-- The active evidence pack, when the host has knowledge. -/
def knowledgePack (host : Host) (run : AgentRun) : RuntimeTxn (Option EvidencePack) :=
  if host.knowledge = true then activePack run else pure none

/-- The characters that a pack adds to a request. -/
def packChars (platform : Platform) (pack : Option EvidencePack) : RuntimeTxn Nat :=
  match pack with
  | some pack => Txn.ofExcept (pack.contextChars platform.scoreText)
  | none => pure 0

/-- The texts of a fact. -/
def Fact.texts (f : Fact) : List PyStr := [f.key, f.value, f.sourceId]

/-- The texts that `assemble` counts for a tool result. -/
def ToolObservationData.texts (d : ToolObservationData) : List PyStr :=
  [d.notes, d.toolId.value, (d.receiptId.map OpaqueId.value).getD (py "None")] ++
    d.facts.flatMap Fact.texts

/-- The texts that `assemble` counts for an offered tool. -/
def ToolVersion.texts (t : ToolVersion) : List PyStr :=
  [t.definition.name.val, t.definition.description.val, t.inputSchema, t.outputSchema,
    t.definition.id.value]

/-- The texts that `assemble` counts. -/
def contextTexts (run : AgentRun) (goal : Goal) (task : Task) (tools : List ToolVersion) :
    List PyStr :=
  [goal.objective.val, task.title.val] ++ goal.constraints.map Subtype.val ++
    task.acceptanceCriteria.val.map Subtype.val ++
    [run.definitionVersion.instructions.val, run.definitionVersion.role.val] ++
    run.context.requiredKeys ++ run.context.facts.flatMap Fact.texts ++
    run.context.sourceTexts.map (fun s => s.text ++ s.sourceId) ++
    run.workingState.observations.map Observation.message ++
    run.workingState.observations.flatMap
      (fun o => (o.toolResult.map ToolObservationData.texts).getD []) ++
    tools.flatMap ToolVersion.texts

/-- `ContextAssembler.assemble`: the bound on the size of a request. -/
def assemble (run : AgentRun) (goal : Goal) (task : Task) (tools : List ToolVersion)
    (added : Nat) : RuntimeTxn Unit :=
  raiseIf (run.limits.maxContextChars <
      ((contextTexts run goal task tools).map List.length).sum + added)
    (.model .contextOverflow)

/-! ## Starting -/

/-- The arguments of `start`. -/
structure StartCommand where
  workspaceId : WorkspaceId
  definitionId : AgentDefinitionId
  definitionVersion : Version
  attemptId : TaskAttemptId
  context : SuppliedContext
  limits : RuntimeLimits
  organizationVersion : Option Version

/-- `start`. -/
def startRun (env : Env) (host : Host) (c : StartCommand) : RuntimeTxn AgentRun := atomic do
  let definition ← getDefinition c.workspaceId c.definitionId c.definitionVersion
  let attempt ← inDomain (getTaskAttempt c.attemptId)
  let task ← inDomain (getTask attempt.taskId)
  raiseIf (definition.modelName ≠ host.modelName)
    (violation "model_must_match_published_configuration")
  let id ← fresh env .agentRun
  let createdAt ← now env
  let startedAt ← now env
  let run ← checked (AgentRun.create {
    id := id
    workspaceId := c.workspaceId
    executionId := attempt.executionId
    taskAttemptId := attempt.id
    taskId := task.id
    goalId := task.goalId
    definitionVersion := definition
    limits := c.limits
    context := c.context
    createdAt := createdAt
    deadline := startedAt + seconds c.limits.executionSeconds
    version := .initial
    status := .running
    workingState := .initial
    endedAt := none
    errorCode := none
    result := none
    runtimeProtocol := protocolFor host definition
    policyVersion := policyFor host definition
    evaluatorVersion := evaluatorFor definition
    organizationVersion := c.organizationVersion })
  let _ ← runParents run false
  addRun run
  agentEvent env run .agentRunStarted []
  pure run

/-! ## Claiming an iteration -/

/-- The first transaction of `drive`. -/
def driveEntry (workspaceId : WorkspaceId) (runId : AgentRunId) (expectedVersion : Version) :
    RuntimeTxn AgentRun := atomic do
  let run ← getRun workspaceId runId
  expectRunVersion run expectedVersion
  raiseIf (run.status ≠ .running ∨ run.workingState.invocationPending = true)
    (violation "run_not_available_for_drive")
  pure run

/-- A claimed iteration on its way to the model. -/
structure ClaimedIteration where
  claimed : AgentRun
  snapshot : RuntimeSnapshot
  started : Instant

/-- The configuration checks of the claiming transaction. -/
def checkConfiguration (host : Host) (run : AgentRun) : RuntimeTxn Unit := do
  let d := run.definitionVersion
  raiseIf (host.modelName ≠ d.modelName) (violation "model_binding_changed")
  raiseIf (run.policyVersion ≠ policyVersionFor run ∨ run.runtimeProtocol ≠ protocolFor host d ∨
      run.evaluatorVersion ≠ evaluatorFor d)
    (violation "runtime_configuration_version_changed")
  raiseIf (run.workingState.invocationPending = true) (violation "duplicate_invocation")
  raiseIf (run.workingState.activeEvidencePackId ≠ none ∧ host.knowledge = false)
    (violation "knowledge_adapter_required")
  raiseIf (run.workingState.activeMemoryPackId ≠ none ∧ host.memory = false)
    (violation "memory_adapter_required")
  raiseIf (d.memoryScopes ≠ [] ∧ host.memory = false) (violation "memory_adapter_required")

/-- The tools that a request offers. -/
def offeredTools (host : Host) (claimed : AgentRun) : RuntimeTxn (List ToolVersion) :=
  if host.tools = true then descriptors host claimed else pure []

/-- The request that follows a claim. -/
def assembleRequest (platform : Platform) (host : Host) (ports : PortAnswers)
    (claimed : AgentRun) (snapshot : RuntimeSnapshot) : RuntimeTxn Unit := do
  let tools ← offeredTools host claimed
  let pack ← knowledgePack host claimed
  let memory ← askPort host.memory ports.memory
  let messages ← askPort host.communication ports.messages
  let knowledge ← packChars platform pack
  assemble claimed snapshot.goal snapshot.task tools (knowledge + memory + messages)

/-- The transaction of `drive` that claims an iteration. -/
def driveClaim (platform : Platform) (host : Host) (ports : PortAnswers)
    (workspaceId : WorkspaceId) (runId : AgentRunId) :
    RuntimeTxn ClaimedIteration := atomic do
  let env := platform.toEnv
  let run ← getRun workspaceId runId
  let snapshot ← runParents run false
  beforeDeadline env run
  checkConfiguration host run
  let state := { run.workingState with
    iteration := run.workingState.iteration + 1
    invocationPending := true }
  let at' ← now env
  let claimed ← checked (run.evolve at' { workingState := some state })
  saveEvolved env run claimed .modelInvocationRequested
  assembleRequest platform host ports claimed snapshot
  let started ← now env
  pure ⟨claimed, snapshot, started⟩

/-! ## Recording a decision -/

/-- The checks that start both decision transactions. -/
def currentIteration (env : Env) (host : Host) (ports : PortAnswers) (workspaceId : WorkspaceId)
    (runId : AgentRunId) (claimed : AgentRun) : RuntimeTxn AgentRun := do
  let current ← getRun workspaceId runId
  expectRunVersion current claimed.version
  beforeDeadline env current
  let _ ← knowledgePack host current
  let _ ← askPort host.memory ports.memory
  pure current

/-- The transaction of `drive` for a decision that calls a tool. -/
def driveToolAction (env : Env) (host : Host) (ports : PortAnswers) (workspaceId : WorkspaceId)
    (runId : AgentRunId) (iteration : ClaimedIteration) (decision : ModelDecision) :
    RuntimeTxn (Action × Version) := atomic do
  let current ← currentIteration env host ports workspaceId runId iteration.claimed
  let parents ← runParents current false
  raiseIf (parents.versions ≠ iteration.snapshot.versions) (.model .versionConflict)
  authorizeDecision current decision
  raiseIf (host.tools = false) (.model .unauthorizedAction)
  let id ← fresh env .action
  let action : Action := ⟨id, current.id, workspaceId, decision, current.workingState.iteration⟩
  appendAction action
  agentEvent env current .modelDecisionReceived []
  agentEvent env current .actionRequested [("action_type", decision.actionType.value.val)]
  pure (action, current.version)

/-- What a decision without a tool does to the run and its parents. -/
structure DecisionEffect where
  status : AgentRunStatus
  result : Option ResearchBrief
  missing : List PyStr
  kind : ObservationKind

/-- The versions of the parents, whatever their status. -/
def parentVersions (run : AgentRun) : RuntimeTxn (List Version) := do
  let goal ← inDomain (getGoal run.goalId)
  let task ← inDomain (getTask run.taskId)
  let attempt ← inDomain (getTaskAttempt run.taskAttemptId)
  let execution ← inDomain (getExecution run.executionId)
  pure [goal.version, task.version, attempt.version, execution.version]

/-- The domain changes of a completed task. -/
def completeParents (env : Env) (latest : RuntimeSnapshot) : RuntimeTxn Unit := do
  let attempt ← inDomain (succeedTaskAttempt env latest.attempt.id latest.attempt.version)
  let _ ← inDomain (completeTask env latest.task.id attempt.id latest.task.version)
  let store ← getStore
  runIf ((store.domain.tasksForGoal latest.goal.id).all (·.status = .completed) = true)
    (discard (inDomain (succeedExecution env latest.execution.id latest.execution.version)))

/-- The facts of the active evidence pack, when the host has knowledge. -/
def knowledgeEvidence (host : Host) (run : AgentRun) : RuntimeTxn (List Fact) :=
  if host.knowledge = true then packEvidence run else pure []

/-- The facts of the run's receipts, when the host has tools. -/
def toolEvidence (host : Host) (run : AgentRun) : RuntimeTxn (List Fact) :=
  if host.tools = true then evidence run else pure []

/-- The branch of a decision that completes the task. -/
def completeRun (env : Env) (host : Host) (current : AgentRun) (latest : RuntimeSnapshot)
    (findings : List Fact) (gaps : List PyStr) :
    RuntimeTxn DecisionEffect := do
  let governed ← governedActions current.workspaceId
  let receipts ← toolReceipts current.workspaceId current.id
  let successful := (receipts.filter (·.output.isSome)).map fun r => some r.invocation.id
  raiseIf ((governed.filter (·.intent.runId = current.id)).any
      (·.invocationId ∉ successful) = true)
    (.model .consequentialActionUnresolved)
  let toolFacts ← toolEvidence host current
  let knowledgeFacts ← knowledgeEvidence host current
  let result ← Txn.ofExcept (validateBrief findings gaps current.context toolFacts knowledgeFacts)
  completeParents env latest
  pure ⟨.succeeded, some result, [], .completionResult⟩

/-- The branches of the decision. -/
def decisionEffect (env : Env) (host : Host) (current : AgentRun) (latest : RuntimeSnapshot) :
    ModelDecision → RuntimeTxn DecisionEffect
  | .completeTask findings gaps => completeRun env host current latest findings gaps
  | .requestMoreContext missing => do
      raiseIf (missing.any (· ∉ current.context.requiredKeys) = true)
        (.model .unsupportedContextRequest)
      let _ ← inDomain (waitExecution env latest.execution.id latest.execution.version)
      pure ⟨.waiting, none, missing, .actionAccepted⟩
  | _ => pure ⟨.running, none, [], .actionAccepted⟩

/-- The event of the status that a decision leads to. -/
def acceptedEvent : AgentRunStatus → EventType
  | .waiting => .agentWaitingForContext
  | .succeeded => .agentRunCompleted
  | _ => .actionAccepted

/-- The end of the decision transaction: the observation and the changed run. -/
def recordDecision (env : Env) (current : AgentRun) (action : Action) (effect : DecisionEffect) :
    RuntimeTxn AgentRun := do
  let actionType := action.decision.actionType.value.val
  let id ← fresh env .observation
  let observation ← checked (Observation.create {
    id := id
    runId := current.id
    workspaceId := current.workspaceId
    kind := effect.kind
    message := actionType
    actionId := some action.id
    provenance := py "runtime"
    trust := py "validated_runtime_metadata"
    toolResult := none })
  appendObservation observation
  let state := { current.workingState with
    invocationPending := false
    missingFields := effect.missing
    observations := current.workingState.observed current.limits.recentObservations observation }
  let at' ← now env
  let updated ← checked (current.evolve at'
    { status := some effect.status, workingState := some state, result := effect.result })
  saveEvolved env current updated (acceptedEvent effect.status)
  runIf (acceptedEvent effect.status ≠ .actionAccepted)
    (agentEvent env updated .actionAccepted [("action_type", actionType)])
  agentEvent env updated .observationRecorded [("observation_id", observation.id.value)]
  pure updated

/-- The transaction of `drive` for a decision that calls no tool. -/
def driveAction (platform : Platform) (host : Host) (ports : PortAnswers)
    (workspaceId : WorkspaceId) (runId : AgentRunId) (iteration : ClaimedIteration)
    (decision : ModelDecision) : RuntimeTxn AgentRun := atomic do
  let env := platform.toEnv
  let current ← currentIteration env host ports workspaceId runId iteration.claimed
  let versions ← parentVersions current
  raiseIf (versions ≠ iteration.snapshot.versions) (.model .versionConflict)
  let latest ← runParents current false
  let at' ← now env
  agentEvent env current .modelDecisionReceived
    [("duration_ms", pyNat (max 0 (platform.milliseconds (at' - iteration.started))).toNat)]
  let id ← fresh env .action
  let action : Action := ⟨id, current.id, workspaceId, decision, current.workingState.iteration⟩
  appendAction action
  agentEvent env current .actionRequested [("action_type", decision.actionType.value.val)]
  authorizeDecision current decision
  let effect ← decisionEffect env host current latest decision
  recordDecision env current action effect

/-! ## Failing, resuming and cancelling -/

/-- The failure codes of the model provider. -/
def isProviderFailure (code : PyStr) : Bool :=
  code ∈ [py "model_timeout", py "provider_unavailable", py "rate_limited", py "model_refused"]

/-- What `_failure` does to the parents. -/
def failParents (env : Env) (attempt : TaskAttempt) (task : Task) (execution : Execution)
    (code : PyStr) (cancelled : Bool) : RuntimeTxn Unit := do
  runIf (attempt.status = .running)
    (discard (inDomain (if cancelled = true then cancelTaskAttempt env attempt.id attempt.version
      else failTaskAttempt env attempt.id attempt.version code)))
  runIf (task.status = .inProgress)
    (discard (inDomain (if cancelled = true then cancelTask env task.id task.version
      else readyTask env task.id task.version)))
  runIf (execution.status = .running ∨ execution.status = .waiting)
    (discard (inDomain (if cancelled = true then cancelExecution env execution.id execution.version
      else failExecution env execution.id execution.version code)))

/-- What `_failure` does to the run. -/
def failRun (env : Env) (run : AgentRun) (code : PyStr) (cancelled : Bool) :
    RuntimeTxn AgentRun := do
  let id ← fresh env .observation
  let observation ← checked (Observation.create {
    id := id
    runId := run.id
    workspaceId := run.workspaceId
    kind := .validationError
    message := code
    actionId := none
    provenance := py "runtime"
    trust := py "validated_runtime_metadata"
    toolResult := none })
  appendObservation observation
  let state := { run.workingState with
    invocationPending := false
    observations := run.workingState.observed run.limits.recentObservations observation }
  let at' ← now env
  let updated ← checked (run.evolve at' {
    status := some (if cancelled = true then .cancelled else .failed)
    workingState := some state
    errorCode := some code })
  saveEvolved env run updated (if cancelled = true then .agentRunCancelled else .agentRunFailed)
  agentEvent env updated .observationRecorded [("observation_id", observation.id.value)]
  agentEvent env updated
    (if isProviderFailure code = true then .modelInvocationFailed else .modelDecisionRejected)
    [("error_code", code)]
  pure updated

/-- `_failure`. -/
def failure (env : Env) (workspaceId : WorkspaceId) (runId : AgentRunId) (code : PyStr)
    (cancelled : Bool) : RuntimeTxn AgentRun := atomic do
  let run ← getRun workspaceId runId
  if run.status.terminal = true then pure run
  else do
    let attempt ← inDomain (getTaskAttempt run.taskAttemptId)
    let execution ← inDomain (getExecution run.executionId)
    let task ← inDomain (getTask run.taskId)
    let cancelled := cancelled || execution.status = .cancelled || task.status = .cancelled
    failParents env attempt task execution code cancelled
    failRun env run code cancelled

/-- The part of `resume` that changes the run. -/
def resumeWith (env : Env) (run : AgentRun) (context : SuppliedContext) : RuntimeTxn AgentRun := do
  raiseIf (context.requiredKeys ≠ run.context.requiredKeys)
    (violation "resume_cannot_change_acceptance_contract")
  let changedAt ← now env
  let changed ← checked (run.evolve changedAt { status := some .running, context := some context })
  let snapshot ← runParents changed true
  let _ ← inDomain (resumeExecution env snapshot.execution.id snapshot.execution.version)
  let id ← fresh env .observation
  let observation ← checked (Observation.create {
    id := id
    runId := run.id
    workspaceId := run.workspaceId
    kind := .contextReceived
    message := py "approved_context_supplied"
    actionId := none
    provenance := py "caller"
    trust := py "caller_supplied_data"
    toolResult := none })
  appendObservation observation
  let state := { run.workingState with
    missingFields := []
    observations := run.workingState.observed run.limits.recentObservations observation }
  let at' ← now env
  let updated ← checked (run.evolve at'
    { status := some .running, workingState := some state, context := some context })
  saveEvolved env run updated .agentRunResumed
  agentEvent env updated .observationRecorded [("observation_id", observation.id.value)]
  pure updated

/-- `resume`. -/
def resumeRun (env : Env) (workspaceId : WorkspaceId) (runId : AgentRunId)
    (expectedVersion : Version) (context : SuppliedContext) : RuntimeTxn AgentRun := atomic do
  let run ← getRun workspaceId runId
  expectRunVersion run expectedVersion
  raiseIf (run.status ≠ .waiting) (violation "resume_requires_waiting_run")
  raiseIf (run.workingState.invocationPending = true)
    (violation "approval_requires_exact_intent_resume")
  let at' ← now env
  if run.deadline ≤ at' then failure env workspaceId runId (py "deadline_exceeded") false
  else resumeWith env run context

/-- `cancel`. -/
def cancelRun (env : Env) (workspaceId : WorkspaceId) (runId : AgentRunId)
    (expectedVersion : Version) : RuntimeTxn AgentRun := atomic do
  let run ← getRun workspaceId runId
  expectRunVersion run expectedVersion
  raiseIf (run.status.terminal = true) (violation "terminal_run_cannot_cancel")
  failure env workspaceId runId (py "cancelled") true

/-- `yield_for_handoff`: its checks stand outside the failure transaction. -/
def yieldForHandoff (env : Env) (workspaceId : WorkspaceId) (runId : AgentRunId)
    (expectedVersion : Version) : RuntimeTxn AgentRun := do
  let run ← getRun workspaceId runId
  expectRunVersion run expectedVersion
  raiseIf (run.status.terminal = true) (violation "handoff_requires_active_agent_run")
  failure env workspaceId runId (py "handoff_requested") false

end AgentCompanyOS.Runtime
