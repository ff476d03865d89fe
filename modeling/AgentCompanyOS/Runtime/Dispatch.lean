import AgentCompanyOS.Runtime.Review

/-!
# Tool calls

`ToolRuntimeService`, cut at its awaits. A call is claimed in one transaction
(`invokeClaim`), its executor runs outside any transaction, and its reply is applied
in another one (`reconcile`); `reconcileReceipt` applies a receipt that is already
stored. An approved intent is resumed by `resumeOpen` and, when its dispatch was
rolled back, returned to its wait by `resumeRestore`.
-/

set_option autoImplicit false

namespace AgentCompanyOS.Runtime

open Foundation Foundation.Txn Domain

/-! ## Evidence and parents -/

/-- The source id that a fact of a receipt is shown under. -/
def receiptSource (receipt : ToolReceipt) (source : PyStr) : Except Exc PyStr :=
  match percentEncode receipt.id.value, percentEncode source with
  | some id, some source => .ok (py "tool_receipt:" ++ id ++ py ":" ++ source)
  | _, _ => .error .other

/-- `receipt_facts`. -/
def receiptFacts (receipt : ToolReceipt) : Except Exc (List Fact) :=
  match receipt.output with
  | none => .ok []
  | some output => output.facts.mapM fun f => do
      let source ← receiptSource receipt f.sourceId
      .ok ⟨f.key, f.value, source⟩

/-- `evidence`. -/
def evidence (run : AgentRun) : RuntimeTxn (List Fact) := do
  let receipts ← toolReceipts run.workspaceId run.id
  let facts ← Txn.ofExcept ((receipts.filter fun r =>
    r.invocation.toolVersion.grant ∈ run.definitionVersion.allowedTools ∧
      r.invocation.status = .succeeded).mapM receiptFacts)
  pure facts.flatten

/-- `descriptors`: the granted tools that the host can run. -/
def descriptors (host : Host) (run : AgentRun) : RuntimeTxn (List ToolVersion) := do
  let store ← getStore
  pure (run.definitionVersion.allowedTools.filterMap fun grant =>
    match store.resolve host run.workspaceId grant with
    | .error _ => none
    | .ok resolved =>
        if resolved.version.definition.risk = .readOnly ∨ (host.governance = true ∧
            resolved.version.executorKind = .sendFixtureMessage) then some resolved.version
        else none)

/-- `ToolRuntimeService._parents`: the versions of the active parents. -/
def toolParents (run : AgentRun) : RuntimeTxn (List Version) := do
  let goal ← inDomain (getGoal run.goalId)
  let task ← inDomain (getTask run.taskId)
  let attempt ← inDomain (getTaskAttempt run.taskAttemptId)
  let execution ← inDomain (getExecution run.executionId)
  raiseIf (goal.workspaceId ≠ run.workspaceId ∨ task.workspaceId ≠ run.workspaceId ∨
      attempt.workspaceId ≠ run.workspaceId ∨ execution.workspaceId ≠ run.workspaceId ∨
      task.goalId ≠ goal.id ∨ attempt.taskId ≠ task.id ∨ attempt.executionId ≠ execution.id ∨
      execution.goalId ≠ goal.id ∨ goal.status ≠ .active ∨ task.status ≠ .inProgress ∨
      attempt.status ≠ .running ∨ execution.status ≠ .running)
    (.model .versionConflict)
  pure [goal.version, task.version, attempt.version, execution.version]

/-- `ToolRuntimeService._event`. -/
def toolEvent (env : Env) (run : AgentRun) (kind : EventType) (metadata : List (String × PyStr)) :
    RuntimeTxn Unit :=
  runEvent env run kind
    ([("agent_run_id", run.id.value), ("execution_id", run.executionId.value),
      ("task_attempt_id", run.taskAttemptId.value)] ++ metadata)

/-! ## Observing a result -/

/-- `_observe`. -/
def observe (env : Env) (run : AgentRun) (action : Action) (data : ToolObservationData) :
    RuntimeTxn AgentRun := do
  let id ← fresh env .observation
  let observation ← checked (Observation.create {
    id := id
    runId := run.id
    workspaceId := run.workspaceId
    kind := .toolResult
    message := (data.errorCode.map ToolError.value).getD (py "tool_succeeded")
    actionId := some action.id
    provenance := py "tool_runtime"
    trust := py "untrusted_tool_data"
    toolResult := some data })
  appendObservation observation
  let state := { run.workingState with
    invocationPending := false
    observations := run.workingState.observed run.limits.recentObservations observation }
  let at' ← now env
  let updated ← checked (run.evolve at' { workingState := some state })
  saveRun updated run.version none
  toolEvent env updated .toolResultObserved
    [("action_id", action.id.value), ("observation_id", observation.id.value)]
  pure updated

/-! ## Waiting for approval -/

/-- `_approval_transition`. -/
def approvalTransition (env : Env) (run : AgentRun) (status : AgentRunStatus) :
    RuntimeTxn AgentRun := do
  let at' ← now env
  let updated ← checked (run.evolve at' { status := some status })
  let id ← fresh env .stateTransition
  let occurredAt ← now env
  let transition ← checked (StateTransition.create id run.workspaceId .agentRun run.id.text
    run.status.value status.value (txt "approval_wait_resume") run.version updated.version
    occurredAt)
  saveRun updated run.version (some transition)
  pure updated

/-- `_approval_wait`. -/
def approvalWait (env : Env) (run : AgentRun) : RuntimeTxn AgentRun := do
  let execution ← inDomain (getExecution run.executionId)
  let _ ← inDomain (waitExecution env execution.id execution.version)
  approvalTransition env run .waiting

/-! ## Claiming a call -/

/-- What the authorization of a tool call answers. -/
inductive Verdict where
  | refused (code : ToolError)
  | waiting (run : AgentRun)
  | granted (resolved : ResolvedTool) (request : ToolInput) (governed : Option GovernedAction)

/-- A validation of tool data inside a transaction. -/
def validated {α : Type} (r : Validated α) : RuntimeTxn α :=
  match r with
  | .ok a => pure a
  | .error code => raise (.tool code)

/-- A review that cannot be prepared refuses the call. -/
def refuseViolation {α : Type} : Exc → RuntimeTxn α
  | .domain (.invariantViolation _ _) => raise (.tool .unauthorized)
  | e => raise e

/-- The review of a message: prepared, denied, waiting or allowed. -/
def reviewMessage (platform : Platform) (host : Host) (run : AgentRun) (action : Action)
    (resolved : ResolvedTool) (request : ToolInput) : RuntimeTxn Verdict := do
  raiseIf (host.governance = false) (.tool .unauthorized)
  let governed ← catching (prepare platform host run action resolved.version request)
    refuseViolation
  if governed.intent.effect = .deny then do
    governanceEvent platform.toEnv governed .actionExecutionDenied (py "policy_denied")
    raise (.tool .unauthorized)
  else do
    let executable ← allowed platform.toEnv governed
    if executable = true then pure (.granted resolved request (some governed))
    else do
      let waiting ← approvalWait platform.toEnv run
      pure (.waiting waiting)

/-- The `try` block of `invoke`. -/
def authorizeTool (platform : Platform) (host : Host) (run : AgentRun) (action : Action)
    (toolId : ToolId) (argumentsJson : PyStr) (grant : Option ToolGrant) : RuntimeTxn Verdict :=
  match grant with
  | none => do
      let store ← getStore
      raise (.tool (if store.known run.workspaceId toolId = true then .unauthorized else .notFound))
  | some grant => do
      let resolved ← resolve host run.workspaceId grant
      let request ← validated (validateInput argumentsJson resolved.version)
      if request.isFixtureMessage = true then
        reviewMessage platform host run action resolved request
      else do
        raiseIf (resolved.version.definition.risk ≠ .readOnly) (.tool .unauthorized)
        pure (.granted resolved request none)

/-- Its `except ToolFailure`. -/
def toolRefusal : Exc → RuntimeTxn Verdict
  | .tool code => pure (.refused code)
  | e => raise e

/-- A claimed call on its way to the executor. -/
structure Dispatch where
  run : AgentRun
  action : Action
  invocation : ToolInvocation
  executor : Executor

/-- The length of a validated input in bytes. -/
def Dispatch.inputBytes (d : Dispatch) : Nat :=
  ((utf8 (inputJson d.invocation.validatedInput)).map List.length).getD 0

/-- How the claiming transaction ends. -/
inductive ClaimResult where
  | returned (run : AgentRun)
  | dispatched (d : Dispatch)

/-- The text of `request_fingerprint`. -/
def requestText (run : AgentRun) (action : Action) (version : ToolVersion) (normalized : PyStr) :
    PyStr :=
  Json.dumps (.compact true) (.arr [.str run.workspaceId.value, .str run.id.value,
    .str action.id.value, .str version.definition.id.value, .int version.version.value,
    .str normalized])

/-- The claim of the governed record, when there is one. -/
def claimGoverned (env : Env) (host : Host) (governed : Option GovernedAction)
    (invocation : ToolInvocation) : RuntimeTxn Unit :=
  match governed with
  | some record => runIf (host.governance = true) (discard (claim env record invocation))
  | none => pure ()

/-- The budgets of a run that its stored invocations have used up. -/
def budgetExceeded (run : AgentRun) (toolId : ToolId) (invocations : List ToolInvocation) : Prop :=
  run.limits.maxToolCalls ≤ invocations.length ∨ run.limits.maxCallsPerTool ≤
    (invocations.filter (·.toolVersion.definition.id = toolId)).length

instance (run : AgentRun) (toolId : ToolId) (invocations : List ToolInvocation) :
    Decidable (budgetExceeded run toolId invocations) :=
  inferInstanceAs (Decidable (_ ∨ _))

/-- The last part of the claiming transaction of `invoke`. -/
def claimDispatch (platform : Platform) (host : Host) (run : AgentRun) (action : Action)
    (toolId : ToolId) (invocations : List ToolInvocation) (parents : List Version)
    (resolved : ResolvedTool) (request : ToolInput) (governed : Option GovernedAction) :
    RuntimeTxn ClaimResult := do
  let env := platform.toEnv
  raiseIf (budgetExceeded run toolId invocations) (.model .toolBudgetExceeded)
  runIf (resolved.version.definition.risk ≠ .readOnly)
    (requireConsequentialDispatch run.workspaceId (governed.map fun g => g.intent.id))
  let claimedAt ← now env
  let claimed ← checked (run.evolve claimedAt {})
  saveRun claimed run.version none
  let id ← fresh env .toolInvocation
  let digest ← Txn.ofExcept (platform.hexdigest
    (requestText run action resolved.version (inputJson request)))
  let startedAt ← now env
  let invocation ← checked (ToolInvocation.create {
    id := id
    workspaceId := run.workspaceId
    runId := run.id
    actionId := action.id
    taskAttemptId := run.taskAttemptId
    executionId := run.executionId
    toolVersion := resolved.version
    validatedInput := request
    requestFingerprint := digest
    runVersion := claimed.version
    parentVersions := parents
    registryRevision := resolved.revision
    startedAt := startedAt
    version := .initial
    status := .running
    endedAt := none
    errorCode := none })
  addToolInvocation invocation
  claimGoverned env host governed invocation
  toolEvent env claimed .toolInvocationStarted
    [("tool_invocation_id", invocation.id.value), ("tool_id", toolId.value),
      ("tool_version", pyNat resolved.version.version.value), ("action_id", action.id.value)]
  pure (.dispatched ⟨run, action, invocation, resolved.executor⟩)

/-- `invoke` for an action that already has an invocation. -/
def invokeReplay (run : AgentRun) (existing : ToolInvocation) : RuntimeTxn ClaimResult := do
  raiseIf (existing.toolVersion.executorKind = .sendFixtureMessage)
    (violation "consequential_action_replay")
  raiseIf (existing.status = .running) (violation "tool_invocation_in_progress")
  -- The same Action id replays history, never executes twice.
  pure (.returned run)

/-- The end of the claiming transaction, by the answer of the authorization. -/
def settleVerdict (platform : Platform) (host : Host) (run : AgentRun) (action : Action)
    (toolId : ToolId) (grant : Option ToolGrant) (invocations : List ToolInvocation)
    (parents : List Version) : Verdict → RuntimeTxn ClaimResult
  | .refused code => do
      toolEvent platform.toEnv run .toolRequestRejected
        [("action_id", action.id.value), ("tool_id", toolId.value), ("error_code", code.value)]
      let data ← checked (ToolObservationData.create
        ⟨none, toolId, grant.map ToolGrant.version, some code, [], []⟩)
      let observed ← observe platform.toEnv run action data
      pure (.returned observed)
  | .waiting waiting => pure (.returned waiting)
  | .granted resolved request governed =>
      claimDispatch platform host run action toolId invocations parents resolved request governed

/-- `invoke` for an action without an invocation. -/
def invokeFresh (platform : Platform) (host : Host) (run : AgentRun) (action : Action)
    (toolId : ToolId) (argumentsJson : PyStr) (invocations : List ToolInvocation)
    (expectedVersion : Version) : RuntimeTxn ClaimResult := do
  raiseIf (run.version ≠ expectedVersion)
    (.domain (.versionConflict (py "AgentRun") run.id.value expectedVersion.value
      run.version.value))
  raiseIf (run.status ≠ .running ∨ run.workingState.invocationPending = false)
    (violation "tool_requires_claimed_running_iteration")
  raiseIf (action.iteration ≠ run.workingState.iteration) (violation "tool_action_iteration")
  let parents ← toolParents run
  let at' ← now platform.toEnv
  raiseIf (run.deadline ≤ at') (.model .deadlineExceeded)
  let grant := run.definitionVersion.allowedTools.find? (·.toolId = toolId)
  let verdict ← catching
    (authorizeTool platform host run action toolId argumentsJson grant) toolRefusal
  settleVerdict platform host run action toolId grant invocations parents verdict

/-- The claiming transaction of `invoke`, for an action that calls a tool. -/
def invokeTool (platform : Platform) (host : Host) (run : AgentRun) (action : Action)
    (toolId : ToolId) (argumentsJson : PyStr) (expectedVersion : Version) :
    RuntimeTxn ClaimResult := do
  raiseIf (action.runId ≠ run.id) (violation "tool_action_binding")
  let stored ← getAction run.workspaceId action.id
  raiseIf (stored ≠ action) (violation "tool_action_binding")
  raiseIf (ActionType.callTool ∉ run.definitionVersion.allowedActions) (.model .unauthorizedAction)
  let invocations ← toolInvocations run.workspaceId run.id
  match invocations.find? (·.actionId = action.id) with
  | some existing => invokeReplay run existing
  | none => invokeFresh platform host run action toolId argumentsJson invocations expectedVersion

/-- The claiming transaction of `invoke`. -/
def invokeClaim (platform : Platform) (host : Host) (workspaceId : WorkspaceId)
    (runId : AgentRunId) (action : Action) (expectedVersion : Version) :
    RuntimeTxn ClaimResult := atomic do
  let run ← getRun workspaceId runId
  match action.decision with
  | .callTool toolId argumentsJson =>
      invokeTool platform host run action toolId argumentsJson expectedVersion
  | _ => raise (violation "tool_action_binding")

/-! ## Applying a reply -/

/-- Whether the run or one of its parents has another version than at the claim. -/
def parentsMoved (run : AgentRun) (invocation : ToolInvocation) : RuntimeTxn Bool :=
  if run.version ≠ invocation.runVersion then pure true
  else do
    let parents ← toolParents run
    pure (parents ≠ invocation.parentVersions : Bool)

/-- Whether a non-terminal run has moved on since the claim. -/
def staleCheck (host : Host) (run : AgentRun) (invocation : ToolInvocation) :
    RuntimeTxn Bool := do
  let moved ← parentsMoved run invocation
  let current ← resolve host run.workspaceId invocation.toolVersion.grant
  pure (moved || (current.revision ≠ invocation.registryRevision : Bool))

/-- Its `except (ModelFailure, ToolFailure)`. -/
def staleFailure : Exc → RuntimeTxn Bool
  | .model _ => pure true
  | .tool _ => pure true
  | e => raise e

/-- The error that a reply is recorded with, and whether it is stale. -/
def judgeReply (env : Env) (host : Host) (run : AgentRun) (invocation : ToolInvocation)
    (error : Option ToolError) : RuntimeTxn (Option ToolError × Bool) :=
  if run.status.terminal = true then
    pure (some (if run.status = .cancelled then .cancelled else .staleResult), true)
  else do
    let stale ← catching (staleCheck host run invocation) staleFailure
    if stale = true then pure (some .staleResult, true)
    else do
      let at' ← now env
      pure (if run.deadline ≤ at' then some .timeout else error, false)

/-- `"observed" if error is None else ...`. -/
def outcomeOf : Option ToolError → RemoteOutcome
  | none => .observed
  | some .rejected => .observedFailure
  | some _ => .unknown

/-- `GovernanceService.consumed`, when there is governance. -/
def consumeIfGoverned (env : Env) (host : Host) (invocation : ToolInvocation) : RuntimeTxn Unit :=
  runIf (host.governance = true) (consumed env invocation)

/-- The metadata of a recorded receipt. -/
def receiptMetadata (receipt : ToolReceipt) (duration : Int) : List (String × PyStr) :=
  [("tool_invocation_id", receipt.invocation.id.value), ("tool_receipt_id", receipt.id.value),
    ("tool_id", receipt.invocation.toolVersion.definition.id.value),
    ("tool_version", pyNat receipt.invocation.toolVersion.version.value),
    ("status", receipt.invocation.status.value.val),
    ("error_code", (receipt.invocation.errorCode.map ToolError.value).getD (py "none")),
    ("duration_ms", pyNat (max 0 duration).toNat), ("input_bytes", pyNat receipt.inputBytes),
    ("output_bytes", pyNat receipt.outputBytes), ("retry_count", py "0")]

/-- What an agent is shown of a stored receipt. -/
def observationOf (receipt : ToolReceipt) : RuntimeTxn ToolObservationData := do
  let facts ← Txn.ofExcept (receiptFacts receipt)
  checked (ToolObservationData.create {
    receiptId := some receipt.id
    toolId := receipt.invocation.toolVersion.definition.id
    toolVersion := some receipt.invocation.toolVersion.version
    errorCode := receipt.invocation.errorCode
    facts := facts.take 5
    notes := (receipt.output.map ToolOutput.notes).getD [] })

/-- The part of `_reconcile` that stores the receipt of a reply. -/
def storeReceipt (platform : Platform) (host : Host) (run : AgentRun)
    (invocation : ToolInvocation) (output : Option ToolOutput) (error : Option ToolError)
    (inputBytes outputBytes : Nat) : RuntimeTxn ToolReceipt := do
  let env := platform.toEnv
  let finishedAt ← now env
  let finished ← checked (invocation.finish finishedAt error)
  let id ← fresh env .toolReceipt
  let receipt ← checked (ToolReceipt.create {
    id := id
    invocation := finished
    output := if error = none then output else none
    inputBytes := inputBytes
    outputBytes := if error = none then outputBytes else 0
    remoteOutcome := outcomeOf error })
  finishToolInvocation receipt
  consumeIfGoverned env host finished
  let recordedAt ← now env
  toolEvent env run .toolReceiptRecorded
    (receiptMetadata receipt (platform.milliseconds (recordedAt - invocation.startedAt)))
  pure receipt

/-- `_reconcile`. -/
def reconcileReply (platform : Platform) (host : Host) (invocation : ToolInvocation)
    (action : Action) (output : Option ToolOutput) (error : Option ToolError)
    (inputBytes outputBytes : Nat) : RuntimeTxn AgentRun := atomic do
  let run ← getRun invocation.workspaceId invocation.runId
  let (error, stale) ← judgeReply platform.toEnv host run invocation error
  let receipt ← storeReceipt platform host run invocation output error inputBytes outputBytes
  if stale = true then pure run -- History only: never apply late results to newer state.
  else do
    let data ← observationOf receipt
    observe platform.toEnv run action data

/-- The run and its parents still stand as the invocation was claimed under. -/
def receiptApplies (host : Host) (run : AgentRun) (invocation : ToolInvocation) :
    RuntimeTxn Bool := do
  let parents ← toolParents run
  if parents ≠ invocation.parentVersions then pure false
  else do
    let current ← resolve host run.workspaceId invocation.toolVersion.grant
    pure (current.revision = invocation.registryRevision : Bool)

/-- Its `except (ModelFailure, ToolFailure)`. -/
def receiptFailure : Exc → RuntimeTxn Bool
  | .model _ => pure false
  | .tool _ => pure false
  | e => raise e

/-- The part of `reconcile_receipt` that applies the receipt to its run. -/
def applyReceipt (env : Env) (run : AgentRun) (receipt : ToolReceipt) : RuntimeTxn AgentRun := do
  let action ← getAction run.workspaceId receipt.invocation.actionId
  let data ← observationOf receipt
  let updated ← observe env run action data
  toolEvent env updated .recoveryParentReconciled
    [("tool_invocation_id", receipt.invocation.id.value), ("tool_receipt_id", receipt.id.value)]
  pure updated

/-- The first condition of `reconcile_receipt`: nothing is left to apply. -/
def AgentRun.settledFor (run : AgentRun) (invocation : ToolInvocation) : Prop :=
  run.status ≠ .running ∨ run.workingState.invocationPending = false ∨
    run.version ≠ invocation.runVersion

instance (run : AgentRun) (invocation : ToolInvocation) :
    Decidable (run.settledFor invocation) :=
  inferInstanceAs (Decidable (_ ∨ _))

/-- `reconcile_receipt`. -/
def reconcileReceipt (platform : Platform) (host : Host) (receipt : ToolReceipt) :
    RuntimeTxn AgentRun := atomic do
  let env := platform.toEnv
  let invocation := receipt.invocation
  let run ← getRun invocation.workspaceId invocation.runId
  let receipts ← toolReceipts run.workspaceId run.id
  raiseIf (receipt ∉ receipts) (violation "recovery_requires_canonical_receipt")
  consumeIfGoverned env host invocation
  if run.settledFor invocation then pure run
  else do
    let at' ← now env
    if run.deadline ≤ at' then pure run
    else do
      let applies ← catching (receiptApplies host run invocation) receiptFailure
      if applies = true then applyReceipt env run receipt else pure run

/-! ## Resuming an approved intent -/

/-- The `try` block of `resume_intent`; it answers the execution to resume. -/
def resumeChecks (platform : Platform) (host : Host) (record : GovernedAction) (run : AgentRun)
    (action : Action) (expectedVersion : Version) : RuntimeTxn Execution := do
  let resolved ← resolve host run.workspaceId record.intent.tool.grant
  let request ← validated (validateInput record.intent.argumentsJson resolved.version)
  raiseIf (request.isFixtureMessage = false ∨ run.version ≠ expectedVersion ∨
      run.status ≠ .waiting ∨ run.workingState.invocationPending = false)
    (violation "approval_resume_state")
  let at' ← now platform.toEnv
  raiseIf (run.deadline ≤ at') (violation "approval_resume_state")
  validate platform host record run action resolved.version request
  let executable ← allowed platform.toEnv record
  raiseIf (executable = false) (violation "approval_not_available")
  let execution ← inDomain (getExecution run.executionId)
  let goal ← inDomain (getGoal run.goalId)
  raiseIf (goal.status ≠ .active) (violation "approval_parent_state")
  let task ← inDomain (getTask run.taskId)
  raiseIf (task.status ≠ .inProgress) (violation "approval_parent_state")
  let attempt ← inDomain (getTaskAttempt run.taskAttemptId)
  raiseIf (attempt.status ≠ .running ∨ execution.status ≠ .waiting)
    (violation "approval_parent_state")
  pure execution

/-- Its `except (InvariantViolation, ToolFailure)`: the denial is recorded. -/
def resumeDenied (env : Env) (record : GovernedAction) : Exc → RuntimeTxn (Option Execution)
  | .domain (.invariantViolation _ _) | .tool _ => do
      governanceEvent env record .actionExecutionDenied
        (if record.invocationId ≠ none then py "replay_prevented" else py "revalidation_failed")
      pure none
  | e => raise e

/-- The first transaction of `resume_intent` after the lazy expiry; no run means that
the resumption was denied. -/
def resumeOpen (platform : Platform) (host : Host) (workspaceId : WorkspaceId)
    (runId : AgentRunId) (intentId : ActionIntentId) (expectedVersion : Version) :
    RuntimeTxn (Option (AgentRun × Action)) := atomic do
  let record ← governedAction workspaceId intentId
  let run ← getRun workspaceId runId
  raiseIf (record.intent.runId ≠ runId) (violation "approval_actor_binding")
  let action ← getAction workspaceId record.intent.actionId
  let checks := do
    let execution ← resumeChecks platform host record run action expectedVersion
    pure (some execution)
  let checkedExecution ← catching checks (resumeDenied platform.toEnv record)
  match checkedExecution with
  | none => pure none
  | some execution => do
      let _ ← inDomain (resumeExecution platform.toEnv execution.id execution.version)
      let resumed ← approvalTransition platform.toEnv run .running
      pure (some (resumed, action))

/-- The `except` of `resume_intent` after its call of `invoke`: a rolled-back claim
returns the run to its wait. -/
def resumeRestore (platform : Platform) (workspaceId : WorkspaceId) (runId : AgentRunId)
    (intentId : ActionIntentId) (resumedVersion : Version) : RuntimeTxn Unit := atomic do
  let latest ← getRun workspaceId runId
  let record ← governedAction workspaceId intentId
  runIf (record.invocationId = none ∧ latest.version = resumedVersion ∧
      latest.status = .running ∧ latest.workingState.invocationPending = true)
    (discard (approvalWait platform.toEnv latest))

end AgentCompanyOS.Runtime
