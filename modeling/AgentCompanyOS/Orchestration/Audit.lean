import AgentCompanyOS.Foundation.Sorting
import AgentCompanyOS.Orchestration.Classification
import AgentCompanyOS.Runtime.Review

/-!
# Audit queries

`AuditQueryService` answers seven questions about a workspace from the stores: four
timelines of events, the approvals of a task, the tool calls of an execution and the trace
of a goal. Each query is one transaction that only reads. The counters of the service,
how many queries it has answered and for how long, are left out.
-/

set_option autoImplicit false

namespace AgentCompanyOS.Runtime

open Foundation

def DecisionKind.value : DecisionKind → PyStr
  | approved => py "approved"
  | rejected => py "rejected"
  | expired => py "expired"
  | revoked => py "revoked"

end AgentCompanyOS.Runtime

namespace AgentCompanyOS.Orchestration

open Foundation Foundation.Txn Domain AgentCompanyOS.Runtime

/-! ## Views -/

structure TimelineEntry where
  eventId : EventId
  timestamp : Instant
  workspaceId : WorkspaceId
  eventKind : Text
  subjectType : PyStr
  subjectId : Text
  metadata : List (Text × Text)
deriving DecidableEq

structure ApprovalView where
  intentId : PyStr
  fingerprint : PyStr
  actorId : PyStr
  policyVersion : Nat
  decisions : List PyStr
  expiresAt : Instant
  consumed : Bool
  cancelled : Bool
deriving DecidableEq

structure InvocationView where
  invocationId : PyStr
  runId : PyStr
  actionId : PyStr
  toolId : PyStr
  toolVersion : Nat
  status : Text
  outcome : PyStr
  receiptId : Option PyStr
deriving DecidableEq

structure TraceLink where
  goalId : PyStr
  taskId : PyStr
  taskAttemptId : PyStr
  agentRunId : PyStr
  actionIntentId : Option PyStr
  approvalFingerprint : Option PyStr
  invocationId : Option PyStr
  receiptId : Option PyStr
deriving DecidableEq

/-- `_CORRELATION` -/
def correlation : List PyStr :=
  [py "goal_id", py "task_id", py "task_attempt_id", py "execution_id", py "agent_run_id",
   py "run_id", py "action_id", py "action_intent_id", py "intent_id", py "tool_invocation_id",
   py "tool_receipt_id", py "orchestration_run_id", py "delegation_id", py "plan_id",
   py "observation_id"]

/-- `_SAFE` -/
def safe : List PyStr :=
  correlation ++
    [py "fingerprint", py "risk", py "policy_version", py "tool_version", py "status",
     py "error_code", py "reason_code", py "duration_ms", py "input_bytes", py "output_bytes",
     py "retry_count"]

/-- What a timeline shows of an event. -/
def timelineEntry (event : Event) : TimelineEntry where
  eventId := event.id
  timestamp := event.occurredAt
  workspaceId := event.workspaceId
  eventKind := event.eventType.value
  subjectType := event.subjectType.value
  subjectId := event.subjectId
  metadata := event.metadata.filter fun item => item.1.val ∈ safe ∧ item.2.val.length ≤ 256

/-- The key that a timeline is sorted by. -/
def eventKey (event : Event) : Instant ×ₗ PyStr := toLex (event.occurredAt, event.id.value)

/-! ## Timelines -/

/-- An `AuditEventSource`. The log of the knowledge and of the organization store is in
the runtime store; a store that lies beside it, for memory or for communication, comes
with its log. -/
inductive AuditEventSource where
  | knowledge
  | organization
  | beside (log : List Event)

/-- The service on a runtime store; it may be attached to the orchestration store. -/
structure AuditQueryService where
  sources : List AuditEventSource
  attached : Bool

/-- The events of a log in a workspace. -/
def eventsIn (workspaceId : WorkspaceId) (log : List Event) : List Event :=
  log.filter (·.workspaceId = workspaceId)

/-- `events` of a source. -/
def AuditEventSource.events (workspaceId : WorkspaceId) :
    AuditEventSource → RuntimeTxn (List Event)
  | .knowledge => do
      let _ ← inDomain (getWorkspace workspaceId)
      let store ← getStore
      pure (eventsIn workspaceId store.knowledgeEvents)
  | .organization => do
      let _ ← getGraph workspaceId
      let store ← getStore
      pure (eventsIn workspaceId store.organizationEvents)
  | .beside log => do
      let _ ← inDomain (getWorkspace workspaceId)
      pure (eventsIn workspaceId log)

/-- `events` of the domain store. -/
def domainEvents (workspaceId : WorkspaceId) : DomainTxn (List Event) := do
  let store ← getStore
  pure (eventsIn workspaceId store.events)

/-- `events` of the runtime store. -/
def runtimeEvents (workspaceId : WorkspaceId) : RuntimeTxn (List Event) := do
  let store ← getStore
  pure (eventsIn workspaceId store.events)

/-- `events` of the attached orchestration store. -/
def attachedEvents (attached : Bool) (workspaceId : WorkspaceId) :
    OrchestrationTxn (List Event) :=
  if attached = true then getEvents workspaceId else pure []

/-- Whether an event names one of the identities. -/
def concerns (identities : List PyStr) (event : Event) : Bool :=
  event.subjectId.val ∈ identities ∨
    ∃ item ∈ event.metadata, item.1.val ∈ correlation ∧ item.2.val ∈ identities

/-- `_scope` of the service. -/
def auditMismatch (expected actual : WorkspaceId) : DomainError :=
  .workspaceMismatch (py "audit_subject") expected.value actual.value

def auditScope (expected actual : WorkspaceId) : OrchestrationTxn Unit :=
  raiseIf (expected ≠ actual) (.domain (auditMismatch expected actual))

/-- The loop of `_timeline` that selects events. -/
def selectEvents (workspaceId : WorkspaceId) (identities : List PyStr) :
    List Event → Registry Event.id → Except DomainError (Registry Event.id)
  | [], selected => .ok selected
  | event :: rest, selected =>
      if workspaceId ≠ event.workspaceId then
        .error (auditMismatch workspaceId event.workspaceId)
      else if concerns identities event = true then
        if ∃ other ∈ selected.get? event.id, other ≠ event then
          .error (.invariantViolation "audit_event_identity_collision" [])
        else selectEvents workspaceId identities rest (selected.put event)
      else selectEvents workspaceId identities rest selected

namespace AuditQueryService

variable (service : AuditQueryService) (workspaceId : WorkspaceId)

/-- `_timeline` -/
def timeline (identities : List PyStr) : OrchestrationTxn (List TimelineEntry) := do
  let _ ← inGoals (getWorkspace workspaceId)
  let domain ← inGoals (domainEvents workspaceId)
  let runtime ← inRuntime (runtimeEvents workspaceId)
  let others ← inRuntime (gather service.sources (AuditEventSource.events workspaceId))
  let orchestration ← attachedEvents service.attached workspaceId
  let selected ← checked (selectEvents workspaceId identities
    (domain ++ runtime ++ others ++ orchestration) Registry.empty)
  pure ((sortedBy eventKey selected.values).map timelineEntry)

/-- The identities of an orchestration run with its plans and delegations. -/
def parentIdentities (parent : OrchestrationRun) : OrchestrationTxn (List PyStr) := do
  let plans ← getPlans workspaceId parent.id
  let delegations ← getDelegations workspaceId parent.id
  pure (parent.id.value :: plans.map (·.id.value) ++ delegations.map (·.id.value))

def timelineForGoal (goalId : GoalId) : OrchestrationTxn (List TimelineEntry) := atomic do
  let goal ← inGoals (getGoal goalId)
  auditScope workspaceId goal.workspaceId
  let domain ← inGoals getStore
  let tasks := domain.tasksForGoal goalId
  let attempts := tasks.flatMap fun task => domain.attemptsForTask task.id
  let runs ← inRuntime (listRuns workspaceId)
  let parents ← attachedRuns service.attached workspaceId
  let orchestration ←
    gather (parents.filter (·.goalId = goalId)) (parentIdentities workspaceId)
  service.timeline workspaceId (goalId.value :: tasks.map (·.id.value) ++
    (attempts.flatMap fun attempt => [attempt.id.value, attempt.executionId.value]) ++
    ((runs.filter (·.goalId = goalId)).flatMap fun run =>
      [run.id.value, run.executionId.value, run.taskAttemptId.value]) ++ orchestration)

def timelineForTask (taskId : TaskId) : OrchestrationTxn (List TimelineEntry) := atomic do
  let task ← inGoals (getTask taskId)
  auditScope workspaceId task.workspaceId
  let runs ← inRuntime (listRuns workspaceId)
  let domain ← inGoals getStore
  service.timeline workspaceId (taskId.value ::
    (runs.filter (·.taskId = taskId)).map (·.id.value) ++
    (domain.attemptsForTask taskId).map (·.id.value))

def timelineForAgentRun (runId : AgentRunId) : OrchestrationTxn (List TimelineEntry) := atomic do
  let _ ← inRuntime (getRun workspaceId runId)
  service.timeline workspaceId [runId.value]

def timelineForActionIntent (intentId : ActionIntentId) :
    OrchestrationTxn (List TimelineEntry) := atomic do
  let record ← inRuntime (governedAction workspaceId intentId)
  service.timeline workspaceId ([intentId.value, record.intent.actionId.value] ++
    record.invocationId.toList.map (·.value))

end AuditQueryService

/-! ## Approvals, tool calls and traces -/

def approvalView (record : GovernedAction) : ApprovalView where
  intentId := record.intent.id.value
  fingerprint := record.intent.fingerprint
  actorId := record.intent.runId.value
  policyVersion := record.intent.policy.version.value
  decisions := record.decisions.map (·.kind.value)
  expiresAt := record.intent.expiresAt
  consumed := record.consumed
  cancelled := record.cancelled

def approvalsForTask (workspaceId : WorkspaceId) (taskId : TaskId) :
    OrchestrationTxn (List ApprovalView) := atomic do
  let task ← inGoals (getTask taskId)
  auditScope workspaceId task.workspaceId
  let records ← inRuntime (governedActions workspaceId)
  pure (((sortedBy (·.intent.id.value) records).filter (·.intent.taskId = taskId)).map approvalView)

/-- What a receipt, if there is one, tells about the remote system. -/
def outcomeText (receipt : Option ToolReceipt) : PyStr :=
  match receipt with
  | none => py "outcome_unknown"
  | some receipt =>
      if receipt.remoteOutcome = .unknown then py "outcome_unknown"
      else if receipt.output.isSome = true then py "observed_success"
      else py "observed_failure"

def invocationView (run : AgentRun) (invocation : ToolInvocation) (receipt : Option ToolReceipt) :
    InvocationView where
  invocationId := invocation.id.value
  runId := run.id.value
  actionId := invocation.actionId.value
  toolId := invocation.toolVersion.definition.id.value
  toolVersion := invocation.toolVersion.version.value
  status := invocation.status.value
  outcome := outcomeText receipt
  receiptId := receipt.map (·.id.value)

/-- The tool calls of a run of the execution. -/
def runInvocations (workspaceId : WorkspaceId) (executionId : ExecutionId) (run : AgentRun) :
    RuntimeTxn (List InvocationView) :=
  if run.executionId ≠ executionId then pure []
  else do
    let receipts ← toolReceipts workspaceId run.id
    let calls ← toolInvocations workspaceId run.id
    pure (calls.map fun call => invocationView run call (receiptOf receipts call))

def toolInvocationsForExecution (workspaceId : WorkspaceId) (executionId : ExecutionId) :
    OrchestrationTxn (List InvocationView) := atomic do
  let execution ← inGoals (getExecution executionId)
  auditScope workspaceId execution.workspaceId
  let runs ← inRuntime (listRuns workspaceId)
  let result ← inRuntime (gather runs (runInvocations workspaceId executionId))
  pure (sortedBy InvocationView.invocationId result)

def traceLink (goalId : GoalId) (run : AgentRun) (record : Option GovernedAction)
    (receipt : Option ToolReceipt) : TraceLink where
  goalId := goalId.value
  taskId := run.taskId.value
  taskAttemptId := run.taskAttemptId.value
  agentRunId := run.id.value
  actionIntentId := record.map (·.intent.id.value)
  approvalFingerprint := record.map (·.intent.fingerprint)
  invocationId := (record.bind (·.invocationId)).map (·.value)
  receiptId := receipt.map (·.id.value)

/-- The first receipt of the call that claimed a record. -/
def claimReceipt (receipts : List ToolReceipt) (record : Option GovernedAction) :
    Option ToolReceipt :=
  receipts.find? fun r => record.bind (·.invocationId) = some r.invocation.id

/-- The links of a run of the goal: one for each of its intents, or one without. -/
def runLinks (workspaceId : WorkspaceId) (goalId : GoalId) (governed : List GovernedAction)
    (run : AgentRun) : RuntimeTxn (List TraceLink) :=
  if run.goalId ≠ goalId then pure []
  else
    let intents := governed.filter (·.intent.runId = run.id)
    gather (if intents = [] then [none] else intents.map some) fun record => do
      let receipts ← toolReceipts workspaceId run.id
      pure [traceLink goalId run record (claimReceipt receipts record)]

/-- The key that a trace is sorted by. -/
def linkKey (link : TraceLink) : PyStr ×ₗ PyStr :=
  toLex (link.agentRunId, link.actionIntentId.getD [])

def traceGoal (workspaceId : WorkspaceId) (goalId : GoalId) : OrchestrationTxn (List TraceLink) :=
  atomic do
    let goal ← inGoals (getGoal goalId)
    auditScope workspaceId goal.workspaceId
    let governed ← inRuntime (governedActions workspaceId)
    let runs ← inRuntime (listRuns workspaceId)
    let result ← inRuntime (gather runs (runLinks workspaceId goalId governed))
    pure (sortedBy linkKey result)

/-! ## The service -/

/-- A query with its identifier. -/
inductive AuditQuery where
  | timelineForGoal (goalId : GoalId)
  | timelineForTask (taskId : TaskId)
  | timelineForAgentRun (runId : AgentRunId)
  | timelineForActionIntent (intentId : ActionIntentId)
  | approvalsForTask (taskId : TaskId)
  | toolInvocationsForExecution (executionId : ExecutionId)
  | traceGoal (goalId : GoalId)

/-- What a query returns. -/
inductive AuditAnswer where
  | timeline (entries : List TimelineEntry)
  | approvals (views : List ApprovalView)
  | invocations (views : List InvocationView)
  | trace (links : List TraceLink)
deriving DecidableEq

/-- A query for a workspace. -/
def AuditQueryService.answer (service : AuditQueryService) (workspaceId : WorkspaceId) :
    AuditQuery → OrchestrationTxn AuditAnswer
  | .timelineForGoal goalId => do
      pure (.timeline (← service.timelineForGoal workspaceId goalId))
  | .timelineForTask taskId => do
      pure (.timeline (← service.timelineForTask workspaceId taskId))
  | .timelineForAgentRun runId => do
      pure (.timeline (← service.timelineForAgentRun workspaceId runId))
  | .timelineForActionIntent intentId => do
      pure (.timeline (← service.timelineForActionIntent workspaceId intentId))
  | .approvalsForTask taskId => do
      pure (.approvals (← Orchestration.approvalsForTask workspaceId taskId))
  | .toolInvocationsForExecution executionId => do
      pure (.invocations (← Orchestration.toolInvocationsForExecution workspaceId executionId))
  | .traceGoal goalId => do
      pure (.trace (← Orchestration.traceGoal workspaceId goalId))

end AgentCompanyOS.Orchestration
