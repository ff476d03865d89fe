import AgentCompanyOS.Domain.Values
import Mathlib.Data.List.Nodup

/-!
# Audit records

Every committed change of a stored subject leaves an `Event`, and every change of
its status a `StateTransition`. Both are immutable. A transition record raises the
version by one (`StateTransition.increment`), and the metadata keys of an event do
not repeat (`Event.keysUnique`); the source checks both in `__post_init__`.
-/

set_option autoImplicit false

namespace AgentCompanyOS.Domain

open Foundation

/-- The text of an identifier. -/
def OpaqueId.text {kind : IdKind} (id : OpaqueId kind) : Text :=
  ⟨id.value, fun blank => id.valid.1 (id.valid.2 ▸ blank)⟩

@[simp] theorem OpaqueId.text_val {kind : IdKind} (id : OpaqueId kind) : id.text.val = id.value :=
  rfl

/-- A literal that is not blank. -/
def txt (s : String) (h : strip (py s) ≠ [] := by exact strip_py_ne_nil _ rfl) : Text := ⟨py s, h⟩

/-! The texts that several status enumerations have. -/

theorem running_visible : strip (py "running") ≠ [] := strip_py_ne_nil _ rfl

theorem waiting_visible : strip (py "waiting") ≠ [] := strip_py_ne_nil _ rfl

theorem succeeded_visible : strip (py "succeeded") ≠ [] := strip_py_ne_nil _ rfl

theorem failed_visible : strip (py "failed") ≠ [] := strip_py_ne_nil _ rfl

theorem cancelled_visible : strip (py "cancelled") ≠ [] := strip_py_ne_nil _ rfl

/-- The subjects that audit records name. -/
inductive SubjectType where
  | organizationGraph | agentMessage | messageThread | handoff | orchestrationRun
  | orchestrationPlan | delegation | memoryCandidate | memoryEntry | knowledgeSource | agentRun
  | goal | task | taskAttempt | execution | workspace
deriving DecidableEq

/-- The wire value of a subject type. -/
def SubjectType.value : SubjectType → PyStr
  | organizationGraph => py "OrganizationGraph"
  | agentMessage => py "agent_message"
  | messageThread => py "message_thread"
  | handoff => py "handoff"
  | orchestrationRun => py "orchestration_run"
  | orchestrationPlan => py "orchestration_plan"
  | delegation => py "delegation"
  | memoryCandidate => py "memory_candidate"
  | memoryEntry => py "memory_entry"
  | knowledgeSource => py "knowledge_source"
  | agentRun => py "agent_run"
  | goal => py "goal"
  | task => py "task"
  | taskAttempt => py "task_attempt"
  | execution => py "execution"
  | workspace => py "workspace"

/-- All subject types. -/
def SubjectType.all : List SubjectType :=
  [organizationGraph, agentMessage, messageThread, handoff, orchestrationRun, orchestrationPlan,
    delegation, memoryCandidate, memoryEntry, knowledgeSource, agentRun, goal, task, taskAttempt,
    execution, workspace]

theorem SubjectType.mem_all (t : SubjectType) : t ∈ all := by
  cases t <;> decide

theorem SubjectType.value_injective {a b : SubjectType} (h : a.value = b.value) : a = b :=
  List.inj_on_of_nodup_map (by decide +kernel : (all.map value).Nodup) (mem_all a) (mem_all b) h

/-- The kinds of audit events. -/
inductive EventType where
  | orchestrationChildReconciled | recoveryDetected | recoveryLookup | recoveryReceiptReconciled
  | recoveryParentReconciled | actionIntentCreated | actionIntentCancelled | approvalRequested
  | approvalGranted | approvalRejected | approvalRevoked | approvalExpired | approvalConsumed
  | actionExecutionAuthorized | actionExecutionDenied | organizationGraphVersionCreated
  | organizationGraphActivated | agentMessageCreated | agentMessageDelivered
  | agentMessageRejected | agentMessageConsumed | handoffRequested | handoffAccepted
  | handoffRejected | handoffCompleted | handoffFailed | communicationTimeout
  | orchestrationStarted | planProposed | planRejected | planAccepted | planMaterialized
  | taskDelegated | delegationRejected | replanRequested | replanCompleted
  | orchestrationCompleted | orchestrationFailed | orchestrationCancelled
  | memoryCandidateCreated | memoryReviewRequested | memoryCandidateRejected | memoryPromoted
  | memoryRevoked | memorySuperseded | memoryRetrieved | memoryContextPackCreated
  | knowledgeSourcePublished | knowledgeSourceDisabled | knowledgeQueryExecuted
  | knowledgeQueryRejected | evidencePackCreated | toolInvocationStarted | toolRequestRejected
  | toolReceiptRecorded | toolResultObserved | agentRunStarted | modelInvocationRequested
  | modelInvocationFailed | modelDecisionReceived | modelDecisionRejected | actionRequested
  | actionAccepted | observationRecorded | agentWaitingForContext | agentRunResumed
  | agentRunCompleted | agentRunFailed | agentRunCancelled | workspaceCreated | goalCreated
  | goalActivated | goalSatisfied | goalClosedUnsatisfied | goalCancelled | taskCreated
  | taskReady | taskStarted | taskCompleted | taskRetryReady | taskBlocked | taskUnblocked
  | taskFailed | taskCancelled | taskAttemptCreated | taskAttemptStarted | taskAttemptSucceeded
  | taskAttemptFailed | taskAttemptCancelled | executionCreated | executionStarted
  | executionWaiting | executionResumed | executionSucceeded | executionFailed
  | executionCancelled
deriving DecidableEq

/-- The wire value of an event type. -/
def EventType.value : EventType → Text
  | orchestrationChildReconciled => txt "orchestration_child_reconciled"
  | recoveryDetected => txt "recovery_detected"
  | recoveryLookup => txt "recovery_lookup"
  | recoveryReceiptReconciled => txt "recovery_receipt_reconciled"
  | recoveryParentReconciled => txt "recovery_parent_reconciled"
  | actionIntentCreated => txt "action_intent_created"
  | actionIntentCancelled => txt "action_intent_cancelled"
  | approvalRequested => txt "approval_requested"
  | approvalGranted => txt "approval_granted"
  | approvalRejected => txt "approval_rejected"
  | approvalRevoked => txt "approval_revoked"
  | approvalExpired => txt "approval_expired"
  | approvalConsumed => txt "approval_consumed"
  | actionExecutionAuthorized => txt "action_execution_authorized"
  | actionExecutionDenied => txt "action_execution_denied"
  | organizationGraphVersionCreated => txt "organization_graph_version_created"
  | organizationGraphActivated => txt "organization_graph_activated"
  | agentMessageCreated => txt "agent_message_created"
  | agentMessageDelivered => txt "agent_message_delivered"
  | agentMessageRejected => txt "agent_message_rejected"
  | agentMessageConsumed => txt "agent_message_consumed"
  | handoffRequested => txt "handoff_requested"
  | handoffAccepted => txt "handoff_accepted"
  | handoffRejected => txt "handoff_rejected"
  | handoffCompleted => txt "handoff_completed"
  | handoffFailed => txt "handoff_failed"
  | communicationTimeout => txt "communication_timeout"
  | orchestrationStarted => txt "orchestration_started"
  | planProposed => txt "plan_proposed"
  | planRejected => txt "plan_rejected"
  | planAccepted => txt "plan_accepted"
  | planMaterialized => txt "plan_materialized"
  | taskDelegated => txt "task_delegated"
  | delegationRejected => txt "delegation_rejected"
  | replanRequested => txt "replan_requested"
  | replanCompleted => txt "replan_completed"
  | orchestrationCompleted => txt "orchestration_completed"
  | orchestrationFailed => txt "orchestration_failed"
  | orchestrationCancelled => txt "orchestration_cancelled"
  | memoryCandidateCreated => txt "memory_candidate_created"
  | memoryReviewRequested => txt "memory_review_requested"
  | memoryCandidateRejected => txt "memory_candidate_rejected"
  | memoryPromoted => txt "memory_promoted"
  | memoryRevoked => txt "memory_revoked"
  | memorySuperseded => txt "memory_superseded"
  | memoryRetrieved => txt "memory_retrieved"
  | memoryContextPackCreated => txt "memory_context_pack_created"
  | knowledgeSourcePublished => txt "knowledge_source_published"
  | knowledgeSourceDisabled => txt "knowledge_source_disabled"
  | knowledgeQueryExecuted => txt "knowledge_query_executed"
  | knowledgeQueryRejected => txt "knowledge_query_rejected"
  | evidencePackCreated => txt "evidence_pack_created"
  | toolInvocationStarted => txt "tool_invocation_started"
  | toolRequestRejected => txt "tool_request_rejected"
  | toolReceiptRecorded => txt "tool_receipt_recorded"
  | toolResultObserved => txt "tool_result_observed"
  | agentRunStarted => txt "agent_run_started"
  | modelInvocationRequested => txt "model_invocation_requested"
  | modelInvocationFailed => txt "model_invocation_failed"
  | modelDecisionReceived => txt "model_decision_received"
  | modelDecisionRejected => txt "model_decision_rejected"
  | actionRequested => txt "action_requested"
  | actionAccepted => txt "action_accepted"
  | observationRecorded => txt "observation_recorded"
  | agentWaitingForContext => txt "agent_waiting_for_context"
  | agentRunResumed => txt "agent_run_resumed"
  | agentRunCompleted => txt "agent_run_completed"
  | agentRunFailed => txt "agent_run_failed"
  | agentRunCancelled => txt "agent_run_cancelled"
  | workspaceCreated => txt "workspace_created"
  | goalCreated => txt "goal_created"
  | goalActivated => txt "goal_activated"
  | goalSatisfied => txt "goal_satisfied"
  | goalClosedUnsatisfied => txt "goal_closed_unsatisfied"
  | goalCancelled => txt "goal_cancelled"
  | taskCreated => txt "task_created"
  | taskReady => txt "task_ready"
  | taskStarted => txt "task_started"
  | taskCompleted => txt "task_completed"
  | taskRetryReady => txt "task_retry_ready"
  | taskBlocked => txt "task_blocked"
  | taskUnblocked => txt "task_unblocked"
  | taskFailed => txt "task_failed"
  | taskCancelled => txt "task_cancelled"
  | taskAttemptCreated => txt "task_attempt_created"
  | taskAttemptStarted => txt "task_attempt_started"
  | taskAttemptSucceeded => txt "task_attempt_succeeded"
  | taskAttemptFailed => txt "task_attempt_failed"
  | taskAttemptCancelled => txt "task_attempt_cancelled"
  | executionCreated => txt "execution_created"
  | executionStarted => txt "execution_started"
  | executionWaiting => txt "execution_waiting"
  | executionResumed => txt "execution_resumed"
  | executionSucceeded => txt "execution_succeeded"
  | executionFailed => txt "execution_failed"
  | executionCancelled => txt "execution_cancelled"

/-- An immutable audit event. -/
structure Event where
  id : EventId
  workspaceId : WorkspaceId
  eventType : EventType
  subjectType : SubjectType
  subjectId : Text
  entityVersion : Version
  occurredAt : Instant
  metadata : List (Text × Text)
  keysUnique : (metadata.map Prod.fst).Nodup
deriving DecidableEq

/-- `Event(...)`: the constructor's checks. -/
def Event.create (id : EventId) (workspaceId : WorkspaceId) (eventType : EventType)
    (subjectType : SubjectType) (subjectId : Text) (entityVersion : Version)
    (occurredAt : Instant) (metadata : List (Text × Text)) : Except DomainError Event :=
  if h : (metadata.map Prod.fst).Nodup then
    .ok ⟨id, workspaceId, eventType, subjectType, subjectId, entityVersion, occurredAt, metadata, h⟩
  else .error (.invariantViolation "event_metadata_keys_unique" [])

/-- A created event says what it was created with. -/
theorem Event.create_fields {id : EventId} {workspaceId : WorkspaceId} {eventType : EventType}
    {subjectType : SubjectType} {subjectId : Text} {entityVersion : Version}
    {occurredAt : Instant} {metadata : List (Text × Text)} {event : Event}
    (h : Event.create id workspaceId eventType subjectType subjectId entityVersion occurredAt
      metadata = .ok event) :
    event.eventType = eventType ∧ event.workspaceId = workspaceId ∧
      event.subjectId = subjectId ∧ event.metadata = metadata := by
  unfold Event.create at h
  split at h
  · cases h
    exact ⟨rfl, rfl, rfl, rfl⟩
  · cases h

/-- A recorded change of status. -/
structure StateTransition where
  id : StateTransitionId
  workspaceId : WorkspaceId
  subjectType : SubjectType
  subjectId : Text
  previousStatus : Text
  newStatus : Text
  reason : Text
  fromVersion : Version
  toVersion : Version
  occurredAt : Instant
  increment : toVersion = fromVersion.next
deriving DecidableEq

/-- `StateTransition(...)`: the constructor's check. -/
def StateTransition.create (id : StateTransitionId) (workspaceId : WorkspaceId)
    (subjectType : SubjectType) (subjectId previousStatus newStatus reason : Text)
    (fromVersion toVersion : Version) (occurredAt : Instant) :
    Except DomainError StateTransition :=
  if h : toVersion = fromVersion.next then
    .ok ⟨id, workspaceId, subjectType, subjectId, previousStatus, newStatus, reason, fromVersion,
      toVersion, occurredAt, h⟩
  else .error (.invariantViolation "transition_version_increment"
    [("from_version", pyNat fromVersion.value), ("to_version", pyNat toVersion.value)])

end AgentCompanyOS.Domain
