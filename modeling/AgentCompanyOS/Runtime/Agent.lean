import AgentCompanyOS.Domain.Store
import AgentCompanyOS.Runtime.Knowledge

/-!
# Agent definitions and runs

The published configuration of an agent, the context and observations of one run,
and the run itself. A run keeps the validity of its constructor as a field, and
changes only through `evolve`, which checks the status table, the frozen acceptance
contract and the working-state bounds before it builds the next version.
-/

set_option autoImplicit false

namespace AgentCompanyOS.Runtime

open Foundation Domain

/-! ## Configuration -/

inductive ActionType where
  | callTool | respond | completeTask | requestMoreContext
deriving DecidableEq

def ActionType.value : ActionType → Text
  | callTool => txt "call_tool"
  | respond => txt "respond"
  | completeTask => txt "complete_task"
  | requestMoreContext => txt "request_more_context"

structure AgentDefinition where
  id : AgentDefinitionId
  workspaceId : WorkspaceId
  name : Text
deriving DecidableEq

inductive MemoryScopeKind where
  | workspace | agent | user | customer | task | domain
deriving DecidableEq

structure MemoryScope where
  kind : MemoryScopeKind
  key : PyStr
deriving DecidableEq

inductive MemorySensitivity where
  | normal | sensitive | restricted
deriving DecidableEq

/-- A published configuration of an agent. The knowledge scope is the source ids and the
trust classes, the memory access the scopes and the sensitivities. -/
structure AgentDefinitionVersion where
  definition : AgentDefinition
  version : Version
  role : Text
  instructions : Text
  allowedActions : List ActionType
  autonomyCeiling : Nat
  modelName : Text
  allowedTools : List ToolGrant
  knowledgeSources : List KnowledgeSourceId
  knowledgeTrust : List TrustClass
  memoryScopes : List MemoryScope
  memorySensitivities : List MemorySensitivity := [.normal]
  enabled : Bool
  capabilities : List PyStr
  capabilityIds : List (OpaqueId .capability)
deriving DecidableEq

/-- The bounds of a run. -/
structure RuntimeLimits where
  maxIterations : Nat
  executionSeconds : Nat
  modelSeconds : Nat
  recentObservations : Nat
  maxContextChars : Nat
  maxResponseChars : Nat
  maxToolCalls : Nat
  maxCallsPerTool : Nat
deriving DecidableEq

/-- `RuntimeLimits()`. -/
def RuntimeLimits.default : RuntimeLimits := ⟨5, 60, 5, 4, 16000, 8000, 5, 3⟩

structure SourceText where
  sourceId : PyStr
  text : PyStr
deriving DecidableEq

/-- What the caller gives a run to work with. -/
structure SuppliedContext where
  workspaceId : WorkspaceId
  taskId : TaskId
  requiredKeys : List PyStr
  facts : List Fact
  sourceTexts : List SourceText
deriving DecidableEq

/-! ## Observations -/

inductive ObservationKind where
  | toolResult | contextReceived | actionAccepted | actionRejected | completionResult
  | validationError
deriving DecidableEq

structure Observation where
  id : ObservationId
  runId : AgentRunId
  workspaceId : WorkspaceId
  kind : ObservationKind
  message : PyStr
  actionId : Option ActionId
  provenance : PyStr
  trust : PyStr
  toolResult : Option ToolObservationData
deriving DecidableEq

/-- `Observation(...)`: the constructor's checks. -/
def Observation.create (o : Observation) : Except DomainError Observation :=
  if o.message = [] ∨ 1000 < o.message.length then
    .error (.invariantViolation "observation_schema_and_size" [])
  else if ¬(o.kind = .toolResult ↔ o.toolResult ≠ none) then
    .error (.invariantViolation "tool_observation_payload" [])
  else .ok o

/-! ## Runs -/

structure ResearchBrief where
  summary : PyStr
  findings : List Fact
  gaps : List PyStr
  sourceReferences : List PyStr
deriving DecidableEq

structure AgentWorkingState where
  iteration : Nat
  observations : List Observation
  missingFields : List PyStr
  invocationPending : Bool
  activeEvidencePackId : Option EvidencePackId
  activeMemoryPackId : Option (OpaqueId .memoryContextPack)
deriving DecidableEq

/-- `AgentWorkingState()`. -/
def AgentWorkingState.initial : AgentWorkingState := ⟨0, [], [], false, none, none⟩

/-- `(*observations, observation)[-recent:]`. -/
def AgentWorkingState.observed (state : AgentWorkingState) (recent : Nat)
    (observation : Observation) : List Observation :=
  let all := state.observations ++ [observation]
  all.drop (all.length - recent)

inductive AgentRunStatus where
  | running | waiting | succeeded | failed | cancelled
deriving DecidableEq

def AgentRunStatus.value : AgentRunStatus → Text
  | running => txt "running" running_visible
  | waiting => txt "waiting" waiting_visible
  | succeeded => txt "succeeded" succeeded_visible
  | failed => txt "failed" failed_visible
  | cancelled => txt "cancelled" cancelled_visible

def AgentRunStatus.terminal (s : AgentRunStatus) : Bool :=
  s = succeeded || s = failed || s = cancelled

/-- The targets that `evolve` allows. -/
def AgentRunStatus.allowed : AgentRunStatus → List AgentRunStatus
  | running => [running, waiting, succeeded, failed, cancelled]
  | waiting => [running, failed, cancelled]
  | _ => []

/-- The fields of an `AgentRun`. -/
structure RunFields where
  id : AgentRunId
  workspaceId : WorkspaceId
  executionId : ExecutionId
  taskAttemptId : TaskAttemptId
  taskId : TaskId
  goalId : GoalId
  definitionVersion : AgentDefinitionVersion
  limits : RuntimeLimits
  context : SuppliedContext
  createdAt : Instant
  deadline : Instant
  version : Version
  status : AgentRunStatus
  workingState : AgentWorkingState
  endedAt : Option Instant
  errorCode : Option PyStr
  result : Option ResearchBrief
  runtimeProtocol : Text
  policyVersion : Text
  evaluatorVersion : Text
  organizationVersion : Option Version
deriving DecidableEq

/-- `AgentRun.__post_init__`. -/
structure RunFields.Valid (f : RunFields) : Prop where
  deadline : f.createdAt < f.deadline
  scope : f.context.workspaceId = f.workspaceId ∧ f.context.taskId = f.taskId ∧
    f.definitionVersion.definition.workspaceId = f.workspaceId
  ended : f.status.terminal = f.endedAt.isSome
  timeOrder : ∀ t ∈ f.endedAt, f.createdAt ≤ t
  result : f.status = .succeeded ↔ f.result ≠ none
  reason : f.status = .failed ∨ f.status = .cancelled → f.errorCode.getD [] ≠ []
  bounds : f.workingState.iteration ≤ f.limits.maxIterations ∧
    f.workingState.observations.length ≤ f.limits.recentObservations ∧
    ¬(f.status.terminal = true ∧ f.workingState.invocationPending = true)

/-- One bounded run of an agent on a task attempt. -/
structure AgentRun extends RunFields where
  valid : toRunFields.Valid
deriving DecidableEq

/-- `AgentRun(...)`. -/
def AgentRun.create (f : RunFields) : Except DomainError AgentRun :=
  if deadline : f.createdAt < f.deadline then
    if scope : f.context.workspaceId = f.workspaceId ∧ f.context.taskId = f.taskId ∧
        f.definitionVersion.definition.workspaceId = f.workspaceId then
      if ended : f.status.terminal = f.endedAt.isSome then
        if timeOrder : ∀ t ∈ f.endedAt, f.createdAt ≤ t then
          if result : f.status = .succeeded ↔ f.result ≠ none then
            if reason : f.status = .failed ∨ f.status = .cancelled →
                f.errorCode.getD [] ≠ [] then
              if bounds : f.workingState.iteration ≤ f.limits.maxIterations ∧
                  f.workingState.observations.length ≤ f.limits.recentObservations ∧
                  ¬(f.status.terminal = true ∧ f.workingState.invocationPending = true) then
                .ok ⟨f, deadline, scope, ended, timeOrder, result, reason, bounds⟩
              else .error (.invariantViolation "run_working_state_bounds" [])
            else .error (.invariantViolation "terminal_failure_requires_reason" [])
          else .error (.invariantViolation "succeeded_run_requires_result" [])
        else .error (.invariantViolation "run_time_order" [])
      else .error (.invariantViolation "terminal_run_end_time" [])
    else .error (.invariantViolation "immutable_run_scope" [])
  else .error (.invariantViolation "deadline_after_start" [])

theorem AgentRun.create_eq_ok {f : RunFields} {r : AgentRun} (h : AgentRun.create f = .ok r) :
    r.toRunFields = f := by
  unfold AgentRun.create at h
  repeat' split at h
  all_goals cases h
  rfl

/-- The keyword arguments of `evolve`; a `none` keeps the run's own value. -/
structure RunChange where
  status : Option AgentRunStatus := none
  workingState : Option AgentWorkingState := none
  context : Option SuppliedContext := none
  errorCode : Option PyStr := none
  result : Option ResearchBrief := none

/-- The fields after a change. -/
def RunFields.changed (f : RunFields) (at' : Instant) (change : RunChange) : RunFields :=
  let target := change.status.getD f.status
  { f with
    status := target
    version := f.version.next
    workingState := change.workingState.getD f.workingState
    context := change.context.getD f.context
    endedAt := if target.terminal then some at' else none
    errorCode := change.errorCode
    result := change.result }

/-- `AgentRun.evolve`. -/
def AgentRun.evolve (self : AgentRun) (at' : Instant) (change : RunChange) :
    Except DomainError AgentRun :=
  let target := change.status.getD self.status
  let state := change.workingState.getD self.workingState
  if target ∉ self.status.allowed then
    .error (.invalidStateTransition (py "AgentRun") self.id.value self.status.value.val
      target.value.val)
  else if (change.context.getD self.context).requiredKeys ≠ self.context.requiredKeys then
    .error (.invariantViolation "acceptance_contract_is_immutable" [])
  else if state.iteration < self.workingState.iteration ∨
      self.limits.maxIterations < state.iteration ∨
      self.limits.recentObservations < state.observations.length then
    .error (.invariantViolation "working_state_bounds" [])
  else AgentRun.create (self.toRunFields.changed at' change)

/-- A change that `evolve` accepts is in the status table, keeps the acceptance
contract and does not lower the iteration. -/
structure AgentRun.Evolved (run next : AgentRun) (at' : Instant) (change : RunChange) : Prop where
  fields : next.toRunFields = run.toRunFields.changed at' change
  legal : next.status ∈ run.status.allowed
  contract : next.context.requiredKeys = run.context.requiredKeys
  iteration : run.workingState.iteration ≤ next.workingState.iteration

theorem AgentRun.evolve_eq_ok {self next : AgentRun} {at' : Instant} {change : RunChange}
    (h : self.evolve at' change = .ok next) : AgentRun.Evolved self next at' change := by
  unfold AgentRun.evolve at h
  simp only at h
  split at h
  · cases h
  · next legal =>
      split at h
      · cases h
      · next contract =>
          split at h
          · cases h
          · next bounds =>
              have fields := AgentRun.create_eq_ok h
              have status : next.status = change.status.getD self.status :=
                congrArg RunFields.status fields
              have context : next.context = change.context.getD self.context :=
                congrArg RunFields.context fields
              have state : next.workingState = change.workingState.getD self.workingState :=
                congrArg RunFields.workingState fields
              refine ⟨fields, ?_, ?_, ?_⟩
              · rw [status]
                exact not_not.mp legal
              · rw [context]
                exact not_not.mp contract
              · rw [state]
                simp only [not_or, not_lt] at bounds
                exact bounds.1

theorem AgentRun.Evolved.version {self next : AgentRun} {at' : Instant} {change : RunChange}
    (h : AgentRun.Evolved self next at' change) : next.version = self.version.next :=
  congrArg RunFields.version h.fields

theorem AgentRun.Evolved.id {self next : AgentRun} {at' : Instant} {change : RunChange}
    (h : AgentRun.Evolved self next at' change) : next.id = self.id :=
  (congrArg RunFields.id h.fields).trans rfl

theorem AgentRun.Evolved.status_eq {self next : AgentRun} {at' : Instant} {change : RunChange}
    (h : AgentRun.Evolved self next at' change) : next.status = change.status.getD self.status :=
  congrArg RunFields.status h.fields

theorem AgentRun.Evolved.workingState_eq {self next : AgentRun} {at' : Instant}
    {change : RunChange} (h : AgentRun.Evolved self next at' change) :
    next.workingState = change.workingState.getD self.workingState :=
  congrArg RunFields.workingState h.fields

/-- The identity of a run, its parents and what it was started with. -/
def AgentRun.origin (run : AgentRun) :=
  (run.id, run.workspaceId, run.executionId, run.taskAttemptId, run.taskId, run.goalId,
    run.definitionVersion, run.limits, run.createdAt, run.deadline)

/-- No change of a run touches its origin. -/
theorem AgentRun.Evolved.origin_eq {self next : AgentRun} {at' : Instant} {change : RunChange}
    (h : AgentRun.Evolved self next at' change) : next.origin = self.origin := by
  unfold AgentRun.origin
  rw [h.fields]
  rfl

end AgentCompanyOS.Runtime
