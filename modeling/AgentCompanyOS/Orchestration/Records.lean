import AgentCompanyOS.Orchestration.Plans

/-!
# Orchestration records

The durable records of an orchestration: the run with its counters, the versions of
its plan, what they were materialized to, the assignments of tasks to agents and the
agent runs that were started for them. A run keeps the validity of its constructor as
a field and changes only through `evolve`.
-/

set_option autoImplicit false

namespace AgentCompanyOS.Orchestration

open Foundation Domain AgentCompanyOS.Runtime

/-! ## Plan versions -/

structure PlanVersionFields where
  id : OrchestrationPlanId
  workspaceId : WorkspaceId
  goalId : GoalId
  orchestrationRunId : OrchestrationRunId
  version : Version
  strategyId : PyStr
  strategyVersion : PyStr
  policyVersion : PyStr
  goalVersion : Version
  proposal : PlanProposal
  createdAt : Instant
deriving DecidableEq

/-- An accepted version of a plan. -/
structure PlanVersion extends PlanVersionFields where
  binding : toPlanVersionFields.proposal.workspaceId = toPlanVersionFields.workspaceId ∧
    toPlanVersionFields.proposal.goalId = toPlanVersionFields.goalId
deriving DecidableEq

/-- `PlanVersion(...)`. -/
def PlanVersion.create (f : PlanVersionFields) : Except DomainError PlanVersion :=
  if binding : f.proposal.workspaceId = f.workspaceId ∧ f.proposal.goalId = f.goalId then
    .ok ⟨f, binding⟩
  else .error (.invariantViolation "plan_version_binding" [])

theorem PlanVersion.create_eq_ok {f : PlanVersionFields} {plan : PlanVersion}
    (h : PlanVersion.create f = .ok plan) : plan.toPlanVersionFields = f := by
  unfold PlanVersion.create at h
  split at h
  · cases h
    rfl
  · cases h

/-- The key of a stored plan version. -/
def PlanVersion.key (plan : PlanVersion) : OrchestrationPlanId × Version := (plan.id, plan.version)

/-- The ids of the tasks of a plan. -/
def PlanVersion.taskIds (plan : PlanVersion) : List PyStr :=
  plan.proposal.tasks.map fun task => task.id

/-! ## Materializations -/

structure MaterializedTask where
  planId : OrchestrationPlanId
  planVersion : Version
  plannedTaskId : PyStr
  taskId : TaskId
deriving DecidableEq

structure MaterializationFields where
  workspaceId : WorkspaceId
  orchestrationRunId : OrchestrationRunId
  planId : OrchestrationPlanId
  planVersion : Version
  tasks : List MaterializedTask
  materializedAt : Instant
deriving DecidableEq

/-- The canonical tasks of a plan version. -/
structure PlanMaterialization extends MaterializationFields where
  unique : (toMaterializationFields.tasks.map MaterializedTask.plannedTaskId).Nodup
deriving DecidableEq

/-- `PlanMaterialization(...)`. -/
def PlanMaterialization.create (f : MaterializationFields) :
    Except DomainError PlanMaterialization :=
  if unique : (f.tasks.map MaterializedTask.plannedTaskId).Nodup then .ok ⟨f, unique⟩
  else .error (.invariantViolation "materialization_unique_planned_tasks" [])

theorem PlanMaterialization.create_eq_ok {f : MaterializationFields} {m : PlanMaterialization}
    (h : PlanMaterialization.create f = .ok m) : m.toMaterializationFields = f := by
  unfold PlanMaterialization.create at h
  split at h
  · cases h
    rfl
  · cases h

/-- The key of a stored materialization. -/
def PlanMaterialization.key (m : PlanMaterialization) : OrchestrationPlanId × Version :=
  (m.planId, m.planVersion)

/-! ## Runs -/

inductive OrchestrationStatus where
  | planning | running | waiting | completed | failed | cancelled
deriving DecidableEq

def OrchestrationStatus.value : OrchestrationStatus → PyStr
  | planning => py "planning"
  | running => py "running"
  | waiting => py "waiting"
  | completed => py "completed"
  | failed => py "failed"
  | cancelled => py "cancelled"

def OrchestrationStatus.terminal (s : OrchestrationStatus) : Bool :=
  s = completed || s = failed || s = cancelled

/-- The targets that `evolve` allows besides the status itself. -/
def OrchestrationStatus.allowed : OrchestrationStatus → List OrchestrationStatus
  | planning => [running, waiting, failed, cancelled]
  | running => [planning, waiting, completed, failed, cancelled]
  | waiting => [running, planning, failed, cancelled]
  | _ => []

/-- The fields of an `OrchestrationRun`. -/
structure OrchestrationFields where
  id : OrchestrationRunId
  workspaceId : WorkspaceId
  goalId : GoalId
  strategyId : PyStr
  strategyVersion : PyStr
  policy : OrchestrationPolicy
  createdAt : Instant
  status : OrchestrationStatus := .planning
  version : Version := .initial
  planId : Option OrchestrationPlanId := none
  currentPlanVersion : Option Version := none
  executionId : Option ExecutionId := none
  replanCount : Nat := 0
  agentRunCount : Nat := 0
  failedAttemptCount : Nat := 0
  escalationReason : Option PyStr := none
  endedAt : Option Instant := none
  organization : Option OrganizationSnapshot
  sourceDepartment : Option DepartmentId
deriving DecidableEq

/-- `OrchestrationRun.__post_init__`. -/
structure OrchestrationFields.Valid (f : OrchestrationFields) : Prop where
  ended : f.status.terminal = f.endedAt.isSome
  replans : f.replanCount ≤ f.policy.maxReplans
  agentRuns : f.agentRunCount ≤ f.policy.maxAgentRuns

/-- One bounded coordination of a goal. -/
structure OrchestrationRun extends OrchestrationFields where
  valid : toOrchestrationFields.Valid
deriving DecidableEq

/-- `OrchestrationRun(...)`. -/
def OrchestrationRun.create (f : OrchestrationFields) : Except DomainError OrchestrationRun :=
  if ended : f.status.terminal = f.endedAt.isSome then
    if budget : f.replanCount ≤ f.policy.maxReplans ∧ f.agentRunCount ≤ f.policy.maxAgentRuns then
      .ok ⟨f, ended, budget.1, budget.2⟩
    else .error (.invariantViolation "orchestration_budget_exceeded" [])
  else .error (.invariantViolation "orchestration_terminal_time" [])

theorem OrchestrationRun.create_eq_ok {f : OrchestrationFields} {run : OrchestrationRun}
    (h : OrchestrationRun.create f = .ok run) : run.toOrchestrationFields = f := by
  unfold OrchestrationRun.create at h
  repeat' split at h
  all_goals cases h
  rfl

/-- The keyword arguments of `evolve`; a `none` keeps the run's own value, but for the
reason, which is replaced. -/
structure OrchestrationChange where
  status : Option OrchestrationStatus := none
  planId : Option OrchestrationPlanId := none
  planVersion : Option Version := none
  executionId : Option ExecutionId := none
  replanDelta : Nat := 0
  agentRunDelta : Nat := 0
  failedDelta : Nat := 0
  escalationReason : Option PyStr := none

/-- The fields after a change. -/
def OrchestrationFields.changed (f : OrchestrationFields) (at' : Instant)
    (change : OrchestrationChange) : OrchestrationFields :=
  let target := change.status.getD f.status
  { f with
    status := target
    version := f.version.next
    planId := change.planId <|> f.planId
    currentPlanVersion := change.planVersion <|> f.currentPlanVersion
    executionId := change.executionId <|> f.executionId
    replanCount := f.replanCount + change.replanDelta
    agentRunCount := f.agentRunCount + change.agentRunDelta
    failedAttemptCount := f.failedAttemptCount + change.failedDelta
    escalationReason := change.escalationReason
    endedAt := if target.terminal then some at' else none }

/-- `OrchestrationRun.evolve`. -/
def OrchestrationRun.evolve (self : OrchestrationRun) (at' : Instant)
    (change : OrchestrationChange) : Except DomainError OrchestrationRun :=
  let target := change.status.getD self.status
  if target ≠ self.status ∧ target ∉ self.status.allowed then
    .error (.invalidStateTransition (py "OrchestrationRun") self.id.value self.status.value
      target.value)
  else OrchestrationRun.create (self.toOrchestrationFields.changed at' change)

/-- A change that `evolve` accepts keeps the status or is in the table. -/
structure OrchestrationRun.Evolved (run next : OrchestrationRun) (at' : Instant)
    (change : OrchestrationChange) : Prop where
  fields : next.toOrchestrationFields = run.toOrchestrationFields.changed at' change
  legal : next.status = run.status ∨ next.status ∈ run.status.allowed

theorem OrchestrationRun.evolve_eq_ok {self next : OrchestrationRun} {at' : Instant}
    {change : OrchestrationChange} (h : self.evolve at' change = .ok next) :
    OrchestrationRun.Evolved self next at' change := by
  unfold OrchestrationRun.evolve at h
  simp only at h
  split at h
  · cases h
  · next legal =>
      have fields := OrchestrationRun.create_eq_ok h
      have status : next.status = change.status.getD self.status :=
        congrArg OrchestrationFields.status fields
      refine ⟨fields, ?_⟩
      rw [status]
      by_cases same : change.status.getD self.status = self.status
      · exact .inl same
      · exact .inr (not_not.mp fun outside => legal ⟨same, outside⟩)

/-! ## Delegations -/

/-- The assignment of a task to an exact agent. Its status stays `assigned`. -/
structure Delegation where
  id : DelegationId
  workspaceId : WorkspaceId
  orchestrationRunId : OrchestrationRunId
  planId : OrchestrationPlanId
  planVersion : Version
  plannedTaskId : PyStr
  taskId : TaskId
  agentDefinitionId : AgentDefinitionId
  agentDefinitionVersion : Version
  createdAt : Instant
  version : Version
  retryOrdinal : Nat
  redelegationOrdinal : Nat
deriving DecidableEq

/-- An agent run that was started for a delegation. -/
structure DelegationAttempt where
  delegationId : DelegationId
  executionId : ExecutionId
  taskAttemptId : TaskAttemptId
  agentRunId : AgentRunId
deriving DecidableEq

structure TaskResultReference where
  sourceTaskId : TaskId
  sourceAttemptId : TaskAttemptId
  sourceAgentRunId : AgentRunId
  resultVersion : Version
  sourceReferences : List PyStr
deriving DecidableEq

structure GoalResultDraft where
  goalId : GoalId
  taskResults : List TaskResultReference
  complete : Bool
deriving DecidableEq

end AgentCompanyOS.Orchestration
