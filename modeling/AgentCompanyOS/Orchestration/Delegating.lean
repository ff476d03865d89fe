import AgentCompanyOS.Orchestration.Planning

/-!
# Delegating and starting tasks

`ready_tasks`, `delegate` and `start_delegation` of `OrchestrationService`. A delegation
assigns a ready task to an agent; starting it makes a task attempt and an agent run.
The limits on retries and redelegations, the iteration limit and the parallel width are
checked when a delegation is made, the agent run and failure budgets when it is started.
-/

set_option autoImplicit false

namespace AgentCompanyOS.Orchestration

open Foundation Foundation.Txn Domain AgentCompanyOS.Runtime

/-! ## Ready tasks -/

/-- `_current`. -/
def getCurrent (run : OrchestrationRun) : OrchestrationTxn (PlanVersion × PlanMaterialization) :=
  match run.planId, run.currentPlanVersion with
  | some planId, some version => do
      let plan ← getPlan run.workspaceId planId version
      let materialization ← getMaterialization run.workspaceId planId version
      pure (plan, materialization)
  | _, _ => raise (violation "orchestration_has_no_current_plan")

/-- The canonical task of a planned task in a materialization. -/
def PlanMaterialization.taskOf (m : PlanMaterialization) (plannedId : PyStr) : Option TaskId :=
  (m.tasks.find? (·.plannedTaskId = plannedId)).map MaterializedTask.taskId

/-- The stored task of a planned task. -/
def plannedTask (m : PlanMaterialization) (plannedId : PyStr) : OrchestrationTxn Task := do
  let taskId ← need (m.taskOf plannedId) .other
  inGoals (getTask taskId)

/-- The stored tasks of several planned tasks. -/
def plannedTasks (m : PlanMaterialization) : List PyStr → OrchestrationTxn (List Task)
  | [] => pure []
  | plannedId :: rest => do
      let task ← plannedTask m plannedId
      let others ← plannedTasks m rest
      pure (task :: others)

/-- The tasks of a plan that can be worked on, each with its priority and position. -/
def readyAmong (m : PlanMaterialization) :
    List (PlannedTask × Nat) → OrchestrationTxn (List (Nat × Nat × Task))
  | [] => pure []
  | (planned, position) :: rest => do
      let task ← plannedTask m planned.id
      let dependencies ← plannedTasks m planned.dependencies
      let others ← readyAmong m rest
      pure (if (task.status = .proposed ∨ task.status = .ready) ∧
          dependencies.all (fun item => item.status = .completed) = true then
          (planned.priority, position, task) :: others
        else others)

/-- `ready_tasks`: by priority, then by position in the plan. -/
def readyTasks (workspaceId : WorkspaceId) (runId : OrchestrationRunId) :
    OrchestrationTxn (List Task) := do
  let run ← getOrchestrationRun workspaceId runId
  if run.status ≠ .running then pure []
  else do
    let (plan, m) ← getCurrent run
    let ready ← readyAmong m plan.proposal.tasks.zipIdx
    let sorted := ready.insertionSort fun a b => a.1 < b.1 ∨ a.1 = b.1 ∧ a.2.1 ≤ b.2.1
    pure (sorted.map fun item => item.2.2)

/-! ## Delegating -/

/-- The `mode` of `delegate`; any other text is refused. -/
inductive DelegationMode where
  | initial | retry | redelegate
  | unknown (text : PyStr)
deriving DecidableEq

def DelegationMode.value : DelegationMode → PyStr
  | initial => py "initial"
  | retry => py "retry"
  | redelegate => py "redelegate"
  | unknown text => text

/-- Whether a delegation is unstarted or its last agent run is open. -/
def delegationActive (workspaceId : WorkspaceId) (delegation : Delegation) :
    OrchestrationTxn Bool := do
  let attempts ← getAttempts workspaceId delegation.id
  match attempts.getLast? with
  | none => pure true
  | some last => do
      let run ← inRuntime (getRun workspaceId last.agentRunId)
      pure (run.status = .running ∨ run.status = .waiting)

/-- The number of active delegations. -/
def countActive (workspaceId : WorkspaceId) : List Delegation → OrchestrationTxn Nat
  | [] => pure 0
  | delegation :: rest => do
      let active ← delegationActive workspaceId delegation
      let others ← countActive workspaceId rest
      pure (if active = true then others + 1 else others)

/-- The last agent run of a delegation has failed. -/
def requireFailed (workspaceId : WorkspaceId) (previous : Delegation) (rule : String) :
    OrchestrationTxn Unit := do
  let attempts ← getAttempts workspaceId previous.id
  let last ← need attempts.getLast? (violation rule)
  let run ← inRuntime (getRun workspaceId last.agentRunId)
  raiseIf (run.status ≠ .failed) (violation rule)

/-- The definition that a delegation names. -/
def delegate? (workspaceId : WorkspaceId) (delegation : Delegation) :
    OrchestrationTxn AgentDefinitionVersion :=
  inRuntime (getDefinition workspaceId delegation.agentDefinitionId
    delegation.agentDefinitionVersion)

/-- The definitions that several delegations name. -/
def delegates (workspaceId : WorkspaceId) :
    List Delegation → OrchestrationTxn (List AgentDefinitionVersion)
  | [] => pure []
  | delegation :: rest => do
      let definition ← delegate? workspaceId delegation
      let others ← delegates workspaceId rest
      pure (definition :: others)

/-- The definitions a mode chooses from and those it excludes. -/
def modeCandidates (workspaceId : WorkspaceId) (run : OrchestrationRun)
    (definitions : List AgentDefinitionVersion) (previous : List Delegation) :
    DelegationMode →
      OrchestrationTxn (List AgentDefinitionVersion × List AgentDefinitionVersion)
  | .initial => pure (definitions, [])
  | .retry => do
      let last ← need previous.getLast? (violation "orchestration_retry_limit")
      raiseIf (run.policy.maxRetriesPerTask ≤ last.retryOrdinal)
        (violation "orchestration_retry_limit")
      requireFailed workspaceId last "retry_requires_failed_agent_run"
      let definition ← delegate? workspaceId last
      pure ([definition], [])
  | .redelegate => do
      let last ← need previous.getLast? (violation "orchestration_redelegation_limit")
      raiseIf (run.policy.maxRedelegationsPerTask ≤ last.redelegationOrdinal)
        (violation "orchestration_redelegation_limit")
      requireFailed workspaceId last "redelegation_requires_failed_agent_run"
      let excluded ← delegates workspaceId previous
      pure (definitions, excluded)
  | .unknown _ => raise (violation "delegation_mode")

/-- The last delegates of the tasks that a planned task depends on. -/
def dependencySources (workspaceId : WorkspaceId) (runId : OrchestrationRunId)
    (m : PlanMaterialization) : List PyStr → OrchestrationTxn (List AgentDefinitionVersion)
  | [] => pure []
  | dependency :: rest => do
      let sourceTask ← need (m.taskOf dependency) .other
      let all ← getDelegations workspaceId runId
      let own ← delegates workspaceId (all.filter (·.taskId = sourceTask)).getLast?.toList
      let others ← dependencySources workspaceId runId m rest
      pure (own ++ others)

/-- The choice of an agent for a delegation. -/
def selectDelegate (env : Env) (host : OrchestrationHost) (run : OrchestrationRun)
    (m : PlanMaterialization) (planned : PlannedTask) (previous : List Delegation)
    (mode : DelegationMode) (target : Option AgentDefinitionVersion)
    (definitions excluded : List AgentDefinitionVersion) :
    OrchestrationTxn AgentDefinitionVersion := do
  raiseIf (target ≠ none ∧ mode ≠ .redelegate) (violation "target_definition_requires_redelegation")
  let upstream ← dependencySources run.workspaceId run.id m planned.dependencies
  let last ← delegates run.workspaceId
    (if mode = .redelegate then previous.getLast?.toList else [])
  selectAgent env host run planned.requirements
    (some ((target.map fun definition => [definition]).getD definitions)) excluded
    (upstream ++ last) .delegate

/-- The ordinals of a new delegation, by the last one of its task. -/
def nextOrdinals (previous : List Delegation) (mode : DelegationMode) : Nat × Nat :=
  match previous.getLast? with
  | none => (0, 0)
  | some last =>
      (last.retryOrdinal + (if mode = .retry then 1 else 0),
        last.redelegationOrdinal + (if mode = .redelegate then 1 else 0))

/-- The end of `delegate` when no agent is eligible: the run waits. -/
def waitForAgent (env : Env) (run : OrchestrationRun) : OrchestrationTxn (Option Delegation) := do
  let waiting ← saveChange env run
    { status := some .waiting, escalationReason := some (py "no_eligible_agent") }
  orchestrationEvent env waiting .delegationRejected []
  pure none

/-- The end of `delegate` with a selected agent. -/
def assign (env : Env) (run : OrchestrationRun) (plan : PlanVersion) (planned : PlannedTask)
    (taskId : TaskId) (previous : List Delegation) (mode : DelegationMode)
    (selected : AgentDefinitionVersion) : OrchestrationTxn (Option Delegation) := do
  let id ← fresh env .delegation
  let at' ← now env
  let delegation : Delegation :=
    { id := id
      workspaceId := run.workspaceId
      orchestrationRunId := run.id
      planId := plan.id
      planVersion := plan.version
      plannedTaskId := planned.id
      taskId := taskId
      agentDefinitionId := selected.definition.id
      agentDefinitionVersion := selected.version
      createdAt := at'
      version := .initial
      retryOrdinal := (nextOrdinals previous mode).1
      redelegationOrdinal := (nextOrdinals previous mode).2 }
  addDelegation delegation
  delegationEvent env delegation .taskDelegated [("mode", mode.value)]
  pure (some delegation)

/-- The part of `delegate` that makes a new delegation. -/
def makeDelegation (env : Env) (host : OrchestrationHost) (run : OrchestrationRun)
    (plan : PlanVersion) (m : PlanMaterialization) (planned : PlannedTask) (taskId : TaskId)
    (previous : List Delegation) (mode : DelegationMode)
    (target : Option AgentDefinitionVersion) : OrchestrationTxn (Option Delegation) := do
  let found ← candidates env host run planned.requirements
  let (definitions, excluded) ← modeCandidates run.workspaceId run found previous mode
  let selected ← catching
    (do
      let selected ← selectDelegate env host run m planned previous mode target definitions
        excluded
      pure (some selected))
    fun e => if isViolationOf "no_eligible_agent" e = true then pure none else raise e
  match selected with
  | none => waitForAgent env run
  | some selected => assign env run plan planned taskId previous mode selected

/-- The planned task that a canonical task stands for. -/
def plannedFor (plan : PlanVersion) (m : PlanMaterialization) (taskId : TaskId) :
    OrchestrationTxn PlannedTask := do
  let lineage ← need (m.tasks.find? (·.taskId = taskId)) .other
  need (plan.proposal.tasks.find? fun task => task.id = lineage.plannedTaskId) .other

/-- What an initial delegation of a task that has delegations answers. -/
def replayInitial (workspaceId : WorkspaceId) (last : Delegation) :
    OrchestrationTxn (Option Delegation) := do
  let attempts ← getAttempts workspaceId last.id
  raiseIf (attempts ≠ []) (violation "task_already_delegated")
  pure (some last)

/-- `delegate`. -/
def delegate (env : Env) (host : OrchestrationHost) (workspaceId : WorkspaceId)
    (runId : OrchestrationRunId) (taskId : TaskId) (expected : Version) (mode : DelegationMode)
    (target : Option AgentDefinitionVersion) : OrchestrationTxn (Option Delegation) := atomic do
  let run ← getOrchestrationRun workspaceId runId
  expectOrchestration run expected
  let ready ← readyTasks workspaceId runId
  raiseIf (taskId ∉ ready.map Task.id) (violation "delegation_requires_ready_dependency_state")
  raiseIf (run.policy.maxIterations ≤ run.agentRunCount + run.replanCount)
    (violation "orchestration_iteration_limit")
  let (plan, m) ← getCurrent run
  let planned ← plannedFor plan m taskId
  let all ← getDelegations workspaceId runId
  let previous := all.filter (·.taskId = taskId)
  let active ← countActive workspaceId all
  raiseIf (mode = .initial ∧ run.policy.maxParallelWidth ≤ active)
    (violation "orchestration_parallel_width")
  match mode, previous.getLast? with
  | .initial, some last => replayInitial workspaceId last
  | _, _ => makeDelegation env host run plan m planned taskId previous mode target

/-! ## Starting a delegation -/

/-- The number of agent runs in a list that have failed. -/
def countFailed (workspaceId : WorkspaceId) : List AgentRunId → OrchestrationTxn Nat
  | [] => pure 0
  | runId :: rest => do
      let run ← inRuntime (getRun workspaceId runId)
      let others ← countFailed workspaceId rest
      pure (if run.status = .failed then others + 1 else others)

/-- The agent runs that were started for a run's delegations. -/
def OrchestrationTables.children (tables : OrchestrationTables) (runId : OrchestrationRunId) :
    List AgentRunId :=
  (tables.delegationsOf runId).flatMap fun delegation =>
    (tables.attemptsOf delegation.id).map DelegationAttempt.agentRunId

/-- `_failed_children`. -/
def failedChildren (workspaceId : WorkspaceId) (runId : OrchestrationRunId) :
    OrchestrationTxn Nat := do
  let _ ← getDelegations workspaceId runId
  let store ← getStore
  countFailed workspaceId (store.children runId).dedup

/-- The task, made ready if it is only proposed, and started. -/
def beginTask (env : Env) (task : Task) : OrchestrationTxn Task :=
  if task.status = .proposed then do
    let ready ← inGoals (readyTask env task.id task.version)
    inGoals (startTask env ready.id ready.version)
  else inGoals (startTask env task.id task.version)

/-- The execution that a delegation runs in: the one that the caller names, or the one of
the orchestration, when there is one. -/
def selectedExecution (run : OrchestrationRun) (executionId : Option ExecutionId) :
    OrchestrationTxn (Option Execution) :=
  match executionId <|> run.executionId with
  | none => pure none
  | some id => do
      let execution ← inGoals (getExecution id)
      pure (some execution)

/-- An execution that a caller names must be a running one of the goal. -/
def checkNamedExecution (run : OrchestrationRun) (executionId : Option ExecutionId)
    (execution : Option Execution) : OrchestrationTxn Unit :=
  raiseIf (executionId ≠ none ∧ ¬∃ found ∈ execution, found.workspaceId = run.workspaceId ∧
      found.goalId = run.goalId ∧ found.status = .running)
    (violation "delegation_execution_scope")

/-- An execution that is not over, the run being moved to a replacement if need be. -/
def openExecution (env : Env) (run : OrchestrationRun) (execution : Option Execution) :
    OrchestrationTxn Execution :=
  let replace := do
    let started ← newExecution env run (execution.map Execution.id)
    let _ ← saveChange env run { executionId := some started.id }
    pure started
  match execution with
  | some found => if found.status.terminal = true then replace else pure found
  | none => replace

/-- The agent run of a delegation with the records that it needs. -/
def startChild (env : Env) (host : OrchestrationHost) (run : OrchestrationRun)
    (delegation : Delegation) (task : Task) (execution : Execution)
    (context : SuppliedContext) : OrchestrationTxn AgentRun := do
  let attempt ← inGoals (createTaskAttempt env ⟨run.workspaceId, task.id, execution.id⟩)
  let attempt ← inGoals (startTaskAttempt env attempt.id attempt.version)
  let agentRun ← inRuntime (startRun env host.runtime
    { workspaceId := run.workspaceId
      definitionId := delegation.agentDefinitionId
      definitionVersion := delegation.agentDefinitionVersion
      attemptId := attempt.id
      context := context
      limits := .default
      organizationVersion := run.organization.map fun o => o.graph.version })
  addAttempt run.workspaceId ⟨delegation.id, execution.id, attempt.id, agentRun.id⟩
  pure agentRun

/-- The binding and budget checks of `start_delegation`. -/
def checkStart (run : OrchestrationRun) (delegation : Delegation) (context : SuppliedContext) :
    OrchestrationTxn Unit := do
  raiseIf (run.status ≠ .running ∨ delegation.orchestrationRunId ≠ run.id ∨
      context.taskId ≠ delegation.taskId ∨ run.policy.maxAgentRuns ≤ run.agentRunCount)
    (violation "delegation_execution_binding_or_budget")
  let failures ← failedChildren run.workspaceId run.id
  raiseIf (run.policy.maxFailedAttempts ≤ failures)
    (violation "delegation_execution_binding_or_budget")

/-- `start_delegation`. -/
def startDelegation (env : Env) (host : OrchestrationHost) (workspaceId : WorkspaceId)
    (runId : OrchestrationRunId) (delegationId : DelegationId) (expected : Version)
    (context : SuppliedContext) (executionId : Option ExecutionId) :
    OrchestrationTxn AgentRun := atomic do
  let run ← getOrchestrationRun workspaceId runId
  expectOrchestration run expected
  let delegation ← getDelegation workspaceId delegationId
  checkStart run delegation context
  let task ← inGoals (getTask delegation.taskId)
  let (plan, _) ← getCurrent run
  let planned ← need (plan.proposal.tasks.find? fun p => p.id = delegation.plannedTaskId) .other
  let exact ← delegate? workspaceId delegation
  let _ ← selectAgent env host run planned.requirements (some [exact]) [] [] .delegate
  let ready ← readyTasks workspaceId run.id
  raiseIf (task ∉ ready) (violation "delegation_task_not_ready")
  let begun ← beginTask env task
  let execution ← selectedExecution run executionId
  checkNamedExecution run executionId execution
  let execution ← openExecution env run execution
  let agentRun ← startChild env host run delegation begun execution context
  let current ← getOrchestrationRun workspaceId run.id
  let _ ← saveChange env current { agentRunDelta := 1 }
  pure agentRun

end AgentCompanyOS.Orchestration
