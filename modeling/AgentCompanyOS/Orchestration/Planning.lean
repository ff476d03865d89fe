import AgentCompanyOS.Runtime.Drive
import AgentCompanyOS.Orchestration.Selection

/-!
# Planning and materializing

`start`, `replan` and `materialize` of `OrchestrationService`. The planner is asked
between two transactions: the first opens the request, the second accepts the proposal
against what is stored by then, or records why there is none. A materialization reuses
the tasks of the earlier materializations of its run and creates the others.
-/

set_option autoImplicit false

namespace AgentCompanyOS.Orchestration

open Foundation Foundation.Txn Domain AgentCompanyOS.Runtime

/-! ## Events -/

/-- `_event`. -/
def orchestrationEvent (env : Env) (run : OrchestrationRun) (kind : EventType)
    (extra : List (String × PyStr)) : OrchestrationTxn Unit := do
  let id ← fresh env .event
  let at' ← now env
  let pairs ← checked (cleanMetadata
    ([("strategy_id", run.strategyId),
      ("organization_graph_id",
        (run.organization.map fun o => o.graph.graphId.value).getD (py "none")),
      ("organization_graph_version",
        (run.organization.map fun o => pyNat o.graph.version.value).getD (py "none")),
      ("strategy_version", run.strategyVersion),
      ("policy_version", run.policy.version),
      ("replan_count", pyNat run.replanCount),
      ("agent_run_count", pyNat run.agentRunCount)] ++ extra))
  let event ← checked (Event.create id run.workspaceId kind .orchestrationRun run.id.text
    run.version at' pairs)
  appendOrchestrationEvent event

/-- `_plan_event`. -/
def planEvent (env : Env) (plan : PlanVersion) (kind : EventType) : OrchestrationTxn Unit := do
  let id ← fresh env .event
  let at' ← now env
  let pairs ← checked (cleanMetadata [("plan_version", pyNat plan.version.value)])
  let event ← checked (Event.create id plan.workspaceId kind .orchestrationPlan plan.id.text
    plan.version at' pairs)
  appendOrchestrationEvent event

/-- `_delegation_event`. -/
def delegationEvent (env : Env) (delegation : Delegation) (kind : EventType)
    (metadata : List (String × PyStr)) : OrchestrationTxn Unit := do
  let id ← fresh env .event
  let at' ← now env
  let pairs ← checked (cleanMetadata metadata)
  let event ← checked (Event.create id delegation.workspaceId kind .delegation delegation.id.text
    delegation.version at' pairs)
  appendOrchestrationEvent event

/-- `_version`. -/
def expectOrchestration (run : OrchestrationRun) (expected : Version) : OrchestrationTxn Unit :=
  raiseIf (run.version ≠ expected)
    (.domain (.versionConflict (py "OrchestrationRun") run.id.value expected.value
      run.version.value))

/-- Evolve a run, reading the clock, and store the result. -/
def saveChange (env : Env) (run : OrchestrationRun) (change : OrchestrationChange) :
    OrchestrationTxn OrchestrationRun := do
  let at' ← now env
  let updated ← checked (run.evolve at' change)
  saveOrchestrationRun updated run.version
  pure updated

/-! ## Starting -/

/-- The request that a goal and a run make of the planner. -/
def planningRequest (workspaceId : WorkspaceId) (goal : Goal)
    (definitions : List AgentDefinitionVersion) (policy : OrchestrationPolicy) :
    OrchestrationRequest where
  workspaceId := workspaceId
  goalId := goal.id
  goalVersion := goal.version
  objective := goal.objective
  constraints := goal.constraints
  agents := catalog definitions
  policy := policy

/-- The first transaction of `start`. -/
def openStart (env : Env) (host : OrchestrationHost) (workspaceId : WorkspaceId)
    (goalId : GoalId) (policy : OrchestrationPolicy) (sourceDepartment : Option DepartmentId) :
    OrchestrationTxn (OrchestrationRun × OrchestrationRequest) := atomic do
  let goal ← inGoals (getGoal goalId)
  raiseIf (goal.workspaceId ≠ workspaceId ∨ goal.status ≠ .active)
    (violation "orchestration_requires_active_scoped_goal")
  let id ← fresh env .orchestrationRun
  let at' ← now env
  let organization ← captureOrganization env host workspaceId
  let run ← checked (OrchestrationRun.create {
    id := id
    workspaceId := workspaceId
    goalId := goalId
    strategyId := host.strategyId
    strategyVersion := host.strategyVersion
    policy := policy
    createdAt := at'
    organization := organization
    sourceDepartment := sourceDepartment })
  addOrchestrationRun run
  orchestrationEvent env run .orchestrationStarted []
  let definitions ← candidates env host run .none
  pure (run, planningRequest workspaceId goal definitions policy)

/-- The transaction of `start` that records a failure of the planner. -/
def failStart (env : Env) (workspaceId : WorkspaceId) (runId : OrchestrationRunId)
    (reason : PyStr) : OrchestrationTxn OrchestrationRun := atomic do
  let current ← getOrchestrationRun workspaceId runId
  let failed ← saveChange env current
    { status := some .failed, escalationReason := some (py "planner_failed") }
  orchestrationEvent env failed .planRejected [("reason", reason)]
  pure failed

/-! ## Accepting a plan -/

/-- An agent is found for every task of a proposal. -/
def selectForAll (env : Env) (host : OrchestrationHost) (run : OrchestrationRun) :
    List PlannedTask → OrchestrationTxn Unit
  | [] => pure ()
  | task :: rest => do
      let _ ← selectAgent env host run task.requirements none [] [] .delegate
      selectForAll env host run rest

/-- The plan identity of a run, drawn with its first plan. -/
def planIdOf (env : Env) (run : OrchestrationRun) : OrchestrationTxn OrchestrationPlanId :=
  match run.planId with
  | some id => pure id
  | none => fresh env .orchestrationPlan

/-- Whether a new plan of a replan leaves a task of the last plan out. -/
def orphans (replan : Bool) (prior : List PlanVersion) (proposal : PlanProposal) : Bool :=
  match prior.getLast? with
  | some last =>
      replan && !subset last.taskIds (proposal.tasks.map fun task => task.id)
  | none => false

/-- `_accept_plan`. -/
def acceptPlan (env : Env) (host : OrchestrationHost) (runId : OrchestrationRunId)
    (request : OrchestrationRequest) (proposal : PlanProposal) (replan : Bool) :
    OrchestrationTxn OrchestrationRun := atomic do
  let run ← getOrchestrationRun request.workspaceId runId
  let goal ← inGoals (getGoal run.goalId)
  raiseIf (goal.version ≠ request.goalVersion ∨ goal.status ≠ .active)
    (.domain (.versionConflict (py "Goal") goal.id.value request.goalVersion.value
      goal.version.value))
  let _ ← checked (validatePlan request proposal)
  selectForAll env host run proposal.tasks
  let prior ← getPlans run.workspaceId run.id
  let planId ← planIdOf env run
  raiseIf (orphans replan prior proposal = true)
    (violation "replan_cannot_orphan_canonical_tasks")
  let at' ← now env
  let plan ← checked (PlanVersion.create {
    id := planId
    workspaceId := run.workspaceId
    goalId := run.goalId
    orchestrationRunId := run.id
    version := ⟨prior.length + 1, Nat.le_add_left 1 _⟩
    strategyId := host.strategyId
    strategyVersion := host.strategyVersion
    policyVersion := run.policy.version
    goalVersion := goal.version
    proposal := proposal
    createdAt := at' })
  addPlan plan
  let updated ← saveChange env run
    { status := some .running
      planId := some plan.id
      planVersion := some plan.version
      replanDelta := if replan = true then 1 else 0 }
  planEvent env plan .planProposed
  planEvent env plan .planAccepted
  runIf (replan = true) (orchestrationEvent env updated .replanCompleted [])
  pure updated

/-! ## Replanning -/

/-- Where the first transaction of `replan` leads. -/
inductive ReplanStep where
  /-- The replans are used up; the run waits. -/
  | exhausted (run : OrchestrationRun)
  | planning (run : OrchestrationRun) (request : OrchestrationRequest)

/-- The first transaction of `replan`. -/
def openReplan (env : Env) (host : OrchestrationHost) (workspaceId : WorkspaceId)
    (runId : OrchestrationRunId) (expected : Version) : OrchestrationTxn ReplanStep := atomic do
  let run ← getOrchestrationRun workspaceId runId
  expectOrchestration run expected
  raiseIf (run.status ≠ .running ∧ run.status ≠ .waiting)
    (violation "orchestration_not_replannable")
  raiseIf (run.policy.maxIterations ≤ run.agentRunCount + run.replanCount)
    (violation "orchestration_iteration_limit")
  if run.policy.maxReplans ≤ run.replanCount then do
    let waiting ← saveChange env run
      { status := some .waiting, escalationReason := some (py "replan_exhausted") }
    orchestrationEvent env waiting .orchestrationFailed []
    pure (.exhausted waiting)
  else do
    let goal ← inGoals (getGoal run.goalId)
    let planning ← saveChange env run { status := some .planning }
    orchestrationEvent env planning .replanRequested []
    let definitions ← candidates env host run .none
    pure (.planning planning (planningRequest workspaceId goal definitions run.policy))

/-- The transaction of `replan` that records a failed planner or a rejected plan. -/
def waitAfterPlanning (env : Env) (workspaceId : WorkspaceId) (runId : OrchestrationRunId)
    (escalation : String) (reason : PyStr) : OrchestrationTxn OrchestrationRun := atomic do
  let current ← getOrchestrationRun workspaceId runId
  let waiting ← saveChange env current
    { status := some .waiting, escalationReason := some (py escalation) }
  orchestrationEvent env waiting .planRejected [("reason", reason)]
  pure waiting

/-! ## Materializing -/

/-- Whether an exception is an `EntityNotFound`. -/
def isNotFound : Exc → Bool
  | .domain (.entityNotFound _ _) => true
  | _ => false

/-- A materialization, when there is one. -/
def findMaterialization (workspaceId : WorkspaceId) (plan : PlanVersion) :
    OrchestrationTxn (Option PlanMaterialization) :=
  catching (do let found ← getMaterialization workspaceId plan.id plan.version; pure (some found))
    fun e => if isNotFound e = true then pure none else raise e

/-- The tasks that earlier plans were materialized to, the latest materialization first. -/
def priorLineage (workspaceId : WorkspaceId) :
    List PlanVersion → List (PyStr × TaskId) → OrchestrationTxn (List (PyStr × TaskId))
  | [], lineage => pure lineage
  | prior :: rest, lineage => do
      let found ← findMaterialization workspaceId prior
      match found with
      | none => priorLineage workspaceId rest lineage
      | some m =>
          priorLineage workspaceId rest
            (m.tasks.map (fun item => (item.plannedTaskId, item.taskId)) ++ lineage)

/-- The canonical task of a planned task: the one that an earlier plan has, or a new one. -/
def canonicalTask (env : Env) (workspaceId : WorkspaceId) (goalId : GoalId)
    (lineage : List (PyStr × TaskId)) (planned : PlannedTask) : OrchestrationTxn TaskId :=
  match lineage.lookup planned.id with
  | some taskId => pure taskId
  | none => do
      let task ← inGoals (createTask env ⟨workspaceId, goalId, planned.title,
        planned.acceptanceCriteria⟩)
      pure task.id

/-- The canonical tasks of a plan. -/
def materializeTasks (env : Env) (plan : PlanVersion) (lineage : List (PyStr × TaskId)) :
    List PlannedTask → OrchestrationTxn (List MaterializedTask)
  | [] => pure []
  | planned :: rest => do
      let taskId ← canonicalTask env plan.workspaceId plan.goalId lineage planned
      let others ← materializeTasks env plan lineage rest
      pure (⟨plan.id, plan.version, planned.id, taskId⟩ :: others)

/-- Who initiates the executions of an orchestration. -/
def initiator (run : OrchestrationRun) : PyStr := py "orchestration:" ++ run.id.value

/-- A started execution for a run, possibly as the retry of another one. -/
def newExecution (env : Env) (run : OrchestrationRun) (retryOf : Option ExecutionId) :
    OrchestrationTxn Execution := do
  let execution ← inGoals (createExecution env ⟨run.workspaceId, run.goalId, initiator run,
    run.policy.maxAgentRuns, retryOf⟩)
  inGoals (startExecution env execution.id execution.version)

/-- The execution of a run, started with its first materialization. -/
def ensureExecution (env : Env) (run : OrchestrationRun) : OrchestrationTxn ExecutionId :=
  match run.executionId with
  | some id => pure id
  | none => do
      let execution ← newExecution env run none
      pure execution.id

/-- The part of `materialize` after a current plan without a materialization is found. -/
def materializePlan (env : Env) (run : OrchestrationRun) (plan : PlanVersion) :
    OrchestrationTxn PlanMaterialization := do
  let plans ← getPlans run.workspaceId run.id
  let lineage ← priorLineage run.workspaceId plans.dropLast []
  let tasks ← materializeTasks env plan lineage plan.proposal.tasks
  let executionId ← ensureExecution env run
  let at' ← now env
  let materialization ← checked (PlanMaterialization.create {
    workspaceId := run.workspaceId
    orchestrationRunId := run.id
    planId := plan.id
    planVersion := plan.version
    tasks := tasks
    materializedAt := at' })
  addMaterialization materialization
  let _ ← saveChange env run { executionId := some executionId }
  planEvent env plan .planMaterialized
  pure materialization

/-- The current plan of a run that may be materialized. -/
def currentPlan (run : OrchestrationRun) : OrchestrationTxn PlanVersion :=
  match run.planId, run.currentPlanVersion with
  | some planId, some version =>
      if run.status = .running then getPlan run.workspaceId planId version
      else raise (violation "orchestration_plan_not_ready")
  | _, _ => raise (violation "orchestration_plan_not_ready")

/-- `materialize`. -/
def materialize (env : Env) (workspaceId : WorkspaceId) (runId : OrchestrationRunId)
    (expected : Version) : OrchestrationTxn PlanMaterialization := atomic do
  let run ← getOrchestrationRun workspaceId runId
  expectOrchestration run expected
  let plan ← currentPlan run
  let goal ← inGoals (getGoal run.goalId)
  raiseIf (goal.version ≠ plan.goalVersion ∨ goal.status ≠ .active)
    (.domain (.versionConflict (py "Goal") goal.id.value plan.goalVersion.value
      goal.version.value))
  let found ← findMaterialization run.workspaceId plan
  match found with
  | some m => pure m
  | none => materializePlan env run plan

end AgentCompanyOS.Orchestration
