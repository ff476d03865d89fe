import AgentCompanyOS.Orchestration.Runs

/-!
# What passes the checks of a command

The guards of the run theorems speak only of calls that the code would not refuse anyway.
The checks that a command makes before its first write are programs of their own here, in
the order of the command, and a command that returns has passed them.
-/

set_option autoImplicit false

namespace AgentCompanyOS.Orchestration

open Foundation Foundation.Txn Domain AgentCompanyOS.Runtime

/-! ## The checks -/

/-- The checks of `start_delegation`. -/
def startChecks (env : Env) (host : OrchestrationHost) (workspaceId : WorkspaceId)
    (runId : OrchestrationRunId) (delegationId : DelegationId) (expected : Version)
    (context : SuppliedContext) : OrchestrationTxn Unit := do
  let run ← getOrchestrationRun workspaceId runId
  expectOrchestration run expected
  let delegation ← getDelegation workspaceId delegationId
  checkStart run delegation context
  let task ← inGoals (getTask delegation.taskId)
  let (plan, _) ← getCurrent run
  let planned ← need (plan.proposal.tasks.find? fun p => p.id = delegation.plannedTaskId) .other
  let exact ← delegate? workspaceId delegation
  let _ ← selectAgent env host run planned.requirements (some [exact]) [] [] .delegate
  let ready ← readyTasks workspaceId run.id
  raiseIf (task ∉ ready) (violation "delegation_task_not_ready")

/-- The checks of a new delegation, an eligible agent among them. -/
def makeChecks (env : Env) (host : OrchestrationHost) (run : OrchestrationRun)
    (m : PlanMaterialization) (planned : PlannedTask) (previous : List Delegation)
    (mode : DelegationMode) (target : Option AgentDefinitionVersion) : OrchestrationTxn Unit := do
  let found ← candidates env host run planned.requirements
  let (definitions, excluded) ← modeCandidates run.workspaceId run found previous mode
  let _ ← selectDelegate env host run m planned previous mode target definitions excluded
  pure ()

/-- The checks of `delegate` for a new delegation. -/
def delegateChecks (env : Env) (host : OrchestrationHost) (workspaceId : WorkspaceId)
    (runId : OrchestrationRunId) (taskId : TaskId) (expected : Version) (mode : DelegationMode)
    (target : Option AgentDefinitionVersion) : OrchestrationTxn Unit := do
  let run ← getOrchestrationRun workspaceId runId
  expectOrchestration run expected
  let ready ← readyTasks workspaceId runId
  raiseIf (taskId ∉ ready.map Task.id) (violation "delegation_requires_ready_dependency_state")
  raiseIf (run.policy.maxIterations ≤ run.agentRunCount + run.replanCount)
    (violation "orchestration_iteration_limit")
  let (plan, m) ← getCurrent run
  let planned ← plannedFor plan m taskId
  let all ← getDelegations workspaceId runId
  let _ ← countActive workspaceId all
  makeChecks env host run m planned (all.filter (·.taskId = taskId)) mode target

/-- The checks of a handoff: the sender's run can be ended, and its task delegated anew. -/
def handOffChecks (env : Env) (host : OrchestrationHost) (workspaceId : WorkspaceId)
    (runId : OrchestrationRunId) (senderId : AgentRunId) (senderVersion : Version)
    (taskId : TaskId) (selected : AgentDefinitionVersion) : OrchestrationTxn Unit := do
  let _ ← inRuntime (yieldForHandoff env workspaceId senderId senderVersion)
  let current ← getOrchestrationRun workspaceId runId
  let current ← wakeForHandoff env current
  delegateChecks env host workspaceId current.id taskId current.version .redelegate
    (some selected)

/-- The checks of an arriving proposal. -/
def acceptChecks (env : Env) (host : OrchestrationHost) (runId : OrchestrationRunId)
    (request : OrchestrationRequest) (proposal : PlanProposal) (replan : Bool) :
    OrchestrationTxn Unit := do
  let run ← getOrchestrationRun request.workspaceId runId
  let goal ← inGoals (getGoal run.goalId)
  raiseIf (goal.version ≠ request.goalVersion ∨ goal.status ≠ .active)
    (.domain (.versionConflict (py "Goal") goal.id.value request.goalVersion.value
      goal.version.value))
  let _ ← checked (validatePlan request proposal)
  selectForAll env host run proposal.tasks
  let prior ← getPlans run.workspaceId run.id
  raiseIf (orphans replan prior proposal = true)
    (violation "replan_cannot_orphan_canonical_tasks")

/-! ## A command that returns has passed them -/

section Passing

variable {env : Env} {host : OrchestrationHost} {w w' : World OrchestrationStore}

theorem startDelegation_checks {workspaceId : WorkspaceId} {runId : OrchestrationRunId}
    {delegationId : DelegationId} {expected : Version} {context : SuppliedContext}
    {executionId : Option ExecutionId} {child : AgentRun}
    (h : startDelegation env host workspaceId runId delegationId expected context executionId w =
      .ok child w') :
    ∃ w₁, startChecks env host workspaceId runId delegationId expected context w = .ok () w₁ := by
  obtain ⟨run, _, found, h⟩ := bind_eq_ok.mp (atomic_eq_ok.mp h)
  obtain ⟨⟨⟩, _, current, h⟩ := bind_eq_ok.mp h
  obtain ⟨delegation, _, named, h⟩ := bind_eq_ok.mp h
  obtain ⟨⟨⟩, _, bound, h⟩ := bind_eq_ok.mp h
  obtain ⟨task, _, begun, h⟩ := bind_eq_ok.mp h
  obtain ⟨⟨plan, m⟩, _, read, h⟩ := bind_eq_ok.mp h
  obtain ⟨planned, _, asked, h⟩ := bind_eq_ok.mp h
  obtain ⟨exact', _, stored, h⟩ := bind_eq_ok.mp h
  obtain ⟨agent, _, chosen, h⟩ := bind_eq_ok.mp h
  obtain ⟨ready, _, listed, h⟩ := bind_eq_ok.mp h
  obtain ⟨⟨⟩, w₁, passed, -⟩ := bind_eq_ok.mp h
  refine ⟨w₁, ?_⟩
  unfold startChecks
  rw [bind_of_ok found, bind_of_ok current, bind_of_ok named, bind_of_ok bound,
    bind_of_ok begun, bind_of_ok read]
  dsimp only
  rw [bind_of_ok asked, bind_of_ok stored, bind_of_ok chosen, bind_of_ok listed]
  exact passed

theorem makeDelegation_checks {run : OrchestrationRun} {plan : PlanVersion}
    {m : PlanMaterialization} {planned : PlannedTask} {taskId : TaskId}
    {previous : List Delegation} {mode : DelegationMode} {target : Option AgentDefinitionVersion}
    {d : Delegation}
    (h : makeDelegation env host run plan m planned taskId previous mode target w =
      .ok (some d) w') :
    ∃ w₁, makeChecks env host run m planned previous mode target w = .ok () w₁ := by
  obtain ⟨found, _, offered, h⟩ := bind_eq_ok.mp h
  obtain ⟨⟨definitions, excluded⟩, _, among, h⟩ := bind_eq_ok.mp h
  obtain ⟨selected, _, caught, h⟩ := bind_eq_ok.mp h
  unfold makeChecks
  rw [bind_of_ok offered, bind_of_ok among]
  cases selected with
  | none =>
      -- Without an eligible agent the run waits and nothing is delegated.
      obtain ⟨_, _, -, h⟩ := bind_eq_ok.mp h
      obtain ⟨_, _, -, h⟩ := bind_eq_ok.mp h
      obtain ⟨no, -⟩ := pure_eq_ok.mp h
      cases no
  | some agent =>
      rcases catching_eq_ok.mp caught with returned | ⟨e, _, -, handled⟩
      · obtain ⟨agent', w₁, chosen, -⟩ := bind_eq_ok.mp returned
        exact ⟨w₁, bind_of_ok chosen _⟩
      · split at handled
        · obtain ⟨no, -⟩ := pure_eq_ok.mp handled
          cases no
        · cases handled

theorem delegate_checks {workspaceId : WorkspaceId} {runId : OrchestrationRunId}
    {taskId : TaskId} {expected : Version} {mode : DelegationMode}
    {target : Option AgentDefinitionVersion} {d : Delegation} (other : mode ≠ .initial)
    (h : delegate env host workspaceId runId taskId expected mode target w = .ok (some d) w') :
    ∃ w₁, delegateChecks env host workspaceId runId taskId expected mode target w =
      .ok () w₁ := by
  obtain ⟨run, _, found, h⟩ := bind_eq_ok.mp (atomic_eq_ok.mp h)
  obtain ⟨⟨⟩, _, current, h⟩ := bind_eq_ok.mp h
  obtain ⟨ready, _, listed, h⟩ := bind_eq_ok.mp h
  obtain ⟨⟨⟩, _, isReady, h⟩ := bind_eq_ok.mp h
  obtain ⟨⟨⟩, _, left, h⟩ := bind_eq_ok.mp h
  obtain ⟨⟨plan, m⟩, _, read, h⟩ := bind_eq_ok.mp h
  obtain ⟨planned, _, asked, h⟩ := bind_eq_ok.mp h
  obtain ⟨all, _, stored, h⟩ := bind_eq_ok.mp h
  obtain ⟨active, _, counted, h⟩ := bind_eq_ok.mp h
  obtain ⟨⟨⟩, w₁, roomy, h⟩ := bind_eq_ok.mp h
  obtain ⟨-, rfl⟩ := raiseIf_eq_ok.mp roomy
  rcases replay_or_make h with ⟨initial, -⟩ | ⟨-, h⟩
  · exact (other initial).elim
  · obtain ⟨w₂, passed⟩ := makeDelegation_checks h
    refine ⟨w₂, ?_⟩
    unfold delegateChecks
    rw [bind_of_ok found, bind_of_ok current, bind_of_ok listed, bind_of_ok isReady,
      bind_of_ok left, bind_of_ok read]
    dsimp only
    rw [bind_of_ok asked, bind_of_ok stored, bind_of_ok counted]
    exact passed

theorem handOff_checks {workspaceId : WorkspaceId} {runId : OrchestrationRunId}
    {senderId : AgentRunId} {senderVersion : Version} {taskId : TaskId}
    {selected : AgentDefinitionVersion} {answer : Option Delegation}
    (h : handOff env host workspaceId runId senderId senderVersion taskId selected w =
      .ok answer w') :
    ∃ w₁, handOffChecks env host workspaceId runId senderId senderVersion taskId selected w =
      .ok () w₁ := by
  obtain ⟨yielded, _, ended, h⟩ := bind_eq_ok.mp h
  obtain ⟨run, _, found, h⟩ := bind_eq_ok.mp h
  obtain ⟨current, _, woken, h⟩ := bind_eq_ok.mp h
  obtain ⟨delegation, _, delegated, h⟩ := bind_eq_ok.mp h
  obtain ⟨some', -⟩ := raiseIf_then h
  obtain ⟨d, rfl⟩ := Option.ne_none_iff_exists'.mp some'
  have other : DelegationMode.redelegate ≠ .initial := by decide
  obtain ⟨w₁, passed⟩ := delegate_checks other delegated
  refine ⟨w₁, ?_⟩
  unfold handOffChecks
  rw [bind_of_ok ended, bind_of_ok found, bind_of_ok woken]
  exact passed

theorem acceptPlan_checks {runId : OrchestrationRunId} {request : OrchestrationRequest}
    {proposal : PlanProposal} {replan : Bool} {next : OrchestrationRun}
    (h : acceptPlan env host runId request proposal replan w = .ok next w') :
    ∃ w₁, acceptChecks env host runId request proposal replan w = .ok () w₁ := by
  obtain ⟨run, _, found, h⟩ := bind_eq_ok.mp (atomic_eq_ok.mp h)
  obtain ⟨goal, _, read, h⟩ := bind_eq_ok.mp h
  obtain ⟨⟨⟩, _, active, h⟩ := bind_eq_ok.mp h
  obtain ⟨valid, _, accepted, h⟩ := bind_eq_ok.mp h
  obtain ⟨⟨⟩, _, served, h⟩ := bind_eq_ok.mp h
  obtain ⟨prior, w₁, listed, h⟩ := bind_eq_ok.mp h
  obtain ⟨planId, _, -, h⟩ := bind_eq_ok.mp h
  obtain ⟨kept, -⟩ := raiseIf_then h
  refine ⟨w₁, ?_⟩
  unfold acceptChecks
  rw [bind_of_ok found, bind_of_ok read, bind_of_ok active, bind_of_ok accepted,
    bind_of_ok served, bind_of_ok listed]
  exact raiseIf_of_not kept _

end Passing

/-! ## Calls that pass -/

/-- A call would not be refused by a program of checks. -/
def Company.passes (c : Company) (checks : OrchestrationTxn Unit) : Bool :=
  (c.reply checks).toOption.isSome

theorem Company.passes_of {c : Company} {checks : OrchestrationTxn Unit}
    (h : ∃ w, checks c.world = .ok () w) : c.passes checks = true := by
  obtain ⟨w, ok⟩ := h
  unfold Company.passes Company.reply
  rw [ok]
  rfl

end AgentCompanyOS.Orchestration
