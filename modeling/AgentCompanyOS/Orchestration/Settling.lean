import AgentCompanyOS.Orchestration.Delegating

/-!
# Settling children and ending a run

What `OrchestrationService` does with an agent run that has returned: `_reconcile_result`
counts failures, moves the run to waiting, and completes it with its goal when the last
required task has a result. `resume_delegation` and the handoff of a task continue the
work of a waiting or ended agent run; `cancel` ends the orchestration.
-/

set_option autoImplicit false

namespace AgentCompanyOS.Orchestration

open Foundation Foundation.Txn Domain AgentCompanyOS.Runtime

/-! ## Aggregation -/

/-- `DeterministicResultAggregator.aggregate`. -/
def aggregateResults (goalId : GoalId) (requiredCount : Nat)
    (results : List TaskResultReference) : GoalResultDraft where
  goalId := goalId
  taskResults := results
  complete := results.length = requiredCount

/-- The result of the last successful attempt in a list, the last attempt first. -/
def attemptResult (workspaceId : WorkspaceId) (taskId : TaskId) :
    List DelegationAttempt → OrchestrationTxn (Option TaskResultReference)
  | [] => pure none
  | attempt :: rest => do
      let run ← inRuntime (getRun workspaceId attempt.agentRunId)
      match run.status, run.result with
      | .succeeded, some result =>
          pure (some ⟨taskId, attempt.taskAttemptId, run.id, run.version, result.sourceReferences⟩)
      | _, _ => attemptResult workspaceId taskId rest

/-- The result of a task, by the delegations of the run, the last delegation first. -/
def taskResult (workspaceId : WorkspaceId) (taskId : TaskId) :
    List Delegation → OrchestrationTxn (Option TaskResultReference)
  | [] => pure none
  | delegation :: rest =>
      if delegation.taskId ≠ taskId then taskResult workspaceId taskId rest
      else do
        let attempts ← getAttempts workspaceId delegation.id
        let found ← attemptResult workspaceId taskId attempts.reverse
        match found with
        | some reference => pure (some reference)
        | none => taskResult workspaceId taskId rest

/-- The results of the required tasks. -/
def requiredResults (workspaceId : WorkspaceId) (delegations : List Delegation)
    (required : List PyStr) :
    List MaterializedTask → OrchestrationTxn (List TaskResultReference)
  | [] => pure []
  | lineage :: rest =>
      if lineage.plannedTaskId ∉ required then
        requiredResults workspaceId delegations required rest
      else do
        let found ← taskResult workspaceId lineage.taskId delegations
        let others ← requiredResults workspaceId delegations required rest
        pure (found.toList ++ others)

/-- The ids of the required tasks of a plan. -/
def PlanVersion.required (plan : PlanVersion) : List PyStr :=
  (plan.proposal.tasks.filter fun task => task.required).map fun task => task.id

/-- `aggregate`. -/
def aggregate (workspaceId : WorkspaceId) (runId : OrchestrationRunId) :
    OrchestrationTxn GoalResultDraft := do
  let run ← getOrchestrationRun workspaceId runId
  let (plan, m) ← getCurrent run
  let delegations ← getDelegations workspaceId run.id
  let results ← requiredResults workspaceId delegations.reverse plan.required m.tasks
  pure (aggregateResults run.goalId plan.required.dedup.length results)

/-! ## Reconciling a child -/

/-- Whether every task of a list is completed. -/
def allCompleted : List MaterializedTask → OrchestrationTxn Bool
  | [] => pure true
  | item :: rest => do
      let task ← inGoals (getTask item.taskId)
      if task.status = .completed then allCompleted rest else pure false

/-- Whether an event records that a version of a child was reconciled. -/
def reconciled (run : OrchestrationRun) (result : AgentRun) (event : Event) : Bool :=
  event.eventType = .orchestrationChildReconciled && event.subjectId.val = run.id.value &&
  (event.metadata.lookup (txt "agent_run_id")).map Subtype.val = some result.id.value &&
  (event.metadata.lookup (txt "agent_run_version")).map Subtype.val =
    some (pyNat result.version.value)

/-- The status and the reason after a child has returned. -/
def settledStatus (run : OrchestrationRun) (result : AgentRun) (failures : Nat) :
    OrchestrationStatus × Option PyStr :=
  if result.status = .waiting then
    (.waiting, some (if result.workingState.invocationPending = true then py "approval_required"
      else py "required_context_missing"))
  else if run.policy.maxFailedAttempts ≤ failures then
    (.waiting, some (py "failure_budget_exhausted"))
  else (run.status, none)

/-- The completion of a run whose required tasks all have results. -/
def completeRun (env : Env) (run : OrchestrationRun) : OrchestrationTxn Unit := do
  let goal ← inGoals (getGoal run.goalId)
  let _ ← inGoals (satisfyGoal env goal.id goal.version)
  let completed ← saveChange env run { status := some .completed }
  orchestrationEvent env completed .orchestrationCompleted []

/-- The part of `_reconcile_result` that looks for the end of the run. -/
def completeIfDone (env : Env) (run : OrchestrationRun) : OrchestrationTxn Unit := do
  let draft ← aggregate run.workspaceId run.id
  let (_, m) ← getCurrent run
  let completed ← allCompleted m.tasks
  runIf (draft.complete = true ∧ completed = true) (completeRun env run)

/-- The part of `_reconcile_result` after the checks. -/
def settleChild (env : Env) (current : OrchestrationRun) (result : AgentRun) :
    OrchestrationTxn AgentRun := do
  let failed ← failedChildren current.workspaceId current.id
  let failures := max current.failedAttemptCount failed
  let updated ← saveChange env current
    { status := some (settledStatus current result failures).1
      failedDelta := failures - current.failedAttemptCount
      escalationReason := (settledStatus current result failures).2 }
  runIf (result.status = .succeeded) (completeIfDone env updated)
  let last ← getOrchestrationRun current.workspaceId current.id
  orchestrationEvent env last .orchestrationChildReconciled
    [("agent_run_id", result.id.value), ("agent_run_version", pyNat result.version.value)]
  pure result

/-- `_reconcile_result`. -/
def reconcileResult (env : Env) (workspaceId : WorkspaceId) (runId : OrchestrationRunId)
    (result : AgentRun) : OrchestrationTxn AgentRun := atomic do
  let current ← getOrchestrationRun workspaceId runId
  let stored ← inRuntime (getRun workspaceId result.id)
  let store ← getStore
  raiseIf (result ≠ stored ∨ result.id ∉ store.children current.id)
    (violation "orchestration_recovery_child_binding")
  if current.status.terminal = true then pure result
  else do
    let events ← getEvents workspaceId
    if events.any (reconciled current result) = true then pure result
    else settleChild env current result

/-- `reconcile_child`. -/
def reconcileChild (env : Env) (workspaceId : WorkspaceId) (runId : OrchestrationRunId)
    (agentRunId : AgentRunId) (expected : Version) : OrchestrationTxn AgentRun := atomic do
  let run ← getOrchestrationRun workspaceId runId
  expectOrchestration run expected
  let result ← inRuntime (getRun workspaceId agentRunId)
  raiseIf (result.status = .running) (violation "recovery_requires_settled_child")
  reconcileResult env workspaceId runId result

/-! ## Resuming and handing off -/

/-- The child that `resume_delegation` continues, resumed unless an intent is. -/
def resumedChild (env : Env) (child : AgentRun) (context : SuppliedContext)
    (intentId : Option ActionIntentId) : OrchestrationTxn AgentRun :=
  match intentId with
  | some _ => do
      raiseIf (context ≠ child.context) (violation "approval_resume_cannot_change_context")
      pure child
  | none => inRuntime (resumeRun env child.workspaceId child.id child.version context)

/-- The first transaction of `resume_delegation`. -/
def openResume (env : Env) (workspaceId : WorkspaceId) (runId : OrchestrationRunId)
    (delegationId : DelegationId) (expected : Version) (context : SuppliedContext)
    (intentId : Option ActionIntentId) : OrchestrationTxn AgentRun := atomic do
  let run ← getOrchestrationRun workspaceId runId
  expectOrchestration run expected
  let delegation ← getDelegation workspaceId delegationId
  let attempts ← getAttempts workspaceId delegation.id
  raiseIf (run.status ≠ .waiting ∨ delegation.orchestrationRunId ≠ run.id ∨ attempts = [] ∨
      context.taskId ≠ delegation.taskId)
    (violation "delegation_resume_binding")
  let last ← need attempts.getLast? .other
  let child ← inRuntime (getRun workspaceId last.agentRunId)
  let resumed ← resumedChild env child context intentId
  let _ ← saveChange env run { status := some .running }
  pure resumed

/-- The transaction of `resume_delegation` after an approval was refused. -/
def restoreWaiting (env : Env) (workspaceId : WorkspaceId) (runId : OrchestrationRunId) :
    OrchestrationTxn Unit := atomic do
  let current ← getOrchestrationRun workspaceId runId
  runIf (current.status = .running) do
    let _ ← saveChange env current
      { status := some .waiting, escalationReason := some (py "approval_revalidation_failed") }
    pure ()

/-- A waiting run goes on running for a handoff. -/
def wakeForHandoff (env : Env) (run : OrchestrationRun) : OrchestrationTxn OrchestrationRun :=
  if run.status = .waiting then saveChange env run { status := some .running }
  else pure run

/-- The part of `resolve_handoff` that ends the sender's run and assigns its task. -/
def handOff (env : Env) (host : OrchestrationHost) (workspaceId : WorkspaceId)
    (runId : OrchestrationRunId) (senderId : AgentRunId) (senderVersion : Version)
    (taskId : TaskId) (selected : AgentDefinitionVersion) :
    OrchestrationTxn (Option Delegation) := do
  let _ ← inRuntime (yieldForHandoff env workspaceId senderId senderVersion)
  let current ← getOrchestrationRun workspaceId runId
  let current ← wakeForHandoff env current
  let delegation ← delegate env host workspaceId current.id taskId current.version .redelegate
    (some selected)
  raiseIf (delegation = none) (violation "handoff_delegation_failed")
  pure delegation

/-! ## Cancelling -/

/-- The unstarted tasks of a materialization are cancelled. -/
def cancelTasks (env : Env) : List MaterializedTask → OrchestrationTxn Unit
  | [] => pure ()
  | lineage :: rest => do
      let task ← inGoals (getTask lineage.taskId)
      runIf (task.status = .proposed ∨ task.status = .ready ∨ task.status = .blocked)
        (discard (inGoals (cancelTask env task.id task.version)))
      cancelTasks env rest

/-- The unstarted tasks of every materialized plan are cancelled. -/
def cancelPlans (env : Env) (workspaceId : WorkspaceId) : List PlanVersion → OrchestrationTxn Unit
  | [] => pure ()
  | plan :: rest => do
      let found ← findMaterialization workspaceId plan
      cancelTasks env ((found.map fun m => m.tasks).getD [])
      cancelPlans env workspaceId rest

/-- The execution of a run is cancelled when it is open. -/
def cancelOwnExecution (env : Env) (run : OrchestrationRun) : OrchestrationTxn Unit :=
  match run.executionId with
  | none => pure ()
  | some id => do
      let execution ← inGoals (getExecution id)
      runIf (execution.status = .running ∨ execution.status = .waiting)
        (discard (inGoals (cancelExecution env execution.id execution.version)))

/-- `cancel`. -/
def cancel (env : Env) (workspaceId : WorkspaceId) (runId : OrchestrationRunId)
    (expected : Version) : OrchestrationTxn OrchestrationRun := atomic do
  let run ← getOrchestrationRun workspaceId runId
  expectOrchestration run expected
  raiseIf (run.status.terminal = true) (violation "terminal_orchestration_cannot_cancel")
  let plans ← getPlans workspaceId run.id
  cancelPlans env workspaceId plans
  cancelOwnExecution env run
  let goal ← inGoals (getGoal run.goalId)
  runIf (goal.status = .active) (discard (inGoals (cancelGoal env goal.id goal.version)))
  let cancelled ← saveChange env run { status := some .cancelled }
  orchestrationEvent env cancelled .orchestrationCancelled []
  pure cancelled

end AgentCompanyOS.Orchestration
