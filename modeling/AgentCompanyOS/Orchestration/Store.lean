import AgentCompanyOS.Runtime.Operations
import AgentCompanyOS.Orchestration.Records

/-!
# The orchestration store

`InMemoryOrchestrationStore`: the orchestration records beside the runtime store that
they share a transaction with. Records are only ever added, apart from the runs, which
are replaced by their next version. Every write checks its argument against the stored
records first, and what it has established is stated next to it as an inversion lemma.
-/

set_option autoImplicit false

namespace AgentCompanyOS.Orchestration

open Foundation Foundation.Txn Domain AgentCompanyOS.Runtime

/-! ## Records -/

def OrchestrationRun.key (run : OrchestrationRun) : OrchestrationRunId := run.id

/-- The containers of `InMemoryOrchestrationStore`. -/
structure OrchestrationTables where
  runs : Registry OrchestrationRun.key
  plans : Registry PlanVersion.key
  materializations : Registry PlanMaterialization.key
  delegations : Registry Delegation.id
  attempts : List DelegationAttempt
  events : List Event
deriving DecidableEq

/-- The tables with the runtime store below them. -/
structure OrchestrationStore extends OrchestrationTables where
  runtime : RuntimeStore
deriving DecidableEq

/-- A freshly migrated database. -/
def OrchestrationTables.empty : OrchestrationTables := ⟨.empty, .empty, .empty, .empty, [], []⟩

/-- A program over the orchestration store. -/
abbrev OrchestrationTxn (α : Type) := Txn Exc OrchestrationStore α

/-- A call of the runtime or of its store, inside the shared transaction. -/
def inRuntime {α : Type} (m : RuntimeTxn α) : OrchestrationTxn α :=
  zoom OrchestrationStore.runtime (fun r s => { s with runtime := r }) m

/-- A call of the domain service, inside the shared transaction. -/
def inGoals {α : Type} (m : DomainTxn α) : OrchestrationTxn α := inRuntime (inDomain m)

namespace OrchestrationTables

/-- The plan versions of a run, sorted by version. -/
def plansOf (tables : OrchestrationTables) (runId : OrchestrationRunId) : List PlanVersion :=
  (tables.plans.values.filter fun plan => plan.orchestrationRunId = runId).insertionSort
    fun a b => a.version.value ≤ b.version.value

/-- The delegations of a run, in the order in which they were made. -/
def delegationsOf (tables : OrchestrationTables) (runId : OrchestrationRunId) :
    List Delegation :=
  tables.delegations.values.filter fun delegation => delegation.orchestrationRunId = runId

/-- The attempts of a delegation, in the order in which they were started. -/
def attemptsOf (tables : OrchestrationTables) (delegationId : DelegationId) :
    List DelegationAttempt :=
  tables.attempts.filter fun attempt => attempt.delegationId = delegationId

end OrchestrationTables

/-! ## Reads -/

/-- `_scope`. -/
def scopeOf (name : String) (expected actual : WorkspaceId) : OrchestrationTxn Unit :=
  raiseIf (expected ≠ actual)
    (.domain (.workspaceMismatch (py name) expected.value actual.value))

/-- `run`. -/
def getOrchestrationRun (workspaceId : WorkspaceId) (runId : OrchestrationRunId) :
    OrchestrationTxn OrchestrationRun := do
  let store ← getStore
  let run ← need (store.runs.get? runId)
    (.domain (.entityNotFound (py "OrchestrationRun") runId.value))
  scopeOf "OrchestrationRun" workspaceId run.workspaceId
  pure run

/-- How a plan version is named in an error. -/
def planLabel (planId : OrchestrationPlanId) (version : Version) : PyStr :=
  planId.value ++ py "@" ++ pyNat version.value

/-- `plan`. -/
def getPlan (workspaceId : WorkspaceId) (planId : OrchestrationPlanId) (version : Version) :
    OrchestrationTxn PlanVersion := do
  let store ← getStore
  let plan ← need (store.plans.get? (planId, version))
    (.domain (.entityNotFound (py "PlanVersion") (planLabel planId version)))
  scopeOf "PlanVersion" workspaceId plan.workspaceId
  pure plan

/-- `plans`. -/
def getPlans (workspaceId : WorkspaceId) (runId : OrchestrationRunId) :
    OrchestrationTxn (List PlanVersion) := do
  let _ ← getOrchestrationRun workspaceId runId
  let store ← getStore
  pure (store.plansOf runId)

/-- `materialization`. -/
def getMaterialization (workspaceId : WorkspaceId) (planId : OrchestrationPlanId)
    (version : Version) : OrchestrationTxn PlanMaterialization := do
  let _ ← getPlan workspaceId planId version
  let store ← getStore
  need (store.materializations.get? (planId, version))
    (.domain (.entityNotFound (py "PlanMaterialization") (planLabel planId version)))

/-- `delegation`. -/
def getDelegation (workspaceId : WorkspaceId) (delegationId : DelegationId) :
    OrchestrationTxn Delegation := do
  let store ← getStore
  let delegation ← need (store.delegations.get? delegationId)
    (.domain (.entityNotFound (py "Delegation") delegationId.value))
  scopeOf "Delegation" workspaceId delegation.workspaceId
  pure delegation

/-- `delegations`. -/
def getDelegations (workspaceId : WorkspaceId) (runId : OrchestrationRunId) :
    OrchestrationTxn (List Delegation) := do
  let _ ← getOrchestrationRun workspaceId runId
  let store ← getStore
  pure (store.delegationsOf runId)

/-- `attempts`. -/
def getAttempts (workspaceId : WorkspaceId) (delegationId : DelegationId) :
    OrchestrationTxn (List DelegationAttempt) := do
  let _ ← getDelegation workspaceId delegationId
  let store ← getStore
  pure (store.attemptsOf delegationId)

/-- `events`. -/
def getEvents (workspaceId : WorkspaceId) : OrchestrationTxn (List Event) := do
  let _ ← inGoals (getWorkspace workspaceId)
  let store ← getStore
  pure (store.events.filter (·.workspaceId = workspaceId))

/-! ## Writes -/

/-- The checks of `add_run`. -/
def checkAddOrchestrationRun (run : OrchestrationRun) : OrchestrationTxn Unit := do
  let goal ← inGoals (getGoal run.goalId)
  scopeOf "OrchestrationRun" run.workspaceId goal.workspaceId
  let store ← getStore
  raiseIf (store.runs.contains run.id = true ∨ run.version ≠ .initial)
    (violation "orchestration_run_identity")

/-- `add_run`. -/
def addOrchestrationRun (run : OrchestrationRun) : OrchestrationTxn Unit := atomic do
  checkAddOrchestrationRun run
  modifyStore fun store => { store with runs := store.runs.put run }

/-- The checks of `save_run`. -/
def checkSaveOrchestrationRun (run : OrchestrationRun) (expected : Version) :
    OrchestrationTxn Unit := do
  let previous ← getOrchestrationRun run.workspaceId run.id
  raiseIf (previous.version ≠ expected)
    (.domain (.versionConflict (py "OrchestrationRun") run.id.value expected.value
      previous.version.value))
  raiseIf (run.version ≠ previous.version.next) (violation "orchestration_run_version_increment")
  raiseIf (run.organization ≠ previous.organization ∨
      run.sourceDepartment ≠ previous.sourceDepartment)
    (violation "organization_pin_immutable")

/-- `save_run`. -/
def saveOrchestrationRun (run : OrchestrationRun) (expected : Version) : OrchestrationTxn Unit :=
  atomic do
    checkSaveOrchestrationRun run expected
    modifyStore fun store => { store with runs := store.runs.put run }

/-- The checks of `add_plan`. -/
def checkAddPlan (plan : PlanVersion) : OrchestrationTxn Unit := do
  let run ← getOrchestrationRun plan.workspaceId plan.orchestrationRunId
  let store ← getStore
  let lineage := store.plans.values.filter fun item => item.id = plan.id
  raiseIf (store.plans.contains plan.key = true ∨ run.goalId ≠ plan.goalId ∨
      plan.version.value ≠ lineage.length + 1 ∨
      ∃ item ∈ lineage, item.workspaceId ≠ plan.workspaceId ∨ item.goalId ≠ plan.goalId ∨
        item.orchestrationRunId ≠ plan.orchestrationRunId)
    (violation "orchestration_plan_lineage")

/-- `add_plan`. -/
def addPlan (plan : PlanVersion) : OrchestrationTxn Unit := atomic do
  checkAddPlan plan
  modifyStore fun store => { store with plans := store.plans.put plan }

/-- The check of `add_materialization` on the tasks. -/
def checkMaterializedTasks (workspaceId : WorkspaceId) (goalId : GoalId) :
    List MaterializedTask → OrchestrationTxn Unit
  | [] => pure ()
  | lineage :: rest => do
      let task ← inGoals (getTask lineage.taskId)
      raiseIf (task.workspaceId ≠ workspaceId ∨ task.goalId ≠ goalId)
        (violation "materialized_task_binding")
      checkMaterializedTasks workspaceId goalId rest

/-- The checks of `add_materialization`. -/
def checkAddMaterialization (m : PlanMaterialization) : OrchestrationTxn Unit := do
  let plan ← getPlan m.workspaceId m.planId m.planVersion
  let store ← getStore
  raiseIf (store.materializations.contains m.key = true ∨
      plan.orchestrationRunId ≠ m.orchestrationRunId)
    (violation "plan_materialization_once")
  checkMaterializedTasks m.workspaceId plan.goalId m.tasks

/-- `add_materialization`. -/
def addMaterialization (m : PlanMaterialization) : OrchestrationTxn Unit := atomic do
  checkAddMaterialization m
  modifyStore fun store => { store with materializations := store.materializations.put m }

/-- The checks of `add_delegation`. -/
def checkAddDelegation (delegation : Delegation) : OrchestrationTxn Unit := do
  let run ← getOrchestrationRun delegation.workspaceId delegation.orchestrationRunId
  let plan ← getPlan delegation.workspaceId delegation.planId delegation.planVersion
  let materialization ← getMaterialization delegation.workspaceId delegation.planId
    delegation.planVersion
  let definition ← inRuntime (getDefinition delegation.workspaceId delegation.agentDefinitionId
    delegation.agentDefinitionVersion)
  let store ← getStore
  raiseIf (store.delegations.contains delegation.id = true ∨ run.id ≠ plan.orchestrationRunId ∨
      materialization.tasks.any (fun item => item.plannedTaskId = delegation.plannedTaskId ∧
        item.taskId = delegation.taskId) = false ∨
      definition.definition.workspaceId ≠ delegation.workspaceId)
    (violation "delegation_binding")

/-- `add_delegation`. -/
def addDelegation (delegation : Delegation) : OrchestrationTxn Unit := atomic do
  checkAddDelegation delegation
  modifyStore fun store => { store with delegations := store.delegations.put delegation }

/-- The checks of `add_attempt`. -/
def checkAddAttempt (workspaceId : WorkspaceId) (attempt : DelegationAttempt) :
    OrchestrationTxn Unit := do
  let delegation ← getDelegation workspaceId attempt.delegationId
  let run ← inRuntime (getRun workspaceId attempt.agentRunId)
  let store ← getStore
  raiseIf (store.attempts.any (·.agentRunId = attempt.agentRunId) = true ∨
      run.taskId ≠ delegation.taskId ∨ run.taskAttemptId ≠ attempt.taskAttemptId ∨
      run.executionId ≠ attempt.executionId ∨
      run.definitionVersion.definition.id ≠ delegation.agentDefinitionId ∨
      run.definitionVersion.version ≠ delegation.agentDefinitionVersion)
    (violation "delegation_attempt_binding")

/-- `add_attempt`. -/
def addAttempt (workspaceId : WorkspaceId) (attempt : DelegationAttempt) :
    OrchestrationTxn Unit := atomic do
  checkAddAttempt workspaceId attempt
  modifyStore fun store => { store with attempts := store.attempts ++ [attempt] }

/-- The version that an event must carry, by its subject. -/
def subjectVersion (event : Event) : OrchestrationTxn Version :=
  match event.subjectType with
  | .orchestrationRun => do
      let runId ← checked (OpaqueId.parse .orchestrationRun event.subjectId.val)
      let run ← getOrchestrationRun event.workspaceId runId
      pure run.version
  | .orchestrationPlan => do
      let planId ← checked (OpaqueId.parse .orchestrationPlan event.subjectId.val)
      let _ ← getPlan event.workspaceId planId event.entityVersion
      pure event.entityVersion
  | .delegation => do
      let delegationId ← checked (OpaqueId.parse .delegation event.subjectId.val)
      let delegation ← getDelegation event.workspaceId delegationId
      pure delegation.version
  | _ => raise (violation "orchestration_event_subject")

/-- The checks of `append_event`. -/
def checkOrchestrationEvent (event : Event) : OrchestrationTxn Unit := do
  let version ← subjectVersion event
  let store ← getStore
  raiseIf (event.entityVersion ≠ version ∨ event.id ∈ store.events.map Event.id)
    (violation "orchestration_event_binding")

/-- `append_event`. -/
def appendOrchestrationEvent (event : Event) : OrchestrationTxn Unit := do
  checkOrchestrationEvent event
  modifyStore fun store => { store with events := store.events ++ [event] }

/-! ## Reading leaves the store alone -/

theorem reads_inRuntime {α : Type} {m : RuntimeTxn α} (h : Reads m) : Reads (inRuntime m) :=
  Reads.zoom (fun _ => rfl) h

theorem reads_inGoals {α : Type} {m : DomainTxn α} (h : Reads m) : Reads (inGoals m) :=
  reads_inRuntime (reads_inDomain h)

theorem reads_scopeOf (name : String) (expected actual : WorkspaceId) :
    Reads (scopeOf name expected actual) := Reads.raiseIf _ _

theorem reads_getOrchestrationRun (workspaceId : WorkspaceId) (runId : OrchestrationRunId) :
    Reads (getOrchestrationRun workspaceId runId) :=
  Reads.getStore.bind fun _ => (Reads.need _ _).bind fun _ => (reads_scopeOf _ _ _).bind fun _ =>
    Reads.pure _

theorem reads_getPlan (workspaceId : WorkspaceId) (planId : OrchestrationPlanId)
    (version : Version) : Reads (getPlan workspaceId planId version) :=
  Reads.getStore.bind fun _ => (Reads.need _ _).bind fun _ => (reads_scopeOf _ _ _).bind fun _ =>
    Reads.pure _

theorem reads_getPlans (workspaceId : WorkspaceId) (runId : OrchestrationRunId) :
    Reads (getPlans workspaceId runId) :=
  (reads_getOrchestrationRun _ _).bind fun _ => Reads.getStore.bind fun _ => Reads.pure _

theorem reads_getMaterialization (workspaceId : WorkspaceId) (planId : OrchestrationPlanId)
    (version : Version) : Reads (getMaterialization workspaceId planId version) :=
  (reads_getPlan _ _ _).bind fun _ => Reads.getStore.bind fun _ => Reads.need _ _

theorem reads_getDelegation (workspaceId : WorkspaceId) (delegationId : DelegationId) :
    Reads (getDelegation workspaceId delegationId) :=
  Reads.getStore.bind fun _ => (Reads.need _ _).bind fun _ => (reads_scopeOf _ _ _).bind fun _ =>
    Reads.pure _

theorem reads_getDelegations (workspaceId : WorkspaceId) (runId : OrchestrationRunId) :
    Reads (getDelegations workspaceId runId) :=
  (reads_getOrchestrationRun _ _).bind fun _ => Reads.getStore.bind fun _ => Reads.pure _

theorem reads_getAttempts (workspaceId : WorkspaceId) (delegationId : DelegationId) :
    Reads (getAttempts workspaceId delegationId) :=
  (reads_getDelegation _ _).bind fun _ => Reads.getStore.bind fun _ => Reads.pure _

theorem reads_getEvents (workspaceId : WorkspaceId) : Reads (getEvents workspaceId) :=
  (reads_inGoals (reads_getEntity Workspace _)).bind fun _ => Reads.getStore.bind fun _ =>
    Reads.pure _

theorem reads_checkAddOrchestrationRun (run : OrchestrationRun) :
    Reads (checkAddOrchestrationRun run) :=
  (reads_inGoals (reads_getEntity Goal _)).bind fun _ => (reads_scopeOf _ _ _).bind fun _ =>
    Reads.getStore.bind fun _ => Reads.raiseIf _ _

theorem reads_checkSaveOrchestrationRun (run : OrchestrationRun) (expected : Version) :
    Reads (checkSaveOrchestrationRun run expected) :=
  (reads_getOrchestrationRun _ _).bind fun _ => (Reads.raiseIf _ _).bind fun _ =>
    (Reads.raiseIf _ _).bind fun _ => Reads.raiseIf _ _

theorem reads_checkAddPlan (plan : PlanVersion) : Reads (checkAddPlan plan) :=
  (reads_getOrchestrationRun _ _).bind fun _ => Reads.getStore.bind fun _ => Reads.raiseIf _ _

theorem reads_checkMaterializedTasks (workspaceId : WorkspaceId) (goalId : GoalId)
    (tasks : List MaterializedTask) :
    Reads (checkMaterializedTasks workspaceId goalId tasks) := by
  induction tasks with
  | nil => exact Reads.pure ()
  | cons lineage rest ih =>
      exact (reads_inGoals (reads_getEntity Task _)).bind fun _ =>
        (Reads.raiseIf _ _).bind fun _ => ih

theorem reads_checkAddMaterialization (m : PlanMaterialization) :
    Reads (checkAddMaterialization m) :=
  (reads_getPlan _ _ _).bind fun _ => Reads.getStore.bind fun _ => (Reads.raiseIf _ _).bind fun _ =>
    reads_checkMaterializedTasks _ _ _

theorem reads_checkAddDelegation (delegation : Delegation) :
    Reads (checkAddDelegation delegation) :=
  (reads_getOrchestrationRun _ _).bind fun _ => (reads_getPlan _ _ _).bind fun _ =>
    (reads_getMaterialization _ _ _).bind fun _ =>
    (reads_inRuntime (reads_getDefinition _ _ _)).bind fun _ => Reads.getStore.bind fun _ =>
    Reads.raiseIf _ _

theorem reads_checkAddAttempt (workspaceId : WorkspaceId) (attempt : DelegationAttempt) :
    Reads (checkAddAttempt workspaceId attempt) :=
  (reads_getDelegation _ _).bind fun _ => (reads_inRuntime (reads_getRun _ _)).bind fun _ =>
    Reads.getStore.bind fun _ => Reads.raiseIf _ _

theorem reads_subjectVersion (event : Event) : Reads (subjectVersion event) := by
  unfold subjectVersion
  split
  · exact (reads_checked _).bind fun _ => (reads_getOrchestrationRun _ _).bind fun _ =>
      Reads.pure _
  · exact (reads_checked _).bind fun _ => (reads_getPlan _ _ _).bind fun _ => Reads.pure _
  · exact (reads_checked _).bind fun _ => (reads_getDelegation _ _).bind fun _ => Reads.pure _
  · exact Reads.raise _

theorem reads_checkOrchestrationEvent (event : Event) : Reads (checkOrchestrationEvent event) :=
  (reads_subjectVersion event).bind fun _ => Reads.getStore.bind fun _ => Reads.raiseIf _ _

end AgentCompanyOS.Orchestration
