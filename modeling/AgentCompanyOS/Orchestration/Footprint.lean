import AgentCompanyOS.Orchestration.Runs

/-!
# Guarantees of the service

Every transaction of the service is made of the same few statements: calls of the runtime
and of the domain service, filings in the tables, and events. A guarantee that admits these
is kept by every transaction, and by every step of the system when the runtime keeps it.
The record of a settled child is set apart, so that a guarantee can be about these records.
-/

set_option autoImplicit false

namespace AgentCompanyOS.Orchestration

open Foundation Foundation.Txn Domain AgentCompanyOS.Runtime

/-! ## Statements -/

/-- A guarantee that the statements of the service keep. -/
structure Admits (env : Env) (G : Guarantee OrchestrationStore) : Prop where
  goals : ∀ {α : Type} {m : DomainTxn α} (command : Domain.Command),
    command.issue env = discard m → Moves G (inGoals m)
  start : ∀ (host : Host) (command : StartCommand), Moves G (inRuntime (startRun env host command))
  resume : ∀ (workspaceId : WorkspaceId) (runId : AgentRunId) (expected : Version)
    (context : SuppliedContext),
    Moves G (inRuntime (resumeRun env workspaceId runId expected context))
  yields : ∀ (workspaceId : WorkspaceId) (runId : AgentRunId) (expected : Version),
    Moves G (inRuntime (yieldForHandoff env workspaceId runId expected))
  tables : ∀ {f : OrchestrationStore → OrchestrationStore},
    (∀ s, (f s).runtime = s.runtime ∧ (f s).events = s.events) →
    Moves G (modifyStore f : OrchestrationTxn Unit)
  event : ∀ {event : Event}, event.eventType ≠ .orchestrationChildReconciled →
    Moves G (appendOrchestrationEvent event)

section Statements

variable {α : Type} {env : Env} {host : OrchestrationHost} {G : Guarantee OrchestrationStore}

/-- Checks before an update of the tables. -/
theorem admits_filing (h : Admits env G) {m : OrchestrationTxn Unit}
    {f : OrchestrationStore → OrchestrationStore} (reads : Reads m)
    (same : ∀ s, (f s).runtime = s.runtime ∧ (f s).events = s.events) :
    Moves G (atomic (m >>= fun _ => modifyStore f)) :=
  (reads.moves.bind fun _ => h.tables same).atomic

theorem admits_addRun (h : Admits env G) (run : OrchestrationRun) :
    Moves G (addOrchestrationRun run) :=
  admits_filing h (reads_checkAddOrchestrationRun run) fun _ => ⟨rfl, rfl⟩

theorem admits_saveRun (h : Admits env G) (run : OrchestrationRun) (expected : Version) :
    Moves G (saveOrchestrationRun run expected) :=
  admits_filing h (reads_checkSaveOrchestrationRun run expected) fun _ => ⟨rfl, rfl⟩

theorem admits_addPlan (h : Admits env G) (plan : PlanVersion) : Moves G (addPlan plan) :=
  admits_filing h (reads_checkAddPlan plan) fun _ => ⟨rfl, rfl⟩

theorem admits_addMaterialization (h : Admits env G) (m : PlanMaterialization) :
    Moves G (addMaterialization m) :=
  admits_filing h (reads_checkAddMaterialization m) fun _ => ⟨rfl, rfl⟩

theorem admits_addDelegation (h : Admits env G) (delegation : Delegation) :
    Moves G (addDelegation delegation) :=
  admits_filing h (reads_checkAddDelegation delegation) fun _ => ⟨rfl, rfl⟩

theorem admits_addAttempt (h : Admits env G) (workspaceId : WorkspaceId)
    (attempt : DelegationAttempt) : Moves G (addAttempt workspaceId attempt) :=
  admits_filing h (reads_checkAddAttempt workspaceId attempt) fun _ => ⟨rfl, rfl⟩

/-- An event of a kind that the guarantee admits. -/
theorem admits_created (h : Admits env G) {id : EventId} {workspaceId : WorkspaceId}
    {kind : EventType} {subject : SubjectType} {subjectId : Text} {version : Version}
    {at' : Instant} {pairs : List (Text × Text)}
    (other : kind ≠ .orchestrationChildReconciled) :
    Moves G (do
      let event ← checked (Event.create id workspaceId kind subject subjectId version at' pairs)
      appendOrchestrationEvent event : OrchestrationTxn Unit) := by
  have kinds : Yields (checked (Event.create id workspaceId kind subject subjectId version at'
      pairs) : OrchestrationTxn Event) fun event => event.eventType = kind :=
    yields_checked fun event made => (Event.create_fields made).1
  exact (reads_checked _).moves.bind_of kinds fun event same => h.event (same ▸ other)

theorem admits_orchestrationEvent (h : Admits env G) (run : OrchestrationRun) (kind : EventType)
    (extra : List (String × PyStr)) (other : kind ≠ .orchestrationChildReconciled) :
    Moves G (orchestrationEvent env run kind extra) :=
  (moves_fresh env _).bind fun _ => (moves_now env).bind fun _ => (reads_checked _).moves.bind
    fun _ => admits_created h other

theorem admits_planEvent (h : Admits env G) (plan : PlanVersion) (kind : EventType)
    (other : kind ≠ .orchestrationChildReconciled) : Moves G (planEvent env plan kind) :=
  (moves_fresh env _).bind fun _ => (moves_now env).bind fun _ => (reads_checked _).moves.bind
    fun _ => admits_created h other

theorem admits_delegationEvent (h : Admits env G) (delegation : Delegation) (kind : EventType)
    (metadata : List (String × PyStr)) (other : kind ≠ .orchestrationChildReconciled) :
    Moves G (delegationEvent env delegation kind metadata) :=
  (moves_fresh env _).bind fun _ => (moves_now env).bind fun _ => (reads_checked _).moves.bind
    fun _ => admits_created h other

theorem admits_saveChange (h : Admits env G) (run : OrchestrationRun)
    (change : OrchestrationChange) : Moves G (saveChange env run change) :=
  (moves_now env).bind fun _ => (reads_checked _).moves.bind fun _ =>
    (admits_saveRun h _ _).bind fun _ => Moves.pure _

/-! ## Transactions -/

theorem admits_openStart (h : Admits env G) (workspaceId : WorkspaceId) (goalId : GoalId)
    (policy : OrchestrationPolicy) (department : Option DepartmentId) :
    Moves G (openStart env host workspaceId goalId policy department) :=
  Moves.atomic <| (reads_inGoals (reads_getEntity Goal _)).moves.bind fun _ =>
    (Moves.raiseIf _ _).bind fun _ => (moves_fresh env _).bind fun _ => (moves_now env).bind
    fun _ => (idle_captureOrganization env host _).moves.bind fun _ =>
    (reads_checked _).moves.bind fun made =>
    (admits_addRun h made).bind fun _ =>
    (admits_orchestrationEvent h made _ _ (by decide)).bind fun _ =>
    (idle_candidates env host made .none).moves.bind fun _ => Moves.pure _

theorem admits_failStart (h : Admits env G) (workspaceId : WorkspaceId) (runId : OrchestrationRunId)
    (reason : PyStr) : Moves G (failStart env workspaceId runId reason) :=
  Moves.atomic <| (reads_getOrchestrationRun _ _).moves.bind fun _ =>
    (admits_saveChange h _ _).bind fun failed =>
    (admits_orchestrationEvent h failed _ _ (by decide)).bind fun _ => Moves.pure _

theorem admits_waitAfterPlanning (h : Admits env G) (workspaceId : WorkspaceId)
    (runId : OrchestrationRunId) (escalation : String) (reason : PyStr) :
    Moves G (waitAfterPlanning env workspaceId runId escalation reason) :=
  Moves.atomic <| (reads_getOrchestrationRun _ _).moves.bind fun _ =>
    (admits_saveChange h _ _).bind fun waiting =>
    (admits_orchestrationEvent h waiting _ _ (by decide)).bind fun _ => Moves.pure _

theorem admits_acceptPlan (h : Admits env G) (runId : OrchestrationRunId)
    (request : OrchestrationRequest) (proposal : PlanProposal) (replan : Bool) :
    Moves G (acceptPlan env host runId request proposal replan) := by
  refine Moves.atomic <| (reads_getOrchestrationRun _ _).moves.bind fun run =>
    (reads_inGoals (reads_getEntity Goal _)).moves.bind fun _ =>
    (Moves.raiseIf _ _).bind fun _ => (reads_checked _).moves.bind fun _ =>
    (idle_selectForAll env host run _).moves.bind fun _ => (reads_getPlans _ _).moves.bind
    fun _ => Moves.bind ?_ fun _ => (Moves.raiseIf _ _).bind fun _ => (moves_now env).bind
    fun _ => (reads_checked _).moves.bind fun plan =>
    (admits_addPlan h plan).bind fun _ =>
    (admits_saveChange h _ _).bind fun updated =>
    (admits_planEvent h plan _ (by decide)).bind fun _ =>
    (admits_planEvent h plan _ (by decide)).bind fun _ =>
    (Moves.runIf fun _ => admits_orchestrationEvent h updated _ _ (by decide)).bind fun _ =>
    Moves.pure _
  unfold planIdOf
  split
  · exact Moves.pure _
  · exact moves_fresh env _

theorem admits_openReplan (h : Admits env G) (workspaceId : WorkspaceId)
    (runId : OrchestrationRunId) (expected : Version) :
    Moves G (openReplan env host workspaceId runId expected) := by
  refine Moves.atomic <| (reads_getOrchestrationRun _ _).moves.bind fun run =>
    (Moves.raiseIf _ _).bind fun _ => (Moves.raiseIf _ _).bind fun _ =>
    (Moves.raiseIf _ _).bind fun _ => ?_
  split
  · exact (admits_saveChange h _ _).bind fun waiting =>
      (admits_orchestrationEvent h waiting _ _ (by decide)).bind fun _ => Moves.pure _
  · exact (reads_inGoals (reads_getEntity Goal _)).moves.bind fun _ =>
      (admits_saveChange h _ _).bind fun planning =>
      (admits_orchestrationEvent h planning _ _ (by decide)).bind fun _ =>
      (idle_candidates env host run .none).moves.bind fun _ => Moves.pure _

theorem admits_newExecution (h : Admits env G) (run : OrchestrationRun)
    (retryOf : Option ExecutionId) : Moves G (newExecution env run retryOf) :=
  (h.goals (.createExecution _) rfl).bind fun execution =>
    h.goals (.startExecution execution.id execution.version) rfl

theorem admits_materializeTasks (h : Admits env G) (plan : PlanVersion)
    (lineage : List (PyStr × TaskId)) (tasks : List PlannedTask) :
    Moves G (materializeTasks env plan lineage tasks) := by
  induction tasks with
  | nil => exact Moves.pure _
  | cons planned rest ih =>
      refine Moves.bind ?_ fun _ => ih.bind fun _ => Moves.pure _
      unfold canonicalTask
      split
      · exact Moves.pure _
      · exact (h.goals (.createTask _) rfl).bind fun _ => Moves.pure _

theorem reads_priorLineage (workspaceId : WorkspaceId) (plans : List PlanVersion)
    (lineage : List (PyStr × TaskId)) : Reads (priorLineage workspaceId plans lineage) := by
  induction plans generalizing lineage with
  | nil => exact Reads.pure _
  | cons prior rest ih =>
      refine (reads_findMaterialization workspaceId prior).bind fun found => ?_
      cases found with
      | none => exact ih lineage
      | some m => exact ih _

theorem admits_materializePlan (h : Admits env G) (run : OrchestrationRun) (plan : PlanVersion) :
    Moves G (materializePlan env run plan) := by
  refine (reads_getPlans _ _).moves.bind fun plans =>
    (reads_priorLineage _ _ _).moves.bind fun lineage =>
    (admits_materializeTasks h plan lineage _).bind fun _ => Moves.bind ?_ fun _ =>
    (moves_now env).bind fun _ => (reads_checked _).moves.bind fun made =>
    (admits_addMaterialization h made).bind fun _ => (admits_saveChange h run _).bind fun _ =>
    (admits_planEvent h plan _ (by decide)).bind fun _ => Moves.pure _
  unfold ensureExecution
  split
  · exact Moves.pure _
  · exact (admits_newExecution h run none).bind fun _ => Moves.pure _

theorem admits_materialize (h : Admits env G) (workspaceId : WorkspaceId)
    (runId : OrchestrationRunId) (expected : Version) :
    Moves G (materialize env workspaceId runId expected) := by
  refine Moves.atomic <| (reads_getOrchestrationRun _ _).moves.bind fun run =>
    (Moves.raiseIf _ _).bind fun _ => Moves.bind ?_ fun plan =>
    (reads_inGoals (reads_getEntity Goal _)).moves.bind fun _ =>
    (Moves.raiseIf _ _).bind fun _ => (reads_findMaterialization _ plan).moves.bind
    fun found => ?_
  · unfold currentPlan
    split
    · split
      · exact (reads_getPlan _ _ _).moves
      · exact Moves.raise _
    · exact Moves.raise _
  · cases found with
    | some m => exact Moves.pure m
    | none => exact admits_materializePlan h run plan

theorem admits_makeDelegation (h : Admits env G) (run : OrchestrationRun) (plan : PlanVersion)
    (m : PlanMaterialization) (planned : PlannedTask) (taskId : TaskId)
    (previous : List Delegation) (mode : DelegationMode)
    (target : Option AgentDefinitionVersion) :
    Moves G (makeDelegation env host run plan m planned taskId previous mode target) := by
  refine (idle_candidates env host run _).moves.bind fun found =>
    (reads_modeCandidates _ _ _ _ _).moves.bind fun chosen => Moves.bind ?_ fun selected => ?_
  · refine Moves.catching ((idle_selectDelegate env host run m planned previous mode target _
      _).moves.bind fun _ => Moves.pure _) fun e => ?_
    split
    · exact Moves.pure _
    · exact Moves.raise e
  · cases selected with
    | none =>
        exact (admits_saveChange h run _).bind fun waiting =>
          (admits_orchestrationEvent h waiting _ _ (by decide)).bind fun _ => Moves.pure _
    | some selected =>
        exact (moves_fresh env _).bind fun _ => (moves_now env).bind fun _ =>
          (admits_addDelegation h _).bind fun _ =>
          (admits_delegationEvent h _ _ _ (by decide)).bind fun _ => Moves.pure _

theorem admits_delegate (h : Admits env G) (workspaceId : WorkspaceId) (runId : OrchestrationRunId)
    (taskId : TaskId) (expected : Version) (mode : DelegationMode)
    (target : Option AgentDefinitionVersion) :
    Moves G (delegate env host workspaceId runId taskId expected mode target) := by
  refine Moves.atomic <| (reads_getOrchestrationRun _ _).moves.bind fun run =>
    (Moves.raiseIf _ _).bind fun _ => (reads_readyTasks _ _).moves.bind fun _ =>
    (Moves.raiseIf _ _).bind fun _ => (Moves.raiseIf _ _).bind fun _ =>
    (reads_getCurrent run).moves.bind fun current =>
    (reads_plannedFor _ _ _).moves.bind fun _ => (reads_getDelegations _ _).moves.bind fun _ =>
    (reads_countActive _ _).moves.bind fun _ => (Moves.raiseIf _ _).bind fun _ => ?_
  split
  · exact (reads_getAttempts _ _).moves.bind fun _ => (Moves.raiseIf _ _).bind fun _ =>
      Moves.pure _
  · exact admits_makeDelegation h _ _ _ _ _ _ _ _

theorem admits_startChild (h : Admits env G) (run : OrchestrationRun) (d : Delegation)
    (task : Task) (execution : Execution) (context : SuppliedContext) :
    Moves G (startChild env host run d task execution context) :=
  (h.goals (.createTaskAttempt _) rfl).bind fun attempt =>
    (h.goals (.startTaskAttempt attempt.id attempt.version) rfl).bind fun _ =>
    (h.start host.runtime _).bind fun _ => (admits_addAttempt h _ _).bind fun _ =>
    Moves.pure _

theorem admits_beginTask (h : Admits env G) (task : Task) : Moves G (beginTask env task) := by
  unfold beginTask
  split
  · exact (h.goals (.readyTask task.id task.version) rfl).bind fun ready =>
      h.goals (.startTask ready.id ready.version) rfl
  · exact h.goals (.startTask task.id task.version) rfl

theorem admits_openExecution (h : Admits env G) (run : OrchestrationRun)
    (found : Option Execution) : Moves G (openExecution env run found) := by
  have replaced : Moves G (do
      let started ← newExecution env run (found.map Execution.id)
      let _ ← saveChange env run { executionId := some started.id }
      pure started) :=
    (admits_newExecution h run _).bind fun _ => (admits_saveChange h run _).bind fun _ =>
      Moves.pure _
  cases found with
  | none => exact replaced
  | some execution =>
      show Moves G (if execution.status.terminal = true then _ else _)
      split
      · exact replaced
      · exact Moves.pure _

theorem admits_startDelegation (h : Admits env G) (workspaceId : WorkspaceId)
    (runId : OrchestrationRunId) (delegationId : DelegationId) (expected : Version)
    (context : SuppliedContext) (executionId : Option ExecutionId) :
    Moves G (startDelegation env host workspaceId runId delegationId expected
      context executionId) :=
  Moves.atomic <| (reads_getOrchestrationRun _ _).moves.bind fun run =>
    (Moves.raiseIf _ _).bind fun _ => (reads_getDelegation _ _).moves.bind fun d =>
    (reads_checkStart _ _ _).moves.bind fun _ =>
    (reads_inGoals (reads_getEntity Task _)).moves.bind fun task =>
    (reads_getCurrent run).moves.bind fun _ => (Reads.need _ _).moves.bind fun _ =>
    (reads_delegate? _ d).moves.bind fun _ => (idle_selectAgent _ host run _ _ _ _ _).moves.bind
    fun _ => (reads_readyTasks _ _).moves.bind fun _ => (Moves.raiseIf _ _).bind fun _ =>
    (admits_beginTask h task).bind fun begun => (reads_selectedExecution _ _).moves.bind
    fun found => (Moves.raiseIf _ _).bind fun _ =>
    (admits_openExecution h run found).bind fun execution =>
    (admits_startChild h run d begun execution context).bind fun _ =>
    (reads_getOrchestrationRun _ _).moves.bind fun current =>
    (admits_saveChange h current _).bind fun _ => Moves.pure _

theorem admits_completeIfDone (h : Admits env G) (run : OrchestrationRun) :
    Moves G (completeIfDone env run) := by
  refine (reads_aggregate _ _).moves.bind fun _ => (reads_getCurrent run).moves.bind fun _ =>
    (reads_allCompleted _).moves.bind fun _ => Moves.runIf fun _ => ?_
  exact (reads_inGoals (reads_getEntity Goal _)).moves.bind fun goal =>
    (h.goals (.satisfyGoal goal.id goal.version) rfl).bind fun _ =>
    (admits_saveChange h run _).bind fun completed =>
    admits_orchestrationEvent h completed _ _ (by decide)

/-! ## Settling a child -/

/-- The guarantee admits the record of a settled child, too. -/
def Notes (env : Env) (G : Guarantee OrchestrationStore) : Prop :=
  ∀ (run : OrchestrationRun) (extra : List (String × PyStr)),
    Moves G (orchestrationEvent env run .orchestrationChildReconciled extra)

theorem admits_settleChild (h : Admits env G) (notes : Notes env G) (current : OrchestrationRun)
    (result : AgentRun) : Moves G (settleChild env current result) :=
  (reads_failedChildren _ _).moves.bind fun _ => (admits_saveChange h current _).bind
    fun updated => (Moves.runIf fun _ => admits_completeIfDone h updated).bind fun _ =>
    (reads_getOrchestrationRun _ _).moves.bind fun last =>
    (notes last _).bind fun _ => Moves.pure _

theorem admits_reconcileResult (h : Admits env G) (notes : Notes env G)
    (workspaceId : WorkspaceId) (runId : OrchestrationRunId) (result : AgentRun) :
    Moves G (reconcileResult env workspaceId runId result) := by
  refine Moves.atomic <| (reads_getOrchestrationRun _ _).moves.bind fun current =>
    (reads_inRuntime (reads_getRun _ _)).moves.bind fun _ => Moves.getStore.bind fun _ =>
    (Moves.raiseIf _ _).bind fun _ => ?_
  split
  · exact Moves.pure _
  · refine (reads_getEvents _).moves.bind fun events => ?_
    split
    · exact Moves.pure _
    · exact admits_settleChild h notes current result

theorem admits_reconcileChild (h : Admits env G) (notes : Notes env G)
    (workspaceId : WorkspaceId) (runId : OrchestrationRunId) (agentRunId : AgentRunId)
    (expected : Version) :
    Moves G (reconcileChild env workspaceId runId agentRunId expected) :=
  Moves.atomic <| (reads_getOrchestrationRun _ _).moves.bind fun _ =>
    (Moves.raiseIf _ _).bind fun _ => (reads_inRuntime (reads_getRun _ _)).moves.bind fun _ =>
    (Moves.raiseIf _ _).bind fun _ => admits_reconcileResult h notes _ _ _

/-! ## Resuming, handing off and cancelling -/

theorem admits_openResume (h : Admits env G) (workspaceId : WorkspaceId)
    (runId : OrchestrationRunId) (delegationId : DelegationId) (expected : Version)
    (context : SuppliedContext) (intentId : Option ActionIntentId) :
    Moves G (openResume env workspaceId runId delegationId expected context intentId) := by
  refine Moves.atomic <| (reads_getOrchestrationRun _ _).moves.bind fun run =>
    (Moves.raiseIf _ _).bind fun _ => (reads_getDelegation _ _).moves.bind fun _ =>
    (reads_getAttempts _ _).moves.bind fun _ => (Moves.raiseIf _ _).bind fun _ =>
    (Reads.need _ _).moves.bind fun _ => (reads_inRuntime (reads_getRun _ _)).moves.bind
    fun child => Moves.bind ?_ fun _ => (admits_saveChange h run _).bind fun _ => Moves.pure _
  cases intentId with
  | some intent => exact (Moves.raiseIf _ _).bind fun _ => Moves.pure _
  | none => exact h.resume _ _ _ _

theorem admits_restoreWaiting (h : Admits env G) (workspaceId : WorkspaceId)
    (runId : OrchestrationRunId) : Moves G (restoreWaiting env workspaceId runId) :=
  Moves.atomic <| (reads_getOrchestrationRun _ _).moves.bind fun current =>
    Moves.runIf fun _ => (admits_saveChange h current _).bind fun _ => Moves.pure _

theorem admits_handOff (h : Admits env G) (workspaceId : WorkspaceId) (runId : OrchestrationRunId)
    (senderId : AgentRunId) (senderVersion : Version) (taskId : TaskId)
    (selected : AgentDefinitionVersion) :
    Moves G (handOff env host workspaceId runId senderId senderVersion taskId selected) := by
  refine (h.yields _ _ _).bind fun _ =>
    (reads_getOrchestrationRun _ _).moves.bind fun current => Moves.bind ?_ fun _ =>
    (admits_delegate h _ _ _ _ _ _).bind fun _ => (Moves.raiseIf _ _).bind fun _ => Moves.pure _
  unfold wakeForHandoff
  split
  · exact admits_saveChange h current _
  · exact Moves.pure _

theorem admits_cancelPlans (h : Admits env G) (workspaceId : WorkspaceId)
    (plans : List PlanVersion) : Moves G (cancelPlans env workspaceId plans) := by
  have tasks : ∀ items, Moves G (cancelTasks env items) := by
    intro items
    induction items with
    | nil => exact Moves.pure _
    | cons item rest ih =>
        refine (reads_inGoals (reads_getEntity Task _)).moves.bind fun task =>
          (Moves.runIf fun _ => ?_).bind fun _ => ih
        exact (h.goals (.cancelTask task.id task.version) rfl).discard
  induction plans with
  | nil => exact Moves.pure _
  | cons plan rest ih =>
      exact (reads_findMaterialization _ _).moves.bind fun _ => (tasks _).bind fun _ => ih

theorem admits_cancel (h : Admits env G) (workspaceId : WorkspaceId) (runId : OrchestrationRunId)
    (expected : Version) : Moves G (cancel env workspaceId runId expected) := by
  refine Moves.atomic <| (reads_getOrchestrationRun _ _).moves.bind fun run =>
    (Moves.raiseIf _ _).bind fun _ => (Moves.raiseIf _ _).bind fun _ =>
    (reads_getPlans _ _).moves.bind fun _ => (admits_cancelPlans h _ _).bind fun _ =>
    Moves.bind ?_ fun _ => (reads_inGoals (reads_getEntity Goal _)).moves.bind fun goal =>
    (Moves.runIf fun _ => (h.goals (.cancelGoal goal.id goal.version) rfl).discard).bind
    fun _ => (admits_saveChange h run _).bind fun cancelled =>
    (admits_orchestrationEvent h cancelled _ _ (by decide)).bind fun _ => Moves.pure _
  unfold cancelOwnExecution
  cases run.executionId with
  | none => exact Moves.pure _
  | some id =>
      exact (reads_inGoals (reads_getEntity Execution _)).moves.bind fun execution =>
        Moves.runIf fun _ =>
          (h.goals (.cancelExecution execution.id execution.version) rfl).discard

end Statements

/-! ## Steps -/

/-- The run and the child that a step reconciles. -/
def Company.reconciles (s : Company) : Label → Option (OrchestrationRunId × AgentRunId)
  | .command _ (.reconcileChild _ runId agentRunId _) => some (runId, agentRunId)
  | .advance id (.driven (.ok result)) => (s.call? id).bind fun call =>
      match call.point with
      | .driving _ runId _ => some (runId, result.id)
      | _ => none
  | _ => none

/-- A relation of stores that a guarantee of the transactions implies and that the steps of
the runtime keep. -/
structure Steady (platform : Platform) (G : Guarantee OrchestrationStore)
    (R : OrchestrationStore → OrchestrationStore → Prop) : Prop where
  admits : Admits platform.toEnv G
  rel : ∀ {w w'}, G.rel w w' → R w.store w'.store
  refl : ∀ s, R s s
  trans : ∀ {s t u}, R s t → R t u → R s u
  runtime : ∀ (s : Company) (label : Runtime.Label),
    R s.store { s.store with runtime := (s.runtime.step platform label).store }

namespace Steady

variable {platform : Platform} {s : Company} {G : Guarantee OrchestrationStore}
  {R : OrchestrationStore → OrchestrationStore → Prop}

/-- A transaction of the service, whether it returned or raised. -/
theorem ran (h : Steady platform G R) {α : Type} {m : OrchestrationTxn α} (hm : Moves G m) :
    R s.store (s.ran m).store := h.rel (hm s.world).2

theorem issue (h : Steady platform G R) (host : OrchestrationHost) (command : OrchestrationCommand)
    (notes : s.reconciles (.command host command) ≠ none → Notes platform.toEnv G) :
    R s.store (s.issue platform host command).store := by
  cases command with
  | start workspaceId goalId policy department =>
      have moved : R s.store (s.ran (openStart platform.toEnv host workspaceId goalId policy
          department)).store := h.ran (admits_openStart h.admits _ _ _ _)
      unfold Company.issue
      dsimp only
      split <;> exact moved
  | replan workspaceId runId expected =>
      have moved : R s.store (s.ran (openReplan platform.toEnv host workspaceId runId
          expected)).store := h.ran (admits_openReplan h.admits _ _ _)
      unfold Company.issue
      dsimp only
      split <;> exact moved
  | materialize workspaceId runId expected => exact h.ran (admits_materialize h.admits _ _ _)
  | delegate workspaceId runId taskId expected mode target =>
      exact h.ran (admits_delegate h.admits _ _ _ _ _ _)
  | startDelegation workspaceId runId delegationId expected context executionId =>
      exact h.ran (admits_startDelegation h.admits _ _ _ _ _ _)
  | execute workspaceId runId delegationId expected context =>
      have moved : R s.store (s.ran (startDelegation platform.toEnv host workspaceId runId
          delegationId expected context none)).store :=
        h.ran (admits_startDelegation h.admits _ _ _ _ _ _)
      unfold Company.issue
      dsimp only
      split
      · exact h.trans moved (h.runtime _ _)
      · exact moved
  | resumeDelegation workspaceId runId delegationId expected context intentId =>
      have moved := h.ran (s := s)
        (admits_openResume h.admits workspaceId runId delegationId expected context intentId)
      unfold Company.issue
      dsimp only
      split
      · exact h.trans moved (h.runtime _ _)
      · exact moved
  | reconcileChild workspaceId runId agentRunId expected =>
      exact h.ran (admits_reconcileChild h.admits (notes nofun) _ _ _ _)
  | handOff workspaceId runId senderId senderVersion taskId selected =>
      exact h.ran (admits_handOff h.admits _ _ _ _ _ _).atomic
  | cancel workspaceId runId expected => exact h.ran (admits_cancel h.admits _ _ _)

theorem proceed (h : Steady platform G R) (call : OrchestrationCall) (answer : Answer)
    (notes : (∃ workspaceId runId approval, call.point = .driving workspaceId runId approval) →
      (∃ result, answer = .driven (.ok result)) →
      Notes platform.toEnv G) :
    R s.store (s.proceed platform call answer).store := by
  obtain ⟨id, host, point⟩ := call
  cases point with
  | planning runId request replan =>
      cases answer with
      | planned reply text =>
          cases reply with
          | ok proposal =>
              have moved : R s.store (s.ran (acceptPlan platform.toEnv host runId request proposal
                  replan)).store := h.ran (admits_acceptPlan h.admits _ _ _ _)
              unfold Company.proceed
              dsimp only
              split <;> (rw [store_moved]; exact moved)
          | error e =>
              unfold Company.proceed
              rw [store_moved]
              exact h.refl _
      | next | driven => exact h.refl _
  | failing workspaceId runId reason =>
      cases answer with
      | next =>
          show R _ ((s.ran _).moved id none).store
          rw [store_moved]
          exact h.ran (admits_failStart h.admits _ _ _)
      | planned | driven => exact h.refl _
  | refusing workspaceId runId escalation reason =>
      cases answer with
      | next =>
          show R _ ((s.ran _).moved id none).store
          rw [store_moved]
          exact h.ran (admits_waitAfterPlanning h.admits _ _ _ _)
      | planned | driven => exact h.refl _
  | driving workspaceId runId approval =>
      cases answer with
      | driven result =>
          cases result with
          | ok result =>
              show R _ ((s.ran _).moved id none).store
              rw [store_moved]
              exact h.ran (admits_reconcileResult h.admits (notes ⟨_, _, _, rfl⟩ ⟨_, rfl⟩) _ _ _)
          | error e =>
              unfold Company.proceed
              rw [store_moved]
              exact h.refl _
      | next | planned => exact h.refl _
  | restoring workspaceId runId =>
      cases answer with
      | next =>
          show R _ ((s.ran _).moved id none).store
          rw [store_moved]
          exact h.ran (admits_restoreWaiting h.admits _ _)
      | planned | driven => exact h.refl _

/-- What one step of the system does. -/
theorem step (h : Steady platform G R) (label : Label)
    (notes : s.reconciles label ≠ none → Notes platform.toEnv G) :
    R s.store (s.step platform label).store := by
  cases label with
  | runtime label => exact h.runtime s label
  | command host command => exact h.issue host command notes
  | advance id answer =>
      cases found : s.call? id with
      | none =>
          rw [Company.step_unknown found]
          exact h.refl _
      | some call =>
          rw [Company.step_advance found]
          refine h.proceed call answer ?_
          rintro ⟨workspaceId, runId, approval, at'⟩ ⟨result, rfl⟩
          apply notes
          unfold Company.reconciles
          simp [found, at']
  | drop id =>
      show R s.store (s.moved id none).store
      rw [store_moved]
      exact h.refl _

end Steady

end AgentCompanyOS.Orchestration
