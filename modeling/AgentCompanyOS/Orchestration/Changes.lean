import AgentCompanyOS.Runtime.Growth
import AgentCompanyOS.Orchestration.System

/-!
# What the transactions of the service change

Most statements of the service leave the orchestration records alone and take nothing of
the runtime store back: they are `Quiet`. The others are the writes of the store, and an
inversion lemma says of each what it has found and what it has filed. The transactions of
the service are taken apart with these in the modules that follow.
-/

set_option autoImplicit false

namespace AgentCompanyOS.Orchestration

open Foundation Foundation.Txn Domain AgentCompanyOS.Runtime

/-! ## Quiet statements -/

/-- The tables without their events. -/
def OrchestrationTables.records (tables : OrchestrationTables) : OrchestrationTables :=
  { tables with events := [] }

/-- The records are as they were, and the runtime store has only grown. -/
structure Quiet (s s' : OrchestrationStore) : Prop where
  records : s'.records = s.records
  grown : Grown s.runtime s'.runtime

namespace Quiet

variable {s s' s'' : OrchestrationStore}

theorem refl (s : OrchestrationStore) : Quiet s s := ⟨rfl, .refl _⟩

theorem trans (h : Quiet s s') (h' : Quiet s' s'') : Quiet s s'' :=
  ⟨h'.records.trans h.records, h.grown.trans h'.grown⟩

theorem runs (h : Quiet s s') : s'.runs = s.runs := by
  have same := congrArg OrchestrationTables.runs h.records
  exact same

theorem plans (h : Quiet s s') : s'.plans = s.plans := by
  have same := congrArg OrchestrationTables.plans h.records
  exact same

theorem materializations (h : Quiet s s') : s'.materializations = s.materializations := by
  have same := congrArg OrchestrationTables.materializations h.records
  exact same

theorem delegations (h : Quiet s s') : s'.delegations = s.delegations := by
  have same := congrArg OrchestrationTables.delegations h.records
  exact same

theorem attempts (h : Quiet s s') : s'.attempts = s.attempts := by
  have same := congrArg OrchestrationTables.attempts h.records
  exact same

end Quiet

/-- The guarantee of quiet statements. -/
def quiet : Guarantee OrchestrationStore :=
  Guarantee.onStore Quiet Quiet.refl fun first second => first.trans second

section Calls

variable {α : Type}

/-- A call of the runtime. -/
theorem quiet_inRuntime {m : RuntimeTxn α} (hm : Moves growing m) : Moves quiet (inRuntime m) :=
  Moves.zoom hm fun _ _ _ _ grown => ⟨rfl, grown⟩

/-- A command of the domain service on the runtime store. -/
theorem growing_inDomain {m : DomainTxn α} (env : Env) (command : Domain.Command)
    (same : command.issue env = discard m) : Moves growing (inDomain m) := by
  cases kind : commandKind command with
  | succeed => exact moves_growing (K := [.succeed]) (moves_command .succeed env command kind same)
  | domain => exact moves_growing (K := [.domain]) (moves_command .domain env command kind same)
  | _ => cases command <;> cases kind

/-- A command of the domain service. -/
theorem quiet_inGoals {m : DomainTxn α} (env : Env) (command : Domain.Command)
    (same : command.issue env = discard m) : Moves quiet (inGoals m) :=
  quiet_inRuntime (growing_inDomain env command same)

theorem quiet_createTask (env : Env) (input : CreateTaskCommand) :
    Moves quiet (inGoals (createTask env input)) := quiet_inGoals env (.createTask input) rfl

theorem quiet_newExecution (env : Env) (run : OrchestrationRun) (retryOf : Option ExecutionId) :
    Moves quiet (newExecution env run retryOf) :=
  (quiet_inGoals env (.createExecution _) rfl).bind fun execution =>
    quiet_inGoals env (.startExecution execution.id execution.version) rfl

theorem quiet_beginTask (env : Env) (task : Task) : Moves quiet (beginTask env task) := by
  unfold beginTask
  split
  · exact (quiet_inGoals env (.readyTask task.id task.version) rfl).bind fun ready =>
      quiet_inGoals env (.startTask ready.id ready.version) rfl
  · exact quiet_inGoals env (.startTask task.id task.version) rfl

theorem growing_startRun (env : Env) (host : Host) (command : StartCommand) :
    Moves growing (startRun env host command) :=
  moves_growing (K := [.start, .audit]) (moves_startRun env host command)

theorem growing_resumeRun (env : Env) (workspaceId : WorkspaceId) (runId : AgentRunId)
    (expected : Version) (context : SuppliedContext) :
    Moves growing (resumeRun env workspaceId runId expected context) :=
  moves_growing (K := [.domain, .run, .audit])
    (moves_resumeRun env workspaceId runId expected context)

theorem growing_yieldForHandoff (env : Env) (workspaceId : WorkspaceId) (runId : AgentRunId)
    (expected : Version) : Moves growing (yieldForHandoff env workspaceId runId expected) :=
  moves_growing (K := [.domain, .run, .audit])
    (moves_yieldForHandoff env workspaceId runId expected)

theorem quiet_startRun (env : Env) (host : Host) (command : StartCommand) :
    Moves quiet (inRuntime (startRun env host command)) :=
  quiet_inRuntime (growing_startRun env host command)

theorem quiet_resumeRun (env : Env) (workspaceId : WorkspaceId) (runId : AgentRunId)
    (expected : Version) (context : SuppliedContext) :
    Moves quiet (inRuntime (resumeRun env workspaceId runId expected context)) :=
  quiet_inRuntime (growing_resumeRun env workspaceId runId expected context)

theorem quiet_yieldForHandoff (env : Env) (workspaceId : WorkspaceId) (runId : AgentRunId)
    (expected : Version) :
    Moves quiet (inRuntime (yieldForHandoff env workspaceId runId expected)) :=
  quiet_inRuntime (growing_yieldForHandoff env workspaceId runId expected)

end Calls

/-! ## Events -/

theorem quiet_appendEvent (event : Event) : Moves quiet (appendOrchestrationEvent event) :=
  (reads_checkOrchestrationEvent event).moves.bind fun _ =>
    .modifyStore fun w => ⟨rfl, .refl w.store.runtime⟩

theorem quiet_orchestrationEvent (env : Env) (run : OrchestrationRun) (kind : EventType)
    (extra : List (String × PyStr)) : Moves quiet (orchestrationEvent env run kind extra) :=
  (moves_fresh env _).bind fun _ => (moves_now env).bind fun _ =>
    (reads_checked _).moves.bind fun _ => (reads_checked _).moves.bind fun _ => quiet_appendEvent _

theorem quiet_planEvent (env : Env) (plan : PlanVersion) (kind : EventType) :
    Moves quiet (planEvent env plan kind) :=
  (moves_fresh env _).bind fun _ => (moves_now env).bind fun _ =>
    (reads_checked _).moves.bind fun _ => (reads_checked _).moves.bind fun _ => quiet_appendEvent _

theorem quiet_delegationEvent (env : Env) (delegation : Delegation) (kind : EventType)
    (metadata : List (String × PyStr)) :
    Moves quiet (delegationEvent env delegation kind metadata) :=
  (moves_fresh env _).bind fun _ => (moves_now env).bind fun _ =>
    (reads_checked _).moves.bind fun _ => (reads_checked _).moves.bind fun _ => quiet_appendEvent _

/-! ## Reading -/

section Reads

variable {α : Type} {w w' : World OrchestrationStore} {b : α}

theorem scopeOf_then {name : String} {expected actual : WorkspaceId}
    {f : Unit → OrchestrationTxn α} (h : (scopeOf name expected actual >>= f) w = .ok b w') :
    expected = actual ∧ f () w = .ok b w' := by
  obtain ⟨same, h⟩ := raiseIf_then h
  exact ⟨not_not.mp same, h⟩

theorem getOrchestrationRun_eq_ok {workspaceId : WorkspaceId} {runId : OrchestrationRunId}
    {run : OrchestrationRun} (h : getOrchestrationRun workspaceId runId w = .ok run w') :
    w.store.runs.get? runId = some run ∧ run.workspaceId = workspaceId := by
  have h := getStore_then h
  obtain ⟨found, stored, h⟩ := need_then h
  obtain ⟨same, h⟩ := scopeOf_then h
  obtain ⟨rfl, -⟩ := pure_eq_ok.mp h
  exact ⟨stored, same.symm⟩

theorem getOrchestrationRun_then {workspaceId : WorkspaceId} {runId : OrchestrationRunId}
    {f : OrchestrationRun → OrchestrationTxn α}
    (h : (getOrchestrationRun workspaceId runId >>= f) w = .ok b w') :
    ∃ run, w.store.runs.get? runId = some run ∧ run.workspaceId = workspaceId ∧
      f run w = .ok b w' := by
  obtain ⟨run, found, h⟩ := (reads_getOrchestrationRun workspaceId runId).then h
  obtain ⟨stored, scope⟩ := getOrchestrationRun_eq_ok found
  exact ⟨run, stored, scope, h⟩

theorem getPlan_eq_ok {workspaceId : WorkspaceId} {planId : OrchestrationPlanId}
    {version : Version} {plan : PlanVersion}
    (h : getPlan workspaceId planId version w = .ok plan w') :
    w.store.plans.get? (planId, version) = some plan ∧ plan.workspaceId = workspaceId := by
  have h := getStore_then h
  obtain ⟨found, stored, h⟩ := need_then h
  obtain ⟨same, h⟩ := scopeOf_then h
  obtain ⟨rfl, -⟩ := pure_eq_ok.mp h
  exact ⟨stored, same.symm⟩

theorem getPlan_then {workspaceId : WorkspaceId} {planId : OrchestrationPlanId}
    {version : Version} {f : PlanVersion → OrchestrationTxn α}
    (h : (getPlan workspaceId planId version >>= f) w = .ok b w') :
    ∃ plan, w.store.plans.get? (planId, version) = some plan ∧ plan.workspaceId = workspaceId ∧
      f plan w = .ok b w' := by
  obtain ⟨plan, found, h⟩ := (reads_getPlan workspaceId planId version).then h
  obtain ⟨stored, scope⟩ := getPlan_eq_ok found
  exact ⟨plan, stored, scope, h⟩

theorem getPlans_then {workspaceId : WorkspaceId} {runId : OrchestrationRunId}
    {f : List PlanVersion → OrchestrationTxn α}
    (h : (getPlans workspaceId runId >>= f) w = .ok b w') :
    f (w.store.plansOf runId) w = .ok b w' := by
  obtain ⟨plans, found, h⟩ := (reads_getPlans workspaceId runId).then h
  obtain ⟨_, -, -, found⟩ := getOrchestrationRun_then found
  have found := getStore_then found
  obtain ⟨rfl, -⟩ := pure_eq_ok.mp found
  exact h

theorem getMaterialization_eq_ok {workspaceId : WorkspaceId} {planId : OrchestrationPlanId}
    {version : Version} {m : PlanMaterialization}
    (h : getMaterialization workspaceId planId version w = .ok m w') :
    w.store.materializations.get? (planId, version) = some m := by
  obtain ⟨_, -, -, h⟩ := getPlan_then h
  have h := getStore_then h
  exact (need_eq_ok.mp h).1

theorem getDelegation_eq_ok {workspaceId : WorkspaceId} {delegationId : DelegationId}
    {delegation : Delegation} (h : getDelegation workspaceId delegationId w = .ok delegation w') :
    w.store.delegations.get? delegationId = some delegation ∧
      delegation.workspaceId = workspaceId := by
  have h := getStore_then h
  obtain ⟨found, stored, h⟩ := need_then h
  obtain ⟨same, h⟩ := scopeOf_then h
  obtain ⟨rfl, -⟩ := pure_eq_ok.mp h
  exact ⟨stored, same.symm⟩

theorem getDelegation_then {workspaceId : WorkspaceId} {delegationId : DelegationId}
    {f : Delegation → OrchestrationTxn α}
    (h : (getDelegation workspaceId delegationId >>= f) w = .ok b w') :
    ∃ delegation, w.store.delegations.get? delegationId = some delegation ∧
      delegation.workspaceId = workspaceId ∧ f delegation w = .ok b w' := by
  obtain ⟨delegation, found, h⟩ := (reads_getDelegation workspaceId delegationId).then h
  obtain ⟨stored, scope⟩ := getDelegation_eq_ok found
  exact ⟨delegation, stored, scope, h⟩

theorem getDelegations_then {workspaceId : WorkspaceId} {runId : OrchestrationRunId}
    {f : List Delegation → OrchestrationTxn α}
    (h : (getDelegations workspaceId runId >>= f) w = .ok b w') :
    f (w.store.delegationsOf runId) w = .ok b w' := by
  obtain ⟨delegations, found, h⟩ := (reads_getDelegations workspaceId runId).then h
  obtain ⟨_, -, -, found⟩ := getOrchestrationRun_then found
  have found := getStore_then found
  obtain ⟨rfl, -⟩ := pure_eq_ok.mp found
  exact h

theorem getAttempts_then {workspaceId : WorkspaceId} {delegationId : DelegationId}
    {f : List DelegationAttempt → OrchestrationTxn α}
    (h : (getAttempts workspaceId delegationId >>= f) w = .ok b w') :
    f (w.store.attemptsOf delegationId) w = .ok b w' := by
  obtain ⟨attempts, found, h⟩ := (reads_getAttempts workspaceId delegationId).then h
  obtain ⟨_, -, -, found⟩ := getDelegation_then found
  have found := getStore_then found
  obtain ⟨rfl, -⟩ := pure_eq_ok.mp found
  exact h

/-- A stored entity of the domain. -/
theorem entityOf_eq_ok {E : Type} {kind : IdKind} [Entity E kind] [Table E kind]
    {id : OpaqueId kind} {e : E} (h : inGoals (getEntity E id) w = .ok e w') :
    (Table.table (E := E) w.store.runtime.domain).get? id = some e := by
  change inRuntime (inDomain (getEntity E id)) w = .ok e w' at h
  obtain ⟨v, inner, -⟩ := zoom_eq_ok.mp h
  obtain ⟨u, innermost, -⟩ := zoom_eq_ok.mp inner
  exact (getEntity_eq_ok.mp innermost).1

theorem entityOf_then {E : Type} {kind : IdKind} [Entity E kind] [Table E kind]
    {id : OpaqueId kind} {f : E → OrchestrationTxn α}
    (h : (inGoals (getEntity E id) >>= f) w = .ok b w') :
    ∃ e, (Table.table (E := E) w.store.runtime.domain).get? id = some e ∧ f e w = .ok b w' := by
  obtain ⟨e, found, h⟩ := (reads_inGoals (reads_getEntity E id)).then h
  exact ⟨e, entityOf_eq_ok found, h⟩

/-- A stored run of an agent. -/
theorem childOf_eq_ok {workspaceId : WorkspaceId} {runId : AgentRunId} {run : AgentRun}
    (h : inRuntime (getRun workspaceId runId) w = .ok run w') :
    w.store.runtime.runs.get? runId = some run ∧ run.workspaceId = workspaceId := by
  obtain ⟨v, inner, -⟩ := zoom_eq_ok.mp h
  have inner : ((getRun workspaceId runId >>= fun run => pure run) : RuntimeTxn AgentRun)
      ⟨w.store.runtime, w.issued, w.reads⟩ = .ok run v := by
    rw [bind_of_ok inner]
    rfl
  obtain ⟨found, stored, scope, inner⟩ := getRun_then inner
  obtain ⟨rfl, -⟩ := pure_eq_ok.mp inner
  exact ⟨stored, scope⟩

theorem childOf_then {workspaceId : WorkspaceId} {runId : AgentRunId}
    {f : AgentRun → OrchestrationTxn α}
    (h : (inRuntime (getRun workspaceId runId) >>= f) w = .ok b w') :
    ∃ run, w.store.runtime.runs.get? runId = some run ∧ run.workspaceId = workspaceId ∧
      f run w = .ok b w' := by
  obtain ⟨run, found, h⟩ := (reads_inRuntime (reads_getRun workspaceId runId)).then h
  obtain ⟨stored, scope⟩ := childOf_eq_ok found
  exact ⟨run, stored, scope, h⟩

end Reads

/-! ## Reading what is stored -/

section Forward

variable {w : World OrchestrationStore}

theorem scopeOf_of {name : String} {expected actual : WorkspaceId} (same : expected = actual) :
    scopeOf name expected actual w = .ok () w := raiseIf_of_not (not_not.mpr same) w

theorem getOrchestrationRun_of {runId : OrchestrationRunId} {run : OrchestrationRun}
    (stored : w.store.runs.get? runId = some run) :
    getOrchestrationRun run.workspaceId runId w = .ok run w := by
  unfold getOrchestrationRun
  rw [bind_of_ok (show (getStore : OrchestrationTxn _) w = .ok w.store w from rfl),
    bind_of_ok (need_of_some stored w), bind_of_ok (scopeOf_of rfl)]
  rfl

theorem getPlan_of {planId : OrchestrationPlanId} {version : Version} {plan : PlanVersion}
    (stored : w.store.plans.get? (planId, version) = some plan) :
    getPlan plan.workspaceId planId version w = .ok plan w := by
  unfold getPlan
  rw [bind_of_ok (show (getStore : OrchestrationTxn _) w = .ok w.store w from rfl),
    bind_of_ok (need_of_some stored w), bind_of_ok (scopeOf_of rfl)]
  rfl

theorem getMaterialization_of {planId : OrchestrationPlanId} {version : Version}
    {plan : PlanVersion} {m : PlanMaterialization}
    (stored : w.store.plans.get? (planId, version) = some plan)
    (filed : w.store.materializations.get? (planId, version) = some m) :
    getMaterialization plan.workspaceId planId version w = .ok m w := by
  unfold getMaterialization
  rw [bind_of_ok (getPlan_of stored),
    bind_of_ok (show (getStore : OrchestrationTxn _) w = .ok w.store w from rfl)]
  exact need_of_some filed w

theorem getDelegation_of {delegationId : DelegationId} {d : Delegation}
    (stored : w.store.delegations.get? delegationId = some d) :
    getDelegation d.workspaceId delegationId w = .ok d w := by
  unfold getDelegation
  rw [bind_of_ok (show (getStore : OrchestrationTxn _) w = .ok w.store w from rfl),
    bind_of_ok (need_of_some stored w), bind_of_ok (scopeOf_of rfl)]
  rfl

theorem getDelegations_of {runId : OrchestrationRunId} {run : OrchestrationRun}
    (stored : w.store.runs.get? runId = some run) :
    getDelegations run.workspaceId runId w = .ok (w.store.delegationsOf runId) w := by
  unfold getDelegations
  rw [bind_of_ok (getOrchestrationRun_of stored),
    bind_of_ok (show (getStore : OrchestrationTxn _) w = .ok w.store w from rfl)]
  rfl

theorem getAttempts_of {delegationId : DelegationId} {d : Delegation}
    (stored : w.store.delegations.get? delegationId = some d) :
    getAttempts d.workspaceId delegationId w = .ok (w.store.attemptsOf delegationId) w := by
  unfold getAttempts
  rw [bind_of_ok (getDelegation_of stored),
    bind_of_ok (show (getStore : OrchestrationTxn _) w = .ok w.store w from rfl)]
  rfl

theorem entityOf_of {E : Type} {kind : IdKind} [Entity E kind] [Table E kind]
    {id : OpaqueId kind} {e : E}
    (stored : (Table.table (E := E) w.store.runtime.domain).get? id = some e) :
    inGoals (getEntity E id) w = .ok e w := by
  have inner : inDomain (getEntity E id) ⟨w.store.runtime, w.issued, w.reads⟩ =
      .ok e ⟨w.store.runtime, w.issued, w.reads⟩ :=
    zoom_eq_ok.mpr ⟨⟨w.store.runtime.domain, w.issued, w.reads⟩,
      getEntity_eq_ok.mpr ⟨stored, rfl⟩, rfl⟩
  show inRuntime (inDomain (getEntity E id)) w = .ok e w
  exact zoom_eq_ok.mpr ⟨⟨w.store.runtime, w.issued, w.reads⟩, inner, rfl⟩

theorem childOf_of {runId : AgentRunId} {run : AgentRun}
    (stored : w.store.runtime.runs.get? runId = some run) :
    inRuntime (getRun run.workspaceId runId) w = .ok run w := by
  have read : getRun run.workspaceId runId ⟨w.store.runtime, w.issued, w.reads⟩ =
      .ok run ⟨w.store.runtime, w.issued, w.reads⟩ := by
    unfold getRun
    rw [bind_of_ok (show (getStore : RuntimeTxn _) _ = .ok w.store.runtime _ from rfl),
      bind_of_ok (need_of_some stored _)]
    have passed : scope run.workspaceId run.workspaceId ⟨w.store.runtime, w.issued, w.reads⟩ =
        .ok () ⟨w.store.runtime, w.issued, w.reads⟩ := raiseIf_of_not (not_not.mpr rfl) _
    rw [bind_of_ok passed]
    rfl
  exact zoom_eq_ok.mpr ⟨⟨w.store.runtime, w.issued, w.reads⟩, read, rfl⟩

end Forward

/-! ## Writing -/

section Writes

variable {w w' : World OrchestrationStore} {u : Unit}

theorem addOrchestrationRun_eq_ok {run : OrchestrationRun}
    (h : addOrchestrationRun run w = .ok u w') :
    w.store.runs.get? run.id = none ∧
      (∃ goal, w.store.runtime.domain.goals.get? run.goalId = some goal) ∧
      w' = { w with store := { w.store with runs := w.store.runs.put run } } := by
  obtain ⟨passed, same⟩ := checked_update_ok (reads_checkAddOrchestrationRun run) h
  obtain ⟨goal, found, passed⟩ := entityOf_then (E := Goal) passed
  obtain ⟨-, passed⟩ := scopeOf_then passed
  have passed := getStore_then passed
  obtain ⟨fresh, -⟩ := raiseIf_eq_ok.mp passed
  simp only [not_or, Bool.not_eq_true] at fresh
  exact ⟨Registry.contains_eq_false_iff.mp fresh.1, ⟨goal, found⟩, same⟩

/-- A changed run is filed over the stored one of its version. -/
theorem saveChange_eq_ok {env : Env} {run next : OrchestrationRun} {change : OrchestrationChange}
    (h : saveChange env run change w = .ok next w') :
    ∃ at' previous, OrchestrationRun.Evolved run next at' change ∧
      w.store.runs.get? next.id = some previous ∧ previous.version = run.version ∧
      w'.store = { w.store with runs := w.store.runs.put next } := by
  obtain ⟨at', w₁, -, same, h⟩ := Idle.then (moves_now env) h
  obtain ⟨updated, evolving, h⟩ := (reads_checked _).then h
  obtain ⟨evolving, -⟩ := checked_eq_ok.mp evolving
  obtain ⟨_, w₂, saved, h⟩ := bind_eq_ok.mp h
  obtain ⟨rfl, rfl⟩ := pure_eq_ok.mp h
  obtain ⟨passed, rfl⟩ := checked_update_ok (reads_checkSaveOrchestrationRun _ _) saved
  obtain ⟨previous, stored, -, passed⟩ := getOrchestrationRun_then passed
  obtain ⟨version, -⟩ := raiseIf_then passed
  rw [same] at stored
  refine ⟨at', previous, OrchestrationRun.evolve_eq_ok evolving, stored, not_not.mp version, ?_⟩
  rw [same]

/-- The next version of a plan is filed under the plan's identity. -/
structure PlanFiled (s : OrchestrationStore) (plan : PlanVersion) (run : OrchestrationRun) :
    Prop where
  stored : s.runs.get? plan.orchestrationRunId = some run
  goal : run.goalId = plan.goalId
  absent : s.plans.get? plan.key = none
  next : plan.version.value =
    (s.plans.values.filter fun item => item.id = plan.id).length + 1
  lineage : ∀ item ∈ s.plans.values, item.id = plan.id →
    item.workspaceId = plan.workspaceId ∧ item.orchestrationRunId = plan.orchestrationRunId

theorem addPlan_eq_ok {plan : PlanVersion} (h : addPlan plan w = .ok u w') :
    (∃ run, PlanFiled w.store plan run) ∧
      w' = { w with store := { w.store with plans := w.store.plans.put plan } } := by
  obtain ⟨passed, same⟩ := checked_update_ok (reads_checkAddPlan plan) h
  obtain ⟨run, stored, -, passed⟩ := getOrchestrationRun_then passed
  have passed := getStore_then passed
  obtain ⟨bound, -⟩ := raiseIf_eq_ok.mp passed
  simp only [not_or, Bool.not_eq_true, not_not, ne_eq, not_exists, not_and, List.mem_filter,
    decide_eq_true_eq] at bound
  obtain ⟨absent, goal, next, lineage⟩ := bound
  refine ⟨⟨run, stored, goal, Registry.contains_eq_false_iff.mp absent, next, ?_⟩, same⟩
  intro item mem named
  have checked := lineage item ⟨mem, named⟩
  exact ⟨checked.1, checked.2.2⟩

theorem checkMaterializedTasks_eq_ok {workspaceId : WorkspaceId} {goalId : GoalId}
    {tasks : List MaterializedTask}
    (h : checkMaterializedTasks workspaceId goalId tasks w = .ok u w') {item : MaterializedTask}
    (mem : item ∈ tasks) :
    ∃ task, w.store.runtime.domain.tasks.get? item.taskId = some task ∧
      task.workspaceId = workspaceId ∧ task.goalId = goalId := by
  induction tasks with
  | nil => cases mem
  | cons first rest ih =>
      obtain ⟨task, found, h⟩ := entityOf_then (E := Task) h
      obtain ⟨bound, h⟩ := raiseIf_then h
      simp only [not_or, ne_eq, not_not] at bound
      rcases List.mem_cons.mp mem with rfl | later
      · exact ⟨task, found, bound⟩
      · exact ih h later

/-- A plan is materialized once, to stored tasks of its goal. -/
structure MaterializationFiled (s : OrchestrationStore) (m : PlanMaterialization)
    (plan : PlanVersion) : Prop where
  stored : s.plans.get? m.key = some plan
  run : plan.orchestrationRunId = m.orchestrationRunId
  absent : s.materializations.get? m.key = none
  tasks : ∀ item ∈ m.tasks, ∃ task, s.runtime.domain.tasks.get? item.taskId = some task ∧
    task.workspaceId = m.workspaceId ∧ task.goalId = plan.goalId

theorem addMaterialization_eq_ok {m : PlanMaterialization}
    (h : addMaterialization m w = .ok u w') :
    (∃ plan, MaterializationFiled w.store m plan) ∧
      w' = { w with store := { w.store with
        materializations := w.store.materializations.put m } } := by
  obtain ⟨passed, same⟩ := checked_update_ok (reads_checkAddMaterialization m) h
  obtain ⟨plan, stored, -, passed⟩ := getPlan_then passed
  have passed := getStore_then passed
  obtain ⟨bound, passed⟩ := raiseIf_then passed
  simp only [not_or, Bool.not_eq_true, ne_eq, not_not] at bound
  exact ⟨⟨plan, stored, bound.2, Registry.contains_eq_false_iff.mp bound.1,
    fun item mem => checkMaterializedTasks_eq_ok passed mem⟩, same⟩

/-- A delegation assigns a task of a materialized plan of its run. -/
structure DelegationFiled (s : OrchestrationStore) (d : Delegation) : Prop where
  absent : s.delegations.get? d.id = none
  run : ∃ run, s.runs.get? d.orchestrationRunId = some run ∧ run.workspaceId = d.workspaceId
  plan : ∃ plan, s.plans.get? (d.planId, d.planVersion) = some plan ∧
    plan.orchestrationRunId = d.orchestrationRunId
  task : ∃ m, s.materializations.get? (d.planId, d.planVersion) = some m ∧
    ∃ item ∈ m.tasks, item.plannedTaskId = d.plannedTaskId ∧ item.taskId = d.taskId

theorem addDelegation_eq_ok {d : Delegation} (h : addDelegation d w = .ok u w') :
    DelegationFiled w.store d ∧
      w' = { w with store := { w.store with delegations := w.store.delegations.put d } } := by
  obtain ⟨passed, same⟩ := checked_update_ok (reads_checkAddDelegation d) h
  obtain ⟨run, storedRun, scope, passed⟩ := getOrchestrationRun_then passed
  obtain ⟨plan, storedPlan, -, passed⟩ := getPlan_then passed
  obtain ⟨m, storedM, passed⟩ := (reads_getMaterialization _ _ _).then passed
  obtain ⟨definition, -, passed⟩ := (reads_inRuntime (reads_getDefinition _ _ _)).then passed
  have passed := getStore_then passed
  obtain ⟨bound, -⟩ := raiseIf_eq_ok.mp passed
  simp only [not_or, Bool.not_eq_true, Bool.not_eq_false, ne_eq, not_not] at bound
  obtain ⟨absent, sameRun, named, -⟩ := bound
  obtain ⟨item, mem, both⟩ := List.any_eq_true.mp named
  have key : OrchestrationRun.key run = d.orchestrationRunId := Registry.key_of_get? storedRun
  refine ⟨⟨Registry.contains_eq_false_iff.mp absent, ⟨run, storedRun, scope⟩,
    ⟨plan, storedPlan, sameRun.symm.trans key⟩,
    ⟨m, getMaterialization_eq_ok storedM, item, mem, ?_⟩⟩, same⟩
  exact of_decide_eq_true both

/-- An attempt links a run of the delegated task that no attempt links yet. -/
structure AttemptFiled (s : OrchestrationStore) (a : DelegationAttempt) (d : Delegation)
    (run : AgentRun) : Prop where
  delegation : s.delegations.get? a.delegationId = some d
  stored : s.runtime.runs.get? a.agentRunId = some run
  workspace : run.workspaceId = d.workspaceId
  fresh : ∀ other ∈ s.attempts, other.agentRunId ≠ a.agentRunId
  task : run.taskId = d.taskId
  attempt : run.taskAttemptId = a.taskAttemptId
  execution : run.executionId = a.executionId
  definition : run.definitionVersion.definition.id = d.agentDefinitionId ∧
    run.definitionVersion.version = d.agentDefinitionVersion

theorem addAttempt_eq_ok {workspaceId : WorkspaceId} {a : DelegationAttempt}
    (h : addAttempt workspaceId a w = .ok u w') :
    (∃ d run, AttemptFiled w.store a d run) ∧
      w' = { w with store := { w.store with attempts := w.store.attempts ++ [a] } } := by
  obtain ⟨passed, same⟩ := checked_update_ok (reads_checkAddAttempt workspaceId a) h
  obtain ⟨d, storedD, scopeD, passed⟩ := getDelegation_then passed
  obtain ⟨run, storedRun, scope, passed⟩ := childOf_then passed
  have passed := getStore_then passed
  obtain ⟨bound, -⟩ := raiseIf_eq_ok.mp passed
  simp only [not_or, Bool.not_eq_true, ne_eq, not_not] at bound
  obtain ⟨fresh, task, attempt, execution, definition⟩ := bound
  refine ⟨⟨d, run, storedD, storedRun, scope.trans scopeD.symm, ?_, task, attempt, execution,
    definition⟩, same⟩
  intro other mem named
  exact List.any_eq_false.mp fresh other mem (decide_eq_true named)

end Writes

end AgentCompanyOS.Orchestration
