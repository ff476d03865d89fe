import AgentCompanyOS.Orchestration.Lineage

/-!
# Completed orchestrations

A run is completed by one change only, and that change has found the goal satisfied, the
tasks of the current plan completed and a result for every required task. None of these is
ever taken back, so they hold of a completed run in every later state.
-/

set_option autoImplicit false

namespace AgentCompanyOS.Orchestration

open Foundation Foundation.Txn Domain AgentCompanyOS.Runtime

variable {s s' : OrchestrationStore} {kind : ChangeKind}

/-! ## Completed runs -/

/-- The work of every completed run is done. -/
def Finished (s : OrchestrationStore) : Prop :=
  ∀ run ∈ s.runs.values, run.status = .completed → Done s run

/-- A run that is completed after a change was completed before it, or its work was done. -/
theorem Change.completed_from (h : Change s kind s') {next : OrchestrationRun}
    (mem : next ∈ s'.runs.values) (status : next.status = .completed) :
    ∃ run, (run ∈ s.runs.values ∧ run.status = .completed ∨ Done s run) ∧ run.Later next ∧
      next.currentPlanVersion = run.currentPlanVersion := by
  have kept (old : next ∈ s.runs.values) :
      ∃ run, (run ∈ s.runs.values ∧ run.status = .completed ∨ Done s run) ∧ run.Later next ∧
        next.currentPlanVersion = run.currentPlanVersion :=
    ⟨next, .inl ⟨old, status⟩, .refl next, rfl⟩
  cases h with
  | quiet between =>
      rw [between.runs] at mem
      exact kept mem
  | opened run absent planning =>
      rcases Registry.mem_values_put.mp mem with rfl | ⟨old, -⟩
      · rw [planning] at status
        cases status
      · exact kept old
  | moved run later at' change stored evolved plain cause =>
      rcases Registry.mem_values_put.mp mem with rfl | ⟨old, -⟩
      · cases cause with
        | kept same =>
            refine ⟨run, .inl ⟨Registry.mem_values_of_get? stored, same.symm.trans status⟩,
              .of_evolved evolved plain.planId plain.planVersion, ?_⟩
            exact (evolved.plain plain).2.1
        | failed other | cancelled other | waits other =>
            rw [other] at status
            cases status
      · exact kept old
  | left run later at' change stored evolved plain open' other =>
      rcases Registry.mem_values_put.mp mem with rfl | ⟨old, -⟩
      · rcases other with other | other
        · rw [other] at status
          cases status
        · rw [other] at status
          cases status
      · exact kept old
  | completed run later at' stored evolved finished =>
      rcases Registry.mem_values_put.mp mem with rfl | ⟨old, -⟩
      · exact ⟨run, .inr finished, .of_evolved evolved rfl rfl,
          (evolved.plain ⟨rfl, rfl, rfl, rfl⟩).2.1⟩
      · exact kept old
  | accepted run later plan replan accepting =>
      obtain ⟨at', evolved⟩ := accepting.evolved
      rcases Registry.mem_values_put.mp mem with rfl | ⟨old, -⟩
      · rw [evolved.status_eq] at status
        cases status
      · exact kept old
  | materialized run plan m stored current own tasks between filed =>
      have old : next ∈ s.runs.values := by
        rw [← between.runs]
        exact mem
      exact kept old
  | delegated run mode d delegating => exact kept mem
  | started run later d a child starting =>
      obtain ⟨at', evolved⟩ := starting.evolved
      rcases Registry.mem_values_put.mp mem with rfl | ⟨old, -⟩
      · have same : next.status = run.status := evolved.status_eq
        rw [same, starting.running] at status
        cases status
      · exact kept old

/-- Every single change keeps the work of completed runs done. -/
theorem Change.finished (h : Change s kind s') (held : Finished s) : Finished s' := by
  intro next mem status
  obtain ⟨run, before, later, version⟩ := h.completed_from mem status
  have done : Done s run := by
    rcases before with ⟨old, completed⟩ | done
    · exact held run old completed
    · exact done
  exact done.kept h.kept later version

theorem after_finished (platform : Platform) (labels : List Label) :
    Finished (Company.after platform labels).store :=
  after_keeps platform (fun change _ held => change.finished held)
    (fun _ mem => (List.not_mem_nil mem).elim) labels

/-! ## The planned task of a canonical task -/

/-- No plan has two tasks of one id. -/
def PlansUnique (s : OrchestrationStore) : Prop := ∀ plan ∈ s.plans.values, plan.taskIds.Nodup

theorem Change.plansUnique (h : Change s kind s') (held : PlansUnique s) : PlansUnique s' := by
  cases h with
  | quiet between =>
      unfold PlansUnique
      rw [between.plans]
      exact held
  | accepted run next plan replan accepting =>
      intro other mem
      rcases Registry.mem_values_put.mp mem with rfl | ⟨old, -⟩
      · exact accepting.unique
      · exact held other old
  | materialized run plan m stored current own tasks between filed =>
      show ∀ plan ∈ _, _
      rw [between.plans]
      exact held
  | _ => exact held

theorem after_plansUnique (platform : Platform) (labels : List Label) :
    PlansUnique (Company.after platform labels).store :=
  after_keeps platform (fun change _ held => change.plansUnique held)
    (fun _ mem => (List.not_mem_nil mem).elim) labels

/-- The canonical task that a materialization names for a planned task. -/
theorem taskOf_eq_some {m : PlanMaterialization} {plannedId : PyStr} {taskId : TaskId}
    (h : m.taskOf plannedId = some taskId) :
    ∃ item ∈ m.tasks, item.plannedTaskId = plannedId ∧ item.taskId = taskId := by
  unfold PlanMaterialization.taskOf at h
  obtain ⟨item, found, rfl⟩ := Option.map_eq_some_iff.mp h
  exact ⟨item, List.mem_of_find?_eq_some found, of_decide_eq_true (List.find?_some found :), rfl⟩

/-- A canonical task stands for one planned task of the plan. -/
theorem planned_unique (materials : Materials s) (unique : PlansUnique s) {run : OrchestrationRun}
    {plan : PlanVersion} {m : PlanMaterialization} (current : Current s run plan m)
    {planned planned' : PlannedTask} (mem : planned ∈ plan.proposal.tasks)
    (mem' : planned' ∈ plan.proposal.tasks) {taskId : TaskId}
    (named : m.taskOf planned.id = some taskId) (named' : m.taskOf planned'.id = some taskId) :
    planned = planned' := by
  obtain ⟨item, here, id, task⟩ := taskOf_eq_some named
  obtain ⟨item', here', id', task'⟩ := taskOf_eq_some named'
  have filed := Registry.mem_values_of_get? current.materialized
  have same := materials.injective m filed m filed item here item' here' (task.trans task'.symm)
  have nodup : (plan.proposal.tasks.map fun task => task.id).Nodup :=
    unique plan (Registry.mem_values_of_get? current.stored)
  exact List.inj_on_of_nodup_map nodup mem mem' (id.symm.trans (same.2.trans id'))

/-! ## Soundness -/

/-- The task of a delegation stands for a task of the current plan, whose dependencies are
all completed. -/
structure Startable (s : OrchestrationStore) (runId : OrchestrationRunId)
    (delegationId : DelegationId) (run : OrchestrationRun) (d : Delegation) (plan : PlanVersion)
    (m : PlanMaterialization) : Prop where
  stored : s.runs.get? runId = some run
  delegation : s.delegations.get? delegationId = some d ∧ d.orchestrationRunId = runId
  current : Current s run plan m
  planned : ∃ planned ∈ plan.proposal.tasks, m.taskOf planned.id = some d.taskId
  dependencies : ∀ planned ∈ plan.proposal.tasks, m.taskOf planned.id = some d.taskId →
    DependenciesDone s m planned

theorem startable_of_reply (platform : Platform) {c : Company} (materials : Materials c.store)
    (unique : PlansUnique c.store) {host : OrchestrationHost} {workspaceId : WorkspaceId}
    {runId : OrchestrationRunId} {delegationId : DelegationId} {expected : Version}
    {context : SuppliedContext} {executionId : Option ExecutionId} {child : AgentRun}
    (h : c.reply (startDelegation platform.toEnv host workspaceId runId delegationId expected
      context executionId) = .ok child) :
    ∃ run d plan m, Startable c.store runId delegationId run d plan m := by
  obtain ⟨w', ran, -⟩ := reply_eq_ok h
  obtain ⟨run, rfl, started⟩ := startDelegation_eq_ok ran
  obtain ⟨d, filed, own, task, named, ready⟩ := started.ready
  obtain ⟨plan, m, current, planned, mem, taskOf, done⟩ := ready.planned
  have here : m.taskOf planned.id = some d.taskId := named ▸ taskOf.1
  refine ⟨run, d, plan, m, started.stored, ⟨filed, own⟩, current, ⟨planned, mem, here⟩, ?_⟩
  intro other listed also
  rw [planned_unique materials unique current listed mem also here]
  exact done

/-- With any commands of the host between them: a completed run has its goal satisfied, the
tasks of its current materialization completed and a successful agent run with a result for
every required task, then and in every later state; and a delegation is started only when
the dependencies of its task in the current plan are completed. -/
theorem completion_sound (platform : Platform) (labels : List Label) :
    (∀ run ∈ (Company.after platform labels).store.runs.values, run.status = .completed →
      Done (Company.after platform labels).store run ∧
      ∀ more, ∃ later, (Company.after platform (labels ++ more)).store.runs.get? run.id =
          some later ∧ later.status = .completed ∧ later.planId = run.planId ∧
        later.currentPlanVersion = run.currentPlanVersion ∧
        Done (Company.after platform (labels ++ more)).store later) ∧
    ∀ host workspaceId runId delegationId expected context executionId child,
      (Company.after platform labels).reply (startDelegation platform.toEnv host workspaceId runId
        delegationId expected context executionId) = .ok child →
      ∃ run d plan m,
        Startable (Company.after platform labels).store runId delegationId run d plan m := by
  constructor
  · intro run mem completed
    refine ⟨after_finished platform labels run mem completed, ?_⟩
    intro more
    have kept : Kept (Company.after platform labels).store
        (Company.after platform (labels ++ more)).store := by
      rw [after_append]
      exact foldl_kept platform (after_sound platform labels) more
    obtain ⟨later, found, follows⟩ := kept.runs.later (Registry.get?_of_mem_values mem)
    obtain ⟨status, planId, version⟩ := follows.final (by rw [completed]; rfl)
    have final : later.status = .completed := status.trans completed
    exact ⟨later, found, final, planId, version,
      after_finished platform (labels ++ more) later (Registry.mem_values_of_get? found) final⟩
  · intro host workspaceId runId delegationId expected context executionId child replied
    exact startable_of_reply platform (after_materials platform labels)
      (after_plansUnique platform labels) replied

end AgentCompanyOS.Orchestration
