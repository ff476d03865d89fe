import AgentCompanyOS.Orchestration.Runs

/-!
# Replans and materializations

The tasks that plans are materialized to form one relation between planned tasks and
canonical tasks. It is one-to-one within a run, no two runs share a canonical task, and since
a plan keeps the tasks of the plans before it, no canonical task is left behind.
-/

set_option autoImplicit false

namespace AgentCompanyOS.Orchestration

open Foundation Foundation.Txn Domain AgentCompanyOS.Runtime

/-! ## Canonical tasks -/

/-- What the materializations say of planned and canonical tasks. -/
structure Materials (s : OrchestrationStore) : Prop where
  /-- A materialization covers the tasks of its plan. -/
  covers : ∀ m ∈ s.materializations.values, ∃ plan, s.plans.get? m.key = some plan ∧
    plan.orchestrationRunId = m.orchestrationRunId ∧
    m.tasks.map MaterializedTask.plannedTaskId = plan.taskIds
  stored : ∀ m ∈ s.materializations.values, ∀ item ∈ m.tasks,
    ∃ task, s.runtime.domain.tasks.get? item.taskId = some task
  /-- A planned task of a run has one canonical task. -/
  function : ∀ m ∈ s.materializations.values, ∀ m' ∈ s.materializations.values,
    m.orchestrationRunId = m'.orchestrationRunId → ∀ item ∈ m.tasks, ∀ item' ∈ m'.tasks,
    item.plannedTaskId = item'.plannedTaskId → item.taskId = item'.taskId
  /-- A canonical task stands for one planned task of one run. -/
  injective : ∀ m ∈ s.materializations.values, ∀ m' ∈ s.materializations.values,
    ∀ item ∈ m.tasks, ∀ item' ∈ m'.tasks, item.taskId = item'.taskId →
    m.orchestrationRunId = m'.orchestrationRunId ∧ item.plannedTaskId = item'.plannedTaskId

/-- The pairs of a lineage are those of the materialized plans. -/
theorem mem_lineageOf {s : OrchestrationStore} {plans : List PlanVersion}
    {lineage : List (PyStr × TaskId)} {pair : PyStr × TaskId} :
    pair ∈ lineageOf s plans lineage ↔ pair ∈ lineage ∨ ∃ plan ∈ plans, ∃ m,
      s.materializations.get? plan.key = some m ∧ ∃ item ∈ m.tasks,
        (item.plannedTaskId, item.taskId) = pair := by
  induction plans generalizing lineage with
  | nil => simp [lineageOf]
  | cons plan rest ih =>
      show pair ∈ lineageOf s rest _ ↔ _
      rw [ih, List.mem_append, List.mem_map]
      constructor
      · rintro ((⟨item, mem, same⟩ | old) | ⟨other, mem, facts⟩)
        · cases filed : s.materializations.get? plan.key with
          | none =>
              rw [filed] at mem
              cases mem
          | some m =>
              rw [filed] at mem
              exact .inr ⟨plan, List.mem_cons_self, m, filed, item, mem, same⟩
        · exact .inl old
        · exact .inr ⟨other, List.mem_cons_of_mem _ mem, facts⟩
      · rintro (old | ⟨other, mem, m, filed, item, here, same⟩)
        · exact .inl (.inr old)
        · rcases List.mem_cons.mp mem with rfl | later
          · refine .inl (.inl ⟨item, ?_, same⟩)
            rw [filed]
            exact here
          · exact .inr ⟨other, later, m, filed, item, here, same⟩

theorem mem_of_lookup {lineage : List (PyStr × TaskId)} {id : PyStr} {taskId : TaskId}
    (h : lineage.lookup id = some taskId) : (id, taskId) ∈ lineage := by
  obtain ⟨before, after, rfl, -⟩ := List.lookup_eq_some_iff.mp h
  exact List.mem_append_right _ List.mem_cons_self

namespace Materials

variable {s : OrchestrationStore}

theorem empty (runtime : RuntimeStore) : Materials ⟨.empty, runtime⟩ :=
  ⟨fun _ mem => (List.not_mem_nil mem).elim, fun _ mem => (List.not_mem_nil mem).elim,
    fun _ mem => (List.not_mem_nil mem).elim, fun _ mem => (List.not_mem_nil mem).elim⟩

/-- A store that has grown, with the same materializations. -/
theorem grow (h : Materials s) {s' : OrchestrationStore} (kept : Kept s s')
    (same : s'.materializations = s.materializations) : Materials s' := by
  refine ⟨?_, ?_, ?_, ?_⟩
  · intro m mem
    rw [same] at mem
    obtain ⟨plan, stored, facts⟩ := h.covers m mem
    exact ⟨plan, kept.plan stored, facts⟩
  · intro m mem item here
    rw [same] at mem
    obtain ⟨task, stored⟩ := h.stored m mem item here
    obtain ⟨next, later, -⟩ := kept.grown.task stored
    exact ⟨next, later⟩
  · rw [same]
    exact h.function
  · rw [same]
    exact h.injective

/-- The last plan of a run is its current one. -/
theorem last_version (ledger : Ledger s) {run : OrchestrationRun} {plan : PlanVersion}
    (mem : run ∈ s.runs.values) (named : run.planId = some plan.id)
    (current : run.currentPlanVersion = some plan.version) {last : PlanVersion}
    (final : (s.plansIn run.id).getLast? = some last) : last.key = plan.key := by
  obtain ⟨versions, count⟩ := ledger.planned run mem plan.id named
  have top : last.version.value = run.replanCount + 1 := by
    have mapped := congrArg List.getLast? versions
    rw [List.getLast?_map, final, List.range'_1_concat, List.getLast?_concat] at mapped
    have eq : last.version.value = 1 + run.replanCount := Option.some.inj mapped
    omega
  have same : plan.version.value = run.replanCount + 1 := by
    rw [current] at count
    exact Option.some.inj count
  have id : last.id = plan.id := by
    have theirs := ledger.id_of_mem mem (List.mem_of_getLast? final)
    exact Option.some.inj (theirs.symm.trans named)
  have version : last.version = plan.version := by
    exact Version.ext (top.trans same.symm)
  exact Prod.ext id version

/-- The lineage of the current plan is what the materializations of the run say. -/
theorem mem_current_lineage (h : Materials s) (ledger : Ledger s) {run : OrchestrationRun}
    {plan : PlanVersion} (mem : run ∈ s.runs.values) (named : run.planId = some plan.id)
    (current : run.currentPlanVersion = some plan.version)
    (absent : s.materializations.get? plan.key = none) {pair : PyStr × TaskId} :
    pair ∈ lineageOf s (s.plansOf run.id).dropLast [] ↔ ∃ m ∈ s.materializations.values,
      m.orchestrationRunId = run.id ∧ ∃ item ∈ m.tasks,
        (item.plannedTaskId, item.taskId) = pair := by
  rw [mem_lineageOf, ledger.plansOf_eq mem]
  constructor
  · rintro (old | ⟨other, listed, m, filed, facts⟩)
    · cases old
    · have here := Registry.mem_values_of_get? filed
      obtain ⟨found, stored, own, -⟩ := h.covers m here
      have key : PlanMaterialization.key m = other.key := Registry.key_of_get? filed
      obtain ⟨inPlans, ownOther⟩ := mem_plansIn.mp (List.dropLast_subset _ listed)
      rw [key, Registry.get?_of_mem_values inPlans] at stored
      obtain rfl := Option.some.inj stored
      exact ⟨m, here, own.symm.trans ownOther, facts⟩
  · rintro ⟨m, here, own, facts⟩
    obtain ⟨found, stored, ownFound, -⟩ := h.covers m here
    have key : PlanVersion.key found = m.key := Registry.key_of_get? stored
    have listed : found ∈ s.plansIn run.id :=
      mem_plansIn.mpr ⟨Registry.mem_values_of_get? stored, ownFound.trans own⟩
    have filed : s.materializations.get? found.key = some m := by
      rw [key]
      exact Registry.get?_of_mem_values here
    refine .inr ⟨found, ?_, m, filed, facts⟩
    refine List.mem_dropLast_of_mem_of_ne_getLast? listed fun final => ?_
    rw [last_version ledger mem named current final.symm, absent] at filed
    cases filed

/-- The materialization of the current plan of a run. -/
theorem materialize (h : Materials s) (ledger : Ledger s) {mid : OrchestrationStore}
    {run : OrchestrationRun} {plan : PlanVersion} {m : PlanMaterialization}
    (stored : s.runs.get? run.id = some run)
    (current : run.planId = some plan.id ∧ run.currentPlanVersion = some plan.version)
    (own : m.orchestrationRunId = run.id)
    (tasks : Materializing plan (lineageOf s (s.plansOf run.id).dropLast []) s.runtime.domain
      m.tasks)
    (between : Quiet s mid) (filed : MaterializationFiled mid m plan) :
    Materials { mid with materializations := mid.materializations.put m } := by
  have mem := Registry.mem_values_of_get? stored
  have key : PlanVersion.key plan = m.key := Registry.key_of_get? filed.stored
  have absent : s.materializations.get? m.key = none := by
    rw [← between.materializations]
    exact filed.absent
  have lineage (pair : PyStr × TaskId) : pair ∈ lineageOf s (s.plansOf run.id).dropLast [] ↔ _ :=
    h.mem_current_lineage ledger mem current.1 current.2 (by rw [key]; exact absent)
  -- An item of the new materialization is an old one of the run, or its task is new.
  have source (item : MaterializedTask) (here : item ∈ m.tasks) :
      (∃ m' ∈ s.materializations.values, m'.orchestrationRunId = run.id ∧ ∃ item' ∈ m'.tasks,
        item'.plannedTaskId = item.plannedTaskId ∧ item'.taskId = item.taskId) ∨
      ((∀ m' ∈ s.materializations.values, m'.orchestrationRunId = run.id →
          ∀ item' ∈ m'.tasks, item'.plannedTaskId ≠ item.plannedTaskId) ∧
        s.runtime.domain.tasks.get? item.taskId = none ∧
        item ∈ m.tasks.filter fun item =>
          ((lineageOf s (s.plansOf run.id).dropLast []).lookup item.plannedTaskId).isNone) := by
    rcases tasks.source item here with known | ⟨unknown, fresh⟩
    · obtain ⟨m', old, ownM, item', inside, same⟩ := (lineage _).mp (mem_of_lookup known)
      obtain ⟨planned, taskId⟩ := Prod.mk.inj same
      exact .inl ⟨m', old, ownM, item', inside, planned, taskId⟩
    · refine .inr ⟨fun m' old ownM item' inside same => ?_, fresh,
        List.mem_filter.mpr ⟨here, by rw [unknown]; rfl⟩⟩
      have listed := (lineage _).mpr ⟨m', old, ownM, item', inside, rfl⟩
      have apart := List.lookup_eq_none_iff.mp unknown _ listed
      rw [same] at apart
      simp at apart
  have fresh_old {m' : PlanMaterialization} (old : m' ∈ s.materializations.values)
      {item item' : MaterializedTask} (inside : item' ∈ m'.tasks)
      (none : s.runtime.domain.tasks.get? item.taskId = none) : item.taskId ≠ item'.taskId := by
    intro same
    obtain ⟨task, present⟩ := h.stored m' old item' inside
    rw [← same] at present
    cases none.symm.trans present
  have crossFunction (m' : PlanMaterialization) (old : m' ∈ s.materializations.values)
      (own' : m'.orchestrationRunId = run.id) (item : MaterializedTask) (here : item ∈ m.tasks)
      (item' : MaterializedTask) (inside : item' ∈ m'.tasks)
      (same : item.plannedTaskId = item'.plannedTaskId) : item.taskId = item'.taskId := by
    rcases source item here with ⟨m'', old'', own'', item'', inside'', planned, taskId⟩ | ⟨new, -⟩
    · rw [← taskId]
      exact h.function m'' old'' m' old (own''.trans own'.symm) item'' inside'' item' inside
        (planned.trans same)
    · exact (new m' old own' item' inside same.symm).elim
  have crossInjective (m' : PlanMaterialization) (old : m' ∈ s.materializations.values)
      (item : MaterializedTask) (here : item ∈ m.tasks) (item' : MaterializedTask)
      (inside : item' ∈ m'.tasks) (same : item.taskId = item'.taskId) :
      run.id = m'.orchestrationRunId ∧ item.plannedTaskId = item'.plannedTaskId := by
    rcases source item here with ⟨m'', old'', own'', item'', inside'', planned, taskId⟩ |
      ⟨-, none, -⟩
    · obtain ⟨sameRun, samePlanned⟩ := h.injective m'' old'' m' old item'' inside'' item' inside
        (taskId.trans same)
      exact ⟨own''.symm.trans sameRun, planned.symm.trans samePlanned⟩
    · exact (fresh_old old inside none same).elim
  have within (item : MaterializedTask) (here : item ∈ m.tasks) (item' : MaterializedTask)
      (here' : item' ∈ m.tasks) (same : item.taskId = item'.taskId) :
      item.plannedTaskId = item'.plannedTaskId := by
    rcases source item here with ⟨m₁, old₁, -, item₁, inside₁, planned₁, taskId₁⟩ | ⟨-, none, new⟩
    · have cross := crossInjective m₁ old₁ item' here' item₁ inside₁ (same.symm.trans taskId₁.symm)
      exact planned₁.symm.trans cross.2.symm
    · rcases source item' here' with ⟨m₂, old₂, -, item₂, inside₂, -, taskId₂⟩ | ⟨-, -, new'⟩
      · exact (fresh_old old₂ inside₂ none (same.trans taskId₂.symm)).elim
      · rw [List.inj_on_of_nodup_map tasks.apart new new' same]
  have grown := h.grow between.kept between.materializations
  refine ⟨?_, ?_, ?_, ?_⟩
  · intro other here
    rcases Registry.mem_values_put.mp here with rfl | ⟨old, -⟩
    · exact ⟨plan, filed.stored, filed.run, tasks.planned⟩
    · exact grown.covers other old
  · intro other here item inside
    rcases Registry.mem_values_put.mp here with rfl | ⟨old, -⟩
    · obtain ⟨task, present, -⟩ := filed.tasks item inside
      exact ⟨task, present⟩
    · exact grown.stored other old item inside
  · intro a ha b hb sameRun item inside item' inside' same
    rcases Registry.mem_values_put.mp ha with rfl | ⟨oldA, -⟩
    · rcases Registry.mem_values_put.mp hb with rfl | ⟨oldB, -⟩
      · rw [List.inj_on_of_nodup_map (PlanMaterialization.unique _) inside inside' same]
      · rw [between.materializations] at oldB
        exact crossFunction b oldB (sameRun.symm.trans own) item inside item' inside' same
    · rcases Registry.mem_values_put.mp hb with rfl | ⟨oldB, -⟩
      · rw [between.materializations] at oldA
        exact (crossFunction a oldA (sameRun.trans own) item' inside' item inside same.symm).symm
      · exact grown.function a oldA b oldB sameRun item inside item' inside' same
  · intro a ha b hb item inside item' inside' same
    rcases Registry.mem_values_put.mp ha with rfl | ⟨oldA, -⟩
    · rcases Registry.mem_values_put.mp hb with rfl | ⟨oldB, -⟩
      · exact ⟨rfl, within item inside item' inside' same⟩
      · rw [between.materializations] at oldB
        rw [own]
        exact crossInjective b oldB item inside item' inside' same
    · rcases Registry.mem_values_put.mp hb with rfl | ⟨oldB, -⟩
      · rw [between.materializations] at oldA
        rw [own]
        obtain ⟨sameRun, planned⟩ := crossInjective a oldA item' inside' item inside same.symm
        exact ⟨sameRun.symm, planned.symm⟩
      · exact grown.injective a oldA b oldB item inside item' inside' same

end Materials

/-- Every single change keeps what the materializations say. -/
theorem Change.materials {s s' : OrchestrationStore} {kind : ChangeKind} (h : Change s kind s')
    (ledger : Ledger s) (materials : Materials s) : Materials s' := by
  have kept := h.kept
  cases h with
  | materialized run plan m stored current own tasks between filed =>
      exact materials.materialize ledger stored current own tasks between filed
  | quiet between => exact materials.grow kept between.materializations
  | _ => exact materials.grow kept rfl

/-! ## Plans keep the tasks of the plans before them -/

/-- The tasks of a plan of a run are in every later plan of the run. -/
def PlansGrow (s : OrchestrationStore) : Prop :=
  ∀ runId, (s.plansIn runId).Pairwise fun plan later => ∀ id ∈ plan.taskIds, id ∈ later.taskIds

theorem PlansGrow.accept {s : OrchestrationStore} (ledger : Ledger s) (grow : PlansGrow s)
    {run next : OrchestrationRun} {plan : PlanVersion} {replan : Bool}
    (accepting : Accepting s run next plan replan) :
    PlansGrow { s with plans := s.plans.put plan, runs := s.runs.put next } := by
  obtain ⟨found, filed⟩ := accepting.filed
  intro runId
  show ((s.plans.put plan).values.filter _).Pairwise _
  rw [Registry.values_put_of_absent filed.absent, List.filter_append]
  refine List.pairwise_append.mpr ⟨grow runId, ?_, ?_⟩
  · exact List.Pairwise.filter _ (List.pairwise_singleton _ _)
  · intro earlier listed latest here id mem
    obtain ⟨here, ownNew⟩ := List.mem_filter.mp here
    obtain rfl := List.mem_singleton.mp here
    have ownNew : latest.orchestrationRunId = runId := of_decide_eq_true ownNew
    obtain rfl : runId = run.id := ownNew.symm.trans accepting.own.1
    have stored := Registry.mem_values_of_get? accepting.stored
    replace listed : earlier ∈ s.plansIn run.id := listed
    -- There is an earlier plan, so this is a replan and the last plan is kept.
    have again : replan = true := by
      refine accepting.order.mpr fun unnamed => ?_
      rw [(ledger.unplanned run stored unnamed).plans] at listed
      cases listed
    have present : s.plansIn run.id ≠ [] := List.ne_nil_of_mem listed
    have final := List.getLast?_eq_some_getLast present
    have kept := accepting.unorphaned _ (by rw [ledger.plansOf_eq stored]; exact final) again
    refine kept id ?_
    have sorted := grow run.id
    rw [← List.dropLast_append_getLast present] at sorted listed
    rcases List.mem_append.mp listed with before | last
    · exact (List.pairwise_append.mp sorted).2.2 earlier before _ (List.mem_singleton.mpr rfl)
        id mem
    · rw [List.mem_singleton.mp last] at mem
      exact mem

theorem Change.plansGrow {s s' : OrchestrationStore} {kind : ChangeKind} (h : Change s kind s')
    (ledger : Ledger s) (grow : PlansGrow s) : PlansGrow s' := by
  cases h with
  | accepted run next plan replan accepting => exact grow.accept ledger accepting
  | quiet between =>
      intro runId
      unfold OrchestrationTables.plansIn
      rw [between.plans]
      exact grow runId
  | materialized run plan m stored current own tasks between filed =>
      intro runId
      show (OrchestrationTables.plansIn _ runId).Pairwise _
      unfold OrchestrationTables.plansIn
      rw [between.plans]
      exact grow runId
  | _ => exact grow

/-! ## Materializing again -/

/-- What lets the current plan of a run be materialized. -/
structure Materializable (s : OrchestrationStore) (run : OrchestrationRun) (plan : PlanVersion) :
    Prop where
  running : run.status = .running
  goal : ∃ goal, s.runtime.domain.goals.get? run.goalId = some goal ∧
    goal.version = plan.goalVersion ∧ goal.status = .active

/-- The current plan that has a materialization is answered with it. -/
theorem materialize_again {env : Env} {w : World OrchestrationStore} {run : OrchestrationRun}
    {plan : PlanVersion} {m : PlanMaterialization} (stored : w.store.runs.get? run.id = some run)
    (current : Current w.store run plan m) (scope : run.workspaceId = plan.workspaceId)
    (allowed : Materializable w.store run plan) :
    materialize env run.workspaceId run.id run.version w = .ok m w := by
  obtain ⟨goal, found, version, active⟩ := allowed.goal
  have choosing : currentPlan run w = .ok plan w := by
    unfold currentPlan
    rw [current.planId, current.version]
    simp only [if_pos allowed.running]
    rw [scope]
    exact getPlan_of current.stored
  have finding : findMaterialization run.workspaceId plan w = .ok (some m) w := by
    unfold findMaterialization
    refine catching_eq_ok.mpr (.inl ?_)
    rw [scope, bind_of_ok (getMaterialization_of current.stored current.materialized)]
    rfl
  refine atomic_eq_ok.mpr ?_
  have versioned : expectOrchestration run run.version w = .ok () w := raiseIf_of_not (by simp) w
  have reading : inGoals (getGoal run.goalId) w = .ok goal w := entityOf_of (E := Goal) found
  have checked : ¬(goal.version ≠ plan.goalVersion ∨ goal.status ≠ .active) := by
    simp [version, active]
  rw [bind_of_ok (getOrchestrationRun_of stored), bind_of_ok versioned, bind_of_ok choosing,
    bind_of_ok reading, bind_of_ok (raiseIf_of_not checked w), bind_of_ok finding]
  rfl

/-! ## The lineage of a run -/

/-- The plans of a run and the canonical tasks they were materialized to. -/
structure Lineage (s : OrchestrationStore) (run : OrchestrationRun) : Prop where
  unplanned : run.planId = none → s.plansOf run.id = [] ∧ run.replanCount = 0
  versions : ∀ planId, run.planId = some planId →
    (s.plansOf run.id).map (fun plan => plan.version.value) =
      List.range' 1 (run.replanCount + 1) ∧
    ∀ plan ∈ s.plansOf run.id, plan.id = planId
  bound : run.replanCount ≤ run.policy.maxReplans
  /-- A plan keeps the tasks of every earlier plan. -/
  kept : (s.plansOf run.id).Pairwise fun plan later => ∀ id ∈ plan.taskIds, id ∈ later.taskIds
  /-- A materialization covers exactly the tasks of its plan. -/
  covers : ∀ m ∈ s.materializations.values, m.orchestrationRunId = run.id →
    ∃ plan ∈ s.plansOf run.id, plan.key = m.key ∧
      m.tasks.map MaterializedTask.plannedTaskId = plan.taskIds
  /-- Planned and canonical tasks correspond one to one. -/
  oneToOne : ∀ m ∈ s.materializations.values, ∀ m' ∈ s.materializations.values,
    m.orchestrationRunId = run.id → m'.orchestrationRunId = run.id →
    ∀ item ∈ m.tasks, ∀ item' ∈ m'.tasks,
      item.plannedTaskId = item'.plannedTaskId ↔ item.taskId = item'.taskId
  /-- No other run has a canonical task of the run. -/
  unshared : ∀ m ∈ s.materializations.values, ∀ m' ∈ s.materializations.values,
    m.orchestrationRunId = run.id → m'.orchestrationRunId ≠ run.id →
    ∀ item ∈ m.tasks, ∀ item' ∈ m'.tasks, item.taskId ≠ item'.taskId
  /-- Every canonical task of a materialization is in every later one. -/
  unorphaned : ∀ m ∈ s.materializations.values, ∀ m' ∈ s.materializations.values,
    m.orchestrationRunId = run.id → m'.orchestrationRunId = run.id →
    m.planVersion.value ≤ m'.planVersion.value →
    ∀ item ∈ m.tasks, ∃ item' ∈ m'.tasks,
      item'.plannedTaskId = item.plannedTaskId ∧ item'.taskId = item.taskId

/-- The plans of a run are filed by version. -/
theorem later_plan {s : OrchestrationStore} (ledger : Ledger s) (grow : PlansGrow s)
    {run : OrchestrationRun} (mem : run ∈ s.runs.values) {plan later : PlanVersion}
    (here : plan ∈ s.plansIn run.id) (there : later ∈ s.plansIn run.id)
    (order : plan.version.value ≤ later.version.value) :
    ∀ id ∈ plan.taskIds, id ∈ later.taskIds := by
  obtain ⟨versions, -⟩ := ledger.planned run mem plan.id (ledger.id_of_mem mem here)
  have sorted : (s.plansIn run.id).Pairwise fun a b => a.version.value < b.version.value := by
    refine List.pairwise_map.mp ?_
    rw [versions]
    exact List.pairwise_lt_range' ..
  obtain ⟨i, inside, rfl⟩ := List.getElem_of_mem here
  obtain ⟨j, inside', rfl⟩ := List.getElem_of_mem there
  rcases Nat.lt_trichotomy i j with before | same | after
  · exact List.pairwise_iff_getElem.mp (grow run.id) i j inside inside' before
  · subst same
    exact fun id mem => mem
  · have less := List.pairwise_iff_getElem.mp sorted j i inside' inside after
    omega

theorem lineage_of {s : OrchestrationStore} (ledger : Ledger s) (materials : Materials s)
    (grow : PlansGrow s) {run : OrchestrationRun} (mem : run ∈ s.runs.values) : Lineage s run := by
  have plans := ledger.plansOf_eq mem
  have covers {m : PlanMaterialization} (here : m ∈ s.materializations.values)
      (own : m.orchestrationRunId = run.id) : ∃ plan ∈ s.plansIn run.id, plan.key = m.key ∧
      m.tasks.map MaterializedTask.plannedTaskId = plan.taskIds := by
    obtain ⟨plan, stored, ownPlan, tasks⟩ := materials.covers m here
    exact ⟨plan, mem_plansIn.mpr ⟨Registry.mem_values_of_get? stored, ownPlan.trans own⟩,
      Registry.key_of_get? stored, tasks⟩
  refine ⟨?_, ?_, run.valid.replans, ?_, ?_, ?_, ?_, ?_⟩
  · intro unnamed
    rw [plans]
    exact ⟨(ledger.unplanned run mem unnamed).plans, (ledger.unplanned run mem unnamed).replans⟩
  · intro planId named
    rw [plans]
    refine ⟨(ledger.planned run mem planId named).versions, fun plan here => ?_⟩
    exact Option.some.inj ((ledger.id_of_mem mem here).symm.trans named)
  · rw [plans]
    exact grow run.id
  · intro m here own
    rw [plans]
    exact covers here own
  · intro m here m' here' own own' item inside item' inside'
    exact ⟨materials.function m here m' here' (own.trans own'.symm) item inside item' inside',
      fun same => (materials.injective m here m' here' item inside item' inside' same).2⟩
  · intro m here m' here' own other item inside item' inside' same
    have sameRun := (materials.injective m here m' here' item inside item' inside' same).1
    exact other (sameRun.symm.trans own)
  · intro m here m' here' own own' order item inside
    obtain ⟨plan, listed, key, tasks⟩ := covers here own
    obtain ⟨plan', listed', key', tasks'⟩ := covers here' own'
    have version : plan.version = m.planVersion := congrArg Prod.snd key
    have version' : plan'.version = m'.planVersion := congrArg Prod.snd key'
    rw [← version, ← version'] at order
    have planned : item.plannedTaskId ∈ plan.taskIds := by
      rw [← tasks]
      exact List.mem_map_of_mem inside
    have later := later_plan ledger grow mem listed listed' order item.plannedTaskId planned
    rw [← tasks'] at later
    obtain ⟨item', inside', same⟩ := List.mem_map.mp later
    exact ⟨item', inside', same, materials.function m' here' m here (own'.trans own.symm) item'
      inside' item inside same⟩

/-! ## Ended runs -/

/-- A run that has ended gets no plan. -/
theorem Change.plansOf_of_terminal {s s' : OrchestrationStore} {kind : ChangeKind}
    (h : Change s kind s') {run : OrchestrationRun} (stored : s.runs.get? run.id = some run)
    (ended : run.status.terminal = true) : s'.plansOf run.id = s.plansOf run.id := by
  cases h with
  | quiet between =>
      unfold OrchestrationTables.plansOf
      rw [between.plans]
  | accepted other next plan replan accepting =>
      obtain ⟨found, filed⟩ := accepting.filed
      have apart : ¬plan.orchestrationRunId = run.id := by
        intro same
        rw [accepting.own.1] at same
        have theirs := accepting.stored
        rw [same, stored] at theirs
        obtain rfl := Option.some.inj theirs
        obtain ⟨at', evolved⟩ := accepting.evolved
        have running := evolved.status_eq
        rw [evolved.status_of_terminal ended] at running
        rw [running] at ended
        cases ended
      unfold OrchestrationTables.plansOf
      show ((s.plans.put plan).values.filter _).insertionSort _ = _
      rw [Registry.values_put_of_absent filed.absent, List.filter_append,
        List.filter_cons_of_neg (by simp [apart]), List.filter_nil, List.append_nil]
  | materialized other plan m stored current own tasks between filed =>
      show OrchestrationTables.plansOf _ run.id = _
      unfold OrchestrationTables.plansOf
      rw [between.plans]
  | _ => rfl

theorem Changes.plansOf_of_terminal {K : List ChangeKind} {s s' : OrchestrationStore}
    (h : Changes K s s') {run : OrchestrationRun} (stored : s.runs.get? run.id = some run)
    (ended : run.status.terminal = true) : s'.plansOf run.id = s.plansOf run.id := by
  refine (h.keeps (P := fun t => (∃ later, t.runs.get? run.id = some later ∧
    later.id = run.id ∧ later.status.terminal = true) ∧ t.plansOf run.id = s.plansOf run.id)
    (fun _ change held => ?_) ⟨⟨run, stored, rfl, ended⟩, rfl⟩).2
  obtain ⟨⟨later, found, id, ended'⟩, same⟩ := held
  obtain ⟨next, present, follows⟩ := change.kept.runs.later found
  refine ⟨⟨next, present, follows.id.trans id, ?_⟩, ?_⟩
  · rw [(follows.final ended').1]
    exact ended'
  · rw [← id] at found ⊢
    exact (change.plansOf_of_terminal found ended').trans (by rw [id]; exact same)

/-! ## Every run -/

theorem after_materials (platform : Platform) (labels : List Label) :
    Materials (Company.after platform labels).store :=
  after_keeps platform (fun change ledger held => change.materials ledger held)
    (Materials.empty _) labels

theorem after_plansGrow (platform : Platform) (labels : List Label) :
    PlansGrow (Company.after platform labels).store :=
  after_keeps platform (fun change ledger held => change.plansGrow ledger held)
    (fun _ => List.Pairwise.nil) labels

theorem after_append (platform : Platform) (labels more : List Label) :
    Company.after platform (labels ++ more) =
      more.foldl (Company.step platform) (Company.after platform labels) :=
  List.foldl_append

/-- Later states keep every record. -/
theorem foldl_kept (platform : Platform) {s : Company} (h : s.Sound) (labels : List Label) :
    Kept s.store (labels.foldl (Company.step platform) s).store := by
  induction labels generalizing s with
  | nil => exact .refl _
  | cons label rest ih =>
      exact (step_changes platform h label).kept.trans (ih (step_sound platform h label))

/-- The current plan of a run is one of its plans. -/
theorem Current.own {s : OrchestrationStore} (ledger : Ledger s) {run : OrchestrationRun}
    {plan : PlanVersion} {m : PlanMaterialization} (mem : run ∈ s.runs.values)
    (current : Current s run plan m) : plan.orchestrationRunId = run.id := by
  have filed := Registry.mem_values_of_get? current.stored
  obtain ⟨owner, found, named, -⟩ := ledger.owned plan filed
  have same := ledger.apart owner (Registry.mem_values_of_get? found) run mem plan.id named
    current.planId
  rw [← same]
  exact (id_of_stored found).symm

/-- To materialize a materialized current plan changes nothing and can only answer with the
stored record. -/
theorem ran_materialize_again (platform : Platform) {s : Company} (workspaceId : WorkspaceId)
    (expected : Version) {run : OrchestrationRun} {plan : PlanVersion} {m : PlanMaterialization}
    (stored : s.store.runs.get? run.id = some run) (current : Current s.store run plan m) :
    (s.ran (materialize platform.toEnv workspaceId run.id expected)).store = s.store ∧
      ∀ answer, s.reply (materialize platform.toEnv workspaceId run.id expected) = .ok answer →
        answer = m := by
  have answered {answer : PlanMaterialization}
      (replied : s.reply (materialize platform.toEnv workspaceId run.id expected) = .ok answer) :
      (s.ran (materialize platform.toEnv workspaceId run.id expected)).store = s.store ∧
        answer = m := by
    obtain ⟨w', ran, same⟩ := reply_eq_ok replied
    obtain ⟨found, plan', present, -, planId, version, -, outcome⟩ := materialize_eq_ok ran
    obtain rfl : run = found := Option.some.inj (stored.symm.trans present)
    have key : plan'.key = plan.key :=
      Prod.ext (Option.some.inj (planId.symm.trans current.planId))
        (Option.some.inj (version.symm.trans current.version))
    rw [key] at outcome
    rcases outcome with ⟨filed, unchanged⟩ | ⟨absent, -⟩
    · exact ⟨same.trans unchanged, Option.some.inj (filed.symm.trans current.materialized)⟩
    · cases absent.symm.trans current.materialized
  cases replied : s.reply (materialize platform.toEnv workspaceId run.id expected) with
  | ok answer =>
      exact ⟨(answered replied).1, fun a same => by cases same; exact (answered replied).2⟩
  | error e => exact ⟨ran_of_error (.atomic _) replied, fun a same => by cases same⟩

/-- In every order of commands and planner answers: a run has the versions of one plan, its
planned and canonical tasks correspond one to one for ever, an ended run gets no plan, and
to materialize a plan again answers with its record. -/
theorem replan_and_materialization (platform : Platform) (labels : List Label) :
    (∀ run ∈ (Company.after platform labels).store.runs.values,
      Lineage (Company.after platform labels).store run) ∧
    (∀ more, ∀ m ∈ (Company.after platform labels).store.materializations.values,
      m ∈ (Company.after platform (labels ++ more)).store.materializations.values) ∧
    (∀ label, ∀ run ∈ (Company.after platform labels).store.runs.values,
      run.status.terminal = true →
      (Company.after platform (labels ++ [label])).store.plansOf run.id =
        (Company.after platform labels).store.plansOf run.id) ∧
    ∀ host workspaceId expected plan m,
      ∀ run ∈ (Company.after platform labels).store.runs.values,
      Current (Company.after platform labels).store run plan m →
      (Company.after platform (labels ++
          [.command host (.materialize workspaceId run.id expected)])).store =
        (Company.after platform labels).store ∧
      (∀ answer, (Company.after platform labels).reply
          (materialize platform.toEnv workspaceId run.id expected) = .ok answer → answer = m) ∧
      (Materializable (Company.after platform labels).store run plan →
        (Company.after platform labels).reply
          (materialize platform.toEnv run.workspaceId run.id run.version) = .ok m) := by
  have sound := after_sound platform labels
  refine ⟨?_, ?_, ?_, ?_⟩
  · intro run mem
    exact lineage_of sound.ledger (after_materials platform labels)
      (after_plansGrow platform labels) mem
  · intro more m mem
    rw [after_append]
    have kept := foldl_kept platform sound more
    exact Registry.mem_values_of_get? (kept.materialization (Registry.get?_of_mem_values mem))
  · intro label run mem ended
    rw [after_append]
    exact (step_changes platform sound label).plansOf_of_terminal
      (Registry.get?_of_mem_values mem) ended
  · intro host workspaceId expected plan m run mem current
    have stored : (Company.after platform labels).store.runs.get? run.id = some run :=
      Registry.get?_of_mem_values mem
    obtain ⟨unchanged, answers⟩ := ran_materialize_again platform workspaceId
      expected stored current
    refine ⟨?_, answers, fun allowed => ?_⟩
    · rw [after_append]
      exact unchanged
    · obtain ⟨owner, found, -, scope⟩ :=
        sound.ledger.owned plan (Registry.mem_values_of_get? current.stored)
      rw [current.own sound.ledger mem, stored] at found
      obtain rfl := Option.some.inj found
      exact congrArg World.answer (materialize_again stored current scope allowed)

end AgentCompanyOS.Orchestration
