import AgentCompanyOS.Orchestration.Steps

/-!
# What planning and materializing change

The transactions of `start`, `replan` and `materialize`, each taken apart into the changes
it makes. A plan that is accepted answers its request and is the next version of the run's
plan; a plan that is materialized takes over the canonical tasks that earlier plans have for
its planned tasks and gets new ones for the others.
-/

set_option autoImplicit false

namespace AgentCompanyOS.Orchestration

open Foundation Foundation.Txn Domain AgentCompanyOS.Runtime

variable {env : Env} {host : OrchestrationHost} {w w' : World OrchestrationStore}

/-! ## Starting -/

/-- What the first transaction of `start` has made. -/
structure StartOpened (s s' : OrchestrationStore) (run : OrchestrationRun)
    (request : OrchestrationRequest) : Prop where
  absent : s.runs.get? run.id = none
  stored : s'.runs.get? run.id = some run
  unplanned : run.planId = none
  scope : request.workspaceId = run.workspaceId
  changes : Changes [.quiet, .opened] s s'

theorem openStart_eq_ok {workspaceId : WorkspaceId} {goalId : GoalId}
    {policy : OrchestrationPolicy} {department : Option DepartmentId}
    {answer : OrchestrationRun × OrchestrationRequest}
    (h : openStart env host workspaceId goalId policy department w = .ok answer w') :
    StartOpened w.store w'.store answer.1 answer.2 := by
  have h := atomic_eq_ok.mp h
  obtain ⟨goal, -, h⟩ := entityOf_then (E := Goal) h
  obtain ⟨-, h⟩ := raiseIf_then h
  obtain ⟨id, w₁, -, s₁, h⟩ := Idle.then (moves_fresh env _) h
  obtain ⟨at', w₂, -, s₂, h⟩ := Idle.then (moves_now env) h
  obtain ⟨organization, w₃, -, s₃, h⟩ := Idle.then (idle_captureOrganization env host _) h
  obtain ⟨made, creating, h⟩ := (reads_checked _).then h
  obtain ⟨_, w₄, added, h⟩ := bind_eq_ok.mp h
  obtain ⟨_, w₅, -, logged, h⟩ :=
    (quiet_orchestrationEvent env made .orchestrationStarted []).then h
  obtain ⟨definitions, w₆, -, s₆, h⟩ := Idle.then (idle_candidates env host made .none) h
  obtain ⟨rfl, rfl⟩ := pure_eq_ok.mp h
  have fields := OrchestrationRun.create_eq_ok (checked_eq_ok.mp creating).1
  obtain ⟨absent, -, rfl⟩ := addOrchestrationRun_eq_ok added
  have same : w₃.store = w.store := by rw [s₃, s₂, s₁]
  rw [same] at absent logged
  have planId : made.planId = none := congrArg OrchestrationFields.planId fields
  have status : made.status = .planning := congrArg OrchestrationFields.status fields
  have workspace : made.workspaceId = workspaceId :=
    congrArg OrchestrationFields.workspaceId fields
  have opening : Change w.store .opened { w.store with runs := w.store.runs.put made } :=
    .opened made absent status
      ⟨planId, congrArg OrchestrationFields.currentPlanVersion fields⟩
      ⟨congrArg OrchestrationFields.replanCount fields,
        congrArg OrchestrationFields.agentRunCount fields⟩
      (congrArg OrchestrationFields.failedAttemptCount fields)
  refine ⟨absent, ?_, planId, workspace.symm, ?_⟩
  · rw [s₆, Quiet.runs logged]
    exact Registry.get?_put_self _ made
  · rw [s₆]
    exact (Changes.single (by simp) opening).trans (.quiet (by simp) logged)

theorem failStart_eq_ok {workspaceId : WorkspaceId} {runId : OrchestrationRunId} {reason : PyStr}
    {run : OrchestrationRun} (h : failStart env workspaceId runId reason w = .ok run w') :
    Changes [.quiet, .moved] w.store w'.store := by
  have h := atomic_eq_ok.mp h
  obtain ⟨current, stored, -, h⟩ := getOrchestrationRun_then h
  obtain ⟨failed, w₁, saving, h⟩ := bind_eq_ok.mp h
  obtain ⟨_, w₂, -, logged, h⟩ := (quiet_orchestrationEvent env failed .planRejected _).then h
  obtain ⟨rfl, rfl⟩ := pure_eq_ok.mp h
  obtain rfl := id_of_stored stored
  have moving := (saveChange_saved saving).moved stored ⟨rfl, rfl, rfl, rfl⟩ fun status =>
    .failed status
  exact (Changes.single (by simp) moving).trans (.quiet (by simp) logged)

/-! ## Accepting a plan -/

theorem idle_selectForAll (env : Env) (host : OrchestrationHost) (run : OrchestrationRun)
    (tasks : List PlannedTask) : Idle (selectForAll env host run tasks) := by
  induction tasks with
  | nil => exact Moves.pure _
  | cons task rest ih => exact (idle_selectAgent env host run _ _ _ _ _).bind fun _ => ih

theorem planIdOf_then {α : Type} {run : OrchestrationRun} {b : α}
    {f : OrchestrationPlanId → OrchestrationTxn α} (h : (planIdOf env run >>= f) w = .ok b w') :
    ∃ planId w₁, (∀ id, run.planId = some id → planId = id) ∧ w₁.store = w.store ∧
      f planId w₁ = .ok b w' := by
  unfold planIdOf at h
  cases named : run.planId with
  | some id =>
      rw [named] at h
      obtain ⟨planId, w₁, chosen, h⟩ := bind_eq_ok.mp h
      obtain ⟨rfl, rfl⟩ := pure_eq_ok.mp chosen
      exact ⟨id, w, fun _ same => Option.some.inj same, rfl, h⟩
  | none =>
      rw [named] at h
      obtain ⟨planId, w₁, -, same, h⟩ := Idle.then (moves_fresh env _) h
      refine ⟨planId, w₁, ?_, same, h⟩
      intro id absent
      cases absent

/-- A replan keeps the tasks of the last plan. -/
theorem not_orphans {replan : Bool} {prior : List PlanVersion} {proposal : PlanProposal}
    (h : orphans replan prior proposal ≠ true) {last : PlanVersion}
    (found : prior.getLast? = some last) (again : replan = true) :
    ∀ id ∈ last.taskIds, id ∈ proposal.tasks.map fun task => task.id := by
  unfold orphans at h
  rw [found, again] at h
  simp only [Bool.true_and, ne_eq, Bool.not_eq_true, Bool.not_eq_false'] at h
  exact subset_eq_true.mp h

/-- The plan that was accepted and the run that has it. -/
theorem acceptPlan_eq_ok {runId : OrchestrationRunId} {request : OrchestrationRequest}
    {proposal : PlanProposal} {replan : Bool} {next : OrchestrationRun}
    (order : ∀ run, w.store.runs.get? runId = some run → (replan = true ↔ run.planId ≠ none))
    (h : acceptPlan env host runId request proposal replan w = .ok next w') :
    ∃ run plan mid, w.store.runs.get? runId = some run ∧
      Accepting w.store run next plan replan ∧
      mid = { w.store with plans := w.store.plans.put plan, runs := w.store.runs.put next } ∧
      Quiet mid w'.store := by
  obtain ⟨run, stored, -, rest⟩ := getOrchestrationRun_then (atomic_eq_ok.mp h)
  obtain rfl := id_of_stored stored
  obtain ⟨goal, -, h⟩ := entityOf_then (E := Goal) rest
  obtain ⟨-, h⟩ := raiseIf_then h
  obtain ⟨_, valid, h⟩ := (reads_checked _).then h
  obtain ⟨-, -, -, unique⟩ := validatePlan_eq_ok (checked_eq_ok.mp valid).1
  obtain ⟨_, w₁, -, s₁, h⟩ := Idle.then (idle_selectForAll env host run _) h
  have h := getPlans_then h
  obtain ⟨planId, w₂, identity, s₂, h⟩ := planIdOf_then h
  obtain ⟨orphaned, h⟩ := raiseIf_then h
  obtain ⟨at', w₃, -, s₃, h⟩ := Idle.then (moves_now env) h
  obtain ⟨plan, creating, h⟩ := (reads_checked _).then h
  have fields := PlanVersion.create_eq_ok (checked_eq_ok.mp creating).1
  obtain ⟨_, w₄, added, h⟩ := bind_eq_ok.mp h
  obtain ⟨⟨found, filed⟩, rfl⟩ := addPlan_eq_ok added
  obtain ⟨updated, w₅, saving, h⟩ := bind_eq_ok.mp h
  obtain ⟨_, w₆, -, proposed, h⟩ := (quiet_planEvent env plan .planProposed).then h
  obtain ⟨_, w₇, -, accepted, h⟩ := (quiet_planEvent env plan .planAccepted).then h
  have replanned : Moves quiet (runIf (replan = true)
      (orchestrationEvent env updated .replanCompleted [])) :=
    .runIf fun _ => quiet_orchestrationEvent env updated .replanCompleted []
  obtain ⟨_, w₈, -, closed, h⟩ := replanned.then h
  obtain ⟨rfl, rfl⟩ := pure_eq_ok.mp h
  have same : w₃.store = w.store := by rw [s₃, s₂, s₁]
  rw [s₁] at orphaned fields
  rw [same] at filed saving
  have saved := saveChange_saved saving
  have evolved := saved.evolved
  have proposalOf : plan.proposal = proposal := congrArg PlanVersionFields.proposal fields
  have taskIds : plan.taskIds = proposal.tasks.map fun task => task.id := by
    unfold PlanVersion.taskIds
    rw [proposalOf]
  refine ⟨run, plan, _, stored, ?_, rfl, ?_⟩
  · refine ⟨stored, ⟨found, filed⟩, ?_, ?_, order run stored, ?_, ?_, ?_, evolved⟩
    · exact ⟨congrArg PlanVersionFields.orchestrationRunId fields,
        congrArg PlanVersionFields.workspaceId fields⟩
    · intro id named
      rw [← identity id named]
      exact congrArg PlanVersionFields.id fields
    · exact congrArg (fun f => f.version.value) fields
    · intro last final again
      rw [taskIds]
      exact not_orphans orphaned final again
    · rw [taskIds]
      exact unique
  · have proposed : Quiet w₅.store w₆.store := proposed
    rw [saved.filed] at proposed
    exact (proposed.trans accepted).trans closed

/-! ## Replanning -/

/-- What the first transaction of `replan` has made. -/
theorem openReplan_eq_ok {workspaceId : WorkspaceId} {runId : OrchestrationRunId}
    {expected : Version} {answer : ReplanStep}
    (h : openReplan env host workspaceId runId expected w = .ok answer w') :
    ∃ run, w.store.runs.get? runId = some run ∧
      (run.status = .running ∨ run.status = .waiting) ∧
      Changes [.quiet, .moved, .left] w.store w'.store ∧
      ∀ next request, answer = .planning next request →
        next.id = runId ∧ next.planId = run.planId ∧ w'.store.runs.get? runId = some next ∧
        request.workspaceId = workspaceId ∧ next.workspaceId = workspaceId := by
  obtain ⟨run, stored, scope, rest⟩ := getOrchestrationRun_then (atomic_eq_ok.mp h)
  obtain rfl := id_of_stored stored
  obtain ⟨-, h⟩ := raiseIf_then rest
  obtain ⟨ready, h⟩ := raiseIf_then h
  obtain ⟨-, h⟩ := raiseIf_then h
  have active : run.status = .running ∨ run.status = .waiting := by
    by_contra neither
    exact ready (not_or.mp neither)
  refine ⟨run, stored, active, ?_⟩
  by_cases used : run.policy.maxReplans ≤ run.replanCount
  · rw [if_pos used] at h
    obtain ⟨waiting, w₁, saving, h⟩ := bind_eq_ok.mp h
    obtain ⟨_, w₂, -, logged, h⟩ :=
      (quiet_orchestrationEvent env waiting .orchestrationFailed []).then h
    obtain ⟨rfl, rfl⟩ := pure_eq_ok.mp h
    have moving := (saveChange_saved saving).moved stored ⟨rfl, rfl, rfl, rfl⟩ fun status =>
      .waits status (active.imp_right fun waiting => .inl waiting)
    refine ⟨(Changes.single (by simp) moving).trans (.quiet (by simp) logged), ?_⟩
    intro next request planning
    cases planning
  · rw [if_neg used] at h
    obtain ⟨goal, -, h⟩ := entityOf_then (E := Goal) h
    obtain ⟨planning, w₁, saving, h⟩ := bind_eq_ok.mp h
    obtain ⟨_, w₂, -, logged, h⟩ :=
      (quiet_orchestrationEvent env planning .replanRequested []).then h
    obtain ⟨definitions, w₃, -, s₃, h⟩ := Idle.then (idle_candidates env host run .none) h
    obtain ⟨rfl, rfl⟩ := pure_eq_ok.mp h
    have saved := saveChange_saved saving
    have leaving := saved.left stored ⟨rfl, rfl, rfl, rfl⟩ active (.inr rfl)
    rw [s₃]
    refine ⟨(Changes.single (by simp) leaving).trans (.quiet (by simp) logged), ?_⟩
    intro next request same
    cases same
    obtain ⟨at', evolved⟩ := saved.evolved
    refine ⟨evolved.id_eq, evolved.planId_eq, ?_, rfl, evolved.workspace_eq.trans scope⟩
    rw [Quiet.runs logged]
    exact saved.stored

theorem waitAfterPlanning_eq_ok {workspaceId : WorkspaceId} {runId : OrchestrationRunId}
    {escalation : String} {reason : PyStr} {run : OrchestrationRun}
    (planned : ∀ run, w.store.runs.get? runId = some run → run.planId ≠ none)
    (h : waitAfterPlanning env workspaceId runId escalation reason w = .ok run w') :
    Changes [.quiet, .moved] w.store w'.store := by
  obtain ⟨current, stored, -, rest⟩ := getOrchestrationRun_then (atomic_eq_ok.mp h)
  obtain rfl := id_of_stored stored
  obtain ⟨waiting, w₁, saving, h⟩ := bind_eq_ok.mp rest
  obtain ⟨_, w₂, -, logged, h⟩ := (quiet_orchestrationEvent env waiting .planRejected _).then h
  obtain ⟨rfl, rfl⟩ := pure_eq_ok.mp h
  have moving := (saveChange_saved saving).moved stored ⟨rfl, rfl, rfl, rfl⟩ fun status =>
    .waits status (.inr (.inr (.inl (planned current stored))))
  exact (Changes.single (by simp) moving).trans (.quiet (by simp) logged)

/-! ## Materializing -/

/-- A plan has no materialization when the error says that there is none. -/
theorem materialization_absent {workspaceId : WorkspaceId} {plan found : PlanVersion} {e : Exc}
    (stored : w.store.plans.get? plan.key = some found)
    (h : getMaterialization workspaceId plan.id plan.version w = .error e w')
    (missing : isNotFound e = true) : w.store.materializations.get? plan.key = none := by
  rcases bind_eq_error.mp h with unplanned | ⟨_, v, reading, unfiled⟩
  · -- The plan is there, so the read can only have met another workspace.
    have present : (need (w.store.plans.get? (plan.id, plan.version))
        (.domain (.entityNotFound (py "PlanVersion") (planLabel plan.id plan.version))) :
        OrchestrationTxn PlanVersion) w = .ok found w := need_of_some stored w
    unfold getPlan at unplanned
    rw [bind_of_ok (show (getStore : OrchestrationTxn _) w = .ok w.store w from rfl),
      bind_of_ok present] at unplanned
    unfold scopeOf at unplanned
    by_cases same : workspaceId ≠ found.workspaceId
    · rw [bind_of_error (raiseIf_of same w)] at unplanned
      cases unplanned
      cases missing
    · rw [bind_of_ok (raiseIf_of_not same w)] at unplanned
      cases unplanned
  · obtain rfl := (reads_getPlan _ _ _).world_eq reading
    rw [bind_of_ok (show (getStore : OrchestrationTxn _) v = .ok v.store v from rfl)] at unfiled
    cases filed : v.store.materializations.get? (plan.id, plan.version) with
    | none => exact filed
    | some m =>
        rw [filed] at unfiled
        cases unfiled

/-- The stored materialization of a stored plan. -/
theorem findMaterialization_then {α : Type} {b : α} {workspaceId : WorkspaceId}
    {plan found : PlanVersion} {f : Option PlanMaterialization → OrchestrationTxn α}
    (stored : w.store.plans.get? plan.key = some found)
    (h : (findMaterialization workspaceId plan >>= f) w = .ok b w') :
    f (w.store.materializations.get? plan.key) w = .ok b w' := by
  obtain ⟨answer, v, reading, rest⟩ := bind_eq_ok.mp h
  rcases catching_eq_ok.mp reading with returned | ⟨e, u, raised, handled⟩
  · obtain ⟨m, present, returned⟩ := (reads_getMaterialization _ _ _).then returned
    obtain ⟨rfl, rfl⟩ := pure_eq_ok.mp returned
    have filed := getMaterialization_eq_ok present
    change w.store.materializations.get? plan.key = some m at filed
    rw [filed]
    exact rest
  · have error : getMaterialization workspaceId plan.id plan.version w = .error e u := by
      rcases bind_eq_error.mp raised with raised | ⟨_, _, _, returned⟩
      · exact raised
      · cases returned
    by_cases missing : isNotFound e = true
    · rw [if_pos missing] at handled
      obtain ⟨rfl, rfl⟩ := pure_eq_ok.mp handled
      rw [materialization_absent stored error missing]
      have same := (reads_getMaterialization workspaceId plan.id plan.version) w
      rw [error] at same
      obtain rfl : u = w := same
      exact rest
    · rw [if_neg missing] at handled
      cases handled

/-- The tasks that stored plans were materialized to. -/
theorem priorLineage_then {α : Type} {b : α} {workspaceId : WorkspaceId}
    {plans : List PlanVersion} {lineage : List (PyStr × TaskId)}
    {f : List (PyStr × TaskId) → OrchestrationTxn α}
    (stored : ∀ plan ∈ plans, w.store.plans.get? plan.key = some plan)
    (h : (priorLineage workspaceId plans lineage >>= f) w = .ok b w') :
    f (lineageOf w.store plans lineage) w = .ok b w' := by
  induction plans generalizing lineage with
  | nil => exact h
  | cons plan rest ih =>
      have here := stored plan List.mem_cons_self
      have later : ∀ plan ∈ rest, w.store.plans.get? plan.key = some plan := fun p mem =>
        stored p (List.mem_cons_of_mem _ mem)
      obtain ⟨result, v, walking, h⟩ := bind_eq_ok.mp h
      have walking := findMaterialization_then here walking
      unfold lineageOf
      rw [List.foldl_cons]
      cases filed : w.store.materializations.get? plan.key with
      | none =>
          rw [filed] at walking
          refine ih later ?_
          exact (bind_of_ok walking f).trans h
      | some m =>
          rw [filed] at walking
          refine ih later ?_
          exact (bind_of_ok walking f).trans h

/-- A new task has an id that no stored task has. -/
theorem createTask_eq_ok {v v' : World DomainStore} {command : CreateTaskCommand} {task : Task}
    (h : createTask env command v = .ok task v') :
    v.store.tasks.get? task.id = none ∧ v'.store.tasks.get? task.id = some task := by
  have h := atomic_eq_ok.mp h
  obtain ⟨-, -, h⟩ := getEntity_then h
  obtain ⟨goal, -, h⟩ := getEntity_then h
  obtain ⟨-, h⟩ := raiseIf_then h
  obtain ⟨-, h⟩ := raiseIf_then h
  obtain ⟨at', v₁, -, s₁, h⟩ := Idle.then (moves_now env) h
  obtain ⟨id, v₂, -, s₂, h⟩ := Idle.then (moves_fresh env _) h
  obtain ⟨created, -, h⟩ := (reads_checked _).then h
  obtain ⟨rfl, event, addable, -, result⟩ := addNew_eq_ok h
  have absent := addable.absent
  rw [s₂, s₁] at absent
  refine ⟨absent, ?_⟩
  rw [result]
  show (v₂.store.tasks.put task).get? (Task.id task) = some task
  exact Registry.get?_put_self _ task

/-- The canonical task of a planned task: from the lineage, or new. -/
theorem canonicalTask_eq_ok {workspaceId : WorkspaceId} {goalId : GoalId}
    {lineage : List (PyStr × TaskId)} {planned : PlannedTask} {taskId : TaskId}
    (h : canonicalTask env workspaceId goalId lineage planned w = .ok taskId w') :
    Quiet w.store w'.store ∧
      (lineage.lookup planned.id = some taskId ∨
        (lineage.lookup planned.id = none ∧
          w.store.runtime.domain.tasks.get? taskId = none ∧
          ∃ task, w'.store.runtime.domain.tasks.get? taskId = some task)) := by
  unfold canonicalTask at h
  cases found : lineage.lookup planned.id with
  | some known =>
      rw [found] at h
      obtain ⟨rfl, rfl⟩ := pure_eq_ok.mp h
      exact ⟨.refl _, .inl rfl⟩
  | none =>
      rw [found] at h
      obtain ⟨task, w₁, creating, h⟩ := bind_eq_ok.mp h
      obtain ⟨rfl, rfl⟩ := pure_eq_ok.mp h
      refine ⟨((quiet_createTask env _).of_ok creating).2, .inr ⟨rfl, ?_⟩⟩
      change inRuntime (inDomain (createTask env _)) w = .ok task w₁ at creating
      obtain ⟨v, inner, rfl⟩ := zoom_eq_ok.mp creating
      obtain ⟨u, innermost, rfl⟩ := zoom_eq_ok.mp inner
      obtain ⟨absent, present⟩ := createTask_eq_ok innermost
      exact ⟨absent, task, present⟩

/-- The canonical tasks of a list of planned tasks. -/
theorem materializeTasks_eq_ok {plan : PlanVersion} {lineage : List (PyStr × TaskId)}
    {planned : List PlannedTask} {tasks : List MaterializedTask}
    (h : materializeTasks env plan lineage planned w = .ok tasks w') :
    Quiet w.store w'.store ∧
      tasks.map MaterializedTask.plannedTaskId = planned.map (fun task => task.id) ∧
      (∀ item ∈ tasks, lineage.lookup item.plannedTaskId = some item.taskId ∨
        (lineage.lookup item.plannedTaskId = none ∧
          w.store.runtime.domain.tasks.get? item.taskId = none)) ∧
      ((tasks.filter fun item => (lineage.lookup item.plannedTaskId).isNone).map
        MaterializedTask.taskId).Nodup := by
  induction planned generalizing w tasks with
  | nil =>
      obtain ⟨rfl, rfl⟩ := pure_eq_ok.mp h
      exact ⟨.refl _, rfl, fun item mem => (List.not_mem_nil mem).elim, List.nodup_nil⟩
  | cons first rest ih =>
      obtain ⟨taskId, w₁, choosing, h⟩ := bind_eq_ok.mp h
      obtain ⟨others, w₂, going, h⟩ := bind_eq_ok.mp h
      obtain ⟨rfl, rfl⟩ := pure_eq_ok.mp h
      obtain ⟨before, chosen⟩ := canonicalTask_eq_ok choosing
      obtain ⟨after, named, source, apart⟩ := ih going
      refine ⟨before.trans after, ?_, ?_, ?_⟩
      · simp only [List.map_cons, named]
      · -- What is new after the first task was chosen was not stored before either.
        intro item mem
        rcases List.mem_cons.mp mem with rfl | later
        · exact chosen.imp_right fun new => ⟨new.1, new.2.1⟩
        · refine (source item later).imp_right fun new => ⟨new.1, ?_⟩
          cases old : w.store.runtime.domain.tasks.get? item.taskId with
          | none => rfl
          | some task =>
              obtain ⟨next, kept, -⟩ := before.grown.task old
              cases new.2.symm.trans kept
      · rw [List.filter_cons]
        split
        · next unknown =>
            rcases chosen with known | ⟨-, -, task, present⟩
            · rw [show List.lookup _ lineage = some taskId from known] at unknown
              cases unknown
            · rw [List.map_cons, List.nodup_cons]
              refine ⟨?_, apart⟩
              intro again
              obtain ⟨item, mem, same⟩ := List.mem_map.mp again
              obtain ⟨mem, fresh⟩ := List.mem_filter.mp mem
              rcases source item mem with known | ⟨-, absent⟩
              · rw [known] at fresh
                cases fresh
              · rw [same] at absent
                cases absent.symm.trans present
        · exact apart

/-- The execution of a run is found or started. -/
theorem quiet_ensureExecution (env : Env) (run : OrchestrationRun) :
    Moves quiet (ensureExecution env run) := by
  unfold ensureExecution
  split
  · exact Moves.pure _
  · exact (quiet_newExecution env run none).bind fun _ => Moves.pure _

/-- A stored plan is among the plans of its run. -/
theorem mem_plansOf {tables : OrchestrationTables} {runId : OrchestrationRunId}
    {plan : PlanVersion} :
    plan ∈ tables.plansOf runId ↔ plan ∈ tables.plans.values ∧ plan.orchestrationRunId = runId := by
  unfold OrchestrationTables.plansOf
  rw [List.mem_insertionSort, List.mem_filter, decide_eq_true_eq]

theorem stored_of_mem_plansOf {tables : OrchestrationTables} {runId : OrchestrationRunId}
    {plan : PlanVersion} (mem : plan ∈ tables.plansOf runId) :
    tables.plans.get? plan.key = some plan :=
  Registry.get?_of_mem_values (mem_plansOf.mp mem).1

/-- The plan that `materialize` works on. -/
theorem currentPlan_then {α : Type} {b : α} {run : OrchestrationRun}
    {f : PlanVersion → OrchestrationTxn α} (h : (currentPlan run >>= f) w = .ok b w') :
    ∃ plan, run.status = .running ∧ run.planId = some plan.id ∧
      run.currentPlanVersion = some plan.version ∧ w.store.plans.get? plan.key = some plan ∧
      f plan w = .ok b w' := by
  obtain ⟨plan, v, choosing, rest⟩ := bind_eq_ok.mp h
  unfold currentPlan at choosing
  cases named : run.planId with
  | none =>
      rw [named] at choosing
      cases choosing
  | some planId =>
      cases current : run.currentPlanVersion with
      | none =>
          rw [named, current] at choosing
          cases choosing
      | some version =>
          rw [named, current] at choosing
          by_cases running : run.status = .running
          · simp only [if_pos running] at choosing
            obtain rfl := (reads_getPlan _ _ _).world_eq choosing
            obtain ⟨stored, -⟩ := getPlan_eq_ok choosing
            have key : PlanVersion.key plan = (planId, version) := Registry.key_of_get? stored
            obtain ⟨rfl, rfl⟩ := Prod.mk.inj key
            exact ⟨plan, running, rfl, rfl, stored, rest⟩
          · simp only [if_neg running] at choosing
            cases choosing

/-- What `materialize` answers and changes. -/
theorem materialize_eq_ok {workspaceId : WorkspaceId} {runId : OrchestrationRunId}
    {expected : Version} {m : PlanMaterialization}
    (h : materialize env workspaceId runId expected w = .ok m w') :
    ∃ run plan, w.store.runs.get? runId = some run ∧ run.status = .running ∧
      run.planId = some plan.id ∧ run.currentPlanVersion = some plan.version ∧
      w.store.plans.get? plan.key = some plan ∧
      ((w.store.materializations.get? plan.key = some m ∧ w'.store = w.store) ∨
        (w.store.materializations.get? plan.key = none ∧
          Changes [.quiet, .materialized, .moved] w.store w'.store)) := by
  obtain ⟨run, stored, scope, rest⟩ := getOrchestrationRun_then (atomic_eq_ok.mp h)
  obtain rfl := id_of_stored stored
  obtain ⟨-, h⟩ := raiseIf_then rest
  obtain ⟨plan, running, named, current, planned, h⟩ := currentPlan_then h
  refine ⟨run, plan, stored, running, named, current, planned, ?_⟩
  obtain ⟨goal, -, h⟩ := entityOf_then (E := Goal) h
  obtain ⟨-, h⟩ := raiseIf_then h
  have h := findMaterialization_then planned h
  cases filed : w.store.materializations.get? plan.key with
  | some found =>
      rw [filed] at h
      obtain ⟨rfl, rfl⟩ := pure_eq_ok.mp h
      exact .inl ⟨rfl, rfl⟩
  | none =>
      rw [filed] at h
      refine .inr ⟨rfl, ?_⟩
      have h := getPlans_then h
      have h := priorLineage_then (fun prior mem =>
        stored_of_mem_plansOf (List.dropLast_subset _ mem)) h
      obtain ⟨tasks, w₁, making, h⟩ := bind_eq_ok.mp h
      obtain ⟨before, planned, source, apart⟩ := materializeTasks_eq_ok making
      obtain ⟨executionId, w₂, -, executed, h⟩ := (quiet_ensureExecution env run).then h
      obtain ⟨at', w₃, -, s₃, h⟩ := Idle.then (moves_now env) h
      obtain ⟨made, creating, h⟩ := (reads_checked _).then h
      obtain ⟨_, w₄, added, h⟩ := bind_eq_ok.mp h
      obtain ⟨saved, w₅, saving, h⟩ := bind_eq_ok.mp h
      obtain ⟨_, w₆, -, logged, h⟩ := (quiet_planEvent env plan .planMaterialized).then h
      obtain ⟨rfl, rfl⟩ := pure_eq_ok.mp h
      have fields := PlanMaterialization.create_eq_ok (checked_eq_ok.mp creating).1
      obtain ⟨⟨found, filing⟩, rfl⟩ := addMaterialization_eq_ok added
      have between : Quiet w.store w₃.store := by
        rw [s₃]
        exact before.trans executed
      have key : made.key = plan.key := by
        have planId : made.planId = plan.id := congrArg MaterializationFields.planId fields
        have version : made.planVersion = plan.version :=
          congrArg MaterializationFields.planVersion fields
        unfold PlanMaterialization.key PlanVersion.key
        rw [planId, version]
      have same : found = plan := by
        have stored := filing.stored
        rw [between.plans, key, ‹w.store.plans.get? plan.key = some plan›] at stored
        exact (Option.some.inj stored).symm
      subst same
      have tasksOf : made.tasks = tasks := congrArg MaterializationFields.tasks fields
      have materializing : Materializing found
          (lineageOf w.store (w.store.plansOf run.id).dropLast []) w.store.runtime.domain
          made.tasks := by
        rw [tasksOf]
        exact ⟨planned, source, apart⟩
      have filed : Change w.store .materialized { w₃.store with
          materializations := w₃.store.materializations.put made } :=
        .materialized run found made stored ⟨named, current⟩
          (congrArg MaterializationFields.orchestrationRunId fields) materializing between filing
      have stored : w₃.store.runs.get? run.id = some run := by
        rw [between.runs]
        exact stored
      have moving := (saveChange_saved saving).moved stored ⟨rfl, rfl, rfl, rfl⟩ fun status =>
        .kept status
      exact ((Changes.single (by simp) filed).trans (.single (by simp) moving)).trans
        (.quiet (by simp) logged)

end AgentCompanyOS.Orchestration
