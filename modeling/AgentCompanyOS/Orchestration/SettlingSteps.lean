import AgentCompanyOS.Orchestration.DelegationSteps

/-!
# What settling, resuming and cancelling change

A child that has returned may complete its run. The aggregate counts the results it finds
against the required tasks; since a materialization names a planned task once, an equal
count means that every required task has a result.
-/

set_option autoImplicit false

namespace AgentCompanyOS.Orchestration

open Foundation Foundation.Txn Domain AgentCompanyOS.Runtime

variable {env : Env} {host : OrchestrationHost} {w w' : World OrchestrationStore}

/-! ## Results -/

theorem reads_attemptResult (workspaceId : WorkspaceId) (taskId : TaskId)
    (attempts : List DelegationAttempt) : Reads (attemptResult workspaceId taskId attempts) := by
  induction attempts with
  | nil => exact Reads.pure _
  | cons attempt rest ih =>
      refine (reads_inRuntime (reads_getRun _ _)).bind fun run => ?_
      split
      · exact Reads.pure _
      · exact ih

/-- A result of an attempt is that of a successful agent run. -/
theorem attemptResult_eq_ok {workspaceId : WorkspaceId} {taskId : TaskId}
    {attempts : List DelegationAttempt} {found : TaskResultReference}
    (h : attemptResult workspaceId taskId attempts w = .ok (some found) w') :
    ∃ a ∈ attempts, ∃ child, w.store.runtime.runs.get? a.agentRunId = some child ∧
      child.status = .succeeded ∧ child.result ≠ none := by
  induction attempts generalizing w' with
  | nil => cases h
  | cons attempt rest ih =>
      obtain ⟨run, stored, -, h⟩ := childOf_then h
      by_cases succeeded : run.status = .succeeded ∧ run.result ≠ none
      · exact ⟨attempt, List.mem_cons_self, run, stored, succeeded⟩
      · have later : attemptResult workspaceId taskId rest w = .ok (some found) w' := by
          cases status : run.status <;> cases result : run.result <;> rw [status, result] at h
          all_goals first | exact h | exact (succeeded ⟨status, by simp [result]⟩).elim
        obtain ⟨a, mem, facts⟩ := ih later
        exact ⟨a, List.mem_cons_of_mem _ mem, facts⟩

theorem reads_taskResult (workspaceId : WorkspaceId) (taskId : TaskId) (ds : List Delegation) :
    Reads (taskResult workspaceId taskId ds) := by
  induction ds with
  | nil => exact Reads.pure _
  | cons d rest ih =>
      unfold taskResult
      split
      · exact ih
      · refine (reads_getAttempts _ _).bind fun attempts =>
          (reads_attemptResult _ _ _).bind fun found => ?_
        cases found with
        | some reference => exact Reads.pure _
        | none => exact ih

theorem taskResult_eq_ok {workspaceId : WorkspaceId} {taskId : TaskId} {ds : List Delegation}
    {found : TaskResultReference} (h : taskResult workspaceId taskId ds w = .ok (some found) w') :
    ∃ d ∈ ds, d.taskId = taskId ∧ ∃ a ∈ w.store.attemptsOf d.id,
      ∃ child, w.store.runtime.runs.get? a.agentRunId = some child ∧
        child.status = .succeeded ∧ child.result ≠ none := by
  induction ds with
  | nil => cases h
  | cons d rest ih =>
      have later (h : taskResult workspaceId taskId rest w = .ok (some found) w') :=
        (ih h).imp fun other facts => And.imp_left (List.mem_cons_of_mem d) facts
      unfold taskResult at h
      split at h
      · exact later h
      · next own =>
          have h := getAttempts_then h
          obtain ⟨result, reading, h⟩ := (reads_attemptResult _ _ _).then h
          cases result with
          | none => exact later h
          | some reference =>
              obtain ⟨a, mem, facts⟩ := attemptResult_eq_ok reading
              exact ⟨d, List.mem_cons_self, not_not.mp own, a, List.mem_reverse.mp mem, facts⟩

theorem reads_requiredResults (workspaceId : WorkspaceId) (ds : List Delegation)
    (required : List PyStr) (tasks : List MaterializedTask) :
    Reads (requiredResults workspaceId ds required tasks) := by
  induction tasks with
  | nil => exact Reads.pure _
  | cons item rest ih =>
      unfold requiredResults
      split
      · exact ih
      · exact (reads_taskResult _ _ _).bind fun _ => ih.bind fun _ => Reads.pure _

/-- The results are those of a part of the required tasks, one for each. -/
theorem requiredResults_eq_ok {workspaceId : WorkspaceId} {ds : List Delegation}
    {runId : OrchestrationRunId} (own : ∀ d ∈ ds, d ∈ w.store.delegationsOf runId)
    {required : List PyStr} {tasks : List MaterializedTask} {results : List TaskResultReference}
    (h : requiredResults workspaceId ds required tasks w = .ok results w') :
    ∃ found : List MaterializedTask, found.Sublist tasks ∧ found.length = results.length ∧
      ∀ item ∈ found, item.plannedTaskId ∈ required ∧ w.store.HasResult runId item.taskId := by
  induction tasks generalizing results w' with
  | nil =>
      obtain ⟨rfl, -⟩ := pure_eq_ok.mp h
      exact ⟨[], .slnil, rfl, nofun⟩
  | cons item rest ih =>
      unfold requiredResults at h
      split at h
      · obtain ⟨found, part, length, facts⟩ := ih h
        exact ⟨found, part.cons item, length, facts⟩
      · next named =>
          obtain ⟨result, reading, h⟩ := (reads_taskResult _ _ _).then h
          obtain ⟨others, going, h⟩ := (reads_requiredResults _ _ _ _).then h
          obtain ⟨rfl, -⟩ := pure_eq_ok.mp h
          obtain ⟨found, part, length, facts⟩ := ih going
          cases result with
          | none => exact ⟨found, part.cons item, length, facts⟩
          | some reference =>
              obtain ⟨d, mem, task, attempts⟩ := taskResult_eq_ok reading
              refine ⟨item :: found, part.cons_cons item, congrArg Nat.succ length, ?_⟩
              intro other here
              rcases List.mem_cons.mp here with rfl | later
              · exact ⟨not_not.mp named, d, own d mem, task, attempts⟩
              · exact facts other later

/-- An equal count means that every required task has a result. -/
theorem all_required {s : OrchestrationStore} {runId : OrchestrationRunId}
    {m : PlanMaterialization} {required : List PyStr} {found : List MaterializedTask}
    (part : found.Sublist m.tasks) (length : found.length = required.dedup.length)
    (facts : ∀ item ∈ found, item.plannedTaskId ∈ required ∧ s.HasResult runId item.taskId) :
    ∀ id ∈ required, ∃ item ∈ m.tasks, item.plannedTaskId = id ∧ s.HasResult runId item.taskId := by
  have nodup : (found.map MaterializedTask.plannedTaskId).Nodup :=
    m.unique.sublist (part.map MaterializedTask.plannedTaskId)
  have inside : found.map MaterializedTask.plannedTaskId ⊆ required.dedup := by
    intro id mem
    obtain ⟨item, here, rfl⟩ := List.mem_map.mp mem
    exact List.mem_dedup.mpr (facts item here).1
  have perm : (found.map MaterializedTask.plannedTaskId).Perm required.dedup := by
    refine (List.subperm_of_subset nodup inside).perm_of_length_le ?_
    rw [List.length_map, length]
  intro id mem
  obtain ⟨item, here, named⟩ := List.mem_map.mp (perm.mem_iff.mpr (List.mem_dedup.mpr mem))
  exact ⟨item, part.subset here, named, (facts item here).2⟩

theorem reads_aggregate (workspaceId : WorkspaceId) (runId : OrchestrationRunId) :
    Reads (aggregate workspaceId runId) :=
  (reads_getOrchestrationRun _ _).bind fun run => (reads_getCurrent run).bind fun _ =>
    (reads_getDelegations _ _).bind fun _ => (reads_requiredResults _ _ _ _).bind fun _ =>
    Reads.pure _

theorem aggregate_eq_ok {workspaceId : WorkspaceId} {runId : OrchestrationRunId}
    {draft : GoalResultDraft} (h : aggregate workspaceId runId w = .ok draft w')
    (complete : draft.complete = true) :
    ∃ run plan m, w.store.runs.get? runId = some run ∧ Current w.store run plan m ∧
      ∀ id ∈ plan.required, ∃ item ∈ m.tasks, item.plannedTaskId = id ∧
        w.store.HasResult runId item.taskId := by
  obtain ⟨run, stored, -, rest⟩ := getOrchestrationRun_then h
  obtain rfl := id_of_stored stored
  obtain ⟨plan, m, current, h⟩ := getCurrent_then rest
  have h := getDelegations_then h
  obtain ⟨results, reading, h⟩ := (reads_requiredResults _ _ _ _).then h
  obtain ⟨rfl, -⟩ := pure_eq_ok.mp h
  obtain ⟨found, part, length, facts⟩ :=
    @requiredResults_eq_ok _ _ _ _ run.id (fun d mem => List.mem_reverse.mp mem) _ _ _ reading
  refine ⟨run, plan, m, stored, current, all_required part ?_ facts⟩
  rw [length]
  exact of_decide_eq_true complete

theorem reads_allCompleted (tasks : List MaterializedTask) : Reads (allCompleted tasks) := by
  induction tasks with
  | nil => exact Reads.pure _
  | cons item rest ih =>
      refine (reads_inGoals (reads_getEntity Task _)).bind fun task => ?_
      split
      · exact ih
      · exact Reads.pure _

theorem allCompleted_eq_ok {tasks : List MaterializedTask}
    (h : allCompleted tasks w = .ok true w') :
    ∀ item ∈ tasks, ∃ task, w.store.runtime.domain.tasks.get? item.taskId = some task ∧
      task.status = .completed := by
  induction tasks generalizing w' with
  | nil => exact nofun
  | cons first rest ih =>
      obtain ⟨task, stored, h⟩ := entityOf_then (E := Task) h
      split at h
      · next done =>
          intro item mem
          rcases List.mem_cons.mp mem with rfl | later
          · exact ⟨task, stored, done⟩
          · exact ih h item later
      · cases h

/-! ## What stays when the store grows -/

section Kept

variable {s s' : OrchestrationStore}

theorem mem_delegationsOf {tables : OrchestrationTables} {runId : OrchestrationRunId}
    {d : Delegation} :
    d ∈ tables.delegationsOf runId ↔
      d ∈ tables.delegations.values ∧ d.orchestrationRunId = runId := by
  unfold OrchestrationTables.delegationsOf
  rw [List.mem_filter, decide_eq_true_eq]

theorem Kept.delegation (h : Kept s s') {d : Delegation} (mem : d ∈ s.delegations.values) :
    d ∈ s'.delegations.values := by
  obtain ⟨later, stored, rfl⟩ := h.delegations.later (Registry.get?_of_mem_values mem)
  exact Registry.mem_values_of_get? stored

theorem Kept.plan (h : Kept s s') {key : OrchestrationPlanId × Version} {plan : PlanVersion}
    (stored : s.plans.get? key = some plan) : s'.plans.get? key = some plan := by
  obtain ⟨later, found, rfl⟩ := h.plans.later stored
  exact found

theorem Kept.materialization (h : Kept s s') {key : OrchestrationPlanId × Version}
    {m : PlanMaterialization} (stored : s.materializations.get? key = some m) :
    s'.materializations.get? key = some m := by
  obtain ⟨later, found, rfl⟩ := h.materializations.later stored
  exact found

/-- A successful agent run stays the result of its task. -/
theorem OrchestrationStore.HasResult.kept {runId : OrchestrationRunId} {taskId : TaskId}
    (has : s.HasResult runId taskId) (h : Kept s s') : s'.HasResult runId taskId := by
  obtain ⟨d, mem, task, a, attempt, child, stored, succeeded, result⟩ := has
  obtain ⟨mem, own⟩ := mem_delegationsOf.mp mem
  refine ⟨d, mem_delegationsOf.mpr ⟨h.delegation mem, own⟩, task, a, ?_, child, ?_, succeeded,
    result⟩
  · exact (h.attempts.sublist.filter _).subset attempt
  · exact h.grown.ended_run stored (by rw [succeeded]; rfl)

/-- A run whose work is done has it done in every later store. -/
theorem Done.kept {run next : OrchestrationRun} (done : Done s run) (h : Kept s s')
    (later : run.Later next) (version : next.currentPlanVersion = run.currentPlanVersion) :
    Done s' next := by
  obtain ⟨plan, m, named, current, stored, materialized, tasks, results⟩ := done.tasks
  refine ⟨?_, plan, m, later.planned _ named, version.trans current, h.plan stored,
    h.materialization materialized, fun item mem => h.grown.completed_task (tasks item mem), ?_⟩
  · rw [later.goal]
    exact h.grown.satisfied_goal done.goal
  · intro id required
    obtain ⟨item, mem, planned, has⟩ := results id required
    rw [later.id]
    exact ⟨item, mem, planned, has.kept h⟩

end Kept

/-! ## Completing a run -/

/-- A goal that is satisfied is stored so. -/
theorem satisfyGoal_eq_ok {v v' : World DomainStore} {id : GoalId} {expected : Version}
    {goal : Goal} (h : satisfyGoal env id expected v = .ok goal v') :
    ∃ goal, v'.store.goals.get? id = some goal ∧ goal.status = .satisfied := by
  have h := atomic_eq_ok.mp h
  obtain ⟨self, found, h⟩ := getEntity_then h
  obtain ⟨-, h⟩ := raiseIf_then h
  have h := getStore_then h
  obtain ⟨-, h⟩ := raiseIf_then h
  obtain ⟨_, _, result, made, -, current, event, changed⟩ := transition_tail_eq_ok h
  obtain ⟨status, same, -⟩ := transition_entity made
  have key : self.id = id := Registry.key_of_get? found
  refine ⟨result.entity, ?_, status⟩
  rw [changed.result, ← key, ← show result.entity.id = self.id from same]
  show (v.store.goals.put result.entity).get? (Goal.id result.entity) = some result.entity
  exact Registry.get?_put_self _ result.entity

/-- A run that is completed has its work done. -/
theorem completeRun_eq_ok {run : OrchestrationRun} {plan : PlanVersion} {m : PlanMaterialization}
    {u : Unit} (stored : w.store.runs.get? run.id = some run) (current : Current w.store run plan m)
    (tasks : ∀ item ∈ m.tasks, ∃ task, w.store.runtime.domain.tasks.get? item.taskId = some task ∧
      task.status = .completed)
    (results : ∀ id ∈ plan.required, ∃ item ∈ m.tasks, item.plannedTaskId = id ∧
      w.store.HasResult run.id item.taskId)
    (h : completeRun env run w = .ok u w') :
    Changes [.quiet, .completed] w.store w'.store := by
  obtain ⟨goal, found, h⟩ := entityOf_then (E := Goal) h
  have named : Goal.id goal = run.goalId := Registry.key_of_get? found
  obtain ⟨satisfied, w₁, satisfying, h⟩ := bind_eq_ok.mp h
  obtain ⟨next, w₂, saving, h⟩ := bind_eq_ok.mp h
  have logged : Quiet w₂.store w'.store :=
    ((quiet_orchestrationEvent env next .orchestrationCompleted []).of_ok h).2
  have between : Quiet w.store w₁.store :=
    ((quiet_inGoals env (.satisfyGoal goal.id goal.version) rfl).of_ok satisfying).2
  have closed : ∃ goal, w₁.store.runtime.domain.goals.get? run.goalId = some goal ∧
      goal.status = .satisfied := by
    change inRuntime (inDomain (satisfyGoal env _ _)) w = .ok satisfied w₁ at satisfying
    obtain ⟨v, inner, rfl⟩ := zoom_eq_ok.mp satisfying
    obtain ⟨u, innermost, rfl⟩ := zoom_eq_ok.mp inner
    rw [← named]
    exact satisfyGoal_eq_ok innermost
  have kept := between.kept
  have finished : Done w₁.store run := by
    refine ⟨closed, plan, m, current.planId, current.version, kept.plan current.stored,
      kept.materialization current.materialized,
      fun item mem => kept.grown.completed_task (tasks item mem), ?_⟩
    intro id required
    obtain ⟨item, mem, planned, has⟩ := results id required
    exact ⟨item, mem, planned, has.kept kept⟩
  have stored₁ : w₁.store.runs.get? run.id = some run := by rw [between.runs, stored]
  have saved := saveChange_saved saving
  obtain ⟨at', evolved⟩ := saved.evolved
  have completing : Change w₁.store .completed w₂.store := by
    rw [saved.filed]
    exact .completed run next at' stored₁ evolved finished
  exact ((Changes.quiet (by simp) between).trans (.single (by simp) completing)).trans
    (.quiet (by simp) logged)

theorem completeIfDone_eq_ok {run : OrchestrationRun} {u : Unit}
    (stored : w.store.runs.get? run.id = some run) (h : completeIfDone env run w = .ok u w') :
    Changes [.quiet, .completed] w.store w'.store := by
  obtain ⟨draft, aggregated, h⟩ := (reads_aggregate _ _).then h
  obtain ⟨plan, m, current, h⟩ := getCurrent_then h
  obtain ⟨completed, checking, rest⟩ := (reads_allCompleted _).then h
  by_cases finish : draft.complete = true ∧ completed = true
  · simp only [runIf_of finish] at rest
    obtain ⟨complete, rfl⟩ := finish
    obtain ⟨found, plan', m', present, current', results⟩ := aggregate_eq_ok aggregated complete
    obtain rfl : found = run := Option.some.inj (present.symm.trans stored)
    have samePlan : plan' = plan := by
      have key : plan'.key = plan.key := by
        have planId := current'.planId.symm.trans current.planId
        have version := current'.version.symm.trans current.version
        exact Prod.ext (Option.some.inj planId) (Option.some.inj version)
      have both := current'.stored
      rw [key] at both
      exact Option.some.inj (both.symm.trans current.stored)
    subst samePlan
    have sameM : m' = m := Option.some.inj (current'.materialized.symm.trans current.materialized)
    subst sameM
    exact completeRun_eq_ok stored current (allCompleted_eq_ok checking) results rest
  · simp only [runIf_of_not finish] at rest
    cases rest
    exact .refl _

/-! ## Reconciling a child -/

theorem mem_children {tables : OrchestrationTables} {runId : OrchestrationRunId}
    {id : AgentRunId} :
    id ∈ tables.children runId ↔
      ∃ d ∈ tables.delegationsOf runId, ∃ a ∈ tables.attemptsOf d.id, a.agentRunId = id := by
  unfold OrchestrationTables.children
  simp only [List.mem_flatMap, List.mem_map]

/-- A settled run waits or keeps its status. -/
theorem settledStatus_cases (run : OrchestrationRun) (result : AgentRun) (failures : Nat) :
    (settledStatus run result failures).1 = .waiting ∨
      (settledStatus run result failures).1 = run.status := by
  unfold settledStatus
  split
  · exact .inl rfl
  · split
    · exact .inl rfl
    · exact .inr rfl

/-- The counter after a child was settled. -/
theorem SavedRun.settled_count {s s' : OrchestrationStore} {run next : OrchestrationRun}
    {change : OrchestrationChange} {n : Nat} (h : SavedRun s s' run next change)
    (delta : change.failedDelta = max run.failedAttemptCount n - run.failedAttemptCount) :
    next.failedAttemptCount = max run.failedAttemptCount n := by
  obtain ⟨at', evolved⟩ := h.evolved
  rw [evolved.failedAttemptCount_eq, delta]
  exact Nat.add_sub_cancel' (Nat.le_max_left _ _)

/-- The run right after a child was settled, before the end of the work is looked for. -/
theorem settleChild_eq_ok {current : OrchestrationRun} {result answer : AgentRun}
    (stored : w.store.runs.get? current.id = some current)
    (child : result.id ∈ w.store.children current.id)
    (h : settleChild env current result w = .ok answer w') :
    answer = result ∧ Changes [.quiet, .moved, .completed] w.store w'.store := by
  obtain ⟨failed, counting, h⟩ := (reads_failedChildren _ _).then h
  obtain ⟨updated, w₁, saving, h⟩ := bind_eq_ok.mp h
  obtain ⟨_, w₂, ending, h⟩ := bind_eq_ok.mp h
  obtain ⟨last, -, -, h⟩ := getOrchestrationRun_then h
  obtain ⟨_, w₃, -, logged, h⟩ :=
    (quiet_orchestrationEvent env last .orchestrationChildReconciled _).then h
  obtain ⟨rfl, rfl⟩ := pure_eq_ok.mp h
  refine ⟨rfl, ?_⟩
  obtain ⟨d, mem, -⟩ := mem_children.mp child
  have saved := saveChange_saved saving
  have cause (status : updated.status = (settledStatus current result
      (max current.failedAttemptCount failed)).1) : MoveCause w.store current updated := by
    rcases settledStatus_cases current result (max current.failedAttemptCount failed) with
      waits | same
    · exact .waits (status.trans waits) (.inr (.inr (.inr ⟨d, mem_delegationsOf.mp mem⟩)))
    · exact .kept (status.trans same)
  have moving := saved.moved stored ⟨rfl, rfl, rfl, rfl⟩ cause
    (.inr (saved.settled_count (by rw [← failedChildren_eq_ok counting])))
  have finishing : Changes [.quiet, .completed] w₁.store w₂.store := by
    unfold runIf at ending
    split at ending
    · obtain ⟨at', evolved⟩ := saved.evolved
      have stored₁ := saved.stored
      rw [← evolved.id_eq] at stored₁
      exact completeIfDone_eq_ok stored₁ ending
    · cases ending
      exact .refl _
  have finishing : Changes [.quiet, .moved, .completed] w₁.store w₂.store :=
    finishing.mono (by decide)
  exact ((Changes.single (by simp) moving).trans finishing).trans (.quiet (by simp) logged)

theorem reconcileResult_eq_ok {workspaceId : WorkspaceId} {runId : OrchestrationRunId}
    {result answer : AgentRun}
    (h : reconcileResult env workspaceId runId result w = .ok answer w') :
    answer = result ∧ Changes [.quiet, .moved, .completed] w.store w'.store := by
  obtain ⟨current, stored, -, rest⟩ := getOrchestrationRun_then (atomic_eq_ok.mp h)
  obtain rfl := id_of_stored stored
  obtain ⟨child, -, -, h⟩ := childOf_then rest
  have h := getStore_then h
  obtain ⟨bound, h⟩ := raiseIf_then h
  simp only [not_or, not_not] at bound
  split at h
  · obtain ⟨rfl, rfl⟩ := pure_eq_ok.mp h
    exact ⟨rfl, .refl _⟩
  · obtain ⟨events, -, h⟩ := (reads_getEvents workspaceId).then h
    split at h
    · obtain ⟨rfl, rfl⟩ := pure_eq_ok.mp h
      exact ⟨rfl, .refl _⟩
    · exact settleChild_eq_ok stored bound.2 h

theorem reconcileChild_eq_ok {workspaceId : WorkspaceId} {runId : OrchestrationRunId}
    {agentRunId : AgentRunId} {expected : Version} {answer : AgentRun}
    (h : reconcileChild env workspaceId runId agentRunId expected w = .ok answer w') :
    Changes [.quiet, .moved, .completed] w.store w'.store := by
  obtain ⟨run, -, -, h⟩ := getOrchestrationRun_then (atomic_eq_ok.mp h)
  obtain ⟨-, h⟩ := raiseIf_then h
  obtain ⟨result, -, -, h⟩ := childOf_then h
  obtain ⟨-, h⟩ := raiseIf_then h
  exact (reconcileResult_eq_ok h).2

/-! ## Resuming and handing off -/

theorem quiet_resumedChild (env : Env) (child : AgentRun) (context : SuppliedContext)
    (intentId : Option ActionIntentId) : Moves quiet (resumedChild env child context intentId) := by
  cases intentId with
  | none => exact quiet_resumeRun env _ _ _ _
  | some id => exact (Moves.raiseIf _ _).bind fun _ => Moves.pure _

theorem openResume_eq_ok {workspaceId : WorkspaceId} {runId : OrchestrationRunId}
    {delegationId : DelegationId} {expected : Version} {context : SuppliedContext}
    {intentId : Option ActionIntentId} {answer : AgentRun}
    (h : openResume env workspaceId runId delegationId expected context intentId w =
      .ok answer w') : Changes [.quiet, .left] w.store w'.store := by
  obtain ⟨run, stored, -, rest⟩ := getOrchestrationRun_then (atomic_eq_ok.mp h)
  obtain rfl := id_of_stored stored
  obtain ⟨-, h⟩ := raiseIf_then rest
  obtain ⟨d, -, -, h⟩ := getDelegation_then h
  have h := getAttempts_then h
  obtain ⟨bound, h⟩ := raiseIf_then h
  simp only [not_or, ne_eq, not_not] at bound
  obtain ⟨last, -, h⟩ := need_then h
  obtain ⟨child, -, -, h⟩ := childOf_then h
  obtain ⟨resumed, w₁, -, resuming, h⟩ := (quiet_resumedChild env child context intentId).then h
  obtain ⟨next, w₂, saving, h⟩ := bind_eq_ok.mp h
  obtain ⟨rfl, rfl⟩ := pure_eq_ok.mp h
  have resuming : Quiet w.store w₁.store := resuming
  have stored₁ : w₁.store.runs.get? run.id = some run := by rw [resuming.runs, stored]
  have leaving := (saveChange_saved saving).left stored₁ ⟨rfl, rfl, rfl, rfl⟩ (.inr bound.1)
    (.inl rfl)
  exact (Changes.quiet (by simp) resuming).trans (.single (by simp) leaving)

theorem restoreWaiting_eq_ok {workspaceId : WorkspaceId} {runId : OrchestrationRunId} {u : Unit}
    (h : restoreWaiting env workspaceId runId w = .ok u w') :
    Changes [.quiet, .moved] w.store w'.store := by
  obtain ⟨current, stored, -, rest⟩ := getOrchestrationRun_then (atomic_eq_ok.mp h)
  obtain rfl := id_of_stored stored
  unfold runIf at rest
  split at rest
  · next running =>
      obtain ⟨next, w₁, saving, rest⟩ := bind_eq_ok.mp rest
      obtain ⟨-, rfl⟩ := pure_eq_ok.mp rest
      have moving := (saveChange_saved saving).moved stored ⟨rfl, rfl, rfl, rfl⟩ fun status =>
        .waits status (.inl running)
      exact .single (by simp) moving
  · obtain ⟨-, rfl⟩ := pure_eq_ok.mp rest
    exact .refl _

/-- What the assignment part of `resolve_handoff` has made: the sender's run has ended, the
run goes on, and the task is delegated again. -/
theorem handOff_eq_ok {workspaceId : WorkspaceId} {runId : OrchestrationRunId}
    {senderId : AgentRunId} {senderVersion : Version} {taskId : TaskId}
    {selected : AgentDefinitionVersion} {answer : Option Delegation}
    (h : handOff env host workspaceId runId senderId senderVersion taskId selected w =
      .ok answer w') :
    ∃ yielded mid run, Quiet w.store yielded ∧
      (∃ sender, yielded.runtime.runs.get? senderId = some sender ∧
        sender.status.terminal = true) ∧
      Changes [.left] yielded mid ∧ mid.runs.get? runId = some run ∧ mid.runtime = yielded.runtime ∧
      (∃ task, task.id = taskId ∧ Ready mid run task) ∧
      Delegated mid w'.store run taskId .redelegate answer ∧
      ∃ (v : World OrchestrationStore) (version : Version), v.store = mid ∧
        delegate env host workspaceId runId taskId version .redelegate (some selected) v =
          .ok answer w' := by
  obtain ⟨sender, w₁, yield', h⟩ := bind_eq_ok.mp h
  have yielding : Quiet w.store w₁.store := ((quiet_yieldForHandoff env _ _ _).of_ok yield').2
  have ended : ∃ sender, w₁.store.runtime.runs.get? senderId = some sender ∧
      sender.status.terminal = true := by
    obtain ⟨v, inner, rfl⟩ := zoom_eq_ok.mp yield'
    exact ⟨sender, yieldForHandoff_ended inner⟩
  obtain ⟨current, stored, -, h⟩ := getOrchestrationRun_then h
  obtain ⟨woken, w₂, waking, h⟩ := bind_eq_ok.mp h
  have named : current.id = runId := id_of_stored stored
  have woke : woken.id = runId ∧ Changes [.left] w₁.store w₂.store ∧
      w₂.store.runtime = w₁.store.runtime := by
    unfold wakeForHandoff at waking
    split at waking
    · next waits =>
        have saved := saveChange_saved waking
        obtain ⟨at', evolved⟩ := saved.evolved
        rw [← named] at stored
        have leaving := saved.left stored ⟨rfl, rfl, rfl, rfl⟩ (.inr waits) (.inl rfl)
        exact ⟨evolved.id_eq.trans named, .single (by simp) leaving, saved.runtime⟩
    · obtain ⟨rfl, rfl⟩ := pure_eq_ok.mp waking
      exact ⟨named, .refl _, rfl⟩
  obtain ⟨sameId, left, sameRuntime⟩ := woke
  obtain ⟨delegation, w₃, delegating, h⟩ := bind_eq_ok.mp h
  obtain ⟨-, h⟩ := raiseIf_then h
  obtain ⟨rfl, rfl⟩ := pure_eq_ok.mp h
  obtain ⟨run, present, ready, delegated⟩ := delegate_eq_ok delegating
  rw [sameId] at present delegating
  exact ⟨w₁.store, w₂.store, run, yielding, ended, left, present, sameRuntime, ready, delegated,
    w₂, woken.version, rfl, delegating⟩

/-! ## Cancelling -/

theorem quiet_cancelTasks (env : Env) (tasks : List MaterializedTask) :
    Moves quiet (cancelTasks env tasks) := by
  induction tasks with
  | nil => exact Moves.pure _
  | cons item rest ih =>
      refine (reads_inGoals (reads_getEntity Task _)).moves.bind fun task => ?_
      refine (Moves.runIf fun _ => ?_).bind fun _ => ih
      exact (quiet_inGoals env (.cancelTask task.id task.version) rfl).discard

theorem reads_findMaterialization (workspaceId : WorkspaceId) (plan : PlanVersion) :
    Reads (findMaterialization workspaceId plan) := by
  intro w
  have inner := ((reads_getMaterialization workspaceId plan.id plan.version).bind
    fun found => Reads.pure (some found)) w
  unfold findMaterialization catching
  cases reading : (do
      let found ← getMaterialization workspaceId plan.id plan.version
      pure (some found) : OrchestrationTxn _) w with
  | ok a v =>
      rw [reading] at inner
      exact inner
  | error e v =>
      rw [reading] at inner
      change v = w at inner
      subst inner
      show World.after ((if isNotFound e = true then pure none else raise e :
        OrchestrationTxn (Option PlanMaterialization)) v) = v
      split <;> rfl

theorem quiet_cancelPlans (env : Env) (workspaceId : WorkspaceId) (plans : List PlanVersion) :
    Moves quiet (cancelPlans env workspaceId plans) := by
  induction plans with
  | nil => exact Moves.pure _
  | cons plan rest ih =>
      exact (reads_findMaterialization _ _).moves.bind fun _ =>
        (quiet_cancelTasks env _).bind fun _ => ih

theorem quiet_cancelOwnExecution (env : Env) (run : OrchestrationRun) :
    Moves quiet (cancelOwnExecution env run) := by
  unfold cancelOwnExecution
  cases run.executionId with
  | none => exact Moves.pure _
  | some id =>
      refine (reads_inGoals (reads_getEntity Execution _)).moves.bind fun execution => ?_
      refine Moves.runIf fun _ => ?_
      exact (quiet_inGoals env (.cancelExecution execution.id execution.version) rfl).discard

theorem cancel_eq_ok {workspaceId : WorkspaceId} {runId : OrchestrationRunId}
    {expected : Version} {answer : OrchestrationRun}
    (h : cancel env workspaceId runId expected w = .ok answer w') :
    ∃ run, w.store.runs.get? runId = some run ∧ run.status.terminal = false ∧
      w'.store.runs.get? runId = some answer ∧ answer.status = .cancelled ∧
      Changes [.quiet, .moved] w.store w'.store := by
  obtain ⟨run, stored, -, rest⟩ := getOrchestrationRun_then (atomic_eq_ok.mp h)
  obtain rfl := id_of_stored stored
  obtain ⟨-, h⟩ := raiseIf_then rest
  obtain ⟨open', h⟩ := raiseIf_then h
  have h := getPlans_then h
  obtain ⟨_, w₁, -, planned, h⟩ := (quiet_cancelPlans env _ _).then h
  obtain ⟨_, w₂, -, executed, h⟩ := (quiet_cancelOwnExecution env run).then h
  obtain ⟨goal, -, h⟩ := entityOf_then (E := Goal) h
  have closing : Moves quiet (runIf (goal.status = .active)
      (discard (inGoals (cancelGoal env goal.id goal.version)))) :=
    .runIf fun _ => (quiet_inGoals env (.cancelGoal goal.id goal.version) rfl).discard
  obtain ⟨_, w₃, -, closed, h⟩ := closing.then h
  obtain ⟨cancelled, w₄, saving, h⟩ := bind_eq_ok.mp h
  obtain ⟨_, w₅, -, logged, h⟩ :=
    (quiet_orchestrationEvent env cancelled .orchestrationCancelled []).then h
  obtain ⟨rfl, rfl⟩ := pure_eq_ok.mp h
  have planned : Quiet w.store w₁.store := planned
  have before : Quiet w.store w₃.store := (planned.trans executed).trans closed
  have stored₃ : w₃.store.runs.get? run.id = some run := by rw [before.runs, stored]
  have saved := saveChange_saved saving
  obtain ⟨at', evolved⟩ := saved.evolved
  have moving := saved.moved stored₃ ⟨rfl, rfl, rfl, rfl⟩ fun status => .cancelled status
  refine ⟨run, stored, Bool.not_eq_true _ ▸ open', ?_, evolved.status_eq, ?_⟩
  · rw [Quiet.runs logged]
    exact saved.stored
  · exact ((Changes.quiet (by simp) before).trans (.single (by simp) moving)).trans
      (.quiet (by simp) logged)

end AgentCompanyOS.Orchestration
