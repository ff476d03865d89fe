import AgentCompanyOS.Orchestration.Restraint
import AgentCompanyOS.Orchestration.Width

/-!
# Cancelled orchestrations

`cancel` ends the run, its goal, the execution of the run and the tasks that nobody works
on. It leaves the agent runs of the orchestration and their tasks in progress alone: the
closed goal keeps them from going on.
-/

set_option autoImplicit false

namespace AgentCompanyOS.Orchestration

open Foundation Foundation.Txn Domain AgentCompanyOS.Runtime

/-! ## What the commands of the domain leave -/

section Domain

variable {env : Env} {v : Version} {w w' : World DomainStore}

/-- A task that waits for work: nobody works on it and it has not ended. -/
def isPending (status : TaskStatus) : Bool :=
  status = .proposed || status = .ready || status = .blocked

/-- A stored task is not pending. -/
def TaskSettled (d : DomainStore) (id : TaskId) : Prop :=
  ∀ task, d.tasks.get? id = some task → isPending task.status = false

/-- A stored execution is neither running nor waiting. -/
def ExecutionSettled (d : DomainStore) (id : ExecutionId) : Prop :=
  ∀ execution, d.executions.get? id = some execution →
    execution.status ≠ .running ∧ execution.status ≠ .waiting

theorem cancelTask_eq_ok {id : TaskId} {task : Task} (h : cancelTask env id v w = .ok task w') :
    ∃ after, Task.id after = id ∧ after.status = .cancelled ∧
      w'.store.tasks = w.store.tasks.put after ∧ w'.store.attempts = w.store.attempts := by
  obtain ⟨self, _, _, result, found, made, current, event, changed⟩ :=
    change_eq_ok (atomic_eq_ok.mp h)
  obtain ⟨status, sameId, -⟩ := transition_entity made
  have key : Task.id self = id := Registry.key_of_get? found
  refine ⟨result.entity, Eq.trans sameId key, status, ?_, ?_⟩
  · rw [changed.result]
    rfl
  · rw [changed.result]
    rfl

theorem cancelExecution_eq_ok {id : ExecutionId} {execution : Execution}
    (h : cancelExecution env id v w = .ok execution w') :
    ∃ after, Execution.id after = id ∧ after.status = .cancelled ∧
      w'.store.executions = w.store.executions.put after ∧ w'.store.tasks = w.store.tasks ∧
      w'.store.attempts = w.store.attempts := by
  obtain ⟨self, _, _, result, found, made, current, event, changed⟩ :=
    change_eq_ok (atomic_eq_ok.mp h)
  obtain ⟨status, sameId, -⟩ := transition_entity made
  have key : Execution.id self = id := Registry.key_of_get? found
  refine ⟨result.entity, Eq.trans sameId key, status, ?_, ?_, ?_⟩
  · rw [changed.result]
    rfl
  · rw [changed.result]
    rfl
  · rw [changed.result]
    rfl

theorem cancelGoal_eq_ok {id : GoalId} {goal : Goal}
    (h : cancelGoal env id v w = .ok goal w') :
    ∃ after, Goal.id after = id ∧ after.status = .cancelled ∧
      w'.store.goals = w.store.goals.put after ∧ w'.store.tasks = w.store.tasks ∧
      w'.store.executions = w.store.executions ∧ w'.store.attempts = w.store.attempts := by
  obtain ⟨self, _, _, result, found, made, current, event, changed⟩ :=
    change_eq_ok (atomic_eq_ok.mp h)
  obtain ⟨status, sameId, -⟩ := transition_entity made
  have key : Goal.id self = id := Registry.key_of_get? found
  refine ⟨result.entity, Eq.trans sameId key, status, ?_, ?_, ?_, ?_⟩
  · rw [changed.result]
    rfl
  · rw [changed.result]
    rfl
  · rw [changed.result]
    rfl
  · rw [changed.result]
    rfl

end Domain

/-! ## The loops of `cancel` -/

section Loops

variable {env : Env} {w w' : World OrchestrationStore} {u : Unit}

theorem inGoals_eq_ok {α : Type} {m : DomainTxn α} {a : α} (h : inGoals m w = .ok a w') :
    ∃ v v', m v = .ok a v' ∧ v.store = w.store.runtime.domain ∧
      v'.store = w'.store.runtime.domain ∧ w'.store.runtime.runs = w.store.runtime.runs := by
  change inRuntime (inDomain m) w = .ok a w' at h
  obtain ⟨v, inner, rfl⟩ := zoom_eq_ok.mp h
  obtain ⟨v', innermost, rfl⟩ := zoom_eq_ok.mp inner
  exact ⟨_, v', innermost, rfl, rfl, rfl⟩

/-- What `cancel` leaves as it is: the agent runs with their attempts, and the tasks that
somebody works on or that have ended. -/
structure CancelSpares (s t : RuntimeStore) : Prop where
  agentRuns : t.runs = s.runs
  attempts : t.domain.attempts = s.domain.attempts
  tasks : ∀ id task, s.domain.tasks.get? id = some task → isPending task.status = false →
    t.domain.tasks.get? id = some task

theorem CancelSpares.refl (s : RuntimeStore) : CancelSpares s s :=
  ⟨rfl, rfl, fun _ _ stored _ => stored⟩

theorem CancelSpares.trans {s t u : RuntimeStore} (h : CancelSpares s t)
    (h' : CancelSpares t u) : CancelSpares s u :=
  ⟨h'.agentRuns.trans h.agentRuns, h'.attempts.trans h.attempts,
    fun id task stored settled => h'.tasks id task (h.tasks id task stored settled) settled⟩

/-- A cancelled task was pending. -/
theorem cancelTask_spares {id : TaskId} {v : Version} {task answer : Task}
    (found : w.store.runtime.domain.tasks.get? id = some task)
    (pending : isPending task.status = true)
    (h : inGoals (cancelTask env id v) w = .ok answer w') :
    CancelSpares w.store.runtime w'.store.runtime := by
  obtain ⟨before, later, called, same, same', runs⟩ := inGoals_eq_ok h
  obtain ⟨after, key, -, tasks, attempts⟩ := cancelTask_eq_ok called
  rw [same, same'] at tasks attempts
  refine ⟨runs, attempts, fun other old stored settled => ?_⟩
  rw [tasks, Registry.get?_put, key]
  by_cases here : id = other
  · rw [← here, found] at stored
    obtain rfl := Option.some.inj stored
    rw [pending] at settled
    cases settled
  · rw [if_neg here]
    exact stored

/-- Where a task is not pending before, it is not pending after. -/
def KeepsSettled (s s' : OrchestrationStore) : Prop :=
  ∀ id, TaskSettled s.runtime.domain id → TaskSettled s'.runtime.domain id

theorem cancelTask_settles {id : TaskId} {v : Version} {task : Task}
    (h : inGoals (cancelTask env id v) w = .ok task w') :
    TaskSettled w'.store.runtime.domain id ∧ KeepsSettled w.store w'.store := by
  obtain ⟨before, later, called, same, same', -⟩ := inGoals_eq_ok h
  obtain ⟨after, key, status, tasks, -⟩ := cancelTask_eq_ok called
  rw [same, same'] at tasks
  have settled : isPending after.status = false := by rw [status]; rfl
  constructor
  · intro found stored
    rw [tasks, Registry.get?_put, if_pos key] at stored
    obtain rfl := Option.some.inj stored
    exact settled
  · intro other held found stored
    rw [tasks, Registry.get?_put] at stored
    split at stored
    · obtain rfl := Option.some.inj stored
      exact settled
    · exact held found stored

/-- After the walk no task of the list is pending. -/
theorem cancelTasks_settles {items : List MaterializedTask}
    (h : cancelTasks env items w = .ok u w') :
    (∀ item ∈ items, TaskSettled w'.store.runtime.domain item.taskId) ∧
      KeepsSettled w.store w'.store ∧ CancelSpares w.store.runtime w'.store.runtime := by
  induction items generalizing w with
  | nil =>
      obtain ⟨-, rfl⟩ := pure_eq_ok.mp h
      exact ⟨fun _ mem => (List.not_mem_nil mem).elim, fun _ held => held, .refl _⟩
  | cons item rest ih =>
      obtain ⟨task, found, h⟩ := entityOf_then (E := Task) h
      obtain ⟨_, w₁, first, h⟩ := bind_eq_ok.mp h
      obtain ⟨others, later, spared⟩ := ih h
      have key : Task.id task = item.taskId := Registry.key_of_get? found
      -- The task of this entry is cancelled, or it was not pending.
      have here : TaskSettled w₁.store.runtime.domain item.taskId ∧
          KeepsSettled w.store w₁.store ∧ CancelSpares w.store.runtime w₁.store.runtime := by
        by_cases pending : task.status = .proposed ∨ task.status = .ready ∨ task.status = .blocked
        · rw [runIf_of pending] at first
          obtain ⟨_, first⟩ := discard_eq_ok.mp first
          have waits : isPending task.status = true := by
            rcases pending with status | status | status <;> simp [isPending, status]
          rw [← key] at found ⊢
          obtain ⟨settled, kept⟩ := cancelTask_settles first
          exact ⟨settled, kept, cancelTask_spares found waits first⟩
        · rw [runIf_of_not pending] at first
          cases first
          refine ⟨fun other stored => ?_, fun _ held => held, .refl _⟩
          obtain rfl := Option.some.inj (found.symm.trans stored)
          simpa [isPending, and_assoc] using pending
      constructor
      · intro other mem
        rcases List.mem_cons.mp mem with rfl | old
        · exact later _ here.1
        · exact others other old
      · refine ⟨fun id held => later id (here.2.1 id held), here.2.2.trans spared⟩

/-- After the walk no task that the plans were materialized to is pending. -/
theorem cancelPlans_settles {workspaceId : WorkspaceId} {plans : List PlanVersion}
    (stored : ∀ plan ∈ plans, w.store.plans.get? plan.key = some plan)
    (h : cancelPlans env workspaceId plans w = .ok u w') :
    (∀ plan ∈ plans, ∀ m, w.store.materializations.get? plan.key = some m →
      ∀ item ∈ m.tasks, TaskSettled w'.store.runtime.domain item.taskId) ∧
      KeepsSettled w.store w'.store ∧ CancelSpares w.store.runtime w'.store.runtime := by
  induction plans generalizing w with
  | nil =>
      obtain ⟨-, rfl⟩ := pure_eq_ok.mp h
      exact ⟨fun _ mem => (List.not_mem_nil mem).elim, fun _ held => held, .refl _⟩
  | cons plan rest ih =>
      have h := findMaterialization_then (stored plan List.mem_cons_self) h
      obtain ⟨_, w₁, first, h⟩ := bind_eq_ok.mp h
      have between : Quiet w.store w₁.store := ((quiet_cancelTasks env _).of_ok first).2
      obtain ⟨here, kept, spared⟩ := cancelTasks_settles first
      obtain ⟨others, later, spared'⟩ := ih (fun other mem => by
        rw [between.plans]
        exact stored other (List.mem_cons_of_mem _ mem)) h
      rw [between.materializations] at others
      constructor
      · intro other mem m filed item listed
        rcases List.mem_cons.mp mem with rfl | old
        · rw [filed] at here
          exact later _ (here item listed)
        · exact others other old m filed item listed
      · exact ⟨fun id held => later id (kept id held), spared.trans spared'⟩

/-- The execution of the run is neither running nor waiting afterwards. -/
theorem cancelOwnExecution_settles {run : OrchestrationRun}
    (h : cancelOwnExecution env run w = .ok u w') :
    (∀ id ∈ run.executionId, ExecutionSettled w'.store.runtime.domain id) ∧
      w'.store.runtime.domain.tasks = w.store.runtime.domain.tasks ∧
      CancelSpares w.store.runtime w'.store.runtime := by
  unfold cancelOwnExecution at h
  cases named : run.executionId with
  | none =>
      rw [named] at h
      obtain ⟨-, rfl⟩ := pure_eq_ok.mp h
      exact ⟨fun _ mem => (Option.not_mem_none _ mem).elim, rfl, .refl _⟩
  | some id =>
      rw [named] at h
      obtain ⟨execution, found, h⟩ := entityOf_then (E := Execution) h
      have key : Execution.id execution = id := Registry.key_of_get? found
      by_cases open' : execution.status = .running ∨ execution.status = .waiting
      · rw [runIf_of open'] at h
        obtain ⟨_, h⟩ := discard_eq_ok.mp h
        obtain ⟨before, later, called, same, same', runs⟩ := inGoals_eq_ok h
        obtain ⟨after, sameId, status, executions, tasks, attempts⟩ :=
          cancelExecution_eq_ok called
        rw [same, same'] at executions tasks attempts
        refine ⟨fun other mem settled stored => ?_, tasks, runs, attempts,
          fun other old stored _ => tasks ▸ stored⟩
        obtain rfl := Option.some.inj mem
        rw [executions, Registry.get?_put, if_pos (sameId.trans key)] at stored
        obtain rfl := Option.some.inj stored
        rw [status]
        exact ⟨by decide, by decide⟩
      · rw [runIf_of_not open'] at h
        cases h
        refine ⟨fun other mem settled stored => ?_, rfl, .refl _⟩
        obtain rfl := Option.some.inj mem
        obtain rfl := Option.some.inj (found.symm.trans stored)
        exact not_or.mp open'

end Loops

/-! ## What `cancel` reaches -/

/-- What a cancelled run leaves behind at once. -/
structure CancelReached (s : OrchestrationStore) (run : OrchestrationRun) : Prop where
  stored : s.runs.get? run.id = some run
  cancelled : run.status = .cancelled
  goal : ¬GoalActive s.runtime.domain run.goalId
  /-- Nobody can begin a task that a plan of the run was materialized to. -/
  tasks : ∀ m ∈ s.materializations.values, m.orchestrationRunId = run.id →
    ∀ item ∈ m.tasks, TaskSettled s.runtime.domain item.taskId
  execution : ∀ id ∈ run.executionId, ExecutionSettled s.runtime.domain id

section Reached

variable {env : Env} {w w' : World OrchestrationStore}

/-- The goal is not active once `cancel` has passed it. -/
theorem cancelGoal_settles {goal : Goal} {u : Unit}
    (found : w.store.runtime.domain.goals.get? goal.id = some goal)
    (h : runIf (goal.status = .active) (discard (inGoals (cancelGoal env goal.id goal.version)))
      w = .ok u w') :
    ¬GoalActive w'.store.runtime.domain goal.id ∧
      w'.store.runtime.domain.tasks = w.store.runtime.domain.tasks ∧
      w'.store.runtime.domain.executions = w.store.runtime.domain.executions ∧
      CancelSpares w.store.runtime w'.store.runtime := by
  by_cases active : goal.status = .active
  · rw [runIf_of active] at h
    obtain ⟨_, h⟩ := discard_eq_ok.mp h
    obtain ⟨before, later, called, same, same', runs⟩ := inGoals_eq_ok h
    obtain ⟨after, key, status, goals, tasks, executions, attempts⟩ := cancelGoal_eq_ok called
    rw [same, same'] at goals tasks executions attempts
    refine ⟨?_, tasks, executions, runs, attempts, fun other old stored _ => tasks ▸ stored⟩
    rintro ⟨other, stored, alive⟩
    rw [goals, Registry.get?_put, if_pos key] at stored
    obtain rfl := Option.some.inj stored
    rw [status] at alive
    cases alive
  · rw [runIf_of_not active] at h
    cases h
    refine ⟨?_, rfl, rfl, .refl _⟩
    rintro ⟨other, stored, alive⟩
    obtain rfl := Option.some.inj (found.symm.trans stored)
    exact active alive

/-- An event is filed beside the runtime store. -/
theorem framed_orchestrationEvent (env : Env) (run : OrchestrationRun) (kind : EventType)
    (extra : List (String × PyStr)) :
    Moves (Guarantee.framing OrchestrationStore.runtime)
      (orchestrationEvent env run kind extra) :=
  (moves_fresh env _).bind fun _ => (moves_now env).bind fun _ => (reads_checked _).moves.bind
    fun _ => (reads_checked _).moves.bind fun _ =>
    (reads_checkOrchestrationEvent _).moves.bind fun _ => .modifyStore fun _ => rfl

theorem cancel_reached {workspaceId : WorkspaceId} {runId : OrchestrationRunId}
    {expected : Version} {answer : OrchestrationRun} (materials : Materials w.store)
    (h : cancel env workspaceId runId expected w = .ok answer w') :
    CancelReached w'.store answer ∧ CancelSpares w.store.runtime w'.store.runtime := by
  obtain ⟨run, stored, -, rest⟩ := getOrchestrationRun_then (atomic_eq_ok.mp h)
  obtain rfl := id_of_stored stored
  obtain ⟨-, rest⟩ := raiseIf_then rest
  obtain ⟨-, rest⟩ := raiseIf_then rest
  have rest := getPlans_then rest
  obtain ⟨_, w₁, walked, rest⟩ := bind_eq_ok.mp rest
  obtain ⟨_, w₂, executed, rest⟩ := bind_eq_ok.mp rest
  obtain ⟨goal, found, rest⟩ := entityOf_then (E := Goal) rest
  obtain ⟨_, w₃, closed, rest⟩ := bind_eq_ok.mp rest
  obtain ⟨cancelled, w₄, saving, rest⟩ := bind_eq_ok.mp rest
  obtain ⟨_, w₅, logged, rest⟩ := bind_eq_ok.mp rest
  obtain ⟨rfl, rfl⟩ := pure_eq_ok.mp rest
  have key : Goal.id goal = run.goalId := Registry.key_of_get? found
  rw [← key] at found
  obtain ⟨tasks, -, spared⟩ :=
    cancelPlans_settles (fun plan mem => stored_of_mem_plansOf mem) walked
  obtain ⟨execution, sameTasks, spared'⟩ := cancelOwnExecution_settles executed
  obtain ⟨inactive, sameTasks', sameExecutions, spared''⟩ := cancelGoal_settles found closed
  have saved := saveChange_saved saving
  obtain ⟨at', evolved⟩ := saved.evolved
  have noted := (quiet_orchestrationEvent env cancelled .orchestrationCancelled []).of_ok logged
  have runtime : w₅.store.runtime = w₃.store.runtime :=
    ((framed_orchestrationEvent env cancelled .orchestrationCancelled []).of_ok logged).2.trans
      saved.runtime
  have before : Quiet w.store w₃.store := by
    have first := ((quiet_cancelPlans env _ _).of_ok walked).2
    have second := ((quiet_cancelOwnExecution env run).of_ok executed).2
    have third := Moves.of_ok (.runIf fun _ =>
      (quiet_inGoals env (.cancelGoal goal.id goal.version) rfl).discard) closed
    exact (Quiet.trans first second).trans third.2
  have sameTables : w₅.store.materializations = w.store.materializations := by
    rw [Quiet.materializations noted.2, saved.filed]
    exact before.materializations
  refine ⟨?_, runtime ▸ (spared.trans spared').trans spared''⟩
  constructor
  · rw [Quiet.runs noted.2, evolved.id_eq]
    exact saved.stored
  · exact evolved.status_eq
  · rw [runtime, evolved.goal_eq, ← key]
    exact inactive
  · intro m listed own item mem found' stored'
    rw [sameTables] at listed
    obtain ⟨plan, filed, sameRun, -⟩ := materials.covers m listed
    have planned : plan ∈ w.store.plansOf run.id :=
      mem_plansOf.mpr ⟨Registry.mem_values_of_get? filed,
        sameRun.trans (own.trans evolved.id_eq)⟩
    have planKey : PlanVersion.key plan = m.key := Registry.key_of_get? filed
    rw [runtime, sameTasks', sameTasks] at stored'
    refine tasks plan planned m ?_ item mem found' stored'
    rw [planKey]
    exact Registry.get?_of_mem_values listed
  · intro id mem
    rw [show cancelled.executionId = run.executionId from
      (congrArg OrchestrationFields.executionId evolved.fields).trans rfl] at mem
    rw [runtime]
    intro found' stored'
    rw [sameExecutions] at stored'
    exact execution id mem found' stored'

end Reached

/-! ## Whose goal it is -/

variable {s s' : OrchestrationStore} {kind : ChangeKind} {K : List ChangeKind}

/-- The tasks that a run was materialized to belong to its goal. -/
structure Rooted (s : OrchestrationStore) : Prop where
  plans : ∀ plan ∈ s.plans.values, ∃ run, s.runs.get? plan.orchestrationRunId = some run ∧
    run.goalId = plan.goalId
  tasks : ∀ m ∈ s.materializations.values, ∃ plan, s.plans.get? m.key = some plan ∧
    ∀ item ∈ m.tasks, ∃ task, s.runtime.domain.tasks.get? item.taskId = some task ∧
      task.goalId = plan.goalId

namespace Rooted

theorem empty (runtime : RuntimeStore) : Rooted ⟨.empty, runtime⟩ :=
  ⟨fun _ mem => (List.not_mem_nil mem).elim, fun _ mem => (List.not_mem_nil mem).elim⟩

/-- What is stored stays rooted. -/
theorem grow (h : Rooted s) (kept : Kept s s') :
    (∀ plan ∈ s.plans.values, ∃ run, s'.runs.get? plan.orchestrationRunId = some run ∧
      run.goalId = plan.goalId) ∧
    ∀ m ∈ s.materializations.values, ∃ plan, s'.plans.get? m.key = some plan ∧
      ∀ item ∈ m.tasks, ∃ task, s'.runtime.domain.tasks.get? item.taskId = some task ∧
        task.goalId = plan.goalId := by
  constructor
  · intro plan mem
    obtain ⟨run, stored, goal⟩ := h.plans plan mem
    obtain ⟨later, found, follows⟩ := kept.runs.later stored
    exact ⟨later, found, follows.goal.trans goal⟩
  · intro m mem
    obtain ⟨plan, stored, tasks⟩ := h.tasks m mem
    refine ⟨plan, kept.plan stored, fun item listed => ?_⟩
    obtain ⟨task, found, goal⟩ := tasks item listed
    obtain ⟨next, later, follows⟩ := kept.grown.task found
    have origin := follows.origin
    simp only [Task.origin, Prod.mk.injEq] at origin
    exact ⟨next, later, origin.2.2.1.trans goal⟩

end Rooted

theorem Change.rooted (h : Change s kind s') (rooted : Rooted s) : Rooted s' := by
  have kept := h.kept
  obtain ⟨plans, tasks⟩ := rooted.grow kept
  cases h with
  | quiet between =>
      constructor
      · rw [between.plans]
        exact plans
      · rw [between.materializations]
        exact tasks
  | accepted run next plan replan accepting =>
      obtain ⟨found, filed⟩ := accepting.filed
      refine ⟨fun other mem => ?_, tasks⟩
      rcases Registry.mem_values_put.mp mem with rfl | ⟨old, -⟩
      · obtain ⟨later, stored, follows⟩ := kept.runs.later filed.stored
        exact ⟨later, stored, follows.goal.trans filed.goal⟩
      · exact plans other old
  | materialized run plan m stored current own made between filed =>
      constructor
      · show ∀ plan ∈ Registry.values _, _
        rw [between.plans]
        exact plans
      · intro other mem
        rcases Registry.mem_values_put.mp mem with rfl | ⟨old, -⟩
        · exact ⟨plan, filed.stored, fun item listed => by
            obtain ⟨task, found, -, goal⟩ := filed.tasks item listed
            exact ⟨task, found, goal⟩⟩
        · rw [between.materializations] at old
          exact tasks other old
  | _ => exact ⟨plans, tasks⟩

theorem after_rooted (platform : Platform) (labels : List Label) :
    Rooted (Company.after platform labels).store :=
  after_keeps platform (fun change _ held => change.rooted held) (Rooted.empty _) labels

/-- Agent runs work on tasks of their own goal. -/
def Homes (s : OrchestrationStore) : Prop :=
  ∀ (id : AgentRunId) (run : AgentRun), s.runtime.runs.get? id = some run →
    AtHome s.runtime.domain run

theorem Homes.restrained (homes : Homes s) (h : Restrained s.runtime s'.runtime) : Homes s' := by
  intro id run found
  cases before : s.runtime.runs.get? id with
  | none => exact (h.runs.new found before).2
  | some old =>
      obtain ⟨next, later, goal, task, -⟩ := h.runs.known before
      obtain rfl := Option.some.inj (found.symm.trans later)
      obtain ⟨stored, present, same⟩ := (homes id old before).extends h.domain
      exact ⟨stored, task ▸ present, same.trans goal.symm⟩

/-- The goal of every orchestration is no draft any more. -/
def GoalsBegun (s : OrchestrationStore) : Prop :=
  ∀ (id : OrchestrationRunId) (run : OrchestrationRun), s.runs.get? id = some run →
    GoalBegun s.runtime.domain run.goalId

/-- Where no orchestration is opened, the goals have begun as before. -/
theorem GoalsBegun.changes (begun : GoalsBegun s) (changes : Changes K s s')
    (other : .opened ∉ K) (restrained : Restrained s.runtime s'.runtime) : GoalsBegun s' := by
  intro id run found
  cases before : s.runs.get? id with
  | none =>
      rw [changes.absent other before] at found
      cases found
  | some old =>
      obtain ⟨next, later, follows⟩ := changes.kept.runs.later before
      obtain rfl := Option.some.inj (found.symm.trans later)
      rw [follows.goal]
      exact restrained.begun (begun id old before)

/-- An opened orchestration has found its goal active. -/
theorem openStart_begun {env : Env} {host : OrchestrationHost} {workspaceId : WorkspaceId}
    {goalId : GoalId} {policy : OrchestrationPolicy} {department : Option DepartmentId}
    {answer : OrchestrationRun × OrchestrationRequest} {w w' : World OrchestrationStore}
    (begun : GoalsBegun w.store)
    (h : openStart env host workspaceId goalId policy department w = .ok answer w') :
    GoalsBegun w'.store := by
  have h := atomic_eq_ok.mp h
  obtain ⟨goal, foundGoal, h⟩ := entityOf_then (E := Goal) h
  obtain ⟨active, h⟩ := raiseIf_then h
  obtain ⟨id, w₁, -, s₁, h⟩ := Idle.then (moves_fresh env _) h
  obtain ⟨at', w₂, -, s₂, h⟩ := Idle.then (moves_now env) h
  obtain ⟨organization, w₃, -, s₃, h⟩ := Idle.then (idle_captureOrganization env host _) h
  obtain ⟨made, creating, h⟩ := (reads_checked _).then h
  obtain ⟨_, w₄, added, h⟩ := bind_eq_ok.mp h
  obtain ⟨_, w₅, noted, h⟩ := bind_eq_ok.mp h
  obtain ⟨definitions, w₆, -, s₆, h⟩ := Idle.then (idle_candidates env host made .none) h
  obtain ⟨rfl, rfl⟩ := pure_eq_ok.mp h
  have fields := OrchestrationRun.create_eq_ok (checked_eq_ok.mp creating).1
  have goalId' : made.goalId = goalId := congrArg OrchestrationFields.goalId fields
  obtain ⟨-, -, rfl⟩ := addOrchestrationRun_eq_ok added
  have runs : w₅.store.runs = w₃.store.runs.put made := by
    have logged := (quiet_orchestrationEvent env made .orchestrationStarted []).of_ok noted
    exact Quiet.runs logged.2
  have runtime : w₅.store.runtime = w.store.runtime := by
    have framed := (framed_orchestrationEvent env made .orchestrationStarted []).of_ok noted
    refine framed.2.trans ?_
    show w₃.store.runtime = _
    rw [s₃, s₂, s₁]
  intro other run found
  rw [s₆] at found ⊢
  rw [runs, Registry.get?_put] at found
  rw [runtime]
  split at found
  · obtain rfl := Option.some.inj found
    rw [goalId']
    refine GoalActive.begun ⟨goal, foundGoal, ?_⟩
    by_contra inactive
    exact active (.inr inactive)
  · rw [s₃, s₂, s₁] at found
    exact begun other run found

section Steps

variable {platform : Platform} {c : Company}

/-- What every step keeps about the goals. -/
structure Grounds (s : OrchestrationStore) : Prop where
  begun : GoalsBegun s
  homes : Homes s

theorem step_grounds (sound : c.Sound) (grounds : Grounds c.store) (label : Label) :
    Grounds (c.step platform label).store := by
  have restrained : Restrained c.store.runtime (c.step platform label).store.runtime :=
    company_restrained label
  refine ⟨?_, grounds.homes.restrained restrained⟩
  have changes := step_changes platform sound label
  by_cases opens : .opened ∈ stepKinds c label
  · cases label with
    | command host command =>
        cases command with
        | start workspaceId goalId policy department =>
            have ran : GoalsBegun (c.ran (openStart platform.toEnv host workspaceId goalId policy
                department)).store := by
              cases replied : c.reply (openStart platform.toEnv host workspaceId goalId policy
                  department) with
              | ok answer =>
                  obtain ⟨w', run, same⟩ := reply_eq_ok replied
                  rw [same]
                  exact openStart_begun grounds.begun run
              | error e =>
                  have same : (c.ran (openStart platform.toEnv host workspaceId goalId policy
                      department)).store = c.store := ran_of_error (.atomic _) replied
                  rw [same]
                  exact grounds.begun
            show GoalsBegun (c.issue platform host (.start workspaceId goalId policy
              department)).store
            unfold Company.issue
            dsimp only
            split <;> exact ran
        | _ => simp [stepKinds, commandKinds] at opens
    | advance id answer =>
        have none : .opened ∉ ((c.call? id).map fun call => pointKinds call.point).getD [] := by
          cases c.call? id with
          | none => exact List.not_mem_nil
          | some call =>
              show .opened ∉ pointKinds call.point
              cases call.point <;> simp [pointKinds]
        exact (none opens).elim
    | _ => simp [stepKinds] at opens
  · exact grounds.begun.changes changes opens restrained

theorem after_grounds (platform : Platform) (labels : List Label) :
    Grounds (Company.after platform labels).store := by
  apply after_invariant platform (P := fun c => Grounds c.store)
  · constructor
    · intro id run found
      cases found
    · intro id run found
      cases found
  · exact fun label sound grounds => step_grounds sound grounds label

/-- The agent runs of an orchestration work for its goal. -/
theorem child_goal (labels : List Label) {run : OrchestrationRun} {id : AgentRunId}
    {child : AgentRun}
    (stored : (Company.after platform labels).store.runs.get? run.id = some run)
    (listed : id ∈ (Company.after platform labels).store.children run.id)
    (found : (Company.after platform labels).store.runtime.runs.get? id = some child) :
    child.goalId = run.goalId := by
  have linkage := after_linkage platform labels
  have grounds := after_grounds platform labels
  have rooted := after_rooted platform labels
  have assigned := after_assigned platform labels
  obtain ⟨d, delegated, a, attempted, named⟩ := mem_children.mp listed
  obtain ⟨mem, own⟩ := mem_delegationsOf.mp delegated
  obtain ⟨known, hisOwn⟩ := List.mem_filter.mp attempted
  obtain ⟨d', child', foundD, found', -, taskId, -⟩ := linkage.linked a known
  rw [of_decide_eq_true hisOwn] at foundD
  obtain rfl := Option.some.inj ((Registry.get?_of_mem_values mem).symm.trans foundD)
  rw [named, found] at found'
  obtain rfl := Option.some.inj found'
  -- The task was materialized for a plan of the run, so it belongs to the goal of the run.
  obtain ⟨plan, m, storedPlan, ownPlan, filed, item, here, -, task⟩ := assigned d mem
  have key : PlanMaterialization.key m = (d.planId, d.planVersion) := Registry.key_of_get? filed
  obtain ⟨plan', storedPlan', tasks⟩ := rooted.tasks m (Registry.mem_values_of_get? filed)
  rw [key, storedPlan] at storedPlan'
  obtain rfl := Option.some.inj storedPlan'
  obtain ⟨owner, foundOwner, goal⟩ := rooted.plans plan (Registry.mem_values_of_get? storedPlan)
  rw [ownPlan, own, stored] at foundOwner
  obtain rfl := Option.some.inj foundOwner
  obtain ⟨canonical, foundTask, taskGoal⟩ := tasks item here
  obtain ⟨same, foundSame, home⟩ := grounds.homes id child found
  rw [taskId, ← task, foundTask] at foundSame
  obtain rfl := Option.some.inj foundSame
  exact home.symm.trans (taskGoal.trans goal.symm)

end Steps

/-! ## After the cancellation -/

/-- The run is cancelled, and nothing is delegated or started for it. -/
structure Frozen (runId : OrchestrationRunId) (s t : OrchestrationStore) : Prop where
  cancelled : ∃ last, t.runs.get? runId = some last ∧ last.status = .cancelled
  goal : ∀ first last, s.runs.get? runId = some first → t.runs.get? runId = some last →
    last.goalId = first.goalId
  delegations : t.delegationsOf runId = s.delegationsOf runId
  children : t.children runId = s.children runId

theorem Frozen.refl {runId : OrchestrationRunId}
    (cancelled : ∃ last, s.runs.get? runId = some last ∧ last.status = .cancelled) :
    Frozen runId s s := by
  refine ⟨cancelled, fun first last found stored => ?_, rfl, rfl⟩
  obtain rfl := Option.some.inj (found.symm.trans stored)
  rfl

theorem Frozen.trans {t u : OrchestrationStore} {runId : OrchestrationRunId}
    (h : Frozen runId s t) (h' : Frozen runId t u) : Frozen runId s u := by
  refine ⟨h'.cancelled, fun first last found stored => ?_, h'.delegations.trans h.delegations,
    h'.children.trans h.children⟩
  obtain ⟨mid, between, -⟩ := h.cancelled
  exact (h'.goal mid last between stored).trans (h.goal first mid found between)

/-- A change leaves a cancelled run alone. -/
theorem Change.frozen (h : Change s kind s') {runId : OrchestrationRunId}
    (cancelled : ∃ last, s.runs.get? runId = some last ∧ last.status = .cancelled) :
    Frozen runId s s' := by
  obtain ⟨last, stored, status⟩ := cancelled
  have ended : last.status.terminal = true := by rw [status]; rfl
  obtain ⟨next, later, follows⟩ := h.kept.runs.later stored
  have still : ∃ last, s'.runs.get? runId = some last ∧ last.status = .cancelled :=
    ⟨next, later, (follows.final ended).1.trans status⟩
  have goal (first next : OrchestrationRun) (found : s.runs.get? runId = some first)
      (found' : s'.runs.get? runId = some next) : next.goalId = first.goalId := by
    obtain rfl := Option.some.inj (stored.symm.trans found)
    obtain rfl := Option.some.inj (later.symm.trans found')
    exact follows.goal
  have idle {run : OrchestrationRun} (found : s.runs.get? run.id = some run)
      (running : run.status = .running) : run.id ≠ runId := by
    rintro rfl
    obtain rfl := Option.some.inj (stored.symm.trans found)
    rw [status] at running
    cases running
  have same (delegations : s'.delegations = s.delegations) (attempts : s'.attempts = s.attempts) :
      Frozen runId s s' := by
    have sameDelegations : s'.delegationsOf runId = s.delegationsOf runId := by
      unfold OrchestrationTables.delegationsOf
      rw [delegations]
    refine ⟨still, goal, sameDelegations, ?_⟩
    unfold OrchestrationTables.children OrchestrationTables.attemptsOf
    rw [sameDelegations, attempts]
  by_cases delegates : kind = .delegated
  · cases h with
    | delegated run mode d delegating =>
        have other := idle delegating.stored delegating.running
        have sameDelegations : OrchestrationTables.delegationsOf
            { s.toOrchestrationTables with delegations := s.delegations.put d } runId =
            s.delegationsOf runId := by
          unfold OrchestrationTables.delegationsOf
          rw [Registry.values_put_of_absent delegating.filed.absent, List.filter_append]
          simp [delegating.own, other]
        refine ⟨still, goal, sameDelegations, ?_⟩
        unfold OrchestrationTables.children
        rw [sameDelegations]
        rfl
    | _ => cases delegates
  · by_cases starts : kind = .started
    · cases h with
      | started run next d a child starting =>
          have other := idle starting.stored starting.running
          refine ⟨still, goal, rfl, ?_⟩
          unfold OrchestrationTables.children
          refine List.flatMap_congr fun delegation mem => ?_
          obtain ⟨listed, own⟩ := mem_delegationsOf.mp mem
          have apart : a.delegationId ≠ delegation.id := by
            intro same
            have found := starting.filed.delegation
            rw [same, Registry.get?_of_mem_values listed] at found
            obtain rfl := Option.some.inj found
            exact other (starting.own.symm.trans own)
          unfold OrchestrationTables.attemptsOf
          show ((s.attempts ++ [a]).filter _).map _ = _
          rw [List.filter_append]
          simp [apart]
      | _ => cases starts
    · exact same (h.delegations delegates) (h.attempts starts)

theorem Changes.frozen (h : Changes K s s') {runId : OrchestrationRunId}
    (cancelled : ∃ last, s.runs.get? runId = some last ∧ last.status = .cancelled) :
    Frozen runId s s' :=
  h.keeps (P := fun t => Frozen runId s t)
    (fun {_ _ _} _ change held => held.trans (change.frozen held.cancelled)) (.refl cancelled)

/-- What holds in `t` after the cancellation that `s` is the state after. -/
structure Stopped (platform : Platform) (run : OrchestrationRun) (s t : Company) : Prop where
  frozen : Frozen run.id s.store t.store
  goal : GoalClosed t.store.runtime.domain run.goalId
  /-- A task that nobody worked on stays as the cancellation left it. -/
  tasks : ∀ m ∈ s.store.materializations.values, m.orchestrationRunId = run.id →
    ∀ item ∈ m.tasks, ∀ task, s.store.runtime.domain.tasks.get? item.taskId = some task →
      task.status ≠ .inProgress → t.store.runtime.domain.tasks.get? item.taskId = some task
  /-- An agent run of the goal was there before, and has gone no further. -/
  children : ∀ id child, t.store.runtime.runs.get? id = some child → child.goalId = run.goalId →
    ∃ before, s.store.runtime.runs.get? id = some before ∧ before.Winding child
  own : ∀ id ∈ t.store.children run.id, ∃ child, t.store.runtime.runs.get? id = some child ∧
    child.goalId = run.goalId
  /-- A drive in flight claims no iteration and applies no decision; it goes on to record a
  failure, and the child has ended when that is recorded. -/
  drives : ∀ call loop, (call.point = .claim loop ∨
      ∃ iteration, call.point = .model loop iteration) →
    loop.runId ∈ t.store.children run.id → ∀ input,
      Refused t.runtime.shared call loop (t.runtime.shared.advance platform call input)
  ends : ∀ workspaceId id code cancelled answer w, id ∈ t.store.children run.id →
    failingTxn platform.toEnv workspaceId id code cancelled t.runtime.shared.world =
      .ok answer w → w.store.runs.get? id = some answer ∧ answer.status.terminal = true

section Cancellation

variable {platform : Platform}

/-- Later states, as the runtime store and the tables see them. -/
theorem later_restrained (platform : Platform) (c : Company) (more : List Label) :
    Restrained c.store.runtime (more.foldl (Company.step platform) c).store.runtime := by
  induction more generalizing c with
  | nil => exact .refl _
  | cons label rest ih =>
      have first : Restrained c.store.runtime (c.step platform label).store.runtime :=
        company_restrained label
      exact first.trans (ih _)

theorem later_frozen (platform : Platform) {c : Company} (sound : c.Sound) (more : List Label)
    {runId : OrchestrationRunId}
    (cancelled : ∃ last, c.store.runs.get? runId = some last ∧ last.status = .cancelled) :
    Frozen runId c.store (more.foldl (Company.step platform) c).store := by
  induction more generalizing c with
  | nil => exact .refl cancelled
  | cons label rest ih =>
      have first := (step_changes platform sound label).frozen cancelled
      exact first.trans (ih (step_sound platform sound label) first.cancelled)

theorem failingTxn_ended {env : Env} {workspaceId : WorkspaceId} {id : AgentRunId}
    {code : FailureCode} {cancelled : Bool} {answer : AgentRun} {w w' : World RuntimeStore}
    (h : failingTxn env workspaceId id code cancelled w = .ok answer w') :
    w'.store.runs.get? id = some answer ∧ answer.status.terminal = true := by
  cases code with
  | text code => exact failure_ended h
  | timedOut deadline =>
      obtain ⟨at', w₁, -, -, h⟩ := Idle.then (moves_now env) h
      exact failure_ended h

/-- The state after an accepted cancellation. -/
theorem cancelled_after {labels : List Label} {host : OrchestrationHost}
    {workspaceId : WorkspaceId} {runId : OrchestrationRunId} {expected : Version}
    {answer : OrchestrationRun}
    (accepted : (Company.after platform labels).reply
      (cancel platform.toEnv workspaceId runId expected) = .ok answer) :
    CancelReached (Company.after platform
      (labels ++ [.command host (.cancel workspaceId runId expected)])).store answer ∧
      CancelSpares (Company.after platform labels).store.runtime (Company.after platform
        (labels ++ [.command host (.cancel workspaceId runId expected)])).store.runtime ∧
      answer.id = runId := by
  obtain ⟨w', ran, same⟩ := reply_eq_ok accepted
  obtain ⟨run, stored, -, later, -⟩ := cancel_eq_ok ran
  rw [after_append]
  show CancelReached ((Company.after platform labels).ran _).store answer ∧
    CancelSpares _ ((Company.after platform labels).ran _).store.runtime ∧ _
  rw [same]
  obtain ⟨reached, spared⟩ := cancel_reached (after_materials platform labels) ran
  exact ⟨reached, spared, (Registry.key_of_get? later : OrchestrationRun.key answer = runId)⟩

/-- A cancellation ends the orchestration, its goal, its execution and the tasks that nobody
works on. It leaves the agent runs of the orchestration and the tasks in progress as they
are, but none of the runs is resumed, takes another iteration or succeeds afterwards, and
nothing is delegated or started again. -/
theorem cancellation (platform : Platform) (labels more : List Label) (host : OrchestrationHost)
    (workspaceId : WorkspaceId) (runId : OrchestrationRunId) (expected : Version)
    (answer : OrchestrationRun)
    (accepted : (Company.after platform labels).reply
      (cancel platform.toEnv workspaceId runId expected) = .ok answer) :
    answer.id = runId ∧
    CancelReached (Company.after platform
      (labels ++ [.command host (.cancel workspaceId runId expected)])).store answer ∧
    CancelSpares (Company.after platform labels).store.runtime (Company.after platform
      (labels ++ [.command host (.cancel workspaceId runId expected)])).store.runtime ∧
    Stopped platform answer
      (Company.after platform (labels ++ [.command host (.cancel workspaceId runId expected)]))
      (Company.after platform
        (labels ++ [.command host (.cancel workspaceId runId expected)] ++ more)) := by
  obtain ⟨reached, spared, sameId⟩ := cancelled_after accepted
  refine ⟨sameId, reached, spared, ?_⟩
  have grounds := after_grounds platform
    (labels ++ [.command host (.cancel workspaceId runId expected)])
  have goals := after_grounds platform
    (labels ++ [.command host (.cancel workspaceId runId expected)] ++ more)
  have children := @child_goal platform
    (labels ++ [.command host (.cancel workspaceId runId expected)] ++ more)
  have linkage := after_linkage platform
    (labels ++ [.command host (.cancel workspaceId runId expected)] ++ more)
  have sound := after_sound platform
    (labels ++ [.command host (.cancel workspaceId runId expected)])
  rw [after_append _ _ more] at goals children linkage ⊢
  generalize Company.after platform
    (labels ++ [.command host (.cancel workspaceId runId expected)]) = s at *
  have restrained := later_restrained platform s more
  have frozen := later_frozen platform sound more
    ⟨answer, reached.stored, reached.cancelled⟩
  generalize more.foldl (Company.step platform) s = t at *
  have closed : GoalClosed s.store.runtime.domain answer.goalId :=
    (grounds.begun _ _ reached.stored).closed reached.goal
  have ofGoal (id : AgentRunId) (child : AgentRun)
      (found : t.store.runtime.runs.get? id = some child) (goal : child.goalId = answer.goalId) :
      ∃ before, s.store.runtime.runs.get? id = some before ∧ before.Winding child := by
    cases earlier : s.store.runtime.runs.get? id with
    | none =>
        obtain ⟨open', -⟩ := restrained.runs.new found earlier
        rw [goal] at open'
        exact (open' closed).elim
    | some before =>
        obtain ⟨after, later, sameGoal, -, winding⟩ := restrained.runs.known earlier
        obtain rfl := Option.some.inj (found.symm.trans later)
        refine ⟨before, rfl, winding ?_⟩
        rw [← sameGoal, goal]
        exact closed
  obtain ⟨last, storedLast, -⟩ := frozen.cancelled
  have sameLast : OrchestrationRun.key last = answer.id := Registry.key_of_get? storedLast
  have own (id : AgentRunId) (listed : id ∈ t.store.children answer.id) :
      ∃ child, t.store.runtime.runs.get? id = some child ∧ child.goalId = answer.goalId := by
    obtain ⟨d, -, a, attempted, named⟩ := mem_children.mp listed
    obtain ⟨-, child, -, found, -⟩ := linkage.linked a (List.mem_filter.mp attempted).1
    rw [named] at found
    refine ⟨child, found, ?_⟩
    rw [← sameLast] at listed storedLast
    rw [children storedLast listed found]
    exact frozen.goal answer last reached.stored (sameLast ▸ storedLast)
  constructor
  · exact frozen
  · exact closed.extends restrained.domain
  · intro m listed same item mem task stored progress
    obtain ⟨next, later, follows⟩ := restrained.domain.tasks.later stored
    have settled := reached.tasks m listed same item mem task stored
    rw [later]
    congr 1
    apply follows.final
    cases status : task.status with
    | inProgress => exact (progress status).elim
    | proposed | ready | blocked => simp [isPending, status] at settled
    | completed | failed | cancelled => exact congrArg TaskStatus.allowed status
  · exact ofGoal
  · exact own
  · intro call loop driving listed input
    obtain ⟨child, found, goal⟩ := own _ listed
    refine advance_refused driving found ?_ input
    rw [goal]
    exact closed.extends restrained.domain
  · intro workspaceId' id code cancelled ended w listed failing
    exact failingTxn_ended failing

end Cancellation

/-! ### A cancelled run whose child goes on running -/

section Sample

/-- One task is delegated and started. -/
def startedRun : List Label :=
  plannedRun .default ++ [delegating 11 2 .initial, starting 20 11 2]

/-- The cancellation of the run. -/
def cancelling (version : Nat) : Label :=
  .command soloHost (.cancel sampleWorkspace sampleOrchestration (changed version))

/-- Nothing is in flight: no call of the service and no call of the runtime. -/
def Company.idle (c : Company) : Bool := c.calls.isEmpty && c.runtime.calls.isEmpty

/-- Everything of the run has ended: the tasks that it was materialized to and its agent
runs. -/
def EverythingEnded (s : OrchestrationStore) (runId : OrchestrationRunId) : Prop :=
  (∀ m ∈ s.materializations.values, m.orchestrationRunId = runId → ∀ item ∈ m.tasks,
    ∀ task ∈ s.runtime.domain.tasks.values, task.id = item.taskId →
      task.status ∉ [TaskStatus.proposed, .ready, .inProgress, .blocked]) ∧
  ∀ id ∈ s.children runId, ∀ child ∈ s.runtime.runs.values, child.id = id →
    child.status ∉ [AgentRunStatus.running, .waiting]

/-- The cancellation is accepted while nothing is in flight, and the task and the agent run
that were going on still are afterwards. -/
theorem cancelled_child_running :
    (Company.after numberedPlatform startedRun).idle = true ∧
    ((Company.after numberedPlatform startedRun).reply (cancel numberedPlatform.toEnv
      sampleWorkspace sampleOrchestration (changed 3))).toOption.isSome = true ∧
    (Company.after numberedPlatform (startedRun ++ [cancelling 3])).idle = true ∧
    ¬EverythingEnded (Company.after numberedPlatform (startedRun ++ [cancelling 3])).store
      sampleOrchestration := by
  have run : (Company.after numberedPlatform startedRun).idle = true ∧
      ((Company.after numberedPlatform startedRun).reply (cancel numberedPlatform.toEnv
        sampleWorkspace sampleOrchestration (changed 3))).toOption.isSome = true ∧
      (Company.after numberedPlatform (startedRun ++ [cancelling 3])).idle = true := by
    decide +kernel
  have child : ∃ id ∈ (Company.after numberedPlatform (startedRun ++
        [cancelling 3])).store.children sampleOrchestration,
      ∃ child ∈ (Company.after numberedPlatform (startedRun ++
        [cancelling 3])).store.runtime.runs.values, child.id = id ∧ child.status = .running := by
    decide +kernel
  refine ⟨run.1, run.2.1, run.2.2, fun ended => ?_⟩
  obtain ⟨id, listed, child, stored, same, running⟩ := child
  refine ended.2 id listed child stored same ?_
  rw [running]
  exact List.mem_cons_self

/-- The drive of the child that was going on when its run was cancelled. -/
def driving : Label :=
  .runtime (.open plainHost (.drive sampleWorkspace (numbered .agentRun 30) (changed 0)))

theorem cancelled_child_stopped : ∃ answer : OrchestrationRun,
    answer.id = sampleOrchestration ∧
    CancelReached (Company.after numberedPlatform (startedRun ++ [cancelling 3])).store answer ∧
    CancelSpares (Company.after numberedPlatform startedRun).store.runtime
      (Company.after numberedPlatform (startedRun ++ [cancelling 3])).store.runtime ∧
    Stopped numberedPlatform answer
      (Company.after numberedPlatform (startedRun ++ [cancelling 3]))
      (Company.after numberedPlatform (startedRun ++ [cancelling 3] ++ [driving])) := by
  have returned : ((Company.after numberedPlatform startedRun).reply (cancel
      numberedPlatform.toEnv sampleWorkspace sampleOrchestration
      (changed 3))).toOption.isSome = true := by decide +kernel
  obtain ⟨answer, some⟩ := Option.isSome_iff_exists.mp returned
  cases accepted : (Company.after numberedPlatform startedRun).reply (cancel
      numberedPlatform.toEnv sampleWorkspace sampleOrchestration (changed 3)) with
  | ok answer =>
      exact ⟨answer, cancellation numberedPlatform startedRun [driving] soloHost sampleWorkspace
        sampleOrchestration (changed 3) answer accepted⟩
  | error e =>
      rw [accepted] at some
      cases some

end Sample

end AgentCompanyOS.Orchestration
