import AgentCompanyOS.Runtime.Growth

/-!
# Runs of a closed goal

A failure, an observed result, a dispatch or a retrieval does not take a run to the model
or out of a wait. What does (a claimed iteration, a decision, supplied context, an approved
intent) finds the goal of the run active first, and so does the start of a run. The runs of
a goal that has come to its end can therefore only wind down.
-/

set_option autoImplicit false

namespace AgentCompanyOS.Runtime

open Foundation Foundation.Txn Domain

/-! ## Goals -/

/-- A goal that has come to its end. -/
def GoalClosed (d : DomainStore) (id : GoalId) : Prop :=
  ∃ goal, d.goals.get? id = some goal ∧ GoalStatus.allowed goal.status = []

/-- A goal that is no draft any more. -/
def GoalBegun (d : DomainStore) (id : GoalId) : Prop :=
  ∃ goal, d.goals.get? id = some goal ∧ goal.status ≠ .draft

def GoalActive (d : DomainStore) (id : GoalId) : Prop :=
  ∃ goal, d.goals.get? id = some goal ∧ goal.status = .active

theorem GoalActive.open {d : DomainStore} {id : GoalId} (active : GoalActive d id) :
    ¬GoalClosed d id := by
  rintro ⟨goal, found, closed⟩
  obtain ⟨other, same, status⟩ := active
  obtain rfl := Option.some.inj (found.symm.trans same)
  rw [status] at closed
  cases closed

theorem GoalActive.begun {d : DomainStore} {id : GoalId} (active : GoalActive d id) :
    GoalBegun d id := by
  obtain ⟨goal, found, status⟩ := active
  refine ⟨goal, found, ?_⟩
  rw [status]
  intro draft
  cases draft

/-- A closed goal stays closed. -/
theorem GoalClosed.extends {d d' : DomainStore} {id : GoalId} (closed : GoalClosed d id)
    (extends' : Extends d d') : GoalClosed d' id := by
  obtain ⟨goal, found, final⟩ := closed
  obtain ⟨next, later, follows⟩ := extends'.goals.later found
  obtain rfl := follows.final final
  exact ⟨_, later, final⟩

/-- A goal that has begun and is not active has come to its end. -/
theorem GoalBegun.closed {d : DomainStore} {id : GoalId} (begun : GoalBegun d id)
    (inactive : ¬GoalActive d id) : GoalClosed d id := by
  obtain ⟨goal, found, status⟩ := begun
  refine ⟨goal, found, ?_⟩
  cases stored : goal.status with
  | draft => exact (status stored).elim
  | active => exact (inactive ⟨goal, found, stored⟩).elim
  | satisfied => rfl
  | closedUnsatisfied => rfl
  | cancelled => rfl

/-- No call makes a draft of a goal that has begun. -/
theorem Accepted.begun {store : DomainStore} {call : StoreCall}
    (accepted : Domain.Accepted store call) {id : GoalId} (begun : GoalBegun store id) :
    GoalBegun (call.result store) id := by
  obtain ⟨goal, found, status⟩ := begun
  cases accepted with
  | addGoal addable referenced =>
      rename_i entity event
      have other : Goal.id entity ≠ id := by
        rintro rfl
        cases addable.absent.symm.trans found
      exact ⟨goal, (Registry.get?_put_ne _ other).trans found, status⟩
  | saveGoal current savable =>
      rename_i entity v transition event
      by_cases same : Goal.id entity = id
      · refine ⟨entity, ?_, ?_⟩
        · rw [← same]
          exact Registry.get?_put_self _ entity
        · have legal : entity.status ∈ GoalStatus.allowed current.status := savable.legal
          intro draft
          rw [draft] at legal
          cases before : current.status <;> simp [before, GoalStatus.allowed] at legal
      · exact ⟨goal, (Registry.get?_put_ne _ same).trans found, status⟩
  | _ => exact ⟨goal, found, status⟩

section Writes

variable {K : List Kind} {s s' : RuntimeStore} {id : GoalId}

theorem Write.begun_goal (write : Write K s s') (begun : GoalBegun s.domain id) :
    GoalBegun s'.domain id := by
  cases write with
  | domain command allowed _ d served =>
      obtain ⟨call, accepted, -⟩ := served
      exact Accepted.begun accepted begun
  | _ => exact begun

theorem writes_begun (moved : Relation.ReflTransGen (Write K) s s')
    (begun : GoalBegun s.domain id) : GoalBegun s'.domain id :=
  writes_induct (P := fun t => GoalBegun t.domain id) (fun write h => write.begun_goal h) moved
    begun

theorem Effect.begun_goal {platform : Platform} {w w' : World RuntimeStore}
    (h : Effect platform w w') (begun : GoalBegun w.store.domain id) :
    GoalBegun w'.store.domain id := by
  cases h with
  | wrote later moved => exact writes_begun moved begun
  | dispatched later host runId expected d governed v facts =>
      rw [facts.domain_eq]
      exact begun
  | operated later change =>
      obtain ⟨o, same⟩ := change.tables
      rw [same]
      exact begun

end Writes

/-! ## Runs -/

/-- A later record of a run that has gone no further: no iteration more, not running again
and not succeeded. -/
structure AgentRun.Winding (before after : AgentRun) : Prop where
  iteration : after.workingState.iteration = before.workingState.iteration
  still : before.status ≠ .running → after.status ≠ .running
  succeeded : after.status = .succeeded → before.status = .succeeded

namespace AgentRun.Winding

theorem refl (run : AgentRun) : run.Winding run := ⟨rfl, id, id⟩

theorem trans {a b c : AgentRun} (h : a.Winding b) (h' : b.Winding c) : a.Winding c :=
  ⟨h'.iteration.trans h.iteration, fun still => h'.still (h.still still),
    fun succeeded => h.succeeded (h'.succeeded succeeded)⟩

end AgentRun.Winding

/-- The task of a run belongs to the goal of the run. -/
def AtHome (d : DomainStore) (run : AgentRun) : Prop :=
  ∃ task, d.tasks.get? run.taskId = some task ∧ task.goalId = run.goalId

theorem AtHome.extends {d d' : DomainStore} {run : AgentRun} (home : AtHome d run)
    (extends' : Extends d d') : AtHome d' run := by
  obtain ⟨task, found, goal⟩ := home
  obtain ⟨next, later, follows⟩ := extends'.tasks.later found
  have origin := follows.origin
  simp only [Task.origin, Prod.mk.injEq] at origin
  exact ⟨next, later, origin.2.2.1.trans goal⟩

/-- What the services do to the runs of closed goals: a stored run winds down, and none is
started. -/
structure RunsHeld (s s' : RuntimeStore) : Prop where
  known : ∀ {id : AgentRunId} {before : AgentRun}, s.runs.get? id = some before →
    ∃ after, s'.runs.get? id = some after ∧ after.goalId = before.goalId ∧
      after.taskId = before.taskId ∧ (GoalClosed s.domain before.goalId → before.Winding after)
  new : ∀ {id : AgentRunId} {run : AgentRun}, s'.runs.get? id = some run →
    s.runs.get? id = none → ¬GoalClosed s.domain run.goalId ∧ AtHome s'.domain run

namespace RunsHeld

variable {s s' s'' : RuntimeStore}

theorem of_eq (same : s'.runs = s.runs) : RunsHeld s s' := by
  constructor
  · intro id before found
    exact ⟨before, same ▸ found, rfl, rfl, fun _ => .refl before⟩
  · intro id run found absent
    rw [same] at found
    cases absent.symm.trans found

theorem trans (first' : Extends s.domain s'.domain) (second' : Extends s'.domain s''.domain)
    (h : RunsHeld s s') (h' : RunsHeld s' s'') : RunsHeld s s'' := by
  constructor
  · intro id before found
    obtain ⟨mid, later, goal, task, first⟩ := h.known found
    obtain ⟨after, latest, goal', task', second⟩ := h'.known later
    refine ⟨after, latest, goal'.trans goal, task'.trans task,
      fun closed => (first closed).trans ?_⟩
    apply second
    rw [goal]
    exact closed.extends first'
  · intro id run found absent
    cases between : s'.runs.get? id with
    | none =>
        obtain ⟨open', home⟩ := h'.new found between
        exact ⟨fun closed => open' (closed.extends first'), home⟩
    | some mid =>
        obtain ⟨after, later, goal, task, -⟩ := h'.known between
        obtain rfl := Option.some.inj (found.symm.trans later)
        obtain ⟨open', home⟩ := h.new between absent
        obtain ⟨stored, present, same⟩ := home.extends second'
        rw [goal]
        exact ⟨open', stored, task ▸ present, same.trans goal.symm⟩

/-- A stored run that is saved. -/
theorem of_found {runId : AgentRunId} {previous run : AgentRun} {at' : Instant}
    {change : RunChange} (found : s.runs.get? runId = some previous)
    (stored : s'.runs = s.runs.put run) (evolved : AgentRun.Evolved previous run at' change)
    (winding : GoalClosed s.domain previous.goalId → previous.Winding run) : RunsHeld s s' := by
  have key : AgentRun.key run = runId :=
    evolved.id.trans (Registry.key_of_get? (x := previous) found)
  constructor
  · intro id before present
    rw [stored]
    by_cases same : AgentRun.key run = id
    · subst same
      rw [key, found] at present
      obtain rfl := Option.some.inj present
      have goal : run.goalId = previous.goalId :=
        (congrArg RunFields.goalId evolved.fields).trans rfl
      have task : run.taskId = previous.taskId :=
        (congrArg RunFields.taskId evolved.fields).trans rfl
      exact ⟨run, Registry.get?_put_self _ _, goal, task, winding⟩
    · exact ⟨before, (Registry.get?_put_ne _ same).trans present, rfl, rfl,
        fun _ => .refl before⟩
  · intro id other present absent
    have different : AgentRun.key run ≠ id := by
      rintro rfl
      rw [key, found] at absent
      cases absent
    rw [stored, Registry.get?_put_ne _ different, absent] at present
    cases present

/-- A stored run of an active goal that is saved. -/
theorem of_active {runId : AgentRunId} {previous run : AgentRun} {at' : Instant}
    {change : RunChange} (found : s.runs.get? runId = some previous)
    (active : GoalActive s.domain previous.goalId) (stored : s'.runs = s.runs.put run)
    (evolved : AgentRun.Evolved previous run at' change) : RunsHeld s s' :=
  .of_found found stored evolved fun closed => (active.open closed).elim

end RunsHeld

/-! ## Services that take no run further -/

/-- A saved run without a new status that has claimed nothing. -/
theorem AgentRun.Evolved.winding {previous run : AgentRun} {at' : Instant} {change : RunChange}
    (evolved : AgentRun.Evolved previous run at' change)
    (iteration : run.workingState.iteration = previous.workingState.iteration)
    (halting : ∀ status ∈ change.status,
      status = .waiting ∨ status = .failed ∨ status = .cancelled) : previous.Winding run := by
  have status := evolved.status_eq
  cases changed : change.status with
  | none =>
      rw [changed] at status
      have same : run.status = previous.status := status
      exact ⟨iteration, fun still => same ▸ still, fun succeeded => same ▸ succeeded⟩
  | some next =>
      rw [changed] at status
      have same : run.status = next := status
      have halts := halting next changed
      rw [← same] at halts
      refine ⟨iteration, fun _ running => ?_, fun succeeded => ?_⟩
      · rw [running] at halts
        simp at halts
      · rw [succeeded] at halts
        simp at halts

/-- The services that take no run further. -/
abbrev haltingServices : List Service := [.dispatch, .observe, .fail, .retrieve]

theorem RunStep.winding {s s' : RuntimeStore} {previous run : AgentRun} {service : Service}
    (step : RunStep s s' previous run service) (halting : service ∈ haltingServices) :
    previous.Winding run := by
  have iteration := step.iteration_eq (by rintro rfl; simp at halting)
  cases step with
  | dispatched at' evolved => exact evolved.winding iteration (fun _ given => by cases given)
  | observed at' o evolved => exact evolved.winding iteration (fun _ given => by cases given)
  | retrieved at' evidence memory evolved =>
      exact evolved.winding iteration (fun _ given => by cases given)
  | failed at' code cancelled o evolved ended =>
      refine evolved.winding iteration fun status given => ?_
      obtain rfl := Option.some.inj given
      show failedStatus cancelled = _ ∨ _
      unfold failedStatus
      split <;> simp
  | claimed | approval | decided | supplied => simp at halting

/-- What such services do. -/
theorem RunsHeld.of_effect {S : List Service} {s s' : RuntimeStore} (effect : RunsEffect S s s')
    (halting : ∀ service ∈ S, service ∈ haltingServices) : RunsHeld s s' := by
  cases effect with
  | same runs => exact .of_eq runs
  | started allowed run facts stored => simpa using halting _ allowed
  | saved service allowed previous run present stored step =>
      obtain ⟨at', change, evolved⟩ := step.evolved
      exact .of_found present stored evolved fun _ => step.winding (halting _ allowed)

/-! ## Transactions that take a run further -/

section Transactions

variable {platform : Platform} {host : Host} {workspaceId : WorkspaceId} {runId : AgentRunId}
  {w w' : World RuntimeStore}

/-- The parents of a run are active only with its goal. -/
theorem runParents_active {run : AgentRun} {waiting : Bool} {parents : RuntimeSnapshot}
    (h : runParents run waiting w = .ok parents w') : GoalActive w.store.domain run.goalId := by
  obtain ⟨attempt, -, h⟩ := entity_then (E := TaskAttempt) h
  obtain ⟨task, -, h⟩ := entity_then (E := Task) h
  obtain ⟨execution, -, h⟩ := entity_then (E := Execution) h
  obtain ⟨goal, found, h⟩ := entity_then (E := Goal) h
  obtain ⟨_, -, h⟩ := (reads_forEach fun _ => Reads.raiseIf _ _).then h
  obtain ⟨-, h⟩ := raiseIf_then h
  obtain ⟨active, h⟩ := raiseIf_then h
  simp only [not_or, not_not] at active
  exact ⟨goal, found, active.2.2.2⟩

theorem driveToolAction_active {ports : PortAnswers} {iteration : ClaimedIteration}
    {decision : ModelDecision} {answer : Action × Version} {run : AgentRun}
    (found : w.store.runs.get? runId = some run)
    (h : driveToolAction platform.toEnv host ports workspaceId runId iteration decision w =
      .ok answer w') : GoalActive w.store.domain run.goalId := by
  have h := atomic_eq_ok.mp h
  obtain ⟨current, w₁, present, -, s₁, h⟩ := currentIteration_then h
  obtain ⟨parents, active, -⟩ := (reads_runParents current false).then h
  obtain rfl := Option.some.inj (found.symm.trans present)
  have active := runParents_active active
  rw [s₁] at active
  exact active

theorem driveAction_active {ports : PortAnswers} {iteration : ClaimedIteration}
    {decision : ModelDecision} {updated run : AgentRun}
    (found : w.store.runs.get? runId = some run)
    (h : driveAction platform host ports workspaceId runId iteration decision w =
      .ok updated w') : GoalActive w.store.domain run.goalId := by
  have h := atomic_eq_ok.mp h
  obtain ⟨current, w₁, present, -, s₁, h⟩ := currentIteration_then h
  obtain ⟨_, -, h⟩ := (reads_parentVersions current).then h
  obtain ⟨-, h⟩ := raiseIf_then h
  obtain ⟨parents, active, -⟩ := (reads_runParents current false).then h
  obtain rfl := Option.some.inj (found.symm.trans present)
  have active := runParents_active active
  rw [s₁] at active
  exact active

theorem driveClaim_active {ports : PortAnswers} {iteration : ClaimedIteration} {run : AgentRun}
    (found : w.store.runs.get? runId = some run)
    (h : driveClaim platform host ports workspaceId runId w = .ok iteration w') :
    GoalActive w.store.domain run.goalId := by
  have h := atomic_eq_ok.mp h
  obtain ⟨current, present, -, h⟩ := getRun_then h
  obtain ⟨snapshot, parents, -⟩ := (reads_runParents current false).then h
  obtain rfl := Option.some.inj (found.symm.trans present)
  exact runParents_active parents

theorem driveClaim_held {ports : PortAnswers} {iteration : ClaimedIteration}
    (h : driveClaim platform host ports workspaceId runId w = .ok iteration w') :
    RunsHeld w.store w'.store := by
  obtain ⟨run, at', found, -, evolved, stored⟩ := driveClaim_runs h
  exact .of_active found (driveClaim_active found h) stored evolved

theorem driveAction_held {ports : PortAnswers} {iteration : ClaimedIteration}
    {decision : ModelDecision} {updated : AgentRun}
    (h : driveAction platform host ports workspaceId runId iteration decision w =
      .ok updated w') : RunsHeld w.store w'.store := by
  obtain ⟨current, _, _, _, _, _, taken⟩ := driveAction_eq_ok h
  obtain ⟨stored, step⟩ := taken.step
  obtain ⟨at', change, evolved⟩ := step.evolved
  exact .of_active taken.found (driveAction_active taken.found h) stored evolved

theorem resumeWith_held {env : Env} {run updated : AgentRun} {context : SuppliedContext}
    (found : w.store.runs.get? runId = some run)
    (h : resumeWith env run context w = .ok updated w') : RunsHeld w.store w'.store := by
  obtain ⟨⟨at', o, evolved⟩, stored⟩ := resumeWith_runs h
  obtain ⟨-, h⟩ := raiseIf_then h
  obtain ⟨_, w₁, -, s₁, h⟩ := Idle.then (moves_now env) h
  obtain ⟨changed, evolving, h⟩ := (reads_checked _).then h
  obtain ⟨snapshot, parents, -⟩ := (reads_runParents changed true).then h
  have active := runParents_active parents
  have goal : changed.goalId = run.goalId :=
    (congrArg RunFields.goalId
      (AgentRun.evolve_eq_ok (checked_eq_ok.mp evolving).1).fields).trans rfl
  rw [s₁, goal] at active
  exact .of_active found active stored evolved

theorem resumeRun_held {env : Env} {expected : Version} {context : SuppliedContext}
    {updated : AgentRun}
    (h : resumeRun env workspaceId runId expected context w = .ok updated w') :
    RunsHeld w.store w'.store := by
  have h := atomic_eq_ok.mp h
  obtain ⟨run, found, -, h⟩ := getRun_then h
  obtain ⟨-, h⟩ := raiseIf_then h
  obtain ⟨-, h⟩ := raiseIf_then h
  obtain ⟨-, h⟩ := raiseIf_then h
  obtain ⟨_, w₁, -, s₁, h⟩ := Idle.then (moves_now env) h
  rw [← s₁] at found ⊢
  split at h
  · exact .of_effect (failure_effect h) (by simp)
  · exact resumeWith_held found h

/-- The parents of a tool call are active only with the goal of its run. -/
theorem toolParents_active {run : AgentRun} {versions : List Version}
    (h : toolParents run w = .ok versions w') : GoalActive w.store.domain run.goalId := by
  obtain ⟨goal, found, h⟩ := entity_then (E := Goal) h
  obtain ⟨task, -, h⟩ := entity_then (E := Task) h
  obtain ⟨attempt, -, h⟩ := entity_then (E := TaskAttempt) h
  obtain ⟨execution, -, h⟩ := entity_then (E := Execution) h
  obtain ⟨active, h⟩ := raiseIf_then h
  simp only [not_or, not_not] at active
  exact ⟨goal, found, active.2.2.2.2.2.2.2.2.1⟩

theorem invokeClaim_held {action : Action} {expected : Version} {result : ClaimResult}
    (h : invokeClaim platform host workspaceId runId action expected w = .ok result w') :
    RunsHeld w.store w'.store := by
  rcases invokeClaim_fresh h with rfl | ⟨run, toolId, raw, invocations, found, h⟩
  · exact .of_eq rfl
  · obtain ⟨service, -, updated, step, stored⟩ := invokeFresh_runs h
    obtain ⟨at', change, evolved⟩ := step.evolved
    obtain ⟨-, h⟩ := raiseIf_then h
    obtain ⟨-, h⟩ := raiseIf_then h
    obtain ⟨-, h⟩ := raiseIf_then h
    obtain ⟨versions, parents, -⟩ := (reads_toolParents run).then h
    exact .of_active found (toolParents_active parents) stored evolved

theorem resumeOpen_held {intentId : ActionIntentId} {expected : Version}
    {result : Option (AgentRun × Action)}
    (h : resumeOpen platform host workspaceId runId intentId expected w = .ok result w') :
    RunsHeld w.store w'.store := by
  rcases resumeOpen_runs h with runs | ⟨run, updated, at', record, action, execution, v, found,
    checks, evolved, stored⟩
  · exact .of_eq runs
  · refine .of_active found ?_ stored evolved
    obtain ⟨resolved, -, checks⟩ := (reads_resolve host _ _).then checks
    obtain ⟨request, -, checks⟩ := (reads_validated _).then checks
    obtain ⟨-, checks⟩ := raiseIf_then checks
    obtain ⟨_, w₁, -, s₁, checks⟩ := Idle.then (moves_now platform.toEnv) checks
    obtain ⟨-, checks⟩ := raiseIf_then checks
    obtain ⟨_, w₂, -, s₂, checks⟩ :=
      Idle.then (idle_validate platform host record run action _ _) checks
    obtain ⟨_, w₃, -, s₃, checks⟩ := Idle.then (idle_allowed platform.toEnv record) checks
    obtain ⟨-, checks⟩ := raiseIf_then checks
    obtain ⟨execution, -, checks⟩ := entity_then (E := Execution) checks
    obtain ⟨goal, stored', checks⟩ := entity_then (E := Goal) checks
    obtain ⟨active, -⟩ := raiseIf_then checks
    rw [s₃, s₂, s₁] at stored'
    exact ⟨goal, stored', not_not.mp active⟩

theorem resumeRestore_held {intentId : ActionIntentId} {resumed : Version} {u : Unit}
    (h : resumeRestore platform workspaceId runId intentId resumed w = .ok u w') :
    RunsHeld w.store w'.store := by
  rcases resumeRestore_runs h with runs | ⟨run, updated, at', found, evolved, stored⟩
  · exact .of_eq runs
  · refine .of_found found stored evolved fun _ => evolved.winding ?_ fun status given => ?_
    · rw [evolved.workingState_eq]
      rfl
    · exact .inl (Option.some.inj given).symm

/-- A started run has found its goal active. -/
theorem startRun_held {command : StartCommand} {run : AgentRun}
    (h : startRun platform.toEnv host command w = .ok run w') : RunsHeld w.store w'.store := by
  have effect := startRun_effect h
  obtain ⟨absent, stored, -⟩ := startRun_eq_ok h
  have h := atomic_eq_ok.mp h
  obtain ⟨definition, -, h⟩ := (reads_getDefinition _ _ _).then h
  obtain ⟨attempt, -, h⟩ := entity_then (E := TaskAttempt) h
  obtain ⟨task, foundTask, h⟩ := entity_then (E := Task) h
  obtain ⟨-, h⟩ := raiseIf_then h
  obtain ⟨id, w₁, -, s₁, h⟩ := Idle.then (moves_fresh platform.toEnv _) h
  obtain ⟨createdAt, w₂, -, s₂, h⟩ := Idle.then (moves_now platform.toEnv) h
  obtain ⟨startedAt, w₃, -, s₃, h⟩ := Idle.then (moves_now platform.toEnv) h
  obtain ⟨made, creating, h⟩ := (reads_checked _).then h
  obtain ⟨parents, found, h⟩ := (reads_runParents made false).then h
  obtain ⟨_, w₄, -, h⟩ := bind_eq_ok.mp h
  obtain ⟨_, w₅, -, h⟩ := bind_eq_ok.mp h
  obtain ⟨rfl, rfl⟩ := pure_eq_ok.mp h
  have active := runParents_active found
  rw [s₃, s₂, s₁] at active
  have fields := AgentRun.create_eq_ok (checked_eq_ok.mp creating).1
  have sameTask : made.taskId = task.id := congrArg RunFields.taskId fields
  have sameGoal : made.goalId = task.goalId := congrArg RunFields.goalId fields
  cases effect with
  | same runs =>
      rw [runs, absent] at stored
      cases stored
  | saved service allowed previous run present stored step =>
      obtain rfl := List.mem_singleton.mp allowed
      cases step
  | started allowed new facts put =>
      rw [put, Registry.get?_put] at stored
      split at stored
      · obtain rfl := Option.some.inj stored
        constructor
        · intro id before present
          have other : AgentRun.key new ≠ id := by
            rintro rfl
            cases facts.absent.symm.trans present
          rw [put, Registry.get?_put_ne _ other]
          exact ⟨before, present, rfl, rfl, fun _ => .refl before⟩
        · intro id other present missing
          rw [put, Registry.get?_put] at present
          split at present
          · obtain rfl := Option.some.inj present
            refine ⟨active.open, task, ?_, sameGoal.symm⟩
            have key : Task.id task = attempt.taskId := Registry.key_of_get? foundTask
            rw [facts.domain, sameTask, key]
            exact foundTask
          · cases missing.symm.trans present
      · cases absent.symm.trans stored

end Transactions

/-! ## Drives of such runs -/

section Drives

variable {platform : Platform} {host : Host}

/-- Whatever a drive catches, it goes on to record a failure. -/
theorem Loop.handle_failing (loop : Loop) (e : Exc) :
    ∃ code cancelled, loop.handle e =
      .failing loop.workspaceId loop.runId code cancelled := by
  cases e <;> exact ⟨_, _, rfl⟩

/-- A step that leaves the store alone and stays, or goes on to record a failure. -/
structure Refused (shared : Shared) (call : Call) (loop : Loop) (step : Advance) : Prop where
  store : step.shared.world.store = shared.world.store
  next : step.next = some (call.point, call.frames) ∨ ∃ code cancelled,
    step.next = some (.failing loop.workspaceId loop.runId code cancelled, call.frames)

/-- A transaction of a drive that cannot return. -/
theorem Refused.of_commit {α : Type} {shared : Shared} {call : Call} {loop : Loop}
    {m : RuntimeTxn α} {next : Except Exc α → Option (Point × List Frame)}
    (rolls : RollsBack m) (never : ∀ a w', m shared.world ≠ .ok a w')
    (handled : ∀ e, next (.error e) = some (loop.handle e, call.frames)) :
    Refused shared call loop (shared.commit m next) := by
  unfold Shared.commit
  cases ran : m shared.world with
  | ok a w' => exact (never a w' ran).elim
  | error e w' =>
      refine ⟨rolls.store_eq ran, .inr ?_⟩
      obtain ⟨code, cancelled, failing⟩ := loop.handle_failing e
      exact ⟨code, cancelled, (handled e).trans (by rw [failing])⟩

/-- A drive of a run whose goal is closed claims no iteration and applies no decision: it
goes on to record a failure. -/
theorem advance_refused {shared : Shared} {call : Call} {loop : Loop} {run : AgentRun}
    (driving : call.point = .claim loop ∨ ∃ iteration, call.point = .model loop iteration)
    (found : shared.world.store.runs.get? loop.runId = some run)
    (closed : GoalClosed shared.world.store.domain run.goalId) (input : Input) :
    Refused shared call loop (shared.advance platform call input) := by
  have stay : Refused shared call loop (shared.stay call.point call.frames) := ⟨rfl, .inl rfl⟩
  obtain ⟨id, host, point, frames⟩ := call
  rcases driving with rfl | ⟨iteration, rfl⟩
  · cases input with
    | ports answers =>
        refine .of_commit (RollsBack.atomic _) (fun a w' claimed => ?_) fun e => rfl
        exact (driveClaim_active found claimed).open closed
    | next | model | executor | interrupt => exact stay
  · cases input with
    | model reply answers =>
        have handled (e : Exc) : Refused shared ⟨id, host, .model loop iteration, frames⟩ loop
            { shared := shared, next := some (loop.handle e, frames) } := by
          obtain ⟨code, cancelled, failing⟩ := loop.handle_failing e
          exact ⟨rfl, .inr ⟨code, cancelled, by rw [failing]⟩⟩
        show Refused _ _ _ (shared.decide platform host loop iteration frames reply answers)
        unfold Shared.decide
        split
        · exact handled _
        · split
          · exact handled _
          · split
            · refine .of_commit (RollsBack.atomic _) (fun a w' taken => ?_) fun e => rfl
              exact (driveToolAction_active found taken).open closed
            · refine .of_commit (RollsBack.atomic _) (fun a w' taken => ?_) fun e => rfl
              exact (driveAction_active found taken).open closed
    | next | ports | executor | interrupt => exact stay

end Drives

/-! ## Steps of the system -/

section Steps

variable {platform : Platform}

/-- What a call does when it returns; when it raises it rolls back. -/
theorem RunsHeld.of_txn {α : Type} {m : RuntimeTxn α} (rolls : RollsBack m)
    {w : World RuntimeStore}
    (returned : ∀ {a w'}, m w = .ok a w' → RunsHeld w.store w'.store) :
    RunsHeld w.store (World.after (m w)).store := by
  cases h : m w with
  | ok a w' => exact returned h
  | error e w' => exact .of_eq (congrArg RuntimeStore.runs (rolls.store_eq h))

theorem decide_held (shared : Shared) (host : Host) (frames : List Frame) (loop : Loop)
    (iteration : ClaimedIteration) (reply : Except Exc PyStr) (answers : PortAnswers) :
    RunsHeld shared.world.store
      (shared.decide platform host loop iteration frames reply answers).shared.world.store := by
  unfold Shared.decide
  split
  · exact .of_eq rfl
  · split
    · exact .of_eq rfl
    · split
      · exact .of_eq (frames_runs (moves_driveToolAction (K := [.action, .audit]) _ _ _ _ _ _ _)
          (by simp) (by simp) _).2
      · exact .of_txn (RollsBack.atomic _) driveAction_held

theorem advance_held (shared : Shared) (call : Call) (input : Input) :
    RunsHeld shared.world.store (shared.advance platform call input).shared.world.store := by
  by_cases halting : ∀ service ∈ call.point.services, service ∈ haltingServices
  · exact .of_effect (advance_runs shared call input) halting
  · obtain ⟨id, host, point, frames⟩ := call
    cases point with
    | claim loop =>
        cases input with
        | ports answers => exact .of_txn (RollsBack.atomic _) driveClaim_held
        | _ => exact .of_eq rfl
    | model loop iteration =>
        cases input with
        | model reply answers =>
            exact decide_held shared host frames loop iteration reply answers
        | _ => exact .of_eq rfl
    | invoke workspaceId runId action expected =>
        cases input with
        | next => exact .of_txn (RollsBack.atomic _) invokeClaim_held
        | _ => exact .of_eq rfl
    | resumeOpen workspaceId runId intentId expected =>
        cases input with
        | next => exact .of_txn (RollsBack.atomic _) resumeOpen_held
        | _ => exact .of_eq rfl
    | restoreWait workspaceId runId intentId resumed error =>
        cases input with
        | next => exact .of_txn (RollsBack.atomic _) resumeRestore_held
        | _ => exact .of_eq rfl
    | _ => simp [Point.services] at halting

theorem command_held (command : HostCommand) (w : World RuntimeStore) :
    RunsHeld w.store (World.after (command.txn platform w)).store := by
  by_cases halting : ∀ service ∈ command.services, service ∈ haltingServices
  · exact .of_effect (command_effect command w) halting
  · cases command with
    | startRun host c =>
        refine .of_txn (RollsBack.atomic _).discard fun h => ?_
        obtain ⟨_, h⟩ := discard_eq_ok.mp h
        exact startRun_held h
    | resumeRun workspaceId runId expected context =>
        refine .of_txn (RollsBack.atomic _).discard fun h => ?_
        obtain ⟨_, h⟩ := discard_eq_ok.mp h
        exact resumeRun_held h
    | _ => simp [HostCommand.services] at halting

/-- What one step of the system does to the runs of closed goals. -/
theorem step_held (s : Sys) (label : Label) :
    RunsHeld s.store (Sys.step platform s label).store := by
  cases label with
  | advance id input =>
      refine Sys.advance_cases (fun t => RunsHeld s.store t.store) platform s id input
        (fun call found => ?_) (.of_eq rfl)
      exact advance_held s.shared _ input
  | command c => exact command_held c s.shared.world
  | restore request => exact .of_effect (step_runs platform s (.restore request)) (by
      intro service allowed
      cases allowed)
  | «open» | drop | crash => exact .of_eq rfl

/-- A later store of the runtime in which the runs of closed goals have wound down. -/
structure Restrained (s s' : RuntimeStore) : Prop where
  domain : Extends s.domain s'.domain
  begun : ∀ {id : GoalId}, GoalBegun s.domain id → GoalBegun s'.domain id
  runs : RunsHeld s s'

theorem Restrained.refl (s : RuntimeStore) : Restrained s s := ⟨.refl _, id, .of_eq rfl⟩

theorem Restrained.trans {s s' s'' : RuntimeStore} (h : Restrained s s')
    (h' : Restrained s' s'') : Restrained s s'' :=
  ⟨h.domain.trans h'.domain, fun begun => h'.begun (h.begun begun),
    .trans h.domain h'.domain h.runs h'.runs⟩

theorem step_restrained (s : Sys) (label : Label) :
    Restrained s.store (Sys.step platform s label).store :=
  have effect := step_effect platform s label
  ⟨effect.extends, effect.begun_goal, step_held s label⟩

/-- The guarantee of a program over the runtime store. -/
def restraining : Guarantee RuntimeStore :=
  Guarantee.onStore Restrained Restrained.refl fun first second => first.trans second

/-- Every program that moves by writes and holds the runs. -/
theorem moves_restraining {K : List Kind} {α : Type} {m : RuntimeTxn α}
    (hm : Moves (writes K) m) (held : ∀ w, RunsHeld w.store (World.after (m w)).store) :
    Moves restraining m := fun w =>
  ⟨(hm w).1, writes_extend (hm w).2, fun begun => writes_begun (hm w).2 begun, held w⟩

end Steps

end AgentCompanyOS.Runtime
