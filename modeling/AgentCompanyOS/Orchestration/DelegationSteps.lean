import AgentCompanyOS.Orchestration.PlanSteps

/-!
# What delegating and starting change

`delegate` assigns a ready task and `start_delegation` starts an agent run for one. Both
have found the task ready, with its dependencies in the current plan completed; the limits
that each of them checks are stated in `Delegating` and `Starting`.
-/

set_option autoImplicit false

namespace AgentCompanyOS.Orchestration

open Foundation Foundation.Txn Domain AgentCompanyOS.Runtime

variable {env : Env} {host : OrchestrationHost} {w w' : World OrchestrationStore}

/-! ## Ready tasks -/

/-- The current plan of a run and what it was materialized to. -/
structure Current (s : OrchestrationStore) (run : OrchestrationRun) (plan : PlanVersion)
    (m : PlanMaterialization) : Prop where
  planId : run.planId = some plan.id
  version : run.currentPlanVersion = some plan.version
  stored : s.plans.get? plan.key = some plan
  materialized : s.materializations.get? plan.key = some m

theorem reads_getCurrent (run : OrchestrationRun) : Reads (getCurrent run) := by
  unfold getCurrent
  cases run.planId with
  | none => exact Reads.raise _
  | some planId =>
      cases run.currentPlanVersion with
      | none => exact Reads.raise _
      | some version =>
          exact (reads_getPlan _ _ _).bind fun _ => (reads_getMaterialization _ _ _).bind fun _ =>
            Reads.pure _

theorem getCurrent_eq_ok {run : OrchestrationRun} {found : PlanVersion × PlanMaterialization}
    (h : getCurrent run w = .ok found w') : Current w.store run found.1 found.2 := by
  unfold getCurrent at h
  cases named : run.planId with
  | none =>
      rw [named] at h
      cases h
  | some planId =>
      cases current : run.currentPlanVersion with
      | none =>
          rw [named, current] at h
          cases h
      | some version =>
          rw [named, current] at h
          obtain ⟨plan, stored, -, rest⟩ := getPlan_then h
          obtain ⟨m, reading, rest⟩ := (reads_getMaterialization _ _ _).then rest
          obtain ⟨rfl, -⟩ := pure_eq_ok.mp rest
          have key : PlanVersion.key plan = (planId, version) := Registry.key_of_get? stored
          obtain ⟨rfl, rfl⟩ := Prod.mk.inj key
          exact ⟨named, current, stored, getMaterialization_eq_ok reading⟩

theorem getCurrent_then {α : Type} {b : α} {run : OrchestrationRun}
    {f : PlanVersion × PlanMaterialization → OrchestrationTxn α}
    (h : (getCurrent run >>= f) w = .ok b w') :
    ∃ plan m, Current w.store run plan m ∧ f (plan, m) w = .ok b w' := by
  obtain ⟨found, reading, h⟩ := (reads_getCurrent run).then h
  exact ⟨found.1, found.2, getCurrent_eq_ok reading, h⟩

/-- The stored task of a planned task. -/
def TaskOf (s : OrchestrationStore) (m : PlanMaterialization) (plannedId : PyStr) (task : Task) :
    Prop :=
  m.taskOf plannedId = some task.id ∧ s.runtime.domain.tasks.get? task.id = some task

theorem reads_plannedTask (m : PlanMaterialization) (plannedId : PyStr) :
    Reads (plannedTask m plannedId) :=
  (Reads.need _ _).bind fun _ => reads_inGoals (reads_getEntity Task _)

theorem plannedTask_eq_ok {m : PlanMaterialization} {plannedId : PyStr} {task : Task}
    (h : plannedTask m plannedId w = .ok task w') : TaskOf w.store m plannedId task := by
  obtain ⟨taskId, named, h⟩ := need_then h
  have stored := entityOf_eq_ok (E := Task) h
  have key : Task.id task = taskId := Registry.key_of_get? stored
  rw [← key] at named stored
  exact ⟨named, stored⟩

theorem reads_plannedTasks (m : PlanMaterialization) (ids : List PyStr) :
    Reads (plannedTasks m ids) := by
  induction ids with
  | nil => exact Reads.pure _
  | cons id rest ih => exact (reads_plannedTask m id).bind fun _ => ih.bind fun _ => Reads.pure _

/-- The stored tasks of planned tasks, one for each. -/
theorem plannedTasks_eq_ok {m : PlanMaterialization} {ids : List PyStr} {tasks : List Task}
    (h : plannedTasks m ids w = .ok tasks w') :
    ∀ id ∈ ids, ∃ task ∈ tasks, TaskOf w.store m id task := by
  induction ids generalizing tasks w' with
  | nil =>
      intro id mem
      cases mem
  | cons first rest ih =>
      obtain ⟨task, reading, h⟩ := (reads_plannedTask m first).then h
      obtain ⟨others, going, h⟩ := (reads_plannedTasks m rest).then h
      obtain ⟨rfl, -⟩ := pure_eq_ok.mp h
      intro id mem
      rcases List.mem_cons.mp mem with rfl | later
      · exact ⟨task, List.mem_cons_self, plannedTask_eq_ok reading⟩
      · obtain ⟨found, here, taskOf⟩ := ih going id later
        exact ⟨found, List.mem_cons_of_mem _ here, taskOf⟩

/-- The dependencies of a planned task are completed. -/
def DependenciesDone (s : OrchestrationStore) (m : PlanMaterialization) (planned : PlannedTask) :
    Prop :=
  ∀ id ∈ planned.dependencies, ∃ task, TaskOf s m id task ∧ task.status = .completed

/-- A task that can be worked on. -/
structure Ready (s : OrchestrationStore) (run : OrchestrationRun) (task : Task) : Prop where
  running : run.status = .running
  planned : ∃ plan m, Current s run plan m ∧ ∃ planned ∈ plan.proposal.tasks,
    TaskOf s m planned.id task ∧ DependenciesDone s m planned
  open' : task.status = .proposed ∨ task.status = .ready

theorem reads_readyAmong (m : PlanMaterialization) (items : List (PlannedTask × Nat)) :
    Reads (readyAmong m items) := by
  induction items with
  | nil => exact Reads.pure _
  | cons item rest ih =>
      exact (reads_plannedTask m _).bind fun _ => (reads_plannedTasks m _).bind fun _ =>
        ih.bind fun _ => Reads.pure _

theorem readyAmong_eq_ok {m : PlanMaterialization} {items : List (PlannedTask × Nat)}
    {ready : List (Nat × Nat × Task)} (h : readyAmong m items w = .ok ready w') :
    ∀ entry ∈ ready, ∃ planned ∈ items.map Prod.fst, TaskOf w.store m planned.id entry.2.2 ∧
      DependenciesDone w.store m planned ∧
      (entry.2.2.status = .proposed ∨ entry.2.2.status = .ready) := by
  induction items generalizing ready w' with
  | nil =>
      obtain ⟨rfl, -⟩ := pure_eq_ok.mp h
      intro entry mem
      cases mem
  | cons item rest ih =>
      obtain ⟨planned, position⟩ := item
      obtain ⟨task, reading, h⟩ := (reads_plannedTask m _).then h
      obtain ⟨dependencies, depended, h⟩ := (reads_plannedTasks m _).then h
      obtain ⟨others, going, h⟩ := (reads_readyAmong m rest).then h
      obtain ⟨rfl, -⟩ := pure_eq_ok.mp h
      have later : ∀ entry ∈ others, ∃ p ∈ ((planned, position) :: rest).map Prod.fst,
          TaskOf w.store m p.id entry.2.2 ∧ DependenciesDone w.store m p ∧
          (entry.2.2.status = .proposed ∨ entry.2.2.status = .ready) := by
        intro entry mem
        obtain ⟨p, here, facts⟩ := ih going entry mem
        exact ⟨p, List.mem_cons_of_mem _ here, facts⟩
      intro entry mem
      split at mem
      · next workable =>
          rcases List.mem_cons.mp mem with rfl | mem
          · refine ⟨planned, List.mem_cons_self, plannedTask_eq_ok reading, ?_, workable.1⟩
            intro id named
            obtain ⟨found, here, taskOf⟩ := plannedTasks_eq_ok depended id named
            have all := List.all_eq_true.mp workable.2 found here
            exact ⟨found, taskOf, of_decide_eq_true all⟩
          · exact later entry mem
      · exact later entry mem

theorem reads_readyTasks (workspaceId : WorkspaceId) (runId : OrchestrationRunId) :
    Reads (readyTasks workspaceId runId) := by
  refine (reads_getOrchestrationRun _ _).bind fun run => ?_
  split
  · exact Reads.pure _
  · exact (reads_getCurrent run).bind fun _ => (reads_readyAmong _ _).bind fun _ => Reads.pure _

theorem readyTasks_eq_ok {workspaceId : WorkspaceId} {runId : OrchestrationRunId}
    {run : OrchestrationRun} (stored : w.store.runs.get? runId = some run) {ready : List Task}
    (h : readyTasks workspaceId runId w = .ok ready w') :
    ∀ task ∈ ready, Ready w.store run task := by
  obtain ⟨found, present, -, h⟩ := getOrchestrationRun_then h
  obtain rfl : run = found := Option.some.inj (stored.symm.trans present)
  split at h
  · obtain ⟨rfl, -⟩ := pure_eq_ok.mp h
    intro task mem
    cases mem
  · next running =>
      obtain ⟨plan, m, current, h⟩ := getCurrent_then h
      obtain ⟨entries, reading, h⟩ := (reads_readyAmong m _).then h
      obtain ⟨rfl, -⟩ := pure_eq_ok.mp h
      intro task mem
      obtain ⟨entry, sorted, rfl⟩ := List.mem_map.mp mem
      obtain ⟨planned, listed, taskOf, done, workable⟩ :=
        readyAmong_eq_ok reading entry ((List.mem_insertionSort _).mp sorted)
      rw [List.zipIdx_map_fst] at listed
      exact ⟨not_not.mp running, ⟨plan, m, current, planned, listed, taskOf, done⟩, workable⟩

/-! ## Active delegations -/

theorem reads_delegationActive (workspaceId : WorkspaceId) (d : Delegation) :
    Reads (delegationActive workspaceId d) := by
  refine (reads_getAttempts _ _).bind fun attempts => ?_
  cases attempts.getLast? with
  | none => exact Reads.pure _
  | some last => exact (reads_inRuntime (reads_getRun _ _)).bind fun _ => Reads.pure _

theorem delegationActive_eq_ok {workspaceId : WorkspaceId} {d : Delegation} {active : Bool}
    (h : delegationActive workspaceId d w = .ok active w') : active = w.store.isActive d := by
  have h := getAttempts_then h
  unfold OrchestrationStore.isActive
  cases final : (w.store.attemptsOf d.id).getLast? with
  | none =>
      rw [final] at h
      obtain ⟨rfl, -⟩ := pure_eq_ok.mp h
      rfl
  | some last =>
      rw [final] at h
      obtain ⟨run, stored, -, h⟩ := childOf_then h
      obtain ⟨rfl, -⟩ := pure_eq_ok.mp h
      simp [stored]

theorem reads_countActive (workspaceId : WorkspaceId) (ds : List Delegation) :
    Reads (countActive workspaceId ds) := by
  induction ds with
  | nil => exact Reads.pure _
  | cons d rest ih =>
      exact (reads_delegationActive _ d).bind fun _ => ih.bind fun _ => Reads.pure _

theorem countActive_eq_ok {workspaceId : WorkspaceId} {ds : List Delegation} {n : Nat}
    (h : countActive workspaceId ds w = .ok n w') : n = ds.countP w.store.isActive := by
  induction ds generalizing n w' with
  | nil =>
      obtain ⟨rfl, -⟩ := pure_eq_ok.mp h
      rfl
  | cons d rest ih =>
      obtain ⟨active, reading, h⟩ := (reads_delegationActive _ d).then h
      obtain ⟨others, going, h⟩ := (reads_countActive _ rest).then h
      obtain ⟨rfl, -⟩ := pure_eq_ok.mp h
      rw [List.countP_cons, ← delegationActive_eq_ok reading, ← ih going]
      cases active <;> rfl

/-! ## Delegates -/

theorem reads_delegate? (workspaceId : WorkspaceId) (d : Delegation) :
    Reads (delegate? workspaceId d) := reads_inRuntime (reads_getDefinition _ _ _)

theorem delegate?_eq_ok {workspaceId : WorkspaceId} {d : Delegation}
    {definition : AgentDefinitionVersion} (h : delegate? workspaceId d w = .ok definition w') :
    definition.key = (d.agentDefinitionId, d.agentDefinitionVersion) := by
  change inRuntime (getDefinition workspaceId _ _) w = .ok definition w' at h
  obtain ⟨v, inner, -⟩ := zoom_eq_ok.mp h
  have inner := getStore_then inner
  obtain ⟨found, stored, inner⟩ := need_then inner
  obtain ⟨_, -, inner⟩ := (reads_scope _ _).then inner
  obtain ⟨rfl, -⟩ := pure_eq_ok.mp inner
  exact Registry.key_of_get? stored

theorem reads_delegates (workspaceId : WorkspaceId) (ds : List Delegation) :
    Reads (delegates workspaceId ds) := by
  induction ds with
  | nil => exact Reads.pure _
  | cons d rest ih => exact (reads_delegate? _ d).bind fun _ => ih.bind fun _ => Reads.pure _

theorem delegates_eq_ok {workspaceId : WorkspaceId} {ds : List Delegation}
    {definitions : List AgentDefinitionVersion}
    (h : delegates workspaceId ds w = .ok definitions w') :
    definitions.map AgentDefinitionVersion.key =
      ds.map fun d => (d.agentDefinitionId, d.agentDefinitionVersion) := by
  induction ds generalizing definitions w' with
  | nil =>
      obtain ⟨rfl, -⟩ := pure_eq_ok.mp h
      rfl
  | cons d rest ih =>
      obtain ⟨definition, reading, h⟩ := (reads_delegate? _ d).then h
      obtain ⟨others, going, h⟩ := (reads_delegates _ rest).then h
      obtain ⟨rfl, -⟩ := pure_eq_ok.mp h
      rw [List.map_cons, List.map_cons, delegate?_eq_ok reading, ih going]

/-- A selected agent is none of the excluded ones. -/
theorem rankCandidates_excluded {workspaceId : WorkspaceId} {requirements : AgentRequirements}
    {excluded items : List AgentDefinitionVersion} {v v' : World RuntimeStore}
    {ranked : List (Nat × AgentDefinitionVersion)}
    (h : rankCandidates workspaceId requirements excluded items v = .ok ranked v') :
    ∀ entry ∈ ranked, entry.2.key ∉ excluded.map AgentDefinitionVersion.key := by
  induction items generalizing ranked v' with
  | nil =>
      obtain ⟨rfl, -⟩ := pure_eq_ok.mp h
      intro entry mem
      cases mem
  | cons item rest ih =>
      unfold rankCandidates at h
      split at h
      · exact ih h
      · next covered =>
          obtain ⟨canonical, -, h⟩ := (reads_getDefinition _ _ _).then h
          have h := getStore_then h
          obtain ⟨others, going, h⟩ := (reads_rankCandidates _ _ _ _).then h
          obtain ⟨rfl, -⟩ := pure_eq_ok.mp h
          intro entry mem
          split at mem
          · rcases List.mem_cons.mp mem with rfl | later
            · intro named
              simp [covers, List.mem_map.mp named] at covered
            · exact ih going entry later
          · exact ih going entry mem

theorem select_excluded (workspaceId : WorkspaceId) (requirements : AgentRequirements)
    (items excluded : List AgentDefinitionVersion) :
    Yields (inRuntime (select workspaceId requirements items excluded)) fun selected =>
      selected.key ∉ excluded.map AgentDefinitionVersion.key := by
  intro w selected w' h
  obtain ⟨v, inner, -⟩ := zoom_eq_ok.mp h
  obtain ⟨ranked, ranking, inner⟩ := (reads_rankCandidates _ _ _ _).then inner
  obtain ⟨best, first, inner⟩ := need_then inner
  obtain ⟨rfl, -⟩ := pure_eq_ok.mp inner
  exact rankCandidates_excluded ranking best
    ((List.mem_insertionSort _).mp (List.mem_of_head? first))

theorem selectPreferred_excluded (env : Env) (host : OrchestrationHost) (run : OrchestrationRun)
    (requirements : AgentRequirements) (eligible excluded : List AgentDefinitionVersion) :
    Yields (selectPreferred env host run requirements eligible excluded) fun selected =>
      selected.key ∉ excluded.map AgentDefinitionVersion.key := by
  unfold selectPreferred
  split
  · refine (Yields.true _).bind fun preferred _ => ?_
    intro w selected w' h
    rcases catching_eq_ok.mp h with returned | ⟨e, u, -, handled⟩
    · exact select_excluded _ _ _ _ _ _ _ returned
    · split at handled
      · exact select_excluded _ _ _ _ _ _ _ handled
      · cases handled
  · exact select_excluded _ _ _ _

theorem selectAgent_excluded {run : OrchestrationRun} {requirements : AgentRequirements}
    {named : Option (List AgentDefinitionVersion)}
    {excluded sources : List AgentDefinitionVersion} {kind : RouteKind}
    {selected : AgentDefinitionVersion}
    (h : selectAgent env host run requirements named excluded sources kind w = .ok selected w') :
    selected.key ∉ excluded.map AgentDefinitionVersion.key := by
  obtain ⟨found, v, -, -, h⟩ := (idle_candidates env host run _).then h
  obtain ⟨routed, v, -, -, h⟩ := (idle_routedFromDepartment env host run _).then h
  obtain ⟨eligible, v, -, -, h⟩ := (idle_routedFromSources env host run _ _ _).then h
  exact selectPreferred_excluded env host run _ _ _ _ _ _ h

/-! ## Delegating -/

theorem reads_requireFailed (workspaceId : WorkspaceId) (previous : Delegation) (rule : String) :
    Reads (requireFailed workspaceId previous rule) :=
  (reads_getAttempts _ _).bind fun _ => (Reads.need _ _).bind fun _ =>
    (reads_inRuntime (reads_getRun _ _)).bind fun _ => Reads.raiseIf _ _

theorem reads_modeCandidates (workspaceId : WorkspaceId) (run : OrchestrationRun)
    (definitions : List AgentDefinitionVersion) (previous : List Delegation)
    (mode : DelegationMode) :
    Reads (modeCandidates workspaceId run definitions previous mode) := by
  cases mode with
  | initial => exact Reads.pure _
  | retry =>
      exact (Reads.need _ _).bind fun _ => (Reads.raiseIf _ _).bind fun _ =>
        (reads_requireFailed _ _ _).bind fun _ => (reads_delegate? _ _).bind fun _ => Reads.pure _
  | redelegate =>
      exact (Reads.need _ _).bind fun _ => (Reads.raiseIf _ _).bind fun _ =>
        (reads_requireFailed _ _ _).bind fun _ => (reads_delegates _ _).bind fun _ => Reads.pure _
  | unknown text => exact Reads.raise _

/-- What a mode has found in the earlier delegations of a task. -/
structure ModeAllowed (run : OrchestrationRun) (previous : List Delegation)
    (excluded : List AgentDefinitionVersion) (mode : DelegationMode) : Prop where
  retry : mode = .retry → ∃ last, previous.getLast? = some last ∧
    last.retryOrdinal < run.policy.maxRetriesPerTask
  redelegate : mode = .redelegate → (∃ last, previous.getLast? = some last ∧
    last.redelegationOrdinal < run.policy.maxRedelegationsPerTask) ∧
    excluded.map AgentDefinitionVersion.key =
      previous.map fun d => (d.agentDefinitionId, d.agentDefinitionVersion)
  known : ∀ text, mode ≠ .unknown text

theorem modeCandidates_eq_ok {workspaceId : WorkspaceId} {run : OrchestrationRun}
    {definitions : List AgentDefinitionVersion} {previous : List Delegation}
    {mode : DelegationMode} {found : List AgentDefinitionVersion × List AgentDefinitionVersion}
    (h : modeCandidates workspaceId run definitions previous mode w = .ok found w') :
    ModeAllowed run previous found.2 mode := by
  cases mode with
  | initial => exact ⟨nofun, nofun, nofun⟩
  | retry =>
      obtain ⟨last, final, h⟩ := need_then h
      obtain ⟨within, h⟩ := raiseIf_then h
      exact ⟨fun _ => ⟨last, final, Nat.lt_of_not_le within⟩, nofun, nofun⟩
  | redelegate =>
      obtain ⟨last, final, h⟩ := need_then h
      obtain ⟨within, h⟩ := raiseIf_then h
      obtain ⟨_, -, h⟩ := (reads_requireFailed _ _ _).then h
      obtain ⟨excluded, reading, h⟩ := (reads_delegates _ _).then h
      obtain ⟨rfl, -⟩ := pure_eq_ok.mp h
      exact ⟨nofun, fun _ => ⟨⟨last, final, Nat.lt_of_not_le within⟩, delegates_eq_ok reading⟩,
        nofun⟩
  | unknown text => cases h

theorem reads_dependencySources (workspaceId : WorkspaceId) (runId : OrchestrationRunId)
    (m : PlanMaterialization) (ids : List PyStr) :
    Reads (dependencySources workspaceId runId m ids) := by
  induction ids with
  | nil => exact Reads.pure _
  | cons id rest ih =>
      exact (Reads.need _ _).bind fun _ => (reads_getDelegations _ _).bind fun _ =>
        (reads_delegates _ _).bind fun _ => ih.bind fun _ => Reads.pure _

theorem idle_selectDelegate (env : Env) (host : OrchestrationHost) (run : OrchestrationRun)
    (m : PlanMaterialization) (planned : PlannedTask) (previous : List Delegation)
    (mode : DelegationMode) (target : Option AgentDefinitionVersion)
    (definitions excluded : List AgentDefinitionVersion) :
    Idle (selectDelegate env host run m planned previous mode target definitions excluded) :=
  (Moves.raiseIf _ _).bind fun _ => (reads_dependencySources _ _ _ _).moves.bind fun _ =>
    (reads_delegates _ _).moves.bind fun _ => idle_selectAgent env host run _ _ _ _ _

theorem selectDelegate_excluded {run : OrchestrationRun} {m : PlanMaterialization}
    {planned : PlannedTask} {previous : List Delegation} {mode : DelegationMode}
    {target : Option AgentDefinitionVersion} {definitions excluded : List AgentDefinitionVersion}
    {selected : AgentDefinitionVersion}
    (h : selectDelegate env host run m planned previous mode target definitions excluded w =
      .ok selected w') : selected.key ∉ excluded.map AgentDefinitionVersion.key := by
  obtain ⟨-, h⟩ := raiseIf_then h
  obtain ⟨_, -, h⟩ := (reads_dependencySources _ _ _ _).then h
  obtain ⟨_, -, h⟩ := (reads_delegates _ _).then h
  exact selectAgent_excluded h

/-- What `delegate` answers and changes for a task of a run. -/
inductive Delegated (s s' : OrchestrationStore) (run : OrchestrationRun) (taskId : TaskId)
    (mode : DelegationMode) : Option Delegation → Prop
  | replayed (last : Delegation) (initial : mode = .initial)
      (final : (s.delegationsFor run.id taskId).getLast? = some last)
      (unstarted : s.attemptsOf last.id = []) (same : s' = s) : Delegated s s' run taskId mode last
  | waiting (changes : Changes [.quiet, .moved] s s') : Delegated s s' run taskId mode none
  | made (d : Delegation) (task : d.taskId = taskId) (delegating : Delegating s run mode d)
      (logged : Quiet { s with delegations := s.delegations.put d } s') :
      Delegated s s' run taskId mode d

theorem waitForAgent_eq_ok {run : OrchestrationRun} {answer : Option Delegation}
    (stored : w.store.runs.get? run.id = some run) (running : run.status = .running)
    (h : waitForAgent env run w = .ok answer w') :
    answer = none ∧ Changes [.quiet, .moved] w.store w'.store := by
  obtain ⟨waiting, w₁, saving, h⟩ := bind_eq_ok.mp h
  obtain ⟨_, w₂, -, logged, h⟩ :=
    (quiet_orchestrationEvent env waiting .delegationRejected []).then h
  obtain ⟨rfl, rfl⟩ := pure_eq_ok.mp h
  have moving := (saveChange_saved saving).moved stored ⟨rfl, rfl, rfl, rfl⟩ fun status =>
    .waits status (.inl running)
  exact ⟨rfl, (Changes.single (by simp) moving).trans (.quiet (by simp) logged)⟩

theorem reads_plannedFor (plan : PlanVersion) (m : PlanMaterialization) (taskId : TaskId) :
    Reads (plannedFor plan m taskId) :=
  (Reads.need _ _).bind fun _ => Reads.need _ _

/-- What `delegate` has checked before it looks for an agent. -/
structure Delegable (s : OrchestrationStore) (run : OrchestrationRun) (plan : PlanVersion)
    (m : PlanMaterialization) (taskId : TaskId) (mode : DelegationMode) : Prop where
  stored : s.runs.get? run.id = some run
  running : run.status = .running
  current : Current s run plan m
  iterations : run.agentRunCount + run.replanCount < run.policy.maxIterations
  first : mode = .initial → s.delegationsFor run.id taskId = [] ∧
    s.activeCount run.id < run.policy.maxParallelWidth

theorem assign_eq_ok {run : OrchestrationRun} {plan : PlanVersion} {m : PlanMaterialization}
    {planned : PlannedTask} {taskId : TaskId} {mode : DelegationMode}
    {selected : AgentDefinitionVersion} {excluded : List AgentDefinitionVersion}
    {answer : Option Delegation} (checked : Delegable w.store run plan m taskId mode)
    (allowed : ModeAllowed run (w.store.delegationsFor run.id taskId) excluded mode)
    (other : selected.key ∉ excluded.map AgentDefinitionVersion.key)
    (h : assign env run plan planned taskId (w.store.delegationsFor run.id taskId) mode selected w =
      .ok answer w') : Delegated w.store w'.store run taskId mode answer := by
  obtain ⟨id, w₁, -, s₁, h⟩ := Idle.then (moves_fresh env _) h
  obtain ⟨at', w₂, -, s₂, h⟩ := Idle.then (moves_now env) h
  obtain ⟨_, w₃, added, h⟩ := bind_eq_ok.mp h
  obtain ⟨_, w₄, -, logged, h⟩ := (quiet_delegationEvent env _ _ _).then h
  obtain ⟨rfl, rfl⟩ := pure_eq_ok.mp h
  obtain ⟨filed, rfl⟩ := addDelegation_eq_ok added
  have same : w₂.store = w.store := by rw [s₂, s₁]
  rw [same] at filed logged
  refine .made _ rfl ?_ logged
  refine ⟨checked.stored, checked.running, rfl,
    ⟨checked.current.planId, checked.current.version⟩, filed, checked.iterations, rfl,
    checked.first, allowed.retry, fun again => (allowed.redelegate again).1, ?_, allowed.known⟩
  -- The selected agent is not among the delegates so far.
  intro again earlier mem same
  refine other ?_
  rw [(allowed.redelegate again).2]
  exact List.mem_map.mpr ⟨earlier, mem, same⟩

theorem makeDelegation_eq_ok {run : OrchestrationRun} {plan : PlanVersion}
    {m : PlanMaterialization} {planned : PlannedTask} {taskId : TaskId} {mode : DelegationMode}
    {target : Option AgentDefinitionVersion} {answer : Option Delegation}
    (checked : Delegable w.store run plan m taskId mode)
    (h : makeDelegation env host run plan m planned taskId (w.store.delegationsFor run.id taskId)
      mode target w = .ok answer w') : Delegated w.store w'.store run taskId mode answer := by
  obtain ⟨found, w₁, -, s₁, h⟩ := Idle.then (idle_candidates env host run _) h
  obtain ⟨⟨definitions, excluded⟩, choosing, h⟩ := (reads_modeCandidates _ _ _ _ _).then h
  have allowed := modeCandidates_eq_ok choosing
  have selecting (w : World OrchestrationStore) : Idle (do
      let selected ← selectDelegate env host run m planned (w.store.delegationsFor run.id taskId)
        mode target definitions excluded
      pure (some selected)) :=
    (idle_selectDelegate env host run _ _ _ _ _ _ _).bind fun _ => Moves.pure _
  obtain ⟨selected, w₂, selection, h⟩ := bind_eq_ok.mp h
  rcases catching_eq_ok.mp selection with returned | ⟨e, v, raised, handled⟩
  · have s₂ := (selecting w).store_eq returned
    obtain ⟨agent, w₃, picked, returned⟩ := bind_eq_ok.mp returned
    obtain ⟨rfl, rfl⟩ := pure_eq_ok.mp returned
    have same : w.store = w₃.store := by rw [s₂, s₁]
    rw [same] at checked allowed h ⊢
    exact assign_eq_ok checked allowed (selectDelegate_excluded picked) h
  · -- No agent is eligible.
    split at handled
    · obtain ⟨rfl, rfl⟩ := pure_eq_ok.mp handled
      have s₂ : v.store = w₁.store := by
        have idle := selecting w w₁
        rw [raised] at idle
        exact idle.2
      have same : w.store = v.store := by rw [s₂, s₁]
      rw [same] at checked ⊢
      obtain ⟨rfl, changes⟩ := waitForAgent_eq_ok checked.stored checked.running h
      exact .waiting changes
    · cases handled

theorem replayInitial_eq_ok {workspaceId : WorkspaceId} {last : Delegation}
    {answer : Option Delegation} (h : replayInitial workspaceId last w = .ok answer w') :
    answer = some last ∧ w.store.attemptsOf last.id = [] ∧ w' = w := by
  have h := getAttempts_then h
  obtain ⟨unstarted, h⟩ := raiseIf_then h
  obtain ⟨rfl, rfl⟩ := pure_eq_ok.mp h
  exact ⟨rfl, not_not.mp unstarted, rfl⟩

/-- An initial delegation of a delegated task is answered from the records; the others are
made. -/
theorem replay_or_make {mode : DelegationMode} {final : Option Delegation}
    {replay : Delegation → OrchestrationTxn (Option Delegation)}
    {make : OrchestrationTxn (Option Delegation)} {answer : Option Delegation}
    (h : (match mode, final with
      | .initial, some last => replay last
      | _, _ => make) w = .ok answer w') :
    (mode = .initial ∧ ∃ last, final = some last ∧ replay last w = .ok answer w') ∨
      ((mode = .initial → final = none) ∧ make w = .ok answer w') := by
  cases final with
  | none => exact .inr ⟨fun _ => rfl, by cases mode <;> exact h⟩
  | some last =>
      cases mode with
      | initial => exact .inl ⟨rfl, last, rfl, h⟩
      | _ => exact .inr ⟨nofun, h⟩

/-- What `delegate` answers and changes. -/
theorem delegate_eq_ok {workspaceId : WorkspaceId} {runId : OrchestrationRunId} {taskId : TaskId}
    {expected : Version} {mode : DelegationMode} {target : Option AgentDefinitionVersion}
    {answer : Option Delegation}
    (h : delegate env host workspaceId runId taskId expected mode target w = .ok answer w') :
    ∃ run, w.store.runs.get? runId = some run ∧
      (∃ task, task.id = taskId ∧ Ready w.store run task) ∧
      Delegated w.store w'.store run taskId mode answer := by
  obtain ⟨run, stored, scope, rest⟩ := getOrchestrationRun_then (atomic_eq_ok.mp h)
  obtain rfl := id_of_stored stored
  obtain ⟨-, h⟩ := raiseIf_then rest
  obtain ⟨ready, reading, h⟩ := (reads_readyTasks _ _).then h
  obtain ⟨listed, h⟩ := raiseIf_then h
  obtain ⟨iterations, h⟩ := raiseIf_then h
  obtain ⟨plan, m, current, h⟩ := getCurrent_then h
  obtain ⟨planned, -, h⟩ := (reads_plannedFor _ _ _).then h
  have h := getDelegations_then h
  obtain ⟨active, counting, h⟩ := (reads_countActive _ _).then h
  obtain ⟨width, h⟩ := raiseIf_then h
  obtain ⟨task, mem, named⟩ := List.mem_map.mp (not_not.mp listed)
  have isReady := readyTasks_eq_ok stored reading task mem
  refine ⟨run, stored, ⟨task, named, isReady⟩, ?_⟩
  have counted : active = w.store.activeCount run.id := countActive_eq_ok counting
  rw [counted] at width
  have iterations := Nat.lt_of_not_le iterations
  have checked (new : mode = .initial → w.store.delegationsFor run.id taskId = []) :
      Delegable w.store run plan m taskId mode :=
    ⟨stored, isReady.running, current, iterations, fun initial =>
      ⟨new initial, Nat.lt_of_not_le fun full => width ⟨initial, full⟩⟩⟩
  rcases replay_or_make h with ⟨rfl, last, final, h⟩ | ⟨new, h⟩
  · obtain ⟨rfl, unstarted, rfl⟩ := replayInitial_eq_ok h
    exact .replayed last rfl final unstarted rfl
  · exact makeDelegation_eq_ok (checked fun initial => List.getLast?_eq_none_iff.mp (new initial)) h

/-! ## Starting a delegation -/

theorem reads_countFailed (workspaceId : WorkspaceId) (ids : List AgentRunId) :
    Reads (countFailed workspaceId ids) := by
  induction ids with
  | nil => exact Reads.pure _
  | cons id rest ih =>
      exact (reads_inRuntime (reads_getRun _ _)).bind fun _ => ih.bind fun _ => Reads.pure _

theorem reads_failedChildren (workspaceId : WorkspaceId) (runId : OrchestrationRunId) :
    Reads (failedChildren workspaceId runId) :=
  (reads_getDelegations _ _).bind fun _ => Reads.getStore.bind fun _ => reads_countFailed _ _

theorem reads_checkStart (run : OrchestrationRun) (d : Delegation) (context : SuppliedContext) :
    Reads (checkStart run d context) :=
  (Reads.raiseIf _ _).bind fun _ => (reads_failedChildren _ _).bind fun _ => Reads.raiseIf _ _

theorem countFailed_eq_ok {workspaceId : WorkspaceId} {ids : List AgentRunId} {n : Nat}
    (h : countFailed workspaceId ids w = .ok n w') : n = ids.countP w.store.hasFailed := by
  induction ids generalizing n w' with
  | nil =>
      obtain ⟨rfl, -⟩ := pure_eq_ok.mp h
      rfl
  | cons id rest ih =>
      obtain ⟨run, stored, -, h⟩ := childOf_then h
      obtain ⟨others, going, h⟩ := (reads_countFailed _ rest).then h
      obtain ⟨rfl, -⟩ := pure_eq_ok.mp h
      have failed : w.store.hasFailed id = (run.status = .failed : Bool) := by
        unfold OrchestrationStore.hasFailed
        rw [stored]
        rfl
      rw [List.countP_cons, ← ih going, failed]
      by_cases status : run.status = .failed <;> simp [status]

theorem failedChildren_eq_ok {workspaceId : WorkspaceId} {runId : OrchestrationRunId} {n : Nat}
    (h : failedChildren workspaceId runId w = .ok n w') : n = w.store.failedCount runId := by
  have h := getDelegations_then h
  exact countFailed_eq_ok (getStore_then h)

theorem checkStart_eq_ok {run : OrchestrationRun} {d : Delegation} {context : SuppliedContext}
    {u : Unit} (h : checkStart run d context w = .ok u w') :
    run.status = .running ∧ d.orchestrationRunId = run.id ∧
      run.agentRunCount < run.policy.maxAgentRuns ∧
      w.store.failedCount run.id < run.policy.maxFailedAttempts := by
  obtain ⟨bound, h⟩ := raiseIf_then h
  obtain ⟨failures, counting, h⟩ := (reads_failedChildren _ _).then h
  obtain ⟨within, -⟩ := raiseIf_eq_ok.mp h
  simp only [not_or, ne_eq, not_not, Nat.not_le] at bound
  rw [failedChildren_eq_ok counting] at within
  exact ⟨bound.1, bound.2.1, bound.2.2.2, Nat.lt_of_not_le within⟩

theorem reads_selectedExecution (run : OrchestrationRun) (executionId : Option ExecutionId) :
    Reads (selectedExecution run executionId) := by
  unfold selectedExecution
  cases executionId <|> run.executionId with
  | none => exact Reads.pure _
  | some id => exact (reads_inGoals (reads_getEntity Execution _)).bind fun _ => Reads.pure _

/-- The run after its execution was replaced, if it was. -/
structure Reopened (s s' : OrchestrationStore) (run : OrchestrationRun) : Prop where
  changes : Changes [.quiet, .moved] s s'
  stored : ∃ next, s'.runs.get? run.id = some next ∧ next.id = run.id ∧ next.status = run.status

theorem openExecution_eq_ok {run : OrchestrationRun} {found : Option Execution}
    {execution : Execution} (stored : w.store.runs.get? run.id = some run)
    (h : openExecution env run found w = .ok execution w') : Reopened w.store w'.store run := by
  have replaced {retryOf : Option ExecutionId} (h : (do
      let started ← newExecution env run retryOf
      let _ ← saveChange env run { executionId := some started.id }
      pure started : OrchestrationTxn Execution) w = .ok execution w') :
      Reopened w.store w'.store run := by
    obtain ⟨started, w₁, -, making, h⟩ := (quiet_newExecution env run retryOf).then h
    obtain ⟨next, w₂, saving, h⟩ := bind_eq_ok.mp h
    obtain ⟨rfl, rfl⟩ := pure_eq_ok.mp h
    have making : Quiet w.store w₁.store := making
    have stored : w₁.store.runs.get? run.id = some run := by
      rw [making.runs]
      exact stored
    have saved := saveChange_saved saving
    obtain ⟨at', evolved⟩ := saved.evolved
    have moving := saved.moved stored ⟨rfl, rfl, rfl, rfl⟩ fun status => .kept status
    exact ⟨(Changes.quiet (by simp) making).trans (.single (by simp) moving), next, saved.stored,
      evolved.id_eq, evolved.status_eq⟩
  have kept : Reopened w.store w.store run := ⟨.refl _, run, stored, rfl, rfl⟩
  unfold openExecution at h
  cases found with
  | none => exact replaced h
  | some old =>
      simp only at h
      split at h
      · exact replaced h
      · obtain ⟨rfl, rfl⟩ := pure_eq_ok.mp h
        exact kept

/-- The started agent run and its link. -/
theorem startChild_eq_ok {run : OrchestrationRun} {d : Delegation} {task : Task}
    {execution : Execution} {context : SuppliedContext} {child : AgentRun}
    (stored : w.store.delegations.get? d.id = some d)
    (h : startChild env host run d task execution context w = .ok child w') :
    ∃ mid a, Quiet w.store mid ∧ a.delegationId = d.id ∧ a.agentRunId = child.id ∧
      w.store.runtime.runs.get? child.id = none ∧
      AttemptFiled mid a d child ∧ child.status = .running ∧
      w'.store = { mid with attempts := mid.attempts ++ [a] } := by
  obtain ⟨attempt, w₁, -, created, h⟩ :=
    (quiet_inGoals env (.createTaskAttempt ⟨run.workspaceId, task.id, execution.id⟩) rfl).then h
  obtain ⟨begun, w₂, -, started, h⟩ :=
    (quiet_inGoals env (.startTaskAttempt attempt.id attempt.version) rfl).then h
  obtain ⟨agentRun, w₃, running, h⟩ := bind_eq_ok.mp h
  obtain ⟨_, w₄, linked, h⟩ := bind_eq_ok.mp h
  obtain ⟨rfl, rfl⟩ := pure_eq_ok.mp h
  have created : Quiet w.store w₁.store := created
  have before : Quiet w.store w₂.store := created.trans started
  have grown : Quiet w₂.store w₃.store := ((quiet_startRun env host.runtime _).of_ok running).2
  obtain ⟨v, inner, rfl⟩ := zoom_eq_ok.mp running
  obtain ⟨absent, present, status⟩ := startRun_eq_ok inner
  obtain ⟨⟨found, run', filed⟩, rfl⟩ := addAttempt_eq_ok linked
  refine ⟨_, _, before.trans grown, rfl, rfl, ?_, ?_, status, rfl⟩
  · cases old : w.store.runtime.runs.get? agentRun.id with
    | none => rfl
    | some earlier =>
        obtain ⟨next, later, -⟩ := before.grown.run old
        cases absent.symm.trans later
  · have sameRun : run' = agentRun := Option.some.inj (filed.stored.symm.trans present)
    have delegations := (before.trans grown).delegations
    have sameDelegation : found = d := by
      have here := filed.delegation
      rw [delegations] at here
      exact Option.some.inj (here.symm.trans stored)
    rw [sameRun, sameDelegation] at filed
    exact filed

/-- What `start_delegation` has found, and the started agent run. -/
structure DelegationStarted (s s' : OrchestrationStore) (run : OrchestrationRun)
    (delegationId : DelegationId) (child : AgentRun) : Prop where
  stored : s.runs.get? run.id = some run
  budget : run.agentRunCount < run.policy.maxAgentRuns
  failures : s.failedCount run.id < run.policy.maxFailedAttempts
  ready : ∃ d, s.delegations.get? delegationId = some d ∧ d.orchestrationRunId = run.id ∧
    ∃ task, task.id = d.taskId ∧ Ready s run task
  made : ∃ mid before next d a, Changes [.quiet, .moved] s mid ∧
    Starting mid before next d a child ∧ before.id = run.id ∧ a.delegationId = delegationId ∧
    a.agentRunId = child.id ∧ s.runtime.runs.get? child.id = none ∧
    s' = { mid with attempts := mid.attempts ++ [a], runs := mid.runs.put next }

theorem startDelegation_eq_ok {workspaceId : WorkspaceId} {runId : OrchestrationRunId}
    {delegationId : DelegationId} {expected : Version} {context : SuppliedContext}
    {executionId : Option ExecutionId} {child : AgentRun}
    (h : startDelegation env host workspaceId runId delegationId expected context executionId w =
      .ok child w') :
    ∃ run, run.id = runId ∧ DelegationStarted w.store w'.store run delegationId child := by
  obtain ⟨run, stored, scope, rest⟩ := getOrchestrationRun_then (atomic_eq_ok.mp h)
  obtain rfl := id_of_stored stored
  obtain ⟨-, h⟩ := raiseIf_then rest
  obtain ⟨d, storedD, -, h⟩ := getDelegation_then h
  have named : Delegation.id d = delegationId := Registry.key_of_get? storedD
  obtain ⟨_, bound, h⟩ := (reads_checkStart run d context).then h
  obtain ⟨running, own, budget, failures⟩ := checkStart_eq_ok bound
  obtain ⟨task, foundTask, h⟩ := entityOf_then (E := Task) h
  have taskId : Task.id task = d.taskId := Registry.key_of_get? foundTask
  obtain ⟨plan, m, current, h⟩ := getCurrent_then h
  obtain ⟨planned, -, h⟩ := need_then h
  obtain ⟨exact', -, h⟩ := (reads_delegate? _ _).then h
  obtain ⟨_, w₁, -, s₁, h⟩ := Idle.then (idle_selectAgent env host run _ _ _ _ _) h
  obtain ⟨ready, reading, h⟩ := (reads_readyTasks _ _).then h
  obtain ⟨listed, h⟩ := raiseIf_then h
  obtain ⟨begun, w₂, -, beginning, h⟩ := (quiet_beginTask env task).then h
  obtain ⟨found, -, h⟩ := (reads_selectedExecution run executionId).then h
  obtain ⟨-, h⟩ := raiseIf_then h
  obtain ⟨execution, w₃, opening, h⟩ := bind_eq_ok.mp h
  obtain ⟨agentRun, w₄, starting, h⟩ := bind_eq_ok.mp h
  obtain ⟨before, storedBefore, -, h⟩ := getOrchestrationRun_then h
  obtain ⟨next, w₅, saving, h⟩ := bind_eq_ok.mp h
  obtain ⟨rfl, rfl⟩ := pure_eq_ok.mp h
  have beginning : Quiet w₁.store w₂.store := beginning
  have stored₁ : w₁.store.runs.get? run.id = some run := by rw [s₁, stored]
  have isReady := readyTasks_eq_ok stored₁ reading task (not_not.mp listed)
  rw [s₁] at beginning isReady
  have stored₂ : w₂.store.runs.get? run.id = some run := by rw [beginning.runs, stored]
  obtain ⟨reopening, current', storedCurrent, sameId, sameStatus⟩ :=
    openExecution_eq_ok stored₂ opening
  have toExecution : Changes [.quiet, .moved] w.store w₃.store :=
    (Changes.quiet (by simp) beginning).trans reopening
  have tables := Changes.tables toExecution (by decide)
  have stored₃ : w₃.store.delegations.get? d.id = some d := by
    rw [tables.delegations, named, storedD]
  obtain ⟨mid, a, started, link, runLink, absent, filed, open', filing⟩ :=
    startChild_eq_ok stored₃ starting
  have same : before = current' := by
    rw [filing] at storedBefore
    have kept : w₃.store.runs.get? run.id = some before := by rw [← started.runs, storedBefore]
    exact Option.some.inj (kept.symm.trans storedCurrent)
  subst same
  have saved := saveChange_saved saving
  refine ⟨run, rfl, stored, budget, failures, ⟨d, storedD, own, task, taskId, isReady⟩, mid,
    before, next, d, a, toExecution.trans (.quiet (by simp) started), ?_, sameId,
    link.trans named, runLink, ?_, ?_⟩
  · refine ⟨?_, sameStatus.trans running, own.trans sameId.symm, filed, open', saved.evolved⟩
    rw [started.runs, sameId, storedCurrent]
  · cases old : w.store.runtime.runs.get? agentRun.id with
    | none => rfl
    | some earlier =>
        obtain ⟨later, kept, -⟩ := tables.grown.run old
        cases absent.symm.trans kept
  · rw [saved.filed, filing]

end AgentCompanyOS.Orchestration
