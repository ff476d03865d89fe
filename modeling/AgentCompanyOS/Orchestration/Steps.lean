import AgentCompanyOS.Orchestration.Changes

/-!
# The steps of an orchestration

A transaction of the service that returns is a sequence of `Change`s of the store: a run is
opened or moved, a plan accepted, a plan materialized, a task delegated, a delegation
started. Each change carries what the service had found when it made it. The invariants of
the following modules are proved for every single change.
-/

set_option autoImplicit false

namespace AgentCompanyOS.Orchestration

open Foundation Foundation.Txn Domain AgentCompanyOS.Runtime

/-! ## Changes -/

inductive ChangeKind where
  | quiet | opened | moved | left | completed | accepted | materialized | delegated | started
deriving DecidableEq

/-- A change of a run that leaves its plan and its counters of plans and agent runs alone. -/
structure OrchestrationChange.Plain (change : OrchestrationChange) : Prop where
  planId : change.planId = none
  planVersion : change.planVersion = none
  replans : change.replanDelta = 0
  agentRuns : change.agentRunDelta = 0

/-- Why a run moves, if it does not go on to other work. -/
inductive MoveCause (s : OrchestrationStore) (run next : OrchestrationRun) : Prop
  /-- The run keeps its status. -/
  | kept (same : next.status = run.status)
  | failed (status : next.status = .failed)
  | cancelled (status : next.status = .cancelled)
  /-- The run waits. It was at work, has a plan, or one of its children has returned. -/
  | waits (status : next.status = .waiting)
      (planned : run.status = .running ∨ run.status = .waiting ∨ run.planId ≠ none ∨
        ∃ d ∈ s.delegations.values, d.orchestrationRunId = run.id)

/-- The plan that a run accepts next. -/
structure Accepting (s : OrchestrationStore) (run next : OrchestrationRun) (plan : PlanVersion)
    (replan : Bool) : Prop where
  stored : s.runs.get? run.id = some run
  filed : ∃ found, PlanFiled s plan found
  own : plan.orchestrationRunId = run.id ∧ plan.workspaceId = run.workspaceId
  identity : ∀ id, run.planId = some id → plan.id = id
  order : replan = true ↔ run.planId ≠ none
  version : plan.version.value = (s.plansOf run.id).length + 1
  unorphaned : ∀ last, (s.plansOf run.id).getLast? = some last → replan = true →
    ∀ id ∈ last.taskIds, id ∈ plan.taskIds
  unique : plan.taskIds.Nodup
  evolved : ∃ at', OrchestrationRun.Evolved run next at'
    { status := some .running, planId := some plan.id, planVersion := some plan.version
      replanDelta := if replan = true then 1 else 0 }

/-- The canonical tasks that earlier plans have, the latest materialization first. -/
def lineageOf (s : OrchestrationStore) (plans : List PlanVersion)
    (lineage : List (PyStr × TaskId)) : List (PyStr × TaskId) :=
  plans.foldl
    (fun lineage plan =>
      (((s.materializations.get? plan.key).map fun m => m.tasks).getD []).map
        (fun item => (item.plannedTaskId, item.taskId)) ++ lineage)
    lineage

/-- The tasks that a plan is materialized to: the ones that the lineage has for its planned
tasks, and new ones for the others. -/
structure Materializing (plan : PlanVersion) (lineage : List (PyStr × TaskId))
    (before : DomainStore) (tasks : List MaterializedTask) : Prop where
  planned : tasks.map MaterializedTask.plannedTaskId = plan.taskIds
  source : ∀ item ∈ tasks, lineage.lookup item.plannedTaskId = some item.taskId ∨
    (lineage.lookup item.plannedTaskId = none ∧ before.tasks.get? item.taskId = none)
  apart : ((tasks.filter fun item => (lineage.lookup item.plannedTaskId).isNone).map
    MaterializedTask.taskId).Nodup

/-- Whether a delegation is unstarted or its last agent run is open. -/
def OrchestrationStore.isActive (s : OrchestrationStore) (d : Delegation) : Bool :=
  match (s.attemptsOf d.id).getLast? with
  | none => true
  | some last =>
      match s.runtime.runs.get? last.agentRunId with
      | some run => run.status = .running || run.status = .waiting
      | none => false

/-- The number of active delegations of a run. -/
def OrchestrationStore.activeCount (s : OrchestrationStore) (runId : OrchestrationRunId) : Nat :=
  (s.delegationsOf runId).countP s.isActive

/-- Whether an agent run has failed. -/
def OrchestrationStore.hasFailed (s : OrchestrationStore) (id : AgentRunId) : Bool :=
  (s.runtime.runs.get? id).any (·.status = .failed)

/-- The number of failed children of a run. -/
def OrchestrationStore.failedCount (s : OrchestrationStore) (runId : OrchestrationRunId) : Nat :=
  (s.children runId).dedup.countP s.hasFailed

/-- The delegations of a task in a run, in the order in which they were made. -/
def OrchestrationStore.delegationsFor (s : OrchestrationStore) (runId : OrchestrationRunId)
    (taskId : TaskId) : List Delegation :=
  (s.delegationsOf runId).filter fun d => d.taskId = taskId

/-- What `delegate` has found when it makes a delegation. -/
structure Delegating (s : OrchestrationStore) (run : OrchestrationRun) (mode : DelegationMode)
    (d : Delegation) : Prop where
  stored : s.runs.get? run.id = some run
  running : run.status = .running
  own : d.orchestrationRunId = run.id
  current : run.planId = some d.planId ∧ run.currentPlanVersion = some d.planVersion
  filed : DelegationFiled s d
  iterations : run.agentRunCount + run.replanCount < run.policy.maxIterations
  ordinals : (d.retryOrdinal, d.redelegationOrdinal) =
    nextOrdinals (s.delegationsFor run.id d.taskId) mode
  first : mode = .initial → s.delegationsFor run.id d.taskId = [] ∧
    s.activeCount run.id < run.policy.maxParallelWidth
  retry : mode = .retry → ∃ last, (s.delegationsFor run.id d.taskId).getLast? = some last ∧
    last.retryOrdinal < run.policy.maxRetriesPerTask
  redelegate : mode = .redelegate →
    ∃ last, (s.delegationsFor run.id d.taskId).getLast? = some last ∧
      last.redelegationOrdinal < run.policy.maxRedelegationsPerTask
  others : mode = .redelegate → ∀ earlier ∈ s.delegationsFor run.id d.taskId,
    (earlier.agentDefinitionId, earlier.agentDefinitionVersion) ≠
      (d.agentDefinitionId, d.agentDefinitionVersion)
  known : ∀ text, mode ≠ .unknown text

/-- What `start_delegation` has found when it starts a delegation. -/
structure Starting (s : OrchestrationStore) (run next : OrchestrationRun) (d : Delegation)
    (a : DelegationAttempt) (child : AgentRun) : Prop where
  stored : s.runs.get? run.id = some run
  running : run.status = .running
  own : d.orchestrationRunId = run.id
  filed : AttemptFiled s a d child
  open' : child.status = .running
  evolved : ∃ at', OrchestrationRun.Evolved run next at' { agentRunDelta := 1 }

/-- A task of a run has a successful agent run with a result. -/
def OrchestrationStore.HasResult (s : OrchestrationStore) (runId : OrchestrationRunId)
    (taskId : TaskId) : Prop :=
  ∃ d ∈ s.delegationsOf runId, d.taskId = taskId ∧ ∃ a ∈ s.attemptsOf d.id,
    ∃ child, s.runtime.runs.get? a.agentRunId = some child ∧ child.status = .succeeded ∧
      child.result ≠ none

/-- What holds of a run whose work is done. -/
structure Done (s : OrchestrationStore) (run : OrchestrationRun) : Prop where
  goal : ∃ goal, s.runtime.domain.goals.get? run.goalId = some goal ∧ goal.status = .satisfied
  tasks : ∃ plan m, run.planId = some plan.id ∧ run.currentPlanVersion = some plan.version ∧
    s.plans.get? plan.key = some plan ∧ s.materializations.get? plan.key = some m ∧
    (∀ item ∈ m.tasks, ∃ task, s.runtime.domain.tasks.get? item.taskId = some task ∧
      task.status = .completed) ∧
    ∀ id ∈ plan.required, ∃ item ∈ m.tasks, item.plannedTaskId = id ∧
      s.HasResult run.id item.taskId

/-- One change of the store. -/
inductive Change (s : OrchestrationStore) : ChangeKind → OrchestrationStore → Prop
  | quiet {s' : OrchestrationStore} (h : Quiet s s') : Change s .quiet s'
  | opened (run : OrchestrationRun) (absent : s.runs.get? run.id = none)
      (planning : run.status = .planning)
      (unplanned : run.planId = none ∧ run.currentPlanVersion = none)
      (unused : run.replanCount = 0 ∧ run.agentRunCount = 0)
      (unfailed : run.failedAttemptCount = 0) :
      Change s .opened { s with runs := s.runs.put run }
  | moved (run next : OrchestrationRun) (at' : Instant) (change : OrchestrationChange)
      (stored : s.runs.get? run.id = some run)
      (evolved : OrchestrationRun.Evolved run next at' change) (plain : change.Plain)
      (cause : MoveCause s run next)
      (counted : change.failedDelta = 0 ∨
        next.failedAttemptCount = max run.failedAttemptCount (s.failedCount run.id)) :
      Change s .moved { s with runs := s.runs.put next }
  | left (run next : OrchestrationRun) (at' : Instant) (change : OrchestrationChange)
      (stored : s.runs.get? run.id = some run)
      (evolved : OrchestrationRun.Evolved run next at' change) (plain : change.Plain)
      (open' : run.status = .running ∨ run.status = .waiting)
      (status : next.status = .running ∨ next.status = .planning)
      (uncounted : change.failedDelta = 0) :
      Change s .left { s with runs := s.runs.put next }
  | completed (run next : OrchestrationRun) (at' : Instant)
      (stored : s.runs.get? run.id = some run)
      (evolved : OrchestrationRun.Evolved run next at' { status := some .completed })
      (finished : Done s run) :
      Change s .completed { s with runs := s.runs.put next }
  | accepted (run next : OrchestrationRun) (plan : PlanVersion) (replan : Bool)
      (accepting : Accepting s run next plan replan) :
      Change s .accepted { s with plans := s.plans.put plan, runs := s.runs.put next }
  | materialized {mid : OrchestrationStore} (run : OrchestrationRun) (plan : PlanVersion)
      (m : PlanMaterialization) (stored : s.runs.get? run.id = some run)
      (current : run.planId = some plan.id ∧ run.currentPlanVersion = some plan.version)
      (own : m.orchestrationRunId = run.id)
      (tasks : Materializing plan (lineageOf s (s.plansOf run.id).dropLast []) s.runtime.domain
        m.tasks)
      (between : Quiet s mid) (filed : MaterializationFiled mid m plan) :
      Change s .materialized { mid with materializations := mid.materializations.put m }
  | delegated (run : OrchestrationRun) (mode : DelegationMode) (d : Delegation)
      (delegating : Delegating s run mode d) :
      Change s .delegated { s with delegations := s.delegations.put d }
  | started (run next : OrchestrationRun) (d : Delegation) (a : DelegationAttempt)
      (child : AgentRun) (starting : Starting s run next d a child) :
      Change s .started { s with attempts := s.attempts ++ [a], runs := s.runs.put next }

/-- Any number of changes of the kinds in `K`. -/
def Changes (K : List ChangeKind) : OrchestrationStore → OrchestrationStore → Prop :=
  Relation.ReflTransGen fun s s' => ∃ kind ∈ K, Change s kind s'

namespace Changes

variable {K K' : List ChangeKind} {s s' s'' : OrchestrationStore}

theorem refl (s : OrchestrationStore) : Changes K s s := Relation.ReflTransGen.refl

theorem trans (h : Changes K s s') (h' : Changes K s' s'') : Changes K s s'' :=
  Relation.ReflTransGen.trans h h'

theorem single {kind : ChangeKind} (allowed : kind ∈ K) (h : Change s kind s') :
    Changes K s s' := Relation.ReflTransGen.single ⟨kind, allowed, h⟩

theorem quiet (allowed : .quiet ∈ K) (h : Quiet s s') : Changes K s s' :=
  single allowed (.quiet h)

theorem mono (wider : ∀ k ∈ K, k ∈ K') (h : Changes K s s') : Changes K' s s' :=
  Relation.ReflTransGen.mono (fun _ _ ⟨kind, allowed, change⟩ => ⟨kind, wider kind allowed, change⟩)
    _ _ h

/-- What every single change keeps. -/
theorem keeps {P : OrchestrationStore → Prop}
    (step : ∀ {s s' kind}, kind ∈ K → Change s kind s' → P s → P s') (h : Changes K s s')
    (hs : P s) : P s' := by
  induction h with
  | refl => exact hs
  | tail _ last ih =>
      obtain ⟨kind, allowed, change⟩ := last
      exact step allowed change ih

end Changes

/-- The tables but those of the runs and the events are as they were. -/
structure SameTables (s s' : OrchestrationStore) : Prop where
  plans : s'.plans = s.plans
  materializations : s'.materializations = s.materializations
  delegations : s'.delegations = s.delegations
  attempts : s'.attempts = s.attempts
  grown : Grown s.runtime s'.runtime

/-- The kinds of changes that only move runs. -/
abbrev movingKinds : List ChangeKind := [.quiet, .moved, .left, .completed]

/-- Moving runs leaves the other tables alone. -/
theorem Changes.tables {K : List ChangeKind} {s s' : OrchestrationStore} (h : Changes K s s')
    (moving : ∀ k ∈ K, k ∈ movingKinds) : SameTables s s' := by
  refine h.keeps (P := SameTables s) (fun {t t' kind} allowed change same => ?_)
    ⟨rfl, rfl, rfl, rfl, .refl _⟩
  have member := moving kind allowed
  cases change with
  | quiet between =>
      exact ⟨between.plans.trans same.plans,
        between.materializations.trans same.materializations,
        between.delegations.trans same.delegations, between.attempts.trans same.attempts,
        same.grown.trans between.grown⟩
  | moved => exact ⟨same.plans, same.materializations, same.delegations, same.attempts, same.grown⟩
  | left => exact ⟨same.plans, same.materializations, same.delegations, same.attempts, same.grown⟩
  | completed =>
      exact ⟨same.plans, same.materializations, same.delegations, same.attempts, same.grown⟩
  | opened | accepted | materialized | delegated | started => simp [movingKinds] at member

/-! ## Evolved runs -/

namespace OrchestrationRun.Evolved

variable {run next : OrchestrationRun} {at' : Instant} {change : OrchestrationChange}

theorem id_eq (h : Evolved run next at' change) : next.id = run.id :=
  (congrArg OrchestrationFields.id h.fields).trans rfl

theorem workspace_eq (h : Evolved run next at' change) : next.workspaceId = run.workspaceId :=
  (congrArg OrchestrationFields.workspaceId h.fields).trans rfl

theorem goal_eq (h : Evolved run next at' change) : next.goalId = run.goalId :=
  (congrArg OrchestrationFields.goalId h.fields).trans rfl

theorem policy_eq (h : Evolved run next at' change) : next.policy = run.policy :=
  (congrArg OrchestrationFields.policy h.fields).trans rfl

theorem status_eq (h : Evolved run next at' change) :
    next.status = change.status.getD run.status :=
  (congrArg OrchestrationFields.status h.fields).trans rfl

theorem planId_eq (h : Evolved run next at' change) :
    next.planId = (change.planId <|> run.planId) :=
  (congrArg OrchestrationFields.planId h.fields).trans rfl

theorem currentPlanVersion_eq (h : Evolved run next at' change) :
    next.currentPlanVersion = (change.planVersion <|> run.currentPlanVersion) :=
  (congrArg OrchestrationFields.currentPlanVersion h.fields).trans rfl

theorem replanCount_eq (h : Evolved run next at' change) :
    next.replanCount = run.replanCount + change.replanDelta :=
  (congrArg OrchestrationFields.replanCount h.fields).trans rfl

theorem agentRunCount_eq (h : Evolved run next at' change) :
    next.agentRunCount = run.agentRunCount + change.agentRunDelta :=
  (congrArg OrchestrationFields.agentRunCount h.fields).trans rfl

theorem failedAttemptCount_eq (h : Evolved run next at' change) :
    next.failedAttemptCount = run.failedAttemptCount + change.failedDelta :=
  (congrArg OrchestrationFields.failedAttemptCount h.fields).trans rfl

/-- A plain change leaves the plan and the counters alone. -/
theorem plain (h : Evolved run next at' change) (plain : change.Plain) :
    next.planId = run.planId ∧ next.currentPlanVersion = run.currentPlanVersion ∧
      next.replanCount = run.replanCount ∧ next.agentRunCount = run.agentRunCount := by
  refine ⟨?_, ?_, ?_, ?_⟩
  · rw [h.planId_eq, plain.planId]
    rfl
  · rw [h.currentPlanVersion_eq, plain.planVersion]
    rfl
  · rw [h.replanCount_eq, plain.replans, Nat.add_zero]
  · rw [h.agentRunCount_eq, plain.agentRuns, Nat.add_zero]

/-- A run that has ended does not change its status. -/
theorem status_of_terminal (h : Evolved run next at' change) (ended : run.status.terminal = true) :
    next.status = run.status := by
  rcases h.legal with same | allowed
  · exact same
  · cases status : run.status <;> rw [status] at ended allowed <;>
      first | cases allowed | cases ended

end OrchestrationRun.Evolved

/-! ## What is never taken back -/

/-- A later record of a run; a run that has ended keeps its status, its plan and its
counters. -/
structure OrchestrationRun.Later (before after : OrchestrationRun) : Prop where
  id : after.id = before.id
  workspace : after.workspaceId = before.workspaceId
  goal : after.goalId = before.goalId
  policy : after.policy = before.policy
  planned : ∀ planId, before.planId = some planId → after.planId = some planId
  final : before.status.terminal = true → after.status = before.status ∧
    after.planId = before.planId ∧ after.currentPlanVersion = before.currentPlanVersion

namespace OrchestrationRun.Later

theorem refl (run : OrchestrationRun) : run.Later run :=
  ⟨rfl, rfl, rfl, rfl, fun _ named => named, fun _ => ⟨rfl, rfl, rfl⟩⟩

theorem trans {a b c : OrchestrationRun} (h : a.Later b) (h' : b.Later c) : a.Later c := by
  refine ⟨h'.id.trans h.id, h'.workspace.trans h.workspace, h'.goal.trans h.goal,
    h'.policy.trans h.policy, fun planId named => h'.planned planId (h.planned planId named), ?_⟩
  intro ended
  obtain ⟨status, planId, version⟩ := h.final ended
  rw [← status] at ended
  obtain ⟨status', planId', version'⟩ := h'.final ended
  exact ⟨status'.trans status, planId'.trans planId, version'.trans version⟩

/-- A change that leaves the plan alone. -/
theorem of_evolved {run next : OrchestrationRun} {at' : Instant} {change : OrchestrationChange}
    (evolved : OrchestrationRun.Evolved run next at' change) (planId : change.planId = none)
    (version : change.planVersion = none) : run.Later next := by
  have samePlan : next.planId = run.planId := by
    rw [evolved.planId_eq, planId]
    rfl
  have sameVersion : next.currentPlanVersion = run.currentPlanVersion := by
    rw [evolved.currentPlanVersion_eq, version]
    rfl
  exact ⟨evolved.id_eq, evolved.workspace_eq, evolved.goal_eq, evolved.policy_eq,
    fun _ named => samePlan.trans named,
    fun ended => ⟨evolved.status_of_terminal ended, samePlan, sameVersion⟩⟩

/-- The acceptance of a plan, which no ended run has. -/
theorem of_accepting {s : OrchestrationStore} {run next : OrchestrationRun} {plan : PlanVersion}
    {replan : Bool} (accepting : Accepting s run next plan replan) : run.Later next := by
  obtain ⟨at', evolved⟩ := accepting.evolved
  refine ⟨evolved.id_eq, evolved.workspace_eq, evolved.goal_eq, evolved.policy_eq, ?_, ?_⟩
  · intro planId named
    rw [evolved.planId_eq]
    exact congrArg some (accepting.identity planId named)
  · intro ended
    have running := evolved.status_eq
    rw [evolved.status_of_terminal ended] at running
    rw [running] at ended
    cases ended

end OrchestrationRun.Later

/-- Every record of the first store is in the second; the runs are there as later ones. -/
structure Kept (s s' : OrchestrationStore) : Prop where
  runs : s.runs.Evolves OrchestrationRun.Later s'.runs
  plans : s.plans.Evolves Eq s'.plans
  materializations : s.materializations.Evolves Eq s'.materializations
  delegations : s.delegations.Evolves Eq s'.delegations
  attempts : s.attempts <+: s'.attempts
  grown : Grown s.runtime s'.runtime

namespace Kept

variable {s s' s'' : OrchestrationStore}

theorem refl (s : OrchestrationStore) : Kept s s :=
  ⟨.refl OrchestrationRun.Later.refl _, .refl (fun _ => rfl) _, .refl (fun _ => rfl) _,
    .refl (fun _ => rfl) _, List.prefix_rfl, .refl _⟩

theorem trans (h : Kept s s') (h' : Kept s' s'') : Kept s s'' :=
  ⟨h.runs.trans (fun first second => first.trans second) h'.runs,
    h.plans.trans (fun first second => first.trans second) h'.plans,
    h.materializations.trans (fun first second => first.trans second) h'.materializations,
    h.delegations.trans (fun first second => first.trans second) h'.delegations,
    h.attempts.trans h'.attempts, h.grown.trans h'.grown⟩

/-- A stored run is replaced by a later one. -/
theorem put_run {run next : OrchestrationRun} (stored : s.runs.get? run.id = some run)
    (later : run.Later next) : Kept s { s with runs := s.runs.put next } := by
  refine ⟨?_, .refl (fun _ => rfl) _, .refl (fun _ => rfl) _, .refl (fun _ => rfl) _,
    List.prefix_rfl, .refl _⟩
  refine .put OrchestrationRun.Later.refl fun old present => ?_
  rw [show OrchestrationRun.key next = run.id from later.id] at present
  obtain rfl : run = old := Option.some.inj (stored.symm.trans present)
  exact later

end Kept

theorem Quiet.kept {s s' : OrchestrationStore} (h : Quiet s s') : Kept s s' := by
  refine ⟨?_, ?_, ?_, ?_, h.attempts ▸ List.prefix_rfl, h.grown⟩
  · rw [h.runs]
    exact .refl OrchestrationRun.Later.refl _
  · rw [h.plans]
    exact .refl (fun _ => rfl) _
  · rw [h.materializations]
    exact .refl (fun _ => rfl) _
  · rw [h.delegations]
    exact .refl (fun _ => rfl) _

/-- No change takes a record back. -/
theorem Change.kept {s s' : OrchestrationStore} {kind : ChangeKind} (h : Change s kind s') :
    Kept s s' := by
  cases h with
  | quiet between => exact between.kept
  | opened run absent =>
      exact ⟨.put_new OrchestrationRun.Later.refl absent, .refl (fun _ => rfl) _,
        .refl (fun _ => rfl) _, .refl (fun _ => rfl) _, List.prefix_rfl, .refl _⟩
  | moved run next at' change stored evolved plain =>
      exact .put_run stored (.of_evolved evolved plain.planId plain.planVersion)
  | left run next at' change stored evolved plain =>
      exact .put_run stored (.of_evolved evolved plain.planId plain.planVersion)
  | completed run next at' stored evolved => exact .put_run stored (.of_evolved evolved rfl rfl)
  | accepted run next plan replan accepting =>
      obtain ⟨found, filed⟩ := accepting.filed
      have later := Kept.put_run accepting.stored (.of_accepting accepting)
      exact ⟨later.runs, .put_new (fun _ => rfl) filed.absent, later.materializations,
        later.delegations, later.attempts, later.grown⟩
  | materialized run plan m stored current own tasks between filed =>
      refine between.kept.trans ?_
      exact ⟨.refl OrchestrationRun.Later.refl _, .refl (fun _ => rfl) _,
        .put_new (fun _ => rfl) filed.absent, .refl (fun _ => rfl) _, List.prefix_rfl, .refl _⟩
  | delegated run mode d delegating =>
      exact ⟨.refl OrchestrationRun.Later.refl _, .refl (fun _ => rfl) _, .refl (fun _ => rfl) _,
        .put_new (fun _ => rfl) delegating.filed.absent, List.prefix_rfl, .refl _⟩
  | started run next d a child starting =>
      obtain ⟨at', evolved⟩ := starting.evolved
      have later := Kept.put_run starting.stored (.of_evolved evolved rfl rfl)
      exact ⟨later.runs, later.plans, later.materializations, later.delegations,
        List.prefix_append _ _, later.grown⟩

theorem Changes.kept {K : List ChangeKind} {s s' : OrchestrationStore} (h : Changes K s s') :
    Kept s s' :=
  h.keeps (P := Kept s) (fun _ change kept => kept.trans change.kept) (.refl s)

/-! ## Saving a run -/

section Saving

variable {env : Env} {w w' : World OrchestrationStore} {run next : OrchestrationRun}
  {change : OrchestrationChange}

/-- A stored run is saved with a change. -/
structure SavedRun (s s' : OrchestrationStore) (run next : OrchestrationRun)
    (change : OrchestrationChange) : Prop where
  evolved : ∃ at', OrchestrationRun.Evolved run next at' change
  filed : s' = { s with runs := s.runs.put next }
  stored : s'.runs.get? run.id = some next

theorem saveChange_saved (h : saveChange env run change w = .ok next w') :
    SavedRun w.store w'.store run next change := by
  obtain ⟨at', previous, evolved, found, -, filed⟩ := saveChange_eq_ok h
  refine ⟨⟨at', evolved⟩, filed, ?_⟩
  have key : OrchestrationRun.key next = run.id := evolved.id_eq
  rw [filed, ← key]
  exact Registry.get?_put_self _ next

/-- A plain change is a move. -/
theorem SavedRun.moved {s s' : OrchestrationStore} (h : SavedRun s s' run next change)
    (stored : s.runs.get? run.id = some run) (plain : change.Plain)
    (cause : next.status = change.status.getD run.status → MoveCause s run next)
    (counted : change.failedDelta = 0 ∨
      next.failedAttemptCount = max run.failedAttemptCount (s.failedCount run.id) := by
        exact .inl rfl) :
    Change s .moved s' := by
  obtain ⟨at', evolved⟩ := h.evolved
  rw [h.filed]
  exact .moved run next at' change stored evolved plain (cause evolved.status_eq) counted

/-- A run goes on to other work. -/
theorem SavedRun.left {s s' : OrchestrationStore} (h : SavedRun s s' run next change)
    (stored : s.runs.get? run.id = some run) (plain : change.Plain)
    (open' : run.status = .running ∨ run.status = .waiting)
    (status : change.status = some .running ∨ change.status = some .planning)
    (uncounted : change.failedDelta = 0 := by rfl) :
    Change s .left s' := by
  obtain ⟨at', evolved⟩ := h.evolved
  rw [h.filed]
  refine .left run next at' change stored evolved plain open' ?_ uncounted
  rcases status with named | named
  · exact .inl (by rw [evolved.status_eq, named]; rfl)
  · exact .inr (by rw [evolved.status_eq, named]; rfl)

theorem SavedRun.runtime {s s' : OrchestrationStore} (h : SavedRun s s' run next change) :
    s'.runtime = s.runtime := by
  rw [h.filed]

end Saving

/-- An identifier is filed under itself. -/
theorem id_of_stored {s : OrchestrationStore} {id : OrchestrationRunId} {run : OrchestrationRun}
    (stored : s.runs.get? id = some run) : run.id = id := by
  have key : OrchestrationRun.key run = id := Registry.key_of_get? stored
  exact key

end AgentCompanyOS.Orchestration
