import AgentCompanyOS.Runtime.Release
import AgentCompanyOS.Orchestration.Checks
import AgentCompanyOS.Orchestration.Results

/-!
# Budgets of agent runs

The limits on the agent runs of a task and on the iterations of a run are checked when a
delegation is made, and the counters move when one is started or a replan is accepted. The
two commands have guards of their own: a delegation can be started again after its agent run
has ended, and two delegations that were made under the limit can both be started. The
bounds hold in the runs in which the calls that pass the checks of the code keep the guard at
the start as well.
-/

set_option autoImplicit false

namespace AgentCompanyOS.Orchestration

open Foundation Foundation.Txn Domain AgentCompanyOS.Runtime

variable {s s' : OrchestrationStore} {kind : ChangeKind} {K : List ChangeKind}

/-! ## Runs that keep a guard -/

/-- Every step is taken in a state in which it passes a guard. -/
def Company.meets (platform : Platform) (guard : Company → Label → Bool) :
    Company → List Label → Bool
  | _, [] => true
  | c, label :: rest => guard c label && Company.meets platform guard (c.step platform label) rest

/-- What a guarded step keeps holds in every state of a guarded run. -/
theorem Company.meets_keeps (platform : Platform) {guard : Company → Label → Bool}
    {P : Company → Prop} (start : P .empty)
    (step : ∀ c label, c.Sound → P c → guard c label = true → P (c.step platform label))
    {labels : List Label} (met : Company.meets platform guard .empty labels = true) :
    P (Company.after platform labels) := by
  have run : ∀ (labels : List Label) (c : Company), c.Sound → P c →
      Company.meets platform guard c labels = true →
      P (labels.foldl (Company.step platform) c) := by
    intro labels
    induction labels with
    | nil => exact fun c _ held _ => held
    | cons label rest ih =>
        intro c sound held met
        obtain ⟨here, later⟩ := Bool.and_eq_true_iff.mp met
        exact ih _ (step_sound platform sound label) (step c label sound held here) later
  exact run labels _ .empty start met

/-! ## Starting a delegation -/

/-- The run and the delegation that a step asks to start. -/
def Label.starts : Label → Option (OrchestrationRunId × DelegationId)
  | .command _ (.startDelegation _ runId delegationId _ _ _) => some (runId, delegationId)
  | .command _ (.execute _ runId delegationId _ _) => some (runId, delegationId)
  | _ => none

/-- A step that asks to start a delegation passes the checks of `start_delegation`. -/
def Company.startPasses (platform : Platform) (c : Company) : Label → Bool
  | .command host (.startDelegation workspaceId runId delegationId expected context _) =>
      c.passes (startChecks platform.toEnv host workspaceId runId delegationId expected context)
  | .command host (.execute workspaceId runId delegationId expected context) =>
      c.passes (startChecks platform.toEnv host workspaceId runId delegationId expected context)
  | _ => false

/-- A step that asks to start a delegation passes the checks and starts it, or it leaves the
tables alone. -/
theorem start_step (platform : Platform) (c : Company) {label : Label}
    {runId : OrchestrationRunId} {delegationId : DelegationId}
    (h : label.starts = some (runId, delegationId)) :
    Quiet c.store (c.step platform label).store ∨ c.startPasses platform label = true ∧
      ∃ run child mid, run.id = runId ∧
      DelegationStarted c.store mid run delegationId child ∧
      Quiet mid (c.step platform label).store := by
  -- The transaction returns with a started agent run, or it leaves no trace.
  have ran (host : OrchestrationHost) (workspaceId : WorkspaceId) (expected : Version)
      (context : SuppliedContext) (executionId : Option ExecutionId) :
      let m := startDelegation platform.toEnv host workspaceId runId delegationId expected context
        executionId
      (c.ran m).store = c.store ∨ c.passes (startChecks platform.toEnv host workspaceId runId
        delegationId expected context) = true ∧ ∃ run child, run.id = runId ∧
          DelegationStarted c.store (c.ran m).store run delegationId child := by
    intro m
    cases replied : c.reply m with
    | ok child =>
        obtain ⟨w', returned, same⟩ := reply_eq_ok replied
        obtain ⟨run, named, started⟩ := startDelegation_eq_ok returned
        rw [same]
        exact .inr ⟨c.passes_of (startDelegation_checks returned), run, child, named, started⟩
    | error e => exact .inl (ran_of_error (.atomic _) replied)
  cases label with
  | command host command =>
      cases command with
      | startDelegation workspaceId run delegation expected context executionId =>
          cases h
          rcases ran host workspaceId expected context executionId with
            same | ⟨passed, run, child, named, started⟩
          · exact .inl (same ▸ .refl c.store)
          · exact .inr ⟨passed, run, child, _, named, started, .refl _⟩
      | execute workspaceId run delegation expected context =>
          cases h
          have awaits : Quiet (c.ran (startDelegation platform.toEnv host workspaceId runId
              delegationId expected context none)).store (c.step platform (.command host
                (.execute workspaceId runId delegationId expected context))).store := by
            show Quiet _ (c.issue platform host _).store
            unfold Company.issue
            dsimp only
            split
            · exact store_awaiting platform _ _ _ _
            · exact .refl _
          rcases ran host workspaceId expected context none with
            same | ⟨passed, run, child, named, started⟩
          · rw [same] at awaits
            exact .inl awaits
          · exact .inr ⟨passed, run, child, _, named, started, awaits⟩
      | _ => cases h
  | _ => cases h

/-- Any other step starts nothing. -/
theorem started_not_mem (c : Company) {label : Label} (h : label.starts = none) :
    .started ∉ stepKinds c label := by
  cases label with
  | command host command =>
      cases command with
      | startDelegation | execute => cases h
      | _ => simp [stepKinds, commandKinds]
  | advance id answer =>
      show .started ∉ ((c.call? id).map fun call => pointKinds call.point).getD []
      cases c.call? id with
      | none => exact List.not_mem_nil
      | some call =>
          show .started ∉ pointKinds call.point
          cases call.point <;> simp [pointKinds]
  | _ => simp [stepKinds]

/-! ## What changes leave alone -/

theorem Change.attempts (h : Change s kind s') (other : kind ≠ .started) :
    s'.attempts = s.attempts := by
  cases h with
  | quiet between => exact between.attempts
  | materialized run plan m stored current own tasks between => exact between.attempts
  | started => exact (other rfl).elim
  | _ => rfl

theorem Changes.attempts (h : Changes K s s') (other : .started ∉ K) :
    s'.attempts = s.attempts :=
  h.keeps (P := fun t => t.attempts = s.attempts) (fun {_ _ _} allowed change same =>
    (change.attempts fun eq => other (eq ▸ allowed)).trans same) rfl

theorem Change.delegations (h : Change s kind s') (other : kind ≠ .delegated) :
    s'.delegations = s.delegations := by
  cases h with
  | quiet between => exact between.delegations
  | materialized run plan m stored current own tasks between => exact between.delegations
  | delegated => exact (other rfl).elim
  | _ => rfl

theorem Changes.delegations (h : Changes K s s') (other : .delegated ∉ K) :
    s'.delegations = s.delegations :=
  h.keeps (P := fun t => t.delegations = s.delegations) (fun {_ _ _} allowed change same =>
    (change.delegations fun eq => other (eq ▸ allowed)).trans same) rfl

/-- A run that is there after a change was there before as an earlier record, or is new. -/
theorem Kept.run_from (h : Kept s s') {next : OrchestrationRun} (mem : next ∈ s'.runs.values) :
    (∃ run ∈ s.runs.values, run.Later next) ∨ s.runs.get? next.id = none := by
  cases found : s.runs.get? next.id with
  | none => exact .inr rfl
  | some run =>
      obtain ⟨later, stored, follows⟩ := h.runs.later found
      have here : s'.runs.get? next.id = some next := Registry.get?_of_mem_values mem
      obtain rfl : later = next := Option.some.inj (stored.symm.trans here)
      exact .inl ⟨run, Registry.mem_values_of_get? found, follows⟩

/-! ## The delegations of a task -/

theorem mem_delegationsFor {runId : OrchestrationRunId} {taskId : TaskId} {d : Delegation} :
    d ∈ s.delegationsFor runId taskId ↔
      d ∈ s.delegations.values ∧ d.orchestrationRunId = runId ∧ d.taskId = taskId := by
  unfold OrchestrationStore.delegationsFor
  rw [List.mem_filter, mem_delegationsOf, decide_eq_true_eq, and_assoc]

/-- A new delegation comes last among those of its task. -/
theorem delegationsFor_put {d : Delegation} (absent : s.delegations.get? d.id = none)
    (runId : OrchestrationRunId) (taskId : TaskId) :
    OrchestrationStore.delegationsFor { s with delegations := s.delegations.put d } runId taskId =
      s.delegationsFor runId taskId ++
        if d.orchestrationRunId = runId ∧ d.taskId = taskId then [d] else [] := by
  unfold OrchestrationStore.delegationsFor OrchestrationTables.delegationsOf
  show ((s.delegations.put d).values.filter _).filter _ = _
  rw [Registry.values_put_of_absent absent, List.filter_append, List.filter_append]
  congr 1
  by_cases own : d.orchestrationRunId = runId
  · by_cases same : d.taskId = taskId
    · simp [own, same]
    · simp [own, same]
  · simp [own]

/-- Each delegation of a task adds a retry or a redelegation to the one before it, within the
limits of the policy. -/
structure Numbered (policy : OrchestrationPolicy) (ds : List Delegation) : Prop where
  count : ∀ (i : Nat) (d : Delegation), ds[i]? = some d →
    d.retryOrdinal + d.redelegationOrdinal = i
  bounds : ∀ d ∈ ds, d.retryOrdinal ≤ policy.maxRetriesPerTask ∧
    d.redelegationOrdinal ≤ policy.maxRedelegationsPerTask

namespace Numbered

variable {policy : OrchestrationPolicy} {ds : List Delegation}

theorem nil : Numbered policy [] := ⟨fun i d found => by simp at found, fun d mem => by cases mem⟩

/-- There is one delegation at the start, and one for each retry and each redelegation. -/
theorem length_le (h : Numbered policy ds) :
    ds.length ≤ 1 + policy.maxRetriesPerTask + policy.maxRedelegationsPerTask := by
  cases final : ds.getLast? with
  | none =>
      rw [List.getLast?_eq_none_iff.mp final]
      exact Nat.zero_le _
  | some last =>
      have counted := h.count (ds.length - 1) last (by rw [← List.getLast?_eq_getElem?, final])
      have bounds := h.bounds last (List.mem_of_getLast? final)
      omega

/-- `delegate` numbers a new delegation by the last one. -/
theorem delegate {run : OrchestrationRun} {mode : DelegationMode} {d : Delegation}
    (delegating : Delegating s run mode d)
    (h : Numbered run.policy (s.delegationsFor run.id d.taskId)) :
    Numbered run.policy (s.delegationsFor run.id d.taskId ++ [d]) := by
  have ordinals := delegating.ordinals
  -- The ordinals of the new delegation, by the mode.
  have made : d.retryOrdinal + d.redelegationOrdinal = (s.delegationsFor run.id d.taskId).length ∧
      d.retryOrdinal ≤ run.policy.maxRetriesPerTask ∧
      d.redelegationOrdinal ≤ run.policy.maxRedelegationsPerTask := by
    cases final : (s.delegationsFor run.id d.taskId).getLast? with
    | none =>
        have empty := List.getLast?_eq_none_iff.mp final
        simp only [nextOrdinals, final, Prod.mk.injEq] at ordinals
        rw [empty, ordinals.1, ordinals.2]
        exact ⟨rfl, Nat.zero_le _, Nat.zero_le _⟩
    | some last =>
        have nonempty := List.ne_nil_of_mem (List.mem_of_getLast? final)
        have positive := List.length_pos_iff.mpr nonempty
        have counted := h.count ((s.delegationsFor run.id d.taskId).length - 1) last
          (by rw [← List.getLast?_eq_getElem?, final])
        have bounds := h.bounds last (List.mem_of_getLast? final)
        simp only [nextOrdinals, final, Prod.mk.injEq] at ordinals
        cases mode with
        | initial => exact (nonempty (delegating.first rfl).1).elim
        | retry =>
            obtain ⟨found, same, below⟩ := delegating.retry rfl
            obtain rfl : last = found := Option.some.inj (final.symm.trans same)
            simp only [if_true, if_false, reduceCtorEq] at ordinals
            omega
        | redelegate =>
            obtain ⟨found, same, below⟩ := delegating.redelegate rfl
            obtain rfl : last = found := Option.some.inj (final.symm.trans same)
            simp only [if_true, if_false, reduceCtorEq] at ordinals
            omega
        | unknown text => exact (delegating.known text rfl).elim
  constructor
  · intro i other found
    rcases Nat.lt_trichotomy i (s.delegationsFor run.id d.taskId).length with below | same | above
    · rw [List.getElem?_append_left below] at found
      exact h.count i other found
    · rw [same, List.getElem?_concat_length] at found
      rw [← Option.some.inj found, same]
      exact made.1
    · rw [List.getElem?_eq_none (by rw [List.length_append]; exact above)] at found
      cases found
  · intro other mem
    rcases List.mem_append.mp mem with old | new
    · exact h.bounds other old
    · rw [List.mem_singleton.mp new]
      exact made.2

end Numbered

/-- The delegations of every task of every run are numbered. -/
def AllNumbered (s : OrchestrationStore) : Prop :=
  ∀ run ∈ s.runs.values, ∀ taskId, Numbered run.policy (s.delegationsFor run.id taskId)

theorem Change.allNumbered (h : Change s kind s') (ledger : Ledger s) (held : AllNumbered s) :
    AllNumbered s' := by
  -- The runs of the new store have the numbered delegations of the old one.
  have old : ∀ run ∈ s'.runs.values, ∀ taskId,
      Numbered run.policy (s.delegationsFor run.id taskId) := by
    intro next mem taskId
    rcases h.kept.run_from mem with ⟨run, here, later⟩ | absent
    · rw [later.policy, later.id]
      exact held run here taskId
    · have empty : s.delegationsFor next.id taskId = [] := by
        refine List.eq_nil_iff_forall_not_mem.mpr fun d listed => ?_
        obtain ⟨stored, own, -⟩ := mem_delegationsFor.mp listed
        obtain ⟨run, found, -⟩ := ledger.delegated d stored
        rw [own, absent] at found
        cases found
      rw [empty]
      exact .nil
  by_cases delegates : kind = .delegated
  · cases h with
    | delegated run mode d delegating =>
        intro next mem taskId
        show Numbered _ (OrchestrationStore.delegationsFor _ _ _)
        rw [delegationsFor_put delegating.filed.absent]
        split
        · next same =>
            obtain ⟨own, rfl⟩ := same
            have here : s.runs.get? next.id = some next := Registry.get?_of_mem_values mem
            rw [← own, delegating.own, delegating.stored] at here
            obtain rfl := Option.some.inj here
            exact .delegate delegating (old run mem d.taskId)
        · rw [List.append_nil]
          exact old next mem taskId
    | _ => cases delegates
  · have same := h.delegations delegates
    intro run mem taskId
    have list : s'.delegationsFor run.id taskId = s.delegationsFor run.id taskId := by
      unfold OrchestrationStore.delegationsFor OrchestrationTables.delegationsOf
      rw [same]
    rw [list]
    exact old run mem taskId

theorem after_allNumbered (platform : Platform) (labels : List Label) :
    AllNumbered (Company.after platform labels).store :=
  after_keeps platform (fun change ledger held => change.allNumbered ledger held)
    (fun _ mem => (List.not_mem_nil mem).elim) labels

/-! ## The agent runs of a task -/

/-- The agent runs that were started for a task. -/
def OrchestrationStore.runsFor (s : OrchestrationStore) (taskId : TaskId) : List AgentRunId :=
  ((s.attempts.filter fun a => (s.delegations.get? a.delegationId).any (·.taskId = taskId)).map
    DelegationAttempt.agentRunId).dedup

/-- No delegation was started twice. -/
def StartedOnce (s : OrchestrationStore) : Prop :=
  (s.attempts.map DelegationAttempt.delegationId).Nodup

theorem StartedOnce.attempts_le (h : StartedOnce s) (id : DelegationId) :
    (s.attemptsOf id).length ≤ 1 := by
  have nodup : ((s.attemptsOf id).map DelegationAttempt.delegationId).Nodup :=
    h.sublist (List.filter_sublist.map _)
  have inside : (s.attemptsOf id).map DelegationAttempt.delegationId ⊆ [id] := by
    intro named mem
    obtain ⟨a, listed, rfl⟩ := List.mem_map.mp mem
    exact List.mem_singleton.mpr (of_decide_eq_true (List.mem_filter.mp listed).2)
  have small := (List.subperm_of_subset nodup inside).length_le
  rw [List.length_map] at small
  exact small

/-- A delegation assigns a canonical task of its run. -/
def Assigned (s : OrchestrationStore) : Prop :=
  ∀ d ∈ s.delegations.values, ∃ plan m, s.plans.get? (d.planId, d.planVersion) = some plan ∧
    plan.orchestrationRunId = d.orchestrationRunId ∧
    s.materializations.get? (d.planId, d.planVersion) = some m ∧
    ∃ item ∈ m.tasks, item.plannedTaskId = d.plannedTaskId ∧ item.taskId = d.taskId

theorem Change.assigned (h : Change s kind s') (held : Assigned s) : Assigned s' := by
  have kept := h.kept
  have old : ∀ d ∈ s.delegations.values, ∃ plan m,
      s'.plans.get? (d.planId, d.planVersion) = some plan ∧
      plan.orchestrationRunId = d.orchestrationRunId ∧
      s'.materializations.get? (d.planId, d.planVersion) = some m ∧
      ∃ item ∈ m.tasks, item.plannedTaskId = d.plannedTaskId ∧ item.taskId = d.taskId := by
    intro d mem
    obtain ⟨plan, m, stored, own, filed, item⟩ := held d mem
    exact ⟨plan, m, kept.plan stored, own, kept.materialization filed, item⟩
  by_cases delegates : kind = .delegated
  · cases h with
    | delegated run mode d delegating =>
        intro other mem
        rcases Registry.mem_values_put.mp mem with rfl | ⟨here, -⟩
        · obtain ⟨plan, stored, own⟩ := delegating.filed.plan
          obtain ⟨m, filed, item⟩ := delegating.filed.task
          exact ⟨plan, m, stored, own, filed, item⟩
        · exact old other here
    | _ => cases delegates
  · intro d mem
    rw [h.delegations delegates] at mem
    exact old d mem

theorem after_assigned (platform : Platform) (labels : List Label) :
    Assigned (Company.after platform labels).store :=
  after_keeps platform (fun change _ held => change.assigned held)
    (fun _ mem => (List.not_mem_nil mem).elim) labels

/-- The delegations of a canonical task belong to the run that it was materialized for. -/
theorem Assigned.own (h : Assigned s) (materials : Materials s) {d : Delegation}
    (mem : d ∈ s.delegations.values) {m : PlanMaterialization}
    (listed : m ∈ s.materializations.values) {item : MaterializedTask} (here : item ∈ m.tasks)
    (same : d.taskId = item.taskId) : d.orchestrationRunId = m.orchestrationRunId := by
  obtain ⟨plan, m', stored, own, filed, item', here', -, task⟩ := h d mem
  have listed' := Registry.mem_values_of_get? filed
  obtain ⟨plan', stored', own', -⟩ := materials.covers m' listed'
  have key : PlanMaterialization.key m' = (d.planId, d.planVersion) := Registry.key_of_get? filed
  rw [key, stored] at stored'
  obtain rfl := Option.some.inj stored'
  have joint := (materials.injective m' listed' m listed item' here' item here
    (task.trans same)).1
  exact (own.symm.trans own').trans joint

/-- Started once each, the delegations of a task have no more agent runs than there are
delegations. -/
theorem StartedOnce.runsFor_le (h : StartedOnce s) {runId : OrchestrationRunId} {taskId : TaskId}
    (own : ∀ d ∈ s.delegations.values, d.taskId = taskId → d.orchestrationRunId = runId) :
    (s.runsFor taskId).length ≤ (s.delegationsFor runId taskId).length := by
  have nodup : ((s.attempts.filter fun a => (s.delegations.get? a.delegationId).any
      (·.taskId = taskId)).map DelegationAttempt.delegationId).Nodup :=
    h.sublist (List.filter_sublist.map _)
  have inside : (s.attempts.filter fun a => (s.delegations.get? a.delegationId).any
      (·.taskId = taskId)).map DelegationAttempt.delegationId ⊆
      (s.delegationsFor runId taskId).map Delegation.id := by
    intro id mem
    obtain ⟨a, listed, rfl⟩ := List.mem_map.mp mem
    obtain ⟨-, task⟩ := List.mem_filter.mp listed
    obtain ⟨d, found, same⟩ := (Option.any_eq_true _ _).mp task
    have same : d.taskId = taskId := of_decide_eq_true same
    have stored := Registry.mem_values_of_get? found
    exact List.mem_map.mpr ⟨d, mem_delegationsFor.mpr ⟨stored, own d stored same, same⟩,
      Registry.key_of_get? found⟩
  have counted := (List.subperm_of_subset nodup inside).length_le
  rw [List.length_map, List.length_map] at counted
  refine Nat.le_trans (List.dedup_sublist _).length_le ?_
  rw [List.length_map]
  exact counted

/-! ## One start for each delegation -/

/-- A start that passes the checks is one of a delegation without an agent run. -/
def startsUnstarted (platform : Platform) (c : Company) (label : Label) : Bool :=
  match label.starts with
  | some (_, delegationId) =>
      !c.startPasses platform label || (c.store.attemptsOf delegationId).isEmpty
  | none => true

theorem StartedOnce.step (platform : Platform) {c : Company} {label : Label} (sound : c.Sound)
    (h : StartedOnce c.store) (guarded : startsUnstarted platform c label = true) :
    StartedOnce (c.step platform label).store := by
  have keep {t : OrchestrationStore} (same : t.attempts = c.store.attempts) : StartedOnce t := by
    unfold StartedOnce
    rw [same]
    exact h
  cases asked : label.starts with
  | none =>
      exact keep ((step_changes platform sound label).attempts (started_not_mem c asked))
  | some named =>
      obtain ⟨runId, delegationId⟩ := named
      rcases start_step platform c asked with same | ⟨passed, run, child, mid, -, started, rest⟩
      · exact keep same.attempts
      · have unstarted : c.store.attemptsOf delegationId = [] := by
          unfold startsUnstarted at guarded
          rw [asked, passed] at guarded
          exact List.isEmpty_iff.mp guarded
        obtain ⟨before, run', next, d, a, moving, starting, -, link, -, -, filed⟩ := started.made
        have same : before.attempts = c.store.attempts := moving.attempts (by decide)
        unfold StartedOnce
        rw [rest.attempts, filed, same]
        show ((c.store.attempts ++ [a]).map DelegationAttempt.delegationId).Nodup
        rw [List.map_append, List.map_singleton, link]
        refine List.nodup_append'.mpr ⟨h, List.nodup_singleton _, ?_⟩
        intro id old new
        obtain ⟨other, mem, same⟩ := List.mem_map.mp old
        rw [List.mem_singleton.mp new] at same
        have listed : other ∈ c.store.attemptsOf delegationId :=
          List.mem_filter.mpr ⟨mem, decide_eq_true same⟩
        rw [unstarted] at listed
        cases listed

/-- When every start that passes the checks names a delegation without an agent run, a
canonical task is run at most once for its first delegation, each retry and each
redelegation. -/
theorem task_run_budget (platform : Platform) (labels : List Label)
    (met : Company.meets platform (startsUnstarted platform) .empty labels = true) :
    (∀ run ∈ (Company.after platform labels).store.runs.values,
      ∀ m ∈ (Company.after platform labels).store.materializations.values,
      m.orchestrationRunId = run.id → ∀ item ∈ m.tasks,
      ((Company.after platform labels).store.runsFor item.taskId).length ≤
        1 + run.policy.maxRetriesPerTask + run.policy.maxRedelegationsPerTask) ∧
    ∀ d ∈ (Company.after platform labels).store.delegations.values,
      ((Company.after platform labels).store.attemptsOf d.id).length ≤ 1 := by
  have once : StartedOnce (Company.after platform labels).store :=
    Company.meets_keeps platform (P := fun c => StartedOnce c.store) List.nodup_nil
      (fun _ _ sound held guarded => held.step platform sound guarded) met
  constructor
  · intro run mem m listed own item here
    have numbered := after_allNumbered platform labels run mem item.taskId
    refine Nat.le_trans (once.runsFor_le fun d stored same => ?_) numbered.length_le
    exact ((after_assigned platform labels).own (after_materials platform labels) stored listed
      here same).trans own
  · intro d mem
    exact once.attempts_le d.id

/-! ## Iterations -/

/-- The iterations that a run has used are within its policy. -/
def OrchestrationRun.Iterating (run : OrchestrationRun) : Prop :=
  run.agentRunCount + run.replanCount ≤ run.policy.maxIterations

def WithinIterations (s : OrchestrationStore) : Prop :=
  ∀ run ∈ s.runs.values, run.Iterating

/-- A later record with the counters of the one before. -/
structure OrchestrationRun.SameCounts (before after : OrchestrationRun) : Prop where
  agentRuns : after.agentRunCount = before.agentRunCount
  replans : after.replanCount = before.replanCount
  policy : after.policy = before.policy

namespace OrchestrationRun.SameCounts

theorem refl (run : OrchestrationRun) : run.SameCounts run := ⟨rfl, rfl, rfl⟩

theorem trans {a b c : OrchestrationRun} (h : a.SameCounts b) (h' : b.SameCounts c) :
    a.SameCounts c :=
  ⟨h'.agentRuns.trans h.agentRuns, h'.replans.trans h.replans, h'.policy.trans h.policy⟩

theorem of_plain {run next : OrchestrationRun} {at' : Instant} {change : OrchestrationChange}
    (evolved : OrchestrationRun.Evolved run next at' change) (plain : change.Plain) :
    run.SameCounts next := by
  obtain ⟨-, -, replans, agentRuns⟩ := evolved.plain plain
  exact ⟨agentRuns, replans, evolved.policy_eq⟩

theorem iterating {a b : OrchestrationRun} (h : a.SameCounts b) (within : a.Iterating) :
    b.Iterating := by
  unfold OrchestrationRun.Iterating
  rw [h.agentRuns, h.replans, h.policy]
  exact within

end OrchestrationRun.SameCounts

theorem sameCounts_put {run next : OrchestrationRun} (stored : s.runs.get? run.id = some run)
    (id : next.id = run.id) (same : run.SameCounts next) :
    s.runs.Evolves OrchestrationRun.SameCounts (s.runs.put next) := by
  refine .put OrchestrationRun.SameCounts.refl fun old present => ?_
  rw [show OrchestrationRun.key next = run.id from id] at present
  obtain rfl : run = old := Option.some.inj (stored.symm.trans present)
  exact same

/-- Only a start and the acceptance of a plan count. -/
theorem Change.sameCounts (h : Change s kind s') (other : kind ≠ .accepted ∧ kind ≠ .started) :
    s.runs.Evolves OrchestrationRun.SameCounts s'.runs := by
  cases h with
  | quiet between =>
      rw [between.runs]
      exact .refl OrchestrationRun.SameCounts.refl _
  | opened run absent => exact .put_new OrchestrationRun.SameCounts.refl absent
  | moved run next at' change stored evolved plain =>
      exact sameCounts_put stored evolved.id_eq (.of_plain evolved plain)
  | left run next at' change stored evolved plain =>
      exact sameCounts_put stored evolved.id_eq (.of_plain evolved plain)
  | completed run next at' stored evolved =>
      exact sameCounts_put stored evolved.id_eq (.of_plain evolved ⟨rfl, rfl, rfl, rfl⟩)
  | accepted => exact (other.1 rfl).elim
  | materialized run plan m stored current own tasks between filed =>
      show s.runs.Evolves OrchestrationRun.SameCounts _
      rw [between.runs]
      exact .refl OrchestrationRun.SameCounts.refl _
  | delegated => exact .refl OrchestrationRun.SameCounts.refl _
  | started => exact (other.2 rfl).elim

theorem Changes.sameCounts (h : Changes K s s') (accepted : .accepted ∉ K)
    (started : .started ∉ K) : s.runs.Evolves OrchestrationRun.SameCounts s'.runs :=
  h.keeps (P := fun t => s.runs.Evolves OrchestrationRun.SameCounts t.runs)
    (fun {_ _ _} allowed change evolves =>
      evolves.trans (fun first second => first.trans second)
        (change.sameCounts ⟨fun same => accepted (same ▸ allowed),
          fun same => started (same ▸ allowed)⟩))
    (.refl OrchestrationRun.SameCounts.refl _)

theorem WithinIterations.put (held : WithinIterations s) {next : OrchestrationRun}
    (within : next.Iterating) (same : s'.runs = s.runs.put next) : WithinIterations s' := by
  intro run mem
  rw [same] at mem
  rcases Registry.mem_values_put.mp mem with rfl | ⟨old, -⟩
  · exact within
  · exact held run old

theorem WithinIterations.of_same (held : WithinIterations s) (same : s'.runs = s.runs) :
    WithinIterations s' := by
  unfold WithinIterations
  rw [same]
  exact held

/-- A change that does not count keeps every run within its iterations. -/
theorem Change.withinIterations (h : Change s kind s')
    (other : kind ≠ .accepted ∧ kind ≠ .started) (held : WithinIterations s) :
    WithinIterations s' := by
  have kept {run next : OrchestrationRun} {at' : Instant} {change : OrchestrationChange}
      (stored : s.runs.get? run.id = some run)
      (evolved : OrchestrationRun.Evolved run next at' change) (plain : change.Plain) :
      next.Iterating :=
    (OrchestrationRun.SameCounts.of_plain evolved plain).iterating
      (held run (Registry.mem_values_of_get? stored))
  cases h with
  | quiet between => exact held.of_same between.runs
  | opened run absent planning unplanned unused =>
      have within : run.Iterating := by
        unfold OrchestrationRun.Iterating
        rw [unused.1, unused.2]
        exact Nat.zero_le _
      exact held.put within rfl
  | moved run next at' change stored evolved plain =>
      exact held.put (kept stored evolved plain) rfl
  | left run next at' change stored evolved plain =>
      exact held.put (kept stored evolved plain) rfl
  | completed run next at' stored evolved =>
      exact held.put (kept stored evolved ⟨rfl, rfl, rfl, rfl⟩) rfl
  | accepted => exact (other.1 rfl).elim
  | materialized run plan m stored current own tasks between => exact held.of_same between.runs
  | delegated => exact held.of_same rfl
  | started => exact (other.2 rfl).elim

theorem Changes.withinIterations (h : Changes K s s') (accepted : .accepted ∉ K)
    (started : .started ∉ K) (held : WithinIterations s) : WithinIterations s' :=
  h.keeps (fun {_ _ _} allowed change held => change.withinIterations
    ⟨fun same => accepted (same ▸ allowed), fun same => started (same ▸ allowed)⟩ held) held

/-- A step of a call that has asked the planner accepts the plan or leaves the tables alone. -/
theorem accept_step (platform : Platform) {c : Company} (sound : c.Sound) {id : Nat}
    {call : OrchestrationCall} (found : c.call? id = some call) {runId : OrchestrationRunId}
    {request : OrchestrationRequest} {replan : Bool}
    (at' : call.point = .planning runId request replan) (answer : Answer) :
    Quiet c.store (c.step platform (.advance id answer)).store ∨
      ∃ proposal text run next plan mid, answer = .planned (.ok proposal) text ∧ run.id = runId ∧
        c.passes (acceptChecks platform.toEnv call.host runId request proposal replan) = true ∧
        Accepting c.store run next plan replan ∧
        mid = { c.store with
          plans := c.store.plans.put plan, runs := c.store.runs.put next } ∧
        Quiet mid (c.step platform (.advance id answer)).store := by
  have point : PointSound c.store (.planning runId request replan) :=
    at' ▸ sound.points call (List.mem_of_find?_eq_some found)
  have stepped : c.step platform (.advance id answer) = c.proceed platform call answer := by
    unfold Company.step
    dsimp only
    rw [found]
  rw [stepped]
  obtain ⟨callId, host, callPoint⟩ := call
  dsimp only at at'
  subst at'
  cases answer with
  | planned reply text =>
      cases reply with
      | error e =>
          unfold Company.proceed
          rw [store_moved]
          exact .inl (.refl _)
      | ok proposal =>
          unfold Company.proceed
          dsimp only
          cases replied :
            c.reply (acceptPlan platform.toEnv host runId request proposal replan) with
          | ok next =>
              obtain ⟨w', ran, same⟩ := reply_eq_ok replied
              obtain ⟨run, plan, mid, stored, accepting, filed, logged⟩ :=
                acceptPlan_eq_ok point.order ran
              dsimp only
              rw [store_moved, same]
              exact .inr ⟨proposal, text, run, next, plan, mid, rfl, id_of_stored stored,
                c.passes_of (acceptPlan_checks ran), accepting, filed, logged⟩
          | error e =>
              have kept := ran_of_error (m := acceptPlan platform.toEnv host runId request
                proposal replan) (.atomic _) replied
              dsimp only
              rw [store_moved, kept]
              exact .inl (.refl _)
  | _ => exact .inl (.refl _)

/-- The run whose iterations a step may use: one of its delegations is to be started, or its
replan has a proposal. -/
def Company.iterates (c : Company) : Label → Option OrchestrationRunId
  | .advance id (.planned (.ok _) _) =>
      match (c.call? id).map OrchestrationCall.point with
      | some (.planning runId _ true) => some runId
      | _ => none
  | label => label.starts.map Prod.fst

/-- A step that may use an iteration passes the checks of the code. -/
def Company.iteratePasses (platform : Platform) (c : Company) : Label → Bool
  | .advance id (.planned (.ok proposal) _) =>
      (c.call? id).any fun call =>
        match call.point with
        | .planning runId request replan =>
            c.passes (acceptChecks platform.toEnv call.host runId request proposal replan)
        | _ => false
  | label => c.startPasses platform label

/-- A step that passes the checks uses an iteration only of a run that has one left. -/
def iteratesBelow (platform : Platform) (c : Company) (label : Label) : Bool :=
  match c.iterates label with
  | some runId => !c.iteratePasses platform label || (c.store.runs.get? runId).all fun run =>
      run.agentRunCount + run.replanCount < run.policy.maxIterations
  | none => true

/-- The run that a guarded step iterates has an iteration left. -/
theorem iteration_left {platform : Platform} {c : Company} {label : Label}
    {runId : OrchestrationRunId} (named : c.iterates label = some runId)
    (passed : c.iteratePasses platform label = true)
    (guarded : iteratesBelow platform c label = true)
    {run : OrchestrationRun} (stored : c.store.runs.get? runId = some run) :
    run.agentRunCount + run.replanCount < run.policy.maxIterations := by
  unfold iteratesBelow at guarded
  rw [named] at guarded
  dsimp only at guarded
  rw [passed, stored] at guarded
  exact of_decide_eq_true guarded

theorem WithinIterations.start (platform : Platform) {c : Company} {label : Label}
    (h : WithinIterations c.store) {runId : OrchestrationRunId} {delegationId : DelegationId}
    (asked : label.starts = some (runId, delegationId))
    (guarded : iteratesBelow platform c label = true) :
    WithinIterations (c.step platform label).store := by
  have named : c.iterates label = some runId ∧
      c.iteratePasses platform label = c.startPasses platform label := by
    cases label with
    | command host command =>
        refine ⟨?_, rfl⟩
        show (Label.starts _).map Prod.fst = some runId
        rw [asked]
        rfl
    | _ => cases asked
  rcases start_step platform c asked with same | ⟨passed, run, child, mid, rfl, started, rest⟩
  · exact h.of_same same.runs
  · have below := iteration_left named.1 (named.2.trans passed) guarded started.stored
    obtain ⟨before, old, next, d, a, moving, starting, id, -, -, -, filed⟩ := started.made
    obtain ⟨later, found, counts⟩ :=
      (moving.sameCounts (by decide) (by decide)).later started.stored
    have here := starting.stored
    rw [id, found] at here
    obtain rfl := Option.some.inj here
    obtain ⟨at', evolved⟩ := starting.evolved
    have within : next.Iterating := by
      have agentRuns := evolved.agentRunCount_eq
      have replans := evolved.replanCount_eq
      unfold OrchestrationRun.Iterating
      rw [evolved.policy_eq, counts.policy]
      rw [counts.agentRuns] at agentRuns
      rw [counts.replans] at replans
      dsimp only at agentRuns replans
      omega
    refine WithinIterations.of_same (s := mid) ?_ rest.runs
    rw [filed]
    exact (moving.withinIterations (by decide) (by decide) h).put within rfl

theorem WithinIterations.step (platform : Platform) {c : Company} {label : Label}
    (sound : c.Sound) (h : WithinIterations c.store)
    (guarded : iteratesBelow platform c label = true) :
    WithinIterations (c.step platform label).store := by
  cases asked : label.starts with
  | some named => exact h.start platform asked guarded
  | none =>
      have changes := step_changes platform sound label
      by_cases accepts : .accepted ∈ stepKinds c label
      · -- Only a call that has asked the planner can accept a plan.
        cases label with
        | advance id answer =>
            have kinds : .accepted ∈
                ((c.call? id).map fun call => pointKinds call.point).getD [] := accepts
            cases found : c.call? id with
            | none =>
                rw [found] at kinds
                cases kinds
            | some call =>
                rw [found] at kinds
                have kinds : .accepted ∈ pointKinds call.point := kinds
                cases at' : call.point with
                | planning runId request replan =>
                    rcases accept_step platform sound found at' answer with
                      same | ⟨proposal, text, run, next, plan, mid, rfl, rfl, passed, accepting,
                        filed, logged⟩
                    · exact h.of_same same.runs
                    · refine WithinIterations.of_same (s := mid) ?_ logged.runs
                      rw [filed]
                      suffices within : next.Iterating from h.put within rfl
                      obtain ⟨at₁, evolved⟩ := accepting.evolved
                      have agentRuns := evolved.agentRunCount_eq
                      have replans := evolved.replanCount_eq
                      have old := h run (Registry.mem_values_of_get? accepting.stored)
                      unfold OrchestrationRun.Iterating at old ⊢
                      rw [evolved.policy_eq]
                      dsimp only at agentRuns replans
                      cases replan with
                      | false =>
                          simp only [Bool.false_eq_true, if_false] at replans
                          omega
                      | true =>
                          have named : c.iterates (.advance id (.planned (.ok proposal) text)) =
                              some run.id := by
                            show (match (c.call? id).map OrchestrationCall.point with
                              | some (.planning runId _ true) => some runId
                              | _ => none) = _
                            rw [found, Option.map_some, at']
                          have passes : c.iteratePasses platform
                              (.advance id (.planned (.ok proposal) text)) = true := by
                            refine (Option.any_eq_true _ _).mpr ⟨call, found, ?_⟩
                            rw [at']
                            exact passed
                          have below := iteration_left named passes guarded accepting.stored
                          simp only [if_true] at replans
                          omega
                | failing | refusing | driving | restoring => simp [at', pointKinds] at kinds
        | command host command => exact (accepted_not_mem command accepts).elim
        | runtime label => simp [stepKinds] at accepts
        | drop id => simp [stepKinds] at accepts
      · exact changes.withinIterations accepts (started_not_mem c asked) h

/-- When every start and every proposal for a replan that passes the checks finds an iteration
left, no run ever uses more iterations than its policy has. -/
theorem iteration_budget (platform : Platform) (labels : List Label)
    (met : Company.meets platform (iteratesBelow platform) .empty labels = true) :
    ∀ run ∈ (Company.after platform labels).store.runs.values,
      run.agentRunCount + run.replanCount ≤ run.policy.maxIterations :=
  Company.meets_keeps platform (P := fun c => WithinIterations c.store)
    (fun _ mem => (List.not_mem_nil mem).elim)
    (fun _ _ sound held guarded => held.step platform sound guarded) met

/-! ### A run with two tasks -/

section Sample

/-- An agent that may complete its task. -/
def writerDefinition : AgentDefinitionVersion :=
  { senderDefinition with
    role := txt "writer"
    instructions := txt "write"
    allowedActions := [.completeTask]
    allowedTools := [] }

/-- A host with a model and nothing else. -/
def plainHost : Host :=
  { sampleHost with
    governance := false
    executor := fun _ => none
    tools := false }

def soloHost : OrchestrationHost := ⟨py "static", py "1", none, plainHost⟩

abbrev sampleGoal : GoalId := numbered .goal 2

abbrev sampleOrchestration : OrchestrationRunId := numbered .orchestrationRun 6

def draftTask : PlannedTask where
  id := py "draft"
  title := py "write"
  acceptanceCriteria := [py "written"]
  dependencies := []
  requirements := .none
  priority := 1
  required := true
  valid := ⟨by decide, by decide, by decide, by decide, by decide⟩

def reviewTask : PlannedTask :=
  { draftTask with
    id := py "review"
    valid := ⟨by decide, by decide, by decide, by decide, by decide⟩ }

/-- A run of a policy with a plan of two tasks, materialized to the tasks 11 and 13. -/
def plannedRun (policy : OrchestrationPolicy) : List Label := [
  .runtime (.command (.domain (.createWorkspace (py "acme")))),
  .runtime (.command (.domain (.createGoal ⟨sampleWorkspace, py "reach out", [py "sent"], []⟩))),
  .runtime (.command (.domain (.activateGoal sampleGoal (changed 0)))),
  .runtime (.command (.publishDefinition writerDefinition)),
  .command soloHost (.start sampleWorkspace sampleGoal policy none),
  .advance 0 (.planned (.ok ⟨sampleWorkspace, sampleGoal, [draftTask, reviewTask]⟩) []),
  .command soloHost (.materialize sampleWorkspace sampleOrchestration (changed 1))]

/-- A task is delegated. -/
def delegating (task version : Nat) (mode : DelegationMode) : Label :=
  .command soloHost (.delegate sampleWorkspace sampleOrchestration (numbered .task task)
    (changed version) mode none)

/-- A delegation is started for its task. -/
def starting (delegation task version : Nat) : Label :=
  .command soloHost (.startDelegation sampleWorkspace sampleOrchestration
    (numbered .delegation delegation) (changed version)
    ⟨sampleWorkspace, numbered .task task, [py "k"], [], []⟩ none)

/-- The model does not answer the drive of a started agent run. -/
def failing (call agentRun : Nat) : List Label := [
  .runtime (.open plainHost (.drive sampleWorkspace (numbered .agentRun agentRun) (changed 0))),
  .runtime (.advance call .next),
  .runtime (.advance call (.ports noAnswers)),
  .runtime (.advance call (.model (.error .timeout) noAnswers)),
  .runtime (.advance call .next)]

/-- A policy that goes on after three failures. -/
def patientPolicy : OrchestrationPolicy :=
  { OrchestrationPolicy.default with maxFailedAttempts := 4, bounded := by decide }

/-- One delegation is started four times, after each failure of its agent run. -/
def restartedRun : List Label :=
  plannedRun patientPolicy ++ delegating 11 2 .initial :: starting 20 11 2 :: failing 0 30 ++
    starting 20 11 3 :: failing 1 54 ++ starting 20 11 5 :: failing 2 78 ++ [starting 20 11 7]

/-- A task has four agent runs where one retry and one redelegation are allowed, all of them
for its first delegation. -/
theorem restarted_over_budget :
    (Company.after numberedPlatform restartedRun).store.runsFor (numbered .task 11) =
      [numbered .agentRun 30, numbered .agentRun 54, numbered .agentRun 78,
        numbered .agentRun 102] ∧
    (∃ run ∈ (Company.after numberedPlatform restartedRun).store.runs.values,
      run.policy.maxRetriesPerTask = 1 ∧ run.policy.maxRedelegationsPerTask = 1 ∧
      ∃ m ∈ (Company.after numberedPlatform restartedRun).store.materializations.values,
        m.orchestrationRunId = run.id ∧ ∃ item ∈ m.tasks, item.taskId = numbered .task 11) ∧
    (Company.after numberedPlatform restartedRun).store.delegations.values.length = 1 := by
  decide +kernel

/-- A task that is run again through a retry. -/
def retriedRun : List Label :=
  plannedRun patientPolicy ++ delegating 11 2 .initial :: starting 20 11 2 :: failing 0 30 ++
    [delegating 11 3 .retry, starting 44 11 3]

theorem retried_in_budget :
    ((Company.after numberedPlatform retriedRun).store.runsFor (numbered .task 11)).length = 2 ∧
    ∀ d ∈ (Company.after numberedPlatform retriedRun).store.delegations.values,
      ((Company.after numberedPlatform retriedRun).store.attemptsOf d.id).length ≤ 1 :=
  ⟨by decide +kernel, (task_run_budget numberedPlatform retriedRun (by decide +kernel)).2⟩

/-- A policy of one iteration. -/
def singlePolicy : OrchestrationPolicy :=
  { OrchestrationPolicy.default with maxIterations := 1, bounded := by decide }

/-- Two delegations are made while the iteration is left, and both are started, the second
one when the agent run of the first has failed. -/
def doubledRun : List Label :=
  plannedRun singlePolicy ++ delegating 11 2 .initial :: delegating 13 2 .initial ::
    starting 20 11 2 :: failing 0 32 ++ [starting 22 13 3]

theorem doubled_over_iterations :
    ∃ run ∈ (Company.after numberedPlatform doubledRun).store.runs.values,
      run.agentRunCount + run.replanCount = 2 ∧ run.policy.maxIterations = 1 := by
  decide +kernel

theorem single_in_iterations :
    (Company.after numberedPlatform doubledRun.dropLast).store.runs.values ≠ [] ∧
    ∀ run ∈ (Company.after numberedPlatform doubledRun.dropLast).store.runs.values,
      run.agentRunCount + run.replanCount ≤ run.policy.maxIterations :=
  ⟨by decide +kernel, iteration_budget numberedPlatform doubledRun.dropLast (by decide +kernel)⟩

end Sample

end AgentCompanyOS.Orchestration
