import AgentCompanyOS.Orchestration.SettlingSteps

/-!
# The ledger of plans

A run that has accepted no plan has no plan and no replan, and is planning or has ended.
A run that has accepted one has the versions from one to its replan count plus one under one
plan identity, in the order in which they were accepted. Every single change keeps this.
-/

set_option autoImplicit false

namespace AgentCompanyOS.Orchestration

open Foundation Foundation.Txn Domain AgentCompanyOS.Runtime

/-- The plan versions of a run, in the order in which they were accepted. -/
def OrchestrationTables.plansIn (tables : OrchestrationTables) (runId : OrchestrationRunId) :
    List PlanVersion :=
  tables.plans.values.filter fun plan => plan.orchestrationRunId = runId

/-- A run without a plan. -/
structure Unplanned (s : OrchestrationStore) (run : OrchestrationRun) : Prop where
  plans : s.plansIn run.id = []
  current : run.currentPlanVersion = none
  replans : run.replanCount = 0
  status : run.status = .planning ∨ run.status = .failed ∨ run.status = .cancelled

/-- A run with the versions of a plan. -/
structure Planned (s : OrchestrationStore) (run : OrchestrationRun) (planId : OrchestrationPlanId) :
    Prop where
  versions : (s.plansIn run.id).map (fun plan => plan.version.value) =
    List.range' 1 (run.replanCount + 1)
  current : run.currentPlanVersion.map Version.value = some (run.replanCount + 1)

structure Ledger (s : OrchestrationStore) : Prop where
  unplanned : ∀ run ∈ s.runs.values, run.planId = none → Unplanned s run
  planned : ∀ run ∈ s.runs.values, ∀ planId, run.planId = some planId → Planned s run planId
  /-- A plan is filed under the plan identity of its run, in its workspace. -/
  owned : ∀ plan ∈ s.plans.values, ∃ run, s.runs.get? plan.orchestrationRunId = some run ∧
    run.planId = some plan.id ∧ run.workspaceId = plan.workspaceId
  /-- Runs do not share a plan identity. -/
  apart : ∀ run ∈ s.runs.values, ∀ other ∈ s.runs.values, ∀ planId, run.planId = some planId →
    other.planId = some planId → run.id = other.id
  /-- Only the tasks of a plan are delegated. -/
  delegated : ∀ d ∈ s.delegations.values, ∃ run, s.runs.get? d.orchestrationRunId = some run ∧
    run.planId ≠ none

section Plans

variable {tables : OrchestrationTables} {runId : OrchestrationRunId} {plan : PlanVersion}

theorem mem_plansIn : plan ∈ tables.plansIn runId ↔
    plan ∈ tables.plans.values ∧ plan.orchestrationRunId = runId := by
  unfold OrchestrationTables.plansIn
  rw [List.mem_filter, decide_eq_true_eq]

/-- Versions that were accepted in order are sorted. -/
theorem plansOf_eq_plansIn {n : Nat}
    (versions : (tables.plansIn runId).map (fun plan => plan.version.value) = List.range' 1 n) :
    tables.plansOf runId = tables.plansIn runId := by
  refine List.Pairwise.insertionSort_eq ?_
  have sorted : ((tables.plansIn runId).map fun plan => plan.version.value).Pairwise (· ≤ ·) := by
    rw [versions]
    exact (List.pairwise_lt_range' ..).imp Nat.le_of_lt
  exact List.pairwise_map.mp sorted

end Plans

namespace Ledger

variable {s : OrchestrationStore}

theorem empty (runtime : RuntimeStore) : Ledger ⟨.empty, runtime⟩ :=
  ⟨fun _ mem => (List.not_mem_nil mem).elim, fun _ mem => (List.not_mem_nil mem).elim,
    fun _ mem => (List.not_mem_nil mem).elim, fun _ mem => (List.not_mem_nil mem).elim,
    fun _ mem => (List.not_mem_nil mem).elim⟩

/-- The plans of a run, as the store sorts them. -/
theorem plansOf_eq (h : Ledger s) {run : OrchestrationRun} (mem : run ∈ s.runs.values) :
    s.plansOf run.id = s.plansIn run.id := by
  cases named : run.planId with
  | none =>
      have none := (h.unplanned run mem named).plans
      exact plansOf_eq_plansIn (n := 0) (by rw [none]; rfl)
  | some planId => exact plansOf_eq_plansIn (h.planned run mem planId named).versions

/-- A store with the same runs, plans and delegations. -/
theorem of_same {s' : OrchestrationStore} (h : Ledger s) (runs : s'.runs = s.runs)
    (plans : s'.plans = s.plans)
    (delegated : ∀ d ∈ s'.delegations.values, ∃ run, s.runs.get? d.orchestrationRunId = some run ∧
      run.planId ≠ none) : Ledger s' := by
  have same (id : OrchestrationRunId) : s'.plansIn id = s.plansIn id := by
    unfold OrchestrationTables.plansIn
    rw [plans]
  refine ⟨?_, ?_, ?_, ?_, ?_⟩
  · intro run mem unnamed
    rw [runs] at mem
    obtain ⟨none, current, replans, status⟩ := h.unplanned run mem unnamed
    exact ⟨(same run.id).trans none, current, replans, status⟩
  · intro run mem planId named
    rw [runs] at mem
    obtain ⟨versions, current⟩ := h.planned run mem planId named
    refine ⟨?_, current⟩
    rw [same]
    exact versions
  · rw [plans, runs]
    exact h.owned
  · rw [runs]
    exact h.apart
  · rw [runs]
    exact delegated

/-- A run is replaced by one with the same plan and replans. -/
theorem put_run (h : Ledger s) {run next : OrchestrationRun}
    (stored : s.runs.get? run.id = some run) (id : next.id = run.id)
    (planId : next.planId = run.planId) (current : next.currentPlanVersion = run.currentPlanVersion)
    (replans : next.replanCount = run.replanCount) (workspace : next.workspaceId = run.workspaceId)
    (status : run.planId = none →
      next.status = .planning ∨ next.status = .failed ∨ next.status = .cancelled) :
    Ledger { s with runs := s.runs.put next } := by
  have mem := Registry.mem_values_of_get? stored
  have there (other : OrchestrationRun) (here : other ∈ (s.runs.put next).values) :
      ∃ old ∈ s.runs.values, old.id = other.id ∧ old.planId = other.planId := by
    rcases Registry.mem_values_put.mp here with rfl | ⟨kept, -⟩
    · exact ⟨run, mem, id.symm, planId.symm⟩
    · exact ⟨other, kept, rfl, rfl⟩
  have later {key : OrchestrationRunId} {old : OrchestrationRun}
      (found : s.runs.get? key = some old) :
      ∃ new, (s.runs.put next).get? key = some new ∧ new.planId = old.planId ∧
        new.workspaceId = old.workspaceId := by
    rw [Registry.get?_put]
    by_cases same : OrchestrationRun.key next = key
    · obtain rfl : run.id = key := id.symm.trans same
      obtain rfl : run = old := Option.some.inj (stored.symm.trans found)
      exact ⟨next, if_pos same, planId, workspace⟩
    · exact ⟨old, (if_neg same).trans found, rfl, rfl⟩
  refine ⟨?_, ?_, ?_, ?_, ?_⟩
  · intro other here unnamed
    rcases Registry.mem_values_put.mp here with rfl | ⟨kept, -⟩
    · have unnamed := planId.symm.trans unnamed
      have old := h.unplanned run mem unnamed
      refine ⟨?_, current.trans old.current, replans.trans old.replans, status unnamed⟩
      rw [id]
      exact old.plans
    · obtain ⟨plans, current, replans, status⟩ := h.unplanned other kept unnamed
      exact ⟨plans, current, replans, status⟩
  · intro other here p named
    rcases Registry.mem_values_put.mp here with rfl | ⟨kept, -⟩
    · have old := h.planned run mem p (planId.symm.trans named)
      constructor
      · rw [id, replans]
        exact old.versions
      · rw [current, replans]
        exact old.current
    · obtain ⟨versions, current⟩ := h.planned other kept p named
      exact ⟨versions, current⟩
  · intro plan filed
    obtain ⟨old, found, named, scope⟩ := h.owned plan filed
    obtain ⟨new, stored', same, sameScope⟩ := later found
    exact ⟨new, stored', same.trans named, sameScope.trans scope⟩
  · intro a ha b hb p named named'
    obtain ⟨a', ha', ida, pa⟩ := there a ha
    obtain ⟨b', hb', idb, pb⟩ := there b hb
    have same := h.apart a' ha' b' hb' p (pa.trans named) (pb.trans named')
    exact ida.symm.trans (same.trans idb)
  · intro d filed
    obtain ⟨old, found, named⟩ := h.delegated d filed
    obtain ⟨new, stored', same, -⟩ := later found
    exact ⟨new, stored', same ▸ named⟩

/-- A new run has no plan. -/
theorem put_new (h : Ledger s) {run : OrchestrationRun} (absent : s.runs.get? run.id = none)
    (planning : run.status = .planning)
    (unplanned : run.planId = none ∧ run.currentPlanVersion = none)
    (replans : run.replanCount = 0) : Ledger { s with runs := s.runs.put run } := by
  have later {key : OrchestrationRunId} {old : OrchestrationRun}
      (found : s.runs.get? key = some old) : (s.runs.put run).get? key = some old := by
    rw [Registry.get?_put_ne]
    · exact found
    · rintro rfl
      cases absent.symm.trans found
  refine ⟨?_, ?_, ?_, ?_, ?_⟩
  · intro other here unnamed
    rcases Registry.mem_values_put.mp here with rfl | ⟨kept, -⟩
    · refine ⟨?_, unplanned.2, replans, .inl planning⟩
      refine List.eq_nil_iff_forall_not_mem.mpr fun plan mem => ?_
      obtain ⟨filed, own⟩ := mem_plansIn.mp mem
      obtain ⟨found, stored, -⟩ := h.owned plan filed
      rw [own] at stored
      cases absent.symm.trans stored
    · obtain ⟨plans, current, replans, status⟩ := h.unplanned other kept unnamed
      exact ⟨plans, current, replans, status⟩
  · intro other here p named
    rcases Registry.mem_values_put.mp here with rfl | ⟨kept, -⟩
    · cases unplanned.1.symm.trans named
    · obtain ⟨versions, current⟩ := h.planned other kept p named
      exact ⟨versions, current⟩
  · intro plan filed
    obtain ⟨old, found, named⟩ := h.owned plan filed
    exact ⟨old, later found, named⟩
  · intro a ha b hb p named named'
    rcases Registry.mem_values_put.mp ha with rfl | ⟨ha, -⟩
    · cases unplanned.1.symm.trans named
    · rcases Registry.mem_values_put.mp hb with rfl | ⟨hb, -⟩
      · cases unplanned.1.symm.trans named'
      · exact h.apart a ha b hb p named named'
  · intro d filed
    obtain ⟨old, found, named⟩ := h.delegated d filed
    exact ⟨old, later found, named⟩

/-- The plan of a run is filed under its identity. -/
theorem id_of_mem (h : Ledger s) {run : OrchestrationRun} (mem : run ∈ s.runs.values)
    {plan : PlanVersion} (filed : plan ∈ s.plansIn run.id) : run.planId = some plan.id := by
  obtain ⟨filed, own⟩ := mem_plansIn.mp filed
  obtain ⟨owner, found, named, -⟩ := h.owned plan filed
  have key : s.runs.get? run.id = some run := Registry.get?_of_mem_values mem
  rw [own, key] at found
  obtain rfl := Option.some.inj found
  exact named

/-- A run with a plan has its first version. -/
theorem nonempty (h : Ledger s) {run : OrchestrationRun} (mem : run ∈ s.runs.values)
    {planId : OrchestrationPlanId} (named : run.planId = some planId) :
    ∃ plan ∈ s.plansIn run.id, plan.id = planId := by
  have versions := (h.planned run mem planId named).versions
  cases plans : s.plansIn run.id with
  | nil =>
      rw [plans, List.range'_succ] at versions
      cases versions
  | cons plan rest =>
      have filed : plan ∈ s.plansIn run.id := by
        rw [plans]
        exact List.mem_cons_self
      have same := h.id_of_mem mem filed
      exact ⟨plan, List.mem_cons_self, Option.some.inj (same.symm.trans named)⟩

/-- The numbers of plans and replans before and after a plan is accepted. -/
theorem count_of_accepting (h : Ledger s) {run next : OrchestrationRun} {plan : PlanVersion}
    {replan : Bool} (accepting : Accepting s run next plan replan) :
    (s.plansIn run.id).map (fun plan => plan.version.value) =
        List.range' 1 (s.plansIn run.id).length ∧
      plan.version.value = (s.plansIn run.id).length + 1 ∧
      next.replanCount = (s.plansIn run.id).length := by
  have mem := Registry.mem_values_of_get? accepting.stored
  obtain ⟨at', evolved⟩ := accepting.evolved
  have version := accepting.version
  rw [h.plansOf_eq mem] at version
  have count := evolved.replanCount_eq
  cases named : run.planId with
  | none =>
      have first : replan = false := by
        have order := accepting.order
        rw [named] at order
        simpa using order
      obtain ⟨none, -, zero, -⟩ := h.unplanned run mem named
      rw [none] at version ⊢
      rw [first, zero] at count
      exact ⟨rfl, version, count⟩
  | some planId =>
      have again : replan = true := accepting.order.mpr (by rw [named]; exact Option.some_ne_none _)
      have versions := (h.planned run mem planId named).versions
      have length : (s.plansIn run.id).length = run.replanCount + 1 := by
        have lengths := congrArg List.length versions
        rwa [List.length_map, List.length_range'] at lengths
      rw [again] at count
      rw [length]
      exact ⟨versions, by rw [version, length], count⟩

/-- The plan that a run accepts is the next version of its plan. -/
theorem accept (h : Ledger s) {run next : OrchestrationRun} {plan : PlanVersion} {replan : Bool}
    (accepting : Accepting s run next plan replan) :
    Ledger { s with plans := s.plans.put plan, runs := s.runs.put next } := by
  have mem := Registry.mem_values_of_get? accepting.stored
  obtain ⟨at', evolved⟩ := accepting.evolved
  obtain ⟨found, filed⟩ := accepting.filed
  obtain ⟨versions, version, count⟩ := h.count_of_accepting accepting
  have id : next.id = run.id := evolved.id_eq
  have named : next.planId = some plan.id := evolved.planId_eq
  have current : next.currentPlanVersion = some plan.version := evolved.currentPlanVersion_eq
  have appended := Registry.values_put_of_absent filed.absent
  have mine : (s.plans.put plan).values.filter (fun p => p.orchestrationRunId = run.id) =
      s.plansIn run.id ++ [plan] := by
    rw [appended, List.filter_append, List.filter_cons_of_pos (by simp [accepting.own.1])]
    rfl
  have others {other : OrchestrationRun} (apart : OrchestrationRun.key other ≠ next.id) :
      (s.plans.put plan).values.filter (fun p => p.orchestrationRunId = other.id) =
        s.plansIn other.id := by
    have different : ¬plan.orchestrationRunId = other.id := by
      rw [accepting.own.1, ← id]
      exact fun same => apart same.symm
    rw [appended, List.filter_append, List.filter_cons_of_neg (by simp [different])]
    exact List.append_nil _
  -- No other run has the plan identity: it is the run's own, or has no plan yet.
  have fresh : ∀ other ∈ s.runs.values, other.planId = some plan.id → run.id = other.id := by
    intro other here theirs
    cases known : run.planId with
    | some planId =>
        rw [← accepting.identity planId known] at known
        exact h.apart run mem other here plan.id known theirs
    | none =>
        obtain ⟨first, listed, same⟩ := h.nonempty here theirs
        have none := (h.unplanned run mem known).plans
        have next := filed.next
        rw [version, none] at next
        have empty := List.eq_nil_of_length_eq_zero (Nat.succ.inj next).symm
        have inside : first ∈ s.plans.values.filter fun item => item.id = plan.id :=
          List.mem_filter.mpr ⟨(mem_plansIn.mp listed).1, by simp [same]⟩
        rw [empty] at inside
        cases inside
  have later {key : OrchestrationRunId} {old : OrchestrationRun} {p : OrchestrationPlanId}
      (found : s.runs.get? key = some old) (theirs : old.planId = some p) :
      ∃ new, (s.runs.put next).get? key = some new ∧ new.planId = some p ∧
        new.workspaceId = old.workspaceId := by
    rw [Registry.get?_put]
    by_cases same : OrchestrationRun.key next = key
    · obtain rfl : run.id = key := id.symm.trans same
      obtain rfl : run = old := Option.some.inj (accepting.stored.symm.trans found)
      exact ⟨next, if_pos same, by rw [named, accepting.identity p theirs], evolved.workspace_eq⟩
    · exact ⟨old, (if_neg same).trans found, theirs, rfl⟩
  refine ⟨?_, ?_, ?_, ?_, ?_⟩
  · intro other here unnamed
    rcases Registry.mem_values_put.mp here with rfl | ⟨kept, apart⟩
    · cases named.symm.trans unnamed
    · obtain ⟨plans, current, replans, status⟩ := h.unplanned other kept unnamed
      exact ⟨(others apart).trans plans, current, replans, status⟩
  · intro other here p theirs
    rcases Registry.mem_values_put.mp here with rfl | ⟨kept, apart⟩
    · constructor
      · show ((s.plans.put plan).values.filter
          (fun p => p.orchestrationRunId = OrchestrationFields.id _)).map _ = _
        rw [id, mine, List.map_append, versions, count, List.range'_1_concat, List.map_singleton,
          version, Nat.add_comm 1]
      · rw [current, count]
        exact congrArg some version
    · obtain ⟨versions, current⟩ := h.planned other kept p theirs
      exact ⟨(congrArg (List.map _) (others apart)).trans versions, current⟩
  · intro other here
    rcases Registry.mem_values_put.mp here with rfl | ⟨kept, -⟩
    · refine ⟨next, ?_, named, evolved.workspace_eq.trans accepting.own.2.symm⟩
      rw [accepting.own.1, ← id]
      show (s.runs.put next).get? (OrchestrationRun.key next) = some next
      exact Registry.get?_put_self _ next
    · obtain ⟨old, found, theirs, scope⟩ := h.owned other kept
      obtain ⟨new, stored, same, sameScope⟩ := later found theirs
      exact ⟨new, stored, same, sameScope.trans scope⟩
  · intro a ha b hb p pa pb
    rcases Registry.mem_values_put.mp ha with rfl | ⟨keptA, -⟩
    · obtain rfl := Option.some.inj (named.symm.trans pa)
      rcases Registry.mem_values_put.mp hb with rfl | ⟨keptB, -⟩
      · rfl
      · exact id.trans (fresh b keptB pb)
    · rcases Registry.mem_values_put.mp hb with rfl | ⟨keptB, -⟩
      · obtain rfl := Option.some.inj (named.symm.trans pb)
        exact (id.trans (fresh a keptA pa)).symm
      · exact h.apart a keptA b keptB p pa pb
  · intro d here
    obtain ⟨old, found, theirs⟩ := h.delegated d here
    obtain ⟨p, theirs⟩ := Option.ne_none_iff_exists'.mp theirs
    obtain ⟨new, stored, same, -⟩ := later found theirs
    exact ⟨new, stored, by rw [same]; exact Option.some_ne_none _⟩

end Ledger

/-- Every single change keeps the ledger. -/
theorem Change.ledger {s s' : OrchestrationStore} {kind : ChangeKind} (h : Change s kind s')
    (ledger : Ledger s) : Ledger s' := by
  cases h with
  | quiet between =>
      refine ledger.of_same between.runs between.plans ?_
      rw [between.delegations]
      exact ledger.delegated
  | opened run absent planning unplanned unused =>
      exact ledger.put_new absent planning unplanned unused.1
  | moved run next at' change stored evolved plain cause =>
      obtain ⟨planId, current, replans, -⟩ := evolved.plain plain
      have mem := Registry.mem_values_of_get? stored
      refine ledger.put_run stored evolved.id_eq planId current replans
        evolved.workspace_eq fun unnamed => ?_
      have unplanned := ledger.unplanned run mem unnamed
      cases cause with
      | kept same =>
          rw [same]
          exact unplanned.status
      | failed status => exact .inr (.inl status)
      | cancelled status => exact .inr (.inr status)
      | waits status planned =>
          -- A run without a plan is not at work and has no delegations.
          rcases planned with running | waiting | named | ⟨d, filed, own⟩
          · rcases unplanned.status with s | s | s <;> cases running.symm.trans s
          · rcases unplanned.status with s | s | s <;> cases waiting.symm.trans s
          · exact (named unnamed).elim
          · obtain ⟨found, stored', named⟩ := ledger.delegated d filed
            rw [own, stored] at stored'
            obtain rfl := Option.some.inj stored'
            exact (named unnamed).elim
  | left run next at' change stored evolved plain open' =>
      obtain ⟨planId, current, replans, -⟩ := evolved.plain plain
      refine ledger.put_run stored evolved.id_eq planId current replans
        evolved.workspace_eq fun unnamed => ?_
      have unplanned := ledger.unplanned run (Registry.mem_values_of_get? stored) unnamed
      rcases open' with o | o <;> rcases unplanned.status with s | s | s <;> cases o.symm.trans s
  | completed run next at' stored evolved finished =>
      obtain ⟨planId, current, replans, -⟩ := evolved.plain ⟨rfl, rfl, rfl, rfl⟩
      refine ledger.put_run stored evolved.id_eq planId current replans
        evolved.workspace_eq fun unnamed => ?_
      obtain ⟨plan, m, named, -⟩ := finished.tasks
      cases named.symm.trans unnamed
  | accepted run next plan replan accepting => exact ledger.accept accepting
  | materialized run plan m stored current own tasks between filed =>
      refine ledger.of_same between.runs between.plans fun d mem => ledger.delegated d ?_
      rw [← between.delegations]
      exact mem
  | delegated run mode d delegating =>
      refine ledger.of_same rfl rfl fun other mem => ?_
      rcases Registry.mem_values_put.mp mem with rfl | ⟨kept, -⟩
      · refine ⟨run, ?_, ?_⟩
        · rw [delegating.own]
          exact delegating.stored
        · rw [delegating.current.1]
          exact Option.some_ne_none _
      · exact ledger.delegated other kept
  | started run next d a child starting =>
      obtain ⟨at', evolved⟩ := starting.evolved
      have linked : Ledger { s with attempts := s.attempts ++ [a] } :=
        ledger.of_same rfl rfl ledger.delegated
      have planId : next.planId = run.planId := by
        rw [evolved.planId_eq]
        rfl
      have current : next.currentPlanVersion = run.currentPlanVersion := by
        rw [evolved.currentPlanVersion_eq]
        rfl
      refine linked.put_run starting.stored evolved.id_eq planId current evolved.replanCount_eq
        evolved.workspace_eq fun unnamed => ?_
      have mem := Registry.mem_values_of_get? starting.stored
      rcases (ledger.unplanned run mem unnamed).status with s | s | s <;>
        cases starting.running.symm.trans s

end AgentCompanyOS.Orchestration
