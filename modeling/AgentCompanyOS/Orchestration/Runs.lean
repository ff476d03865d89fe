import AgentCompanyOS.Orchestration.Ledger

/-!
# Runs of the service

Every step of the system is a sequence of changes of the store, of the kinds that the
command or the call allows. A call that waits for the planner knows whether its run has a
plan, and no two calls start the same run; with the ledger this carries over every step.
-/

set_option autoImplicit false

namespace AgentCompanyOS.Orchestration

open Foundation Foundation.Txn Domain AgentCompanyOS.Runtime

/-! ## Runs that keep their plan -/

/-- A later record of a run with the same plan. -/
structure OrchestrationRun.SamePlan (before after : OrchestrationRun) : Prop where
  planId : after.planId = before.planId
  current : after.currentPlanVersion = before.currentPlanVersion
  replans : after.replanCount = before.replanCount
  policy : after.policy = before.policy

namespace OrchestrationRun.SamePlan

theorem refl (run : OrchestrationRun) : run.SamePlan run := ⟨rfl, rfl, rfl, rfl⟩

theorem trans {a b c : OrchestrationRun} (h : a.SamePlan b) (h' : b.SamePlan c) : a.SamePlan c :=
  ⟨h'.planId.trans h.planId, h'.current.trans h.current, h'.replans.trans h.replans,
    h'.policy.trans h.policy⟩

end OrchestrationRun.SamePlan

/-- A run that is replaced by one with the same plan. -/
theorem samePlan_put {s : OrchestrationStore} {run next : OrchestrationRun}
    (stored : s.runs.get? run.id = some run) (id : next.id = run.id) (same : run.SamePlan next) :
    s.runs.Evolves OrchestrationRun.SamePlan (s.runs.put next) := by
  refine .put OrchestrationRun.SamePlan.refl fun old present => ?_
  rw [show OrchestrationRun.key next = run.id from id] at present
  obtain rfl : run = old := Option.some.inj (stored.symm.trans present)
  exact same

/-- Only the acceptance of a plan changes the plan of a run. -/
theorem Change.samePlan {s s' : OrchestrationStore} {kind : ChangeKind} (h : Change s kind s')
    (other : kind ≠ .accepted) : s.runs.Evolves OrchestrationRun.SamePlan s'.runs := by
  cases h with
  | quiet between =>
      rw [between.runs]
      exact .refl OrchestrationRun.SamePlan.refl _
  | opened run absent => exact .put_new OrchestrationRun.SamePlan.refl absent
  | moved run next at' change stored evolved plain =>
      obtain ⟨planId, current, replans, -⟩ := evolved.plain plain
      exact samePlan_put stored evolved.id_eq ⟨planId, current, replans, evolved.policy_eq⟩
  | left run next at' change stored evolved plain =>
      obtain ⟨planId, current, replans, -⟩ := evolved.plain plain
      exact samePlan_put stored evolved.id_eq ⟨planId, current, replans, evolved.policy_eq⟩
  | completed run next at' stored evolved =>
      obtain ⟨planId, current, replans, -⟩ := evolved.plain ⟨rfl, rfl, rfl, rfl⟩
      exact samePlan_put stored evolved.id_eq ⟨planId, current, replans, evolved.policy_eq⟩
  | accepted => exact (other rfl).elim
  | materialized run plan m stored current own tasks between filed =>
      show s.runs.Evolves OrchestrationRun.SamePlan _
      rw [between.runs]
      exact .refl OrchestrationRun.SamePlan.refl _
  | delegated => exact .refl OrchestrationRun.SamePlan.refl _
  | started run next d a child starting =>
      obtain ⟨at', evolved⟩ := starting.evolved
      refine samePlan_put starting.stored evolved.id_eq ⟨?_, ?_, evolved.replanCount_eq,
        evolved.policy_eq⟩
      · rw [evolved.planId_eq]
        rfl
      · rw [evolved.currentPlanVersion_eq]
        rfl

theorem Changes.samePlan {K : List ChangeKind} {s s' : OrchestrationStore} (h : Changes K s s')
    (other : .accepted ∉ K) : s.runs.Evolves OrchestrationRun.SamePlan s'.runs :=
  h.keeps (P := fun t => s.runs.Evolves OrchestrationRun.SamePlan t.runs)
    (fun {_ _ _} allowed change evolves =>
      evolves.trans (fun first second => first.trans second)
        (change.samePlan fun same => other (same ▸ allowed)))
    (.refl OrchestrationRun.SamePlan.refl _)

theorem Changes.ledger {K : List ChangeKind} {s s' : OrchestrationStore} (h : Changes K s s')
    (ledger : Ledger s) : Ledger s' :=
  h.keeps (fun _ change holds => change.ledger holds) ledger

/-! ## Transactions of the service -/

section Transactions

variable {α : Type} {m : OrchestrationTxn α} {s : Company} {K : List ChangeKind}

theorem reply_eq_ok {a : α} (h : s.reply m = .ok a) :
    ∃ w', m s.world = .ok a w' ∧ (s.ran m).store = w'.store := by
  unfold Company.reply at h
  unfold Company.ran
  cases run : m s.world with
  | ok b w' =>
      rw [run] at h
      cases h
      exact ⟨w', rfl, rfl⟩
  | error e w' =>
      rw [run] at h
      cases h

theorem ran_of_error {e : Exc} (rolls : RollsBack m) (h : s.reply m = .error e) :
    (s.ran m).store = s.store := by
  unfold Company.reply at h
  unfold Company.ran
  cases run : m s.world with
  | ok b w' =>
      rw [run] at h
      cases h
  | error e w' => exact rolls.store_eq run

/-- A transaction changes what it changes when it returns. -/
theorem ran_changes (rolls : RollsBack m)
    (spec : ∀ a w', m s.world = .ok a w' → Changes K s.store w'.store) :
    Changes K s.store (s.ran m).store := by
  cases replied : s.reply m with
  | ok a =>
      obtain ⟨w', run, same⟩ := reply_eq_ok replied
      rw [same]
      exact spec a w' run
  | error e =>
      rw [ran_of_error rolls replied]
      exact .refl _

end Transactions

section Company

variable (platform : Platform) (s : Company)

@[simp] theorem store_moved (id : Nat) (next : Option CallPoint) :
    (s.moved id next).store = s.store := by
  cases next <;> rfl

theorem store_awaiting (host : OrchestrationHost) (request : Request) (point : CallPoint) :
    Quiet s.store (s.awaiting host request point platform).store :=
  ⟨rfl, step_grown platform s.runtime _⟩

/-! ## What a command changes -/

/-- The kinds of changes that a command makes. -/
def commandKinds : OrchestrationCommand → List ChangeKind
  | .start .. => [.quiet, .opened]
  | .replan .. => [.quiet, .moved, .left]
  | .materialize .. => [.quiet, .materialized, .moved]
  | .delegate .. => [.quiet, .moved, .delegated]
  | .startDelegation .. => [.quiet, .moved, .started]
  | .execute .. => [.quiet, .moved, .started]
  | .resumeDelegation .. => [.quiet, .left]
  | .reconcileChild .. => [.quiet, .moved, .completed]
  | .handOff .. => [.quiet, .moved, .left, .delegated]
  | .cancel .. => [.quiet, .moved]

/-- Plans are accepted when the planner has answered, not by a command. -/
theorem accepted_not_mem (command : OrchestrationCommand) :
    .accepted ∉ commandKinds command := by
  cases command <;> simp [commandKinds]

theorem Delegated.changes {t t' : OrchestrationStore} {run : OrchestrationRun} {taskId : TaskId}
    {mode : DelegationMode} {answer : Option Delegation}
    (h : Delegated t t' run taskId mode answer) : Changes [.quiet, .moved, .delegated] t t' := by
  cases h with
  | replayed last initial final unstarted same =>
      rw [same]
      exact .refl _
  | waiting changes => exact changes.mono (by decide)
  | made d task delegating logged =>
      exact (Changes.single (by simp) (.delegated run mode d delegating)).trans
        (.quiet (by simp) logged)

theorem DelegationStarted.changes {t t' : OrchestrationStore} {run : OrchestrationRun}
    {delegationId : DelegationId} {child : AgentRun}
    (h : DelegationStarted t t' run delegationId child) :
    Changes [.quiet, .moved, .started] t t' := by
  obtain ⟨mid, before, next, d, a, moving, starting, -, -, -, -, same⟩ := h.made
  have starting := Change.started before next d a child starting
  rw [same]
  exact (moving.mono (by decide)).trans (.single (by simp) starting)

theorem materialize_changes {workspaceId : WorkspaceId} {runId : OrchestrationRunId}
    {expected : Version} {m : PlanMaterialization} {env : Env} {w w' : World OrchestrationStore}
    (h : materialize env workspaceId runId expected w = .ok m w') :
    Changes [.quiet, .materialized, .moved] w.store w'.store := by
  obtain ⟨run, plan, -, -, -, -, -, ⟨-, same⟩ | ⟨-, changes⟩⟩ := materialize_eq_ok h
  · rw [same]
    exact .refl _
  · exact changes

theorem issue_changes (host : OrchestrationHost) (command : OrchestrationCommand) :
    Changes (commandKinds command) s.store (s.issue platform host command).store := by
  cases command with
  | start workspaceId goalId policy department =>
      have changes : Changes [.quiet, .opened] s.store
          (s.ran (openStart platform.toEnv host workspaceId goalId policy department)).store :=
        ran_changes (.atomic _) fun _ _ h => (openStart_eq_ok h).changes
      unfold Company.issue
      dsimp only
      split <;> exact changes
  | replan workspaceId runId expected =>
      have changes : Changes [.quiet, .moved, .left] s.store
          (s.ran (openReplan platform.toEnv host workspaceId runId expected)).store :=
        ran_changes (.atomic _) fun _ _ h => (openReplan_eq_ok h).elim fun _ facts => facts.2.2.1
      unfold Company.issue
      dsimp only
      split <;> exact changes
  | materialize workspaceId runId expected =>
      exact ran_changes (.atomic _) fun _ _ h => materialize_changes h
  | delegate workspaceId runId taskId expected mode target =>
      refine ran_changes (.atomic _) fun _ _ h => ?_
      obtain ⟨run, -, -, delegated⟩ := delegate_eq_ok h
      exact delegated.changes
  | startDelegation workspaceId runId delegationId expected context executionId =>
      refine ran_changes (.atomic _) fun _ _ h => ?_
      obtain ⟨run, -, started⟩ := startDelegation_eq_ok h
      exact started.changes
  | execute workspaceId runId delegationId expected context =>
      have changes : Changes [.quiet, .moved, .started] s.store (s.ran (startDelegation
          platform.toEnv host workspaceId runId delegationId expected context none)).store := by
        refine ran_changes (.atomic _) fun _ _ h => ?_
        obtain ⟨run, -, started⟩ := startDelegation_eq_ok h
        exact started.changes
      unfold Company.issue
      dsimp only
      split
      · exact changes.trans (.quiet (by simp) (store_awaiting platform _ _ _ _))
      · exact changes
  | resumeDelegation workspaceId runId delegationId expected context intentId =>
      have changes : Changes [.quiet, .left] s.store (s.ran (openResume platform.toEnv
          workspaceId runId delegationId expected context intentId)).store :=
        ran_changes (.atomic _) fun _ _ h => openResume_eq_ok h
      unfold Company.issue
      dsimp only
      split
      · exact changes.trans (.quiet (by simp) (store_awaiting platform _ _ _ _))
      · exact changes
  | reconcileChild workspaceId runId agentRunId expected =>
      exact ran_changes (.atomic _) fun _ _ h => reconcileChild_eq_ok h
  | handOff workspaceId runId senderId senderVersion taskId selected =>
      show Changes [.quiet, .moved, .left, .delegated] _ _
      refine ran_changes (.atomic _) fun _ _ h => ?_
      obtain ⟨yielded, mid, run, yielding, -, left, -, -, -, delegated, -⟩ :=
        handOff_eq_ok (atomic_eq_ok.mp h)
      exact ((Changes.quiet (by simp) yielding).trans (left.mono (by decide))).trans
        (delegated.changes.mono (by decide))
  | cancel workspaceId runId expected =>
      refine ran_changes (.atomic _) fun _ _ h => ?_
      obtain ⟨run, -, -, -, -, changes⟩ := cancel_eq_ok h
      exact changes

end Company

/-! ## Calls that wait for the planner -/

/-- What a call knows of the run it waits for. -/
def PointSound (store : OrchestrationStore) : CallPoint → Prop
  | .planning runId _ replan => ∃ run, store.runs.get? runId = some run ∧
      (replan = true ↔ run.planId ≠ none)
  | .refusing _ runId _ _ => ∃ run, store.runs.get? runId = some run ∧ run.planId ≠ none
  | _ => True

/-- The run that a call is starting. -/
def CallPoint.starts : CallPoint → Option OrchestrationRunId
  | .planning runId _ false => some runId
  | _ => none

/-- The ledger with the calls that wait. -/
structure Company.Sound (s : Company) : Prop where
  ledger : Ledger s.store
  numbered : (s.calls.map OrchestrationCall.id).Nodup
  issued : ∀ call ∈ s.calls, call.id < s.issued
  points : ∀ call ∈ s.calls, PointSound s.store call.point
  /-- No two calls start the same run. -/
  alone : ∀ call ∈ s.calls, ∀ other ∈ s.calls, ∀ runId, call.point.starts = some runId →
    other.point.starts = some runId → call.id = other.id

theorem PointSound.of_samePlan {t t' : OrchestrationStore}
    (same : t.runs.Evolves OrchestrationRun.SamePlan t'.runs) {point : CallPoint}
    (h : PointSound t point) : PointSound t' point := by
  cases point with
  | planning runId request replan =>
      obtain ⟨run, stored, order⟩ := h
      obtain ⟨next, found, samePlan⟩ := same.later stored
      exact ⟨next, found, by rw [samePlan.planId]; exact order⟩
  | refusing workspaceId runId escalation reason =>
      obtain ⟨run, stored, planned⟩ := h
      obtain ⟨next, found, samePlan⟩ := same.later stored
      exact ⟨next, found, by rw [samePlan.planId]; exact planned⟩
  | failing | driving | restoring => trivial

namespace Company.Sound

variable {s s' : Company}

theorem empty : Company.empty.Sound :=
  ⟨Ledger.empty _, List.nodup_nil, fun _ mem => (List.not_mem_nil mem).elim,
    fun _ mem => (List.not_mem_nil mem).elim, fun _ mem => (List.not_mem_nil mem).elim⟩

/-- Changes that accept no plan, with some calls gone. -/
theorem shrink (h : s.Sound) {K : List ChangeKind} (changes : Changes K s.store s'.store)
    (other : .accepted ∉ K) (calls : s'.calls.Sublist s.calls) (issued : s'.issued = s.issued) :
    s'.Sound := by
  refine ⟨changes.ledger h.ledger, h.numbered.sublist (calls.map _), ?_, ?_, ?_⟩
  · intro call mem
    rw [issued]
    exact h.issued call (calls.subset mem)
  · intro call mem
    exact (h.points call (calls.subset mem)).of_samePlan (changes.samePlan other)
  · intro call mem another here
    exact h.alone call (calls.subset mem) another (calls.subset here)

/-- A new call. -/
theorem opened (h : s.Sound) (host : OrchestrationHost) {point : CallPoint}
    (sound : PointSound s.store point)
    (alone : ∀ call ∈ s.calls, ∀ runId, point.starts = some runId →
      call.point.starts ≠ some runId) : (s.opened host point).Sound := by
  refine ⟨h.ledger, ?_, ?_, ?_, ?_⟩
  · show ((s.calls ++ [_]).map OrchestrationCall.id).Nodup
    rw [List.map_append, List.map_singleton]
    refine List.nodup_append'.mpr ⟨h.numbered, List.nodup_singleton _, ?_⟩
    intro id old new
    obtain ⟨call, mem, rfl⟩ := List.mem_map.mp old
    have below := h.issued call mem
    rw [List.mem_singleton.mp new] at below
    exact Nat.lt_irrefl _ below
  · intro call mem
    rcases List.mem_append.mp mem with old | new
    · exact Nat.lt_succ_of_lt (h.issued call old)
    · rw [List.mem_singleton.mp new]
      exact Nat.lt_succ_self _
  · intro call mem
    rcases List.mem_append.mp mem with old | new
    · exact h.points call old
    · rw [List.mem_singleton.mp new]
      exact sound
  · intro call mem another here runId starts starts'
    rcases List.mem_append.mp mem with old | new
    · rcases List.mem_append.mp here with old' | new'
      · exact h.alone call old another old' runId starts starts'
      · rw [List.mem_singleton.mp new'] at starts'
        exact (alone call old runId starts' starts).elim
    · rcases List.mem_append.mp here with old' | new'
      · rw [List.mem_singleton.mp new] at starts
        exact (alone another old' runId starts starts').elim
      · rw [List.mem_singleton.mp new, List.mem_singleton.mp new']

/-- A call that goes on to a point at which it starts no run. -/
theorem moved (h : s.Sound) (id : Nat) {next : CallPoint} (sound : PointSound s.store next)
    (none : next.starts = none) : (s.moved id (some next)).Sound := by
  have ids : (s.calls.map fun c => if c.id = id then { c with point := next } else c).map
      OrchestrationCall.id = s.calls.map OrchestrationCall.id := by
    rw [List.map_map]
    refine List.map_congr_left fun c _ => ?_
    show OrchestrationCall.id (if c.id = id then { c with point := next } else c) = c.id
    split <;> rfl
  have back {call : OrchestrationCall}
      (mem : call ∈ s.calls.map fun c => if c.id = id then { c with point := next } else c) :
      ∃ old ∈ s.calls, call.id = old.id ∧ (call.point = next ∨ call.point = old.point) := by
    obtain ⟨old, here, rfl⟩ := List.mem_map.mp mem
    split
    · exact ⟨old, here, rfl, .inl rfl⟩
    · exact ⟨old, here, rfl, .inr rfl⟩
  refine ⟨h.ledger, ?_, ?_, ?_, ?_⟩
  · show ((s.calls.map _).map _).Nodup
    rw [ids]
    exact h.numbered
  · intro call mem
    obtain ⟨old, here, same, -⟩ := back mem
    rw [same]
    exact h.issued old here
  · intro call mem
    obtain ⟨old, here, -, point | point⟩ := back mem
    · rw [point]
      exact sound
    · rw [point]
      exact h.points old here
  · intro call mem another there runId starts starts'
    obtain ⟨old, here, same, point | point⟩ := back mem
    · rw [point, none] at starts
      cases starts
    · obtain ⟨old', here', same', point' | point'⟩ := back there
      · rw [point', none] at starts'
        cases starts'
      · rw [point] at starts
        rw [point'] at starts'
        rw [same, same']
        exact h.alone old here old' here' runId starts starts'

end Company.Sound

/-! ## Steps -/

section Steps

variable (platform : Platform) {s : Company}

/-- A command after which no call waits for the planner. -/
theorem Company.Sound.ran {α : Type} {m : OrchestrationTxn α} {K : List ChangeKind}
    (h : s.Sound) (changes : Changes K s.store (s.ran m).store) (other : .accepted ∉ K) :
    (s.ran m).Sound := h.shrink changes other (List.Sublist.refl _) rfl

theorem Company.Sound.awaiting (h : s.Sound) (host : OrchestrationHost) (request : Request)
    {point : CallPoint} (sound : ∀ store, PointSound store point) (none : point.starts = none) :
    (s.awaiting host request point platform).Sound := by
  have stepped : Company.Sound { s with
      runtime := s.runtime.step platform (.open host.runtime request) } :=
    h.shrink (Changes.quiet (K := [.quiet]) (by simp) ⟨rfl, step_grown platform s.runtime _⟩)
      (by decide) (List.Sublist.refl _) rfl
  refine stepped.opened host (sound _) fun call mem runId starts => ?_
  rw [none] at starts
  cases starts

/-- A command keeps what the calls know. -/
theorem issue_sound (h : s.Sound) (host : OrchestrationHost) (command : OrchestrationCommand) :
    (s.issue platform host command).Sound := by
  have changes := issue_changes platform s host command
  cases command with
  | start workspaceId goalId policy department =>
      unfold Company.issue at changes ⊢
      dsimp only at changes ⊢
      cases replied : s.reply (openStart platform.toEnv host workspaceId goalId policy department)
        with
      | error e =>
          rw [replied] at changes
          exact h.ran changes (accepted_not_mem _)
      | ok answer =>
          rw [replied] at changes
          obtain ⟨w', run, same⟩ := reply_eq_ok replied
          have made := openStart_eq_ok run
          have stepped := h.ran (m := openStart platform.toEnv host workspaceId goalId policy
            department) changes (accepted_not_mem _)
          refine stepped.opened host ⟨answer.1, ?_, ?_⟩ ?_
          · rw [same]
            exact made.stored
          · rw [made.unplanned]
            simp
          · -- A call that starts a run waits for a stored one, and this run is new.
            intro call mem runId starts again
            cases starts
            obtain ⟨point⟩ : Nonempty (PointSound s.store call.point) := ⟨h.points call mem⟩
            cases at' : call.point with
            | planning id request replan =>
                rw [at'] at point again
                obtain ⟨old, stored, -⟩ := point
                cases replan with
                | true => cases again
                | false =>
                    cases again
                    cases made.absent.symm.trans stored
            | _ =>
                rw [at'] at again
                cases again
  | replan workspaceId runId expected =>
      unfold Company.issue at changes ⊢
      dsimp only at changes ⊢
      cases replied : s.reply (openReplan platform.toEnv host workspaceId runId expected) with
      | error e =>
          rw [replied] at changes
          exact h.ran changes (accepted_not_mem _)
      | ok answer =>
          rw [replied] at changes
          obtain ⟨w', run, same⟩ := reply_eq_ok replied
          obtain ⟨before, stored, active, -, planning⟩ := openReplan_eq_ok run
          cases answer with
          | exhausted waiting => exact h.ran changes (accepted_not_mem _)
          | planning next request =>
              have stepped := h.ran (m := openReplan platform.toEnv host workspaceId runId
                expected) changes (accepted_not_mem _)
              obtain ⟨id, planId, found, -⟩ := planning next request rfl
              refine stepped.opened host ⟨next, ?_, ?_⟩ ?_
              · rw [same, id]
                exact found
              · rw [planId]
                refine iff_of_true rfl fun unnamed => ?_
                have mem := Registry.mem_values_of_get? stored
                rcases active with o | o <;>
                  rcases (h.ledger.unplanned before mem unnamed).status with t | t | t <;>
                  cases o.symm.trans t
              · intro call mem id starts
                cases starts
  | execute workspaceId runId delegationId expected context =>
      have changes : Changes [.quiet, .moved, .started] s.store (s.ran (startDelegation
          platform.toEnv host workspaceId runId delegationId expected context none)).store :=
        issue_changes platform s host
          (.startDelegation workspaceId runId delegationId expected context none)
      unfold Company.issue
      dsimp only
      split
      · exact (h.ran changes (by decide)).awaiting platform host _ (fun _ => trivial) rfl
      · exact h.ran changes (by decide)
  | resumeDelegation workspaceId runId delegationId expected context intentId =>
      have changes : Changes [.quiet, .left] s.store (s.ran (openResume platform.toEnv
          workspaceId runId delegationId expected context intentId)).store :=
        ran_changes (.atomic _) fun _ _ h => openResume_eq_ok h
      unfold Company.issue
      dsimp only
      split
      · exact (h.ran changes (by decide)).awaiting platform host _ (fun _ => trivial) rfl
      · exact h.ran changes (by decide)
  | _ => exact h.ran changes (accepted_not_mem _)

/-- The kinds of changes of a call at a point. -/
def pointKinds : CallPoint → List ChangeKind
  | .planning .. => [.quiet, .accepted]
  | .failing .. => [.quiet, .moved]
  | .refusing .. => [.quiet, .moved]
  | .driving .. => [.quiet, .moved, .completed]
  | .restoring .. => [.quiet, .moved]

/-- What the acceptance of a plan changes. -/
theorem acceptPlan_changes {host : OrchestrationHost} {w w' : World OrchestrationStore}
    {runId : OrchestrationRunId} {request : OrchestrationRequest} {proposal : PlanProposal}
    {replan : Bool} {next : OrchestrationRun}
    (order : ∀ run, w.store.runs.get? runId = some run → (replan = true ↔ run.planId ≠ none))
    (h : acceptPlan platform.toEnv host runId request proposal replan w = .ok next w') :
    Changes [.quiet, .accepted] w.store w'.store := by
  obtain ⟨run, plan, mid, -, accepting, rfl, logged⟩ := acceptPlan_eq_ok order h
  exact (Changes.single (by simp) (.accepted run next plan replan accepting)).trans
    (.quiet (by simp) logged)

/-- What a call at a point knows of the stored run. -/
theorem PointSound.order {store : OrchestrationStore} {runId : OrchestrationRunId}
    {request : OrchestrationRequest} {replan : Bool}
    (h : PointSound store (.planning runId request replan)) (run : OrchestrationRun)
    (stored : store.runs.get? runId = some run) : replan = true ↔ run.planId ≠ none := by
  obtain ⟨found, present, order⟩ := h
  obtain rfl : found = run := Option.some.inj (present.symm.trans stored)
  exact order

theorem PointSound.planned {store : OrchestrationStore} {workspaceId : WorkspaceId}
    {runId : OrchestrationRunId} {escalation : String} {reason : PyStr}
    (h : PointSound store (.refusing workspaceId runId escalation reason)) (run : OrchestrationRun)
    (stored : store.runs.get? runId = some run) : run.planId ≠ none := by
  obtain ⟨found, present, planned⟩ := h
  obtain rfl : found = run := Option.some.inj (present.symm.trans stored)
  exact planned

theorem proceed_changes (h : s.Sound) {call : OrchestrationCall} (mem : call ∈ s.calls)
    (answer : Answer) :
    Changes (pointKinds call.point) s.store (s.proceed platform call answer).store := by
  obtain ⟨id, host, point⟩ := call
  have sound : PointSound s.store point := h.points _ mem
  cases point with
  | planning runId request replan =>
      cases answer with
      | planned reply text =>
          cases reply with
          | ok proposal =>
              have changes : Changes [.quiet, .accepted] s.store (s.ran (acceptPlan
                  platform.toEnv host runId request proposal replan)).store :=
                ran_changes (.atomic _) fun _ _ h => acceptPlan_changes platform sound.order h
              unfold Company.proceed
              dsimp only
              split
              · rw [store_moved]
                exact changes
              · rw [store_moved]
                exact changes
          | error e =>
              unfold Company.proceed
              rw [store_moved]
              exact .refl _
      | _ => exact .refl _
  | failing workspaceId runId reason =>
      cases answer with
      | next =>
          unfold Company.proceed
          rw [store_moved]
          exact ran_changes (.atomic _) fun _ _ h => failStart_eq_ok h
      | _ => exact .refl _
  | refusing workspaceId runId escalation reason =>
      cases answer with
      | next =>
          unfold Company.proceed
          rw [store_moved]
          exact ran_changes (.atomic _) fun _ _ h => waitAfterPlanning_eq_ok sound.planned h
      | _ => exact .refl _
  | driving workspaceId runId approval =>
      cases answer with
      | driven result =>
          cases result with
          | ok result =>
              unfold Company.proceed
              rw [store_moved]
              exact ran_changes (.atomic _) fun _ _ h => (reconcileResult_eq_ok h).2
          | error e =>
              unfold Company.proceed
              rw [store_moved]
              exact .refl _
      | _ => exact .refl _
  | restoring workspaceId runId =>
      cases answer with
      | next =>
          unfold Company.proceed
          rw [store_moved]
          exact ran_changes (.atomic _) fun _ _ h => restoreWaiting_eq_ok h
      | _ => exact .refl _

/-- After a plan was accepted the other calls still know their runs. -/
theorem Company.Sound.accepted (h : s.Sound) {call : OrchestrationCall} (mem : call ∈ s.calls)
    {runId : OrchestrationRunId} {request : OrchestrationRequest} {replan : Bool}
    (at' : call.point = .planning runId request replan) {s' : Company}
    {run next : OrchestrationRun} {plan : PlanVersion} {mid : OrchestrationStore}
    (stored : s.store.runs.get? runId = some run)
    (accepting : Accepting s.store run next plan replan)
    (filed : mid = { s.store with
      plans := s.store.plans.put plan, runs := s.store.runs.put next })
    (logged : Quiet mid s'.store) (calls : s'.calls = s.calls.filter (·.id ≠ call.id))
    (issued : s'.issued = s.issued) : s'.Sound := by
  obtain ⟨at₁, evolved⟩ := accepting.evolved
  have accepted : Change s.store .accepted mid := filed ▸ .accepted run next plan replan accepting
  have changes : Changes [.accepted, .quiet] s.store s'.store :=
    (Changes.single (by simp) accepted).trans (.quiet (by simp) logged)
  have runs : s'.store.runs = s.store.runs.put next := by rw [logged.runs, filed]
  have id : OrchestrationRun.key next = run.id := evolved.id_eq
  have sublist : s'.calls.Sublist s.calls := calls ▸ List.filter_sublist
  have named : run.id = runId := id_of_stored stored
  refine ⟨changes.ledger h.ledger, h.numbered.sublist (sublist.map _), ?_, ?_, ?_⟩
  · intro other here
    rw [issued]
    exact h.issued other (sublist.subset here)
  · intro other here
    rw [calls] at here
    obtain ⟨here, apart⟩ := List.mem_filter.mp here
    have apart : other.id ≠ call.id := of_decide_eq_true apart
    have sound := h.points other here
    cases theirs : other.point with
    | planning otherId otherRequest otherReplan =>
        rw [theirs] at sound
        obtain ⟨otherRun, present, order⟩ := sound
        by_cases same : otherId = runId
        · -- The other call replans: a second start of the run is excluded.
          subst same
          obtain rfl : run = otherRun := Option.some.inj (stored.symm.trans present)
          refine ⟨next, ?_, ?_⟩
          · rw [runs, ← named, ← id]
            exact Registry.get?_put_self _ next
          · have planned : next.planId ≠ none := by
              rw [evolved.planId_eq]
              exact Option.some_ne_none _
            refine iff_of_true ?_ planned
            cases again : otherReplan with
            | true => rfl
            | false =>
                refine (apart (h.alone other here call mem otherId ?_ ?_)).elim
                · rw [theirs, again]
                  rfl
                · have first : replan = false := by
                    cases again' : replan with
                    | false => rfl
                    | true =>
                        have bad := order.mpr (accepting.order.mp again')
                        rw [again] at bad
                        cases bad
                  rw [at', first]
                  rfl
        · refine ⟨otherRun, ?_, order⟩
          rw [runs, Registry.get?_put_ne]
          · exact present
          · rw [id, named]
            exact fun eq => same eq.symm
    | refusing workspaceId otherId escalation reason =>
        rw [theirs] at sound
        obtain ⟨otherRun, present, planned⟩ := sound
        obtain ⟨later, found, follows⟩ := changes.kept.runs.later present
        obtain ⟨p, planned⟩ := Option.ne_none_iff_exists'.mp planned
        refine ⟨later, found, ?_⟩
        rw [follows.planned p planned]
        exact Option.some_ne_none _
    | failing | driving | restoring => trivial
  · intro a ha b hb
    exact h.alone a (sublist.subset ha) b (sublist.subset hb)

theorem afterRejection_sound {store : OrchestrationStore} {runId : OrchestrationRunId}
    {request : OrchestrationRequest} {replan : Bool} {e : Exc} {point : CallPoint}
    (sound : PointSound store (.planning runId request replan))
    (h : Company.afterRejection request runId replan e = some point) :
    PointSound store point ∧ point.starts = none := by
  obtain ⟨run, stored, order⟩ := sound
  unfold Company.afterRejection at h
  split at h
  · cases h
  · cases h
    exact ⟨trivial, rfl⟩
  · cases h
    exact ⟨⟨run, stored, order.mp rfl⟩, rfl⟩
  · cases h

theorem afterPlannerFailure_sound {store : OrchestrationStore} {runId : OrchestrationRunId}
    {request : OrchestrationRequest} {replan : Bool} {e : Exc} {text : PyStr} {point : CallPoint}
    (sound : PointSound store (.planning runId request replan))
    (h : Company.afterPlannerFailure request runId replan e text = some point) :
    PointSound store point ∧ point.starts = none := by
  obtain ⟨run, stored, order⟩ := sound
  unfold Company.afterPlannerFailure at h
  split at h
  · cases h
  · split at h
    · next again =>
        cases h
        exact ⟨⟨run, stored, order.mp again⟩, rfl⟩
    · cases h
      exact ⟨trivial, rfl⟩

theorem proceed_sound (h : s.Sound) {call : OrchestrationCall} (mem : call ∈ s.calls)
    (answer : Answer) : (s.proceed platform call answer).Sound := by
  have gone (t : Company) : (t.moved call.id none).calls.Sublist t.calls := List.filter_sublist
  have ended {α : Type} {m : OrchestrationTxn α} {K : List ChangeKind}
      (changes : Changes K s.store (s.ran m).store) (other : .accepted ∉ K) :
      ((s.ran m).moved call.id none).Sound := h.shrink changes other (gone (s.ran m)) rfl
  have changes := proceed_changes platform h mem answer
  obtain ⟨id, host, point⟩ := call
  have sound : PointSound s.store point := h.points _ mem
  cases point with
  | planning runId request replan =>
      cases answer with
      | planned reply text =>
          cases reply with
          | ok proposal =>
              unfold Company.proceed
              dsimp only
              cases replied : s.reply (acceptPlan platform.toEnv host runId request proposal replan)
                with
              | ok next =>
                  obtain ⟨w', run, same⟩ := reply_eq_ok replied
                  obtain ⟨before, plan, mid, stored, accepting, filed, logged⟩ :=
                    acceptPlan_eq_ok sound.order run
                  rw [← same] at logged
                  exact h.accepted mem rfl stored accepting filed logged rfl rfl
              | error e =>
                  have same := ran_of_error (m := acceptPlan platform.toEnv host runId request
                    proposal replan) (.atomic _) replied
                  have kept : (s.ran (acceptPlan platform.toEnv host runId request proposal
                      replan)).Sound :=
                    h.ran (K := []) (by rw [same]; exact .refl _) (by simp)
                  rw [← same] at sound
                  dsimp only
                  cases rejected : Company.afterRejection request runId replan e with
                  | none => exact kept.shrink (K := []) (.refl _) (by simp) (gone _) rfl
                  | some point =>
                      obtain ⟨ok, none⟩ := afterRejection_sound sound rejected
                      exact kept.moved id ok none
          | error e =>
              unfold Company.proceed
              dsimp only
              cases failed : Company.afterPlannerFailure request runId replan e text with
              | none => exact h.shrink (K := []) (.refl _) (by simp) (gone _) rfl
              | some point =>
                  obtain ⟨ok, none⟩ := afterPlannerFailure_sound sound failed
                  exact h.moved id ok none
      | _ => exact h
  | failing workspaceId runId reason =>
      cases answer with
      | next =>
          refine ended (m := failStart platform.toEnv workspaceId runId reason)
            (K := [.quiet, .moved]) ?_ (by simp)
          rw [← store_moved _ id none]
          exact changes
      | _ => exact h
  | refusing workspaceId runId escalation reason =>
      cases answer with
      | next =>
          refine ended (m := waitAfterPlanning platform.toEnv workspaceId runId escalation reason)
            (K := [.quiet, .moved]) ?_ (by simp)
          rw [← store_moved _ id none]
          exact changes
      | _ => exact h
  | driving workspaceId runId approval =>
      cases answer with
      | driven result =>
          cases result with
          | ok result =>
              refine ended (m := reconcileResult platform.toEnv workspaceId runId result)
                (K := [.quiet, .moved, .completed]) ?_ (by simp)
              rw [← store_moved _ id none]
              exact changes
          | error e =>
              unfold Company.proceed
              dsimp only
              split
              · exact h.moved id trivial rfl
              · exact h.shrink (K := []) (.refl _) (by simp) (gone _) rfl
      | _ => exact h
  | restoring workspaceId runId =>
      cases answer with
      | next =>
          refine ended (m := restoreWaiting platform.toEnv workspaceId runId)
            (K := [.quiet, .moved]) ?_ (by simp)
          rw [← store_moved _ id none]
          exact changes
      | _ => exact h

/-! ## Whole runs -/

/-- The kinds of changes of a step. -/
def stepKinds (s : Company) : Label → List ChangeKind
  | .runtime _ => [.quiet]
  | .command _ command => commandKinds command
  | .advance id _ => ((s.call? id).map fun call => pointKinds call.point).getD []
  | .drop _ => []

theorem step_changes (h : s.Sound) (label : Label) :
    Changes (stepKinds s label) s.store (s.step platform label).store := by
  cases label with
  | runtime label => exact .quiet (by simp [stepKinds]) ⟨rfl, step_grown platform s.runtime label⟩
  | command host command => exact issue_changes platform s host command
  | advance id answer =>
      unfold Company.step stepKinds
      dsimp only
      cases found : s.call? id with
      | none => exact .refl _
      | some call => exact proceed_changes platform h (List.mem_of_find?_eq_some found) answer
  | drop id => exact .refl _

theorem survivors_sublist (label : Runtime.Label) : (s.survivors label).Sublist s.calls := by
  unfold Company.survivors
  split
  · exact List.nil_sublist _
  · split
    · exact List.nil_sublist _
    · exact List.Sublist.refl _
  · exact List.Sublist.refl _

theorem step_sound (h : s.Sound) (label : Label) : (s.step platform label).Sound := by
  cases label with
  | runtime label =>
      exact h.shrink (step_changes platform h (.runtime label)) (by simp [stepKinds])
        (survivors_sublist label) rfl
  | command host command => exact issue_sound platform h host command
  | advance id answer =>
      unfold Company.step
      dsimp only
      cases found : s.call? id with
      | none => exact h
      | some call => exact proceed_sound platform h (List.mem_of_find?_eq_some found) answer
  | drop id => exact h.shrink (K := []) (.refl _) (by simp) List.filter_sublist rfl

end Steps

/-- Every reached state is sound. -/
theorem after_sound (platform : Platform) (labels : List Label) :
    (Company.after platform labels).Sound := by
  unfold Company.after
  have step (s : Company) (h : s.Sound) : (labels.foldl (Company.step platform) s).Sound := by
    induction labels generalizing s with
    | nil => exact h
    | cons label rest ih => exact ih _ (step_sound platform h label)
  exact step _ .empty

/-- What holds of the empty company and is kept by every step holds after every run. -/
theorem after_invariant (platform : Platform) {P : Company → Prop} (empty : P .empty)
    (step : ∀ {c : Company} (label : Label), c.Sound → P c → P (c.step platform label))
    (labels : List Label) : P (Company.after platform labels) := by
  have run : ∀ (labels : List Label) (c : Company), c.Sound → P c →
      P (labels.foldl (Company.step platform) c) := by
    intro labels
    induction labels with
    | nil => exact fun c _ held => held
    | cons label rest ih =>
        intro c sound held
        exact ih _ (step_sound platform sound label) (step label sound held)
  exact run labels _ .empty empty

/-- What every single change keeps holds in every reached state. -/
theorem after_keeps (platform : Platform) {P : OrchestrationStore → Prop}
    (change : ∀ {s s' kind}, Change s kind s' → Ledger s → P s → P s')
    (start : P Company.empty.store) (labels : List Label) :
    P (Company.after platform labels).store := by
  unfold Company.after
  have step (s : Company) (h : s.Sound) (holds : P s.store) :
      P (labels.foldl (Company.step platform) s).store := by
    induction labels generalizing s with
    | nil => exact holds
    | cons label rest ih =>
        have both := (step_changes platform h label).keeps
          (P := fun t => Ledger t ∧ P t)
          (fun _ one held => ⟨one.ledger held.1, change one held.1 held.2⟩) ⟨h.ledger, holds⟩
        exact ih _ (step_sound platform h label) both.2
  exact step _ .empty start

end AgentCompanyOS.Orchestration
