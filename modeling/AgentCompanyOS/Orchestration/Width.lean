import AgentCompanyOS.Orchestration.Budgets

/-!
# The parallel width

A delegation counts against the width while it is unstarted or its last agent run is open.
Agent runs only ever end, so the count of a run rises in two ways: a delegation is made, or
one whose agent run has ended is started again. Of these only an initial delegation is
checked against the width, and its check stands before the answer to a replayed call.
-/

set_option autoImplicit false

namespace AgentCompanyOS.Orchestration

open Foundation Foundation.Txn Domain AgentCompanyOS.Runtime

variable {s s' : OrchestrationStore} {kind : ChangeKind} {K : List ChangeKind}

/-- Only `start` opens a run. -/
theorem Change.absent (h : Change s kind s') (other : kind ≠ .opened) {id : OrchestrationRunId}
    (absent : s.runs.get? id = none) : s'.runs.get? id = none := by
  have put {run next : OrchestrationRun} (stored : s.runs.get? run.id = some run)
      (same : next.id = run.id) : (s.runs.put next).get? id = none := by
    rw [Registry.get?_put_ne]
    · exact absent
    · intro named
      rw [show OrchestrationRun.key next = run.id from same] at named
      rw [named, absent] at stored
      cases stored
  cases h with
  | quiet between =>
      rw [between.runs]
      exact absent
  | opened => exact (other rfl).elim
  | moved run next at' change stored evolved => exact put stored evolved.id_eq
  | left run next at' change stored evolved => exact put stored evolved.id_eq
  | completed run next at' stored evolved => exact put stored evolved.id_eq
  | accepted run next plan replan accepting =>
      obtain ⟨at', evolved⟩ := accepting.evolved
      exact put accepting.stored evolved.id_eq
  | materialized run plan m stored current own tasks between =>
      show Registry.get? _ id = none
      rw [between.runs]
      exact absent
  | delegated => exact absent
  | started run next d a child starting =>
      obtain ⟨at', evolved⟩ := starting.evolved
      exact put starting.stored evolved.id_eq

theorem Changes.absent (h : Changes K s s') (other : .opened ∉ K) {id : OrchestrationRunId}
    (absent : s.runs.get? id = none) : s'.runs.get? id = none :=
  h.keeps (P := fun t => t.runs.get? id = none) (fun {_ _ _} allowed change held =>
    change.absent (fun same => other (same ▸ allowed)) held) absent

/-! ## Delegations and their agent runs -/

/-- Delegations and attempts name stored records of one workspace. -/
structure Linkage (s : OrchestrationStore) : Prop where
  housed : ∀ d ∈ s.delegations.values, ∃ run, s.runs.get? d.orchestrationRunId = some run ∧
    run.workspaceId = d.workspaceId
  linked : ∀ a ∈ s.attempts, ∃ d child, s.delegations.get? a.delegationId = some d ∧
    s.runtime.runs.get? a.agentRunId = some child ∧ child.workspaceId = d.workspaceId ∧
    child.taskId = d.taskId ∧ child.taskAttemptId = a.taskAttemptId ∧
    child.executionId = a.executionId
  /-- No two attempts name the same agent run. -/
  apart : (s.attempts.map DelegationAttempt.agentRunId).Nodup

namespace Linkage

theorem empty (runtime : RuntimeStore) : Linkage ⟨.empty, runtime⟩ :=
  ⟨fun _ mem => (List.not_mem_nil mem).elim, fun _ mem => (List.not_mem_nil mem).elim,
    List.nodup_nil⟩

/-- Stored delegations and linked attempts stay so. -/
theorem grow (h : Linkage s) (kept : Kept s s') :
    (∀ d ∈ s.delegations.values, ∃ run, s'.runs.get? d.orchestrationRunId = some run ∧
      run.workspaceId = d.workspaceId) ∧
    ∀ a ∈ s.attempts, ∃ d child, s'.delegations.get? a.delegationId = some d ∧
      s'.runtime.runs.get? a.agentRunId = some child ∧ child.workspaceId = d.workspaceId ∧
      child.taskId = d.taskId ∧ child.taskAttemptId = a.taskAttemptId ∧
      child.executionId = a.executionId := by
  constructor
  · intro d mem
    obtain ⟨run, stored, scope⟩ := h.housed d mem
    obtain ⟨later, found, follows⟩ := kept.runs.later stored
    exact ⟨later, found, follows.workspace.trans scope⟩
  · intro a mem
    obtain ⟨d, child, stored, found, workspace, task, attempt, execution⟩ := h.linked a mem
    obtain ⟨d', stored', rfl⟩ := kept.delegations.later stored
    obtain ⟨later, found', follows⟩ := kept.grown.run found
    have origin := follows.origin
    simp only [AgentRun.origin, Prod.mk.injEq] at origin
    obtain ⟨-, sameWorkspace, sameExecution, sameAttempt, sameTask, -⟩ := origin
    exact ⟨d, later, stored', found', sameWorkspace.trans workspace, sameTask.trans task,
      sameAttempt.trans attempt, sameExecution.trans execution⟩

end Linkage

theorem Change.linkage (h : Change s kind s') (linkage : Linkage s) : Linkage s' := by
  have kept := h.kept
  obtain ⟨housed, linked⟩ := linkage.grow kept
  by_cases delegates : kind = .delegated
  · cases h with
    | delegated run mode d delegating =>
        refine ⟨?_, linked, linkage.apart⟩
        intro other mem
        rcases Registry.mem_values_put.mp mem with rfl | ⟨old, -⟩
        · exact delegating.filed.run
        · exact housed other old
    | _ => cases delegates
  · rw [← h.delegations delegates] at housed
    by_cases starts : kind = .started
    · cases h with
      | started run next d a child starting =>
          have filed := starting.filed
          refine ⟨housed, ?_, ?_⟩
          · intro other mem
            rcases List.mem_append.mp mem with old | new
            · exact linked other old
            · rw [List.mem_singleton.mp new]
              exact ⟨d, child, filed.delegation, filed.stored, filed.workspace, filed.task,
                filed.attempt, filed.execution⟩
          · show ((s.attempts ++ [a]).map DelegationAttempt.agentRunId).Nodup
            rw [List.map_append, List.map_singleton]
            refine List.nodup_append'.mpr ⟨linkage.apart, List.nodup_singleton _, ?_⟩
            intro id old new
            obtain ⟨other, mem, same⟩ := List.mem_map.mp old
            rw [List.mem_singleton.mp new] at same
            exact filed.fresh other mem same
      | _ => cases starts
    · have same := h.attempts starts
      rw [← same] at linked
      refine ⟨housed, linked, ?_⟩
      rw [same]
      exact linkage.apart

theorem Changes.linkage (h : Changes K s s') (linkage : Linkage s) : Linkage s' :=
  h.keeps (fun _ change held => change.linkage held) linkage

theorem after_linkage (platform : Platform) (labels : List Label) :
    Linkage (Company.after platform labels).store :=
  after_keeps platform (fun change _ held => change.linkage held) (Linkage.empty _) labels

/-! ## The count -/

/-- An agent run is open until it ends. -/
theorem open_iff (status : AgentRunStatus) :
    status.terminal = false ↔ status = .running ∨ status = .waiting := by
  cases status <;> simp [AgentRunStatus.terminal]

/-- A delegation is active when it has no agent run or its last one is open. -/
theorem isActive_iff {d : Delegation} : s.isActive d = true ↔ s.attemptsOf d.id = [] ∨
    ∃ last child, (s.attemptsOf d.id).getLast? = some last ∧
      s.runtime.runs.get? last.agentRunId = some child ∧ child.status.terminal = false := by
  unfold OrchestrationStore.isActive
  cases final : (s.attemptsOf d.id).getLast? with
  | none => simp [List.getLast?_eq_none_iff.mp final]
  | some last =>
      have nonempty : s.attemptsOf d.id ≠ [] := List.ne_nil_of_mem (List.mem_of_getLast? final)
      cases found : s.runtime.runs.get? last.agentRunId with
      | none => simp [nonempty, found]
      | some child => simp [nonempty, found, open_iff]

/-- A delegation that is active later was active before. -/
theorem isActive_back (linkage : Linkage s) (grown : Grown s.runtime s'.runtime) {d : Delegation}
    (same : s'.attemptsOf d.id = s.attemptsOf d.id) (active : s'.isActive d = true) :
    s.isActive d = true := by
  rw [isActive_iff] at active ⊢
  rw [same] at active
  rcases active with unstarted | ⟨last, child, final, found, open'⟩
  · exact .inl unstarted
  · have mem := (List.mem_filter.mp (List.mem_of_getLast? final)).1
    obtain ⟨-, before, -, stored, -⟩ := linkage.linked last mem
    refine .inr ⟨last, before, final, stored, ?_⟩
    by_contra ended
    rw [Bool.not_eq_false] at ended
    rw [grown.ended_run stored ended] at found
    obtain rfl := Option.some.inj found
    rw [ended] at open'
    cases open'

/-- The count of a run does not rise while its delegations and their attempts stay. -/
theorem activeCount_le (linkage : Linkage s) (grown : Grown s.runtime s'.runtime)
    (delegations : s'.delegations = s.delegations) (attempts : s'.attempts = s.attempts)
    (runId : OrchestrationRunId) : s'.activeCount runId ≤ s.activeCount runId := by
  unfold OrchestrationStore.activeCount OrchestrationTables.delegationsOf
  rw [delegations]
  refine List.countP_mono_left fun d _ active => ?_
  refine isActive_back linkage grown ?_ active
  unfold OrchestrationTables.attemptsOf
  rw [attempts]

/-- A count rises by one at most when one more element may be counted. -/
theorem countP_le_succ {α : Type} {p q : α → Bool} {l : List α} (nodup : l.Nodup) (y : α)
    (h : ∀ x ∈ l, q x = true → x ≠ y → p x = true) : l.countP q ≤ l.countP p + 1 := by
  induction l with
  | nil => simp
  | cons x rest ih =>
      obtain ⟨apart, nodup⟩ := List.nodup_cons.mp nodup
      rw [List.countP_cons, List.countP_cons]
      by_cases same : x = y
      · -- The others are all counted by the first count.
        have le : rest.countP q ≤ rest.countP p := by
          refine List.countP_mono_left fun z mem counted => ?_
          refine h z (List.mem_cons_of_mem _ mem) counted fun eq => ?_
          exact apart (same ▸ eq ▸ mem)
        split <;> split <;> omega
      · have le := ih nodup fun z mem => h z (List.mem_cons_of_mem _ mem)
        by_cases counted : q x = true
        · have old := h x List.mem_cons_self counted same
          rw [if_pos counted, if_pos old]
          omega
        · rw [if_neg counted]
          omega

/-! ## Within the width -/

/-- The active delegations of every run are within the width of its policy. -/
def WithinWidth (s : OrchestrationStore) : Prop :=
  ∀ run ∈ s.runs.values, s.activeCount run.id ≤ run.policy.maxParallelWidth

/-- Later counts are bounded when those of the stored runs are. -/
theorem WithinWidth.of_bound (kept : Kept s s')
    (owned : ∀ d ∈ s'.delegations.values, ∃ run, s.runs.get? d.orchestrationRunId = some run)
    (bound : ∀ run ∈ s.runs.values, s'.activeCount run.id ≤ run.policy.maxParallelWidth) :
    WithinWidth s' := by
  intro next mem
  rcases kept.run_from mem with ⟨run, old, later⟩ | absent
  · rw [later.id, later.policy]
    exact bound run old
  · have empty : s'.delegationsOf next.id = [] := by
      refine List.eq_nil_iff_forall_not_mem.mpr fun d listed => ?_
      obtain ⟨stored, own⟩ := mem_delegationsOf.mp listed
      obtain ⟨run, found⟩ := owned d stored
      rw [own, absent] at found
      cases found
    unfold OrchestrationStore.activeCount
    rw [empty]
    exact Nat.zero_le _

/-- Changes that neither delegate nor start keep the width. -/
theorem Changes.withinWidth (h : Changes K s s') (linkage : Linkage s) (held : WithinWidth s)
    (delegated : .delegated ∉ K) (started : .started ∉ K) : WithinWidth s' := by
  have delegations := h.delegations delegated
  refine .of_bound h.kept ?_ fun run mem => ?_
  · rw [delegations]
    intro d mem
    obtain ⟨run, stored, -⟩ := linkage.housed d mem
    exact ⟨run, stored⟩
  · exact Nat.le_trans
      (activeCount_le linkage h.kept.grown delegations (h.attempts started) run.id) (held run mem)

/-- A delegation that is made counts at most once. -/
theorem withinWidth_delegated {run : OrchestrationRun} {mode : DelegationMode} {d : Delegation}
    (linkage : Linkage s) (held : WithinWidth s) (delegating : Delegating s run mode d)
    (below : s.activeCount run.id < run.policy.maxParallelWidth) :
    WithinWidth { s with delegations := s.delegations.put d } := by
  have change : Change s .delegated { s with delegations := s.delegations.put d } :=
    .delegated run mode d delegating
  have values : (s.delegations.put d).values = s.delegations.values ++ [d] :=
    Registry.values_put_of_absent delegating.filed.absent
  refine .of_bound change.kept ?_ fun other mem => ?_
  · intro x mem
    rcases Registry.mem_values_put.mp mem with rfl | ⟨old, -⟩
    · exact ⟨run, delegating.own ▸ delegating.stored⟩
    · obtain ⟨owner, stored, -⟩ := linkage.housed x old
      exact ⟨owner, stored⟩
  · unfold OrchestrationStore.activeCount OrchestrationTables.delegationsOf
    rw [values, List.filter_append, List.countP_append]
    by_cases own : d.orchestrationRunId = other.id
    · have here : s.runs.get? other.id = some other := Registry.get?_of_mem_values mem
      rw [← own, delegating.own, delegating.stored] at here
      obtain rfl := Option.some.inj here
      have one : ([d].filter fun delegation => delegation.orchestrationRunId = run.id).countP
          (OrchestrationStore.isActive { s with delegations := s.delegations.put d }) ≤ 1 :=
        Nat.le_trans List.countP_le_length (List.length_filter_le _ _)
      exact Nat.le_trans (Nat.add_le_add_left one _) below
    · rw [List.filter_cons_of_neg (by simp [own]), List.filter_nil, List.countP_nil,
        Nat.add_zero]
      exact held other mem

/-- Whether a count of a run is below its width. -/
def Company.below (c : Company) (runId : OrchestrationRunId) (count : Nat) : Bool :=
  (c.store.runs.get? runId).all fun run => count < run.policy.maxParallelWidth

theorem Company.below_of {c : Company} {run : OrchestrationRun} {count : Nat}
    (h : c.below run.id count = true) (stored : c.store.runs.get? run.id = some run) :
    count < run.policy.maxParallelWidth := by
  unfold Company.below at h
  rw [stored] at h
  exact of_decide_eq_true h

/-- The active delegations of a run, but for that of an agent run. -/
def OrchestrationStore.activeWithout (s : OrchestrationStore) (runId : OrchestrationRunId)
    (senderId : AgentRunId) : Nat :=
  (s.delegationsOf runId).countP fun d => s.isActive d &&
    !((s.attemptsOf d.id).getLast?.any fun last => last.agentRunId = senderId)

/-- A retry, a redelegation, a handoff and a second start that pass the checks of the code find
room in the width. -/
def widthLeft (platform : Platform) (c : Company) : Label → Bool
  | .command host (.delegate workspaceId runId taskId expected mode target) =>
      mode = .initial || !c.passes (delegateChecks platform.toEnv host workspaceId runId taskId
        expected mode target) || c.below runId (c.store.activeCount runId)
  | .command host (.handOff workspaceId runId senderId senderVersion taskId selected) =>
      !c.passes (handOffChecks platform.toEnv host workspaceId runId senderId senderVersion taskId
        selected) || c.below runId (c.store.activeWithout runId senderId)
  | label =>
      match label.starts with
      | some (runId, delegationId) =>
          !c.startPasses platform label ||
            ((c.store.delegations.get? delegationId).all fun d => c.store.isActive d) ||
            c.below runId (c.store.activeCount runId)
      | none => true

/-- The transaction of a command that returns or leaves no trace. -/
theorem ran_or_same {α : Type} {c : Company} {m : OrchestrationTxn α} (rolls : RollsBack m) :
    (c.ran m).store = c.store ∨ ∃ a w', m c.world = .ok a w' ∧ (c.ran m).store = w'.store := by
  cases replied : c.reply m with
  | ok a =>
      obtain ⟨w', run, same⟩ := reply_eq_ok replied
      exact .inr ⟨a, w', run, same⟩
  | error e => exact .inl (ran_of_error rolls replied)

/-- What `delegate` makes keeps the width when there is room for it. -/
theorem Delegated.withinWidth {run : OrchestrationRun} {taskId : TaskId} {mode : DelegationMode}
    {answer : Option Delegation} (h : Delegated s s' run taskId mode answer) (linkage : Linkage s)
    (held : WithinWidth s)
    (room : mode ≠ .initial → answer ≠ none →
      s.activeCount run.id < run.policy.maxParallelWidth) : WithinWidth s' := by
  cases h with
  | replayed last initial final unstarted same =>
      rw [same]
      exact held
  | waiting changes => exact changes.withinWidth linkage held (by decide) (by decide)
  | made d task delegating logged =>
      have below : s.activeCount run.id < run.policy.maxParallelWidth := by
        by_cases initial : mode = .initial
        · exact (delegating.first initial).2
        · exact room initial (Option.some_ne_none d)
      have change : Change s .delegated { s with delegations := s.delegations.put d } :=
        .delegated run mode d delegating
      exact (Changes.quiet (K := [.quiet]) (by simp) logged).withinWidth (change.linkage linkage)
        (withinWidth_delegated linkage held delegating below) (by decide) (by decide)

theorem withinWidth_delegate (platform : Platform) {c : Company} (linkage : Linkage c.store)
    (held : WithinWidth c.store) {host : OrchestrationHost} {workspaceId : WorkspaceId}
    {runId : OrchestrationRunId} {taskId : TaskId} {expected : Version} {mode : DelegationMode}
    {target : Option AgentDefinitionVersion}
    (guarded : widthLeft platform c (.command host
      (.delegate workspaceId runId taskId expected mode target)) = true) :
    WithinWidth (c.ran (delegate platform.toEnv host workspaceId runId taskId expected mode
      target)).store := by
  rcases ran_or_same (c := c) (m := delegate platform.toEnv host workspaceId runId taskId expected
    mode target) (.atomic _) with same | ⟨answer, w', ran, same⟩
  · rw [same]
    exact held
  · rw [same]
    obtain ⟨run, stored, -, delegated⟩ := delegate_eq_ok ran
    obtain rfl := id_of_stored stored
    refine delegated.withinWidth linkage held fun other made => ?_
    obtain ⟨d, rfl⟩ := Option.ne_none_iff_exists'.mp made
    have passed := c.passes_of (delegate_checks other ran)
    rcases Bool.or_eq_true_iff.mp guarded with refused | below
    · rw [passed, decide_eq_false other] at refused
      cases refused
    · exact Company.below_of below stored

/-- A handed off task leaves the delegation of its sender. -/
theorem withinWidth_handOff (platform : Platform) {c : Company} (linkage : Linkage c.store)
    (held : WithinWidth c.store) {host : OrchestrationHost} {workspaceId : WorkspaceId}
    {runId : OrchestrationRunId} {senderId : AgentRunId} {senderVersion : Version}
    {taskId : TaskId} {selected : AgentDefinitionVersion}
    (guarded : widthLeft platform c (.command host
      (.handOff workspaceId runId senderId senderVersion taskId selected)) = true) :
    WithinWidth (c.ran (atomic (handOff platform.toEnv host workspaceId runId senderId
      senderVersion taskId selected))).store := by
  rcases ran_or_same (c := c) (m := atomic (handOff platform.toEnv host workspaceId runId senderId
    senderVersion taskId selected)) (.atomic _) with same | ⟨answer, w', ran, same⟩
  · rw [same]
    exact held
  · rw [same]
    have passed := c.passes_of (handOff_checks (atomic_eq_ok.mp ran))
    obtain ⟨yielded, mid, run, yielding, ⟨sender, ended, over'⟩, left, stored, runtime, -,
      delegated, -⟩ := handOff_eq_ok (atomic_eq_ok.mp ran)
    have moving : Changes [.quiet, .left] c.store mid :=
      (Changes.quiet (by simp) yielding).trans (left.mono (by decide))
    have linked := moving.linkage linkage
    have within := moving.withinWidth linkage held (by decide) (by decide)
    obtain rfl := id_of_stored stored
    refine delegated.withinWidth linked within fun _ _ => ?_
    -- The count before the handoff, without the sender, bounds the count after its end.
    have fewer : mid.activeCount run.id ≤ c.store.activeWithout run.id senderId := by
      have delegations : mid.delegations = c.store.delegations := moving.delegations (by decide)
      have attempts : mid.attempts = c.store.attempts := moving.attempts (by decide)
      unfold OrchestrationStore.activeCount OrchestrationStore.activeWithout
        OrchestrationTables.delegationsOf
      rw [delegations]
      refine List.countP_mono_left fun d _ active => ?_
      have same : mid.attemptsOf d.id = c.store.attemptsOf d.id := by
        unfold OrchestrationTables.attemptsOf
        rw [attempts]
      refine Bool.and_eq_true_iff.mpr ⟨isActive_back linkage moving.kept.grown same active, ?_⟩
      rw [Bool.not_eq_true', ← Bool.not_eq_true]
      intro theirs
      obtain ⟨last, final, named⟩ := (Option.any_eq_true _ _).mp theirs
      have named : last.agentRunId = senderId := of_decide_eq_true named
      rcases isActive_iff.mp active with none | ⟨last', child, final', found, open'⟩
      · rw [same] at none
        rw [none] at final
        cases final
      · rw [same] at final'
        obtain rfl : last = last' := Option.some.inj (final.symm.trans final')
        rw [named, runtime] at found
        obtain rfl : sender = child := Option.some.inj (ended.symm.trans found)
        rw [over'] at open'
        cases open'
    obtain ⟨before, old, later⟩ := (moving.kept.run_from (Registry.mem_values_of_get? stored))
      |>.resolve_right fun absent => by
        rw [moving.absent (by decide) absent] at stored
        cases stored
    rw [later.policy]
    have roomy : c.below run.id (c.store.activeWithout run.id senderId) = true := by
      rcases Bool.or_eq_true_iff.mp guarded with refused | below
      · rw [passed] at refused
        cases refused
      · exact below
    rw [later.id] at roomy fewer ⊢
    exact Nat.lt_of_le_of_lt fewer
      (Company.below_of roomy (Registry.get?_of_mem_values old))

/-- A start counts for a delegation that was not active. -/
theorem withinWidth_start (platform : Platform) {c : Company} {label : Label}
    (linkage : Linkage c.store) (held : WithinWidth c.store) {runId : OrchestrationRunId}
    {delegationId : DelegationId} (asked : label.starts = some (runId, delegationId))
    (guarded : widthLeft platform c label = true) :
    WithinWidth (c.step platform label).store := by
  have room (passed : c.startPasses platform label = true) :
      ((c.store.delegations.get? delegationId).all fun d => c.store.isActive d) = true ∨
      c.below runId (c.store.activeCount runId) = true := by
    cases label with
    | command host command =>
        cases command with
        | startDelegation | execute =>
            cases asked
            rcases Bool.or_eq_true_iff.mp guarded with refused | below
            · rcases Bool.or_eq_true_iff.mp refused with refused | active
              · rw [passed] at refused
                cases refused
              · exact .inl active
            · exact .inr below
        | _ => cases asked
    | _ => cases asked
  rcases start_step platform c asked with same | ⟨passed, run, child, t, rfl, started, rest⟩
  · exact (Changes.quiet (K := [.quiet]) (by simp) same).withinWidth linkage held (by decide)
      (by decide)
  · obtain ⟨mid, before, next, d, a, moving, starting, -, link, -, -, filed⟩ := started.made
    have delegations : mid.delegations = c.store.delegations := moving.delegations (by decide)
    have attempts : mid.attempts = c.store.attempts := moving.attempts (by decide)
    have change : Change mid .started t := filed ▸ .started before next d a child starting
    have kept : Kept c.store t := moving.kept.trans change.kept
    have linked : Linkage t := change.linkage (moving.linkage linkage)
    have named : c.store.delegations.get? delegationId = some d := by
      rw [← delegations, ← link]
      exact starting.filed.delegation
    have own : d.orchestrationRunId = run.id := by
      obtain ⟨d', stored, own, -⟩ := started.ready
      rw [named] at stored
      rw [Option.some.inj stored]
      exact own
    -- Only the started delegation can have become active.
    have back (x : Delegation) (active : t.isActive x = true) (other : x.id ≠ delegationId) :
        c.store.isActive x = true := by
      refine isActive_back linkage kept.grown ?_ active
      unfold OrchestrationTables.attemptsOf
      rw [filed]
      show (mid.attempts ++ [a]).filter _ = _
      rw [attempts, List.filter_append, List.filter_cons_of_neg, List.filter_nil, List.append_nil]
      simp [link, Ne.symm other]
    have uniform (x : Delegation) (mem : x ∈ c.store.delegations.values)
        (same : x.id = delegationId) : x = d := by
      have stored : c.store.delegations.get? (Delegation.id x) = some x :=
        Registry.get?_of_mem_values mem
      rw [same, named] at stored
      exact (Option.some.inj stored).symm
    have values : t.delegations = c.store.delegations := by
      rw [filed]
      exact delegations
    have within : WithinWidth t := by
      refine .of_bound kept ?_ fun other mem => ?_
      · rw [values]
        intro x mem
        obtain ⟨owner, stored, -⟩ := linkage.housed x mem
        exact ⟨owner, stored⟩
      · have listed (x : Delegation) (mem : x ∈ c.store.delegationsOf other.id) :=
          mem_delegationsOf.mp mem
        have list : t.delegationsOf other.id = c.store.delegationsOf other.id := by
          unfold OrchestrationTables.delegationsOf
          rw [values]
        have mono (active : other.id = run.id → c.store.isActive d = true) :
            t.activeCount other.id ≤ c.store.activeCount other.id := by
          unfold OrchestrationStore.activeCount
          rw [list]
          refine List.countP_mono_left fun x mem now' => ?_
          by_cases same : x.id = delegationId
          · obtain rfl := uniform x (listed x mem).1 same
            exact active ((listed x mem).2.symm.trans own)
          · exact back x now' same
        by_cases same : other.id = run.id
        · rcases room passed with active | below
          · rw [named] at active
            exact Nat.le_trans (mono fun _ => active) (held other mem)
          · have here : c.store.runs.get? other.id = some other :=
              Registry.get?_of_mem_values mem
            rw [← same] at below
            have small := Company.below_of below here
            have nodup : (c.store.delegationsOf other.id).Nodup := by
              unfold OrchestrationTables.delegationsOf
              exact (List.Nodup.of_map _ c.store.delegations.nodup).filter _
            have up : t.activeCount other.id ≤ c.store.activeCount other.id + 1 := by
              unfold OrchestrationStore.activeCount
              rw [list]
              refine countP_le_succ nodup d fun x mem now' apart => ?_
              exact back x now' fun eq => apart (uniform x (listed x mem).1 eq)
            omega
        · exact Nat.le_trans (mono fun eq => (same eq).elim) (held other mem)
    exact (Changes.quiet (K := [.quiet]) (by simp) rest).withinWidth linked within (by decide)
      (by decide)

/-- A step with room in the width keeps every run within it. -/
theorem WithinWidth.step (platform : Platform) {c : Company} {label : Label} (sound : c.Sound)
    (linkage : Linkage c.store) (held : WithinWidth c.store)
    (guarded : widthLeft platform c label = true) :
    WithinWidth (c.step platform label).store := by
  cases asked : label.starts with
  | some named => exact withinWidth_start platform linkage held asked guarded
  | none =>
      have changes := step_changes platform sound label
      have started := started_not_mem c asked
      by_cases delegates : .delegated ∈ stepKinds c label
      · cases label with
        | command host command =>
            cases command with
            | delegate workspaceId runId taskId expected mode target =>
                exact withinWidth_delegate platform linkage held guarded
            | handOff workspaceId runId senderId senderVersion taskId selected =>
                exact withinWidth_handOff platform linkage held guarded
            | _ => simp [stepKinds, commandKinds] at delegates
        | advance id answer =>
            have kinds : .delegated ∈
                ((c.call? id).map fun call => pointKinds call.point).getD [] := delegates
            cases found : c.call? id with
            | none =>
                rw [found] at kinds
                cases kinds
            | some call =>
                rw [found] at kinds
                have kinds : .delegated ∈ pointKinds call.point := kinds
                cases at' : call.point <;> simp [at', pointKinds] at kinds
        | runtime label => simp [stepKinds] at delegates
        | drop id => simp [stepKinds] at delegates
      · exact changes.withinWidth linkage held delegates started

/-! ## Replaying an initial delegation -/

theorem countActive_of {w : World OrchestrationStore} {workspaceId : WorkspaceId}
    (linkage : Linkage w.store) {ds : List Delegation}
    (stored : ∀ d ∈ ds, d ∈ w.store.delegations.values ∧ d.workspaceId = workspaceId) :
    countActive workspaceId ds w = .ok (ds.countP w.store.isActive) w := by
  induction ds with
  | nil => rfl
  | cons d rest ih =>
      obtain ⟨mem, rfl⟩ := stored d List.mem_cons_self
      have found : w.store.delegations.get? d.id = some d := Registry.get?_of_mem_values mem
      have active : delegationActive d.workspaceId d w = .ok (w.store.isActive d) w := by
        unfold delegationActive OrchestrationStore.isActive
        rw [bind_of_ok (getAttempts_of found)]
        cases final : (w.store.attemptsOf d.id).getLast? with
        | none => rfl
        | some last =>
            have listed := List.mem_filter.mp (List.mem_of_getLast? final)
            obtain ⟨d', child, stored', run, workspace, -⟩ := linkage.linked last listed.1
            rw [show last.delegationId = d.id from of_decide_eq_true listed.2, found] at stored'
            obtain rfl := Option.some.inj stored'
            have read := childOf_of run
            rw [workspace] at read
            show (inRuntime (getRun d.workspaceId last.agentRunId) >>= _) w = _
            rw [bind_of_ok read]
            simp only [run, Bool.decide_or]
            rfl
      unfold countActive
      rw [bind_of_ok active,
        bind_of_ok (ih fun other here => stored other (List.mem_cons_of_mem _ here)),
        List.countP_cons]
      cases w.store.isActive d <;> rfl

/-- The current plan and its materialization are read. -/
theorem getCurrent_of {w : World OrchestrationStore} {run : OrchestrationRun} {plan : PlanVersion}
    {m : PlanMaterialization} (current : Current w.store run plan m)
    (scope : plan.workspaceId = run.workspaceId) :
    getCurrent run w = .ok (plan, m) w := by
  have read := getPlan_of (w := w) current.stored
  have found := getMaterialization_of (w := w) current.stored current.materialized
  rw [scope] at read found
  unfold getCurrent
  rw [current.planId, current.version]
  dsimp only
  rw [bind_of_ok read, bind_of_ok found]
  rfl

/-- A task of the current plan is found by its canonical task. -/
theorem plannedFor_of {w : World OrchestrationStore} (materials : Materials w.store)
    {run : OrchestrationRun} {plan : PlanVersion} {m : PlanMaterialization}
    (current : Current w.store run plan m) {taskId : TaskId} {plannedId : PyStr}
    (named : m.taskOf plannedId = some taskId) :
    ∃ planned, plannedFor plan m taskId w = .ok planned w := by
  obtain ⟨item, mem, -, task⟩ := taskOf_eq_some named
  cases found : m.tasks.find? (·.taskId = taskId) with
  | none =>
      have none := List.find?_eq_none.mp found item mem
      exact (none (decide_eq_true task)).elim
  | some lineage =>
      obtain ⟨plan', stored, -, tasks⟩ :=
        materials.covers m (Registry.mem_values_of_get? current.materialized)
      have key : PlanMaterialization.key m = plan.key := Registry.key_of_get? current.materialized
      rw [key, current.stored] at stored
      obtain rfl := Option.some.inj stored
      have listed : lineage.plannedTaskId ∈ plan.taskIds := by
        rw [← tasks]
        exact List.mem_map_of_mem (List.mem_of_find?_eq_some found)
      obtain ⟨planned, here, id⟩ := List.mem_map.mp listed
      cases reading : plan.proposal.tasks.find? (fun task => task.id = lineage.plannedTaskId) with
      | none =>
          have none := List.find?_eq_none.mp reading planned here
          exact (none (decide_eq_true id)).elim
      | some answer =>
          refine ⟨answer, ?_⟩
          unfold plannedFor
          rw [bind_of_ok (need_of_some found w)]
          exact need_of_some reading w

/-- A read that answers leaves the world as it was. -/
theorem ok_of_answer {α : Type} {w : World OrchestrationStore} {m : OrchestrationTxn α}
    (reads : Reads m) {a : α} (answered : World.answer (m w) = .ok a) : m w = .ok a w := by
  have unchanged := reads w
  cases ran : m w with
  | ok b w' =>
      rw [ran] at answered unchanged
      cases answered
      change w' = w at unchanged
      rw [unchanged]
  | error e w' =>
      rw [ran] at answered
      cases answered

/-- A call of `delegate` that answers is one for the current version and a ready task. -/
theorem delegate_admits {w w' : World OrchestrationStore} {env : Env} {host : OrchestrationHost}
    {run : OrchestrationRun} (stored : w.store.runs.get? run.id = some run) {taskId : TaskId}
    {expected : Version} {mode : DelegationMode} {target : Option AgentDefinitionVersion}
    {answer : Option Delegation}
    (h : delegate env host run.workspaceId run.id taskId expected mode target w =
      .ok answer w') :
    expected = run.version ∧ ∃ ready, World.answer (readyTasks run.workspaceId run.id w) =
      .ok ready ∧ taskId ∈ ready.map Task.id := by
  obtain ⟨run', stored', -, h⟩ := getOrchestrationRun_then (atomic_eq_ok.mp h)
  obtain rfl := Option.some.inj (stored.symm.trans stored')
  obtain ⟨current, h⟩ := raiseIf_then h
  obtain ⟨ready, reading, h⟩ := (reads_readyTasks _ _).then h
  obtain ⟨listed, -⟩ := raiseIf_then h
  refine ⟨(not_not.mp current).symm, ready, ?_, not_not.mp listed⟩
  rw [reading]
  rfl

/-- A ready task with an unstarted delegation: the replayed call answers with it, unless the
iterations or the width are used up. -/
theorem replay_initial {w : World OrchestrationStore} {env : Env} {host : OrchestrationHost}
    (ledger : Ledger w.store) (linkage : Linkage w.store) (materials : Materials w.store)
    {run : OrchestrationRun} (mem : run ∈ w.store.runs.values) {taskId : TaskId}
    {target : Option AgentDefinitionVersion} {ready : List Task}
    (answered : World.answer (readyTasks run.workspaceId run.id w) = .ok ready)
    (listed : taskId ∈ ready.map Task.id) {last : Delegation}
    (final : (w.store.delegationsFor run.id taskId).getLast? = some last)
    (unstarted : w.store.attemptsOf last.id = []) :
    World.answer (delegate env host run.workspaceId run.id taskId run.version .initial target w) =
      if run.policy.maxIterations ≤ run.agentRunCount + run.replanCount then
        .error (violation "orchestration_iteration_limit")
      else if run.policy.maxParallelWidth ≤ w.store.activeCount run.id then
        .error (violation "orchestration_parallel_width")
      else .ok (some last) := by
  have stored : w.store.runs.get? run.id = some run := Registry.get?_of_mem_values mem
  have reading := ok_of_answer (reads_readyTasks run.workspaceId run.id) answered
  obtain ⟨task, inside, rfl⟩ := List.mem_map.mp listed
  obtain ⟨plan, m, current, planned, -, taskOf, -⟩ :=
    (readyTasks_eq_ok stored reading task inside).planned
  obtain ⟨owner, found, -, scope⟩ :=
    ledger.owned plan (Registry.mem_values_of_get? current.stored)
  rw [current.own ledger mem, stored] at found
  obtain rfl := Option.some.inj found
  obtain ⟨asked, finding⟩ := plannedFor_of materials current taskOf.1
  have workspace (d : Delegation) (here : d ∈ w.store.delegationsOf run.id) :
      d ∈ w.store.delegations.values ∧ d.workspaceId = run.workspaceId := by
    obtain ⟨filed, own⟩ := mem_delegationsOf.mp here
    obtain ⟨other, present, same⟩ := linkage.housed d filed
    rw [own, stored] at present
    obtain rfl := Option.some.inj present
    exact ⟨filed, same.symm⟩
  have counting := countActive_of linkage workspace
  have inside' : last ∈ w.store.delegationsOf run.id :=
    (List.mem_filter.mp (List.mem_of_getLast? final)).1
  have attempts : getAttempts run.workspaceId last.id w = .ok [] w := by
    obtain ⟨filed, same⟩ := workspace last inside'
    have read := getAttempts_of (w := w) (d := last) (Registry.get?_of_mem_values filed)
    rw [same, unstarted] at read
    exact read
  unfold delegate atomic
  rw [bind_of_ok (getOrchestrationRun_of stored),
    bind_of_ok (show expectOrchestration run run.version w = .ok () w from
      raiseIf_of_not (not_not.mpr rfl) w),
    bind_of_ok reading, bind_of_ok (raiseIf_of_not (not_not.mpr listed) w)]
  by_cases exhausted : run.policy.maxIterations ≤ run.agentRunCount + run.replanCount
  · rw [if_pos exhausted, bind_of_error (raiseIf_of exhausted w)]
    rfl
  · rw [if_neg exhausted, bind_of_ok (raiseIf_of_not exhausted w),
      bind_of_ok (getCurrent_of current scope.symm)]
    dsimp only
    rw [bind_of_ok finding, bind_of_ok (getDelegations_of stored), bind_of_ok counting]
    by_cases full : run.policy.maxParallelWidth ≤ w.store.activeCount run.id
    · rw [if_pos full, bind_of_error (raiseIf_of ⟨rfl, full⟩ w)]
      rfl
    · rw [if_neg full, bind_of_ok (raiseIf_of_not (fun both => full both.2) w)]
      have last' : ((w.store.delegationsOf run.id).filter (·.taskId = task.id)).getLast? =
        some last := final
      rw [last']
      dsimp only
      unfold replayInitial
      rw [bind_of_ok attempts, bind_of_ok (raiseIf_of_not (not_not.mpr rfl) w)]
      rfl

/-- When the initial delegation of a task is unstarted, replaying the call that made it answers
with it exactly when the call names the current version, the task is ready, an iteration is left
and the width is not used up. -/
theorem replay_iff {w : World OrchestrationStore} {env : Env} {host : OrchestrationHost}
    (ledger : Ledger w.store) (linkage : Linkage w.store) (materials : Materials w.store)
    {run : OrchestrationRun} (mem : run ∈ w.store.runs.values) {taskId : TaskId}
    {expected : Version} {target : Option AgentDefinitionVersion} {last : Delegation}
    (final : (w.store.delegationsFor run.id taskId).getLast? = some last)
    (unstarted : w.store.attemptsOf last.id = []) :
    World.answer (delegate env host run.workspaceId run.id taskId expected .initial target w) =
        .ok (some last) ↔
      expected = run.version ∧
      (∃ ready, World.answer (readyTasks run.workspaceId run.id w) = .ok ready ∧
        taskId ∈ ready.map Task.id) ∧
      run.agentRunCount + run.replanCount < run.policy.maxIterations ∧
      w.store.activeCount run.id < run.policy.maxParallelWidth := by
  have stored : w.store.runs.get? run.id = some run := Registry.get?_of_mem_values mem
  constructor
  · intro replied
    obtain ⟨w', ran⟩ : ∃ w', delegate env host run.workspaceId run.id taskId expected .initial
        target w = .ok (some last) w' := by
      cases ran : delegate env host run.workspaceId run.id taskId expected .initial target w with
      | ok answer w' =>
          rw [ran] at replied
          cases replied
          exact ⟨w', rfl⟩
      | error e w' =>
          rw [ran] at replied
          cases replied
    obtain ⟨rfl, ready, answered, listed⟩ := delegate_admits stored ran
    refine ⟨rfl, ⟨ready, answered, listed⟩, ?_⟩
    rw [replay_initial ledger linkage materials mem answered listed final unstarted] at replied
    split at replied
    · cases replied
    · next left =>
        split at replied
        · cases replied
        · next room => exact ⟨Nat.lt_of_not_le left, Nat.lt_of_not_le room⟩
  · rintro ⟨rfl, ⟨ready, answered, listed⟩, left, room⟩
    rw [replay_initial ledger linkage materials mem answered listed final unstarted,
      if_neg (Nat.not_le_of_lt left)]
    exact if_neg (Nat.not_le_of_lt room)

/-- While every retry, redelegation, handoff and second start that passes the checks of the code
finds room, no run has more active delegations than its width. When the last delegation of a task
is unstarted, to replay the initial delegation answers with it exactly when the call names the
current version, the task is ready, an iteration is left and the width is not used up. -/
theorem parallel_width (platform : Platform) (labels : List Label) :
    (Company.meets platform (widthLeft platform) .empty labels = true →
      ∀ run ∈ (Company.after platform labels).store.runs.values,
        (Company.after platform labels).store.activeCount run.id ≤
          run.policy.maxParallelWidth) ∧
    ∀ host target taskId expected last,
      ∀ run ∈ (Company.after platform labels).store.runs.values,
      ((Company.after platform labels).store.delegationsFor run.id taskId).getLast? = some last →
      (Company.after platform labels).store.attemptsOf last.id = [] →
      ((Company.after platform labels).reply (delegate platform.toEnv host run.workspaceId run.id
          taskId expected .initial target) = .ok (some last) ↔
        expected = run.version ∧
        (∃ ready, (Company.after platform labels).reply
            (readyTasks run.workspaceId run.id) = .ok ready ∧ taskId ∈ ready.map Task.id) ∧
        run.agentRunCount + run.replanCount < run.policy.maxIterations ∧
        (Company.after platform labels).store.activeCount run.id <
          run.policy.maxParallelWidth) := by
  constructor
  · intro met
    have kept := Company.meets_keeps platform
      (P := fun c => Linkage c.store ∧ WithinWidth c.store)
      ⟨.empty _, fun _ mem => (List.not_mem_nil mem).elim⟩
      (fun c label sound held guarded => ⟨(step_changes platform sound label).linkage held.1,
        held.2.step platform sound held.1 guarded⟩) met
    exact kept.2
  · intro host target taskId expected last run mem final unstarted
    exact @replay_iff (Company.after platform labels).world platform.toEnv host
      (after_sound platform labels).ledger (after_linkage platform labels)
      (after_materials platform labels) run mem taskId expected target last final unstarted

/-! ### A full width -/

section Sample

/-- A policy of width one. -/
def narrowPolicy : OrchestrationPolicy :=
  { OrchestrationPolicy.default with maxParallelWidth := 1, bounded := by decide }

/-- One task has failed, the other is delegated, and the first is tried again. -/
def widenedRun : List Label :=
  plannedRun narrowPolicy ++ delegating 11 2 .initial :: starting 20 11 2 :: failing 0 30 ++
    [delegating 13 3 .initial, delegating 11 3 .retry]

/-- The first task is delegated and not started. -/
def fullRun : List Label := plannedRun narrowPolicy ++ [delegating 11 2 .initial]

/-- Two delegations are active where the width is one, and the call that made an unstarted
delegation of a ready task is refused when it is replayed. -/
theorem width_exceeded :
    (∃ run ∈ (Company.after numberedPlatform widenedRun).store.runs.values,
      run.policy.maxParallelWidth = 1 ∧
      (Company.after numberedPlatform widenedRun).store.activeCount run.id = 2) ∧
    (((Company.after numberedPlatform fullRun).store.delegationsFor sampleOrchestration
        (numbered .task 11)).getLast?.any fun last =>
      (Company.after numberedPlatform fullRun).store.attemptsOf last.id = []) = true ∧
    ((Company.after numberedPlatform fullRun).reply (readyTasks sampleWorkspace
      sampleOrchestration)).toOption.any (fun ready => numbered .task 11 ∈ ready.map Task.id) =
        true ∧
    (Company.after numberedPlatform fullRun).reply (delegate numberedPlatform.toEnv soloHost
      sampleWorkspace sampleOrchestration (numbered .task 11) (changed 2) .initial none) =
        .error (violation "orchestration_parallel_width") := by
  decide +kernel

/-- A run that keeps its width: the failed task is tried again while nothing is active. -/
def narrowRun : List Label :=
  plannedRun narrowPolicy ++ delegating 11 2 .initial :: starting 20 11 2 :: failing 0 30 ++
    [delegating 11 3 .retry]

/-- The first task is delegated and not started, and the width is not used up. -/
def roomyRun : List Label := plannedRun .default ++ [delegating 11 2 .initial]

/-- The narrow run keeps its width, and in the roomy one the first call can be made again. -/
theorem narrow_in_width :
    ((Company.after numberedPlatform narrowRun).store.runs.values ≠ [] ∧
      ∀ run ∈ (Company.after numberedPlatform narrowRun).store.runs.values,
        (Company.after numberedPlatform narrowRun).store.activeCount run.id ≤
          run.policy.maxParallelWidth) ∧
    ∃ last, ((Company.after numberedPlatform roomyRun).store.delegationsFor sampleOrchestration
        (numbered .task 11)).getLast? = some last ∧
      (Company.after numberedPlatform roomyRun).reply (delegate numberedPlatform.toEnv soloHost
        sampleWorkspace sampleOrchestration (numbered .task 11) (changed 2) .initial none) =
          .ok (some last) := by
  refine ⟨⟨by decide +kernel,
    (parallel_width numberedPlatform narrowRun).1 (by decide +kernel)⟩, ?_⟩
  have unstarted : (((Company.after numberedPlatform roomyRun).store.delegationsFor
      sampleOrchestration (numbered .task 11)).getLast?.any fun last =>
        (Company.after numberedPlatform roomyRun).store.attemptsOf last.id = []) = true := by
    decide +kernel
  have roomy : ((Company.after numberedPlatform roomyRun).store.runs.get?
      sampleOrchestration).any (fun run => run.id = sampleOrchestration ∧
        run.workspaceId = sampleWorkspace ∧ run.version = changed 2 ∧
        run.agentRunCount + run.replanCount < run.policy.maxIterations ∧
        (Company.after numberedPlatform roomyRun).store.activeCount sampleOrchestration <
          run.policy.maxParallelWidth) = true := by
    decide +kernel
  have ready : ((Company.after numberedPlatform roomyRun).reply (readyTasks sampleWorkspace
      sampleOrchestration)).toOption.any (fun ready => numbered .task 11 ∈ ready.map Task.id) =
        true := by
    decide +kernel
  obtain ⟨last, final, unstarted⟩ := (Option.any_eq_true _ _).mp unstarted
  obtain ⟨run, stored, facts⟩ := (Option.any_eq_true _ _).mp roomy
  obtain ⟨id, workspace, version, left, room⟩ := of_decide_eq_true facts
  have answers : ∃ tasks, (Company.after numberedPlatform roomyRun).reply (readyTasks
      sampleWorkspace sampleOrchestration) = .ok tasks ∧
        numbered .task 11 ∈ tasks.map Task.id := by
    cases answered : (Company.after numberedPlatform roomyRun).reply (readyTasks sampleWorkspace
      sampleOrchestration) with
    | error e =>
        rw [answered] at ready
        cases ready
    | ok tasks =>
        rw [answered] at ready
        exact ⟨tasks, rfl, of_decide_eq_true ready⟩
  have replay := (parallel_width numberedPlatform roomyRun).2 soloHost none (numbered .task 11)
    (changed 2) last run (Registry.mem_values_of_get? stored)
  rw [id, workspace, version] at replay
  exact ⟨last, final, (replay final (of_decide_eq_true unstarted)).mpr
    ⟨rfl, answers, left, room⟩⟩

end Sample

end AgentCompanyOS.Orchestration
