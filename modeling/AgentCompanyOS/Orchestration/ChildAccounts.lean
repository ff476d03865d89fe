import AgentCompanyOS.Orchestration.Footprint
import AgentCompanyOS.Orchestration.Validation
import AgentCompanyOS.Orchestration.Width

/-!
# The accounts of a run's children

A run counts the agent runs that are started for its delegations when it starts them, and
their failures when they are reconciled. The first counter moves with the attempts. The
second is repaired from the stored agent runs, at any later time and as often as a caller
asks for it; it never gets ahead of them, and a version of a child changes it once at most.
-/

set_option autoImplicit false

namespace AgentCompanyOS.Orchestration

open Foundation Foundation.Txn Domain AgentCompanyOS.Runtime

variable {s s' : OrchestrationStore} {kind : ChangeKind} {K : List ChangeKind}

/-! ## The attempts of a run -/

/-- The attempts of the delegations of a run. -/
def OrchestrationStore.attemptsIn (s : OrchestrationStore) (runId : OrchestrationRunId) :
    List DelegationAttempt :=
  s.attempts.filter fun a => (s.delegations.get? a.delegationId).any (·.orchestrationRunId = runId)

/-- The counter of a run is the number of its attempts. -/
def Counted (s : OrchestrationStore) : Prop :=
  ∀ run ∈ s.runs.values, run.agentRunCount = (s.attemptsIn run.id).length

/-- An attempt links an agent run of the delegation's task and exact agent. -/
def Exact (s : OrchestrationStore) (a : DelegationAttempt) : Prop :=
  ∃ d child, s.delegations.get? a.delegationId = some d ∧
    s.runtime.runs.get? a.agentRunId = some child ∧ child.taskId = d.taskId ∧
    child.taskAttemptId = a.taskAttemptId ∧ child.executionId = a.executionId ∧
    child.definitionVersion.definition.id = d.agentDefinitionId ∧
    child.definitionVersion.version = d.agentDefinitionVersion

theorem Exact.kept {a : DelegationAttempt} (h : Exact s a) (kept : Kept s s') : Exact s' a := by
  obtain ⟨d, child, stored, found, task, attempt, execution, definition, version⟩ := h
  obtain ⟨d', stored', rfl⟩ := kept.delegations.later stored
  obtain ⟨later, found', follows⟩ := kept.grown.run found
  have origin := follows.origin
  simp only [AgentRun.origin, Prod.mk.injEq] at origin
  obtain ⟨-, -, sameExecution, sameAttempt, sameTask, -, sameDefinition, -⟩ := origin
  refine ⟨d, later, stored', found', sameTask.trans task, sameAttempt.trans attempt,
    sameExecution.trans execution, ?_, ?_⟩
  · rw [sameDefinition, definition]
  · rw [sameDefinition, version]

/-- Every attempt links the agent run of its delegation. -/
def AllExact (s : OrchestrationStore) : Prop := ∀ a ∈ s.attempts, Exact s a

theorem Change.allExact (h : Change s kind s') (held : AllExact s) : AllExact s' := by
  have kept := h.kept
  by_cases starts : kind = .started
  · cases h with
    | started run next d a child starting =>
        have filed := starting.filed
        intro other mem
        rcases List.mem_append.mp mem with old | new
        · exact (held other old).kept kept
        · rw [List.mem_singleton.mp new]
          exact ⟨d, child, filed.delegation, filed.stored, filed.task, filed.attempt,
            filed.execution, filed.definition.1, filed.definition.2⟩
    | _ => cases starts
  · intro a mem
    rw [h.attempts starts] at mem
    exact (held a mem).kept kept

theorem after_allExact (platform : Platform) (labels : List Label) :
    AllExact (Company.after platform labels).store :=
  after_keeps platform (fun change _ held => change.allExact held)
    (fun _ mem => (List.not_mem_nil mem).elim) labels

/-- An attempt stays with the run of its delegation. -/
theorem attemptsIn_kept (linkage : Linkage s) (kept : Kept s s')
    (attempts : s'.attempts = s.attempts) (runId : OrchestrationRunId) :
    s'.attemptsIn runId = s.attemptsIn runId := by
  unfold OrchestrationStore.attemptsIn
  rw [attempts]
  refine List.filter_congr fun a mem => ?_
  obtain ⟨d, child, stored, -⟩ := linkage.linked a mem
  obtain ⟨d', stored', rfl⟩ := kept.delegations.later stored
  rw [stored, stored']

theorem Change.counted (h : Change s kind s') (ledger : Ledger s) (linkage : Linkage s)
    (held : Counted s) : Counted s' := by
  have kept := h.kept
  -- A change of one run that leaves its counter and the attempts alone.
  have same (attempts : s'.attempts = s.attempts)
      (runs : ∀ next ∈ s'.runs.values, (∃ run ∈ s.runs.values, run.id = next.id ∧
        next.agentRunCount = run.agentRunCount) ∨
        (s.runs.get? next.id = none ∧ next.agentRunCount = 0)) : Counted s' := by
    intro next mem
    rw [attemptsIn_kept linkage kept attempts]
    rcases runs next mem with ⟨run, here, id, count⟩ | ⟨absent, unused⟩
    · rw [count, ← id]
      exact held run here
    · rw [unused]
      symm
      rw [List.length_eq_zero_iff]
      refine List.filter_eq_nil_iff.mpr fun a listed named => ?_
      obtain ⟨d, stored, own⟩ := (Option.any_eq_true _ _).mp named
      obtain ⟨run, found, -⟩ := ledger.delegated d (Registry.mem_values_of_get? stored)
      rw [of_decide_eq_true own, absent] at found
      cases found
  have put {run next : OrchestrationRun} (stored : s.runs.get? run.id = some run)
      (id : next.id = run.id) (count : next.agentRunCount = run.agentRunCount) :
      ∀ other ∈ (s.runs.put next).values, (∃ run ∈ s.runs.values, run.id = other.id ∧
        other.agentRunCount = run.agentRunCount) ∨
        (s.runs.get? other.id = none ∧ other.agentRunCount = 0) := by
    intro other mem
    rcases Registry.mem_values_put.mp mem with rfl | ⟨old, -⟩
    · exact .inl ⟨run, Registry.mem_values_of_get? stored, id.symm, count⟩
    · exact .inl ⟨other, old, rfl, rfl⟩
  have unchanged (runs : s'.runs = s.runs) : ∀ next ∈ s'.runs.values,
      (∃ run ∈ s.runs.values, run.id = next.id ∧ next.agentRunCount = run.agentRunCount) ∨
        (s.runs.get? next.id = none ∧ next.agentRunCount = 0) := by
    intro next mem
    rw [runs] at mem
    exact .inl ⟨next, mem, rfl, rfl⟩
  cases h with
  | quiet between => exact same between.attempts (unchanged between.runs)
  | opened run absent planning unplanned unused =>
      refine same rfl fun next mem => ?_
      rcases Registry.mem_values_put.mp mem with rfl | ⟨old, -⟩
      · exact .inr ⟨absent, unused.2⟩
      · exact .inl ⟨next, old, rfl, rfl⟩
  | moved run next at' change stored evolved plain =>
      exact same rfl (put stored evolved.id_eq (evolved.plain plain).2.2.2)
  | left run next at' change stored evolved plain =>
      exact same rfl (put stored evolved.id_eq (evolved.plain plain).2.2.2)
  | completed run next at' stored evolved =>
      exact same rfl (put stored evolved.id_eq (evolved.plain ⟨rfl, rfl, rfl, rfl⟩).2.2.2)
  | accepted run next plan replan accepting =>
      obtain ⟨at', evolved⟩ := accepting.evolved
      exact same rfl (put accepting.stored evolved.id_eq evolved.agentRunCount_eq)
  | materialized run plan m stored current own tasks between =>
      exact same between.attempts (unchanged between.runs)
  | delegated run mode d delegating => exact same rfl (unchanged rfl)
  | started run next d a child starting =>
      obtain ⟨at', evolved⟩ := starting.evolved
      -- The new attempt counts for the run of its delegation only.
      have counts (runId : OrchestrationRunId) :
          OrchestrationStore.attemptsIn { s with attempts := s.attempts ++ [a]
                                                 runs := s.runs.put next } runId =
            s.attemptsIn runId ++ if run.id = runId then [a] else [] := by
        unfold OrchestrationStore.attemptsIn
        show (s.attempts ++ [a]).filter _ = _
        rw [List.filter_append]
        congr 1
        by_cases own : run.id = runId
        · simp [starting.filed.delegation, starting.own, own]
        · simp [starting.filed.delegation, starting.own, own]
      intro other mem
      rw [counts, List.length_append]
      rcases Registry.mem_values_put.mp mem with rfl | ⟨old, apart⟩
      · rw [if_pos evolved.id_eq.symm, evolved.agentRunCount_eq, evolved.id_eq,
          held run (Registry.mem_values_of_get? starting.stored)]
        rfl
      · have different : run.id ≠ other.id := by
          rw [← evolved.id_eq]
          exact Ne.symm apart
        rw [if_neg different, held other old]
        rfl

theorem after_counted (platform : Platform) (labels : List Label) :
    Linkage (Company.after platform labels).store ∧
      Counted (Company.after platform labels).store :=
  after_keeps platform (P := fun s => Linkage s ∧ Counted s)
    (fun change ledger held => ⟨change.linkage held.1, change.counted ledger held.1 held.2⟩)
    ⟨Linkage.empty _, fun _ mem => (List.not_mem_nil mem).elim⟩ labels

/-! ## Failed children -/

theorem hasFailed_iff {id : AgentRunId} :
    s.hasFailed id = true ↔ ∃ child, s.runtime.runs.get? id = some child ∧
      child.status = .failed := by
  unfold OrchestrationStore.hasFailed
  rw [Option.any_eq_true]
  simp only [decide_eq_true_eq]

theorem hasFailed_kept (kept : Kept s s') {id : AgentRunId} (h : s.hasFailed id = true) :
    s'.hasFailed id = true := by
  obtain ⟨child, stored, failed⟩ := hasFailed_iff.mp h
  exact hasFailed_iff.mpr ⟨child, kept.grown.ended_run stored (by rw [failed]; rfl), failed⟩

theorem children_kept (kept : Kept s s') {runId : OrchestrationRunId} {id : AgentRunId}
    (h : id ∈ s.children runId) : id ∈ s'.children runId := by
  obtain ⟨d, own, a, attempt, named⟩ := mem_children.mp h
  obtain ⟨mem, run⟩ := mem_delegationsOf.mp own
  refine mem_children.mpr ⟨d, mem_delegationsOf.mpr ⟨kept.delegation mem, run⟩, a, ?_, named⟩
  exact (kept.attempts.sublist.filter _).subset attempt

/-- The failed children of a run that satisfy a condition. -/
def OrchestrationStore.failedIn (s : OrchestrationStore) (runId : OrchestrationRunId)
    (p : AgentRunId → Bool) : List AgentRunId :=
  (s.children runId).dedup.filter fun id => s.hasFailed id && p id

theorem mem_failedIn {runId : OrchestrationRunId} {p : AgentRunId → Bool} {id : AgentRunId} :
    id ∈ s.failedIn runId p ↔ id ∈ s.children runId ∧ s.hasFailed id = true ∧ p id = true := by
  unfold OrchestrationStore.failedIn
  rw [List.mem_filter, List.mem_dedup, Bool.and_eq_true]

theorem failedIn_nodup (runId : OrchestrationRunId) (p : AgentRunId → Bool) :
    (s.failedIn runId p).Nodup := (List.nodup_dedup _).filter _

theorem failedCount_eq (runId : OrchestrationRunId) :
    s.failedCount runId = (s.failedIn runId fun _ => true).length := by
  unfold OrchestrationStore.failedCount OrchestrationStore.failedIn
  simp only [Bool.and_true, List.countP_eq_length_filter]

/-- Failed children of one store that are failed children in another are no more than these. -/
theorem failedIn_le {runId : OrchestrationRunId} {p : AgentRunId → Bool}
    (h : ∀ id ∈ s.failedIn runId p, id ∈ s'.children runId ∧ s'.hasFailed id = true) :
    (s.failedIn runId p).length ≤ s'.failedCount runId := by
  rw [failedCount_eq]
  refine (List.subperm_of_subset (failedIn_nodup runId p) fun id mem => ?_).length_le
  obtain ⟨child, failed⟩ := h id mem
  exact mem_failedIn.mpr ⟨child, failed, rfl⟩

theorem failedCount_kept (kept : Kept s s') (runId : OrchestrationRunId) :
    s.failedCount runId ≤ s'.failedCount runId := by
  rw [failedCount_eq]
  refine failedIn_le fun id mem => ?_
  obtain ⟨child, failed, -⟩ := mem_failedIn.mp mem
  exact ⟨children_kept kept child, hasFailed_kept kept failed⟩

/-- Where the failure counter of a run comes from. -/
theorem Change.failures_from (h : Change s kind s') {next : OrchestrationRun}
    (mem : next ∈ s'.runs.values) :
    (∃ run ∈ s.runs.values, run.id = next.id ∧
      (next.failedAttemptCount = run.failedAttemptCount ∨ kind = .moved ∧
        next.failedAttemptCount = max run.failedAttemptCount (s.failedCount run.id))) ∨
      (s.runs.get? next.id = none ∧ next.failedAttemptCount = 0) := by
  have kept {other : OrchestrationRun} (old : other ∈ s.runs.values) :
      ∃ run ∈ s.runs.values, run.id = other.id ∧
        (other.failedAttemptCount = run.failedAttemptCount ∨ kind = .moved ∧
          other.failedAttemptCount = max run.failedAttemptCount (s.failedCount run.id)) :=
    ⟨other, old, rfl, .inl rfl⟩
  have put {run later : OrchestrationRun} {at' : Instant} {change : OrchestrationChange}
      (stored : s.runs.get? run.id = some run)
      (evolved : OrchestrationRun.Evolved run later at' change) (uncounted : change.failedDelta = 0)
      (mem : next ∈ (s.runs.put later).values) :
      ∃ run ∈ s.runs.values, run.id = next.id ∧
        (next.failedAttemptCount = run.failedAttemptCount ∨ kind = .moved ∧
          next.failedAttemptCount = max run.failedAttemptCount (s.failedCount run.id)) := by
    rcases Registry.mem_values_put.mp mem with rfl | ⟨old, -⟩
    · refine ⟨run, Registry.mem_values_of_get? stored, evolved.id_eq.symm, .inl ?_⟩
      rw [evolved.failedAttemptCount_eq, uncounted, Nat.add_zero]
    · exact kept old
  cases h with
  | quiet between =>
      rw [between.runs] at mem
      exact .inl (kept mem)
  | opened run absent planning unplanned unused unfailed =>
      rcases Registry.mem_values_put.mp mem with rfl | ⟨old, -⟩
      · exact .inr ⟨absent, unfailed⟩
      · exact .inl (kept old)
  | moved run later at' change stored evolved plain cause counted =>
      rcases counted with uncounted | settled
      · exact .inl (put stored evolved uncounted mem)
      · rcases Registry.mem_values_put.mp mem with rfl | ⟨old, -⟩
        · exact .inl ⟨run, Registry.mem_values_of_get? stored, evolved.id_eq.symm,
            .inr ⟨rfl, settled⟩⟩
        · exact .inl (kept old)
  | left run later at' change stored evolved plain open' status uncounted =>
      exact .inl (put stored evolved uncounted mem)
  | completed run later at' stored evolved => exact .inl (put stored evolved rfl mem)
  | accepted run later plan replan accepting =>
      obtain ⟨at', evolved⟩ := accepting.evolved
      exact .inl (put accepting.stored evolved rfl mem)
  | materialized run plan m stored current own tasks between =>
      replace mem : next ∈ s.runs.values := by
        rw [← between.runs]
        exact mem
      exact .inl (kept mem)
  | delegated => exact .inl (kept mem)
  | started run later d a child starting =>
      obtain ⟨at', evolved⟩ := starting.evolved
      exact .inl (put starting.stored evolved rfl mem)

/-- The failure counter of a run is at most the number of its failed children. -/
def FailuresBounded (s : OrchestrationStore) : Prop :=
  ∀ run ∈ s.runs.values, run.failedAttemptCount ≤ s.failedCount run.id

theorem Change.failuresBounded (h : Change s kind s') (held : FailuresBounded s) :
    FailuresBounded s' := by
  intro next mem
  rcases h.failures_from mem with ⟨run, here, id, same | ⟨-, settled⟩⟩ | ⟨-, unfailed⟩
  · rw [same, ← id]
    exact Nat.le_trans (held run here) (failedCount_kept h.kept run.id)
  · rw [settled, ← id]
    exact Nat.le_trans (Nat.max_le.mpr ⟨held run here, Nat.le_refl _⟩)
      (failedCount_kept h.kept run.id)
  · rw [unfailed]
    exact Nat.zero_le _

theorem after_failuresBounded (platform : Platform) (labels : List Label) :
    FailuresBounded (Company.after platform labels).store :=
  after_keeps platform (fun change _ held => change.failuresBounded held)
    (fun _ mem => (List.not_mem_nil mem).elim) labels

/-- The later record of a run, by a change. -/
theorem Change.run_later (h : Change s kind s') {run : OrchestrationRun}
    (stored : s.runs.get? run.id = some run) :
    ∃ next, s'.runs.get? run.id = some next ∧
      (next.failedAttemptCount = run.failedAttemptCount ∨ kind = .moved ∧
        next.failedAttemptCount = max run.failedAttemptCount (s.failedCount run.id)) := by
  obtain ⟨next, found, later⟩ := h.kept.runs.later stored
  refine ⟨next, found, ?_⟩
  rcases h.failures_from (Registry.mem_values_of_get? found) with
    ⟨old, here, id, from'⟩ | ⟨absent, -⟩
  · have same : s.runs.get? old.id = some old := Registry.get?_of_mem_values here
    rw [id, later.id, stored] at same
    obtain rfl := Option.some.inj same
    exact from'
  · rw [later.id, stored] at absent
    cases absent

/-- No change lowers a failure counter. -/
theorem Changes.failures_later (h : Changes K s s') {run : OrchestrationRun}
    (stored : s.runs.get? run.id = some run) :
    ∃ next, s'.runs.get? run.id = some next ∧
      run.failedAttemptCount ≤ next.failedAttemptCount := by
  refine h.keeps (P := fun t => ∃ next, t.runs.get? run.id = some next ∧
    run.failedAttemptCount ≤ next.failedAttemptCount) ?_ ⟨run, stored, Nat.le_refl _⟩
  rintro t t' kind - change ⟨mid, found, below⟩
  have named : mid.id = run.id := id_of_stored found
  rw [← named] at found ⊢
  obtain ⟨next, found', same | ⟨-, settled⟩⟩ := change.run_later found
  · exact ⟨next, found', by rw [same]; exact below⟩
  · exact ⟨next, found', by rw [settled]; exact Nat.le_trans below (Nat.le_max_left _ _)⟩

/-- Only a move changes a failure counter. -/
theorem Changes.failures_same (h : Changes K s s') (other : .moved ∉ K) {run : OrchestrationRun}
    (stored : s.runs.get? run.id = some run) :
    ∃ next, s'.runs.get? run.id = some next ∧
      next.failedAttemptCount = run.failedAttemptCount := by
  refine h.keeps (P := fun t => ∃ next, t.runs.get? run.id = some next ∧
    next.failedAttemptCount = run.failedAttemptCount) ?_ ⟨run, stored, rfl⟩
  rintro t t' kind allowed change ⟨mid, found, same⟩
  have named : mid.id = run.id := id_of_stored found
  rw [← named] at found ⊢
  obtain ⟨next, found', kept | ⟨moved, -⟩⟩ := change.run_later found
  · exact ⟨next, found', kept.trans same⟩
  · exact (other (moved ▸ allowed)).elim

/-! ## Recorded reconciliations -/

/-- The records of settled children among the events. -/
def OrchestrationStore.notes (s : OrchestrationStore) : List Event :=
  s.events.filter (·.eventType = .orchestrationChildReconciled)

/-- The guarantee of a program that records no settled child. -/
def noting : Guarantee OrchestrationStore := Guarantee.framing OrchestrationStore.notes

theorem noting_inRuntime {α : Type} {m : RuntimeTxn α} (hm : Moves growing m) :
    Moves noting (inRuntime m) := Moves.zoom hm fun _ _ _ _ _ => rfl

theorem noting_admits (env : Env) : Admits env noting where
  goals command same := noting_inRuntime (growing_inDomain env command same)
  start host command := noting_inRuntime (growing_startRun env host command)
  resume workspaceId runId expected context :=
    noting_inRuntime (growing_resumeRun env workspaceId runId expected context)
  yields workspaceId runId expected :=
    noting_inRuntime (growing_yieldForHandoff env workspaceId runId expected)
  tables {f} same := .modifyStore fun w => by
    show (f w.store).notes = w.store.notes
    unfold OrchestrationStore.notes
    rw [(same w.store).2]
  event {event} other := (reads_checkOrchestrationEvent event).moves.bind fun _ =>
    .modifyStore fun w => by
      show (w.store.events ++ [event]).filter _ = w.store.events.filter _
      rw [List.filter_append, List.filter_singleton]
      simp [other]

theorem noting_steady (platform : Platform) :
    Steady platform noting fun s s' => s'.notes = s.notes where
  admits := noting_admits platform.toEnv
  rel held := held
  refl _ := rfl
  trans first second := second.trans first
  runtime _ _ := rfl

/-- The texts of cleaned metadata. -/
theorem cleanMetadata_eq_ok {pairs : List (String × PyStr)} {cleaned : List (Text × Text)}
    (h : cleanMetadata pairs = .ok cleaned) :
    cleaned.map (fun pair => (pair.1.val, pair.2.val)) =
      pairs.map fun pair => (py pair.1, pair.2) := by
  induction pairs generalizing cleaned with
  | nil =>
      cases h
      rfl
  | cons pair rest ih =>
      obtain ⟨key, value⟩ := pair
      unfold cleanMetadata at h
      split at h
      · cases h
      · split at h
        · cases h
        · obtain ⟨others, going, same⟩ := except_bind_iff.mp h
          cases same
          rw [List.map_cons, List.map_cons, ih going]

/-- A text looked up among texts. -/
theorem lookup_texts (pairs : List (Text × Text)) (key : Text) :
    (pairs.lookup key).map Subtype.val =
      (pairs.map fun pair => (pair.1.val, pair.2.val)).lookup key.val := by
  induction pairs with
  | nil => rfl
  | cons pair rest ih =>
      obtain ⟨name, value⟩ := pair
      by_cases same : key = name
      · simp [same]
      · have apart : key.val ≠ name.val := fun eq => same (Subtype.ext eq)
        rw [List.map_cons, List.lookup_cons, List.lookup_cons, beq_eq_false_iff_ne.mpr same,
          beq_eq_false_iff_ne.mpr apart]
        exact ih

/-- A key of the metadata that comes after others. -/
theorem lookup_after {names : List (String × PyStr)} {rest : List (String × PyStr)} {key : PyStr}
    (absent : key ∉ names.map fun pair => py pair.1) :
    ((names ++ rest).map fun pair => (py pair.1, pair.2)).lookup key =
      (rest.map fun pair => (py pair.1, pair.2)).lookup key := by
  have missing : (names.map fun pair => (py pair.1, pair.2)).lookup key = none := by
    refine List.lookup_eq_none_iff.mpr fun pair mem => ?_
    obtain ⟨named, listed, rfl⟩ := List.mem_map.mp mem
    refine bne_iff_ne.mpr fun same => ?_
    rw [same] at absent
    exact absent (List.mem_map_of_mem (f := fun pair : String × PyStr => py pair.1) listed)
  rw [List.map_append, List.lookup_append, missing, Option.none_or]

/-- What is recorded of a settled child. -/
structure NoteOf (run : OrchestrationRun) (result : AgentRun) (event : Event) : Prop where
  workspace : event.workspaceId = run.workspaceId
  names : ∀ (other : OrchestrationRun) (child : AgentRun), reconciled other child event = true ↔
    other.id = run.id ∧ child.id = result.id ∧ child.version = result.version

theorem noteOf_created {env : Env} {run : OrchestrationRun} {result : AgentRun} {u : Unit}
    {w w' : World OrchestrationStore}
    (h : orchestrationEvent env run .orchestrationChildReconciled
      [("agent_run_id", result.id.value), ("agent_run_version", pyNat result.version.value)] w =
        .ok u w') :
    ∃ event, NoteOf run result event ∧
      w'.store = { w.store with events := w.store.events ++ [event] } ∧
      event.eventType = .orchestrationChildReconciled := by
  obtain ⟨id, w₁, -, s₁, h⟩ := Idle.then (moves_fresh env _) h
  obtain ⟨at', w₂, -, s₂, h⟩ := Idle.then (moves_now env) h
  obtain ⟨pairs, cleaning, h⟩ := (reads_checked _).then h
  obtain ⟨event, creating, h⟩ := (reads_checked _).then h
  obtain ⟨_, passed, h⟩ := (reads_checkOrchestrationEvent event).then h
  have filed := modifyStore_eq_ok.mp h
  obtain ⟨kind, workspace, subject, metadata⟩ :=
    Event.create_fields (checked_eq_ok.mp creating).1
  have texts := cleanMetadata_eq_ok (checked_eq_ok.mp cleaning).1
  rw [← metadata] at texts
  have childId : (event.metadata.lookup (txt "agent_run_id")).map Subtype.val =
      some result.id.value := by
    rw [lookup_texts, texts, lookup_after]
    · simp [txt]
    · simp only [List.map_cons, List.map_nil]
      decide
  have version : (event.metadata.lookup (txt "agent_run_version")).map Subtype.val =
      some (pyNat result.version.value) := by
    have other : (py "agent_run_version" == py "agent_run_id") = false := by decide
    rw [lookup_texts, texts, lookup_after]
    · simp [txt, List.lookup_cons, other]
    · simp only [List.map_cons, List.map_nil]
      decide
  refine ⟨event, ⟨workspace, fun other child => ?_⟩, ?_, kind⟩
  · unfold reconciled
    rw [childId, version, kind, subject, OpaqueId.text_val]
    simp only [decide_true, Bool.true_and, Bool.and_eq_true, decide_eq_true_eq, Option.some.injEq]
    constructor
    · rintro ⟨⟨sameRun, sameChild⟩, sameVersion⟩
      exact ⟨OpaqueId.ext_value sameRun.symm, OpaqueId.ext_value sameChild.symm,
        Version.ext (pyNat_injective sameVersion.symm)⟩
    · rintro ⟨sameRun, sameChild, sameVersion⟩
      rw [sameRun, sameChild, sameVersion]
      exact ⟨⟨rfl, rfl⟩, rfl⟩
  · rw [← filed, s₂, s₁]

/-- Whether a version of a child is recorded as reconciled for a run. -/
def OrchestrationStore.isRecorded (s : OrchestrationStore) (run : OrchestrationRun)
    (child : AgentRun) : Bool :=
  (s.events.filter (·.workspaceId = run.workspaceId)).any (reconciled run child)

theorem isRecorded_iff {run : OrchestrationRun} {child : AgentRun} :
    s.isRecorded run child = true ↔ ∃ event ∈ s.notes, event.workspaceId = run.workspaceId ∧
      reconciled run child event = true := by
  unfold OrchestrationStore.isRecorded OrchestrationStore.notes
  simp only [List.any_eq_true, List.mem_filter, decide_eq_true_eq]
  constructor
  · rintro ⟨event, ⟨mem, workspace⟩, same⟩
    refine ⟨event, ⟨mem, ?_⟩, workspace, same⟩
    unfold reconciled at same
    simp only [Bool.and_eq_true, decide_eq_true_eq] at same
    exact same.1.1.1
  · rintro ⟨event, ⟨mem, -⟩, workspace, same⟩
    exact ⟨event, ⟨mem, workspace⟩, same⟩

/-- An event records a version of a child that is stored, or an earlier one. -/
def NotedIn (s : OrchestrationStore) (event : Event) : Prop :=
  ∃ run result stored, NoteOf run result event ∧ result.id ∈ s.children run.id ∧
    s.runtime.runs.get? result.id = some stored ∧
    (stored = result ∨ result.version.value < stored.version.value)

theorem NotedIn.kept {event : Event} (h : NotedIn s event) (kept : Kept s s') :
    NotedIn s' event := by
  obtain ⟨run, result, stored, note, child, found, order⟩ := h
  obtain ⟨later, found', follows⟩ := kept.grown.run found
  refine ⟨run, result, later, note, children_kept kept child, found', ?_⟩
  rcases follows.newer with rfl | newer
  · exact order
  · rcases order with rfl | older
    · exact .inr newer
    · exact .inr (Nat.lt_trans older newer)

/-- A stored version of a child that is recorded was stored when it was recorded. -/
theorem NotedIn.back {event : Event} (h : NotedIn s event) (kept : Kept s s')
    {run : OrchestrationRun} {child : AgentRun}
    (found : s'.runtime.runs.get? child.id = some child)
    (named : reconciled run child event = true) :
    s.runtime.runs.get? child.id = some child ∧ child.id ∈ s.children run.id := by
  obtain ⟨noted, result, stored, note, listed, present, order⟩ := h
  obtain ⟨sameRun, sameChild, sameVersion⟩ := (note.names run child).mp named
  rw [← sameChild, ← sameRun] at listed
  rw [← sameChild] at present
  refine ⟨?_, listed⟩
  obtain ⟨later, found', follows⟩ := kept.grown.run present
  obtain rfl : child = later := Option.some.inj (found.symm.trans found')
  have values : child.version.value = result.version.value := congrArg Version.value sameVersion
  -- The version has not grown since it was recorded.
  rcases order with rfl | older
  · rcases follows.newer with rfl | newer
    · exact present
    · omega
  · rcases follows.newer with rfl | newer
    · omega
    · omega

/-- The failed children of a run whose last version is recorded as reconciled. -/
def OrchestrationStore.recordedFailures (s : OrchestrationStore) (run : OrchestrationRun) :
    List AgentRunId :=
  s.failedIn run.id fun id => (s.runtime.runs.get? id).any (s.isRecorded run)

theorem mem_recordedFailures {run : OrchestrationRun} {id : AgentRunId} :
    id ∈ s.recordedFailures run ↔ id ∈ s.children run.id ∧ ∃ child, child.id = id ∧
      s.runtime.runs.get? id = some child ∧ child.status = .failed ∧
      s.isRecorded run child = true := by
  unfold OrchestrationStore.recordedFailures
  rw [mem_failedIn, hasFailed_iff, Option.any_eq_true]
  constructor
  · rintro ⟨listed, ⟨child, found, failed⟩, other, found', recorded⟩
    obtain rfl : child = other := Option.some.inj (found.symm.trans found')
    have key : AgentRun.key child = id := Registry.key_of_get? found
    exact ⟨listed, child, key, found, failed, recorded⟩
  · rintro ⟨listed, child, -, found, failed, recorded⟩
    exact ⟨listed, ⟨child, found, failed⟩, child, found, recorded⟩

/-- What settling a child has found and made. -/
structure Settled (s s' : OrchestrationStore) (current : OrchestrationRun) (result : AgentRun) :
    Prop where
  stored : s.runs.get? current.id = some current
  child : result.id ∈ s.children current.id
  present : s.runtime.runs.get? result.id = some result
  fresh : s.isRecorded current result = false
  noted : ∃ event, NoteOf current result event ∧ s'.notes = s.notes ++ [event]
  counted : ∃ next, s'.runs.get? current.id = some next ∧
    next.failedAttemptCount = max current.failedAttemptCount (s.failedCount current.id)

/-- Every recorded failure is counted. -/
structure Accounted (s : OrchestrationStore) : Prop where
  noted : ∀ event ∈ s.notes, NotedIn s event
  counted : ∀ run ∈ s.runs.values, (s.recordedFailures run).length ≤ run.failedAttemptCount

namespace Accounted

/-- What is recorded in a later store was so before, but for what is newly recorded of runs
whose counter has caught up. -/
theorem step (h : Accounted s) (ledger : Ledger s) (changes : Changes K s s')
    (notes : ∀ event ∈ s'.notes, NotedIn s event)
    (runs : ∀ next ∈ s'.runs.values, s.failedCount next.id ≤ next.failedAttemptCount ∨
      ∀ event ∈ s'.notes, ∀ child, reconciled next child event = true → event ∈ s.notes) :
    Accounted s' := by
  have kept := changes.kept
  refine ⟨fun event mem => (notes event mem).kept kept, fun next mem => ?_⟩
  have old {id : AgentRunId} (here : id ∈ s'.recordedFailures next) : id ∈ s.children next.id ∧
      ∃ child, child.id = id ∧ s.runtime.runs.get? id = some child ∧ child.status = .failed ∧
        ∃ event ∈ s'.notes, event.workspaceId = next.workspaceId ∧
          reconciled next child event = true := by
    obtain ⟨-, child, rfl, found, failed, recorded⟩ := mem_recordedFailures.mp here
    obtain ⟨event, listed, workspace, named⟩ := isRecorded_iff.mp recorded
    obtain ⟨present, inside⟩ := (notes event listed).back kept found named
    exact ⟨inside, child, rfl, present, failed, event, listed, workspace, named⟩
  rcases runs next mem with counted | earlier
  · refine Nat.le_trans (failedIn_le fun id here => ?_) counted
    obtain ⟨child, record, -, present, failed, -⟩ := old here
    exact ⟨child, hasFailed_iff.mpr ⟨record, present, failed⟩⟩
  · cases found : s.runs.get? next.id with
    | none =>
        -- A new run has no children.
        have empty : s'.recordedFailures next = [] := by
          refine List.eq_nil_iff_forall_not_mem.mpr fun id here => ?_
          obtain ⟨d, own, -⟩ := mem_children.mp (old here).1
          obtain ⟨stored, run⟩ := mem_delegationsOf.mp own
          obtain ⟨run', present, -⟩ := ledger.delegated d stored
          rw [run, found] at present
          cases present
        rw [empty]
        exact Nat.zero_le _
    | some run =>
        have named : run.id = next.id := id_of_stored found
        rw [← named] at found
        obtain ⟨later, found', below⟩ := changes.failures_later found
        obtain ⟨later', found'', follows⟩ := kept.runs.later found
        obtain rfl : later' = later := Option.some.inj (found''.symm.trans found')
        have here : s'.runs.get? next.id = some next := Registry.get?_of_mem_values mem
        rw [← named, found'] at here
        obtain rfl := Option.some.inj here
        have inside : s'.recordedFailures later' ⊆ s.recordedFailures run := by
          intro id here
          obtain ⟨child, record, key, present, failed, event, listed, workspace, same⟩ := old here
          rw [follows.id] at child
          refine mem_recordedFailures.mpr ⟨child, record, key, present, failed, ?_⟩
          refine isRecorded_iff.mpr ⟨event, earlier event listed record same,
            workspace.trans follows.workspace, ?_⟩
          unfold reconciled at same ⊢
          rw [follows.id] at same
          exact same
        exact Nat.le_trans
          (List.subperm_of_subset (failedIn_nodup _ _) inside).length_le
          (Nat.le_trans (h.counted run (Registry.mem_values_of_get? found)) below)

/-- A step that records no settled child. -/
theorem same (h : Accounted s) (ledger : Ledger s) (changes : Changes K s s')
    (notes : s'.notes = s.notes) : Accounted s' :=
  h.step ledger changes (fun event mem => h.noted event (notes ▸ mem))
    fun _ _ => .inr fun _ mem _ _ => notes ▸ mem

/-- A step that settles a child. -/
theorem settled (h : Accounted s) (ledger : Ledger s) (changes : Changes K s s')
    {current : OrchestrationRun} {result : AgentRun} (settled : Settled s s' current result) :
    Accounted s' := by
  obtain ⟨event, note, notes⟩ := settled.noted
  obtain ⟨updated, found, count⟩ := settled.counted
  refine h.step ledger changes ?_ fun next mem => ?_
  · intro other mem
    rw [notes] at mem
    rcases List.mem_append.mp mem with old | new
    · exact h.noted other old
    · rw [List.mem_singleton.mp new]
      exact ⟨current, result, result, note, settled.child, settled.present, .inl rfl⟩
  · by_cases same : next.id = current.id
    · have here : s'.runs.get? next.id = some next := Registry.get?_of_mem_values mem
      rw [same, found] at here
      obtain rfl := Option.some.inj here
      rw [same, count]
      exact .inl (Nat.le_max_right _ _)
    · refine .inr fun other listed child named => ?_
      rw [notes] at listed
      rcases List.mem_append.mp listed with old | new
      · exact old
      · rw [List.mem_singleton.mp new] at named
        exact (same ((note.names next child).mp named).1).elim

end Accounted

/-! ## Settling a child -/

section Settling

variable {env : Env} {w w' : World OrchestrationStore}

theorem settleChild_settled {current : OrchestrationRun} {result answer : AgentRun}
    (stored : w.store.runs.get? current.id = some current)
    (child : result.id ∈ w.store.children current.id)
    (present : w.store.runtime.runs.get? result.id = some result)
    (fresh : w.store.isRecorded current result = false)
    (h : settleChild env current result w = .ok answer w') :
    Settled w.store w'.store current result := by
  obtain ⟨failed, counting, h⟩ := (reads_failedChildren _ _).then h
  obtain ⟨updated, w₁, saving, h⟩ := bind_eq_ok.mp h
  obtain ⟨_, w₂, ending, h⟩ := bind_eq_ok.mp h
  obtain ⟨last, found, workspace, h⟩ := getOrchestrationRun_then h
  obtain ⟨_, w₃, recording, h⟩ := bind_eq_ok.mp h
  obtain ⟨rfl, rfl⟩ := pure_eq_ok.mp h
  have named : last.id = current.id := id_of_stored found
  have admits := noting_admits env
  have saved := saveChange_saved saving
  have ends : Moves noting (runIf (result.status = .succeeded) (completeIfDone env updated)) :=
    .runIf fun _ => admits_completeIfDone admits updated
  have before : w₂.store.notes = w.store.notes :=
    (ends.of_ok ending).2.trans ((admits_saveChange admits current _).of_ok saving).2
  obtain ⟨event, note, filed, kind⟩ := noteOf_created recording
  refine ⟨stored, child, present, fresh, ⟨event, ?_, ?_⟩, ?_⟩
  · refine ⟨note.workspace.trans workspace, fun other child => ?_⟩
    rw [note.names, named]
  · rw [filed, ← before]
    show (w₂.store.events ++ [event]).filter _ = _
    rw [List.filter_append, List.filter_singleton]
    simp [kind, OrchestrationStore.notes]
  · -- The end of the work does not touch the counter.
    obtain ⟨at', evolved⟩ := saved.evolved
    have stored₁ := saved.stored
    rw [← evolved.id_eq] at stored₁
    have finishing : Changes [.quiet, .completed] w₁.store w₂.store := by
      unfold runIf at ending
      split at ending
      · exact completeIfDone_eq_ok stored₁ ending
      · cases ending
        exact .refl _
    obtain ⟨next, later, same⟩ := finishing.failures_same (by decide) stored₁
    refine ⟨next, ?_, ?_⟩
    · rw [filed, ← evolved.id_eq]
      exact later
    · rw [same]
      exact saved.settled_count (by rw [← failedChildren_eq_ok counting])

theorem getEvents_then {α : Type} {b : α} {workspaceId : WorkspaceId}
    {f : List Event → OrchestrationTxn α}
    (h : (getEvents workspaceId >>= f) w = .ok b w') :
    f (w.store.events.filter (·.workspaceId = workspaceId)) w = .ok b w' := by
  obtain ⟨events, found, h⟩ := (reads_getEvents workspaceId).then h
  obtain ⟨_, -, found⟩ := (reads_inGoals (reads_getEntity Workspace _)).then found
  have found := getStore_then found
  obtain ⟨rfl, -⟩ := pure_eq_ok.mp found
  exact h

/-- A child is settled, or the store stays as it is. -/
theorem reconcileResult_settled {workspaceId : WorkspaceId} {runId : OrchestrationRunId}
    {result answer : AgentRun}
    (h : reconcileResult env workspaceId runId result w = .ok answer w') :
    w'.store = w.store ∨ ∃ current, current.id = runId ∧
      Settled w.store w'.store current result := by
  obtain ⟨current, stored, workspace, rest⟩ := getOrchestrationRun_then (atomic_eq_ok.mp h)
  obtain rfl := id_of_stored stored
  obtain ⟨child, present, -, h⟩ := childOf_then rest
  have h := getStore_then h
  obtain ⟨bound, h⟩ := raiseIf_then h
  simp only [not_or, not_not] at bound
  obtain ⟨same, listed⟩ := bound
  rw [← same] at present
  split at h
  · obtain ⟨-, rfl⟩ := pure_eq_ok.mp h
    exact .inl rfl
  · have h := getEvents_then h
    split at h
    · obtain ⟨-, rfl⟩ := pure_eq_ok.mp h
      exact .inl rfl
    · next fresh =>
        refine .inr ⟨current, rfl, settleChild_settled stored listed present ?_ h⟩
        unfold OrchestrationStore.isRecorded
        rw [workspace]
        exact Bool.not_eq_true _ ▸ fresh

theorem reconcileChild_settled {workspaceId : WorkspaceId} {runId : OrchestrationRunId}
    {agentRunId : AgentRunId} {expected : Version} {answer : AgentRun}
    (h : reconcileChild env workspaceId runId agentRunId expected w = .ok answer w') :
    w'.store = w.store ∨ ∃ current result, current.id = runId ∧ result.id = agentRunId ∧
      Settled w.store w'.store current result := by
  obtain ⟨run, -, -, h⟩ := getOrchestrationRun_then (atomic_eq_ok.mp h)
  obtain ⟨-, h⟩ := raiseIf_then h
  obtain ⟨result, present, -, h⟩ := childOf_then h
  obtain ⟨-, h⟩ := raiseIf_then h
  have key : AgentRun.key result = agentRunId := Registry.key_of_get? present
  rcases reconcileResult_settled h with same | ⟨current, named, settled⟩
  · exact .inl same
  · exact .inr ⟨current, result, named, key, settled⟩

end Settling

section Steps

variable {platform : Platform} {c : Company}

/-- A step that reconciles a child settles it or leaves the store alone. -/
theorem step_settles (platform : Platform) {label : Label} {runId : OrchestrationRunId}
    {childId : AgentRunId} (h : c.reconciles label = some (runId, childId)) :
    (c.step platform label).store = c.store ∨ ∃ current result, current.id = runId ∧
      result.id = childId ∧ Settled c.store (c.step platform label).store current result := by
  cases label with
  | command host command =>
      cases command with
      | reconcileChild workspaceId runId' agentRunId expected =>
          cases h
          show (c.ran _).store = c.store ∨ ∃ current result, _ ∧ _ ∧ Settled c.store (c.ran _).store
            current result
          rcases ran_or_same (c := c) (m := reconcileChild platform.toEnv workspaceId runId childId
            expected) (.atomic _) with same | ⟨answer, w', ran, same⟩
          · exact .inl same
          · rw [same]
            exact reconcileChild_settled ran
      | _ => cases h
  | advance id answer =>
      cases answer with
      | driven reply =>
          cases reply with
          | error e => cases h
          | ok result =>
              obtain ⟨call, found, named⟩ := Option.bind_eq_some_iff.mp h
              have stepped : c.step platform (.advance id (.driven (.ok result))) =
                  c.proceed platform call (.driven (.ok result)) := by
                unfold Company.step
                dsimp only
                rw [found]
              rw [stepped]
              obtain ⟨id', host, point⟩ := call
              cases point with
              | driving workspaceId runId' approval =>
                  cases named
                  show ((c.ran _).moved id' none).store = c.store ∨ ∃ current result', _ ∧ _ ∧
                    Settled c.store ((c.ran _).moved id' none).store current result'
                  rw [store_moved]
                  rcases ran_or_same (c := c) (m := reconcileResult platform.toEnv workspaceId runId
                    result) (.atomic _) with same | ⟨answer, w', ran, same⟩
                  · exact .inl same
                  · rw [same]
                    rcases reconcileResult_settled ran with kept | ⟨current, own, settled⟩
                    · exact .inl kept
                    · exact .inr ⟨current, result, own, rfl, settled⟩
              | _ => cases named
      | _ => cases h
  | _ => cases h

theorem after_accounted (platform : Platform) (labels : List Label) :
    Accounted (Company.after platform labels).store := by
  apply after_invariant platform (P := fun c => Accounted c.store)
  · exact ⟨fun _ mem => (List.not_mem_nil mem).elim, fun _ mem => (List.not_mem_nil mem).elim⟩
  · intro c label sound held
    have changes := step_changes platform sound label
    cases reconciling : c.reconciles label with
    | none =>
        exact held.same sound.ledger changes
          ((noting_steady platform).step label fun other => (other reconciling).elim)
    | some pair =>
        rcases step_settles platform reconciling with
          same | ⟨current, result, -, -, settled⟩
        · rw [same]
          exact held
        · exact held.settled sound.ledger changes settled

end Steps

/-! ## The accounts -/

/-- What the counters of a run say of its children. -/
structure Account (s : OrchestrationStore) (run : OrchestrationRun) : Prop where
  started : run.agentRunCount = (s.attemptsIn run.id).length
  budget : run.agentRunCount ≤ run.policy.maxAgentRuns
  /-- Every failure that was reconciled is counted. -/
  reconciled : (s.recordedFailures run).length ≤ run.failedAttemptCount
  /-- No failure is counted twice. -/
  failed : run.failedAttemptCount ≤ s.failedCount run.id

/-- What a step does to the accounts. -/
structure AccountStep (c c' : Company) (label : Label) : Prop where
  /-- A child is started while the failures are below the budget. -/
  starts : ∀ a ∈ c'.store.attempts, a ∉ c.store.attempts → ∃ d run,
    c.store.delegations.get? a.delegationId = some d ∧
    c.store.runs.get? d.orchestrationRunId = some run ∧
    c.store.failedCount run.id < run.policy.maxFailedAttempts
  /-- No counter of failures is lowered. -/
  grows : ∀ run, c.store.runs.get? run.id = some run → ∃ next,
    c'.store.runs.get? run.id = some next ∧ run.failedAttemptCount ≤ next.failedAttemptCount
  /-- What was recorded stays so. -/
  keeps : ∀ run child, c.store.isRecorded run child = true → c'.store.isRecorded run child = true
  /-- A version of a child is reconciled once: then the counter is the number of the failed
  children, and the version is recorded. Otherwise nothing changes. -/
  settles : ∀ runId childId, c.reconciles label = some (runId, childId) →
    c'.store = c.store ∨ ∃ run child next, run.id = runId ∧ child.id = childId ∧
      c.store.runs.get? run.id = some run ∧ c.store.runtime.runs.get? child.id = some child ∧
      c.store.isRecorded run child = false ∧ c'.store.isRecorded run child = true ∧
      c'.store.runs.get? run.id = some next ∧
      next.failedAttemptCount = c.store.failedCount run.id

section Accounts

variable {platform : Platform} {c : Company}

theorem step_starts (sound : c.Sound) (label : Label) {a : DelegationAttempt}
    (made : a ∈ (c.step platform label).store.attempts) (new : a ∉ c.store.attempts) :
    ∃ d run, c.store.delegations.get? a.delegationId = some d ∧
      c.store.runs.get? d.orchestrationRunId = some run ∧
      c.store.failedCount run.id < run.policy.maxFailedAttempts := by
  cases starts : label.starts with
  | none =>
      rw [(step_changes platform sound label).attempts (started_not_mem c starts)] at made
      exact (new made).elim
  | some pair =>
      rcases start_step platform c starts with quiet | ⟨-, run, child, mid, -, started, quiet⟩
      · rw [quiet.attempts] at made
        exact (new made).elim
      · obtain ⟨mid', before, next, d', a', moving, -, -, named, -, -, same⟩ := started.made
        obtain ⟨d, stored, own, -⟩ := started.ready
        rw [quiet.attempts, same] at made
        rcases List.mem_append.mp made with old | here
        · rw [moving.attempts (by decide)] at old
          exact (new old).elim
        · obtain rfl := List.mem_singleton.mp here
          rw [← named] at stored
          exact ⟨d, run, stored, own ▸ started.stored, started.failures⟩

/-- A record of a settled child stays. -/
theorem step_notes (label : Label) {event : Event} (mem : event ∈ c.store.notes) :
    event ∈ (c.step platform label).store.notes := by
  cases reconciling : c.reconciles label with
  | none =>
      have same := (noting_steady platform).step label fun other => (other reconciling).elim
      rw [same]
      exact mem
  | some pair =>
      rcases step_settles platform reconciling with
        same | ⟨current, result, -, -, settled⟩
      · rw [same]
        exact mem
      · obtain ⟨made, -, notes⟩ := settled.noted
        rw [notes]
        exact List.mem_append_left _ mem

theorem accountStep (sound : c.Sound) (bounded : FailuresBounded c.store) (label : Label) :
    AccountStep c (c.step platform label) label := by
  constructor
  · exact fun a made new => step_starts sound label made new
  · exact fun run stored => (step_changes platform sound label).failures_later stored
  · intro run child recorded
    obtain ⟨event, mem, workspace, named⟩ := isRecorded_iff.mp recorded
    exact isRecorded_iff.mpr ⟨event, step_notes label mem, workspace, named⟩
  · intro runId childId reconciling
    rcases step_settles platform reconciling with
      same | ⟨run, child, own, named, settled⟩
    · exact .inl same
    · obtain ⟨event, note, notes⟩ := settled.noted
      obtain ⟨next, found, count⟩ := settled.counted
      refine .inr ⟨run, child, next, own, named, settled.stored, settled.present, settled.fresh,
        ?_, found, ?_⟩
      · refine isRecorded_iff.mpr ⟨event, ?_, note.workspace,
          (note.names run child).mpr ⟨rfl, rfl, rfl⟩⟩
        rw [notes]
        exact List.mem_append_right _ (List.mem_singleton_self event)
      · rw [count]
        exact Nat.max_eq_right (bounded run (Registry.mem_values_of_get? settled.stored))

end Accounts

/-- In every reached state the counters of every run agree with its children, whose agent runs
are distinct and the ones of their delegations; every step keeps the accounts, and a version
of a child is reconciled at most once. -/
theorem child_accounting (platform : Platform) (labels : List Label) :
    (∀ run ∈ (Company.after platform labels).store.runs.values,
      Account (Company.after platform labels).store run) ∧
    ((Company.after platform labels).store.attempts.map DelegationAttempt.agentRunId).Nodup ∧
    (∀ a ∈ (Company.after platform labels).store.attempts,
      Exact (Company.after platform labels).store a) ∧
    ∀ label, AccountStep (Company.after platform labels)
      (Company.after platform (labels ++ [label])) label := by
  obtain ⟨linkage, counted⟩ := after_counted platform labels
  have bounded := after_failuresBounded platform labels
  refine ⟨fun run mem => ?_, linkage.apart, after_allExact platform labels, fun label => ?_⟩
  · exact ⟨counted run mem, run.valid.agentRuns, (after_accounted platform labels).counted run mem,
      bounded run mem⟩
  · rw [after_append]
    exact accountStep (after_sound platform labels) bounded label

end AgentCompanyOS.Orchestration
