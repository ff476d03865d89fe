import AgentCompanyOS.Runtime.RunCoupling

/-!
# What the runtime store never takes back

Every write of a service and every step of the system leaves the entities of the domain and
the runs in place: a later record has the fields that were fixed when it was created, and a
record that had ended is the same record. `Grown` says so of two stores; the services that
are built on the runtime reason about it through this relation only.
-/

set_option autoImplicit false

namespace AgentCompanyOS.Runtime

open Foundation Foundation.Txn Domain

/-! ## Runs -/

/-- A later record of a run, the same one when the run had ended. -/
structure AgentRun.Later (before after : AgentRun) : Prop where
  origin : after.origin = before.origin
  final : before.status.terminal = true → after = before
  newer : after = before ∨ before.version.value < after.version.value

namespace AgentRun.Later

theorem refl (run : AgentRun) : run.Later run := ⟨rfl, fun _ => rfl, .inl rfl⟩

theorem trans {a b c : AgentRun} (h : a.Later b) (h' : b.Later c) : a.Later c := by
  refine ⟨h'.origin.trans h.origin, ?_, ?_⟩
  · intro ended
    have same := h.final ended
    rw [← same] at ended
    exact (h'.final ended).trans same
  · rcases h.newer with rfl | first
    · exact h'.newer
    · rcases h'.newer with rfl | second
      · exact .inr first
      · exact .inr (Nat.lt_trans first second)

/-- A change that `evolve` accepts. -/
theorem of_evolved {run next : AgentRun} {at' : Instant} {change : RunChange}
    (evolved : AgentRun.Evolved run next at' change) : run.Later next := by
  refine ⟨evolved.origin_eq, ?_, ?_⟩
  · intro ended
    rw [evolved.open] at ended
    cases ended
  · rw [evolved.version]
    exact .inr (Nat.lt_succ_self _)

end AgentRun.Later

/-! ## Stores -/

/-- Every entity and every run of the first store is in the second, as it was or as a later
record. -/
structure Grown (s s' : RuntimeStore) : Prop where
  domain : Extends s.domain s'.domain
  runs : s.runs.Evolves AgentRun.Later s'.runs

namespace Grown

theorem refl (s : RuntimeStore) : Grown s s := ⟨.refl _, .refl AgentRun.Later.refl _⟩

theorem trans {s t u : RuntimeStore} (h : Grown s t) (h' : Grown t u) : Grown s u :=
  ⟨h.domain.trans h'.domain, h.runs.trans (fun first second => first.trans second) h'.runs⟩

variable {s s' : RuntimeStore}

/-- The later record of a run. -/
theorem run (h : Grown s s') {id : AgentRunId} {run : AgentRun}
    (found : s.runs.get? id = some run) : ∃ next, s'.runs.get? id = some next ∧ run.Later next :=
  h.runs.later found

/-- An ended run stays. -/
theorem ended_run (h : Grown s s') {id : AgentRunId} {run : AgentRun}
    (found : s.runs.get? id = some run) (ended : run.status.terminal = true) :
    s'.runs.get? id = some run := by
  obtain ⟨next, later, follows⟩ := h.runs.later found
  rw [follows.final ended] at later
  exact later

/-- A task stays, and a completed or cancelled one as it is. -/
theorem task (h : Grown s s') {id : TaskId} {task : Task}
    (found : s.domain.tasks.get? id = some task) :
    ∃ next, s'.domain.tasks.get? id = some next ∧ Follows Task.origin task next :=
  h.domain.tasks.later found

theorem goal (h : Grown s s') {id : GoalId} {goal : Goal}
    (found : s.domain.goals.get? id = some goal) :
    ∃ next, s'.domain.goals.get? id = some next ∧ Follows Goal.origin goal next :=
  h.domain.goals.later found

/-- A completed task stays completed. -/
theorem completed_task (h : Grown s s') {id : TaskId}
    (done : ∃ task, s.domain.tasks.get? id = some task ∧ task.status = .completed) :
    ∃ task, s'.domain.tasks.get? id = some task ∧ task.status = .completed := by
  obtain ⟨task, stored, status⟩ := done
  obtain ⟨next, later, follows⟩ := h.task stored
  have ended : TaskStatus.allowed task.status = [] := by rw [status]; rfl
  obtain rfl := follows.final ended
  exact ⟨_, later, status⟩

/-- A satisfied goal stays satisfied. -/
theorem satisfied_goal (h : Grown s s') {id : GoalId}
    (done : ∃ goal, s.domain.goals.get? id = some goal ∧ goal.status = .satisfied) :
    ∃ goal, s'.domain.goals.get? id = some goal ∧ goal.status = .satisfied := by
  obtain ⟨goal, stored, status⟩ := done
  obtain ⟨next, later, follows⟩ := h.goal stored
  have ended : GoalStatus.allowed goal.status = [] := by rw [status]; rfl
  obtain rfl := follows.final ended
  exact ⟨_, later, status⟩

end Grown

/-! ## Writes and steps -/

section Steps

variable {K : List Kind} {s s' : RuntimeStore}

/-- A single write. -/
theorem Write.grown (write : Write K s s') : Grown s s' := by
  refine ⟨write.extends, ?_⟩
  cases write with
  | start allowed s run startable =>
      refine .put AgentRun.Later.refl fun old present => ?_
      cases startable.absent.symm.trans present
  | run allowed s previous run present evolved transitions =>
      refine .put AgentRun.Later.refl fun old stored => ?_
      obtain rfl : previous = old := Option.some.inj (present.symm.trans stored)
      exact .of_evolved evolved
  | _ => exact .refl AgentRun.Later.refl _

/-- Any number of writes. -/
theorem writes_grown (moved : Relation.ReflTransGen (Write K) s s') : Grown s s' :=
  writes_induct (P := Grown s) (fun write grown => grown.trans write.grown) moved (.refl s)

/-- What a service that saves runs does to them. -/
theorem RunsEffect.evolves {S : List Service} (effect : RunsEffect S s s') :
    s.runs.Evolves AgentRun.Later s'.runs := by
  constructor
  intro id run found
  obtain ⟨next, later, same | ⟨service, -, step⟩⟩ := effect.later found
  · exact ⟨next, later, same ▸ .refl run⟩
  · obtain ⟨at', change, evolved⟩ := step.evolved
    exact ⟨next, later, .of_evolved evolved⟩

/-- A step of the system. -/
theorem step_grown (platform : Platform) (s : Sys) (label : Label) :
    Grown s.store (s.step platform label).store :=
  ⟨(step_effect platform s label).extends, (step_runs platform s label).evolves⟩

/-- A started run is new, running and filed. -/
theorem startRun_eq_ok {env : Env} {host : Host} {command : StartCommand} {run : AgentRun}
    {w w' : World RuntimeStore} (h : startRun env host command w = .ok run w') :
    w.store.runs.get? run.id = none ∧ w'.store.runs.get? run.id = some run ∧
      run.status = .running := by
  have h := atomic_eq_ok.mp h
  obtain ⟨definition, -, h⟩ := (reads_getDefinition _ _ _).then h
  obtain ⟨attempt, -, h⟩ := entity_then (E := TaskAttempt) h
  obtain ⟨task, -, h⟩ := entity_then (E := Task) h
  obtain ⟨-, h⟩ := raiseIf_then h
  obtain ⟨id, w₁, -, s₁, h⟩ := Idle.then (moves_fresh env _) h
  obtain ⟨createdAt, w₂, -, s₂, h⟩ := Idle.then (moves_now env) h
  obtain ⟨startedAt, w₃, -, s₃, h⟩ := Idle.then (moves_now env) h
  obtain ⟨made, creating, h⟩ := (reads_checked _).then h
  obtain ⟨parents, -, h⟩ := (reads_runParents made false).then h
  obtain ⟨_, w₄, added, h⟩ := bind_eq_ok.mp h
  obtain ⟨_, w₅, logged, h⟩ := bind_eq_ok.mp h
  obtain ⟨rfl, rfl⟩ := pure_eq_ok.mp h
  obtain ⟨passed, rfl⟩ := checked_write_ok (reads_checkAddRun made) added
  obtain ⟨a, logged⟩ := audit_frame ((moves_runEvent (K := [.audit]) _ _ _ _).of_ok logged).2
  have fields := AgentRun.create_eq_ok (checked_eq_ok.mp creating).1
  have startable := checkAddRun_startable passed
  have same : w₃.store = w.store := by rw [s₃, s₂, s₁]
  rw [same] at startable
  refine ⟨startable.absent, ?_, congrArg RunFields.status fields⟩
  rw [logged]
  show (w₃.store.runs.put made).get? (AgentRun.key made) = some made
  exact Registry.get?_put_self _ made

/-- A failure leaves an ended run in the store. -/
theorem failure_ended {env : Env} {workspaceId : WorkspaceId} {runId : AgentRunId} {code : PyStr}
    {cancelled : Bool} {answer : AgentRun} {w w' : World RuntimeStore}
    (h : failure env workspaceId runId code cancelled w = .ok answer w') :
    w'.store.runs.get? runId = some answer ∧ answer.status.terminal = true := by
  obtain ⟨run, found, -, rest⟩ := getRun_then (atomic_eq_ok.mp h)
  have key : AgentRun.key run = runId := Registry.key_of_get? found
  split at rest
  · next ended =>
      obtain ⟨rfl, rfl⟩ := pure_eq_ok.mp rest
      exact ⟨found, ended⟩
  · obtain ⟨attempt, -, rest⟩ := entity_then (E := TaskAttempt) rest
    obtain ⟨execution, -, rest⟩ := entity_then (E := Execution) rest
    obtain ⟨task, -, rest⟩ := entity_then (E := Task) rest
    obtain ⟨_, w₁, -, rest⟩ := bind_eq_ok.mp rest
    obtain ⟨⟨at', o, evolved⟩, stored, -⟩ := failRun_runs rest
    refine ⟨?_, ?_⟩
    · rw [stored, ← key, ← show AgentRun.key answer = AgentRun.key run from evolved.id]
      exact Registry.get?_put_self _ answer
    · rw [evolved.status_eq]
      show (failedStatus _).terminal = true
      unfold failedStatus
      split <;> rfl

/-- A yielded run has ended. -/
theorem yieldForHandoff_ended {env : Env} {workspaceId : WorkspaceId} {runId : AgentRunId}
    {expected : Version} {answer : AgentRun} {w w' : World RuntimeStore}
    (h : yieldForHandoff env workspaceId runId expected w = .ok answer w') :
    w'.store.runs.get? runId = some answer ∧ answer.status.terminal = true := by
  obtain ⟨run, -, -, h⟩ := getRun_then h
  obtain ⟨-, h⟩ := raiseIf_then h
  obtain ⟨-, h⟩ := raiseIf_then h
  exact failure_ended h

/-- The guarantee of a program over the runtime store that takes nothing back. -/
def growing : Guarantee RuntimeStore :=
  Guarantee.onStore Grown Grown.refl fun first second => first.trans second

/-- Every program that moves by writes. -/
theorem moves_growing {α : Type} {m : RuntimeTxn α} (hm : Moves (writes K) m) : Moves growing m :=
  hm.mono fun moved => writes_grown moved

end Steps

end AgentCompanyOS.Runtime
