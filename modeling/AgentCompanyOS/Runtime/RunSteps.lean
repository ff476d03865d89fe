import AgentCompanyOS.Domain.Outcomes
import AgentCompanyOS.Runtime.Effects

/-!
# What a step of the system does to the agent runs

A transaction saves at most one run, and when it raises it saves none. `RunStep` lists
what the services do to the run that they save, with what the transaction has found and
done in the domain. `RunsEffect` puts it together for one transaction, and `step_runs`
for one step of the system.
-/

set_option autoImplicit false

namespace AgentCompanyOS.Runtime

open Foundation Foundation.Txn Domain

/-! ## Changes of a run -/

/-- The change that claims an iteration. -/
def AgentRun.claimChange (run : AgentRun) : RunChange where
  workingState := some { run.workingState with
    iteration := run.workingState.iteration + 1
    invocationPending := true }

/-- The working state after an observation. -/
def AgentRun.observing (run : AgentRun) (o : Observation) : AgentWorkingState :=
  { run.workingState with
    invocationPending := false
    observations := run.workingState.observed run.limits.recentObservations o }

/-- The change that a decision without a tool leads to. -/
def AgentRun.decisionChange (run : AgentRun) (effect : DecisionEffect) (o : Observation) :
    RunChange where
  status := some effect.status
  workingState := some { run.observing o with missingFields := effect.missing }
  result := effect.result

/-- The status that a failure leads to. -/
def failedStatus (cancelled : Bool) : AgentRunStatus :=
  if cancelled = true then .cancelled else .failed

/-- The change that a failure leads to. -/
def AgentRun.failureChange (run : AgentRun) (code : PyStr) (cancelled : Bool) (o : Observation) :
    RunChange where
  status := some (failedStatus cancelled)
  workingState := some (run.observing o)
  errorCode := some code

/-- The change that new context leads to. -/
def AgentRun.supplyChange (run : AgentRun) (context : SuppliedContext) (o : Observation) :
    RunChange where
  status := some .running
  workingState := some { run.workingState with
    missingFields := []
    observations := run.workingState.observed run.limits.recentObservations o }
  context := some context

/-- The change that a retrieval leads to. -/
def AgentRun.packChange (run : AgentRun) (evidence : Option EvidencePackId)
    (memory : Option (OpaqueId .memoryContextPack)) : RunChange where
  workingState := some { run.workingState with
    activeEvidencePackId := evidence
    activeMemoryPackId := memory }

/-! ## What a service does -/

/-- The attempt and the task of a run have been brought to their end. -/
structure Completed (d : DomainStore) (run : AgentRun) : Prop where
  attempt : ∃ attempt, d.attempts.get? run.taskAttemptId = some attempt ∧
    attempt.status = .succeeded
  task : ∃ task, d.tasks.get? run.taskId = some task ∧ task.status = .completed

/-- A running attempt has been failed or cancelled, and an ended one is as it was. -/
structure AttemptEnded (d d' : DomainStore) (id : TaskAttemptId) : Prop where
  ended : ∃ before after, d.attempts.get? id = some before ∧ d'.attempts.get? id = some after ∧
    (before.status = .running → after.status = .failed ∨ after.status = .cancelled) ∧
    (before.status.terminal = true → after = before)

/-- The ways in which the services save a run. -/
inductive Service where
  | start | claim | dispatch | observe | approval | decide | fail | supply | retrieve
deriving DecidableEq

/-- What a service does to a run that is stored. -/
inductive RunStep (s s' : RuntimeStore) (previous run : AgentRun) : Service → Prop
  | claimed (at' : Instant) (idle : previous.workingState.invocationPending = false)
      (evolved : AgentRun.Evolved previous run at' previous.claimChange) :
      RunStep s s' previous run .claim
  | dispatched (at' : Instant) (evolved : AgentRun.Evolved previous run at' {}) :
      RunStep s s' previous run .dispatch
  | observed (at' : Instant) (o : Observation)
      (evolved : AgentRun.Evolved previous run at'
        { workingState := some (previous.observing o) }) :
      RunStep s s' previous run .observe
  | approval (at' : Instant) (status : AgentRunStatus)
      (either : status = .waiting ∨ status = .running)
      (evolved : AgentRun.Evolved previous run at' { status := some status }) :
      RunStep s s' previous run .approval
  | decided (at' : Instant) (effect : DecisionEffect) (o : Observation)
      (evolved : AgentRun.Evolved previous run at' (previous.decisionChange effect o))
      (status : effect.status = .running ∨ effect.status = .waiting ∨ effect.status = .succeeded)
      (completed : effect.status = .succeeded → Completed s'.domain previous) :
      RunStep s s' previous run .decide
  | failed (at' : Instant) (code : PyStr) (cancelled : Bool) (o : Observation)
      (evolved : AgentRun.Evolved previous run at' (previous.failureChange code cancelled o))
      (ended : AttemptEnded s.domain s'.domain previous.taskAttemptId) :
      RunStep s s' previous run .fail
  | supplied (at' : Instant) (context : SuppliedContext) (o : Observation)
      (evolved : AgentRun.Evolved previous run at' (previous.supplyChange context o)) :
      RunStep s s' previous run .supply
  | retrieved (at' : Instant) (evidence : Option EvidencePackId)
      (memory : Option (OpaqueId .memoryContextPack))
      (evolved : AgentRun.Evolved previous run at' (previous.packChange evidence memory)) :
      RunStep s s' previous run .retrieve

/-- A run that has just been started. -/
structure Started (s s' : RuntimeStore) (run : AgentRun) : Prop where
  absent : s.runs.get? run.id = none
  running : run.status = .running
  state : run.workingState = .initial
  alone : ∀ other ∈ s.runs.values, other.taskAttemptId ≠ run.taskAttemptId
  inactive : ∀ other ∈ s.runs.values, other.executionId = run.executionId →
    other.status.terminal = true
  attempt : ∃ attempt, s.domain.attempts.get? run.taskAttemptId = some attempt ∧
    attempt.status = .running
  domain : s'.domain = s.domain

/-- What a transaction that saves runs for the services in `S` does to the runs. -/
inductive RunsEffect (S : List Service) (s s' : RuntimeStore) : Prop
  | same (runs : s'.runs = s.runs)
  | started (allowed : .start ∈ S) (run : AgentRun) (facts : Started s s' run)
      (stored : s'.runs = s.runs.put run)
  | saved (service : Service) (allowed : service ∈ S) (previous run : AgentRun)
      (present : s.runs.get? run.id = some previous) (stored : s'.runs = s.runs.put run)
      (step : RunStep s s' previous run service)

theorem RunsEffect.mono {S S' : List Service} (h : ∀ x ∈ S, x ∈ S') {s s' : RuntimeStore}
    (effect : RunsEffect S s s') : RunsEffect S' s s' := by
  cases effect with
  | same runs => exact .same runs
  | started allowed run facts stored => exact .started (h _ allowed) run facts stored
  | saved service allowed previous run present stored step =>
      exact .saved service (h _ allowed) previous run present stored step

/-! ## What every step of a run keeps -/

section Kept

variable {s s' : RuntimeStore} {previous run : AgentRun} {service : Service}

/-- A saved run is a change of the stored one. -/
theorem RunStep.evolved (step : RunStep s s' previous run service) :
    ∃ at' change, AgentRun.Evolved previous run at' change := by
  cases step with
  | claimed at' idle evolved => exact ⟨_, _, evolved⟩
  | dispatched at' evolved => exact ⟨_, _, evolved⟩
  | observed at' o evolved => exact ⟨_, _, evolved⟩
  | approval at' status either evolved => exact ⟨_, _, evolved⟩
  | decided at' effect o evolved status completed => exact ⟨_, _, evolved⟩
  | failed at' code cancelled o evolved ended => exact ⟨_, _, evolved⟩
  | supplied at' context o evolved => exact ⟨_, _, evolved⟩
  | retrieved at' evidence memory evolved => exact ⟨_, _, evolved⟩

/-- Only a claim counts an iteration. -/
theorem RunStep.iteration_eq (step : RunStep s s' previous run service)
    (other : service ≠ .claim) :
    run.workingState.iteration = previous.workingState.iteration := by
  cases step with
  | claimed at' idle evolved => exact (other rfl).elim
  | dispatched at' evolved => rw [evolved.workingState_eq]; rfl
  | observed at' o evolved => rw [evolved.workingState_eq]; rfl
  | approval at' status either evolved => rw [evolved.workingState_eq]; rfl
  | decided at' effect o evolved status completed => rw [evolved.workingState_eq]; rfl
  | failed at' code cancelled o evolved ended => rw [evolved.workingState_eq]; rfl
  | supplied at' context o evolved => rw [evolved.workingState_eq]; rfl
  | retrieved at' evidence memory evolved => rw [evolved.workingState_eq]; rfl

end Kept

/-! ## Saving -/

section Saving

variable {env : Env} {w w' : World RuntimeStore}

/-- Writes of other kinds leave the runs alone. -/
theorem runs_frame {K : List Kind} {s s' : RuntimeStore}
    (moved : Relation.ReflTransGen (Write K) s s') (noStart : .start ∉ K) (noRun : .run ∉ K) :
    s'.runs = s.runs :=
  writes_frame (fun write => write.runs_eq noStart noRun) moved

/-- Writes of other kinds leave the domain alone. -/
theorem domain_frame {K : List Kind} {s s' : RuntimeStore}
    (moved : Relation.ReflTransGen (Write K) s s') (noDomain : .domain ∉ K)
    (noSucceed : .succeed ∉ K) : s'.domain = s.domain :=
  writes_frame (fun write => write.domain_eq noDomain noSucceed) moved

/-- Without allowed kinds nothing is written. -/
theorem writes_nil {s s' : RuntimeStore} (moved : Relation.ReflTransGen (Write []) s s') :
    s' = s := by
  induction moved with
  | refl => rfl
  | tail _ write ih =>
      cases write with
      | domain command allowed => cases allowed
      | _ allowed => cases allowed

theorem saveEvolved_runs {previous updated : AgentRun} {kind : EventType} {u : Unit}
    (h : saveEvolved env previous updated kind w = .ok u w') :
    w'.store.runs = w.store.runs.put updated ∧ w'.store.domain = w.store.domain := by
  obtain ⟨transition, w₁, changed, h⟩ := bind_eq_ok.mp h
  obtain ⟨_, w₂, saved, h⟩ := bind_eq_ok.mp h
  obtain ⟨-, rfl⟩ := saveRun_eq_ok saved
  obtain ⟨a, logged⟩ := audit_frame ((moves_runEvent _ _ _ _).of_ok h).2
  have idle : w₁.store = w.store := by
    refine Idle.store_eq (m := statusTransition env previous updated kind) ?_ changed
    unfold statusTransition
    split
    · exact (moves_fresh env _).bind fun _ => (moves_now env).bind fun _ =>
        (reads_checked _).moves.bind fun _ => Moves.pure _
    · exact Moves.pure _
  rw [logged, ← idle]
  exact ⟨rfl, rfl⟩

/-- A result shown to the run is saved with the run. -/
theorem observe_runs {run updated : AgentRun} {action : Action} {data : ToolObservationData}
    (h : observe env run action data w = .ok updated w') :
    (∃ at' o, AgentRun.Evolved run updated at' { workingState := some (run.observing o) }) ∧
      w'.store.runs = w.store.runs.put updated := by
  obtain ⟨id, w₁, -, s₁, h⟩ := Idle.then (moves_fresh env _) h
  obtain ⟨o, -, h⟩ := (reads_checked _).then h
  obtain ⟨_, w₂, appended, h⟩ := bind_eq_ok.mp h
  obtain ⟨at', w₃, -, s₃, h⟩ := Idle.then (moves_now env) h
  obtain ⟨changed, evolving, h⟩ := (reads_checked _).then h
  obtain ⟨_, w₄, saved, h⟩ := bind_eq_ok.mp h
  obtain ⟨_, w₅, logged, h⟩ := bind_eq_ok.mp h
  obtain ⟨rfl, rfl⟩ := pure_eq_ok.mp h
  obtain ⟨-, rfl⟩ := saveRun_eq_ok saved
  have before : w₂.store.runs = w₁.store.runs :=
    runs_frame ((moves_appendObservation (K := [.audit]) _).of_ok appended).2 (by simp) (by simp)
  have after := runs_frame ((moves_runEvent (K := [.audit]) _ _ _ _).of_ok logged).2 (by simp)
    (by simp)
  refine ⟨⟨at', o, AgentRun.evolve_eq_ok (checked_eq_ok.mp evolving).1⟩, ?_⟩
  rw [after, ← s₁, ← before, ← s₃]

theorem approvalTransition_runs {run updated : AgentRun} {status : AgentRunStatus}
    (h : approvalTransition env run status w = .ok updated w') :
    (∃ at', AgentRun.Evolved run updated at' { status := some status }) ∧
      w'.store.runs = w.store.runs.put updated := by
  obtain ⟨at', w₁, -, s₁, h⟩ := Idle.then (moves_now env) h
  obtain ⟨changed, evolving, h⟩ := (reads_checked _).then h
  obtain ⟨id, w₂, -, s₂, h⟩ := Idle.then (moves_fresh env _) h
  obtain ⟨occurredAt, w₃, -, s₃, h⟩ := Idle.then (moves_now env) h
  obtain ⟨transition, -, h⟩ := (reads_checked _).then h
  obtain ⟨_, w₄, saved, h⟩ := bind_eq_ok.mp h
  obtain ⟨rfl, rfl⟩ := pure_eq_ok.mp h
  obtain ⟨-, rfl⟩ := saveRun_eq_ok saved
  refine ⟨⟨at', AgentRun.evolve_eq_ok (checked_eq_ok.mp evolving).1⟩, ?_⟩
  rw [← s₁, ← s₂, ← s₃]

/-- The runs that a domain command finds. -/
theorem runs_inDomain {α : Type} {m : DomainTxn α} {a : α}
    (h : inDomain m w = .ok a w') : w'.store.runs = w.store.runs := by
  obtain ⟨v, -, rfl⟩ := zoom_eq_ok.mp h
  rfl

theorem approvalWait_runs {run updated : AgentRun}
    (h : approvalWait env run w = .ok updated w') :
    (∃ at', AgentRun.Evolved run updated at' { status := some .waiting }) ∧
      w'.store.runs = w.store.runs.put updated := by
  obtain ⟨execution, -, h⟩ := (reads_entity Execution _).then h
  obtain ⟨_, w₁, waited, h⟩ := bind_eq_ok.mp h
  obtain ⟨evolved, stored⟩ := approvalTransition_runs h
  refine ⟨evolved, ?_⟩
  rw [stored, runs_inDomain waited]

end Saving

/-! ## Transactions of a drive -/

section Driving

variable {platform : Platform} {host : Host} {workspaceId : WorkspaceId} {runId : AgentRunId}
  {w w' : World RuntimeStore}

/-- A found run that is saved changed. -/
theorem RunsEffect.of_found {S : List Service} {s s' : RuntimeStore} {service : Service}
    {previous run : AgentRun} (allowed : service ∈ S)
    (found : s.runs.get? runId = some previous) (stored : s'.runs = s.runs.put run)
    (step : RunStep s s' previous run service) : RunsEffect S s s' := by
  obtain ⟨at', change, evolved⟩ := step.evolved
  refine .saved service allowed previous run ?_ stored step
  have key : AgentRun.key previous = runId := Registry.key_of_get? found
  have same : run.id = runId := evolved.id.trans key
  rw [same]
  exact found

theorem checkConfiguration_idle {run : AgentRun} {u : Unit}
    (h : checkConfiguration host run w = .ok u w') :
    run.workingState.invocationPending = false := by
  obtain ⟨-, h⟩ := raiseIf_then h
  obtain ⟨-, h⟩ := raiseIf_then h
  obtain ⟨idle, h⟩ := raiseIf_then h
  exact Bool.eq_false_iff.mpr idle

/-- A claimed iteration: the stored run had none pending, and it is saved with one more. -/
theorem driveClaim_runs {ports : PortAnswers} {iteration : ClaimedIteration}
    (h : driveClaim platform host ports workspaceId runId w = .ok iteration w') :
    ∃ run at', w.store.runs.get? runId = some run ∧
      run.workingState.invocationPending = false ∧
      AgentRun.Evolved run iteration.claimed at' run.claimChange ∧
      w'.store.runs = w.store.runs.put iteration.claimed := by
  have h := atomic_eq_ok.mp h
  obtain ⟨run, found, -, h⟩ := getRun_then h
  obtain ⟨snapshot, -, h⟩ := (reads_runParents run false).then h
  obtain ⟨_, w₁, -, s₁, h⟩ := Idle.then (moves_beforeDeadline platform.toEnv run) h
  obtain ⟨_, configured, h⟩ := (reads_checkConfiguration host run).then h
  obtain ⟨at', w₂, -, s₂, h⟩ := Idle.then (moves_now platform.toEnv) h
  obtain ⟨claimed, evolving, h⟩ := (reads_checked _).then h
  obtain ⟨_, w₃, saved, h⟩ := bind_eq_ok.mp h
  obtain ⟨_, -, h⟩ := (reads_assembleRequest platform host ports claimed snapshot).then h
  obtain ⟨started, w₄, -, s₄, h⟩ := Idle.then (moves_now platform.toEnv) h
  obtain ⟨rfl, rfl⟩ := pure_eq_ok.mp h
  refine ⟨run, at', found, checkConfiguration_idle configured,
    AgentRun.evolve_eq_ok (checked_eq_ok.mp evolving).1, ?_⟩
  rw [s₄, (saveEvolved_runs saved).1, s₂, s₁]

theorem driveClaim_effect {ports : PortAnswers} {iteration : ClaimedIteration}
    (h : driveClaim platform host ports workspaceId runId w = .ok iteration w') :
    RunsEffect [.claim] w.store w'.store := by
  obtain ⟨run, at', found, idle, evolved, stored⟩ := driveClaim_runs h
  exact .of_found (by simp) found stored (.claimed at' idle evolved)

/-- A run that both decision transactions have found at the version of the claim. -/
theorem currentIteration_then {β : Type} {env : Env} {ports : PortAnswers} {claimed : AgentRun}
    {f : AgentRun → RuntimeTxn β} {b : β}
    (h : (currentIteration env host ports workspaceId runId claimed >>= f) w = .ok b w') :
    ∃ current v, w.store.runs.get? runId = some current ∧ current.version = claimed.version ∧
      v.store = w.store ∧ f current v = .ok b w' := by
  obtain ⟨current, v, read, same, h⟩ := (idle_currentIteration env host ports _ _ _).then h
  obtain ⟨run, found, -, read⟩ := getRun_then read
  obtain ⟨version, read⟩ := raiseIf_then read
  obtain ⟨_, v₁, -, -, read⟩ := Idle.then (moves_beforeDeadline env run) read
  obtain ⟨_, -, read⟩ := (reads_knowledgePack host run).then read
  obtain ⟨_, -, read⟩ := (reads_askPort _ _).then read
  obtain ⟨rfl, -⟩ := pure_eq_ok.mp read
  exact ⟨run, v, found, not_not.mp version, same, h⟩

/-- The recorded decision is the change that the effect asks for. -/
theorem recordDecision_runs {env : Env} {current updated : AgentRun} {action : Action}
    {effect : DecisionEffect} (h : recordDecision env current action effect w = .ok updated w') :
    (∃ at' o, AgentRun.Evolved current updated at' (current.decisionChange effect o)) ∧
      w'.store.runs = w.store.runs.put updated ∧ w'.store.domain = w.store.domain := by
  obtain ⟨id, w₁, -, s₁, h⟩ := Idle.then (moves_fresh env _) h
  obtain ⟨o, -, h⟩ := (reads_checked _).then h
  obtain ⟨_, w₂, appended, h⟩ := bind_eq_ok.mp h
  obtain ⟨at', w₃, -, s₃, h⟩ := Idle.then (moves_now env) h
  obtain ⟨changed, evolving, h⟩ := (reads_checked _).then h
  obtain ⟨_, w₄, saved, h⟩ := bind_eq_ok.mp h
  obtain ⟨_, w₅, accepted, h⟩ := bind_eq_ok.mp h
  obtain ⟨_, w₆, recorded, h⟩ := bind_eq_ok.mp h
  obtain ⟨rfl, rfl⟩ := pure_eq_ok.mp h
  obtain ⟨a, first⟩ :=
    audit_frame ((moves_appendObservation (K := [.audit]) _).of_ok appended).2
  obtain ⟨runs, domain⟩ := saveEvolved_runs saved
  obtain ⟨b, second⟩ := audit_frame
    (Moves.of_ok (Moves.runIf fun _ => moves_runEvent (K := [.audit]) _ _ _ _) accepted).2
  obtain ⟨c, third⟩ := audit_frame ((moves_runEvent (K := [.audit]) _ _ _ _).of_ok recorded).2
  refine ⟨⟨at', o, AgentRun.evolve_eq_ok (checked_eq_ok.mp evolving).1⟩, ?_, ?_⟩
  · rw [third, second]
    show w₄.store.runs = _
    rw [runs, s₃, first, s₁]
    rfl
  · rw [third, second]
    show w₄.store.domain = _
    rw [domain, s₃, first, s₁]
    rfl

/-- The parents that a transaction has found active. -/
structure ActiveParents (d : DomainStore) (run : AgentRun) (parents : RuntimeSnapshot) : Prop where
  attempt : d.attempts.get? run.taskAttemptId = some parents.attempt
  task : d.tasks.get? run.taskId = some parents.task
  running : parents.attempt.status = .running
  inProgress : parents.task.status = .inProgress

theorem runParents_eq_ok {run : AgentRun} {waiting : Bool} {parents : RuntimeSnapshot}
    (h : runParents run waiting w = .ok parents w') :
    ActiveParents w.store.domain run parents := by
  obtain ⟨attempt, foundAttempt, h⟩ := entity_then (E := TaskAttempt) h
  obtain ⟨task, foundTask, h⟩ := entity_then (E := Task) h
  obtain ⟨execution, -, h⟩ := entity_then (E := Execution) h
  obtain ⟨goal, -, h⟩ := entity_then (E := Goal) h
  obtain ⟨_, -, h⟩ := (reads_forEach fun _ => Reads.raiseIf _ _).then h
  obtain ⟨-, h⟩ := raiseIf_then h
  obtain ⟨active, h⟩ := raiseIf_then h
  obtain ⟨rfl, -⟩ := pure_eq_ok.mp h
  simp only [not_or, not_not] at active
  exact ⟨foundAttempt, foundTask, active.1, active.2.1⟩

/-- A call on the domain inside a transaction. -/
theorem inDomain_eq_ok {α : Type} {m : DomainTxn α} {a : α} (h : inDomain m w = .ok a w') :
    m ⟨w.store.domain, w.issued, w.reads⟩ = .ok a ⟨w'.store.domain, w'.issued, w'.reads⟩ := by
  obtain ⟨v, called, rfl⟩ := zoom_eq_ok.mp h
  exact called

/-- The completion of the parents leaves the attempt succeeded and the task completed. -/
theorem completeParents_completed {env : Env} {run : AgentRun} {parents : RuntimeSnapshot}
    {u : Unit} (active : ActiveParents w.store.domain run parents)
    (h : completeParents env parents w = .ok u w') :
    Completed w'.store.domain run ∧ w'.store.runs = w.store.runs := by
  obtain ⟨attempt, w₁, succeeded, h⟩ := bind_eq_ok.mp h
  obtain ⟨_, w₂, completed, h⟩ := bind_eq_ok.mp h
  have h := getStore_then h
  obtain ⟨ended, foundEnded, isSucceeded⟩ := succeedTaskAttempt_stored (inDomain_eq_ok succeeded)
  obtain ⟨finished, foundFinished, isCompleted⟩ := completeTask_stored (inDomain_eq_ok completed)
  have attemptKey : parents.attempt.id = run.taskAttemptId := Registry.key_of_get? active.attempt
  have taskKey : parents.task.id = run.taskId := Registry.key_of_get? active.task
  have endedKey : ended.id = parents.attempt.id := Registry.key_of_get? foundEnded
  have finishedKey : finished.id = parents.task.id := Registry.key_of_get? foundFinished
  -- What comes after the two changes cannot touch an ended attempt or a completed task.
  have second : Extends w₁.store.domain w₂.store.domain :=
    writes_extend ((moves_command (K := [.domain]) .domain env
      (.completeTask parents.task.id attempt.id parents.task.version) rfl rfl).of_ok completed).2
  have third : Extends w₂.store.domain w'.store.domain :=
    writes_extend (Moves.of_ok (Moves.runIf fun _ => (moves_command (K := [.domain]) .domain env
      (.succeedExecution parents.execution.id parents.execution.version) rfl rfl).discard) h).2
  have runs : w'.store.runs = w₂.store.runs :=
    runs_frame (Moves.of_ok (Moves.runIf fun _ => (moves_command (K := [.domain]) .domain env
      (.succeedExecution parents.execution.id parents.execution.version) rfl rfl).discard) h).2
      (by simp) (by simp)
  refine ⟨⟨⟨ended, ?_, isSucceeded⟩, finished, ?_, isCompleted⟩, ?_⟩
  · have kept := (second.trans third).ended_attempt (Registry.mem_values_of_get? foundEnded)
      (by rw [isSucceeded]; rfl)
    rw [← attemptKey, ← endedKey]
    exact kept
  · have kept := third.completed_task (Registry.mem_values_of_get? foundFinished) isCompleted
    rw [← taskKey, ← finishedKey]
    exact kept
  · rw [runs, runs_inDomain completed, runs_inDomain succeeded]

/-- What a decision has done to the domain when it leads to a status. -/
theorem decisionEffect_eq_ok {env : Env} {current : AgentRun} {parents : RuntimeSnapshot}
    {decision : ModelDecision} {effect : DecisionEffect}
    (active : ActiveParents w.store.domain current parents)
    (h : decisionEffect env host current parents decision w = .ok effect w') :
    w'.store.runs = w.store.runs ∧
      (effect.status = .running ∨ effect.status = .waiting ∨ effect.status = .succeeded) ∧
      (effect.status = .succeeded → Completed w'.store.domain current) := by
  cases decision with
  | completeTask findings gaps =>
      obtain ⟨_, -, h⟩ := (reads_governedActions _).then h
      obtain ⟨_, -, h⟩ := (reads_toolReceipts _ _).then h
      obtain ⟨-, h⟩ := raiseIf_then h
      obtain ⟨_, -, h⟩ := (reads_toolEvidence host current).then h
      obtain ⟨_, -, h⟩ := (reads_knowledgeEvidence host current).then h
      obtain ⟨_, -, h⟩ := (Reads.ofExcept _).then h
      obtain ⟨_, w₁, completed, h⟩ := bind_eq_ok.mp h
      obtain ⟨rfl, rfl⟩ := pure_eq_ok.mp h
      obtain ⟨facts, runs⟩ := completeParents_completed active completed
      exact ⟨runs, .inr (.inr rfl), fun _ => facts⟩
  | requestMoreContext missing =>
      obtain ⟨-, h⟩ := raiseIf_then h
      obtain ⟨_, w₁, waited, h⟩ := bind_eq_ok.mp h
      obtain ⟨rfl, rfl⟩ := pure_eq_ok.mp h
      exact ⟨runs_inDomain waited, .inr (.inl rfl), fun succeeded => by cases succeeded⟩
  | respond message =>
      obtain ⟨rfl, rfl⟩ := pure_eq_ok.mp h
      exact ⟨rfl, .inl rfl, fun succeeded => by cases succeeded⟩
  | callTool toolId argumentsJson =>
      obtain ⟨rfl, rfl⟩ := pure_eq_ok.mp h
      exact ⟨rfl, .inl rfl, fun succeeded => by cases succeeded⟩

/-- A decision transaction that has committed: `v` is the world that the decision's own
effect starts from, `v'` the one that it leaves. -/
structure Decision (platform : Platform) (host : Host) (runId : AgentRunId)
    (decision : ModelDecision) (w w' : World RuntimeStore) (current updated : AgentRun)
    (parents : RuntimeSnapshot) (action : Action) (effect : DecisionEffect)
    (v v' : World RuntimeStore) : Prop where
  found : w.store.runs.get? runId = some current
  active : ActiveParents v.store.domain current parents
  logged : Relation.ReflTransGen (Write [.audit, .action]) w.store v.store
  decided : decisionEffect platform.toEnv host current parents decision v = .ok effect v'
  recorded : recordDecision platform.toEnv current action effect v' = .ok updated w'

theorem driveAction_eq_ok {ports : PortAnswers} {iteration : ClaimedIteration}
    {decision : ModelDecision} {updated : AgentRun}
    (h : driveAction platform host ports workspaceId runId iteration decision w =
      .ok updated w') :
    ∃ current parents action effect v v', Decision platform host runId decision w w' current
      updated parents action effect v v' := by
  have h := atomic_eq_ok.mp h
  obtain ⟨current, w₁, found, -, s₁, h⟩ := currentIteration_then h
  obtain ⟨_, -, h⟩ := (reads_parentVersions current).then h
  obtain ⟨-, h⟩ := raiseIf_then h
  obtain ⟨parents, active, h⟩ := (reads_runParents current false).then h
  have active := runParents_eq_ok active
  obtain ⟨at', w₂, -, s₂, h⟩ := Idle.then (moves_now platform.toEnv) h
  obtain ⟨_, w₃, received, h⟩ := bind_eq_ok.mp h
  obtain ⟨id, w₄, -, s₄, h⟩ := Idle.then (moves_fresh platform.toEnv _) h
  obtain ⟨_, w₅, appended, h⟩ := bind_eq_ok.mp h
  obtain ⟨_, w₆, requested, h⟩ := bind_eq_ok.mp h
  obtain ⟨_, -, h⟩ := (reads_authorizeDecision current decision).then h
  obtain ⟨effect, w₇, decided, h⟩ := bind_eq_ok.mp h
  -- Up to the effect only the logs and the action table change.
  have moved : Relation.ReflTransGen (Write [.audit, .action]) w₂.store w₆.store := by
    have first := ((moves_runEvent (K := [.audit, .action]) _ _ _ _).of_ok received).2
    have second : Relation.ReflTransGen (Write [.audit, .action]) w₄.store w₅.store :=
      ((moves_appendAction (K := [.audit, .action]) _).of_ok appended).2
    have third := ((moves_runEvent (K := [.audit, .action]) _ _ _ _).of_ok requested).2
    rw [s₄] at second
    exact (Relation.ReflTransGen.trans first second).trans third
  have domain := domain_frame moved (by simp) (by simp)
  refine ⟨current, parents, _, effect, w₆, w₇, found, ?_, ?_, decided, h⟩
  · rw [domain, s₂]
    exact active
  · rw [s₂, s₁] at moved
    exact moved

section Decisions

variable {decision : ModelDecision} {current updated : AgentRun} {parents : RuntimeSnapshot}
  {action : Action} {effect : DecisionEffect} {v v' : World RuntimeStore}

/-- The committed decision is the change of the run that its effect asks for. -/
theorem Decision.step
    (taken : Decision platform host runId decision w w' current updated parents action effect v
      v') :
    w'.store.runs = w.store.runs.put updated ∧
      RunStep w.store w'.store current updated .decide := by
  obtain ⟨sameRuns, status, completed⟩ := decisionEffect_eq_ok taken.active taken.decided
  obtain ⟨⟨at', o, evolved⟩, stored, sameDomain⟩ := recordDecision_runs taken.recorded
  have runs := runs_frame taken.logged (by simp) (by simp)
  constructor
  · rw [stored, sameRuns, runs]
  · refine .decided at' effect o evolved status ?_
    rw [sameDomain]
    exact completed

end Decisions

theorem driveAction_effect {ports : PortAnswers} {iteration : ClaimedIteration}
    {decision : ModelDecision} {updated : AgentRun}
    (h : driveAction platform host ports workspaceId runId iteration decision w =
      .ok updated w') : RunsEffect [.decide] w.store w'.store := by
  obtain ⟨current, parents, action, effect, v, v', taken⟩ := driveAction_eq_ok h
  obtain ⟨stored, step⟩ := taken.step
  exact .of_found (by simp) taken.found stored step

/-! ### Failing -/

/-- A running attempt that a failure has ended. -/
theorem failParents_ended {env : Env} {attempt : TaskAttempt} {task : Task}
    {execution : Execution} {code : PyStr} {cancelled : Bool} {u : Unit}
    {id : TaskAttemptId} (found : w.store.domain.attempts.get? id = some attempt)
    (h : failParents env attempt task execution code cancelled w = .ok u w') :
    AttemptEnded w.store.domain w'.store.domain id ∧ w'.store.runs = w.store.runs := by
  have runs : w'.store.runs = w.store.runs :=
    runs_frame ((moves_failParents (K := [.domain]) env attempt task execution code
      cancelled).of_ok h).2 (by simp) (by simp)
  obtain ⟨_, w₁, first, h⟩ := bind_eq_ok.mp h
  obtain ⟨_, w₂, second, third⟩ := bind_eq_ok.mp h
  have later : Extends w₁.store.domain w'.store.domain := by
    have ready : Moves (writes [.domain]) (runIf (task.status = .inProgress)
        (discard (inDomain (if cancelled = true then cancelTask env task.id task.version
          else readyTask env task.id task.version)))) := by
      refine Moves.runIf fun _ => Moves.discard ?_
      split
      · exact moves_command .domain env (.cancelTask task.id task.version) rfl rfl
      · exact moves_command .domain env (.readyTask task.id task.version) rfl rfl
    have failed : Moves (writes [.domain]) (runIf (execution.status = .running ∨
        execution.status = .waiting) (discard (inDomain (if cancelled = true
          then cancelExecution env execution.id execution.version
          else failExecution env execution.id execution.version code)))) := by
      refine Moves.runIf fun _ => Moves.discard ?_
      split
      · exact moves_command .domain env (.cancelExecution execution.id execution.version) rfl rfl
      · exact moves_command .domain env (.failExecution execution.id execution.version code)
          rfl rfl
    exact (writes_extend (ready.of_ok second).2).trans (writes_extend (failed.of_ok third).2)
  have key : attempt.id = id := Registry.key_of_get? found
  refine ⟨⟨attempt, ?_⟩, runs⟩
  by_cases running : attempt.status = .running
  · rw [runIf_of running] at first
    obtain ⟨_, first⟩ := discard_eq_ok.mp first
    have first := inDomain_eq_ok first
    have settled : ∃ after, w₁.store.domain.attempts.get? attempt.id = some after ∧
        (after.status = .failed ∨ after.status = .cancelled) := by
      split at first
      · obtain ⟨after, stored, status⟩ := cancelTaskAttempt_stored first
        exact ⟨after, stored, .inr status⟩
      · obtain ⟨after, stored, status⟩ := failTaskAttempt_stored first
        exact ⟨after, stored, .inl status⟩
    obtain ⟨after, stored, status⟩ := settled
    have ended : after.status.terminal = true := by
      rcases status with status | status <;> rw [status] <;> rfl
    have kept := later.ended_attempt (Registry.mem_values_of_get? stored) ended
    have afterKey : after.id = attempt.id := Registry.key_of_get? stored
    rw [afterKey, key] at kept
    refine ⟨after, found, kept, fun _ => status, fun wasEnded => ?_⟩
    rw [running] at wasEnded
    cases wasEnded
  · have same : w₁ = w := by
      rw [runIf_of_not running] at first
      cases first
      rfl
    rw [same] at later
    obtain ⟨after, stored, follows⟩ := later.attempts.later found
    exact ⟨after, found, stored, fun isRunning => (running isRunning).elim,
      fun ended => follows.final (final_of_terminal ended)⟩

theorem failRun_runs {env : Env} {run updated : AgentRun} {code : PyStr} {cancelled : Bool}
    (h : failRun env run code cancelled w = .ok updated w') :
    (∃ at' o, AgentRun.Evolved run updated at' (run.failureChange code cancelled o)) ∧
      w'.store.runs = w.store.runs.put updated ∧ w'.store.domain = w.store.domain := by
  obtain ⟨id, w₁, -, s₁, h⟩ := Idle.then (moves_fresh env _) h
  obtain ⟨o, -, h⟩ := (reads_checked _).then h
  obtain ⟨_, w₂, appended, h⟩ := bind_eq_ok.mp h
  obtain ⟨at', w₃, -, s₃, h⟩ := Idle.then (moves_now env) h
  obtain ⟨changed, evolving, h⟩ := (reads_checked _).then h
  obtain ⟨_, w₄, saved, h⟩ := bind_eq_ok.mp h
  obtain ⟨_, w₅, recorded, h⟩ := bind_eq_ok.mp h
  obtain ⟨_, w₆, rejected, h⟩ := bind_eq_ok.mp h
  obtain ⟨rfl, rfl⟩ := pure_eq_ok.mp h
  obtain ⟨a, first⟩ :=
    audit_frame ((moves_appendObservation (K := [.audit]) _).of_ok appended).2
  obtain ⟨runs, domain⟩ := saveEvolved_runs saved
  obtain ⟨b, second⟩ := audit_frame ((moves_runEvent (K := [.audit]) _ _ _ _).of_ok recorded).2
  obtain ⟨c, third⟩ := audit_frame ((moves_runEvent (K := [.audit]) _ _ _ _).of_ok rejected).2
  refine ⟨⟨at', o, AgentRun.evolve_eq_ok (checked_eq_ok.mp evolving).1⟩, ?_, ?_⟩
  · rw [third, second]
    show w₄.store.runs = _
    rw [runs, s₃, first, s₁]
    rfl
  · rw [third, second]
    show w₄.store.domain = _
    rw [domain, s₃, first, s₁]
    rfl

/-- A failure leaves an ended run alone and ends any other one with its attempt. -/
theorem failure_effect {env : Env} {code : PyStr} {cancelled : Bool} {updated : AgentRun}
    (h : failure env workspaceId runId code cancelled w = .ok updated w') :
    RunsEffect [.fail] w.store w'.store := by
  have h := atomic_eq_ok.mp h
  obtain ⟨run, found, -, h⟩ := getRun_then h
  split at h
  · obtain ⟨-, rfl⟩ := pure_eq_ok.mp h
    exact .same rfl
  · obtain ⟨attempt, foundAttempt, h⟩ := entity_then (E := TaskAttempt) h
    obtain ⟨execution, -, h⟩ := entity_then (E := Execution) h
    obtain ⟨task, -, h⟩ := entity_then (E := Task) h
    obtain ⟨_, w₁, parents, h⟩ := bind_eq_ok.mp h
    obtain ⟨ended, runs⟩ := failParents_ended foundAttempt parents
    obtain ⟨⟨at', o, evolved⟩, stored, domain⟩ := failRun_runs h
    rw [runs] at stored
    rw [← domain] at ended
    exact .of_found List.mem_cons_self found stored (.failed at' code _ o evolved ended)

theorem failingTxn_effect {env : Env} {code : FailureCode} {cancelled : Bool} {updated : AgentRun}
    (h : failingTxn env workspaceId runId code cancelled w = .ok updated w') :
    RunsEffect [.fail] w.store w'.store := by
  cases code with
  | text code => exact failure_effect h
  | timedOut deadline =>
      obtain ⟨at', w₁, -, s₁, h⟩ := Idle.then (moves_now env) h
      have effect := failure_effect h
      rw [s₁] at effect
      exact effect

theorem cancelRun_effect {env : Env} {expected : Version} {updated : AgentRun}
    (h : cancelRun env workspaceId runId expected w = .ok updated w') :
    RunsEffect [.fail] w.store w'.store := by
  have h := atomic_eq_ok.mp h
  obtain ⟨run, -, -, h⟩ := getRun_then h
  obtain ⟨-, h⟩ := raiseIf_then h
  obtain ⟨-, h⟩ := raiseIf_then h
  exact failure_effect h

theorem yieldForHandoff_effect {env : Env} {expected : Version} {updated : AgentRun}
    (h : yieldForHandoff env workspaceId runId expected w = .ok updated w') :
    RunsEffect [.fail] w.store w'.store := by
  obtain ⟨run, -, -, h⟩ := getRun_then h
  obtain ⟨-, h⟩ := raiseIf_then h
  obtain ⟨-, h⟩ := raiseIf_then h
  exact failure_effect h

/-! ### Resuming with new context -/

/-- Supplied context is the change that it asks for. -/
theorem resumeWith_runs {env : Env} {run updated : AgentRun} {context : SuppliedContext}
    (h : resumeWith env run context w = .ok updated w') :
    (∃ at' o, AgentRun.Evolved run updated at' (run.supplyChange context o)) ∧
      w'.store.runs = w.store.runs.put updated := by
  obtain ⟨-, h⟩ := raiseIf_then h
  obtain ⟨_, w₁, -, s₁, h⟩ := Idle.then (moves_now env) h
  obtain ⟨changed, -, h⟩ := (reads_checked _).then h
  obtain ⟨parents, -, h⟩ := (reads_runParents changed true).then h
  obtain ⟨_, w₂, resumed, h⟩ := bind_eq_ok.mp h
  obtain ⟨id, w₃, -, s₃, h⟩ := Idle.then (moves_fresh env _) h
  obtain ⟨o, -, h⟩ := (reads_checked _).then h
  obtain ⟨_, w₄, appended, h⟩ := bind_eq_ok.mp h
  obtain ⟨at', w₅, -, s₅, h⟩ := Idle.then (moves_now env) h
  obtain ⟨next, evolving, h⟩ := (reads_checked _).then h
  obtain ⟨_, w₆, saved, h⟩ := bind_eq_ok.mp h
  obtain ⟨_, w₇, recorded, h⟩ := bind_eq_ok.mp h
  obtain ⟨rfl, rfl⟩ := pure_eq_ok.mp h
  obtain ⟨a, first⟩ :=
    audit_frame ((moves_appendObservation (K := [.audit]) _).of_ok appended).2
  obtain ⟨b, second⟩ := audit_frame ((moves_runEvent (K := [.audit]) _ _ _ _).of_ok recorded).2
  refine ⟨⟨at', o, AgentRun.evolve_eq_ok (checked_eq_ok.mp evolving).1⟩, ?_⟩
  rw [second]
  show w₆.store.runs = _
  rw [(saveEvolved_runs saved).1, s₅, first]
  show (w₃.store.runs.put _) = _
  rw [s₃, runs_inDomain resumed, s₁]

theorem resumeWith_effect {env : Env} {run updated : AgentRun} {context : SuppliedContext}
    (found : w.store.runs.get? runId = some run)
    (h : resumeWith env run context w = .ok updated w') :
    RunsEffect [.supply] w.store w'.store := by
  obtain ⟨⟨at', o, evolved⟩, stored⟩ := resumeWith_runs h
  exact .of_found (by simp) found stored (.supplied at' context o evolved)

theorem resumeRun_effect {env : Env} {expected : Version} {context : SuppliedContext}
    {updated : AgentRun}
    (h : resumeRun env workspaceId runId expected context w = .ok updated w') :
    RunsEffect [.fail, .supply] w.store w'.store := by
  have h := atomic_eq_ok.mp h
  obtain ⟨run, found, -, h⟩ := getRun_then h
  obtain ⟨-, h⟩ := raiseIf_then h
  obtain ⟨-, h⟩ := raiseIf_then h
  obtain ⟨-, h⟩ := raiseIf_then h
  obtain ⟨_, w₁, -, s₁, h⟩ := Idle.then (moves_now env) h
  split at h
  · have effect := failure_effect h
    rw [s₁] at effect
    exact effect.mono (by simp)
  · rw [← s₁] at found
    have effect := resumeWith_effect found h
    rw [s₁] at effect
    exact effect.mono (by simp)

end Driving

/-! ## Transactions of a tool call -/

section Calling

variable {platform : Platform} {host : Host} {workspaceId : WorkspaceId} {runId : AgentRunId}
  {run : AgentRun} {action : Action} {w w' : World RuntimeStore}

/-- A call that writes no run. -/
theorem frames_runs {K : List Kind} {α : Type} {m : RuntimeTxn α} (hm : Moves (writes K) m)
    (noStart : .start ∉ K) (noRun : .run ∉ K) : Moves (Guarantee.framing RuntimeStore.runs) m :=
  hm.mono fun moved => runs_frame moved noStart noRun

theorem raises_approvalWait (env : Env) (run : AgentRun) :
    RaisesFraming RuntimeStore.runs (approvalWait env run) := by
  refine RaisesFraming.bind (reads_entity Execution _).moves fun execution =>
    RaisesFraming.bind (frames_runs (moves_command (K := [.domain]) .domain env
      (.waitExecution execution.id execution.version) rfl rfl) (by simp) (by simp)) fun _ => ?_
  refine RaisesFraming.bind (moves_now env) fun _ => RaisesFraming.bind (reads_checked _).moves
    fun _ => RaisesFraming.bind (moves_fresh env _) fun _ => RaisesFraming.bind (moves_now env)
    fun _ => RaisesFraming.bind (reads_checked _).moves fun _ => RaisesFraming.bind_pure ?_
  -- The save is the last statement that can raise, and it rolls back.
  exact (RollsBack.atomic _).raisesFraming

theorem raises_reviewMessage (platform : Platform) (host : Host) (run : AgentRun)
    (action : Action) (resolved : ResolvedTool) (request : ToolInput) :
    RaisesFraming RuntimeStore.runs (reviewMessage platform host run action resolved request) := by
  refine RaisesFraming.bind (Moves.raiseIf _ _) fun _ => RaisesFraming.bind
    (frames_runs (Moves.catching (moves_prepare (K := [.prepare, .audit]) platform host run action
      _ _) moves_refuseViolation) (by simp) (by simp)) fun governed => ?_
  split
  · exact (frames_runs ((moves_governanceEvent (K := [.audit]) _ _ _ _).bind fun _ =>
      Moves.raise _) (by simp) (by simp)).raisesFraming
  · refine RaisesFraming.bind (idle_allowed _ _).moves fun executable => ?_
    split
    · exact (Moves.pure _).raisesFraming
    · exact (raises_approvalWait _ run).bind_pure

/-- An authorization that raises has saved no run. -/
theorem raises_authorizeTool (platform : Platform) (host : Host) (run : AgentRun) (action : Action)
    (toolId : ToolId) (argumentsJson : PyStr) (grant : Option ToolGrant) :
    RaisesFraming RuntimeStore.runs
      (authorizeTool platform host run action toolId argumentsJson grant) := by
  cases grant with
  | none => exact (Moves.getStore.bind fun _ => Moves.raise _).raisesFraming
  | some grant =>
      refine RaisesFraming.bind (reads_resolve host _ _).moves fun resolved =>
        RaisesFraming.bind (reads_validated _).moves fun request => ?_
      split
      · exact raises_reviewMessage platform host run action resolved request
      · exact ((Moves.raiseIf _ _).bind fun _ => Moves.pure _).raisesFraming

/-- An authorization that returns has granted the call without saving a run, or it has
saved the run as waiting. -/
inductive Authorized (run : AgentRun) (s s' : RuntimeStore) : Verdict → Prop
  | waiting (waiting : AgentRun)
      (evolved : ∃ at', AgentRun.Evolved run waiting at' { status := some .waiting })
      (stored : s'.runs = s.runs.put waiting) : Authorized run s s' (.waiting waiting)
  | granted (resolved : ResolvedTool) (request : ToolInput) (governed : Option GovernedAction)
      (same : s'.runs = s.runs) : Authorized run s s' (.granted resolved request governed)

theorem reviewMessage_authorized {resolved : ResolvedTool} {request : ToolInput}
    {verdict : Verdict}
    (h : reviewMessage platform host run action resolved request w = .ok verdict w') :
    Authorized run w.store w'.store verdict := by
  obtain ⟨-, h⟩ := raiseIf_then h
  obtain ⟨record, v, prepared, h⟩ := bind_eq_ok.mp h
  have runs : v.store.runs = w.store.runs :=
    runs_frame ((Moves.catching (moves_prepare (K := [.prepare, .audit]) platform host run
      action _ _) moves_refuseViolation).of_ok prepared).2 (by simp) (by simp)
  split at h
  · obtain ⟨_, _, -, h⟩ := bind_eq_ok.mp h
    exact (raise_eq_ok.mp h).elim
  · obtain ⟨executable, v', asked, h⟩ := bind_eq_ok.mp h
    obtain ⟨-, rfl⟩ := allowed_eq_ok asked
    split at h
    · obtain ⟨rfl, rfl⟩ := pure_eq_ok.mp h
      exact .granted resolved request (some record) runs
    · obtain ⟨saved, v'', waited, h⟩ := bind_eq_ok.mp h
      obtain ⟨rfl, rfl⟩ := pure_eq_ok.mp h
      obtain ⟨evolved, stored⟩ := approvalWait_runs waited
      exact .waiting saved evolved (stored.trans (by rw [← runs]))

theorem authorizeTool_authorized {toolId : ToolId} {raw : PyStr} {grant : Option ToolGrant}
    {verdict : Verdict}
    (h : authorizeTool platform host run action toolId raw grant w = .ok verdict w') :
    Authorized run w.store w'.store verdict := by
  cases grant with
  | none =>
      have h := getStore_then h
      exact (raise_eq_ok.mp h).elim
  | some grant =>
      obtain ⟨resolved, -, h⟩ := (reads_resolve host _ _).then h
      obtain ⟨request, -, h⟩ := (reads_validated _).then h
      split at h
      · exact reviewMessage_authorized h
      · obtain ⟨-, h⟩ := raiseIf_then h
        obtain ⟨rfl, rfl⟩ := pure_eq_ok.mp h
        exact .granted resolved request none rfl

/-- The ways in which the claim of a tool call saves its run. -/
abbrev invokeServices : List Service := [.observe, .approval, .dispatch]

/-- A refusal is shown to the run. -/
theorem settleRefused_runs {toolId : ToolId} {grant : Option ToolGrant} {code : ToolError}
    {invocations : List ToolInvocation} {parents : List Version} {result : ClaimResult}
    (h : settleVerdict platform host run action toolId grant invocations parents (.refused code) w =
      .ok result w') :
    ∃ observed at' o, AgentRun.Evolved run observed at' { workingState := some (run.observing o) } ∧
      w'.store.runs = w.store.runs.put observed := by
  obtain ⟨_, w₁, rejected, h⟩ := bind_eq_ok.mp h
  obtain ⟨data, -, h⟩ := (reads_checked _).then h
  obtain ⟨observed, w₂, observing, h⟩ := bind_eq_ok.mp h
  obtain ⟨rfl, rfl⟩ := pure_eq_ok.mp h
  obtain ⟨a, logged⟩ := audit_frame ((moves_runEvent (K := [.audit]) _ _ _ _).of_ok rejected).2
  obtain ⟨⟨at', o, evolved⟩, stored⟩ := observe_runs observing
  rw [logged] at stored
  exact ⟨observed, at', o, evolved, stored⟩

/-- A claim without an earlier invocation saves its run. -/
theorem invokeFresh_runs {toolId : ToolId} {raw : PyStr} {invocations : List ToolInvocation}
    {expected : Version} {result : ClaimResult}
    (h : invokeFresh platform host run action toolId raw invocations expected w =
      .ok result w') :
    ∃ service ∈ invokeServices, ∃ updated, RunStep w.store w'.store run updated service ∧
      w'.store.runs = w.store.runs.put updated := by
  obtain ⟨-, h⟩ := raiseIf_then h
  obtain ⟨-, h⟩ := raiseIf_then h
  obtain ⟨-, h⟩ := raiseIf_then h
  obtain ⟨parents, -, h⟩ := (reads_toolParents run).then h
  obtain ⟨at', w₁, -, s₁, h⟩ := Idle.then (moves_now platform.toEnv) h
  obtain ⟨-, h⟩ := raiseIf_then h
  obtain ⟨verdict, v, authorized, h⟩ := bind_eq_ok.mp h
  rw [← s₁]
  rcases catching_eq_ok.mp authorized with returned | ⟨e, v', raised, refused⟩
  · have outcome := authorizeTool_authorized returned
    cases outcome with
    | waiting waiting evolved stored =>
        obtain ⟨at', evolved⟩ := evolved
        obtain ⟨rfl, rfl⟩ := pure_eq_ok.mp h
        exact ⟨.approval, by simp, waiting, .approval at' .waiting (.inl rfl) evolved, stored⟩
    | granted resolved request governed same =>
        obtain ⟨-, -, -, -, grant, -⟩ := authorizeTool_granted returned
        have governance : governed ≠ none → host.governance = true := by
          cases grant with
          | reading risk message same => exact fun absent => (absent rfl).elim
          | reviewed record granted => exact fun _ => granted.governance
        obtain ⟨d, -, rfl, -, -, -, -, -, claimed⟩ := claimDispatch_eq_ok governance h
        obtain ⟨at', updated, evolved, -, stored⟩ := claimed.run
        rw [same] at stored
        exact ⟨.dispatch, by simp, updated, .dispatched at' evolved, stored⟩
  · have runs : v'.store.runs = w₁.store.runs :=
      (raises_authorizeTool platform host run action toolId raw _).view_eq raised
    obtain ⟨code, rfl⟩ := toolRefusal_eq_ok refused
    have here : v.store = v'.store := Idle.store_eq (moves_toolRefusal e) refused
    obtain ⟨observed, at', o, evolved, stored⟩ := settleRefused_runs h
    rw [here, runs] at stored
    exact ⟨.observe, by simp, observed, .observed at' o evolved, stored⟩

theorem invokeFresh_effect {toolId : ToolId} {raw : PyStr} {invocations : List ToolInvocation}
    {expected : Version} {result : ClaimResult} (found : w.store.runs.get? runId = some run)
    (h : invokeFresh platform host run action toolId raw invocations expected w =
      .ok result w') : RunsEffect invokeServices w.store w'.store := by
  obtain ⟨service, allowed, updated, step, stored⟩ := invokeFresh_runs h
  exact .of_found allowed found stored step

/-- A claim finds its earlier invocation and saves no run, or it has none. -/
theorem invokeClaim_fresh {expected : Version} {result : ClaimResult}
    (h : invokeClaim platform host workspaceId runId action expected w = .ok result w') :
    w' = w ∨ ∃ run toolId raw invocations, w.store.runs.get? runId = some run ∧
      invokeFresh platform host run action toolId raw invocations expected w =
        .ok result w' := by
  have h := atomic_eq_ok.mp h
  obtain ⟨run, found, -, h⟩ := getRun_then h
  cases decision : action.decision with
  | callTool toolId raw =>
      rw [decision] at h
      obtain ⟨-, h⟩ := raiseIf_then h
      obtain ⟨stored, -, -, h⟩ := getAction_then h
      obtain ⟨-, h⟩ := raiseIf_then h
      obtain ⟨-, h⟩ := raiseIf_then h
      have h := lookup_then (reads_getRun _ _) h
      cases listed : (w.store.toolInvocations.values.filter (·.runId = run.id)).find?
          (·.actionId = action.id) with
      | none =>
          rw [listed] at h
          exact .inr ⟨run, toolId, raw, _, found, h⟩
      | some existing =>
          rw [listed] at h
          obtain ⟨-, h⟩ := raiseIf_then h
          obtain ⟨-, h⟩ := raiseIf_then h
          obtain ⟨-, rfl⟩ := pure_eq_ok.mp h
          exact .inl rfl
  | completeTask findings gaps =>
      rw [decision] at h
      exact (raise_eq_ok.mp h).elim
  | requestMoreContext missing =>
      rw [decision] at h
      exact (raise_eq_ok.mp h).elim
  | respond message =>
      rw [decision] at h
      exact (raise_eq_ok.mp h).elim

theorem invokeClaim_effect {expected : Version} {result : ClaimResult}
    (h : invokeClaim platform host workspaceId runId action expected w = .ok result w') :
    RunsEffect invokeServices w.store w'.store := by
  rcases invokeClaim_fresh h with rfl | ⟨run, toolId, raw, invocations, found, fresh⟩
  · exact .same rfl
  · exact invokeFresh_effect found fresh

/-! ### Applying results -/

theorem reconcileReply_effect {invocation : ToolInvocation} {output : Option ToolOutput}
    {error : Option ToolError} {inputBytes outputBytes : Nat} {updated : AgentRun}
    (h : reconcileReply platform host invocation action output error inputBytes outputBytes w =
      .ok updated w') : RunsEffect [.observe] w.store w'.store := by
  have h := atomic_eq_ok.mp h
  obtain ⟨run, found, -, h⟩ := getRun_then h
  obtain ⟨⟨error', stale⟩, w₁, -, s₁, h⟩ :=
    (idle_judgeReply platform.toEnv host run invocation error).then h
  obtain ⟨receipt, w₂, recorded, h⟩ := bind_eq_ok.mp h
  have runs : w₂.store.runs = w.store.runs := by
    rw [← s₁]
    exact runs_frame ((moves_storeReceipt (K := [.receipt, .review, .audit]) platform host run
      invocation output error' inputBytes outputBytes).of_ok recorded).2 (by simp) (by simp)
  split at h
  · obtain ⟨-, rfl⟩ := pure_eq_ok.mp h
    exact .same runs
  · obtain ⟨data, w₃, -, s₃, h⟩ := (idle_observationOf receipt).then h
    obtain ⟨⟨at', o, evolved⟩, stored⟩ := observe_runs h
    rw [s₃, runs] at stored
    exact .of_found (by simp) found stored (.observed at' o evolved)

theorem reconcileReceipt_effect {receipt : ToolReceipt} {updated : AgentRun}
    (h : reconcileReceipt platform host receipt w = .ok updated w') :
    RunsEffect [.observe] w.store w'.store := by
  have h := atomic_eq_ok.mp h
  obtain ⟨run, found, -, h⟩ := getRun_then h
  obtain ⟨receipts, -, h⟩ := (reads_toolReceipts _ _).then h
  obtain ⟨-, h⟩ := raiseIf_then h
  obtain ⟨_, w₁, consumed, h⟩ := bind_eq_ok.mp h
  have runs : w₁.store.runs = w.store.runs :=
    runs_frame ((moves_consumeIfGoverned (K := [.review, .audit]) platform.toEnv host
      receipt.invocation).of_ok consumed).2 (by simp) (by simp)
  split at h
  · obtain ⟨-, rfl⟩ := pure_eq_ok.mp h
    exact .same runs
  · obtain ⟨at', w₂, -, s₂, h⟩ := Idle.then (moves_now platform.toEnv) h
    split at h
    · obtain ⟨-, rfl⟩ := pure_eq_ok.mp h
      exact .same (s₂ ▸ runs)
    · obtain ⟨applies, w₃, -, s₃, h⟩ :=
        Idle.then (Moves.catching (idle_receiptApplies host run receipt.invocation)
          moves_receiptFailure) h
      split at h
      · obtain ⟨stored, -, -, h⟩ := getAction_then h
        obtain ⟨data, w₄, -, s₄, h⟩ := (idle_observationOf receipt).then h
        obtain ⟨observed, w₅, observing, h⟩ := bind_eq_ok.mp h
        obtain ⟨_, w₆, reconciled, h⟩ := bind_eq_ok.mp h
        obtain ⟨rfl, rfl⟩ := pure_eq_ok.mp h
        obtain ⟨⟨at', o, evolved⟩, saved⟩ := observe_runs observing
        obtain ⟨a, logged⟩ :=
          audit_frame ((moves_runEvent (K := [.audit]) _ _ _ _).of_ok reconciled).2
        rw [s₄, s₃, s₂, runs] at saved
        refine .of_found (by simp) found ?_ (.observed at' o evolved)
        rw [logged]
        exact saved
      · obtain ⟨-, rfl⟩ := pure_eq_ok.mp h
        exact .same (s₃ ▸ s₂ ▸ runs)

theorem repairReceipt_effect {receipt : ToolReceipt} {case : RecoveryCase}
    (h : repairReceipt platform host receipt w = .ok case w') :
    RunsEffect [.observe] w.store w'.store := by
  obtain ⟨run, w₁, reconciled, h⟩ := bind_eq_ok.mp h
  obtain ⟨reason, w₂, answered, h⟩ := bind_eq_ok.mp h
  obtain ⟨rfl, rfl⟩ := pure_eq_ok.mp h
  have same : w₂.store = w₁.store :=
    writes_nil ((moves_receiptReason platform.toEnv run receipt).of_ok answered).2
  rw [same]
  exact reconcileReceipt_effect reconciled

/-- The repair after a stored receipt is not one transaction: what is asked after the
receipt is applied can raise, but writes nothing. -/
theorem repairAnswer_effect (platform : Platform) (host : Host) (receipt : ToolReceipt)
    (w : World RuntimeStore) : RunsEffect [.observe] w.store
      (World.after (repairAnswer platform host receipt w)).store := by
  cases h : repairAnswer platform host receipt w with
  | ok step w' =>
      obtain ⟨case, w₁, repaired, h⟩ := bind_eq_ok.mp h
      obtain ⟨-, rfl⟩ := pure_eq_ok.mp h
      exact repairReceipt_effect repaired
  | error e w' =>
      show RunsEffect _ w.store w'.store
      rcases bind_eq_error.mp h with raised | ⟨_, _, -, raised⟩
      · rcases bind_eq_error.mp raised with raised | ⟨run, w₁, reconciled, raised⟩
        · exact .same (congrArg RuntimeStore.runs (atomic_eq_error raised))
        · have asked : Moves (writes []) (receiptReason platform.toEnv run receipt >>= fun reason =>
              (pure ⟨run.workspaceId, receipt.invocation.id, reason, receiptOutcome receipt⟩ :
                RuntimeTxn RecoveryCase)) :=
            (moves_receiptReason platform.toEnv run receipt).bind fun _ => Moves.pure _
          have moved := (asked w₁).2
          rw [raised] at moved
          have same : w'.store = w₁.store := writes_nil moved
          rw [same]
          exact reconcileReceipt_effect reconciled
      · cases raised

theorem findRecovery_then {β : Type} {invocationId : ToolInvocationId}
    {f : AgentRun × Option ToolInvocation × Option ToolReceipt → RuntimeTxn β} {b : β}
    (h : (findRecovery workspaceId runId invocationId >>= f) w = .ok b w') :
    ∃ found, f found w = .ok b w' := by
  obtain ⟨found, -, h⟩ := (reads_findRecovery _ _ _).then h
  exact ⟨found, h⟩

theorem recoverOpen_effect {invocationId : ToolInvocationId} {connector : Connector}
    {step : RecoveryStep}
    (h : recoverOpen platform host workspaceId runId invocationId connector w = .ok step w') :
    RunsEffect [.observe] w.store w'.store := by
  have h := atomic_eq_ok.mp h
  obtain ⟨⟨run, invocation, receipt⟩, h⟩ := findRecovery_then h
  obtain ⟨found, -, h⟩ := need_then h
  cases receipt with
  | some existing =>
      obtain ⟨case, w₁, repaired, h⟩ := bind_eq_ok.mp h
      obtain ⟨-, rfl⟩ := pure_eq_ok.mp h
      exact repairReceipt_effect repaired
  | none =>
      obtain ⟨_, w₁, detected, h⟩ := bind_eq_ok.mp h
      obtain ⟨a, logged⟩ := audit_frame ((moves_runEvent (K := [.audit]) _ _ _ _).of_ok detected).2
      have same : w'.store = w₁.store := by
        cases connector <;> (obtain ⟨-, rfl⟩ := pure_eq_ok.mp h; rfl)
      rw [same, logged]
      exact .same rfl

theorem recoverApply_effect {invocationId : ToolInvocationId} {invocation : ToolInvocation}
    {lookup : RemoteLookup} {step : RecoveryStep}
    (h : recoverApply platform host workspaceId runId invocationId invocation lookup w =
      .ok step w') : RunsEffect [.observe] w.store w'.store := by
  have h := atomic_eq_ok.mp h
  obtain ⟨⟨run, current, receipt⟩, h⟩ := findRecovery_then h
  obtain ⟨found, -, h⟩ := need_then h
  cases receipt with
  | some existing =>
      obtain ⟨case, w₁, repaired, h⟩ := bind_eq_ok.mp h
      obtain ⟨-, rfl⟩ := pure_eq_ok.mp h
      exact repairReceipt_effect repaired
  | none =>
      obtain ⟨-, h⟩ := raiseIf_then h
      obtain ⟨_, w₁, looked, h⟩ := bind_eq_ok.mp h
      obtain ⟨a, logged⟩ := audit_frame ((moves_runEvent (K := [.audit]) _ _ _ _).of_ok looked).2
      split at h
      · obtain ⟨-, rfl⟩ := pure_eq_ok.mp h
        rw [logged]
        exact .same rfl
      · obtain ⟨receipt, w₂, recorded, h⟩ := bind_eq_ok.mp h
        obtain ⟨-, rfl⟩ := pure_eq_ok.mp h
        have runs := runs_frame ((moves_recoverReceipt (K := [.receipt, .review, .audit]) platform
          host run invocation lookup).of_ok recorded).2 (by simp) (by simp)
        rw [logged] at runs
        exact .same runs

/-! ### Resuming an approved intent -/

/-- A denied resumption goes no further. -/
theorem resumeDenied_eq_ok {env : Env} {record : GovernedAction} {e : Exc}
    {execution : Execution} (h : resumeDenied env record e w = .ok (some execution) w') :
    False := by
  unfold resumeDenied at h
  split at h
  · obtain ⟨_, _, -, h⟩ := bind_eq_ok.mp h
    obtain ⟨absent, -⟩ := pure_eq_ok.mp h
    cases absent
  · obtain ⟨_, _, -, h⟩ := bind_eq_ok.mp h
    obtain ⟨absent, -⟩ := pure_eq_ok.mp h
    cases absent
  · exact raise_eq_ok.mp h

/-- An opened resumption was denied and has saved no run, or its run goes on after the
checks. -/
theorem resumeOpen_runs {intentId : ActionIntentId} {expected : Version}
    {result : Option (AgentRun × Action)}
    (h : resumeOpen platform host workspaceId runId intentId expected w = .ok result w') :
    w'.store.runs = w.store.runs ∨
      ∃ run updated at' record action execution v, w.store.runs.get? runId = some run ∧
        resumeChecks platform host record run action expected w = .ok execution v ∧
        AgentRun.Evolved run updated at' { status := some .running } ∧
        w'.store.runs = w.store.runs.put updated := by
  have h := atomic_eq_ok.mp h
  obtain ⟨record, -, -, h⟩ := governedAction_then h
  obtain ⟨run, found, -, h⟩ := getRun_then h
  obtain ⟨-, h⟩ := raiseIf_then h
  obtain ⟨action, -, -, h⟩ := getAction_then h
  obtain ⟨execution, w₁, checkedExecution, h⟩ := bind_eq_ok.mp h
  have moved : Moves (writes [.audit]) (catching (do
      let execution ← resumeChecks platform host record run action expected
      pure (some execution)) (resumeDenied platform.toEnv record)) :=
    Moves.catching ((idle_resumeChecks platform host record run action expected).moves.bind
      fun _ => Moves.pure _) (moves_resumeDenied platform.toEnv record)
  have runs : w₁.store.runs = w.store.runs :=
    runs_frame (moved.of_ok checkedExecution).2 (by simp) (by simp)
  cases execution with
  | none =>
      obtain ⟨-, rfl⟩ := pure_eq_ok.mp h
      exact .inl runs
  | some execution =>
      obtain ⟨_, w₂, resumed, h⟩ := bind_eq_ok.mp h
      obtain ⟨updated, w₃, changed, h⟩ := bind_eq_ok.mp h
      obtain ⟨rfl, rfl⟩ := pure_eq_ok.mp h
      obtain ⟨⟨at', evolved⟩, stored⟩ := approvalTransition_runs changed
      rw [runs_inDomain resumed, runs] at stored
      rcases catching_eq_ok.mp checkedExecution with passed | ⟨e, v, -, denied⟩
      · obtain ⟨asked, w₄, checks, passed⟩ := bind_eq_ok.mp passed
        exact .inr ⟨run, _, at', record, action, asked, w₄, found, checks, evolved, stored⟩
      · exact (resumeDenied_eq_ok denied).elim

theorem resumeOpen_effect {intentId : ActionIntentId} {expected : Version}
    {result : Option (AgentRun × Action)}
    (h : resumeOpen platform host workspaceId runId intentId expected w = .ok result w') :
    RunsEffect [.approval] w.store w'.store := by
  rcases resumeOpen_runs h with runs | ⟨run, updated, at', _, _, _, _, found, -, evolved, stored⟩
  · exact .same runs
  · exact .of_found (by simp) found stored (.approval at' .running (.inr rfl) evolved)

/-- A restored run waits again, or no run is saved. -/
theorem resumeRestore_runs {intentId : ActionIntentId} {resumed : Version} {u : Unit}
    (h : resumeRestore platform workspaceId runId intentId resumed w = .ok u w') :
    w'.store.runs = w.store.runs ∨
      ∃ run updated at', w.store.runs.get? runId = some run ∧
        AgentRun.Evolved run updated at' { status := some .waiting } ∧
        w'.store.runs = w.store.runs.put updated := by
  have h := atomic_eq_ok.mp h
  obtain ⟨run, found, -, h⟩ := getRun_then h
  obtain ⟨record, -, -, h⟩ := governedAction_then h
  by_cases restorable : record.invocationId = none ∧ run.version = resumed ∧
      run.status = .running ∧ run.workingState.invocationPending = true
  · rw [runIf_of restorable] at h
    obtain ⟨waiting, h⟩ := discard_eq_ok.mp h
    obtain ⟨⟨at', evolved⟩, stored⟩ := approvalWait_runs h
    exact .inr ⟨run, waiting, at', found, evolved, stored⟩
  · rw [runIf_of_not restorable] at h
    cases h
    exact .inl rfl

theorem resumeRestore_effect {intentId : ActionIntentId} {resumed : Version} {u : Unit}
    (h : resumeRestore platform workspaceId runId intentId resumed w = .ok u w') :
    RunsEffect [.approval] w.store w'.store := by
  rcases resumeRestore_runs h with runs | ⟨run, updated, at', found, evolved, stored⟩
  · exact .same runs
  · exact .of_found (by simp) found stored (.approval at' .waiting (.inl rfl) evolved)

end Calling

/-! ## Commands -/

section Commanding

variable {platform : Platform} {host : Host} {workspaceId : WorkspaceId} {runId : AgentRunId}
  {w w' : World RuntimeStore}

theorem retrievePack_effect {retriever : Retriever} {expected : Version} {query : KnowledgeQuery}
    {pack : EvidencePack}
    (h : retrievePack platform retriever workspaceId runId expected query w = .ok pack w') :
    RunsEffect [.retrieve] w.store w'.store := by
  have h := atomic_eq_ok.mp h
  obtain ⟨run, found, -, h⟩ := getRun_then h
  obtain ⟨_, w₁, -, s₁, h⟩ := (idle_checkRetrieval platform.toEnv run expected query).then h
  obtain ⟨started, w₂, -, s₂, h⟩ := Idle.then (moves_now platform.toEnv) h
  obtain ⟨eligible, -, h⟩ := (reads_eligibleCandidates _ _ _).then h
  obtain ⟨result, -, h⟩ := (Reads.ofExcept _).then h
  obtain ⟨_, -, h⟩ := (Reads.ofExcept _).then h
  obtain ⟨made, w₃, -, s₃, h⟩ := (idle_packOf platform run query result).then h
  obtain ⟨_, w₄, filed, h⟩ := bind_eq_ok.mp h
  obtain ⟨at', w₅, -, s₅, h⟩ := Idle.then (moves_now platform.toEnv) h
  obtain ⟨updated, evolving, h⟩ := (reads_checked _).then h
  obtain ⟨_, w₆, saved, h⟩ := bind_eq_ok.mp h
  obtain ⟨ended, w₇, -, s₇, h⟩ := Idle.then (moves_now platform.toEnv) h
  obtain ⟨chars, -, h⟩ := (Reads.ofExcept _).then h
  obtain ⟨_, w₈, executed, h⟩ := bind_eq_ok.mp h
  obtain ⟨_, w₉, created, h⟩ := bind_eq_ok.mp h
  obtain ⟨rfl, rfl⟩ := pure_eq_ok.mp h
  obtain ⟨-, rfl⟩ := saveRun_eq_ok saved
  have packed : w₄.store.runs = w₃.store.runs :=
    runs_frame ((moves_savePack (K := [.knowledge]) platform made).of_ok filed).2 (by simp)
      (by simp)
  obtain ⟨a, first⟩ := audit_frame ((moves_runEvent (K := [.audit]) _ _ _ _).of_ok executed).2
  obtain ⟨b, second⟩ := audit_frame ((moves_runEvent (K := [.audit]) _ _ _ _).of_ok created).2
  have evolved := AgentRun.evolve_eq_ok (checked_eq_ok.mp evolving).1
  refine .of_found (by simp) found ?_
    (.retrieved at' (some made.id) run.workingState.activeMemoryPackId evolved)
  rw [second, first]
  show w₇.store.runs = _
  rw [s₇]
  show w₅.store.runs.put _ = _
  rw [s₅, packed, s₃, s₂, s₁]

/-- A rejected query leaves at most an event behind. -/
theorem rejectRetrieval_effect {e e' : Exc}
    (h : rejectRetrieval platform.toEnv workspaceId runId e w = .error e' w') :
    ∃ a, w'.store = w.store.audited a := by
  have moved := moves_rejectRetrieval (K := [.audit]) platform.toEnv workspaceId runId e w
  rw [h] at moved
  exact audit_frame moved.2

theorem rejectRetrieval_raises {e : Exc} {pack : EvidencePack}
    (h : rejectRetrieval platform.toEnv workspaceId runId e w = .ok pack w') : False := by
  cases e with
  | domain error =>
      obtain ⟨_, _, -, h⟩ := bind_eq_ok.mp h
      exact raise_eq_ok.mp h
  | _ => exact raise_eq_ok.mp h

/-- A retrieval saves its run, or it rolls back and writes at most an event. -/
theorem retrieveKnowledge_effect (retriever : Retriever) (expected : Version)
    (query : KnowledgeQuery) (w : World RuntimeStore) :
    RunsEffect [.retrieve] w.store (World.after
      (retrieveKnowledge platform retriever workspaceId runId expected query w)).store := by
  unfold retrieveKnowledge catching
  cases body : retrievePack platform retriever workspaceId runId expected query w with
  | ok pack w' => exact retrievePack_effect body
  | error e w' =>
      have same := atomic_eq_error body
      show RunsEffect _ _ (World.after
        (rejectRetrieval platform.toEnv workspaceId runId e w')).store
      cases handled : rejectRetrieval platform.toEnv workspaceId runId e w' with
      | ok pack w'' => exact (rejectRetrieval_raises handled).elim
      | error e' w'' =>
          obtain ⟨a, logged⟩ := rejectRetrieval_effect handled
          show RunsEffect _ _ w''.store
          rw [logged, same]
          exact .same rfl

theorem retrieveMemory_effect {answer : MemoryAnswer} {expected : Version} {u : Unit}
    (h : retrieveMemory platform.toEnv answer workspaceId runId expected w = .ok u w') :
    RunsEffect [.retrieve] w.store w'.store := by
  have h := atomic_eq_ok.mp h
  obtain ⟨run, found, -, h⟩ := getRun_then h
  obtain ⟨-, h⟩ := raiseIf_then h
  obtain ⟨at', w₁, -, s₁, h⟩ := Idle.then (moves_now platform.toEnv) h
  obtain ⟨-, h⟩ := raiseIf_then h
  obtain ⟨id, w₂, -, s₂, h⟩ := Idle.then (moves_fresh platform.toEnv _) h
  obtain ⟨⟨hits, chars⟩, -, h⟩ := (Reads.ofExcept _).then h
  obtain ⟨updated, evolving, h⟩ := (reads_checked _).then h
  obtain ⟨_, w₃, saved, h⟩ := bind_eq_ok.mp h
  obtain ⟨_, w₄, retrieved, created⟩ := bind_eq_ok.mp h
  obtain ⟨-, rfl⟩ := saveRun_eq_ok saved
  obtain ⟨a, first⟩ := audit_frame ((moves_runEvent (K := [.audit]) _ _ _ _).of_ok retrieved).2
  obtain ⟨b, second⟩ := audit_frame ((moves_runEvent (K := [.audit]) _ _ _ _).of_ok created).2
  have evolved := AgentRun.evolve_eq_ok (checked_eq_ok.mp evolving).1
  refine .of_found (by simp) found ?_
    (.retrieved at' run.workingState.activeEvidencePackId (some id) evolved)
  rw [second, first]
  show w₂.store.runs.put _ = _
  rw [s₂, s₁]

theorem startRun_effect {command : StartCommand} {run : AgentRun}
    (h : startRun platform.toEnv host command w = .ok run w') :
    RunsEffect [.start] w.store w'.store := by
  have h := atomic_eq_ok.mp h
  obtain ⟨definition, -, h⟩ := (reads_getDefinition _ _ _).then h
  obtain ⟨attempt, foundAttempt, h⟩ := entity_then (E := TaskAttempt) h
  obtain ⟨task, -, h⟩ := entity_then (E := Task) h
  obtain ⟨-, h⟩ := raiseIf_then h
  obtain ⟨id, w₁, -, s₁, h⟩ := Idle.then (moves_fresh platform.toEnv _) h
  obtain ⟨createdAt, w₂, -, s₂, h⟩ := Idle.then (moves_now platform.toEnv) h
  obtain ⟨startedAt, w₃, -, s₃, h⟩ := Idle.then (moves_now platform.toEnv) h
  obtain ⟨made, creating, h⟩ := (reads_checked _).then h
  obtain ⟨parents, active, h⟩ := (reads_runParents made false).then h
  obtain ⟨_, w₄, added, h⟩ := bind_eq_ok.mp h
  obtain ⟨_, w₅, logged, h⟩ := bind_eq_ok.mp h
  obtain ⟨rfl, rfl⟩ := pure_eq_ok.mp h
  obtain ⟨passed, rfl⟩ := checked_write_ok (reads_checkAddRun made) added
  obtain ⟨a, logged⟩ := audit_frame ((moves_runEvent (K := [.audit]) _ _ _ _).of_ok logged).2
  have fields := AgentRun.create_eq_ok (checked_eq_ok.mp creating).1
  have active := runParents_eq_ok active
  have startable := checkAddRun_startable passed
  have same : w₃.store = w.store := by rw [s₃, s₂, s₁]
  rw [same] at startable active
  refine .started (by simp) made
    ⟨startable.absent, congrArg RunFields.status fields, congrArg RunFields.workingState fields,
      startable.alone, startable.inactive, ⟨parents.attempt, active.attempt, active.running⟩, ?_⟩ ?_
  · rw [logged, same]
    rfl
  · rw [logged, same]
    rfl

/-- The ways in which a command saves a run. -/
def HostCommand.services : HostCommand → List Service
  | .startRun .. => [.start]
  | .resumeRun .. => [.fail, .supply]
  | .cancelRun .. | .yieldForHandoff .. => [.fail]
  | .retrieveKnowledge .. | .retrieveMemory .. => [.retrieve]
  | _ => []

/-- An effect from what a call does when it returns; when it raises it rolls back. -/
theorem RunsEffect.of_txn {S : List Service} {α : Type} {m : RuntimeTxn α} (rolls : RollsBack m)
    {w : World RuntimeStore}
    (returned : ∀ {a w'}, m w = .ok a w' → RunsEffect S w.store w'.store) :
    RunsEffect S w.store (World.after (m w)).store := by
  cases h : m w with
  | ok a w' => exact returned h
  | error e w' => exact .same (congrArg RuntimeStore.runs (rolls.store_eq h))

/-- A call that writes no run. -/
theorem RunsEffect.of_frame {S : List Service} {α : Type} {m : RuntimeTxn α}
    (hm : Moves (Guarantee.framing RuntimeStore.runs) m) {w : World RuntimeStore} :
    RunsEffect S w.store (World.after (m w)).store :=
  .same (hm w).2

theorem rollsBack_yieldForHandoff (env : Env) (workspaceId : WorkspaceId) (runId : AgentRunId)
    (expected : Version) : RollsBack (yieldForHandoff env workspaceId runId expected) :=
  RollsBack.bind_reads (reads_getRun _ _) fun _ => RollsBack.bind_reads (Reads.raiseIf _ _)
    fun _ => RollsBack.bind_reads (Reads.raiseIf _ _) fun _ => RollsBack.atomic _

/-- An operational change leaves the runs alone. -/
theorem Operated.runs_eq {s s' : RuntimeStore} (h : Operated s s') : s'.runs = s.runs := by
  obtain ⟨o, rfl⟩ := h.tables
  rfl

/-- A command that saves no run may not write one. -/
theorem HostCommand.kinds_silent {command : HostCommand} (silent : command.services = []) :
    .start ∉ command.kinds ∧ .run ∉ command.kinds := by
  cases command with
  | domain command => cases command <;> simp [HostCommand.kinds, commandKind]
  | startRun | resumeRun | cancelRun | yieldForHandoff | retrieveKnowledge | retrieveMemory =>
      cases silent
  | _ => simp [HostCommand.kinds]

theorem silent_effect {command : HostCommand} (silent : command.services = [])
    (ordinary : command.operational = false) (w : World RuntimeStore) :
    RunsEffect command.services w.store (World.after (command.txn platform w)).store :=
  have kinds := HostCommand.kinds_silent silent
  .of_frame (frames_runs (command_writes platform command ordinary) kinds.1 kinds.2)

theorem command_effect (command : HostCommand) (w : World RuntimeStore) :
    RunsEffect command.services w.store (World.after (command.txn platform w)).store := by
  cases command with
  | startRun host c =>
      exact .of_txn (RollsBack.atomic _).discard fun h =>
        have ⟨_, h⟩ := discard_eq_ok.mp h
        startRun_effect h
  | resumeRun workspaceId runId expected context =>
      exact .of_txn (RollsBack.atomic _).discard fun h =>
        have ⟨_, h⟩ := discard_eq_ok.mp h
        resumeRun_effect h
  | cancelRun workspaceId runId expected =>
      exact .of_txn (RollsBack.atomic _).discard fun h =>
        have ⟨_, h⟩ := discard_eq_ok.mp h
        cancelRun_effect h
  | yieldForHandoff workspaceId runId expected =>
      exact .of_txn (rollsBack_yieldForHandoff _ _ _ _).discard fun h =>
        have ⟨_, h⟩ := discard_eq_ok.mp h
        yieldForHandoff_effect h
  | retrieveKnowledge retriever workspaceId runId expected query =>
      show RunsEffect _ _ (World.after (discard (retrieveKnowledge platform retriever workspaceId
        runId expected query) w)).store
      rw [after_discard]
      exact retrieveKnowledge_effect retriever expected query w
  | retrieveMemory answer workspaceId runId expected =>
      exact .of_txn (RollsBack.atomic _) retrieveMemory_effect
  | restrict workspaceId mode principal at' =>
      exact .same (moves_restrict workspaceId mode principal at' w).2.runs_eq
  | release request => exact .same ((moves_release request).discard w).2.runs_eq
  | _ => exact silent_effect rfl rfl w

end Commanding

/-! ## Steps of the system -/

/-- The ways in which a call at a point saves a run. -/
def Point.services : Point → List Service
  | .claim .. => [.claim]
  | .model .. => [.decide]
  | .failing .. => [.fail]
  | .invoke .. => invokeServices
  | .replied .. | .again .. => [.observe]
  | .resumeOpen .. | .restoreWait .. => [.approval]
  | .recoverOpen .. | .recoverApply .. | .repair .. => [.observe]
  | _ => []

section Stepping

variable {platform : Platform}

/-- A transaction of a call at a point. -/
theorem RunsEffect.of_commit {S : List Service} {call : Call} (services : call.point.services = S)
    {α : Type} {m : RuntimeTxn α} (rolls : RollsBack m) {w : World RuntimeStore}
    (returned : ∀ {a w'}, m w = .ok a w' → RunsEffect S w.store w'.store) :
    RunsEffect call.point.services w.store (World.after (m w)).store :=
  services ▸ .of_txn rolls returned

theorem decide_runs {call : Call} (shared : Shared) {loop : Loop} {iteration : ClaimedIteration}
    (point : call.point = .model loop iteration) (reply : Except Exc PyStr)
    (answers : PortAnswers) :
    RunsEffect call.point.services shared.world.store
      (shared.decide platform call.host loop iteration call.frames reply
        answers).shared.world.store := by
  have services : call.point.services = [.decide] := by rw [point]; rfl
  unfold Shared.decide
  split
  · exact .same rfl
  · split
    · exact .same rfl
    · split
      · exact .of_frame (frames_runs (moves_driveToolAction (K := [.action, .audit]) _ _ _ _ _ _ _)
          (by simp) (by simp))
      · exact .of_commit services (RollsBack.atomic _) driveAction_effect

theorem rollsBack_failingTxn (env : Env) (workspaceId : WorkspaceId) (runId : AgentRunId)
    (code : FailureCode) (cancelled : Bool) :
    RollsBack (failingTxn env workspaceId runId code cancelled) := by
  cases code with
  | text code => exact RollsBack.atomic _
  | timedOut deadline => exact RollsBack.bind_idle (moves_now env) fun _ => RollsBack.atomic _

theorem advance_runs (shared : Shared) (call : Call) (input : Input) :
    RunsEffect call.point.services shared.world.store
      (shared.advance platform call input).shared.world.store := by
  obtain ⟨id, host, point, frames⟩ := call
  cases point with
  | driveEntry workspaceId runId expected =>
      cases input with
      | next => exact .of_frame (idle_driveEntry _ _ _).moves
      | _ => exact .same rfl
  | claim loop =>
      cases input with
      | ports answers => exact .of_commit (S := [.claim]) rfl (RollsBack.atomic _) driveClaim_effect
      | _ => exact .same rfl
  | model loop iteration =>
      cases input with
      | model reply answers => exact decide_runs shared rfl reply answers
      | _ => exact .same rfl
  | failing workspaceId runId code cancelled =>
      cases input with
      | next =>
          exact .of_commit (S := [.fail]) rfl (rollsBack_failingTxn _ _ _ _ _) failingTxn_effect
      | _ => exact .same rfl
  | invoke workspaceId runId action expected =>
      cases input with
      | next =>
          exact .of_commit (S := invokeServices) rfl (RollsBack.atomic _) invokeClaim_effect
      | _ => exact .same rfl
  | entering d =>
      cases input with
      | next => exact .same rfl
      | _ => exact .same rfl
  | executing d =>
      show RunsEffect _ _ (shared.execute platform d frames input).shared.world.store
      rw [execute_world]
      exact .same rfl
  | replied d reply =>
      cases input with
      | next => exact .of_commit (S := [.observe]) rfl (RollsBack.atomic _) reconcileReply_effect
      | _ => exact .same rfl
  | again d error =>
      cases input with
      | next => exact .of_commit (S := [.observe]) rfl (RollsBack.atomic _) reconcileReply_effect
      | _ => exact .same rfl
  | resumeExpire workspaceId runId intentId expected =>
      cases input with
      | next =>
          show RunsEffect _ _ (ite _ _ _ : Advance).shared.world.store
          split
          · exact .same rfl
          · exact .of_frame (frames_runs (moves_expire (K := [.review, .audit]) _ _ _) (by simp)
              (by simp))
      | _ => exact .same rfl
  | resumeOpen workspaceId runId intentId expected =>
      cases input with
      | next => exact .of_commit (S := [.approval]) rfl (RollsBack.atomic _) resumeOpen_effect
      | _ => exact .same rfl
  | restoreWait workspaceId runId intentId resumed error =>
      cases input with
      | next => exact .of_commit (S := [.approval]) rfl (RollsBack.atomic _) resumeRestore_effect
      | _ => exact .same rfl
  | recoverOpen workspaceId runId invocationId connector =>
      cases input with
      | next => exact .of_commit (S := [.observe]) rfl (RollsBack.atomic _) recoverOpen_effect
      | _ => exact .same rfl
  | lookUp workspaceId runId invocationId invocation connector =>
      cases input with
      | next =>
          show RunsEffect _ _ (shared.lookUp platform _ _ _ _ _ _).shared.world.store
          rw [lookUp_world]
          exact .same rfl
      | _ => exact .same rfl
  | recoverApply workspaceId runId invocationId invocation lookup =>
      cases input with
      | next => exact .of_commit (S := [.observe]) rfl (RollsBack.atomic _) recoverApply_effect
      | _ => exact .same rfl
  | repair receipt =>
      cases input with
      | next =>
          exact repairAnswer_effect platform host receipt shared.world
      | _ => exact .same rfl

/-- The ways in which a step saves a run. -/
def Label.services (s : Sys) : Label → List Service
  | .advance id _ => ((s.call? id).map fun call => call.point.services).getD []
  | .command c => c.services
  | _ => []

/-- What one step of the system does to the runs. -/
theorem step_runs (platform : Platform) (s : Sys) (label : Label) :
    RunsEffect (label.services s) s.store (Sys.step platform s label).store := by
  cases label with
  | «open» host request => exact .same rfl
  | advance id input =>
      cases found : s.call? id with
      | none =>
          refine .same ?_
          refine Sys.advance_cases (fun t => t.store.runs = s.store.runs) platform s id input
            (fun call found' => ?_) rfl
          cases found.symm.trans found'
      | some call =>
          have services : Label.services s (.advance id input) = call.point.services := by
            show ((s.call? id).map fun call => call.point.services).getD [] = _
            rw [found]
            rfl
          rw [services]
          rw [Sys.step_advance found]
          exact advance_runs s.shared call input
  | drop id => exact .same rfl
  | crash => exact .same rfl
  | command c => exact command_effect c s.shared.world
  | restore request =>
      show RunsEffect _ s.store (s.restored request).store
      have moved := moves_restore request s.shared.world
      unfold Sys.restored
      cases h : Runtime.restore request s.shared.world with
      | ok u w =>
          rw [h] at moved
          exact .same moved.2.runs_eq
      | error e w => exact .same rfl

end Stepping

/-! ## Stored runs before and after a step -/

section Stored

variable {S : List Service} {s s' : RuntimeStore}

/-- A run after a step was stored, has been started, or is a step of a stored one. -/
inductive RunSource (S : List Service) (s s' : RuntimeStore) (id : AgentRunId)
    (run : AgentRun) : Prop
  | kept (present : s.runs.get? id = some run)
  | started (allowed : .start ∈ S) (facts : Started s s' run)
  | stepped (service : Service) (allowed : service ∈ S) (previous : AgentRun)
      (present : s.runs.get? id = some previous) (step : RunStep s s' previous run service)

theorem RunsEffect.source (effect : RunsEffect S s s') {id : AgentRunId} {run : AgentRun}
    (found : s'.runs.get? id = some run) : RunSource S s s' id run := by
  cases effect with
  | same runs =>
      rw [runs] at found
      exact .kept found
  | started allowed new facts stored =>
      rw [stored, Registry.get?_put] at found
      split at found
      · obtain rfl := Option.some.inj found
        exact .started allowed facts
      · exact .kept found
  | saved service allowed previous next present stored step =>
      rw [stored, Registry.get?_put] at found
      split at found
      · next same =>
          obtain rfl := Option.some.inj found
          have key : next.id = id := same
          rw [key] at present
          exact .stepped service allowed previous present step
      · exact .kept found

/-- A stored run is stored after a step, as it was or changed by a service. -/
theorem RunsEffect.later (effect : RunsEffect S s s') {id : AgentRunId} {run : AgentRun}
    (found : s.runs.get? id = some run) :
    ∃ next, s'.runs.get? id = some next ∧
      (next = run ∨ ∃ service ∈ S, RunStep s s' run next service) := by
  cases effect with
  | same runs => exact ⟨run, runs ▸ found, .inl rfl⟩
  | started allowed new facts stored =>
      refine ⟨run, ?_, .inl rfl⟩
      have other : AgentRun.key new ≠ id := by
        rintro rfl
        cases facts.absent.symm.trans found
      rw [stored, Registry.get?_put_ne _ other]
      exact found
  | saved service allowed previous next present stored step =>
      rw [stored]
      by_cases same : AgentRun.key next = id
      · subst same
        obtain rfl := Option.some.inj (present.symm.trans found)
        exact ⟨next, Registry.get?_put_self _ _, .inr ⟨service, allowed, step⟩⟩
      · exact ⟨run, (Registry.get?_put_ne _ same).trans found, .inl rfl⟩

end Stored

end AgentCompanyOS.Runtime
