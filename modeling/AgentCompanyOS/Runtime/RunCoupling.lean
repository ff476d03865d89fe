import AgentCompanyOS.Runtime.RunSteps
import AgentCompanyOS.Runtime.WriteSafety

/-!
# Runs and their parents

A run and its attempt, task and execution are moved by different services. The attempt of
a run has begun when the run starts, an ended attempt never changes, and a transaction that
ends a run ends its attempt with it; so the two stay coupled whatever the other services
do. An attempt succeeds only by a command of the host that names it, or by the transaction
that completes its run.
-/

set_option autoImplicit false

namespace AgentCompanyOS.Runtime

open Foundation Foundation.Txn Domain

/-! ## Attempts that have begun -/

section Begun

variable {platform : Platform} {K : List Kind} {s s' : RuntimeStore} {w w' : World RuntimeStore}

/-- The attempt is stored and has begun. -/
def Begun (d : DomainStore) (id : TaskAttemptId) : Prop :=
  ∃ attempt, d.attempts.get? id = some attempt ∧ attempt.status ≠ .created

theorem Write.begun (write : Write K s s') {id : TaskAttemptId} (h : Begun s.domain id) :
    Begun s'.domain id := by
  obtain ⟨attempt, found, begun⟩ := h
  cases write with
  | domain command allowed _ d served =>
      obtain ⟨call, accepted, -⟩ := served
      obtain ⟨later, foundLater, -⟩ := accepted.extends.attempts.later found
      refine ⟨later, foundLater, fun created => ?_⟩
      have key : later.id = id := Registry.key_of_get? foundLater
      rcases accepted.created_source (Registry.mem_values_of_get? foundLater) created with
        mem | absent
      · have same := Registry.get?_of_mem_values mem
        change s.domain.attempts.get? later.id = some later at same
        rw [key, found] at same
        obtain rfl := Option.some.inj same
        exact begun created
      · rw [key, found] at absent
        cases absent
  | _ => exact ⟨attempt, found, begun⟩

/-- No step takes an attempt back to its creation. -/
theorem Effect.begun (h : Effect platform w w') {id : TaskAttemptId}
    (begun : Begun w.store.domain id) : Begun w'.store.domain id := by
  cases h with
  | wrote later moved =>
      exact writes_induct (P := fun t => Begun t.domain id) (fun write h => write.begun h) moved
        begun
  | dispatched later host runId expected d governed v facts =>
      rw [facts.domain_eq]
      exact begun
  | operated later change =>
      obtain ⟨o, same⟩ := change.tables
      rw [same]
      exact begun

end Begun

/-! ## Attempts that succeed -/

/-- An attempt that has succeeded in `d'` had done so in `d`, or `who` says that its success
is new. -/
def Successes (d d' : DomainStore) (who : TaskAttemptId → Prop) : Prop :=
  ∀ attempt ∈ d'.attempts.values, attempt.status = .succeeded →
    attempt ∈ d.attempts.values ∨ who attempt.id

namespace Successes

variable {who who' : TaskAttemptId → Prop} {d d' d'' : DomainStore}

theorem of_eq (same : d' = d) : Successes d d' who :=
  fun _ mem _ => .inl (same ▸ mem)

theorem mono (h : Successes d d' who) (wider : ∀ id, who id → who' id) :
    Successes d d' who' := by
  intro attempt mem succeeded
  exact (h attempt mem succeeded).imp_right (wider _)

theorem trans (h : Successes d d' who) (h' : Successes d' d'' who) : Successes d d'' who := by
  intro attempt mem succeeded
  rcases h' attempt mem succeeded with earlier | new
  · exact h attempt earlier succeeded
  · exact .inr new

end Successes

section Succeeding

variable {platform : Platform} {K : List Kind} {s s' : RuntimeStore} {w w' : World RuntimeStore}

theorem successes_served {command : Domain.Command} {d d' : DomainStore}
    (served : Served command d d') :
    Successes d d' fun id => ∃ v, command = .succeedTaskAttempt id v := by
  obtain ⟨call, accepted, ruled⟩ := served
  intro attempt mem succeeded
  exact Ruled.success_source ruled accepted mem succeeded

/-- Other writes make no attempt succeed. -/
theorem successes_writes (moved : Relation.ReflTransGen (Write K) s s') (noSucceed : .succeed ∉ K)
    {who : TaskAttemptId → Prop} : Successes s.domain s'.domain who := by
  refine writes_induct (P := fun t => Successes s.domain t.domain who) ?_ moved (.of_eq rfl)
  intro t t' write ih
  refine ih.trans ?_
  cases write with
  | domain command allowed _ d served =>
      refine (successes_served served).mono ?_
      rintro id ⟨v, rfl⟩
      exact (noSucceed allowed).elim
  | _ => exact .of_eq rfl

/-- The success of an attempt inside a transaction. -/
theorem successes_succeed {env : Env} {id : TaskAttemptId} {v : Version} {attempt : TaskAttempt}
    (h : inDomain (succeedTaskAttempt env id v) w = .ok attempt w') :
    Successes w.store.domain w'.store.domain (· = id) := by
  refine (successes_served (succeedTaskAttempt_served (inDomain_eq_ok h))).mono ?_
  rintro id ⟨v, ⟨⟩⟩
  rfl

/-- The completion of the parents makes their attempt succeed, and no other. -/
theorem completeParents_successes {env : Env} {run : AgentRun} {parents : RuntimeSnapshot}
    {u : Unit} (active : ActiveParents w.store.domain run parents)
    (h : completeParents env parents w = .ok u w') :
    Successes w.store.domain w'.store.domain (· = run.taskAttemptId) := by
  obtain ⟨attempt, w₁, succeeded, h⟩ := bind_eq_ok.mp h
  obtain ⟨_, w₂, completed, h⟩ := bind_eq_ok.mp h
  have h := getStore_then h
  have key : parents.attempt.id = run.taskAttemptId := Registry.key_of_get? active.attempt
  have first := successes_succeed succeeded
  have second : Successes w₁.store.domain w₂.store.domain (· = parents.attempt.id) :=
    successes_writes ((moves_command (K := [.domain]) .domain env (.completeTask parents.task.id
      attempt.id parents.task.version) rfl rfl).of_ok completed).2 (by simp)
  have third : Successes w₂.store.domain w'.store.domain (· = parents.attempt.id) :=
    successes_writes (Moves.of_ok (Moves.runIf fun _ => (moves_command (K := [.domain]) .domain env
      (.succeedExecution parents.execution.id parents.execution.version) rfl rfl).discard) h).2
      (by simp)
  rw [← key]
  exact (first.trans second).trans third

/-- A decision makes an attempt succeed only when it completes the run. -/
theorem decisionEffect_successes {env : Env} {host : Host} {current : AgentRun}
    {parents : RuntimeSnapshot} {decision : ModelDecision} {effect : DecisionEffect}
    (active : ActiveParents w.store.domain current parents)
    (h : decisionEffect env host current parents decision w = .ok effect w') :
    Successes w.store.domain w'.store.domain
      fun id => effect.status = .succeeded ∧ id = current.taskAttemptId := by
  cases decision with
  | completeTask findings gaps =>
      obtain ⟨_, -, h⟩ := (reads_governedActions _).then h
      obtain ⟨_, -, h⟩ := (reads_toolReceipts _ _).then h
      obtain ⟨-, h⟩ := raiseIf_then h
      obtain ⟨_, -, h⟩ := (reads_toolEvidence host current).then h
      obtain ⟨_, -, h⟩ := (reads_knowledgeEvidence host current).then h
      obtain ⟨_, -, h⟩ := (Reads.ofExcept _).then h
      obtain ⟨_, w₁, completed, h⟩ := bind_eq_ok.mp h
      obtain ⟨rfl, rfl⟩ := pure_eq_ok.mp h
      exact (completeParents_successes active completed).mono fun id same => ⟨rfl, same⟩
  | requestMoreContext missing =>
      obtain ⟨-, h⟩ := raiseIf_then h
      obtain ⟨_, w₁, waited, h⟩ := bind_eq_ok.mp h
      obtain ⟨rfl, rfl⟩ := pure_eq_ok.mp h
      exact successes_writes ((moves_command (K := [.domain]) .domain env
        (.waitExecution parents.execution.id parents.execution.version) rfl rfl).of_ok waited).2
        (by simp)
  | respond message =>
      obtain ⟨rfl, rfl⟩ := pure_eq_ok.mp h
      exact .of_eq rfl
  | callTool toolId argumentsJson =>
      obtain ⟨rfl, rfl⟩ := pure_eq_ok.mp h
      exact .of_eq rfl

/-- What makes an attempt succeed in a step: a command that names it, or the completion of
its run. -/
inductive Success (label : Label) (s' : RuntimeStore) (id : TaskAttemptId) : Prop
  | commanded (v : Version) (same : label = .command (.domain (.succeedTaskAttempt id v)))
  | completed (run : AgentRun) (found : s'.runs.get? run.id = some run)
      (attempt : run.taskAttemptId = id) (succeeded : run.status = .succeeded)

theorem Decision.successes {host : Host} {runId : AgentRunId} {decision : ModelDecision}
    {current updated : AgentRun} {parents : RuntimeSnapshot} {action : Action}
    {effect : DecisionEffect} {v v' : World RuntimeStore} {label : Label}
    (taken : Decision platform host runId decision w w' current updated parents action effect v
      v') : Successes w.store.domain w'.store.domain (Success label w'.store) := by
  have logged : v.store.domain = w.store.domain := domain_frame taken.logged (by simp) (by simp)
  obtain ⟨⟨at', o, evolved⟩, -, sameDomain⟩ := recordDecision_runs taken.recorded
  obtain ⟨stored, -⟩ := taken.step
  have new := decisionEffect_successes taken.active taken.decided
  rw [logged, ← sameDomain] at new
  refine new.mono ?_
  rintro id ⟨status, rfl⟩
  have found : w'.store.runs.get? updated.id = some updated := by
    rw [stored]
    exact Registry.get?_put_self _ updated
  refine .completed updated found ?_ ?_
  · exact (congrArg RunFields.taskAttemptId evolved.fields).trans rfl
  · rw [evolved.status_eq]
    exact status

theorem decide_successes {call : Call} (shared : Shared) {loop : Loop}
    {iteration : ClaimedIteration} (reply : Except Exc PyStr) (answers : PortAnswers)
    (label : Label) :
    Successes shared.world.store.domain (shared.decide platform call.host loop iteration
        call.frames reply answers).shared.world.store.domain
      (Success label (shared.decide platform call.host loop iteration
        call.frames reply answers).shared.world.store) := by
  unfold Shared.decide
  split
  · exact .of_eq rfl
  · split
    · exact .of_eq rfl
    · next decision parsed =>
        split
        · exact successes_writes (moves_driveToolAction (K := [.action, .audit]) _ _ _ _ _ _ _ _).2
            (by simp)
        · show Successes _ (World.after (driveAction platform call.host answers loop.workspaceId
            loop.runId iteration decision shared.world)).store.domain (Success label (World.after
              (driveAction platform call.host answers loop.workspaceId loop.runId iteration
                decision shared.world)).store)
          cases h : driveAction platform call.host answers loop.workspaceId loop.runId iteration
              decision shared.world with
          | ok updated w' =>
              obtain ⟨current, parents, action, effect, v, v', taken⟩ := driveAction_eq_ok h
              exact taken.successes
          | error e w' =>
              exact .of_eq (congrArg RuntimeStore.domain ((RollsBack.atomic _).store_eq h))

theorem Point.kinds_succeed {point : Point} (h : .succeed ∈ point.kinds) :
    ∃ loop iteration, point = .model loop iteration := by
  cases point with
  | model loop iteration => exact ⟨loop, iteration, rfl⟩
  | _ => simp [Point.kinds] at h

theorem advance_successes (shared : Shared) (call : Call) (input : Input) (label : Label) :
    Successes shared.world.store.domain
      (shared.advance platform call input).shared.world.store.domain
      (Success label (shared.advance platform call input).shared.world.store) := by
  by_cases succeeding : .succeed ∈ call.point.kinds
  · obtain ⟨loop, iteration, point⟩ := Point.kinds_succeed succeeding
    obtain ⟨id, host, _, frames⟩ := call
    obtain rfl : _ = Point.model loop iteration := point
    cases input with
    | model reply answers => exact decide_successes shared reply answers label
    | _ => exact .of_eq rfl
  · cases advance_effect platform shared call input with
    | wrote later moved => exact successes_writes moved succeeding
    | dispatched workspaceId runId action expected point later d governed v same facts =>
        exact .of_eq facts.domain_eq

theorem successes_steps {command : Domain.Command} {d d' : DomainStore}
    (steps : Relation.ReflTransGen (Served command) d d') :
    Successes d d' fun id => ∃ v, command = .succeedTaskAttempt id v := by
  induction steps with
  | refl => exact .of_eq rfl
  | tail _ served ih => exact ih.trans (successes_served served)

/-- Only attempts that `who` names succeed. -/
def succeedsOnly (who : TaskAttemptId → Prop) : Guarantee RuntimeStore :=
  .onStore (fun s s' => Successes s.domain s'.domain who) (fun _ => .of_eq rfl)
    (fun h h' => h.trans h')

/-- The successes of a domain command, whether it returns or raises. -/
theorem moves_successes (env : Env) (command : Domain.Command) :
    Moves (succeedsOnly fun id => ∃ v, command = .succeedTaskAttempt id v)
      (inDomain (command.issue env)) := by
  refine Moves.zoom (moves_served env command) fun w v _ _ steps => ?_
  exact successes_steps steps

theorem command_successes (command : HostCommand) (w : World RuntimeStore) :
    Successes w.store.domain (World.after (command.txn platform w)).store.domain
      (Success (.command command) (World.after (command.txn platform w)).store) := by
  cases kind : command.operational with
  | true =>
      obtain ⟨⟨o, same⟩, -, -⟩ := (command_operates platform command kind w).2
      refine .of_eq ?_
      rw [same]
      rfl
  | false =>
      by_cases succeeding : .succeed ∈ command.kinds
      · cases command with
        | domain command =>
            cases command with
            | succeedTaskAttempt id v =>
                have named : Successes w.store.domain (World.after (inDomain
                      (Domain.Command.issue platform.toEnv (.succeedTaskAttempt id v))
                      w)).store.domain
                    fun id' => ∃ v', Domain.Command.succeedTaskAttempt id v =
                      .succeedTaskAttempt id' v' :=
                  (moves_successes platform.toEnv _ w).2
                refine named.mono ?_
                rintro id ⟨v, ⟨⟩⟩
                exact .commanded v rfl
            | _ => simp [HostCommand.kinds, commandKind] at succeeding
        | _ => simp [HostCommand.kinds] at succeeding
      · exact successes_writes (command_writes platform command kind w).2 succeeding

/-- What a step makes succeed. -/
theorem step_successes (s : Sys) (label : Label) :
    Successes s.store.domain (s.step platform label).store.domain
      (Success label (s.step platform label).store) := by
  cases label with
  | «open» host request => exact .of_eq rfl
  | advance id input =>
      refine Sys.advance_cases (fun t => Successes s.store.domain t.store.domain
        (Success (.advance id input) t.store)) platform s id input (fun call found => ?_) ?_
      · exact advance_successes s.shared _ input _
      · exact .of_eq rfl
  | drop id => exact .of_eq rfl
  | crash => exact .of_eq rfl
  | command command => exact command_successes command s.shared.world
  | restore request =>
      show Successes s.store.domain (s.restored request).store.domain _
      have moved := moves_restore request s.shared.world
      unfold Sys.restored
      cases h : Runtime.restore request s.shared.world with
      | ok u w =>
          rw [h] at moved
          obtain ⟨⟨o, same⟩, -, -⟩ := moved.2
          exact .of_eq ((congrArg RuntimeStore.domain same).trans rfl)
      | error e w => exact .of_eq rfl

end Succeeding

/-! ## Ended runs -/

section Ended

variable {S : List Service} {s s' : RuntimeStore} {previous run : AgentRun} {service : Service}

/-- An ended run has no legal change. -/
theorem AgentRun.Evolved.open {self next : AgentRun} {at' : Instant} {change : RunChange}
    (h : AgentRun.Evolved self next at' change) : self.status.terminal = false := by
  have legal := h.legal
  cases status : self.status <;> rw [status] at legal
  · rfl
  · rfl
  all_goals cases legal

theorem RunStep.open (step : RunStep s s' previous run service) :
    previous.status.terminal = false := by
  obtain ⟨at', change, evolved⟩ := step.evolved
  exact evolved.open

theorem RunStep.attempt_eq (step : RunStep s s' previous run service) :
    run.taskAttemptId = previous.taskAttemptId := by
  obtain ⟨at', change, evolved⟩ := step.evolved
  exact (congrArg RunFields.taskAttemptId evolved.fields).trans rfl

theorem RunStep.execution_eq (step : RunStep s s' previous run service) :
    run.executionId = previous.executionId := by
  obtain ⟨at', change, evolved⟩ := step.evolved
  exact (congrArg RunFields.executionId evolved.fields).trans rfl

/-- An ended run stays as it is. -/
theorem RunsEffect.final (effect : RunsEffect S s s') {id : AgentRunId}
    (found : s.runs.get? id = some run) (ended : run.status.terminal = true) :
    s'.runs.get? id = some run := by
  obtain ⟨next, later, same | ⟨service, -, step⟩⟩ := effect.later found
  · rw [later, same]
  · rw [step.open] at ended
    cases ended

/-- What holds of any two stored runs, and of a started or changed run with any other, holds
of any two runs after a step. -/
theorem RunsEffect.pairwise {P : AgentRun → AgentRun → Prop} (sym : ∀ a b, P a b → P b a)
    (effect : RunsEffect S s s')
    (stored : ∀ a ∈ s.runs.values, ∀ b ∈ s.runs.values, a.id ≠ b.id → P a b)
    (started : ∀ run, Started s s' run → ∀ other ∈ s.runs.values, P run other)
    (stepped : ∀ previous run service, RunStep s s' previous run service →
      ∀ other, P previous other → P run other) :
    ∀ a ∈ s'.runs.values, ∀ b ∈ s'.runs.values, a.id ≠ b.id → P a b := by
  -- One new run decides the matter: two others were stored before.
  have one : ∀ new, s'.runs = s.runs.put new →
      (∀ other ∈ s.runs.values, other.id ≠ new.id → P new other) →
      ∀ a ∈ s'.runs.values, ∀ b ∈ s'.runs.values, a.id ≠ b.id → P a b := by
    intro new same holds a memA b memB apart
    rw [same] at memA memB
    rcases Registry.mem_values_put.mp memA with rfl | ⟨oldA, otherA⟩
    · rcases Registry.mem_values_put.mp memB with rfl | ⟨oldB, otherB⟩
      · exact (apart rfl).elim
      · exact holds b oldB otherB
    · rcases Registry.mem_values_put.mp memB with rfl | ⟨oldB, otherB⟩
      · exact sym _ _ (holds a oldA otherA)
      · exact stored a oldA b oldB apart
  cases effect with
  | same runs =>
      rw [runs]
      exact stored
  | started allowed new facts same =>
      exact one new same fun other mem _ => started new facts other mem
  | saved service allowed previous next present same step =>
      refine one next same fun other mem apart => ?_
      apply stepped previous next service step
      have key : AgentRun.key previous = next.id := Registry.key_of_get? present
      exact stored previous (Registry.mem_values_of_get? present) other mem fun h =>
        apart (h.symm.trans key)

end Ended

/-! ## The coupling -/

/-- A run and its parents: the attempt of a run has begun, an ended run has an ended attempt,
a succeeded run has completed its task, and no two runs share an attempt or work on one
execution. -/
structure Coupled (s : RuntimeStore) : Prop where
  begun : ∀ run ∈ s.runs.values, Begun s.domain run.taskAttemptId
  ended : ∀ run ∈ s.runs.values, run.status.terminal = true →
    ∃ attempt, s.domain.attempts.get? run.taskAttemptId = some attempt ∧
      attempt.status.terminal = true
  succeeded : ∀ run ∈ s.runs.values, run.status = .succeeded → Completed s.domain run
  single : ∀ a ∈ s.runs.values, ∀ b ∈ s.runs.values, a.id ≠ b.id →
    a.taskAttemptId ≠ b.taskAttemptId
  active : ∀ a ∈ s.runs.values, ∀ b ∈ s.runs.values, a.id ≠ b.id →
    a.executionId = b.executionId → a.status.terminal = true ∨ b.status.terminal = true

section Coupling

variable {platform : Platform} {S : List Service} {s s' : RuntimeStore}
  {previous run : AgentRun} {service : Service}

/-- A completion is never taken back. -/
theorem Completed.later {d d' : DomainStore} (h : Completed d run) (extends' : Extends d d') :
    Completed d' run := by
  obtain ⟨⟨attempt, foundAttempt, succeeded⟩, task, foundTask, completed⟩ := h
  have attemptKey : attempt.id = run.taskAttemptId := Registry.key_of_get? foundAttempt
  have taskKey : task.id = run.taskId := Registry.key_of_get? foundTask
  have keptAttempt := extends'.ended_attempt (Registry.mem_values_of_get? foundAttempt)
    (by rw [succeeded]; rfl)
  have keptTask := extends'.completed_task (Registry.mem_values_of_get? foundTask) completed
  rw [attemptKey] at keptAttempt
  rw [taskKey] at keptTask
  exact ⟨⟨attempt, keptAttempt, succeeded⟩, task, keptTask, completed⟩

/-- A step that ends a run ends its attempt. -/
theorem RunStep.ended (step : RunStep s s' previous run service)
    (begun : Begun s.domain previous.taskAttemptId) (ended : run.status.terminal = true) :
    ∃ attempt, s'.domain.attempts.get? run.taskAttemptId = some attempt ∧
      attempt.status.terminal = true := by
  have attempt := step.attempt_eq
  have stillOpen := step.open
  rw [attempt]
  cases step with
  | decided at' effect o evolved status completed =>
      have reached : run.status = effect.status := evolved.status_eq
      rw [reached] at ended
      have succeeded : effect.status = .succeeded := by
        rcases status with status | status | status
        · rw [status] at ended
          cases ended
        · rw [status] at ended
          cases ended
        · exact status
      obtain ⟨attempt, found, succeeded⟩ := (completed succeeded).attempt
      exact ⟨attempt, found, by rw [succeeded]; rfl⟩
  | failed at' code cancelled o evolved facts =>
      obtain ⟨before, after, found, foundAfter, running, kept⟩ := facts.ended
      obtain ⟨attempt, foundAttempt, notCreated⟩ := begun
      obtain rfl := Option.some.inj (found.symm.trans foundAttempt)
      refine ⟨after, foundAfter, ?_⟩
      cases status : before.status with
      | created => exact (notCreated status).elim
      | running =>
          rcases running status with status | status <;> rw [status] <;> rfl
      | _ =>
          have settled : before.status.terminal = true := by rw [status]; rfl
          rw [kept settled]
          exact settled
  | approval at' status either evolved =>
      have reached : run.status = status := evolved.status_eq
      rw [reached] at ended
      rcases either with status | status <;> rw [status] at ended <;> cases ended
  | supplied at' context o evolved =>
      have reached : run.status = .running := evolved.status_eq
      rw [reached] at ended
      cases ended
  | claimed at' idle evolved | dispatched at' evolved | observed at' o evolved
  | retrieved at' evidence memory evolved =>
      have reached : run.status = previous.status := evolved.status_eq
      rw [reached, stillOpen] at ended
      cases ended

/-- A step that makes a run succeed has completed its parents. -/
theorem RunStep.succeeded (step : RunStep s s' previous run service)
    (succeeded : run.status = .succeeded) : Completed s'.domain run := by
  have stillOpen := step.open
  have attempt := step.attempt_eq
  cases step with
  | decided at' effect o evolved status completed =>
      have reached : run.status = effect.status := evolved.status_eq
      obtain ⟨foundAttempt, foundTask⟩ := completed (reached.symm.trans succeeded)
      have task : run.taskId = previous.taskId :=
        (congrArg RunFields.taskId evolved.fields).trans rfl
      rw [← attempt] at foundAttempt
      rw [← task] at foundTask
      exact ⟨foundAttempt, foundTask⟩
  | failed at' code cancelled o evolved facts =>
      have reached : run.status = failedStatus cancelled := evolved.status_eq
      rw [succeeded] at reached
      unfold failedStatus at reached
      split at reached <;> cases reached
  | approval at' status either evolved =>
      have reached : run.status = status := evolved.status_eq
      rw [succeeded] at reached
      rcases either with status | status <;> rw [status] at reached <;> cases reached
  | supplied at' context o evolved =>
      have reached : run.status = .running := evolved.status_eq
      rw [succeeded] at reached
      cases reached
  | claimed at' idle evolved | dispatched at' evolved | observed at' o evolved
  | retrieved at' evidence memory evolved =>
      have reached : run.status = previous.status := evolved.status_eq
      rw [← reached, succeeded] at stillOpen
      cases stillOpen

theorem Coupled.step {s : Sys} (h : Coupled s.store) (label : Label) :
    Coupled (s.step platform label).store := by
  have effect := step_runs platform s label
  have store := step_effect platform s label
  have later : Extends s.store.domain (s.step platform label).store.domain := store.extends
  refine ⟨?_, ?_, ?_, ?_, ?_⟩
  · intro run mem
    apply store.begun
    cases effect.source (Registry.get?_of_mem_values mem) with
    | kept present => exact h.begun run (Registry.mem_values_of_get? present)
    | started allowed facts =>
        obtain ⟨attempt, found, running⟩ := facts.attempt
        exact ⟨attempt, found, by rw [running]; simp⟩
    | stepped service allowed previous present step =>
        rw [step.attempt_eq]
        exact h.begun previous (Registry.mem_values_of_get? present)
  · intro run mem ended
    cases effect.source (Registry.get?_of_mem_values mem) with
    | kept present =>
        obtain ⟨attempt, found, settled⟩ := h.ended run (Registry.mem_values_of_get? present) ended
        have key : attempt.id = run.taskAttemptId := Registry.key_of_get? found
        refine ⟨attempt, ?_, settled⟩
        rw [← key]
        exact later.ended_attempt (Registry.mem_values_of_get? found) settled
    | started allowed facts =>
        rw [facts.running] at ended
        cases ended
    | stepped service allowed previous present step =>
        exact step.ended (h.begun previous (Registry.mem_values_of_get? present)) ended
  · intro run mem succeeded
    cases effect.source (Registry.get?_of_mem_values mem) with
    | kept present =>
        exact (h.succeeded run (Registry.mem_values_of_get? present) succeeded).later later
    | started allowed facts =>
        cases facts.running.symm.trans succeeded
    | stepped service allowed previous present step => exact step.succeeded succeeded
  · refine effect.pairwise (P := fun a b => a.taskAttemptId ≠ b.taskAttemptId)
      (fun a b apart => apart.symm) h.single ?_ ?_
    · exact fun run facts other mem same => facts.alone other mem same.symm
    · intro previous run service step other apart
      rw [step.attempt_eq]
      exact apart
  · refine effect.pairwise (P := fun a b => a.executionId = b.executionId →
      a.status.terminal = true ∨ b.status.terminal = true) ?_ h.active ?_ ?_
    · exact fun a b holds same => (holds same.symm).symm
    · exact fun run facts other mem same => .inr (facts.inactive other mem same.symm)
    · intro previous run service step other holds same
      rw [step.execution_eq] at same
      rcases holds same with settled | settled
      · rw [step.open] at settled
        cases settled
      · exact .inr settled

theorem Coupled.after (platform : Platform) (labels : List Label) :
    Coupled (Sys.after platform labels).store := by
  refine Sys.run_keeps (P := fun s => Coupled s.store) (fun s label h => h.step label) ?_ labels
  constructor <;> intro run mem <;> cases mem

end Coupling

/-! ## Runs and their parents stay coupled -/

/-- No command of the host makes an attempt succeed that has a run. -/
def SucceedsByDrive (platform : Platform) (labels : List Label) : Prop :=
  ∀ before id v after, labels = before ++ .command (.domain (.succeedTaskAttempt id v)) :: after →
    ∀ run ∈ (Sys.after platform before).store.runs.values, run.taskAttemptId ≠ id

section History

variable {platform : Platform}

/-- An ended run is the same in every later state. -/
theorem ended_stays (labels more : List Label) {run : AgentRun}
    (mem : run ∈ (Sys.after platform labels).store.runs.values)
    (ended : run.status.terminal = true) :
    (Sys.after platform (labels ++ more)).store.runs.get? run.id = some run := by
  have kept : (Sys.run platform (Sys.after platform labels) more).store.runs.get? run.id =
      some run := by
    refine Sys.run_keeps (P := fun s => s.store.runs.get? run.id = some run) ?_ ?_ more
    · intro s label found
      exact (step_runs platform s label).final found ended
    · exact Registry.get?_of_mem_values mem
  rw [← Sys.run_append] at kept
  exact kept

/-- When only drives make the attempts of runs succeed, a succeeded attempt has a succeeded
run. -/
theorem succeeded_of_attempt {labels : List Label} (byDrive : SucceedsByDrive platform labels)
    {run : AgentRun} (mem : run ∈ (Sys.after platform labels).store.runs.values)
    {attempt : TaskAttempt}
    (found : (Sys.after platform labels).store.domain.attempts.get? run.taskAttemptId =
      some attempt) (succeeded : attempt.status = .succeeded) : run.status = .succeeded := by
  induction labels using List.reverseRecOn generalizing run attempt with
  | nil => cases mem
  | append_singleton labels label ih =>
      have earlier : SucceedsByDrive platform labels := by
        intro before id v after same
        apply byDrive before id v (after ++ [label])
        rw [same]
        simp
      have coupled := Coupled.after platform (labels ++ [label])
      rw [Sys.after_concat] at mem found coupled
      have effect := step_runs platform (Sys.after platform labels) label
      have key : attempt.id = run.taskAttemptId := Registry.key_of_get? found
      -- A run whose attempt had succeeded before this step had succeeded with it.
      have before : attempt ∈ (Sys.after platform labels).store.domain.attempts.values →
          run.status = .succeeded := by
        intro stored
        have foundBefore : (Sys.after platform labels).store.domain.attempts.get?
            run.taskAttemptId = some attempt := key ▸ Registry.get?_of_mem_values stored
        cases effect.source (Registry.get?_of_mem_values mem) with
        | kept present =>
            exact ih earlier (Registry.mem_values_of_get? present) foundBefore succeeded
        | started allowed facts =>
            obtain ⟨other, foundOther, running⟩ := facts.attempt
            obtain rfl := Option.some.inj (foundOther.symm.trans foundBefore)
            cases running.symm.trans succeeded
        | stepped service allowed previous present step =>
            rw [step.attempt_eq] at foundBefore
            have settled := ih earlier (Registry.mem_values_of_get? present) foundBefore succeeded
            have stillOpen := step.open
            rw [settled] at stillOpen
            cases stillOpen
      rcases step_successes (Sys.after platform labels) label attempt
          (Registry.mem_values_of_get? found) succeeded with stored | new
      · exact before stored
      · cases new with
        | commanded v same =>
            subst same
            have none := byDrive labels attempt.id v [] rfl
            cases effect.source (Registry.get?_of_mem_values mem) with
            | kept present =>
                exact (none run (Registry.mem_values_of_get? present) key.symm).elim
            | started allowed facts => cases allowed
            | stepped service allowed previous present step => cases allowed
        | completed other foundOther ofAttempt settled =>
            by_cases same : run.id = other.id
            · have here := Registry.get?_of_mem_values mem
              change _ = some run at here
              have there : (Sys.step platform (Sys.after platform labels) label).store.runs.get?
                  (AgentRun.key run) = some other := by
                show _ = some other
                rw [show AgentRun.key run = other.id from same]
                exact foundOther
              obtain rfl := Option.some.inj (here.symm.trans there)
              exact settled
            · exact (coupled.single run mem other (Registry.mem_values_of_get? foundOther) same
                (key.symm.trans ofAttempt.symm)).elim

end History

/-- In every reachable state an ended run has an ended attempt and a succeeded run has
completed its attempt and its task; an ended run never changes; no two runs share an
attempt, and no two open ones an execution; and where only drives make the attempts of runs
succeed, a failed or cancelled run has no succeeded attempt. -/
theorem runs_coupled (platform : Platform) (labels : List Label) :
    (∀ run ∈ (Sys.after platform labels).store.runs.values, run.status.terminal = true →
      ∃ attempt, (Sys.after platform labels).store.domain.attempts.get? run.taskAttemptId =
        some attempt ∧ attempt.status.terminal = true) ∧
    (∀ run ∈ (Sys.after platform labels).store.runs.values, run.status = .succeeded →
      Completed (Sys.after platform labels).store.domain run) ∧
    (∀ more, ∀ run ∈ (Sys.after platform labels).store.runs.values, run.status.terminal = true →
      (Sys.after platform (labels ++ more)).store.runs.get? run.id = some run) ∧
    (∀ a ∈ (Sys.after platform labels).store.runs.values,
      ∀ b ∈ (Sys.after platform labels).store.runs.values, a.id ≠ b.id →
        a.taskAttemptId ≠ b.taskAttemptId ∧ (a.executionId = b.executionId →
          a.status.terminal = true ∨ b.status.terminal = true)) ∧
    (SucceedsByDrive platform labels → ∀ run ∈ (Sys.after platform labels).store.runs.values,
      run.status = .failed ∨ run.status = .cancelled →
        ∀ attempt, (Sys.after platform labels).store.domain.attempts.get? run.taskAttemptId =
          some attempt → attempt.status ≠ .succeeded) := by
  have coupled := Coupled.after platform labels
  refine ⟨coupled.ended, coupled.succeeded, ?_, ?_, ?_⟩
  · intro more run mem ended
    exact ended_stays labels more mem ended
  · intro a memA b memB apart
    exact ⟨coupled.single a memA b memB apart, coupled.active a memA b memB apart⟩
  · intro byDrive run mem failed attempt found succeeded
    have settled := succeeded_of_attempt byDrive mem found succeeded
    rcases failed with status | status <;> rw [settled] at status <;> cases status

end AgentCompanyOS.Runtime
