import AgentCompanyOS.Domain.Lineage

/-!
# Outcomes

A satisfied goal, a completed task and a succeeded execution are finished: no call changes
them again. `Earned` says what each of them stands on. Every condition is checked by one
command only, and the step lemma shows that no other command disturbs it.

What `complete_task` does not check is whether the accepted attempt is the latest one of the
task: `completed_with_live_attempt` is a run in which a completed task has an attempt that is
still open, and `finished_of_latest` says when this cannot happen.
-/

set_option autoImplicit false

namespace AgentCompanyOS.Domain

open Foundation Foundation.Txn

/-- What the outcomes of a store stand on. -/
structure Earned (store : DomainStore) : Prop where
  goals : ∀ goal ∈ store.goals.values, goal.status = .satisfied →
    store.tasksForGoal goal.id ≠ [] ∧
      ∀ task ∈ store.tasksForGoal goal.id, task.status = .completed
  tasks : ∀ task ∈ store.tasks.values, task.status = .completed →
    ∃ attempt ∈ store.attempts.values, attempt.taskId = task.id ∧
      attempt.workspaceId = task.workspaceId ∧ attempt.status = .succeeded
  executions : ∀ execution ∈ store.executions.values, execution.status = .succeeded →
    ∀ attempt ∈ store.attemptsForExecution execution.id, attempt.status.terminal = true

theorem mem_tasksForGoal {store : DomainStore} {goalId : GoalId} {task : Task} :
    task ∈ store.tasksForGoal goalId ↔ task ∈ store.tasks.values ∧ task.goalId = goalId := by
  simp [DomainStore.tasksForGoal]

theorem mem_attemptsForExecution {store : DomainStore} {executionId : ExecutionId}
    {attempt : TaskAttempt} : attempt ∈ store.attemptsForExecution executionId ↔
      attempt ∈ store.attempts.values ∧ attempt.executionId = executionId := by
  simp [DomainStore.attemptsForExecution]

section Later

variable {store later : DomainStore}

/-- A completed task is never changed. -/
theorem Extends.completed_task (h : Extends store later) {task : Task}
    (mem : task ∈ store.tasks.values) (completed : task.status = .completed) :
    later.tasks.get? task.id = some task := by
  obtain ⟨after, found, follows⟩ := h.tasks.later (Registry.get?_of_mem_values mem)
  have final : TaskStatus.allowed task.status = [] := by rw [completed]; rfl
  rw [follows.final final] at found
  exact found

theorem final_of_terminal {status : TaskAttemptStatus} (ended : status.terminal = true) :
    TaskAttemptStatus.allowed status = [] := by
  cases status <;> simp [TaskAttemptStatus.terminal] at ended <;> rfl

/-- An ended attempt is never changed. -/
theorem Extends.ended_attempt (h : Extends store later) {attempt : TaskAttempt}
    (mem : attempt ∈ store.attempts.values) (ended : attempt.status.terminal = true) :
    later.attempts.get? attempt.id = some attempt := by
  obtain ⟨after, found, follows⟩ := h.attempts.later (Registry.get?_of_mem_values mem)
  rw [follows.final (final_of_terminal ended)] at found
  exact found

end Later

/-! ## What a served call adds -/

section Sources

variable {store : DomainStore} {command : Command} {call : StoreCall}

/-- A task after a served call was there, or it is proposed for an active goal. -/
theorem Ruled.task_source (ruled : Ruled store command call) (accepted : Accepted store call)
    {task : Task} (mem : task ∈ (call.result store).tasks.values) :
    (∃ old ∈ store.tasks.values, Follows Task.origin old task) ∨
      (task.status = .proposed ∧
        ∃ goal, store.goals.get? task.goalId = some goal ∧ goal.status = .active) := by
  cases accepted with
  | addTask addable =>
      rcases Registry.mem_values_put.mp mem with rfl | ⟨mem, -⟩
      · exact .inr ruled
      · exact .inl ⟨task, mem, .refl task⟩
  | saveTask current savable => exact .inl (savable.follows_of_mem Task.origin_eq mem)
  | _ => exact .inl ⟨task, mem, .refl task⟩

/-- An attempt after a served call was there, or it was created for a task in progress under
a running execution. -/
theorem Ruled.attempt_source (ruled : Ruled store command call) (accepted : Accepted store call)
    {attempt : TaskAttempt} (mem : attempt ∈ (call.result store).attempts.values) :
    (∃ old ∈ store.attempts.values, Follows TaskAttempt.origin old attempt) ∨
      ((∃ task, store.tasks.get? attempt.taskId = some task ∧ task.status = .inProgress) ∧
        ∃ execution, store.executions.get? attempt.executionId = some execution ∧
          execution.status = .running) := by
  cases accepted with
  | addTaskAttempt addable =>
      rcases Registry.mem_values_put.mp mem with rfl | ⟨mem, -⟩
      · exact .inr ruled.2
      · exact .inl ⟨attempt, mem, .refl attempt⟩
  | saveTaskAttempt current savable =>
      exact .inl (savable.follows_of_mem TaskAttempt.origin_eq mem)
  | _ => exact .inl ⟨attempt, mem, .refl attempt⟩

/-- A goal that is satisfied after a served call was so before, or this call has checked its
tasks. -/
theorem Ruled.satisfied_source (ruled : Ruled store command call) (accepted : Accepted store call)
    {goal : Goal} (mem : goal ∈ (call.result store).goals.values)
    (satisfied : goal.status = .satisfied) :
    goal ∈ store.goals.values ∨ ((call.result store).tasks = store.tasks ∧
      store.tasksForGoal goal.id ≠ [] ∧
        ∀ task ∈ store.tasksForGoal goal.id, task.status = .completed) := by
  cases accepted with
  | addGoal addable =>
      rcases Registry.mem_values_put.mp mem with rfl | ⟨mem, -⟩
      · cases ruled.symm.trans satisfied
      · exact .inl mem
  | saveGoal current savable =>
      rcases Registry.mem_values_put.mp mem with rfl | ⟨mem, -⟩
      · exact .inr ⟨rfl, ruled satisfied⟩
      · exact .inl mem
  | _ => exact .inl mem

/-- A task that is completed after a served call was so before, or this call is the
completion and has found a succeeded attempt. -/
theorem Ruled.completed_source (ruled : Ruled store command call) (accepted : Accepted store call)
    {task : Task} (mem : task ∈ (call.result store).tasks.values)
    (completed : task.status = .completed) :
    task ∈ store.tasks.values ∨ ∃ current attemptId attempt v,
      (call.result store).attempts = store.attempts ∧ command = .completeTask task.id attemptId v ∧
      store.tasks.get? task.id = some current ∧ current.version = v ∧
      current.status = .inProgress ∧ store.attempts.get? attemptId = some attempt ∧
      attempt.taskId = task.id ∧ attempt.workspaceId = task.workspaceId ∧
      attempt.status = .succeeded := by
  cases accepted with
  | addTask addable =>
      rcases Registry.mem_values_put.mp mem with rfl | ⟨mem, -⟩
      · cases ruled.1.symm.trans completed
      · exact .inl mem
  | saveTask current savable =>
      rename_i entity v transition event
      rcases Registry.mem_values_put.mp mem with rfl | ⟨mem, -⟩
      · obtain ⟨attemptId, attempt, named, found, own, workspace, succeeded⟩ := ruled completed
        have legal : task.status ∈ current.status.allowed := savable.legal
        have inProgress : current.status = .inProgress := by
          rw [completed] at legal
          cases status : current.status <;> simp [status, TaskStatus.allowed] at legal ⊢
        exact .inr ⟨current, attemptId, attempt, v, rfl, named, savable.present,
          savable.currentVersion, inProgress, found, own, workspace, succeeded⟩
      · exact .inl mem
  | _ => exact .inl mem

/-- An execution that has succeeded after a served call had done so before, or this call has
checked its attempts. -/
theorem Ruled.succeeded_source (ruled : Ruled store command call) (accepted : Accepted store call)
    {execution : Execution} (mem : execution ∈ (call.result store).executions.values)
    (succeeded : execution.status = .succeeded) :
    execution ∈ store.executions.values ∨ ((call.result store).attempts = store.attempts ∧
      ∀ attempt ∈ store.attemptsForExecution execution.id, attempt.status.terminal = true) := by
  cases accepted with
  | addExecution addable =>
      rcases Registry.mem_values_put.mp mem with rfl | ⟨mem, -⟩
      · cases ruled.1.symm.trans succeeded
      · exact .inl mem
  | saveExecution current savable =>
      rcases Registry.mem_values_put.mp mem with rfl | ⟨mem, -⟩
      · exact .inr ⟨rfl, ruled succeeded⟩
      · exact .inl mem
  | _ => exact .inl mem

/-- An attempt that has succeeded after a served call had done so before, or this call is
its success. -/
theorem Ruled.success_source (ruled : Ruled store command call) (accepted : Accepted store call)
    {attempt : TaskAttempt} (mem : attempt ∈ (call.result store).attempts.values)
    (succeeded : attempt.status = .succeeded) :
    attempt ∈ store.attempts.values ∨ ∃ v, command = .succeedTaskAttempt attempt.id v := by
  cases accepted with
  | addTaskAttempt addable =>
      rcases Registry.mem_values_put.mp mem with rfl | ⟨mem, -⟩
      · cases ruled.1.symm.trans succeeded
      · exact .inl mem
  | saveTaskAttempt current savable =>
      rcases Registry.mem_values_put.mp mem with rfl | ⟨mem, -⟩
      · exact .inr ⟨_, ruled succeeded⟩
      · exact .inl mem
  | _ => exact .inl mem

/-- An attempt that is new to its lifecycle after an accepted call was so before, or it was
not stored. -/
theorem Accepted.created_source (accepted : Accepted store call) {attempt : TaskAttempt}
    (mem : attempt ∈ (call.result store).attempts.values) (created : attempt.status = .created) :
    attempt ∈ store.attempts.values ∨ store.attempts.get? attempt.id = none := by
  cases accepted with
  | addTaskAttempt addable =>
      rcases Registry.mem_values_put.mp mem with rfl | ⟨mem, -⟩
      · exact .inr addable.absent
      · exact .inl mem
  | saveTaskAttempt current savable =>
      rcases Registry.mem_values_put.mp mem with rfl | ⟨mem, -⟩
      · have legal : attempt.status ∈ current.status.allowed := savable.legal
        rw [created] at legal
        cases status : current.status <;> simp [status, TaskAttemptStatus.allowed] at legal
      · exact .inl mem
  | _ => exact .inl mem

end Sources

/-! ## Outcomes stay earned -/

section Steps

variable {store : DomainStore} {command : Command} {call : StoreCall}

theorem earned_empty : Earned .empty := by
  constructor <;> intro e mem <;> cases mem

theorem Earned.goals_step (earned : Earned store) (ruled : Ruled store command call)
    (accepted : Accepted store call) {goal : Goal}
    (mem : goal ∈ (call.result store).goals.values) (satisfied : goal.status = .satisfied) :
    (call.result store).tasksForGoal goal.id ≠ [] ∧
      ∀ task ∈ (call.result store).tasksForGoal goal.id, task.status = .completed := by
  rcases ruled.satisfied_source accepted mem satisfied with before | ⟨same, rule⟩
  · obtain ⟨nonempty, completed⟩ := earned.goals goal before satisfied
    constructor
    · obtain ⟨task, own⟩ := List.exists_mem_of_ne_nil _ nonempty
      obtain ⟨stored, ofGoal⟩ := mem_tasksForGoal.mp own
      have later := accepted.extends.completed_task stored (completed task own)
      exact List.ne_nil_of_mem (mem_tasksForGoal.mpr ⟨Registry.mem_values_of_get? later, ofGoal⟩)
    · intro task own
      obtain ⟨stored, ofGoal⟩ := mem_tasksForGoal.mp own
      rcases ruled.task_source accepted stored with ⟨old, stored, follows⟩ |
        ⟨-, other, found, active⟩
      · have sameGoal : task.goalId = old.goalId := congrArg (fun o => o.2.2.1) follows.origin
        have done := completed old (mem_tasksForGoal.mpr ⟨stored, sameGoal ▸ ofGoal⟩)
        have final : TaskStatus.allowed old.status = [] := by rw [done]; rfl
        rw [follows.final final]
        exact done
      · -- A new task belongs to an active goal, and this one is satisfied.
        rw [ofGoal, Registry.get?_of_mem_values before] at found
        obtain rfl := Option.some.inj found
        cases satisfied.symm.trans active
  · simpa only [DomainStore.tasksForGoal, same] using rule

theorem Earned.tasks_step (earned : Earned store) (ruled : Ruled store command call)
    (accepted : Accepted store call) {task : Task}
    (mem : task ∈ (call.result store).tasks.values) (completed : task.status = .completed) :
    ∃ attempt ∈ (call.result store).attempts.values, attempt.taskId = task.id ∧
      attempt.workspaceId = task.workspaceId ∧ attempt.status = .succeeded := by
  have before : ∃ attempt ∈ store.attempts.values, attempt.taskId = task.id ∧
      attempt.workspaceId = task.workspaceId ∧ attempt.status = .succeeded := by
    rcases ruled.completed_source accepted mem completed with stored | found
    · exact earned.tasks task stored completed
    · obtain ⟨_, _, attempt, _, -, -, -, -, -, found, own, workspace, succeeded⟩ := found
      exact ⟨attempt, Registry.mem_values_of_get? found, own, workspace, succeeded⟩
  obtain ⟨attempt, stored, own, workspace, succeeded⟩ := before
  have ended : attempt.status.terminal = true := by rw [succeeded]; rfl
  have later := accepted.extends.ended_attempt stored ended
  exact ⟨attempt, Registry.mem_values_of_get? later, own, workspace, succeeded⟩

theorem Earned.executions_step (earned : Earned store) (ruled : Ruled store command call)
    (accepted : Accepted store call) {execution : Execution}
    (mem : execution ∈ (call.result store).executions.values)
    (succeeded : execution.status = .succeeded) {attempt : TaskAttempt}
    (own : attempt ∈ (call.result store).attemptsForExecution execution.id) :
    attempt.status.terminal = true := by
  rcases ruled.succeeded_source accepted mem succeeded with before | ⟨same, rule⟩
  · obtain ⟨stored, ofExecution⟩ := mem_attemptsForExecution.mp own
    rcases ruled.attempt_source accepted stored with ⟨old, stored, follows⟩ |
      ⟨-, other, found, running⟩
    · have sameExecution : attempt.executionId = old.executionId :=
        congrArg (fun o => o.2.2.2.1) follows.origin
      have ended := earned.executions execution before succeeded old
        (mem_attemptsForExecution.mpr ⟨stored, sameExecution ▸ ofExecution⟩)
      rw [follows.final (final_of_terminal ended)]
      exact ended
    · -- A new attempt belongs to a running execution, and this one has succeeded.
      rw [ofExecution, Registry.get?_of_mem_values before] at found
      obtain rfl := Option.some.inj found
      cases succeeded.symm.trans running
  · apply rule attempt
    simpa only [DomainStore.attemptsForExecution, same] using own

/-- A served command keeps the outcomes earned. -/
theorem Earned.step {later : DomainStore} (served : Served command store later)
    (earned : Earned store) : Earned later := by
  obtain ⟨call, accepted, ruled⟩ := served
  exact ⟨fun _ mem => earned.goals_step ruled accepted mem,
    fun _ mem => earned.tasks_step ruled accepted mem,
    fun _ mem succeeded _ => earned.executions_step ruled accepted mem succeeded⟩

theorem Linked.serve {later : DomainStore} (linked : Linked store)
    (served : Served command store later) : Linked later := by
  obtain ⟨call, accepted, -⟩ := served
  exact linked.step accepted

theorem Bounded.serve {later : DomainStore} (bounded : Bounded store)
    (served : Served command store later) (linked : Linked store) : Bounded later := by
  obtain ⟨call, accepted, -⟩ := served
  exact bounded.step linked accepted

end Steps

/-- After any commands, each of which may have raised, the outcomes are earned and every
entity is linked to its parents, and whatever commands follow they still are: a satisfied
goal, a completed task, a succeeded execution and a succeeded attempt are the same records
later. -/
theorem runCommands_earned (env : Env) (commands more : List Command) :
    let store := (runCommands env commands emptyWorld).store
    let later := (runCommands env more (runCommands env commands emptyWorld)).store
    (Earned store ∧ Linked store) ∧ (Earned later ∧ Linked later) ∧ Extends store later := by
  intro store later
  have earned : Earned store := runCommands_keeps Earned.step env commands earned_empty
  have linked : Linked store :=
    runCommands_keeps (fun served linked => linked.serve served) env commands linked_empty
  exact ⟨⟨earned, linked⟩, ⟨runCommands_keeps Earned.step env more earned,
      runCommands_keeps (fun served linked => linked.serve served) env more linked⟩,
    runCommands_extends env more _⟩

/-! ## Attempts of a completed task -/

/-- No attempt of a completed task is still open. -/
def Finished (store : DomainStore) : Prop :=
  ∀ task ∈ store.tasks.values, task.status = .completed →
    ∀ attempt ∈ store.attemptsForTask task.id, attempt.status.terminal = true

/-- A `complete_task` that meets the checks of the code names the latest attempt of the
task. -/
def NamesLatest (store : DomainStore) : Command → Prop
  | .completeTask id attemptId expectedVersion =>
      ∀ task ∈ store.tasks.get? id, ∀ attempt ∈ store.attempts.get? attemptId,
        task.version = expectedVersion ∧ task.status = .inProgress ∧ attempt.taskId = id ∧
          attempt.workspaceId = task.workspaceId ∧ attempt.status = .succeeded →
        (store.attemptsForTask id).getLast? = some attempt
  | _ => True

instance (store : DomainStore) (command : Command) : Decidable (NamesLatest store command) := by
  cases command with
  | completeTask => exact inferInstanceAs (Decidable (∀ task ∈ _, _))
  | _ => exact instDecidableTrue

instance (store : DomainStore) : Decidable (Finished store) :=
  inferInstanceAs (Decidable (∀ task ∈ store.tasks.values, _))

/-- Every command of a run meets a condition on the store that it is issued on. -/
def EveryCommand (P : DomainStore → Command → Prop) (env : Env) :
    World DomainStore → List Command → Prop
  | _, [] => True
  | w, command :: rest =>
      P w.store command ∧ EveryCommand P env (World.after (command.issue env w)) rest

instance EveryCommand.decidable (P : DomainStore → Command → Prop) [∀ s c, Decidable (P s c)]
    (env : Env) : ∀ w commands, Decidable (EveryCommand P env w commands)
  | _, [] => instDecidableTrue
  | w, command :: rest =>
      have := EveryCommand.decidable P env (World.after (command.issue env w)) rest
      inferInstanceAs (Decidable (_ ∧ _))

theorem mem_attemptsForTask {store : DomainStore} {taskId : TaskId} {attempt : TaskAttempt} :
    attempt ∈ store.attemptsForTask taskId ↔
      attempt ∈ store.attempts.values ∧ attempt.taskId = taskId := by
  simp [DomainStore.attemptsForTask, List.mem_insertionSort]

/-- In a lineage that ends with an ended attempt, all attempts have ended. -/
theorem Lineage.all_ended {attempts : List TaskAttempt} (h : Lineage attempts)
    {last : TaskAttempt} (latest : attempts.getLast? = some last)
    (ended : last.status.terminal = true) : ∀ a ∈ attempts, a.status.terminal = true := by
  intro a mem
  rw [← List.dropLast_append_getLast? last latest] at mem
  rcases List.mem_append.mp mem with early | here
  · exact h.ended a early
  · rw [List.mem_singleton.mp here]
    exact ended

section Completion

variable {store : DomainStore} {command : Command}

/-- A completion that meets the checks of the code finds every attempt of the task ended when
it names the latest one. -/
theorem NamesLatest.all_ended {id : TaskId} {attemptId : TaskAttemptId} {v : Version}
    (latest : NamesLatest store (.completeTask id attemptId v)) (bounded : Bounded store)
    {task : Task} {attempt : TaskAttempt} (foundTask : store.tasks.get? id = some task)
    (found : store.attempts.get? attemptId = some attempt) (version : task.version = v)
    (inProgress : task.status = .inProgress) (own : attempt.taskId = id)
    (workspace : attempt.workspaceId = task.workspaceId) (succeeded : attempt.status = .succeeded) :
    (store.attemptsForTask id).getLast? = some attempt ∧
      ∀ a ∈ store.attemptsForTask id, a.status.terminal = true := by
  have last := latest task foundTask attempt found
    ⟨version, inProgress, own, workspace, succeeded⟩
  have ended : attempt.status.terminal = true := by rw [succeeded]; rfl
  refine ⟨last, ?_⟩
  rw [bounded.attemptsForTask_eq] at last ⊢
  exact (bounded.lineage id).all_ended last ended

/-- A served command that names the latest attempt leaves completed tasks without open
attempts. -/
theorem Finished.step {later : DomainStore} (finished : Finished store) (bounded : Bounded store)
    (latest : NamesLatest store command) (served : Served command store later) :
    Finished later := by
  obtain ⟨call, accepted, ruled⟩ := served
  intro task mem completed attempt own
  obtain ⟨stored, ofTask⟩ := mem_attemptsForTask.mp own
  rcases ruled.completed_source accepted mem completed with before | completion
  · rcases ruled.attempt_source accepted stored with ⟨old, stored, follows⟩ |
      ⟨⟨other, found, open'⟩, -⟩
    · have sameTask : attempt.taskId = old.taskId := congrArg (fun o => o.2.2.1) follows.origin
      have ended := finished task before completed old
        (mem_attemptsForTask.mpr ⟨stored, sameTask ▸ ofTask⟩)
      rw [follows.final (final_of_terminal ended)]
      exact ended
    · -- A new attempt belongs to a task in progress, and this one is completed.
      rw [ofTask, Registry.get?_of_mem_values before] at found
      obtain rfl := Option.some.inj found
      cases completed.symm.trans open'
  · obtain ⟨current, attemptId, named, v, same, rfl, foundTask, version, inProgress, found, ofNamed,
      workspace, succeeded⟩ := completion
    have sameWorkspace : task.workspaceId = current.workspaceId := by
      obtain ⟨after, later, follows⟩ := accepted.extends.tasks.later foundTask
      rw [Registry.get?_of_mem_values mem] at later
      obtain rfl := Option.some.inj later
      exact congrArg (fun o => o.2.1) follows.origin
    refine (latest.all_ended bounded foundTask found version inProgress ofNamed
      (workspace.trans sameWorkspace) succeeded).2 attempt ?_
    exact mem_attemptsForTask.mpr ⟨same ▸ stored, ofTask⟩

end Completion

/-- The checks that a completion has passed. -/
theorem completeTask_checks {env : Env} {id : TaskId} {attemptId : TaskAttemptId} {v : Version}
    {task' : Task} {w w' : World DomainStore}
    (h : completeTask env id attemptId v w = .ok task' w') :
    ∃ task attempt, w.store.tasks.get? id = some task ∧
      w.store.attempts.get? attemptId = some attempt ∧ task.version = v ∧
      task.status = .inProgress ∧ attempt.taskId = id ∧
      attempt.workspaceId = task.workspaceId ∧ attempt.status = .succeeded := by
  have h := atomic_eq_ok.mp h
  obtain ⟨task, found, h⟩ := getEntity_then h
  obtain ⟨attempt, foundAttempt, h⟩ := getEntity_then h
  obtain ⟨version, h⟩ := raiseIf_then h
  obtain ⟨workspace, h⟩ := raiseIf_then h
  obtain ⟨own, h⟩ := raiseIf_then h
  obtain ⟨_, _, _, made, -⟩ := transition_tail_eq_ok h
  simp only [not_or, not_not] at own workspace version
  have key : task.id = id := Registry.key_of_get? found
  have legal : TaskStatus.completed ∈ task.status.allowed := (Lifecycle.transition_eq_ok.mp made).1
  have inProgress : task.status = .inProgress := by
    cases status : task.status <;> simp [status, TaskStatus.allowed] at legal ⊢
  exact ⟨task, attempt, found, foundAttempt, version.symm, inProgress, own.1.trans key,
    workspace.symm, own.2⟩

section Settled

variable {env : Env} {v : Version} {w w' : World DomainStore}

/-- A changed attempt is stored under its identifier. -/
theorem attempt_stored {id : TaskAttemptId} {attempt : TaskAttempt} {status : TaskAttemptStatus}
    {eventType : EventType}
    {operation : TaskAttempt → StateTransitionId → Instant →
      Except DomainError (TransitionResult TaskAttempt)}
    (entity : ∀ e t at' r, operation e t at' = .ok r →
      r.entity.status = status ∧ r.entity.id = e.id)
    (h : atomic (change env id v operation eventType) w = .ok attempt w') :
    ∃ after, w'.store.attempts.get? id = some after ∧ after.status = status := by
  obtain ⟨self, _, _, result, found, made, current, event, changed⟩ :=
    change_eq_ok (atomic_eq_ok.mp h)
  obtain ⟨isStatus, sameId⟩ := entity _ _ _ _ made
  have key : TaskAttempt.id self = id := Registry.key_of_get? found
  refine ⟨result.entity, ?_, isStatus⟩
  rw [changed.result, ← key, ← sameId]
  exact Registry.get?_put_self _ _

theorem succeedTaskAttempt_stored {id : TaskAttemptId} {attempt : TaskAttempt}
    (h : succeedTaskAttempt env id v w = .ok attempt w') :
    ∃ after, w'.store.attempts.get? id = some after ∧ after.status = .succeeded :=
  attempt_stored (fun _ _ _ _ made => ⟨(transition_entity made).1, (transition_entity made).2.1⟩) h

theorem cancelTaskAttempt_stored {id : TaskAttemptId} {attempt : TaskAttempt}
    (h : cancelTaskAttempt env id v w = .ok attempt w') :
    ∃ after, w'.store.attempts.get? id = some after ∧ after.status = .cancelled :=
  attempt_stored (fun _ _ _ _ made => ⟨(transition_entity made).1, (transition_entity made).2.1⟩) h

theorem failTaskAttempt_stored {id : TaskAttemptId} {reason : PyStr} {attempt : TaskAttempt}
    (h : failTaskAttempt env id v reason w = .ok attempt w') :
    ∃ after, w'.store.attempts.get? id = some after ∧ after.status = .failed := by
  refine attempt_stored (fun e t at' r made => ?_) h
  unfold TaskAttempt.fail at made
  split at made
  · cases made
  · exact ⟨(transition_entity made).1, (transition_entity made).2.1⟩

theorem completeTask_stored {id : TaskId} {attemptId : TaskAttemptId} {task : Task}
    (h : completeTask env id attemptId v w = .ok task w') :
    ∃ after, w'.store.tasks.get? id = some after ∧ after.status = .completed := by
  have h := atomic_eq_ok.mp h
  obtain ⟨self, found, h⟩ := getEntity_then h
  obtain ⟨_, -, h⟩ := getEntity_then h
  obtain ⟨-, h⟩ := raiseIf_then h
  obtain ⟨-, h⟩ := raiseIf_then h
  obtain ⟨-, h⟩ := raiseIf_then h
  obtain ⟨_, _, result, made, -, current, event, changed⟩ := transition_tail_eq_ok h
  obtain ⟨isCompleted, sameId, -⟩ := transition_entity made
  have key : Task.id self = id := Registry.key_of_get? found
  refine ⟨result.entity, ?_, isCompleted⟩
  rw [changed.result, ← key, ← show result.entity.id = self.id from sameId]
  exact Registry.get?_put_self _ _

end Settled

/-- What holds of a run in front of every command. -/
theorem finished_run (env : Env) (commands : List Command) {w : World DomainStore}
    (enforced : Linked w.store ∧ Bounded w.store) (finished : Finished w.store)
    (latest : EveryCommand NamesLatest env w commands) {before : List Command}
    (reached : before <+: commands) :
    Bounded (runCommands env before w).store ∧ Finished (runCommands env before w).store ∧
      ∀ command, before ++ [command] <+: commands →
        NamesLatest (runCommands env before w).store command := by
  induction commands generalizing w before with
  | nil =>
      obtain rfl := List.prefix_nil.mp reached
      refine ⟨enforced.2, finished, fun command impossible => ?_⟩
      cases List.prefix_nil.mp impossible
  | cons first rest ih =>
      cases before with
      | nil =>
          refine ⟨enforced.2, finished, fun command next => ?_⟩
          obtain ⟨rfl, -⟩ := List.cons_prefix_cons.mp next
          exact latest.1
      | cons command before =>
          obtain ⟨rfl, reachedRest⟩ := List.cons_prefix_cons.mp reached
          have next : (Linked (World.after (command.issue env w)).store ∧
              Bounded (World.after (command.issue env w)).store) ∧
              Finished (World.after (command.issue env w)).store := by
            rcases command.after_issue env w with same | served
            · rw [same]
              exact ⟨enforced, finished⟩
            · exact ⟨⟨enforced.1.serve served, enforced.2.serve served enforced.1⟩,
                finished.step enforced.2 latest.1 served⟩
          obtain ⟨bounded, finished, named⟩ := ih next.1 next.2 latest.2 reachedRest
          refine ⟨bounded, finished, fun other other_next => ?_⟩
          exact named other (List.cons_prefix_cons.mp other_next).2

/-- In a run whose completions name the latest attempt of their task, no completed task has an
open attempt in any state, and an accepted completion has found the named attempt to be the
latest one and nothing in flight. -/
theorem finished_of_latest (env : Env) (commands : List Command)
    (latest : EveryCommand NamesLatest env emptyWorld commands) :
    ∀ before, before <+: commands →
      let w := runCommands env before emptyWorld
      Finished w.store ∧
      ∀ id attemptId v task w', before ++ [.completeTask id attemptId v] <+: commands →
        completeTask env id attemptId v w = .ok task w' →
        (w.store.attemptsForTask id).getLast?.map TaskAttempt.id = some attemptId ∧
          ∀ attempt ∈ w.store.attemptsForTask id, attempt.status.terminal = true := by
  intro before reached w
  have start : Finished emptyWorld.store := fun task mem => by cases mem
  obtain ⟨bounded, finished, named⟩ :=
    finished_run env commands ⟨linked_empty, bounded_empty⟩ start latest reached
  refine ⟨finished, ?_⟩
  intro id attemptId v task w' next completed
  obtain ⟨current, attempt, foundTask, found, version, inProgress, own, workspace, succeeded⟩ :=
    completeTask_checks completed
  have key : attempt.id = attemptId := Registry.key_of_get? found
  obtain ⟨last, ended⟩ := (named _ next).all_ended bounded foundTask found version inProgress own
    workspace succeeded
  refine ⟨?_, ended⟩
  rw [last, Option.map_some, key]

/-! ### A run that completes a task too early -/

/-- The identifier `id-n`. -/
def numbered (kind : IdKind) (n : Nat) : OpaqueId kind :=
  if h : OpaqueId.Valid (py "id-" ++ pyNat n) then ⟨_, h⟩ else ⟨py "id", by decide⟩

/-- Numbered identifiers and a clock that counts its readings. -/
def numberedEnv : Env := ⟨numbered, fun n => (n : Int)⟩

/-- The version after `n` changes. -/
def changed (n : Nat) : Version := ⟨n + 1, by omega⟩

/-- A task in progress whose first attempt has succeeded. -/
def firstAttempt : List Command :=
  [.createWorkspace (py "acme"),
    .createGoal ⟨numbered .workspace 0, py "ship", [py "shipped"], []⟩,
    .activateGoal (numbered .goal 2) (changed 0),
    .createTask ⟨numbered .workspace 0, numbered .goal 2, py "write", [py "written"]⟩,
    .readyTask (numbered .task 6) (changed 0),
    .startTask (numbered .task 6) (changed 1),
    .createExecution ⟨numbered .workspace 0, numbered .goal 2, py "owner", 3, none⟩,
    .startExecution (numbered .execution 12) (changed 0),
    .createTaskAttempt ⟨numbered .workspace 0, numbered .task 6, numbered .execution 12⟩,
    .startTaskAttempt (numbered .taskAttempt 16) (changed 0),
    .succeedTaskAttempt (numbered .taskAttempt 16) (changed 1)]

/-- The task is completed with that attempt. -/
def timelyCompletion : List Command :=
  firstAttempt ++ [.completeTask (numbered .task 6) (numbered .taskAttempt 16) (changed 2)]

/-- A second attempt is created before the task is completed with the first one. -/
def earlyCompletion : List Command :=
  firstAttempt ++
    [.createTaskAttempt ⟨numbered .workspace 0, numbered .task 6, numbered .execution 12⟩,
      .completeTask (numbered .task 6) (numbered .taskAttempt 16) (changed 2)]

/-- The completion names the latest attempt, and the task is completed without open ones. -/
theorem finished_timelyCompletion :
    (∃ task ∈ (runCommands numberedEnv timelyCompletion emptyWorld).store.tasks.values,
      task.status = .completed) ∧
    Finished (runCommands numberedEnv timelyCompletion emptyWorld).store :=
  ⟨by decide +kernel,
    (finished_of_latest numberedEnv timelyCompletion (by decide +kernel) _ List.prefix_rfl).1⟩

/-- The completion with the first attempt is accepted while the second one is open. -/
theorem completed_with_live_attempt :
    ¬Finished (runCommands numberedEnv earlyCompletion emptyWorld).store := by
  decide +kernel

end AgentCompanyOS.Domain
