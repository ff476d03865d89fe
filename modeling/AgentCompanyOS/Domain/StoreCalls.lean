import AgentCompanyOS.Domain.Service

/-!
# What an accepted call does

A caller of the domain store can only call `add_*` and `save_*`. `StoreCall` lists these
calls with their arguments, whatever they are; `Accepted` is what the store has checked
when it accepts one, and `StoreCall.result` is the store after it. A refused call changes
nothing.

A command of `DomainService` that succeeds is exactly one accepted call, and `Ruled` says
which rule of the service the call has passed. The invariants of the later modules are
case analyses over the calls.
-/

set_option autoImplicit false

namespace AgentCompanyOS.Domain

open Foundation Foundation.Txn

/-! ## Calls of the store -/

/-- A call of `add_*` or `save_*` with its arguments. -/
inductive StoreCall where
  | addWorkspace (entity : Workspace) (event : Event)
  | addGoal (entity : Goal) (event : Event)
  | addTask (entity : Task) (event : Event)
  | addTaskAttempt (entity : TaskAttempt) (event : Event)
  | addExecution (entity : Execution) (event : Event)
  | saveGoal (entity : Goal) (expectedVersion : Version) (transition : StateTransition)
      (event : Event)
  | saveTask (entity : Task) (expectedVersion : Version) (transition : StateTransition)
      (event : Event)
  | saveTaskAttempt (entity : TaskAttempt) (expectedVersion : Version)
      (transition : StateTransition) (event : Event)
  | saveExecution (entity : Execution) (expectedVersion : Version)
      (transition : StateTransition) (event : Event)

namespace StoreCall

/-- The method of the store. -/
def issue : StoreCall → DomainTxn Unit
  | addWorkspace entity event => add entity event
  | addGoal entity event => add entity event
  | addTask entity event => add entity event
  | addTaskAttempt entity event => add entity event
  | addExecution entity event => add entity event
  | saveGoal entity v transition event => save entity v transition event
  | saveTask entity v transition event => save entity v transition event
  | saveTaskAttempt entity v transition event => save entity v transition event
  | saveExecution entity v transition event => save entity v transition event

/-- The store after the call, when it is accepted. -/
def result (store : DomainStore) : StoreCall → DomainStore
  | addWorkspace entity event => store.inserted entity event
  | addGoal entity event => store.inserted entity event
  | addTask entity event => store.inserted entity event
  | addTaskAttempt entity event => store.inserted entity event
  | addExecution entity event => store.inserted entity event
  | saveGoal entity _ transition event => store.replaced entity transition event
  | saveTask entity _ transition event => store.replaced entity transition event
  | saveTaskAttempt entity _ transition event => store.replaced entity transition event
  | saveExecution entity _ transition event => store.replaced entity transition event

end StoreCall

/-! ## What the store checks -/

/-- The parents that `_references` has found for an attempt, and its place in the
lineage of the task. -/
structure AttemptReferenced (store : DomainStore) (entity : TaskAttempt) : Prop where
  task : ∃ task, store.tasks.get? entity.taskId = some task ∧
    task.workspaceId = entity.workspaceId ∧
    ∃ execution, store.executions.get? entity.executionId = some execution ∧
      execution.workspaceId = entity.workspaceId ∧ task.goalId = execution.goalId ∧
      (store.attemptsForExecution entity.executionId).length < execution.bounds.maxTaskAttempts
  ended : ∀ a ∈ store.attemptsForTask entity.taskId, a.status.terminal = true
  ordinal : entity.ordinal = (store.attemptsForTask entity.taskId).length + 1
  predecessor : entity.previousAttemptId =
    (store.attemptsForTask entity.taskId).getLast?.map TaskAttempt.id

/-- The parents that `_references` has found. -/
def Referenced (store : DomainStore) : AnyEntity → Prop
  | .workspace _ => True
  | .goal entity => ∃ workspace, store.workspaces.get? entity.workspaceId = some workspace
  | .task entity => ∃ goal, store.goals.get? entity.goalId = some goal ∧
      goal.workspaceId = entity.workspaceId
  | .execution entity => ∃ goal, store.goals.get? entity.goalId = some goal ∧
      goal.workspaceId = entity.workspaceId
  | .taskAttempt entity => AttemptReferenced store entity

theorem sameWorkspaceAsParent_eq_ok {expected actual : WorkspaceId} {w w' : World DomainStore}
    (h : sameWorkspaceAsParent expected actual w = .ok () w') : actual = expected :=
  not_not.mp (raiseIf_eq_ok.mp h).1

theorem sameWorkspaceAsParent_then {β : Type} {expected actual : WorkspaceId}
    {f : Unit → DomainTxn β} {w w' : World DomainStore} {b : β}
    (h : (sameWorkspaceAsParent expected actual >>= f) w = .ok b w') :
    actual = expected ∧ f () w = .ok b w' := by
  obtain ⟨same, h⟩ := raiseIf_then h
  exact ⟨not_not.mp same, h⟩

theorem references_eq_ok {entity : AnyEntity} {w w' : World DomainStore}
    (h : references entity w = .ok () w') : Referenced w.store entity := by
  cases entity with
  | workspace e => trivial
  | goal e =>
      obtain ⟨workspace, found, -⟩ := getEntity_then h
      exact ⟨workspace, found⟩
  | task e =>
      obtain ⟨-, -, h⟩ := getEntity_then h
      obtain ⟨goal, found, h⟩ := getEntity_then h
      exact ⟨goal, found, sameWorkspaceAsParent_eq_ok h⟩
  | execution e =>
      obtain ⟨-, -, h⟩ := getEntity_then h
      obtain ⟨goal, found, h⟩ := getEntity_then h
      exact ⟨goal, found, sameWorkspaceAsParent_eq_ok h⟩
  | taskAttempt e =>
      obtain ⟨-, -, h⟩ := getEntity_then h
      obtain ⟨task, foundTask, h⟩ := getEntity_then h
      obtain ⟨execution, foundExecution, h⟩ := getEntity_then h
      obtain ⟨goals, h⟩ := raiseIf_then h
      have h := getStore_then h
      obtain ⟨ended, h⟩ := raiseIf_then h
      obtain ⟨lineage, h⟩ := raiseIf_then h
      obtain ⟨bound, h⟩ := raiseIf_then h
      obtain ⟨taskWorkspace, h⟩ := sameWorkspaceAsParent_then h
      have executionWorkspace := sameWorkspaceAsParent_eq_ok h
      -- The lists were read under the keys of the found parents.
      have taskKey : task.id = e.taskId := Registry.key_of_get? foundTask
      have executionKey : execution.id = e.executionId := Registry.key_of_get? foundExecution
      rw [taskKey] at ended lineage
      rw [executionKey] at bound
      simp only [not_or, not_not, not_le, List.any_eq_true, Bool.not_eq_true', not_exists,
        not_and, Bool.not_eq_false] at goals ended lineage bound
      exact ⟨⟨task, foundTask, taskWorkspace, execution, foundExecution, executionWorkspace, goals,
        bound⟩, ended, lineage.1, lineage.2⟩

/-- What the store has checked when it accepts a call. -/
inductive Accepted (store : DomainStore) : StoreCall → Prop
  | addWorkspace {entity : Workspace} {event : Event} (addable : Addable store entity event) :
      Accepted store (.addWorkspace entity event)
  | addGoal {entity : Goal} {event : Event} (addable : Addable store entity event)
      (referenced : Referenced store (.goal entity)) : Accepted store (.addGoal entity event)
  | addTask {entity : Task} {event : Event} (addable : Addable store entity event)
      (referenced : Referenced store (.task entity)) : Accepted store (.addTask entity event)
  | addTaskAttempt {entity : TaskAttempt} {event : Event}
      (addable : Addable store entity event)
      (referenced : AttemptReferenced store entity) :
      Accepted store (.addTaskAttempt entity event)
  | addExecution {entity : Execution} {event : Event} (addable : Addable store entity event)
      (referenced : Referenced store (.execution entity)) :
      Accepted store (.addExecution entity event)
  | saveGoal {entity : Goal} {v : Version} {transition : StateTransition} {event : Event}
      (current : Goal) (savable : Savable store entity current v transition event) :
      Accepted store (.saveGoal entity v transition event)
  | saveTask {entity : Task} {v : Version} {transition : StateTransition} {event : Event}
      (current : Task) (savable : Savable store entity current v transition event) :
      Accepted store (.saveTask entity v transition event)
  | saveTaskAttempt {entity : TaskAttempt} {v : Version} {transition : StateTransition}
      {event : Event} (current : TaskAttempt)
      (savable : Savable store entity current v transition event) :
      Accepted store (.saveTaskAttempt entity v transition event)
  | saveExecution {entity : Execution} {v : Version} {transition : StateTransition}
      {event : Event} (current : Execution)
      (savable : Savable store entity current v transition event) :
      Accepted store (.saveExecution entity v transition event)

section Writes

variable {E σ : Type} {kind : IdKind} [Entity E kind] [Table E kind]

theorem checkAdd_referenced {entity : E} {event : Event} {w w' : World DomainStore}
    (h : checkAdd entity event w = .ok () w') : Referenced w.store (Table.any entity) := by
  have h := getStore_then h
  obtain ⟨-, h⟩ := raiseIf_then h
  obtain ⟨_, -, h⟩ := (reads_validateEvent event).then h
  obtain ⟨_, -, h⟩ := (reads_auditMatches entity event).then h
  obtain ⟨_, referenced, -⟩ := (reads_references _).then h
  exact references_eq_ok referenced

theorem add_eq_ok {entity : E} {event : Event} {w w' : World DomainStore}
    (h : add entity event w = .ok () w') :
    Addable w.store entity event ∧ Referenced w.store (Table.any entity) ∧
      w' = { w with store := w.store.inserted entity event } := by
  obtain ⟨_, checks, h⟩ := (reads_checkAdd entity event).then h
  exact ⟨checkAdd_eq_ok checks, checkAdd_referenced checks, (modifyStore_eq_ok.mp h).symm⟩

/-- An `_add` that raises has written nothing. -/
theorem add_eq_error {entity : E} {event : Event} {w w' : World DomainStore} {e : Exc}
    (h : add entity event w = .error e w') : w' = w := by
  rcases bind_eq_error.mp h with refused | ⟨_, _, _, written⟩
  · have same := reads_checkAdd entity event w
    rw [refused] at same
    exact same
  · cases written

variable [Lifecycle E kind σ]

theorem save_eq_ok {entity : E} {v : Version} {transition : StateTransition} {event : Event}
    {w w' : World DomainStore} (h : save entity v transition event w = .ok () w') :
    ∃ current, Savable w.store entity current v transition event ∧
      w' = { w with store := w.store.replaced entity transition event } := by
  obtain ⟨_, checks, h⟩ := (reads_checkSave entity v transition event).then h
  obtain ⟨current, savable⟩ := checkSave_eq_ok checks
  exact ⟨current, savable, (modifyStore_eq_ok.mp h).symm⟩

theorem save_eq_error {entity : E} {v : Version} {transition : StateTransition} {event : Event}
    {w w' : World DomainStore} {e : Exc}
    (h : save entity v transition event w = .error e w') : w' = w := by
  rcases bind_eq_error.mp h with refused | ⟨_, _, _, written⟩
  · have same := reads_checkSave entity v transition event w
    rw [refused] at same
    exact same
  · cases written

end Writes

theorem StoreCall.issue_eq_ok {call : StoreCall} {w w' : World DomainStore}
    (h : call.issue w = .ok () w') :
    Accepted w.store call ∧ w'.store = call.result w.store := by
  cases call with
  | addWorkspace e event =>
      obtain ⟨addable, -, rfl⟩ := add_eq_ok h
      exact ⟨.addWorkspace addable, rfl⟩
  | addGoal e event =>
      obtain ⟨addable, referenced, rfl⟩ := add_eq_ok h
      exact ⟨.addGoal addable referenced, rfl⟩
  | addTask e event =>
      obtain ⟨addable, referenced, rfl⟩ := add_eq_ok h
      exact ⟨.addTask addable referenced, rfl⟩
  | addTaskAttempt e event =>
      obtain ⟨addable, referenced, rfl⟩ := add_eq_ok h
      exact ⟨.addTaskAttempt addable referenced, rfl⟩
  | addExecution e event =>
      obtain ⟨addable, referenced, rfl⟩ := add_eq_ok h
      exact ⟨.addExecution addable referenced, rfl⟩
  | saveGoal e v transition event =>
      obtain ⟨current, savable, rfl⟩ := save_eq_ok h
      exact ⟨.saveGoal current savable, rfl⟩
  | saveTask e v transition event =>
      obtain ⟨current, savable, rfl⟩ := save_eq_ok h
      exact ⟨.saveTask current savable, rfl⟩
  | saveTaskAttempt e v transition event =>
      obtain ⟨current, savable, rfl⟩ := save_eq_ok h
      exact ⟨.saveTaskAttempt current savable, rfl⟩
  | saveExecution e v transition event =>
      obtain ⟨current, savable, rfl⟩ := save_eq_ok h
      exact ⟨.saveExecution current savable, rfl⟩

theorem StoreCall.issue_eq_error {call : StoreCall} {w w' : World DomainStore} {e : Exc}
    (h : call.issue w = .error e w') : w' = w := by
  cases call with
  | addWorkspace | addGoal | addTask | addTaskAttempt | addExecution => exact add_eq_error h
  | saveGoal | saveTask | saveTaskAttempt | saveExecution => exact save_eq_error h

/-- A call is accepted, with its result, or it is refused and changes nothing. -/
theorem StoreCall.after_issue (call : StoreCall) (w : World DomainStore) :
    (World.after (call.issue w)).store = w.store ∨
      (Accepted w.store call ∧ (World.after (call.issue w)).store = call.result w.store) := by
  cases h : call.issue w with
  | ok u w' => exact .inr (issue_eq_ok h)
  | error e w' =>
      left
      rw [issue_eq_error h]
      rfl

/-- The store after any calls, each of which was accepted or refused. -/
def runCalls (calls : List StoreCall) (w : World DomainStore) : World DomainStore :=
  calls.foldl (fun w call => World.after (call.issue w)) w

/-- What every accepted call keeps holds after any calls. -/
theorem runCalls_keeps {P : DomainStore → Prop}
    (step : ∀ store call, Accepted store call → P store → P (call.result store))
    (calls : List StoreCall) {w : World DomainStore} (h : P w.store) :
    P (runCalls calls w).store := by
  induction calls generalizing w with
  | nil => exact h
  | cons call rest ih =>
      apply ih
      rcases call.after_issue w with same | ⟨accepted, same⟩
      · rw [same]
        exact h
      · rw [same]
        exact step w.store call accepted h

/-! ## Calls of the service -/

/-- The rule that the service has checked for a call, and the command that made it. -/
def Ruled (store : DomainStore) (command : Command) : StoreCall → Prop
  | .addWorkspace _ _ => True
  | .addGoal entity _ => entity.status = .draft
  | .addTask entity _ => entity.status = .proposed ∧
      ∃ goal, store.goals.get? entity.goalId = some goal ∧ goal.status = .active
  | .addTaskAttempt entity _ => entity.status = .created ∧
      (∃ task, store.tasks.get? entity.taskId = some task ∧ task.status = .inProgress) ∧
      ∃ execution, store.executions.get? entity.executionId = some execution ∧
        execution.status = .running
  | .addExecution entity _ => entity.status = .created ∧
      ∃ goal, store.goals.get? entity.goalId = some goal ∧ goal.status = .active
  | .saveGoal entity _ _ _ => entity.status = .satisfied →
      store.tasksForGoal entity.id ≠ [] ∧
        ∀ task ∈ store.tasksForGoal entity.id, task.status = .completed
  | .saveTask entity v _ _ => entity.status = .completed →
      ∃ attemptId attempt, command = .completeTask entity.id attemptId v ∧
        store.attempts.get? attemptId = some attempt ∧ attempt.taskId = entity.id ∧
        attempt.workspaceId = entity.workspaceId ∧ attempt.status = .succeeded
  | .saveTaskAttempt entity v _ _ => entity.status = .succeeded →
      command = .succeedTaskAttempt entity.id v
  | .saveExecution entity _ _ _ => entity.status = .succeeded →
      ∀ attempt ∈ store.attemptsForExecution entity.id, attempt.status.terminal = true

/-- The entity that a lifecycle change leads to. -/
theorem transition_entity {E σ : Type} {kind : IdKind} [Entity E kind] [Lifecycle E kind σ]
    {self : E} {target : σ} {transitionId : StateTransitionId} {at' : Instant} {reason : Text}
    {result : TransitionResult E}
    (h : Lifecycle.transition self target transitionId at' reason = .ok result) :
    Lifecycle.status result.entity = target ∧ Entity.id result.entity = Entity.id self ∧
      Entity.workspaceId result.entity = Entity.workspaceId self := by
  obtain ⟨-, -, rfl⟩ := Lifecycle.transition_eq_ok.mp h
  simp

section Tails

variable {env : Env} {E σ : Type} {kind : IdKind} [Entity E kind] [Table E kind]

theorem idle_newEvent (env : Env) (workspaceId : WorkspaceId) (eventType : EventType)
    (subjectType : SubjectType) (subjectId : Text) (version : Version) :
    Idle (newEvent env workspaceId eventType subjectType subjectId version) :=
  (moves_fresh env .event).bind fun _ => (moves_now env).bind fun _ => Moves.pure _

/-- The end of a command that creates an entity. -/
theorem addNew_eq_ok {entity entity' : E} {eventType : EventType} {w w' : World DomainStore}
    (h : addNew env entity eventType w = .ok entity' w') :
    entity' = entity ∧ ∃ event, Addable w.store entity event ∧
      Referenced w.store (Table.any entity) ∧ w'.store = w.store.inserted entity event := by
  obtain ⟨event, w₁, -, same, h⟩ := (idle_newEvent env _ _ _ _ _).then h
  obtain ⟨_, w₂, added, h⟩ := bind_eq_ok.mp h
  obtain ⟨rfl, rfl⟩ := pure_eq_ok.mp h
  obtain ⟨addable, referenced, rfl⟩ := add_eq_ok added
  rw [same] at addable referenced
  exact ⟨rfl, event, addable, referenced, by rw [same]⟩

variable [Lifecycle E kind σ]

/-- An accepted change of an entity, with the entity that the store had. -/
structure Changed (store store' : DomainStore) (before after : E) (v : Version)
    (transition : StateTransition) (event : Event) : Prop where
  savable : Savable store after before v transition event
  result : store' = store.replaced after transition event

theorem saveResult_eq_ok {result : TransitionResult E} {v : Version} {eventType : EventType}
    {entity : E} {w w' : World DomainStore}
    (h : saveResult env result v eventType w = .ok entity w') :
    entity = result.entity ∧ ∃ current event,
      Changed w.store w'.store current result.entity v result.transition event := by
  obtain ⟨event, w₁, -, same, h⟩ := (idle_newEvent env _ _ _ _ _).then h
  obtain ⟨_, w₂, saved, h⟩ := bind_eq_ok.mp h
  obtain ⟨rfl, rfl⟩ := pure_eq_ok.mp h
  obtain ⟨current, savable, rfl⟩ := save_eq_ok saved
  rw [same] at savable
  exact ⟨rfl, current, event, savable, by rw [same]⟩

/-- The end of a command that changes an entity. -/
theorem transition_tail_eq_ok
    {operation : StateTransitionId → Instant → Except DomainError (TransitionResult E)}
    {v : Version} {eventType : EventType} {entity : E} {w w' : World DomainStore}
    (h : (do
      let transitionId ← fresh env .stateTransition
      let at' ← now env
      let result ← checked (operation transitionId at')
      saveResult env result v eventType : DomainTxn E) w = .ok entity w') :
    ∃ transitionId at' result, operation transitionId at' = .ok result ∧ entity = result.entity ∧
      ∃ current event,
        Changed w.store w'.store current result.entity v result.transition event := by
  obtain ⟨transitionId, w₁, -, same₁, h⟩ := Idle.then (moves_fresh env _) h
  obtain ⟨at', w₂, -, same₂, h⟩ := Idle.then (moves_now env) h
  obtain ⟨result, made, h⟩ := (reads_checked _).then h
  obtain ⟨same, current, event, changed⟩ := saveResult_eq_ok h
  rw [same₂, same₁] at changed
  exact ⟨transitionId, at', result, (checked_eq_ok.mp made).1, same, current, event, changed⟩

theorem change_eq_ok {id : OpaqueId kind} {v : Version}
    {operation : E → StateTransitionId → Instant → Except DomainError (TransitionResult E)}
    {eventType : EventType} {entity : E} {w w' : World DomainStore}
    (h : change env id v operation eventType w = .ok entity w') :
    ∃ self transitionId at' result, (Table.table (E := E) w.store).get? id = some self ∧
      operation self transitionId at' = .ok result ∧ ∃ current event,
        Changed w.store w'.store current result.entity v result.transition event := by
  obtain ⟨self, found, h⟩ := getEntity_then h
  obtain ⟨-, h⟩ := raiseIf_then h
  obtain ⟨transitionId, at', result, made, -, changed⟩ := transition_tail_eq_ok h
  exact ⟨self, transitionId, at', result, found, made, changed⟩

end Tails

/-- A step of the store by one command of the service. -/
inductive Served (command : Command) (store : DomainStore) : DomainStore → Prop
  | made (call : StoreCall) (accepted : Accepted store call) (ruled : Ruled store command call) :
      Served command store (call.result store)

section Served

variable {store store' : DomainStore} {command : Command} {v : Version}
  {transition : StateTransition} {event : Event}

theorem Changed.servedGoal {before after : Goal}
    (h : Changed store store' before after v transition event)
    (rule : Ruled store command (.saveGoal after v transition event)) :
    Served command store store' :=
  h.result ▸ .made (.saveGoal after v transition event) (.saveGoal before h.savable) rule

theorem Changed.servedTask {before after : Task}
    (h : Changed store store' before after v transition event)
    (rule : Ruled store command (.saveTask after v transition event)) :
    Served command store store' :=
  h.result ▸ .made (.saveTask after v transition event) (.saveTask before h.savable) rule

theorem Changed.servedTaskAttempt {before after : TaskAttempt}
    (h : Changed store store' before after v transition event)
    (rule : Ruled store command (.saveTaskAttempt after v transition event)) :
    Served command store store' :=
  h.result ▸ .made (.saveTaskAttempt after v transition event) (.saveTaskAttempt before h.savable)
    rule

theorem Changed.servedExecution {before after : Execution}
    (h : Changed store store' before after v transition event)
    (rule : Ruled store command (.saveExecution after v transition event)) :
    Served command store store' :=
  h.result ▸ .made (.saveExecution after v transition event) (.saveExecution before h.savable)
    rule

end Served

section Changes

variable {env : Env} {command : Command} {v : Version} {eventType : EventType}
  {w w' : World DomainStore}

/-- A goal command without a rule of its own does not satisfy the goal. -/
theorem change_goal {id : GoalId} {goal : Goal} {target : GoalStatus} {reason : Text}
    (open' : target ≠ .satisfied)
    (h : change env id v (fun e t at' => Lifecycle.transition e target t at' reason) eventType w =
      .ok goal w') : Served command w.store w'.store := by
  obtain ⟨self, _, _, result, -, made, current, event, changed⟩ := change_eq_ok h
  refine changed.servedGoal fun satisfied => ?_
  exact (open' ((transition_entity made).1.symm.trans satisfied)).elim

theorem change_task {id : TaskId} {task : Task} {target : TaskStatus} {reason : Text}
    (open' : target ≠ .completed)
    (h : change env id v (fun e t at' => Lifecycle.transition e target t at' reason) eventType w =
      .ok task w') : Served command w.store w'.store := by
  obtain ⟨self, _, _, result, -, made, current, event, changed⟩ := change_eq_ok h
  refine changed.servedTask fun completed => ?_
  exact (open' ((transition_entity made).1.symm.trans completed)).elim

theorem change_execution {id : ExecutionId} {execution : Execution}
    {operation : Execution → StateTransitionId → Instant →
      Except DomainError (TransitionResult Execution)}
    (open' : ∀ e t at' r, operation e t at' = .ok r → r.entity.status ≠ .succeeded)
    (h : change env id v operation eventType w = .ok execution w') :
    Served command w.store w'.store := by
  obtain ⟨self, _, _, result, -, made, current, event, changed⟩ := change_eq_ok h
  exact changed.servedExecution fun succeeded => (open' _ _ _ _ made succeeded).elim

theorem change_attempt {id : TaskAttemptId} {attempt : TaskAttempt}
    {operation : TaskAttempt → StateTransitionId → Instant →
      Except DomainError (TransitionResult TaskAttempt)}
    (open' : ∀ e t at' r, operation e t at' = .ok r → r.entity.status ≠ .succeeded)
    (h : change env id v operation eventType w = .ok attempt w') :
    Served command w.store w'.store := by
  obtain ⟨self, _, _, result, -, made, current, event, changed⟩ := change_eq_ok h
  exact changed.servedTaskAttempt fun succeeded => (open' _ _ _ _ made succeeded).elim

end Changes

/-- The failure of an attempt or an execution is a change of its lifecycle. -/
theorem TaskAttempt.fail_eq_ok {self : TaskAttempt} {t : StateTransitionId} {at' : Instant}
    {reason : PyStr} {r : TransitionResult TaskAttempt} (h : self.fail t at' reason = .ok r) :
    r.entity.status = .failed := by
  unfold TaskAttempt.fail at h
  split at h
  · cases h
  · exact (transition_entity h).1

theorem Execution.fail_eq_ok {self : Execution} {t : StateTransitionId} {at' : Instant}
    {reason : PyStr} {r : TransitionResult Execution} (h : self.fail t at' reason = .ok r) :
    r.entity.status = .failed := by
  unfold Execution.fail at h
  split at h
  · cases h
  · exact (transition_entity h).1

/-! ## Commands -/

section Creations

variable {env : Env} {w w' : World DomainStore}

theorem createWorkspace_served {name : PyStr} {workspace : Workspace} {command : Command}
    (h : createWorkspace env name w = .ok workspace w') : Served command w.store w'.store := by
  have h := atomic_eq_ok.mp h
  obtain ⟨at', w₁, -, same₁, h⟩ := Idle.then (moves_now env) h
  obtain ⟨id, w₂, -, same₂, h⟩ := Idle.then (moves_fresh env _) h
  obtain ⟨created, -, h⟩ := (reads_checked _).then h
  obtain ⟨-, event, addable, -, result⟩ := addNew_eq_ok h
  rw [same₂, same₁] at addable result
  rw [result]
  exact .made (.addWorkspace created event) (.addWorkspace addable) trivial

theorem createGoal_served {command : CreateGoalCommand} {goal : Goal}
    (h : createGoal env command w = .ok goal w') :
    Served (.createGoal command) w.store w'.store := by
  have h := atomic_eq_ok.mp h
  obtain ⟨-, -, h⟩ := getEntity_then h
  obtain ⟨at', w₁, -, same₁, h⟩ := Idle.then (moves_now env) h
  obtain ⟨id, w₂, -, same₂, h⟩ := Idle.then (moves_fresh env _) h
  obtain ⟨created, made, h⟩ := (reads_checked _).then h
  obtain ⟨-, event, addable, referenced, result⟩ := addNew_eq_ok h
  rw [same₂, same₁] at addable referenced result
  rw [result]
  exact .made (.addGoal created event) (.addGoal addable referenced)
    (Goal.status_create (checked_eq_ok.mp made).1)

theorem createTask_served {command : CreateTaskCommand} {task : Task}
    (h : createTask env command w = .ok task w') :
    Served (.createTask command) w.store w'.store := by
  have h := atomic_eq_ok.mp h
  obtain ⟨-, -, h⟩ := getEntity_then h
  obtain ⟨goal, found, h⟩ := getEntity_then h
  obtain ⟨-, h⟩ := raiseIf_then h
  obtain ⟨active, h⟩ := raiseIf_then h
  obtain ⟨at', w₁, -, same₁, h⟩ := Idle.then (moves_now env) h
  obtain ⟨id, w₂, -, same₂, h⟩ := Idle.then (moves_fresh env _) h
  obtain ⟨created, made, h⟩ := (reads_checked _).then h
  obtain ⟨-, event, addable, referenced, result⟩ := addNew_eq_ok h
  rw [same₂, same₁] at addable referenced result
  rw [result]
  have made := (checked_eq_ok.mp made).1
  refine .made (.addTask created event) (.addTask addable referenced)
    ⟨Task.status_create made, goal, ?_, not_not.mp active⟩
  rw [Task.goalId_create made]
  exact found

theorem createExecution_served {command : CreateExecutionCommand} {execution : Execution}
    (h : createExecution env command w = .ok execution w') :
    Served (.createExecution command) w.store w'.store := by
  have h := atomic_eq_ok.mp h
  obtain ⟨-, -, h⟩ := getEntity_then h
  obtain ⟨goal, found, h⟩ := getEntity_then h
  obtain ⟨-, h⟩ := raiseIf_then h
  obtain ⟨active, h⟩ := raiseIf_then h
  obtain ⟨_, -, h⟩ := (reads_checkRetry _ _).then h
  obtain ⟨at', w₁, -, same₁, h⟩ := Idle.then (moves_now env) h
  obtain ⟨id, w₂, -, same₂, h⟩ := Idle.then (moves_fresh env _) h
  obtain ⟨bounds, -, h⟩ := (reads_checked _).then h
  obtain ⟨created, made, h⟩ := (reads_checked _).then h
  obtain ⟨-, event, addable, referenced, result⟩ := addNew_eq_ok h
  rw [same₂, same₁] at addable referenced result
  rw [result]
  have made := (checked_eq_ok.mp made).1
  refine .made (.addExecution created event) (.addExecution addable referenced)
    ⟨Execution.status_create made, goal, ?_, not_not.mp active⟩
  rw [Execution.goalId_create made]
  exact found

theorem createTaskAttempt_served {command : CreateTaskAttemptCommand} {attempt : TaskAttempt}
    (h : createTaskAttempt env command w = .ok attempt w') :
    Served (.createTaskAttempt command) w.store w'.store := by
  have h := atomic_eq_ok.mp h
  obtain ⟨-, -, h⟩ := getEntity_then h
  obtain ⟨task, foundTask, h⟩ := getEntity_then h
  obtain ⟨execution, foundExecution, h⟩ := getEntity_then h
  obtain ⟨-, h⟩ := raiseIf_then h
  obtain ⟨-, h⟩ := raiseIf_then h
  obtain ⟨-, h⟩ := raiseIf_then h
  obtain ⟨inProgress, h⟩ := raiseIf_then h
  obtain ⟨running, h⟩ := raiseIf_then h
  have h := getStore_then h
  obtain ⟨-, h⟩ := raiseIf_then h
  obtain ⟨-, h⟩ := raiseIf_then h
  obtain ⟨at', w₁, -, same₁, h⟩ := Idle.then (moves_now env) h
  obtain ⟨id, w₂, -, same₂, h⟩ := Idle.then (moves_fresh env _) h
  obtain ⟨created, made, h⟩ := (reads_checked _).then h
  obtain ⟨-, event, addable, referenced, result⟩ := addNew_eq_ok h
  rw [same₂, same₁] at addable referenced result
  rw [result]
  have made := (checked_eq_ok.mp made).1
  obtain ⟨taskId, executionId⟩ := TaskAttempt.parents_create made
  refine .made (.addTaskAttempt created event) (.addTaskAttempt addable referenced)
    ⟨TaskAttempt.status_create made, ⟨task, ?_, not_not.mp inProgress⟩, execution, ?_,
      not_not.mp running⟩
  · rw [taskId]
    exact foundTask
  · rw [executionId]
    exact foundExecution

end Creations

section Outcomes

variable {env : Env} {v : Version} {w w' : World DomainStore}

theorem satisfyGoal_served {id : GoalId} {goal : Goal} (h : satisfyGoal env id v w = .ok goal w') :
    Served (.satisfyGoal id v) w.store w'.store := by
  have h := atomic_eq_ok.mp h
  obtain ⟨self, -, h⟩ := getEntity_then h
  obtain ⟨-, h⟩ := raiseIf_then h
  have h := getStore_then h
  obtain ⟨tasks, h⟩ := raiseIf_then h
  obtain ⟨_, _, result, made, -, current, event, changed⟩ := transition_tail_eq_ok h
  refine changed.servedGoal fun _ => ?_
  rw [show result.entity.id = self.id from (transition_entity made).2.1]
  simp only [not_or, List.any_eq_true, decide_eq_true_eq, not_exists, not_and, not_not] at tasks
  exact tasks

theorem readyTask_served {id : TaskId} {task : Task} (h : readyTask env id v w = .ok task w') :
    Served (.readyTask id v) w.store w'.store := by
  have h := atomic_eq_ok.mp h
  obtain ⟨self, -, h⟩ := getEntity_then h
  obtain ⟨-, h⟩ := raiseIf_then h
  obtain ⟨_, _, result, made, -, current, event, changed⟩ := transition_tail_eq_ok h
  refine changed.servedTask fun completed => ?_
  have ready : result.entity.status = .ready := (transition_entity made).1
  rw [ready] at completed
  cases completed

theorem completeTask_served {id : TaskId} {attemptId : TaskAttemptId} {task : Task}
    (h : completeTask env id attemptId v w = .ok task w') :
    Served (.completeTask id attemptId v) w.store w'.store := by
  have h := atomic_eq_ok.mp h
  obtain ⟨self, found, h⟩ := getEntity_then h
  obtain ⟨attempt, foundAttempt, h⟩ := getEntity_then h
  obtain ⟨-, h⟩ := raiseIf_then h
  obtain ⟨workspace, h⟩ := raiseIf_then h
  obtain ⟨own, h⟩ := raiseIf_then h
  obtain ⟨_, _, result, made, -, current, event, changed⟩ := transition_tail_eq_ok h
  have key : self.id = id := Registry.key_of_get? found
  have same : result.entity.id = self.id := (transition_entity made).2.1
  have sameWorkspace : result.entity.workspaceId = self.workspaceId := (transition_entity made).2.2
  simp only [not_or, not_not] at own workspace
  refine changed.servedTask fun _ => ⟨attemptId, attempt, ?_, foundAttempt, ?_, ?_, own.2⟩
  · rw [same, key]
  · rw [same]
    exact own.1
  · rw [sameWorkspace]
    exact workspace.symm

theorem succeedExecution_served {id : ExecutionId} {execution : Execution}
    (h : succeedExecution env id v w = .ok execution w') :
    Served (.succeedExecution id v) w.store w'.store := by
  have h := atomic_eq_ok.mp h
  obtain ⟨self, -, h⟩ := getEntity_then h
  obtain ⟨-, h⟩ := raiseIf_then h
  have h := getStore_then h
  obtain ⟨-, h⟩ := raiseIf_then h
  obtain ⟨ended, h⟩ := raiseIf_then h
  obtain ⟨_, _, result, made, -, current, event, changed⟩ := transition_tail_eq_ok h
  refine changed.servedExecution fun _ => ?_
  rw [show result.entity.id = self.id from (transition_entity made).2.1]
  simpa using ended

theorem succeedTaskAttempt_served {id : TaskAttemptId} {attempt : TaskAttempt}
    (h : succeedTaskAttempt env id v w = .ok attempt w') :
    Served (.succeedTaskAttempt id v) w.store w'.store := by
  obtain ⟨self, _, _, result, found, made, current, event, changed⟩ :=
    change_eq_ok (atomic_eq_ok.mp h)
  have key : self.id = id := Registry.key_of_get? found
  have same : result.entity.id = self.id := (transition_entity made).2.1
  refine changed.servedTaskAttempt fun _ => ?_
  rw [same, key]

end Outcomes

/-- A command that succeeds is one accepted call that has passed its rule. -/
theorem Command.issue_eq_ok {env : Env} {command : Command} {w w' : World DomainStore}
    (h : command.issue env w = .ok () w') : Served command w.store w'.store := by
  cases command with
  | createWorkspace name =>
      obtain ⟨_, h⟩ := discard_eq_ok.mp h
      exact createWorkspace_served h
  | createGoal command =>
      obtain ⟨_, h⟩ := discard_eq_ok.mp h
      exact createGoal_served h
  | createTask command =>
      obtain ⟨_, h⟩ := discard_eq_ok.mp h
      exact createTask_served h
  | createExecution command =>
      obtain ⟨_, h⟩ := discard_eq_ok.mp h
      exact createExecution_served h
  | createTaskAttempt command =>
      obtain ⟨_, h⟩ := discard_eq_ok.mp h
      exact createTaskAttempt_served h
  | satisfyGoal id v =>
      obtain ⟨_, h⟩ := discard_eq_ok.mp h
      exact satisfyGoal_served h
  | readyTask id v =>
      obtain ⟨_, h⟩ := discard_eq_ok.mp h
      exact readyTask_served h
  | completeTask id attemptId v =>
      obtain ⟨_, h⟩ := discard_eq_ok.mp h
      exact completeTask_served h
  | succeedExecution id v =>
      obtain ⟨_, h⟩ := discard_eq_ok.mp h
      exact succeedExecution_served h
  | activateGoal | closeGoalUnsatisfied | cancelGoal =>
      obtain ⟨_, h⟩ := discard_eq_ok.mp h
      exact change_goal (by decide) (atomic_eq_ok.mp h)
  | startTask | failTask | cancelTask =>
      obtain ⟨_, h⟩ := discard_eq_ok.mp h
      exact change_task (by decide) (atomic_eq_ok.mp h)
  | startExecution | waitExecution | resumeExecution | cancelExecution =>
      obtain ⟨_, h⟩ := discard_eq_ok.mp h
      refine change_execution (fun e t at' r made succeeded => ?_) (atomic_eq_ok.mp h)
      cases (transition_entity made).1.symm.trans succeeded
  | failExecution id v reason =>
      obtain ⟨_, h⟩ := discard_eq_ok.mp h
      refine change_execution (fun e t at' r made succeeded => ?_) (atomic_eq_ok.mp h)
      cases (Execution.fail_eq_ok made).symm.trans succeeded
  | startTaskAttempt | cancelTaskAttempt =>
      obtain ⟨_, h⟩ := discard_eq_ok.mp h
      refine change_attempt (fun e t at' r made succeeded => ?_) (atomic_eq_ok.mp h)
      cases (transition_entity made).1.symm.trans succeeded
  | failTaskAttempt id v reason =>
      obtain ⟨_, h⟩ := discard_eq_ok.mp h
      refine change_attempt (fun e t at' r made succeeded => ?_) (atomic_eq_ok.mp h)
      cases (TaskAttempt.fail_eq_ok made).symm.trans succeeded
  | succeedTaskAttempt id v =>
      obtain ⟨_, h⟩ := discard_eq_ok.mp h
      exact succeedTaskAttempt_served h

/-- A command that raises has written nothing. -/
theorem Command.issue_eq_error {env : Env} {command : Command} {w w' : World DomainStore} {e : Exc}
    (h : command.issue env w = .error e w') : w'.store = w.store := by
  cases command with
  | createWorkspace | createGoal | activateGoal | satisfyGoal | closeGoalUnsatisfied | cancelGoal
  | createTask | readyTask | startTask | completeTask | failTask | cancelTask | createExecution
  | startExecution | waitExecution | resumeExecution | succeedExecution | failExecution
  | cancelExecution | createTaskAttempt | startTaskAttempt | succeedTaskAttempt | failTaskAttempt
  | cancelTaskAttempt => exact atomic_eq_error (discard_eq_error h)

/-- A command is served, or it is refused and the store is as it was. -/
theorem Command.after_issue (env : Env) (command : Command) (w : World DomainStore) :
    (World.after (command.issue env w)).store = w.store ∨
      Served command w.store (World.after (command.issue env w)).store := by
  cases h : command.issue env w with
  | ok u w' => exact .inr (issue_eq_ok h)
  | error e w' => exact .inl (issue_eq_error h)

/-- What every served command keeps holds after any commands. -/
theorem runCommands_keeps {P : DomainStore → Prop}
    (step : ∀ {command store store'}, Served command store store' → P store → P store')
    (env : Env) (commands : List Command) {w : World DomainStore} (h : P w.store) :
    P (runCommands env commands w).store := by
  induction commands generalizing w with
  | nil => exact h
  | cons command rest ih =>
      apply ih
      rcases command.after_issue env w with same | served
      · rw [same]
        exact h
      · exact step served h

end AgentCompanyOS.Domain
