import AgentCompanyOS.Domain.StoreCalls

/-!
# Histories that the store itself enforces

The caller of `add_*` and `save_*` may pass any entities, transitions and events. What the
store checks is enough for three facts about every run of calls: an entity keeps the fields
it was created with and is never changed again once it is finished (`Extends`), its parents
are stored and agree on the workspace (`Linked`), and the attempts of a task form one
lineage (`Lineage`).
-/

set_option autoImplicit false

namespace AgentCompanyOS.Domain

open Foundation Foundation.Txn

/-! ## Fields that never change -/

/-- The identifier, the parents and the creation fields of a goal. -/
def Goal.origin (e : Goal) :=
  (e.id, e.workspaceId, e.objective, e.constraints, e.acceptanceCriteria, e.createdAt)

/-- The identifier, the parents and the creation fields of a task. -/
def Task.origin (e : Task) :=
  (e.id, e.workspaceId, e.goalId, e.title, e.acceptanceCriteria, e.createdAt)

/-- The identifier, the parents, the place in the lineage and the creation time of an
attempt. -/
def TaskAttempt.origin (e : TaskAttempt) :=
  (e.id, e.workspaceId, e.taskId, e.executionId, e.ordinal, e.previousAttemptId, e.createdAt)

/-- The identifier, the parents, the bounds and the creation fields of an execution. -/
def Execution.origin (e : Execution) :=
  (e.id, e.workspaceId, e.goalId, e.initiatedBy, e.bounds, e.retryOf, e.createdAt)

/-- A later record of an entity: created with the same fields, and the same record when
the lifecycle allows no change of the earlier one. -/
structure Follows {E σ α : Type} {kind : IdKind} [Entity E kind] [Lifecycle E kind σ]
    (origin : E → α) (before after : E) : Prop where
  origin : origin after = origin before
  final : Lifecycle.allowed E (Lifecycle.status before) = [] → after = before

namespace Follows

variable {E σ α : Type} {kind : IdKind} [Entity E kind] [Lifecycle E kind σ] {origin : E → α}

theorem refl (e : E) : Follows origin e e := ⟨rfl, fun _ => rfl⟩

theorem trans {a b c : E} (h : Follows origin a b) (h' : Follows origin b c) :
    Follows origin a c := by
  refine ⟨h'.origin.trans h.origin, fun final => ?_⟩
  obtain rfl := h.final final
  exact h'.final final

/-- A saved entity follows the stored one: the definition is compared and a finished
entity has no legal change. -/
theorem of_savable [Table E kind] {store : DomainStore} {entity current : E} {v : Version}
    {transition : StateTransition} {event : Event}
    (same : Lifecycle.sameDefinition current entity = true → origin entity = origin current)
    (h : Savable store entity current v transition event) : Follows origin current entity := by
  refine ⟨same h.definition, fun final => ?_⟩
  have legal := h.legal
  rw [final] at legal
  cases legal

end Follows

/-- Every entity of `store` is in `later`, as it was or as a later record of it. -/
structure Extends (store later : DomainStore) : Prop where
  workspaces : store.workspaces.Evolves Eq later.workspaces
  goals : store.goals.Evolves (Follows Goal.origin) later.goals
  tasks : store.tasks.Evolves (Follows Task.origin) later.tasks
  attempts : store.attempts.Evolves (Follows TaskAttempt.origin) later.attempts
  executions : store.executions.Evolves (Follows Execution.origin) later.executions

namespace Extends

theorem refl (store : DomainStore) : Extends store store :=
  ⟨.refl (fun _ => rfl) _, .refl Follows.refl _, .refl Follows.refl _, .refl Follows.refl _,
    .refl Follows.refl _⟩

theorem trans {s t u : DomainStore} (h : Extends s t) (h' : Extends t u) : Extends s u :=
  ⟨h.workspaces.trans (fun first second => first.trans second) h'.workspaces,
    h.goals.trans Follows.trans h'.goals, h.tasks.trans Follows.trans h'.tasks,
    h.attempts.trans Follows.trans h'.attempts, h.executions.trans Follows.trans h'.executions⟩

end Extends

theorem Goal.origin_eq {a b : Goal} (h : Lifecycle.sameDefinition a b = true) :
    b.origin = a.origin := by
  simp only [Lifecycle.sameDefinition, Bool.and_eq_true, decide_eq_true_eq] at h
  simp [origin, h]

theorem Task.origin_eq {a b : Task} (h : Lifecycle.sameDefinition a b = true) :
    b.origin = a.origin := by
  simp only [Lifecycle.sameDefinition, Bool.and_eq_true, decide_eq_true_eq] at h
  simp [origin, h]

theorem TaskAttempt.origin_eq {a b : TaskAttempt} (h : Lifecycle.sameDefinition a b = true) :
    b.origin = a.origin := by
  simp only [Lifecycle.sameDefinition, Bool.and_eq_true, decide_eq_true_eq] at h
  simp [origin, h]

theorem Execution.origin_eq {a b : Execution} (h : Lifecycle.sameDefinition a b = true) :
    b.origin = a.origin := by
  simp only [Lifecycle.sameDefinition, Bool.and_eq_true, decide_eq_true_eq] at h
  simp [origin, h]

section Filing

variable {E σ α : Type} {kind : IdKind} [Entity E kind] [Table E kind] [Lifecycle E kind σ]
  {origin : E → α} {store : DomainStore} {entity : E} {event : Event}

theorem Addable.evolves (h : Addable store entity event) :
    (Table.table (E := E) store).Evolves (Follows origin) ((Table.table store).put entity) := by
  refine .put Follows.refl fun old found => ?_
  rw [h.absent] at found
  cases found

theorem Savable.evolves {current : E} {v : Version} {transition : StateTransition}
    (same : Lifecycle.sameDefinition current entity = true → origin entity = origin current)
    (h : Savable store entity current v transition event) :
    (Table.table (E := E) store).Evolves (Follows origin) ((Table.table store).put entity) := by
  refine .put Follows.refl fun old found => ?_
  rw [h.present] at found
  obtain rfl := Option.some.inj found
  exact .of_savable same h

end Filing

/-- Every accepted call extends the store. -/
theorem Accepted.extends {store : DomainStore} {call : StoreCall} (h : Accepted store call) :
    Extends store (call.result store) := by
  have same := Extends.refl store
  cases h with
  | addWorkspace addable =>
      refine { same with workspaces := .put (fun _ => rfl) fun old found => ?_ }
      cases addable.absent.symm.trans found
  | addGoal addable => exact { same with goals := addable.evolves }
  | addTask addable => exact { same with tasks := addable.evolves }
  | addTaskAttempt addable => exact { same with attempts := addable.evolves }
  | addExecution addable => exact { same with executions := addable.evolves }
  | saveGoal current savable => exact { same with goals := savable.evolves Goal.origin_eq }
  | saveTask current savable => exact { same with tasks := savable.evolves Task.origin_eq }
  | saveTaskAttempt current savable =>
      exact { same with attempts := savable.evolves TaskAttempt.origin_eq }
  | saveExecution current savable =>
      exact { same with executions := savable.evolves Execution.origin_eq }

theorem runCalls_extends (calls : List StoreCall) (w : World DomainStore) :
    Extends w.store (runCalls calls w).store :=
  runCalls_keeps (fun _ _ accepted h => h.trans accepted.extends) calls (.refl w.store)

theorem runCommands_extends (env : Env) (commands : List Command) (w : World DomainStore) :
    Extends w.store (runCommands env commands w).store :=
  runCommands_keeps (fun served h => by
    obtain ⟨call, accepted, -⟩ := served
    exact h.trans accepted.extends) env commands (.refl w.store)

/-! ## Parents -/

/-- Every entity has its parents in the store, in its own workspace, and the two parents
of an attempt belong to one goal. -/
structure Linked (store : DomainStore) : Prop where
  goal : ∀ goal ∈ store.goals.values, ∃ workspace,
    store.workspaces.get? goal.workspaceId = some workspace
  task : ∀ task ∈ store.tasks.values, ∃ goal, store.goals.get? task.goalId = some goal ∧
    goal.workspaceId = task.workspaceId
  execution : ∀ execution ∈ store.executions.values, ∃ goal,
    store.goals.get? execution.goalId = some goal ∧ goal.workspaceId = execution.workspaceId
  attempt : ∀ attempt ∈ store.attempts.values, ∃ task execution,
    store.tasks.get? attempt.taskId = some task ∧
    store.executions.get? attempt.executionId = some execution ∧
    task.workspaceId = attempt.workspaceId ∧ execution.workspaceId = attempt.workspaceId ∧
    task.goalId = execution.goalId

section Filing

variable {E σ α : Type} {kind : IdKind} [Entity E kind] [Table E kind] [Lifecycle E kind σ]
  {origin : E → α} {store : DomainStore} {entity e : E} {event : Event}

/-- The entities after a `_save` follow the entities before it. -/
theorem Savable.follows_of_mem {current : E} {v : Version} {transition : StateTransition}
    (same : Lifecycle.sameDefinition current entity = true → origin entity = origin current)
    (h : Savable store entity current v transition event)
    (mem : e ∈ ((Table.table store).put entity).values) :
    ∃ old ∈ (Table.table (E := E) store).values, Follows origin old e := by
  rcases Registry.mem_values_put.mp mem with rfl | ⟨mem, -⟩
  · exact ⟨current, Registry.mem_values_of_get? h.present, .of_savable same h⟩
  · exact ⟨e, mem, .refl e⟩

end Filing

section Sources

variable {store : DomainStore} {call : StoreCall}

/-- Where an entity of the store after a call comes from: it follows an entity that was
there, or it was added and its parents were found. -/
theorem Accepted.goal_source (h : Accepted store call) {goal : Goal}
    (mem : goal ∈ (call.result store).goals.values) :
    (∃ old ∈ store.goals.values, Follows Goal.origin old goal) ∨ Referenced store (.goal goal) := by
  cases h with
  | addGoal addable referenced =>
      rcases Registry.mem_values_put.mp mem with rfl | ⟨mem, -⟩
      · exact .inr referenced
      · exact .inl ⟨goal, mem, .refl goal⟩
  | saveGoal current savable => exact .inl (savable.follows_of_mem Goal.origin_eq mem)
  | _ => exact .inl ⟨goal, mem, .refl goal⟩

theorem Accepted.task_source (h : Accepted store call) {task : Task}
    (mem : task ∈ (call.result store).tasks.values) :
    (∃ old ∈ store.tasks.values, Follows Task.origin old task) ∨ Referenced store (.task task) := by
  cases h with
  | addTask addable referenced =>
      rcases Registry.mem_values_put.mp mem with rfl | ⟨mem, -⟩
      · exact .inr referenced
      · exact .inl ⟨task, mem, .refl task⟩
  | saveTask current savable => exact .inl (savable.follows_of_mem Task.origin_eq mem)
  | _ => exact .inl ⟨task, mem, .refl task⟩

theorem Accepted.attempt_source (h : Accepted store call) {attempt : TaskAttempt}
    (mem : attempt ∈ (call.result store).attempts.values) :
    (∃ old ∈ store.attempts.values, Follows TaskAttempt.origin old attempt) ∨
      AttemptReferenced store attempt := by
  cases h with
  | addTaskAttempt addable referenced =>
      rcases Registry.mem_values_put.mp mem with rfl | ⟨mem, -⟩
      · exact .inr referenced
      · exact .inl ⟨attempt, mem, .refl attempt⟩
  | saveTaskAttempt current savable => exact .inl (savable.follows_of_mem TaskAttempt.origin_eq mem)
  | _ => exact .inl ⟨attempt, mem, .refl attempt⟩

theorem Accepted.execution_source (h : Accepted store call) {execution : Execution}
    (mem : execution ∈ (call.result store).executions.values) :
    (∃ old ∈ store.executions.values, Follows Execution.origin old execution) ∨
      Referenced store (.execution execution) := by
  cases h with
  | addExecution addable referenced =>
      rcases Registry.mem_values_put.mp mem with rfl | ⟨mem, -⟩
      · exact .inr referenced
      · exact .inl ⟨execution, mem, .refl execution⟩
  | saveExecution current savable => exact .inl (savable.follows_of_mem Execution.origin_eq mem)
  | _ => exact .inl ⟨execution, mem, .refl execution⟩

end Sources

section Links

variable {store later : DomainStore}

/-- A parent goal stays in its workspace. -/
theorem Extends.goal_link (h : Extends store later) {id : GoalId} {workspaceId : WorkspaceId}
    (link : ∃ goal, store.goals.get? id = some goal ∧ goal.workspaceId = workspaceId) :
    ∃ goal, later.goals.get? id = some goal ∧ goal.workspaceId = workspaceId := by
  obtain ⟨goal, found, rfl⟩ := link
  obtain ⟨after, found, follows⟩ := h.goals.later found
  exact ⟨after, found, congrArg (fun o => o.2.1) follows.origin⟩

theorem Extends.attempt_link (h : Extends store later) {taskId : TaskId}
    {executionId : ExecutionId} {workspaceId : WorkspaceId}
    (link : ∃ task execution, store.tasks.get? taskId = some task ∧
      store.executions.get? executionId = some execution ∧ task.workspaceId = workspaceId ∧
      execution.workspaceId = workspaceId ∧ task.goalId = execution.goalId) :
    ∃ task execution, later.tasks.get? taskId = some task ∧
      later.executions.get? executionId = some execution ∧ task.workspaceId = workspaceId ∧
      execution.workspaceId = workspaceId ∧ task.goalId = execution.goalId := by
  obtain ⟨task, execution, foundTask, foundExecution, taskWorkspace, executionWorkspace, goals⟩ :=
    link
  obtain ⟨task', foundTask', taskFollows⟩ := h.tasks.later foundTask
  obtain ⟨execution', foundExecution', executionFollows⟩ := h.executions.later foundExecution
  have sameTask := taskFollows.origin
  have sameExecution := executionFollows.origin
  simp only [Task.origin, Execution.origin, Prod.mk.injEq] at sameTask sameExecution
  refine ⟨task', execution', foundTask', foundExecution', ?_, ?_, ?_⟩
  · rw [sameTask.2.1, taskWorkspace]
  · rw [sameExecution.2.1, executionWorkspace]
  · rw [sameTask.2.2.1, sameExecution.2.2.1, goals]

/-- An accepted call keeps every entity linked to its parents. -/
theorem Linked.step {call : StoreCall} (linked : Linked store) (accepted : Accepted store call) :
    Linked (call.result store) := by
  have ext := accepted.extends
  constructor
  · intro goal mem
    have link : ∃ workspace, store.workspaces.get? goal.workspaceId = some workspace := by
      rcases accepted.goal_source mem with ⟨old, mem, follows⟩ | referenced
      · have sameWorkspace : goal.workspaceId = old.workspaceId :=
          congrArg (fun o => o.2.1) follows.origin
        rw [sameWorkspace]
        exact linked.goal old mem
      · exact referenced
    obtain ⟨workspace, found⟩ := link
    obtain ⟨workspace', found', -⟩ := ext.workspaces.later found
    exact ⟨workspace', found'⟩
  · intro task mem
    apply ext.goal_link
    rcases accepted.task_source mem with ⟨old, mem, follows⟩ | referenced
    · have same := follows.origin
      simp only [Task.origin, Prod.mk.injEq] at same
      rw [same.2.2.1, same.2.1]
      exact linked.task old mem
    · exact referenced
  · intro execution mem
    apply ext.goal_link
    rcases accepted.execution_source mem with ⟨old, mem, follows⟩ | referenced
    · have same := follows.origin
      simp only [Execution.origin, Prod.mk.injEq] at same
      rw [same.2.2.1, same.2.1]
      exact linked.execution old mem
    · exact referenced
  · intro attempt mem
    apply ext.attempt_link
    rcases accepted.attempt_source mem with ⟨old, mem, follows⟩ | referenced
    · have same := follows.origin
      simp only [TaskAttempt.origin, Prod.mk.injEq] at same
      rw [same.2.2.1, same.2.2.2.1, same.2.1]
      exact linked.attempt old mem
    · obtain ⟨task, foundTask, taskWorkspace, execution, foundExecution, executionWorkspace, goals,
        -⟩ := referenced.task
      exact ⟨task, execution, foundTask, foundExecution, taskWorkspace, executionWorkspace, goals⟩

theorem linked_empty : Linked .empty := by
  constructor <;> intro e mem <;> cases mem

end Links

/-! ## Attempts of a task -/

/-- Attempts with ordinals `1..n`, each with the one before it as its predecessor, and all
but the last of them ended. -/
structure Lineage (attempts : List TaskAttempt) : Prop where
  ordinals : attempts.map TaskAttempt.ordinal = List.range' 1 attempts.length
  predecessors : attempts.map TaskAttempt.previousAttemptId =
    (none :: attempts.map fun a => some a.id).dropLast
  ended : ∀ a ∈ attempts.dropLast, a.status.terminal = true

namespace Lineage

theorem nil : Lineage [] := ⟨rfl, rfl, fun _ mem => by cases mem⟩

/-- The next attempt of a lineage whose attempts have all ended. -/
theorem append_one {attempts : List TaskAttempt} {e : TaskAttempt} (h : Lineage attempts)
    (ended : ∀ a ∈ attempts, a.status.terminal = true) (ordinal : e.ordinal = attempts.length + 1)
    (predecessor : e.previousAttemptId = attempts.getLast?.map TaskAttempt.id) :
    Lineage (attempts ++ [e]) := by
  constructor
  · rw [List.map_append, h.ordinals, List.length_append, List.length_singleton,
      List.range'_concat, List.map_singleton, ordinal, Nat.one_mul, Nat.add_comm 1]
  · rw [List.map_append, h.predecessors, List.map_append, ← List.cons_append]
    simp only [List.map_cons, List.map_nil, List.dropLast_concat, predecessor]
    -- The predecessor is the last entry of the list that the dropped one ends.
    apply List.dropLast_append_getLast?
    rw [List.getLast?_cons, List.getLast?_map]
    cases attempts.getLast? <;> rfl
  · rw [List.dropLast_concat]
    exact ended

/-- A change of some attempts that keeps what the lineage is made of. -/
theorem map {attempts : List TaskAttempt} (h : Lineage attempts) {f : TaskAttempt → TaskAttempt}
    (origin : ∀ a ∈ attempts, (f a).origin = a.origin)
    (ended : ∀ a ∈ attempts, a.status.terminal = true → (f a).status.terminal = true) :
    Lineage (attempts.map f) := by
  simp only [TaskAttempt.origin, Prod.mk.injEq] at origin
  constructor
  · rw [List.length_map, ← h.ordinals, List.map_map]
    exact List.map_congr_left fun a mem => (origin a mem).2.2.2.2.1
  · have ids : (attempts.map f).map (fun a => some a.id) = attempts.map fun a => some a.id := by
      rw [List.map_map]
      exact List.map_congr_left fun a mem => congrArg some (origin a mem).1
    rw [ids, ← h.predecessors, List.map_map]
    exact List.map_congr_left fun a mem => (origin a mem).2.2.2.2.2.1
  · rw [← List.map_dropLast]
    intro b mem
    obtain ⟨a, early, rfl⟩ := List.mem_map.mp mem
    exact ended a (List.dropLast_subset attempts early) (h.ended a early)

/-- A lineage is in the order of its ordinals. -/
theorem insertionSort_eq {attempts : List TaskAttempt} (h : Lineage attempts) :
    attempts.insertionSort (fun a b => a.ordinal ≤ b.ordinal) = attempts := by
  apply List.Pairwise.insertionSort_eq
  have increasing : (attempts.map TaskAttempt.ordinal).Pairwise (· ≤ ·) := by
    rw [h.ordinals]
    exact List.pairwise_le_range' 1
  exact List.pairwise_map.mp increasing

end Lineage

/-- The attempts of a task in the order of their insertion. -/
def DomainStore.attemptsFiled (store : DomainStore) (taskId : TaskId) : List TaskAttempt :=
  store.attempts.values.filter fun attempt => attempt.taskId = taskId

/-- The attempts of every task form a lineage, and those of every execution are within its
bounds. -/
structure Bounded (store : DomainStore) : Prop where
  lineage : ∀ taskId, Lineage (store.attemptsFiled taskId)
  bound : ∀ execution ∈ store.executions.values,
    (store.attemptsForExecution execution.id).length ≤ execution.bounds.maxTaskAttempts

/-- The store reads the attempts of a task in the order in which they were inserted. -/
theorem Bounded.attemptsForTask_eq {store : DomainStore} (h : Bounded store) (taskId : TaskId) :
    store.attemptsForTask taskId = store.attemptsFiled taskId :=
  (h.lineage taskId).insertionSort_eq

theorem bounded_empty : Bounded .empty := ⟨fun _ => Lineage.nil, fun _ mem => by cases mem⟩

section Attempts

variable {store : DomainStore} {entity : TaskAttempt} {event : Event}

/-- A new attempt comes last among the selected ones. -/
theorem filter_inserted (addable : Addable store entity event) (p : TaskAttempt → Bool) :
    (store.inserted entity event).attempts.values.filter p =
      if p entity then store.attempts.values.filter p ++ [entity]
      else store.attempts.values.filter p := by
  have appended : (store.inserted entity event).attempts.values =
      store.attempts.values ++ [entity] := Registry.values_put_of_absent addable.absent
  rw [appended, List.filter_append]
  split <;> simp [*]

theorem attemptsFiled_inserted (addable : Addable store entity event) (taskId : TaskId) :
    (store.inserted entity event).attemptsFiled taskId =
      if entity.taskId = taskId then store.attemptsFiled taskId ++ [entity]
      else store.attemptsFiled taskId := by
  simpa [DomainStore.attemptsFiled] using
    filter_inserted addable fun attempt => attempt.taskId = taskId

theorem attemptsForExecution_inserted (addable : Addable store entity event)
    (executionId : ExecutionId) :
    (store.inserted entity event).attemptsForExecution executionId =
      if entity.executionId = executionId then store.attemptsForExecution executionId ++ [entity]
      else store.attemptsForExecution executionId := by
  simpa [DomainStore.attemptsForExecution] using
    filter_inserted addable fun attempt => attempt.executionId = executionId

/-- A changed attempt takes the place of the stored one, which had not ended. -/
theorem filter_replaced {current : TaskAttempt} {v : Version} {transition : StateTransition}
    (savable : Savable store entity current v transition event) {p : TaskAttempt → Bool}
    (same : p entity = p current) :
    ∃ f : TaskAttempt → TaskAttempt,
      (store.replaced entity transition event).attempts.values.filter p =
        (store.attempts.values.filter p).map f ∧
      ∀ a ∈ store.attempts.values, (f a).origin = a.origin ∧
        (a.status.terminal = true → (f a).status.terminal = true) := by
  refine ⟨fun a => if a.id = entity.id then entity else a,
    Registry.filter_values_put_of_present savable.present same, fun a mem => ?_⟩
  by_cases here : a.id = entity.id
  · have found := Registry.get?_of_mem_values mem
    rw [here] at found
    obtain rfl : a = current := Option.some.inj (found.symm.trans savable.present)
    have live : ¬a.status.terminal = true := by
      intro ended
      have legal : entity.status ∈ a.status.allowed := savable.legal
      cases status : a.status <;>
        simp [status, TaskAttemptStatus.allowed, TaskAttemptStatus.terminal] at legal ended
    simp only [here, if_pos]
    exact ⟨TaskAttempt.origin_eq savable.definition, fun ended => absurd ended live⟩
  · simp [here]

end Attempts

/-- The attempts of an execution that is not stored. -/
theorem Linked.attemptsForExecution_eq_nil {store : DomainStore} (linked : Linked store)
    {id : ExecutionId} (absent : store.executions.get? id = none) :
    store.attemptsForExecution id = [] := by
  apply List.filter_eq_nil_iff.mpr
  intro attempt mem same
  obtain ⟨task, execution, -, found, -⟩ := linked.attempt attempt mem
  rw [of_decide_eq_true same, absent] at found
  cases found

/-- An accepted call keeps the lineages and the bounds. -/
theorem Bounded.step {store : DomainStore} {call : StoreCall} (bounded : Bounded store)
    (linked : Linked store) (accepted : Accepted store call) : Bounded (call.result store) := by
  cases accepted with
  | addTaskAttempt addable referenced =>
      rename_i entity event
      obtain ⟨task, foundTask, -, execution, foundExecution, -, -, room⟩ := referenced.task
      have ended := referenced.ended
      have ordinal := referenced.ordinal
      have predecessor := referenced.predecessor
      rw [bounded.attemptsForTask_eq] at ended ordinal predecessor
      constructor
      · intro taskId
        show Lineage ((store.inserted entity event).attemptsFiled taskId)
        rw [attemptsFiled_inserted addable]
        split
        · next own =>
            subst own
            exact (bounded.lineage entity.taskId).append_one ended ordinal predecessor
        · exact bounded.lineage taskId
      · intro other mem
        replace mem : other ∈ store.executions.values := mem
        show ((store.inserted entity event).attemptsForExecution other.id).length ≤ _
        rw [attemptsForExecution_inserted addable]
        split
        · next own =>
            rw [own] at foundExecution room
            have found := Registry.get?_of_mem_values mem
            obtain rfl : other = execution := Option.some.inj (found.symm.trans foundExecution)
            rw [List.length_append, List.length_singleton]
            exact room
        · exact bounded.bound other mem
  | saveTaskAttempt current savable =>
      rename_i entity v transition event
      have origin := TaskAttempt.origin_eq savable.definition
      simp only [TaskAttempt.origin, Prod.mk.injEq] at origin
      constructor
      · intro taskId
        obtain ⟨f, replaced, kept⟩ := filter_replaced savable
          (p := fun attempt => attempt.taskId = taskId) (by rw [origin.2.2.1])
        show Lineage ((store.replaced entity transition event).attempts.values.filter _)
        rw [replaced]
        exact (bounded.lineage taskId).map (fun a mem => (kept a (List.mem_of_mem_filter mem)).1)
          fun a mem => (kept a (List.mem_of_mem_filter mem)).2
      · intro execution mem
        obtain ⟨f, replaced, -⟩ := filter_replaced savable
          (p := fun attempt => attempt.executionId = execution.id) (by rw [origin.2.2.2.1])
        show ((store.replaced entity transition event).attempts.values.filter _).length ≤ _
        rw [replaced, List.length_map]
        exact bounded.bound execution mem
  | addExecution addable referenced =>
      refine ⟨bounded.lineage, fun execution mem => ?_⟩
      rcases Registry.mem_values_put.mp mem with rfl | ⟨mem, -⟩
      · have empty : store.attemptsForExecution execution.id = [] :=
          linked.attemptsForExecution_eq_nil addable.absent
        show (store.attemptsForExecution execution.id).length ≤ _
        rw [empty]
        exact Nat.zero_le _
      · exact bounded.bound execution mem
  | saveExecution current savable =>
      refine ⟨bounded.lineage, fun execution mem => ?_⟩
      obtain ⟨old, mem, follows⟩ := savable.follows_of_mem Execution.origin_eq mem
      have same := follows.origin
      simp only [Execution.origin, Prod.mk.injEq] at same
      rw [same.1, same.2.2.2.2.1]
      exact bounded.bound old mem
  | _ => exact ⟨bounded.lineage, bounded.bound⟩

/-- What the store enforces on its own. -/
theorem enforced_runCalls (calls : List StoreCall) :
    Linked (runCalls calls emptyWorld).store ∧ Bounded (runCalls calls emptyWorld).store :=
  runCalls_keeps (P := fun store => Linked store ∧ Bounded store)
    (fun _ _ accepted h => ⟨h.1.step accepted, h.2.step h.1 accepted⟩) calls
    ⟨linked_empty, bounded_empty⟩

/-- After any calls of `add_*` and `save_*`, whatever their arguments and whether they were
accepted, the attempts of every task form one lineage in the order of their ordinals, those
of every execution are within its bounds, and further calls leave the identifiers, parents,
ordinals and creation fields of every stored entity as they are. -/
theorem runCalls_lineage (calls more : List StoreCall) :
    let store := (runCalls calls emptyWorld).store
    let later := (runCalls more (runCalls calls emptyWorld)).store
    (∀ taskId, Lineage (store.attemptsForTask taskId)) ∧
    (∀ execution ∈ store.executions.values,
      (store.attemptsForExecution execution.id).length ≤ execution.bounds.maxTaskAttempts) ∧
    (∀ workspace ∈ store.workspaces.values,
      later.workspaces.get? workspace.id = some workspace) ∧
    (∀ goal ∈ store.goals.values, ∃ after, later.goals.get? goal.id = some after ∧
      after.origin = goal.origin) ∧
    (∀ task ∈ store.tasks.values, ∃ after, later.tasks.get? task.id = some after ∧
      after.origin = task.origin) ∧
    (∀ attempt ∈ store.attempts.values, ∃ after, later.attempts.get? attempt.id = some after ∧
      after.origin = attempt.origin) ∧
    (∀ execution ∈ store.executions.values, ∃ after,
      later.executions.get? execution.id = some after ∧ after.origin = execution.origin) := by
  intro store later
  have bounded := (enforced_runCalls calls).2
  have ext : Extends store later := runCalls_extends more _
  refine ⟨fun taskId => ?_, bounded.bound, fun workspace mem => ?_, fun goal mem => ?_,
    fun task mem => ?_, fun attempt mem => ?_, fun execution mem => ?_⟩
  · rw [bounded.attemptsForTask_eq]
    exact bounded.lineage taskId
  · obtain ⟨after, found, rfl⟩ := ext.workspaces.later (Registry.get?_of_mem_values mem)
    exact found
  · obtain ⟨after, found, follows⟩ := ext.goals.later (Registry.get?_of_mem_values mem)
    exact ⟨after, found, follows.origin⟩
  · obtain ⟨after, found, follows⟩ := ext.tasks.later (Registry.get?_of_mem_values mem)
    exact ⟨after, found, follows.origin⟩
  · obtain ⟨after, found, follows⟩ := ext.attempts.later (Registry.get?_of_mem_values mem)
    exact ⟨after, found, follows.origin⟩
  · obtain ⟨after, found, follows⟩ := ext.executions.later (Registry.get?_of_mem_values mem)
    exact ⟨after, found, follows.origin⟩

end AgentCompanyOS.Domain
