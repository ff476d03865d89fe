import AgentCompanyOS.Domain.Audit

/-!
# Workspaces, goals, tasks, attempts and executions

The five stored entity types. Four of them have a lifecycle: a status, a table of
allowed changes and one method that performs a change. The method is the same in
the four classes, so it is written once over the class `Lifecycle`
(`Lifecycle.transition`) and every entity keeps its own table, its own field
updates and its own named changes. Blank text and non-positive bounds are excluded
by the types of the fields.
-/

set_option autoImplicit false

namespace AgentCompanyOS.Domain

open Foundation

/-! ## Entities and their lifecycles -/

/-- What the store reads of every entity. -/
class Entity (E : Type) (kind : outParam IdKind) where
  typeName : String
  subjectType : SubjectType
  id : E → OpaqueId kind
  workspaceId : E → WorkspaceId
  version : E → Version

/-- An entity with a status. `moved` is the `dataclasses.replace` of `_transition`,
and `sameDefinition` compares the fields that a change of status leaves alone. -/
class Lifecycle (E : Type) (kind : outParam IdKind) (σ : outParam Type) [Entity E kind] where
  statusDecEq : DecidableEq σ
  value : σ → Text
  allowed : σ → List σ
  status : E → σ
  updatedAt : E → Instant
  sameDefinition : E → E → Bool
  moved : E → σ → Version → Instant → Text → E
  id_moved : ∀ e s v t r, Entity.id (moved e s v t r) = Entity.id e
  workspaceId_moved : ∀ e s v t r, Entity.workspaceId (moved e s v t r) = Entity.workspaceId e
  version_moved : ∀ e s v t r, Entity.version (moved e s v t r) = v
  status_moved : ∀ e s v t r, status (moved e s v t r) = s
  updatedAt_moved : ∀ e s v t r, updatedAt (moved e s v t r) = t
  sameDefinition_moved : ∀ e s v t r, sameDefinition e (moved e s v t r) = true

attribute [reducible, instance] Lifecycle.statusDecEq

theorem Lifecycle.lawful {E σ : Type} {kind : IdKind} [Entity E kind] [Lifecycle E kind σ] :
    LawfulBEq σ :=
  inferInstance

attribute [local instance] Lifecycle.lawful

attribute [simp] Lifecycle.id_moved Lifecycle.workspaceId_moved Lifecycle.version_moved
  Lifecycle.status_moved Lifecycle.updatedAt_moved Lifecycle.sameDefinition_moved

/-- A changed entity with the record of the change. -/
structure TransitionResult (E : Type) where
  entity : E
  transition : StateTransition

/-- The record that `_transition` writes. -/
def Lifecycle.record {E σ : Type} {kind : IdKind} [Entity E kind]
    [Lifecycle E kind σ] (self : E) (target : σ) (transitionId : StateTransitionId)
    (at' : Instant) (reason : Text) : StateTransition where
  id := transitionId
  workspaceId := Entity.workspaceId self
  subjectType := Entity.subjectType E
  subjectId := (Entity.id self).text
  previousStatus := value E (status self)
  newStatus := value E target
  reason := reason
  fromVersion := Entity.version self
  toVersion := (Entity.version self).next
  occurredAt := at'
  increment := rfl

/-- `_transition` of the four lifecycles. -/
def Lifecycle.transition {E σ : Type} {kind : IdKind} [Entity E kind]
    [Lifecycle E kind σ] (self : E) (target : σ) (transitionId : StateTransitionId)
    (at' : Instant) (reason : Text) :
    Except DomainError (TransitionResult E) :=
  if target ∉ allowed E (status self) then
    .error (.invalidStateTransition (py (Entity.typeName E)) (Entity.id self).value
      (value E (status self)).val (value E target).val)
  else do
    requireMonotonicTime (updatedAt self) at' "transition_at"
    .ok ⟨moved self target (Entity.version self).next at' reason,
      Lifecycle.record self target transitionId at' reason⟩

/-- A change that the lifecycle accepts is in its table and does not go back in time. -/
theorem Lifecycle.transition_eq_ok {E σ : Type} {kind : IdKind} [Entity E kind]
    [Lifecycle E kind σ] {self : E}
    {target : σ} {transitionId : StateTransitionId} {at' : Instant} {reason : Text}
    {r : TransitionResult E} :
    Lifecycle.transition self target transitionId at' reason = .ok r ↔
      target ∈ allowed E (status self) ∧ updatedAt self ≤ at' ∧
        r = ⟨moved self target (Entity.version self).next at' reason,
          Lifecycle.record self target transitionId at' reason⟩ := by
  unfold Lifecycle.transition requireMonotonicTime
  by_cases legal : target ∈ allowed E (status self)
  · by_cases late : at' < updatedAt self
    · simp [legal, late, bind, Except.bind, Int.not_le.mpr late]
    · simp [legal, late, bind, Except.bind, Int.not_lt.mp late, eq_comm]
  · simp [legal]

/-! ## Workspace -/

/-- Tenancy root. It has one status and no lifecycle. -/
structure Workspace where
  id : WorkspaceId
  name : Text
  version : Version
  createdAt : Instant
  updatedAt : Instant
deriving DecidableEq

/-- `Workspace.create`. -/
def Workspace.create (id : WorkspaceId) (name : PyStr) (createdAt : Instant) :
    Except DomainError Workspace := do
  let name ← cleanRequiredText name "name"
  .ok ⟨id, name, .initial, createdAt, createdAt⟩

instance : Entity Workspace .workspace where
  typeName := "Workspace"
  subjectType := .workspace
  id := Workspace.id
  workspaceId := Workspace.id
  version := Workspace.version

/-! ## Goal -/

inductive GoalStatus where
  | draft | active | satisfied | closedUnsatisfied | cancelled
deriving DecidableEq

def GoalStatus.value : GoalStatus → Text
  | draft => txt "draft"
  | active => txt "active"
  | satisfied => txt "satisfied"
  | closedUnsatisfied => txt "closed_unsatisfied"
  | cancelled => txt "cancelled" cancelled_visible

/-- `Goal._ALLOWED`. -/
def GoalStatus.allowed : GoalStatus → List GoalStatus
  | draft => [active, cancelled]
  | active => [satisfied, closedUnsatisfied, cancelled]
  | satisfied => []
  | closedUnsatisfied => []
  | cancelled => []

/-- An outcome that someone wants. -/
structure Goal where
  id : GoalId
  workspaceId : WorkspaceId
  objective : Text
  constraints : List Text
  acceptanceCriteria : { texts : List Text // texts ≠ [] }
  status : GoalStatus
  version : Version
  createdAt : Instant
  updatedAt : Instant
deriving DecidableEq

/-- `Goal.create`. -/
def Goal.create (id : GoalId) (workspaceId : WorkspaceId) (objective : PyStr)
    (constraints acceptanceCriteria : List PyStr) (createdAt : Instant) :
    Except DomainError Goal := do
  let objective ← cleanRequiredText objective "objective"
  let constraints ← cleanOptionalTexts constraints "constraints"
  let acceptanceCriteria ← cleanRequiredTexts acceptanceCriteria "acceptance_criteria"
  .ok ⟨id, workspaceId, objective, constraints, acceptanceCriteria, .draft, .initial, createdAt,
    createdAt⟩

theorem Goal.status_create {id : GoalId} {workspaceId : WorkspaceId} {objective : PyStr}
    {constraints acceptanceCriteria : List PyStr} {createdAt : Instant} {goal : Goal}
    (h : Goal.create id workspaceId objective constraints acceptanceCriteria createdAt = .ok goal) :
    goal.status = .draft := by
  obtain ⟨_, _, h⟩ := except_bind_ok h
  obtain ⟨_, _, h⟩ := except_bind_ok h
  obtain ⟨_, _, h⟩ := except_bind_ok h
  cases h
  rfl

instance : Entity Goal .goal where
  typeName := "Goal"
  subjectType := .goal
  id := Goal.id
  workspaceId := Goal.workspaceId
  version := Goal.version

instance : Lifecycle Goal .goal GoalStatus where
  statusDecEq := inferInstance
  value := GoalStatus.value
  allowed := GoalStatus.allowed
  status := Goal.status
  updatedAt := Goal.updatedAt
  sameDefinition a b := a.id = b.id && a.workspaceId = b.workspaceId && a.objective = b.objective &&
    a.constraints = b.constraints && a.acceptanceCriteria = b.acceptanceCriteria &&
    a.createdAt = b.createdAt
  moved e status version updatedAt _ :=
    { e with status := status, version := version, updatedAt := updatedAt }
  id_moved _ _ _ _ _ := rfl
  workspaceId_moved _ _ _ _ _ := rfl
  version_moved _ _ _ _ _ := rfl
  status_moved _ _ _ _ _ := rfl
  updatedAt_moved _ _ _ _ _ := rfl
  sameDefinition_moved _ _ _ _ _ := by simp

namespace Goal

def activate (self : Goal) (transitionId : StateTransitionId) (at' : Instant) :=
  Lifecycle.transition self GoalStatus.active transitionId at' (txt "activate")

def satisfy (self : Goal) (transitionId : StateTransitionId) (at' : Instant) :=
  Lifecycle.transition self GoalStatus.satisfied transitionId at' (txt "accept_outcome")

def closeUnsatisfied (self : Goal) (transitionId : StateTransitionId) (at' : Instant) :=
  Lifecycle.transition self GoalStatus.closedUnsatisfied transitionId at'
    (txt "close_without_satisfaction")

def cancel (self : Goal) (transitionId : StateTransitionId) (at' : Instant) :=
  Lifecycle.transition self GoalStatus.cancelled transitionId at' (txt "cancel")

end Goal

/-! ## Task -/

inductive TaskStatus where
  | proposed | ready | inProgress | blocked | completed | failed | cancelled
deriving DecidableEq

def TaskStatus.value : TaskStatus → Text
  | proposed => txt "proposed"
  | ready => txt "ready"
  | inProgress => txt "in_progress"
  | blocked => txt "blocked"
  | completed => txt "completed"
  | failed => txt "failed" failed_visible
  | cancelled => txt "cancelled" cancelled_visible

/-- `Task._ALLOWED`. -/
def TaskStatus.allowed : TaskStatus → List TaskStatus
  | proposed => [ready, cancelled]
  | ready => [inProgress, cancelled]
  | inProgress => [completed, ready, blocked, failed, cancelled]
  | blocked => [ready, failed, cancelled]
  | completed => []
  | failed => []
  | cancelled => []

/-- Logical work towards a goal. -/
structure Task where
  id : TaskId
  workspaceId : WorkspaceId
  goalId : GoalId
  title : Text
  acceptanceCriteria : { texts : List Text // texts ≠ [] }
  status : TaskStatus
  version : Version
  createdAt : Instant
  updatedAt : Instant
deriving DecidableEq

/-- `Task.create`. -/
def Task.create (id : TaskId) (workspaceId : WorkspaceId) (goalId : GoalId) (title : PyStr)
    (acceptanceCriteria : List PyStr) (createdAt : Instant) : Except DomainError Task := do
  let title ← cleanRequiredText title "title"
  let acceptanceCriteria ← cleanRequiredTexts acceptanceCriteria "acceptance_criteria"
  .ok ⟨id, workspaceId, goalId, title, acceptanceCriteria, .proposed, .initial, createdAt,
    createdAt⟩

theorem Task.status_create {id : TaskId} {workspaceId : WorkspaceId} {goalId : GoalId}
    {title : PyStr} {acceptanceCriteria : List PyStr} {createdAt : Instant} {task : Task}
    (h : Task.create id workspaceId goalId title acceptanceCriteria createdAt = .ok task) :
    task.status = .proposed := by
  obtain ⟨_, _, h⟩ := except_bind_ok h
  obtain ⟨_, _, h⟩ := except_bind_ok h
  cases h
  rfl

theorem Task.goalId_create {id : TaskId} {workspaceId : WorkspaceId} {goalId : GoalId}
    {title : PyStr} {acceptanceCriteria : List PyStr} {createdAt : Instant} {task : Task}
    (h : Task.create id workspaceId goalId title acceptanceCriteria createdAt = .ok task) :
    task.goalId = goalId := by
  obtain ⟨_, _, h⟩ := except_bind_ok h
  obtain ⟨_, _, h⟩ := except_bind_ok h
  cases h
  rfl

instance : Entity Task .task where
  typeName := "Task"
  subjectType := .task
  id := Task.id
  workspaceId := Task.workspaceId
  version := Task.version

instance : Lifecycle Task .task TaskStatus where
  statusDecEq := inferInstance
  value := TaskStatus.value
  allowed := TaskStatus.allowed
  status := Task.status
  updatedAt := Task.updatedAt
  sameDefinition a b := a.id = b.id && a.workspaceId = b.workspaceId && a.goalId = b.goalId &&
    a.title = b.title && a.acceptanceCriteria = b.acceptanceCriteria && a.createdAt = b.createdAt
  moved e status version updatedAt _ :=
    { e with status := status, version := version, updatedAt := updatedAt }
  id_moved _ _ _ _ _ := rfl
  workspaceId_moved _ _ _ _ _ := rfl
  version_moved _ _ _ _ _ := rfl
  status_moved _ _ _ _ _ := rfl
  updatedAt_moved _ _ _ _ _ := rfl
  sameDefinition_moved _ _ _ _ _ := by simp

namespace Task

def markReady (self : Task) (transitionId : StateTransitionId) (at' : Instant) :=
  Lifecycle.transition self TaskStatus.ready transitionId at'
    (if self.status = .proposed then txt "accept_work_definition" else txt "retry_ready")

def start (self : Task) (transitionId : StateTransitionId) (at' : Instant) :=
  Lifecycle.transition self TaskStatus.inProgress transitionId at' (txt "start_attempt")

def complete (self : Task) (transitionId : StateTransitionId) (at' : Instant) :=
  Lifecycle.transition self TaskStatus.completed transitionId at' (txt "accept_result")

def block (self : Task) (transitionId : StateTransitionId) (at' : Instant) :=
  Lifecycle.transition self TaskStatus.blocked transitionId at' (txt "block")

def fail (self : Task) (transitionId : StateTransitionId) (at' : Instant) :=
  Lifecycle.transition self TaskStatus.failed transitionId at' (txt "close_unsuccessful")

def cancel (self : Task) (transitionId : StateTransitionId) (at' : Instant) :=
  Lifecycle.transition self TaskStatus.cancelled transitionId at' (txt "cancel")

end Task

/-! ## TaskAttempt -/

inductive TaskAttemptStatus where
  | created | running | succeeded | failed | cancelled
deriving DecidableEq

def TaskAttemptStatus.value : TaskAttemptStatus → Text
  | created => txt "created"
  | running => txt "running" running_visible
  | succeeded => txt "succeeded" succeeded_visible
  | failed => txt "failed" failed_visible
  | cancelled => txt "cancelled" cancelled_visible

/-- `TaskAttempt._ALLOWED`. -/
def TaskAttemptStatus.allowed : TaskAttemptStatus → List TaskAttemptStatus
  | created => [running, cancelled]
  | running => [succeeded, failed, cancelled]
  | succeeded => []
  | failed => []
  | cancelled => []

/-- `TaskAttempt.terminal_statuses`. -/
def TaskAttemptStatus.terminal (s : TaskAttemptStatus) : Bool :=
  s = succeeded || s = failed || s = cancelled

/-- A historical attempt at one task. The first attempt has no predecessor, every
later one has. -/
structure TaskAttempt where
  id : TaskAttemptId
  workspaceId : WorkspaceId
  taskId : TaskId
  executionId : ExecutionId
  ordinal : Nat
  previousAttemptId : Option TaskAttemptId
  status : TaskAttemptStatus
  version : Version
  createdAt : Instant
  updatedAt : Instant
  startedAt : Option Instant
  endedAt : Option Instant
  failureReason : Option Text
  ordinalPositive : 1 ≤ ordinal
  retryLink : ordinal = 1 ↔ previousAttemptId = none
deriving DecidableEq

/-- `TaskAttempt.create`. -/
def TaskAttempt.create (id : TaskAttemptId) (workspaceId : WorkspaceId) (taskId : TaskId)
    (executionId : ExecutionId) (ordinal : Nat) (previousAttemptId : Option TaskAttemptId)
    (createdAt : Instant) : Except DomainError TaskAttempt :=
  if positive : 1 ≤ ordinal then
    if linked : ordinal = 1 ↔ previousAttemptId = none then
      .ok ⟨id, workspaceId, taskId, executionId, ordinal, previousAttemptId, .created, .initial,
        createdAt, createdAt, none, none, none, positive, linked⟩
    else .error (.invariantViolation "task_attempt_retry_link_matches_ordinal" [])
  else .error (.invariantViolation "task_attempt_ordinal_positive" [])

theorem TaskAttempt.status_create {id : TaskAttemptId} {workspaceId : WorkspaceId}
    {taskId : TaskId} {executionId : ExecutionId} {ordinal : Nat}
    {previousAttemptId : Option TaskAttemptId} {createdAt : Instant} {attempt : TaskAttempt}
    (h : TaskAttempt.create id workspaceId taskId executionId ordinal previousAttemptId createdAt =
      .ok attempt) : attempt.status = .created := by
  unfold TaskAttempt.create at h
  split at h
  · split at h
    · cases h
      rfl
    · cases h
  · cases h

theorem TaskAttempt.parents_create {id : TaskAttemptId} {workspaceId : WorkspaceId}
    {taskId : TaskId} {executionId : ExecutionId} {ordinal : Nat}
    {previousAttemptId : Option TaskAttemptId} {createdAt : Instant} {attempt : TaskAttempt}
    (h : TaskAttempt.create id workspaceId taskId executionId ordinal previousAttemptId createdAt =
      .ok attempt) : attempt.taskId = taskId ∧ attempt.executionId = executionId := by
  unfold TaskAttempt.create at h
  split at h
  · split at h
    · cases h
      exact ⟨rfl, rfl⟩
    · cases h
  · cases h

instance : Entity TaskAttempt .taskAttempt where
  typeName := "TaskAttempt"
  subjectType := .taskAttempt
  id := TaskAttempt.id
  workspaceId := TaskAttempt.workspaceId
  version := TaskAttempt.version

instance : Lifecycle TaskAttempt .taskAttempt TaskAttemptStatus where
  statusDecEq := inferInstance
  value := TaskAttemptStatus.value
  allowed := TaskAttemptStatus.allowed
  status := TaskAttempt.status
  updatedAt := TaskAttempt.updatedAt
  sameDefinition a b := a.id = b.id && a.workspaceId = b.workspaceId && a.taskId = b.taskId &&
    a.executionId = b.executionId && a.ordinal = b.ordinal &&
    a.previousAttemptId = b.previousAttemptId && a.createdAt = b.createdAt
  moved e status version updatedAt reason :=
    { e with
      status := status
      version := version
      updatedAt := updatedAt
      startedAt := if status = .running then some updatedAt else e.startedAt
      endedAt := if status.terminal then some updatedAt else e.endedAt
      failureReason := if status = .failed then some reason else e.failureReason }
  id_moved _ _ _ _ _ := rfl
  workspaceId_moved _ _ _ _ _ := rfl
  version_moved _ _ _ _ _ := rfl
  status_moved _ _ _ _ _ := rfl
  updatedAt_moved _ _ _ _ _ := rfl
  sameDefinition_moved _ _ _ _ _ := by simp

namespace TaskAttempt

def start (self : TaskAttempt) (transitionId : StateTransitionId) (at' : Instant) :=
  Lifecycle.transition self TaskAttemptStatus.running transitionId at' (txt "start")

def succeed (self : TaskAttempt) (transitionId : StateTransitionId) (at' : Instant) :=
  Lifecycle.transition self TaskAttemptStatus.succeeded transitionId at' (txt "result_accepted")

/-- The reason is checked, but recorded as it was given. -/
def fail (self : TaskAttempt) (transitionId : StateTransitionId) (at' : Instant)
    (reason : PyStr) : Except DomainError (TransitionResult TaskAttempt) :=
  if h : strip reason = [] then
    .error (.invariantViolation "required_text" [("field", py "failure_reason")])
  else Lifecycle.transition self TaskAttemptStatus.failed transitionId at' ⟨reason, h⟩

def cancel (self : TaskAttempt) (transitionId : StateTransitionId) (at' : Instant) :=
  Lifecycle.transition self TaskAttemptStatus.cancelled transitionId at' (txt "cancel")

end TaskAttempt

/-! ## Execution -/

inductive ExecutionStatus where
  | created | running | waiting | succeeded | failed | cancelled
deriving DecidableEq

def ExecutionStatus.value : ExecutionStatus → Text
  | created => txt "created"
  | running => txt "running" running_visible
  | waiting => txt "waiting" waiting_visible
  | succeeded => txt "succeeded" succeeded_visible
  | failed => txt "failed" failed_visible
  | cancelled => txt "cancelled" cancelled_visible

/-- `Execution._ALLOWED`. -/
def ExecutionStatus.allowed : ExecutionStatus → List ExecutionStatus
  | created => [running, cancelled]
  | running => [waiting, succeeded, failed, cancelled]
  | waiting => [running, failed, cancelled]
  | succeeded => []
  | failed => []
  | cancelled => []

/-- `Execution.terminal_statuses`. -/
def ExecutionStatus.terminal (s : ExecutionStatus) : Bool :=
  s = succeeded || s = failed || s = cancelled

/-- Bounds of an execution. -/
structure ExecutionBounds where
  maxTaskAttempts : Nat
  positive : 1 ≤ maxTaskAttempts
deriving DecidableEq

/-- `ExecutionBounds(...)`. -/
def ExecutionBounds.create (maxTaskAttempts : Int) : Except DomainError ExecutionBounds :=
  if h : maxTaskAttempts < 1 then
    .error (.invariantViolation "execution_max_task_attempts_positive" [])
  else .ok ⟨maxTaskAttempts.toNat, by omega⟩

/-- Bounded bookkeeping of work on a goal. -/
structure Execution where
  id : ExecutionId
  workspaceId : WorkspaceId
  goalId : GoalId
  initiatedBy : Text
  bounds : ExecutionBounds
  retryOf : Option ExecutionId
  status : ExecutionStatus
  version : Version
  createdAt : Instant
  updatedAt : Instant
  startedAt : Option Instant
  endedAt : Option Instant
  failureReason : Option Text
deriving DecidableEq

/-- `Execution.create`. -/
def Execution.create (id : ExecutionId) (workspaceId : WorkspaceId) (goalId : GoalId)
    (initiatedBy : PyStr) (bounds : ExecutionBounds) (retryOf : Option ExecutionId)
    (createdAt : Instant) : Except DomainError Execution := do
  let initiatedBy ← cleanRequiredText initiatedBy "initiated_by"
  .ok ⟨id, workspaceId, goalId, initiatedBy, bounds, retryOf, .created, .initial, createdAt,
    createdAt, none, none, none⟩

theorem Execution.status_create {id : ExecutionId} {workspaceId : WorkspaceId} {goalId : GoalId}
    {initiatedBy : PyStr} {bounds : ExecutionBounds} {retryOf : Option ExecutionId}
    {createdAt : Instant} {execution : Execution}
    (h : Execution.create id workspaceId goalId initiatedBy bounds retryOf createdAt =
      .ok execution) : execution.status = .created := by
  obtain ⟨_, _, h⟩ := except_bind_ok h
  cases h
  rfl

theorem Execution.goalId_create {id : ExecutionId} {workspaceId : WorkspaceId} {goalId : GoalId}
    {initiatedBy : PyStr} {bounds : ExecutionBounds} {retryOf : Option ExecutionId}
    {createdAt : Instant} {execution : Execution}
    (h : Execution.create id workspaceId goalId initiatedBy bounds retryOf createdAt =
      .ok execution) : execution.goalId = goalId := by
  obtain ⟨_, _, h⟩ := except_bind_ok h
  cases h
  rfl

instance : Entity Execution .execution where
  typeName := "Execution"
  subjectType := .execution
  id := Execution.id
  workspaceId := Execution.workspaceId
  version := Execution.version

instance : Lifecycle Execution .execution ExecutionStatus where
  statusDecEq := inferInstance
  value := ExecutionStatus.value
  allowed := ExecutionStatus.allowed
  status := Execution.status
  updatedAt := Execution.updatedAt
  sameDefinition a b := a.id = b.id && a.workspaceId = b.workspaceId && a.goalId = b.goalId &&
    a.initiatedBy = b.initiatedBy && a.bounds = b.bounds && a.retryOf = b.retryOf &&
    a.createdAt = b.createdAt
  moved e status version updatedAt reason :=
    { e with
      status := status
      version := version
      updatedAt := updatedAt
      startedAt := if e.startedAt = none && status = .running then some updatedAt else e.startedAt
      endedAt := if status.terminal then some updatedAt else e.endedAt
      failureReason := if status = .failed then some reason else e.failureReason }
  id_moved _ _ _ _ _ := rfl
  workspaceId_moved _ _ _ _ _ := rfl
  version_moved _ _ _ _ _ := rfl
  status_moved _ _ _ _ _ := rfl
  updatedAt_moved _ _ _ _ _ := rfl
  sameDefinition_moved _ _ _ _ _ := by simp

namespace Execution

def start (self : Execution) (transitionId : StateTransitionId) (at' : Instant) :=
  Lifecycle.transition self ExecutionStatus.running transitionId at' (txt "start")

def wait (self : Execution) (transitionId : StateTransitionId) (at' : Instant) :=
  Lifecycle.transition self ExecutionStatus.waiting transitionId at' (txt "wait")

def resume (self : Execution) (transitionId : StateTransitionId) (at' : Instant) :=
  Lifecycle.transition self ExecutionStatus.running transitionId at' (txt "resume")

def succeed (self : Execution) (transitionId : StateTransitionId) (at' : Instant) :=
  Lifecycle.transition self ExecutionStatus.succeeded transitionId at' (txt "complete")

/-- The reason is checked, but recorded as it was given. -/
def fail (self : Execution) (transitionId : StateTransitionId) (at' : Instant)
    (reason : PyStr) : Except DomainError (TransitionResult Execution) :=
  if h : strip reason = [] then
    .error (.invariantViolation "required_text" [("field", py "failure_reason")])
  else Lifecycle.transition self ExecutionStatus.failed transitionId at' ⟨reason, h⟩

def cancel (self : Execution) (transitionId : StateTransitionId) (at' : Instant) :=
  Lifecycle.transition self ExecutionStatus.cancelled transitionId at' (txt "cancel")

end Execution

end AgentCompanyOS.Domain
