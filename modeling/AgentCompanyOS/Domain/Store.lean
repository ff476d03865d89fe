import AgentCompanyOS.Domain.Entities
import AgentCompanyOS.Foundation.Registry
import AgentCompanyOS.Foundation.Transaction
import Mathlib.Data.List.Sort

/-!
# The in-memory domain store

`InMemoryDomainStore`: five containers, one event log and one transition log.
Entities enter through `add` and change through `save`, which check the audit
records they are given against the entity. The two are written once over the
entity type, as in the source; `Table` names the container of each type.
-/

set_option autoImplicit false

namespace AgentCompanyOS.Domain

open Foundation Foundation.Txn

/-- The identifier generator and the clock that a service is built with. -/
structure Env where
  gen : (kind : IdKind) → Nat → OpaqueId kind
  clock : Nat → Instant

attribute [local instance] Lifecycle.lawful

section Calls

variable {σ α : Type} {G : Guarantee σ}

/-- `clock.now()`. -/
def now (env : Env) : Txn Exc σ Instant := readClock env.clock

/-- `ids.<kind>_id()`. -/
def fresh (env : Env) (kind : IdKind) : Txn Exc σ (OpaqueId kind) := draw (env.gen kind)

/-- A constructor or method that may raise a domain error. -/
def checked (r : Except DomainError α) : Txn Exc σ α :=
  match r with
  | .ok a => pure a
  | .error e => raise (Exc.domain e)

theorem checked_eq_ok {r : Except DomainError α} {a : α} {w w' : World σ} :
    (checked r : Txn Exc σ α) w = .ok a w' ↔ r = .ok a ∧ w = w' := by
  cases r with
  | ok b => simp [checked, pure_eq_ok]
  | error e => simp [checked, raise]

theorem reads_checked (r : Except DomainError α) : Reads (checked r : Txn Exc σ α) := by
  cases r with
  | ok a => exact Reads.pure a
  | error e => exact Reads.raise (Exc.domain e)

theorem yields_checked {P : α → Prop} {r : Except DomainError α} (h : ∀ a, r = .ok a → P a) :
    Yields (checked r : Txn Exc σ α) P :=
  fun _ a _ ha => h a (checked_eq_ok.mp ha).1

theorem moves_now (env : Env) : Moves G (now env : Txn Exc σ Instant) := Moves.readClock _

theorem moves_fresh (env : Env) (kind : IdKind) :
    Moves G (fresh env kind : Txn Exc σ (OpaqueId kind)) := Moves.draw _

end Calls

/-- The containers of `InMemoryDomainStore`. The sets `_event_ids` and
`_transition_ids` hold the ids of the two logs and are read off the logs here. -/
structure DomainStore where
  workspaces : Registry Workspace.id
  goals : Registry Goal.id
  tasks : Registry Task.id
  attempts : Registry TaskAttempt.id
  executions : Registry Execution.id
  events : List Event
  transitions : List StateTransition
deriving DecidableEq

/-- The store that `InMemoryDomainStore()` builds. -/
def DomainStore.empty : DomainStore := ⟨.empty, .empty, .empty, .empty, .empty, [], []⟩

/-- A program over the domain store. -/
abbrev DomainTxn (α : Type) := Txn Exc DomainStore α

/-- An entity of any of the five types. -/
inductive AnyEntity where
  | workspace (e : Workspace)
  | goal (e : Goal)
  | task (e : Task)
  | taskAttempt (e : TaskAttempt)
  | execution (e : Execution)

/-- The container of an entity type. -/
class Table (E : Type) (kind : outParam IdKind) [Entity E kind] where
  any : E → AnyEntity
  table : DomainStore → Registry (Entity.id (E := E))
  setTable : DomainStore → Registry (Entity.id (E := E)) → DomainStore

instance : Table Workspace .workspace where
  any := .workspace
  table := DomainStore.workspaces
  setTable s d := { s with workspaces := d }

instance : Table Goal .goal where
  any := .goal
  table := DomainStore.goals
  setTable s d := { s with goals := d }

instance : Table Task .task where
  any := .task
  table := DomainStore.tasks
  setTable s d := { s with tasks := d }

instance : Table TaskAttempt .taskAttempt where
  any := .taskAttempt
  table := DomainStore.attempts
  setTable s d := { s with attempts := d }

instance : Table Execution .execution where
  any := .execution
  table := DomainStore.executions
  setTable s d := { s with executions := d }

/-! ## Reads -/

/-- `_get`. -/
def getEntity (E : Type) {kind : IdKind} [Entity E kind] [Table E kind] (id : OpaqueId kind) :
    DomainTxn E := do
  let store ← getStore
  need ((Table.table (E := E) store).get? id)
    (.domain (.entityNotFound (py (Entity.typeName E)) id.value))

def getWorkspace (id : WorkspaceId) : DomainTxn Workspace := getEntity Workspace id

def getGoal (id : GoalId) : DomainTxn Goal := getEntity Goal id

def getTask (id : TaskId) : DomainTxn Task := getEntity Task id

def getTaskAttempt (id : TaskAttemptId) : DomainTxn TaskAttempt := getEntity TaskAttempt id

def getExecution (id : ExecutionId) : DomainTxn Execution := getEntity Execution id

namespace DomainStore

/-- `tasks_for_goal`. -/
def tasksForGoal (store : DomainStore) (goalId : GoalId) : List Task :=
  store.tasks.values.filter fun task => task.goalId = goalId

/-- `attempts_for_task`: sorted by ordinal, equal ordinals in insertion order. -/
def attemptsForTask (store : DomainStore) (taskId : TaskId) : List TaskAttempt :=
  (store.attempts.values.filter fun attempt => attempt.taskId = taskId).insertionSort
    fun a b => a.ordinal ≤ b.ordinal

/-- `attempts_for_execution`. -/
def attemptsForExecution (store : DomainStore) (executionId : ExecutionId) : List TaskAttempt :=
  store.attempts.values.filter fun attempt => attempt.executionId = executionId

end DomainStore

theorem reads_getEntity (E : Type) {kind : IdKind} [Entity E kind] [Table E kind]
    (id : OpaqueId kind) : Reads (getEntity E id) :=
  Reads.getStore.bind fun _ => Reads.need _ _

theorem getEntity_eq_ok {E : Type} {kind : IdKind} [Entity E kind] [Table E kind]
    {id : OpaqueId kind} {e : E} {w w' : World DomainStore} :
    getEntity E id w = .ok e w' ↔ (Table.table (E := E) w.store).get? id = some e ∧ w = w' := by
  unfold getEntity
  simp only [bind_eq_ok, getStore_eq_ok, need_eq_ok]
  constructor
  · rintro ⟨s, v, ⟨rfl, rfl⟩, h, rfl⟩
    exact ⟨h, rfl⟩
  · rintro ⟨h, rfl⟩
    exact ⟨_, _, ⟨rfl, rfl⟩, h, rfl⟩

theorem getEntity_then {E β : Type} {kind : IdKind} [Entity E kind] [Table E kind]
    {id : OpaqueId kind} {f : E → DomainTxn β} {w w' : World DomainStore} {b : β}
    (h : (getEntity E id >>= f) w = .ok b w') :
    ∃ e, (Table.table (E := E) w.store).get? id = some e ∧ f e w = .ok b w' := by
  obtain ⟨e, he, h⟩ := (reads_getEntity E id).then h
  exact ⟨e, (getEntity_eq_ok.mp he).1, h⟩

/-! ## Writes -/

/-- `_audit_matches`. -/
def auditMatches {E : Type} {kind : IdKind} [Entity E kind] [Table E kind] (entity : E)
    (event : Event) : DomainTxn Unit := do
  raiseIf (Entity.workspaceId entity ≠ event.workspaceId)
    (.domain (.workspaceMismatch (py "Event.subject") (Entity.workspaceId entity).value
      event.workspaceId.value))
  raiseIf (event.subjectId.val ≠ (Entity.id entity).value ∨
      event.entityVersion ≠ Entity.version entity ∨
      event.subjectType.value ≠ (Entity.subjectType E).value)
    (violation "event_matches_entity")

/-- The check that ends `_references`. -/
def sameWorkspaceAsParent (expected actual : WorkspaceId) : DomainTxn Unit :=
  raiseIf (actual ≠ expected)
    (.domain (.workspaceMismatch (py "parent") expected.value actual.value))

/-- `_references`. -/
def references : AnyEntity → DomainTxn Unit
  | .workspace _ => pure ()
  | .goal entity => do
      let _ ← getWorkspace entity.workspaceId
      pure ()
  | .task entity => do
      let _ ← getWorkspace entity.workspaceId
      let goal ← getGoal entity.goalId
      sameWorkspaceAsParent entity.workspaceId goal.workspaceId
  | .execution entity => do
      let _ ← getWorkspace entity.workspaceId
      let goal ← getGoal entity.goalId
      sameWorkspaceAsParent entity.workspaceId goal.workspaceId
  | .taskAttempt entity => do
      let _ ← getWorkspace entity.workspaceId
      let task ← getTask entity.taskId
      let execution ← getExecution entity.executionId
      raiseIf (task.goalId ≠ execution.goalId) (violation "attempt_parents_share_goal")
      let store ← getStore
      let existing := store.attemptsForTask task.id
      raiseIf (existing.any fun item => !item.status.terminal)
        (violation "one_non_terminal_attempt_per_task")
      raiseIf (entity.ordinal ≠ existing.length + 1 ∨
          entity.previousAttemptId ≠ existing.getLast?.map TaskAttempt.id)
        (violation "attempt_lineage")
      raiseIf (execution.bounds.maxTaskAttempts ≤ (store.attemptsForExecution execution.id).length)
        (violation "execution_task_attempt_bound")
      sameWorkspaceAsParent entity.workspaceId task.workspaceId
      sameWorkspaceAsParent entity.workspaceId execution.workspaceId

/-- `_validate_event`. -/
def validateEvent (event : Event) : DomainTxn Unit := do
  let store ← getStore
  raiseIf (event.id ∈ store.events.map Event.id) (violation "event_id_unique")

/-- `_validate_transition`. -/
def validateTransition (transition : StateTransition) : DomainTxn Unit := do
  let store ← getStore
  raiseIf (transition.id ∈ store.transitions.map StateTransition.id)
    (violation "state_transition_id_unique")

theorem reads_validateEvent (event : Event) : Reads (validateEvent event) :=
  Reads.getStore.bind fun _ => Reads.raiseIf _ _

theorem reads_validateTransition (transition : StateTransition) :
    Reads (validateTransition transition) :=
  Reads.getStore.bind fun _ => Reads.raiseIf _ _

theorem reads_auditMatches {E : Type} {kind : IdKind} [Entity E kind] [Table E kind] (entity : E)
    (event : Event) : Reads (auditMatches entity event) :=
  (Reads.raiseIf _ _).bind fun _ => Reads.raiseIf _ _

theorem reads_references (entity : AnyEntity) : Reads (references entity) := by
  cases entity with
  | workspace e => exact Reads.pure ()
  | goal e => exact (reads_getEntity Workspace _).bind fun _ => Reads.pure ()
  | task e =>
      exact (reads_getEntity Workspace _).bind fun _ => (reads_getEntity Goal _).bind fun _ =>
        Reads.raiseIf _ _
  | execution e =>
      exact (reads_getEntity Workspace _).bind fun _ => (reads_getEntity Goal _).bind fun _ =>
        Reads.raiseIf _ _
  | taskAttempt e =>
      exact (reads_getEntity Workspace _).bind fun _ => (reads_getEntity Task _).bind fun _ =>
        (reads_getEntity Execution _).bind fun _ => (Reads.raiseIf _ _).bind fun _ =>
        Reads.getStore.bind fun _ => (Reads.raiseIf _ _).bind fun _ =>
        (Reads.raiseIf _ _).bind fun _ => (Reads.raiseIf _ _).bind fun _ =>
        (Reads.raiseIf _ _).bind fun _ => Reads.raiseIf _ _

/-- The write of `_add`: the entity and its creation event. -/
def DomainStore.inserted {E : Type} {kind : IdKind} [Entity E kind] [Table E kind]
    (store : DomainStore) (entity : E) (event : Event) : DomainStore :=
  let stored := Table.setTable store ((Table.table store).put entity)
  { stored with events := stored.events ++ [event] }

/-- The checks of `_add`. -/
def checkAdd {E : Type} {kind : IdKind} [Entity E kind] [Table E kind] (entity : E)
    (event : Event) : DomainTxn Unit := do
  let store ← getStore
  raiseIf ((Table.table (E := E) store).contains (Entity.id entity) = true)
    (.domain (.invariantViolation "entity_id_unique"
      [("entity_type", py (Entity.typeName E)), ("entity_id", (Entity.id entity).value)]))
  validateEvent event
  auditMatches entity event
  references (Table.any entity)
  raiseIf (Entity.version entity ≠ Version.initial) (violation "creation_requires_initial_version")

theorem reads_checkAdd {E : Type} {kind : IdKind} [Entity E kind] [Table E kind] (entity : E)
    (event : Event) : Reads (checkAdd entity event) :=
  Reads.getStore.bind fun _ => (Reads.raiseIf _ _).bind fun _ =>
    (reads_validateEvent event).bind fun _ => (reads_auditMatches entity event).bind fun _ =>
    (reads_references _).bind fun _ => Reads.raiseIf _ _

/-- `_add`. -/
def add {E : Type} {kind : IdKind} [Entity E kind] [Table E kind] (entity : E) (event : Event) :
    DomainTxn Unit := do
  checkAdd entity event
  modifyStore fun store => store.inserted entity event

/-- What `_add` has established before it writes. -/
structure Addable {E : Type} {kind : IdKind} [Entity E kind] [Table E kind] (store : DomainStore)
    (entity : E) (event : Event) : Prop where
  absent : (Table.table (E := E) store).get? (Entity.id entity) = none
  newEvent : event.id ∉ store.events.map Event.id
  eventWorkspace : event.workspaceId = Entity.workspaceId entity
  eventSubject : event.subjectId.val = (Entity.id entity).value
  eventVersion : event.entityVersion = Entity.version entity
  eventType : event.subjectType = Entity.subjectType E
  initialVersion : Entity.version entity = Version.initial

theorem validateEvent_eq_ok {event : Event} {w w' : World DomainStore}
    (h : validateEvent event w = .ok () w') : event.id ∉ w.store.events.map Event.id := by
  have h := getStore_then h
  exact (raiseIf_eq_ok.mp h).1

theorem validateTransition_eq_ok {transition : StateTransition} {w w' : World DomainStore}
    (h : validateTransition transition w = .ok () w') :
    transition.id ∉ w.store.transitions.map StateTransition.id := by
  have h := getStore_then h
  exact (raiseIf_eq_ok.mp h).1

theorem auditMatches_eq_ok {E : Type} {kind : IdKind} [Entity E kind] [Table E kind] {entity : E}
    {event : Event} {w w' : World DomainStore}
    (h : auditMatches entity event w = .ok () w') :
    event.workspaceId = Entity.workspaceId entity ∧
      event.subjectId.val = (Entity.id entity).value ∧
      event.entityVersion = Entity.version entity ∧ event.subjectType = Entity.subjectType E := by
  obtain ⟨workspace, h⟩ := raiseIf_then h
  obtain ⟨matched, -⟩ := raiseIf_eq_ok.mp h
  simp only [not_or, not_not] at workspace matched
  exact ⟨workspace.symm, matched.1, matched.2.1, SubjectType.value_injective matched.2.2⟩

theorem checkAdd_eq_ok {E : Type} {kind : IdKind} [Entity E kind] [Table E kind] {entity : E}
    {event : Event} {w w' : World DomainStore} (h : checkAdd entity event w = .ok () w') :
    Addable w.store entity event := by
  have h := getStore_then h
  obtain ⟨absent, h⟩ := raiseIf_then h
  obtain ⟨_, fresh, h⟩ := (reads_validateEvent event).then h
  obtain ⟨_, audit, h⟩ := (reads_auditMatches entity event).then h
  obtain ⟨_, -, h⟩ := (reads_references _).then h
  obtain ⟨initialVersion, -⟩ := raiseIf_eq_ok.mp h
  obtain ⟨workspace, subject, version, type⟩ := auditMatches_eq_ok audit
  exact ⟨Registry.contains_eq_false_iff.mp (Bool.eq_false_iff.mpr absent),
    validateEvent_eq_ok fresh, workspace, subject, version, type, not_not.mp initialVersion⟩

/-- The write of `_save`: the changed entity, its transition and its event. -/
def DomainStore.replaced {E : Type} {kind : IdKind} [Entity E kind] [Table E kind]
    (store : DomainStore) (entity : E) (transition : StateTransition) (event : Event) :
    DomainStore :=
  let stored := Table.setTable store ((Table.table store).put entity)
  { stored with
    events := stored.events ++ [event]
    transitions := stored.transitions ++ [transition] }

/-- The checks of `_save`. -/
def checkSave {E σ : Type} {kind : IdKind} [Entity E kind] [Table E kind] [Lifecycle E kind σ]
    (entity : E) (expectedVersion : Version) (transition : StateTransition) (event : Event) :
    DomainTxn Unit := do
  let current ← getEntity E (Entity.id entity)
  raiseIf (Entity.version current ≠ expectedVersion)
    (.domain (.versionConflict (py (Entity.typeName E)) (Entity.id entity).value
      expectedVersion.value (Entity.version current).value))
  raiseIf (Entity.version entity ≠ expectedVersion.next)
    (violation "save_requires_one_version_increment")
  raiseIf (transition.subjectId.val ≠ (Entity.id entity).value)
    (violation "transition_subject_matches_entity")
  raiseIf (transition.fromVersion ≠ expectedVersion ∨
      transition.toVersion ≠ Entity.version entity)
    (violation "transition_versions_match_entity")
  raiseIf (event.subjectId.val ≠ (Entity.id entity).value ∨
      event.entityVersion ≠ Entity.version entity)
    (violation "event_subject_and_version_match_entity")
  validateTransition transition
  validateEvent event
  auditMatches entity event
  raiseIf (Lifecycle.status entity ∉ Lifecycle.allowed E (Lifecycle.status current))
    (violation "persisted_transition_must_be_legal")
  raiseIf (Lifecycle.sameDefinition current entity = false)
    (violation "historical_definition_is_immutable")
  raiseIf (transition.workspaceId ≠ Entity.workspaceId entity ∨
      transition.subjectType ≠ event.subjectType ∨
      transition.previousStatus ≠ Lifecycle.value E (Lifecycle.status current) ∨
      transition.newStatus ≠ Lifecycle.value E (Lifecycle.status entity) ∨
      transition.occurredAt ≠ Lifecycle.updatedAt entity)
    (violation "transition_matches_entity")

theorem reads_checkSave {E σ : Type} {kind : IdKind} [Entity E kind] [Table E kind]
    [Lifecycle E kind σ] (entity : E) (expectedVersion : Version) (transition : StateTransition)
    (event : Event) : Reads (checkSave entity expectedVersion transition event) :=
  (reads_getEntity E _).bind fun _ => (Reads.raiseIf _ _).bind fun _ =>
    (Reads.raiseIf _ _).bind fun _ => (Reads.raiseIf _ _).bind fun _ =>
    (Reads.raiseIf _ _).bind fun _ => (Reads.raiseIf _ _).bind fun _ =>
    (reads_validateTransition transition).bind fun _ => (reads_validateEvent event).bind fun _ =>
    (reads_auditMatches entity event).bind fun _ => (Reads.raiseIf _ _).bind fun _ =>
    (Reads.raiseIf _ _).bind fun _ => Reads.raiseIf _ _

/-- What `_save` has established before it writes. -/
structure Savable {E σ : Type} {kind : IdKind} [Entity E kind] [Table E kind] [Lifecycle E kind σ]
    (store : DomainStore) (entity current : E) (expectedVersion : Version)
    (transition : StateTransition) (event : Event) : Prop where
  present : (Table.table (E := E) store).get? (Entity.id entity) = some current
  currentVersion : Entity.version current = expectedVersion
  nextVersion : Entity.version entity = expectedVersion.next
  transitionSubject : transition.subjectId.val = (Entity.id entity).value
  fromVersion : transition.fromVersion = expectedVersion
  toVersion : transition.toVersion = Entity.version entity
  newTransition : transition.id ∉ store.transitions.map StateTransition.id
  newEvent : event.id ∉ store.events.map Event.id
  eventWorkspace : event.workspaceId = Entity.workspaceId entity
  eventSubject : event.subjectId.val = (Entity.id entity).value
  eventVersion : event.entityVersion = Entity.version entity
  eventType : event.subjectType = Entity.subjectType E
  legal : Lifecycle.status entity ∈ Lifecycle.allowed E (Lifecycle.status current)
  definition : Lifecycle.sameDefinition current entity = true
  transitionWorkspace : transition.workspaceId = Entity.workspaceId entity
  transitionType : transition.subjectType = event.subjectType
  previousStatus : transition.previousStatus = Lifecycle.value E (Lifecycle.status current)
  newStatus : transition.newStatus = Lifecycle.value E (Lifecycle.status entity)
  occurredAt : transition.occurredAt = Lifecycle.updatedAt entity

theorem checkSave_eq_ok {E σ : Type} {kind : IdKind} [Entity E kind] [Table E kind]
    [Lifecycle E kind σ] {entity : E} {expectedVersion : Version} {transition : StateTransition}
    {event : Event} {w w' : World DomainStore}
    (h : checkSave entity expectedVersion transition event w = .ok () w') :
    ∃ current, Savable w.store entity current expectedVersion transition event := by
  obtain ⟨current, present, h⟩ := getEntity_then h
  obtain ⟨currentVersion, h⟩ := raiseIf_then h
  obtain ⟨nextVersion, h⟩ := raiseIf_then h
  obtain ⟨transitionSubject, h⟩ := raiseIf_then h
  obtain ⟨transitionVersions, h⟩ := raiseIf_then h
  obtain ⟨-, h⟩ := raiseIf_then h
  obtain ⟨_, newTransition, h⟩ := (reads_validateTransition transition).then h
  obtain ⟨_, newEvent, h⟩ := (reads_validateEvent event).then h
  obtain ⟨_, audit, h⟩ := (reads_auditMatches entity event).then h
  obtain ⟨legal, h⟩ := raiseIf_then h
  obtain ⟨definition, h⟩ := raiseIf_then h
  obtain ⟨recorded, -⟩ := raiseIf_eq_ok.mp h
  simp only [not_or, not_not, Bool.not_eq_false] at *
  obtain ⟨eventWorkspace, eventSubject, eventVersion, eventType⟩ := auditMatches_eq_ok audit
  exact ⟨current, present, currentVersion, nextVersion, transitionSubject, transitionVersions.1,
    transitionVersions.2, validateTransition_eq_ok newTransition, validateEvent_eq_ok newEvent,
    eventWorkspace, eventSubject, eventVersion, eventType, legal, definition, recorded.1,
    recorded.2.1, recorded.2.2.1, recorded.2.2.2.1, recorded.2.2.2.2⟩

/-- `_save`. -/
def save {E σ : Type} {kind : IdKind} [Entity E kind] [Table E kind] [Lifecycle E kind σ]
    (entity : E) (expectedVersion : Version) (transition : StateTransition) (event : Event) :
    DomainTxn Unit := do
  checkSave entity expectedVersion transition event
  modifyStore fun store => store.replaced entity transition event

end AgentCompanyOS.Domain
