import AgentCompanyOS.Domain.Service
import AgentCompanyOS.Foundation.Journal

/-!
# The audit logs replay the stored entities

A domain store is a journal in the sense of `Foundation.Journal`: its subjects are
the pairs of a subject type and an identifier text, the current status and version
of a subject are read off the containers, and the logs are the transition and the
event log (`journal`). `add` creates a subject and `save` moves one, whatever
entity, transition and event they are given, or they raise and write nothing
(`moves_add`, `moves_save`). Every command therefore is a run of journal steps, and
the logs replay every stored entity after any sequence of commands
(`runCommands_replays`).
-/

set_option autoImplicit false

namespace AgentCompanyOS.Domain

open Foundation Foundation.Txn

/-- A subject of the audit logs. -/
abbrev Subject := SubjectType × PyStr

/-- The entity filed under an identifier text. -/
def getByText {E : Type} {kind : IdKind} {key : E → OpaqueId kind} (d : Registry key)
    (text : PyStr) : Option E :=
  if h : OpaqueId.Valid text then d.get? ⟨text, h⟩ else none

theorem getByText_value {E : Type} {kind : IdKind} {key : E → OpaqueId kind} (d : Registry key)
    (id : OpaqueId kind) : getByText d id.value = d.get? id := by
  simp [getByText, id.valid]

theorem getByText_put {E : Type} {kind : IdKind} {key : E → OpaqueId kind} (d : Registry key)
    (e : E) (text : PyStr) :
    getByText (d.put e) text = if text = (key e).value then some e else getByText d text := by
  unfold getByText
  by_cases valid : OpaqueId.Valid text
  · simp only [valid, dif_pos, Registry.get?_put]
    by_cases same : text = (key e).value
    · rw [if_pos same, if_pos (OpaqueId.ext_value same.symm)]
    · rw [if_neg same, if_neg fun h => same (congrArg OpaqueId.value h).symm]
  · have other : text ≠ (key e).value := fun h => valid (h ▸ (key e).valid)
    simp [valid, other]

/-- The status text and version of a stored subject. -/
def currentOf (store : DomainStore) : Subject → Option (PyStr × Nat)
  | (.workspace, text) => (getByText store.workspaces text).map fun e =>
      (py "active", e.version.value)
  | (.goal, text) => (getByText store.goals text).map fun e => (e.status.value.val, e.version.value)
  | (.task, text) => (getByText store.tasks text).map fun e => (e.status.value.val, e.version.value)
  | (.taskAttempt, text) =>
      (getByText store.attempts text).map fun e => (e.status.value.val, e.version.value)
  | (.execution, text) =>
      (getByText store.executions text).map fun e => (e.status.value.val, e.version.value)
  | _ => none

/-- A transition record as a move of its subject. -/
def moveOf (t : StateTransition) : Move Subject PyStr where
  subject := (t.subjectType, t.subjectId.val)
  previous := t.previousStatus.val
  next := t.newStatus.val
  fromVersion := t.fromVersion.value
  toVersion := t.toVersion.value

/-- An event as the mark of its subject's version. -/
def markOf (e : Event) : Subject × Nat := ((e.subjectType, e.subjectId.val), e.entityVersion.value)

/-- The domain store as a journal. -/
def journal (store : DomainStore) : Journal Subject PyStr where
  current := currentOf store
  moves := store.transitions.map moveOf
  marks := store.events.map markOf

/-- The status every subject is created in. -/
def initialStatus : Subject → PyStr
  | (.workspace, _) => py "active"
  | (.goal, _) => GoalStatus.draft.value.val
  | (.task, _) => TaskStatus.proposed.value.val
  | (.taskAttempt, _) => TaskAttemptStatus.created.value.val
  | (.execution, _) => ExecutionStatus.created.value.val
  | _ => []

/-- The `_ALLOWED` table of a lifecycle on status texts. -/
def allowedText (E : Type) {σ : Type} {kind : IdKind} [Entity E kind] [Lifecycle E kind σ]
    (previous next : PyStr) : Prop :=
  ∃ p n : σ, (Lifecycle.value E p).val = previous ∧ (Lifecycle.value E n).val = next ∧
    n ∈ Lifecycle.allowed E p

/-- The `_ALLOWED` table of a subject on status texts. -/
def allowedMove : Subject → PyStr → PyStr → Prop
  | (.goal, _) => allowedText Goal
  | (.task, _) => allowedText Task
  | (.taskAttempt, _) => allowedText TaskAttempt
  | (.execution, _) => allowedText Execution
  | _ => fun _ _ => False

/-! ## The containers under the journal -/

/-- What the journal sees of a container: only the subjects of its own type. -/
class Journalled (E : Type) (kind : outParam IdKind) [Entity E kind] [Table E kind] where
  statusText : E → PyStr
  currentOf_table : ∀ store text, currentOf store (Entity.subjectType E, text) =
    (getByText (Table.table (E := E) store) text).map
      fun e => (statusText e, (Entity.version e).value) := by intros; rfl
  table_setTable : ∀ (store : DomainStore) (d : Registry (Entity.id (E := E))),
    Table.table (Table.setTable store d) = d := by intros; rfl
  currentOf_setTable : ∀ (store : DomainStore) (d : Registry (Entity.id (E := E)))
    (t : SubjectType) (text : PyStr), t ≠ Entity.subjectType E →
      currentOf (Table.setTable store d) (t, text) = currentOf store (t, text) := by
    intro _ _ t _ other
    cases t <;> first | rfl | exact absurd rfl other
  transitions_setTable : ∀ (store : DomainStore) (d : Registry (Entity.id (E := E))),
    (Table.setTable store d).transitions = store.transitions := by intros; rfl
  events_setTable : ∀ (store : DomainStore) (d : Registry (Entity.id (E := E))),
    (Table.setTable store d).events = store.events := by intros; rfl

instance : Journalled Workspace .workspace where
  statusText _ := py "active"

instance : Journalled Goal .goal where
  statusText e := e.status.value.val

instance : Journalled Task .task where
  statusText e := e.status.value.val

instance : Journalled TaskAttempt .taskAttempt where
  statusText e := e.status.value.val

instance : Journalled Execution .execution where
  statusText e := e.status.value.val

/-- The journal reads statuses and tables as the lifecycle defines them. -/
class JournalledLifecycle (E : Type) (kind : outParam IdKind) (σ : outParam Type) [Entity E kind]
    [Table E kind] [Journalled E kind] [Lifecycle E kind σ] where
  statusText_eq : ∀ e : E,
    Journalled.statusText e = (Lifecycle.value E (Lifecycle.status e)).val := by intros; rfl
  allowedMove_eq : ∀ text, allowedMove (Entity.subjectType E, text) = allowedText E := by
    intros; rfl

instance : JournalledLifecycle Goal .goal GoalStatus where

instance : JournalledLifecycle Task .task TaskStatus where

instance : JournalledLifecycle TaskAttempt .taskAttempt TaskAttemptStatus where

instance : JournalledLifecycle Execution .execution ExecutionStatus where

/-- Filing an entity changes the current state of that subject only. -/
theorem currentOf_put {E : Type} {kind : IdKind} [Entity E kind] [Table E kind] [Journalled E kind]
    (store : DomainStore) (e : E) (subject : Subject) :
    currentOf (Table.setTable store ((Table.table store).put e)) subject =
      if subject = (Entity.subjectType E, (Entity.id e).value) then
        some (Journalled.statusText e, (Entity.version e).value)
      else currentOf store subject := by
  obtain ⟨t, text⟩ := subject
  by_cases ht : t = Entity.subjectType E
  · subst ht
    rw [Journalled.currentOf_table, Journalled.currentOf_table, Journalled.table_setTable,
      getByText_put]
    by_cases same : text = (Entity.id e).value
    · simp [same]
    · simp [same]
  · rw [Journalled.currentOf_setTable _ _ _ _ ht]
    simp [ht]

/-! ## Steps of the store -/

/-- The journal guarantee: the store moves by steps of its journal. -/
def journalSteps : Guarantee DomainStore :=
  .onStore (fun s s' =>
      Relation.ReflTransGen (Journal.Step initialStatus allowedMove) (journal s) (journal s'))
    (fun _ => .refl) fun h h' => h.trans h'

section Writes

variable {E σ : Type} {kind : IdKind} [Entity E kind] [Table E kind] [Journalled E kind]

/-- A checked `_add` of an entity in its creation status creates its subject. -/
theorem step_inserted {store : DomainStore} {entity : E} {event : Event}
    (checked : Addable store entity event)
    (created : Journalled.statusText entity =
      initialStatus (Entity.subjectType E, (Entity.id entity).value)) :
    Journal.Step initialStatus allowedMove (journal store)
      (journal (store.inserted entity event)) := by
  refine .created (Entity.subjectType E, (Entity.id entity).value) ?_ ?_ ?_ ?_
  · show currentOf store _ = none
    rw [Journalled.currentOf_table, getByText_value, checked.absent]
    rfl
  · intro subject
    rw [← created, ← Version.value_initial, ← checked.initialVersion]
    exact currentOf_put store entity subject
  · show (Table.setTable store _).transitions.map moveOf = _
    rw [Journalled.transitions_setTable]
    rfl
  · show ((Table.setTable store _).events ++ [event]).map markOf = _
    rw [Journalled.events_setTable, List.map_append, List.map_singleton]
    simp [markOf, journal, checked.eventType, checked.eventSubject, checked.eventVersion,
      checked.initialVersion]

theorem moves_add {entity : E} {event : Event}
    (created : Journalled.statusText entity =
      initialStatus (Entity.subjectType E, (Entity.id entity).value)) :
    Moves journalSteps (add entity event) :=
  Moves.bind_reads (reads_checkAdd entity event) fun w _ h =>
    ⟨.refl w, .single (step_inserted (checkAdd_eq_ok h) created)⟩

variable [Lifecycle E kind σ] [JournalledLifecycle E kind σ]

/-- A checked `_save` moves the subject of its entity. -/
theorem step_replaced {store : DomainStore} {entity current : E} {expectedVersion : Version}
    {transition : StateTransition} {event : Event}
    (checked : Savable store entity current expectedVersion transition event) :
    Journal.Step initialStatus allowedMove (journal store)
      (journal (store.replaced entity transition event)) := by
  have subject : (moveOf transition).subject =
      (Entity.subjectType E, (Entity.id entity).value) := by
    simp [moveOf, checked.transitionType, checked.eventType, checked.transitionSubject]
  refine .moved (moveOf transition) ?_ ?_ ?_ ?_ ?_ ?_
  · show currentOf store _ = some (transition.previousStatus.val, transition.fromVersion.value)
    rw [subject, Journalled.currentOf_table, getByText_value, checked.present,
      checked.previousStatus, checked.fromVersion, ← checked.currentVersion]
    simp [JournalledLifecycle.statusText_eq]
  · show transition.toVersion.value = transition.fromVersion.value + 1
    rw [transition.increment, Version.value_next]
  · rw [subject, JournalledLifecycle.allowedMove_eq]
    exact ⟨Lifecycle.status current, Lifecycle.status entity,
      (congrArg Subtype.val checked.previousStatus).symm,
      (congrArg Subtype.val checked.newStatus).symm, checked.legal⟩
  · intro k
    rw [subject]
    have put := currentOf_put store entity k
    rw [JournalledLifecycle.statusText_eq] at put
    show _ = if _ then some (transition.newStatus.val, transition.toVersion.value) else _
    rw [checked.newStatus, checked.toVersion]
    exact put
  · show ((Table.setTable store _).transitions ++ [transition]).map moveOf = _
    rw [Journalled.transitions_setTable, List.map_append]
    rfl
  · show ((Table.setTable store _).events ++ [event]).map markOf = _
    rw [Journalled.events_setTable, List.map_append, List.map_singleton]
    rw [subject]
    simp [markOf, journal, checked.eventType, checked.eventSubject, checked.eventVersion,
      ← checked.toVersion, moveOf]

theorem moves_save {entity : E} {expectedVersion : Version} {transition : StateTransition}
    {event : Event} : Moves journalSteps (save entity expectedVersion transition event) :=
  Moves.bind_reads (reads_checkSave entity expectedVersion transition event) fun w _ h =>
    let ⟨_, checked⟩ := checkSave_eq_ok h
    ⟨.refl w, .single (step_replaced checked)⟩

end Writes

/-! ## Steps of the commands -/

section Commands

variable (env : Env)

theorem moves_newEvent {G : Guarantee DomainStore} (workspaceId : WorkspaceId)
    (eventType : EventType) (subjectType : SubjectType) (subjectId : Text) (version : Version) :
    Moves G (newEvent env workspaceId eventType subjectType subjectId version) :=
  (moves_fresh env .event).bind fun _ => (moves_now env).bind fun _ => Moves.pure _

variable {E σ : Type} {kind : IdKind} [Entity E kind] [Table E kind] [Journalled E kind]

theorem moves_addNew {entity : E} (eventType : EventType)
    (created : Journalled.statusText entity =
      initialStatus (Entity.subjectType E, (Entity.id entity).value)) :
    Moves journalSteps (addNew env entity eventType) :=
  (moves_newEvent env _ _ _ _ _).bind fun _ => (moves_add created).bind fun _ => Moves.pure _

variable [Lifecycle E kind σ] [JournalledLifecycle E kind σ]

theorem moves_saveResult (result : TransitionResult E) (expectedVersion : Version)
    (eventType : EventType) :
    Moves journalSteps (saveResult env result expectedVersion eventType) :=
  (moves_newEvent env _ _ _ _ _).bind fun _ => moves_save.bind fun _ => Moves.pure _

/-- The end of every command that changes a status. -/
theorem moves_transition
    (operation : StateTransitionId → Instant → Except DomainError (TransitionResult E))
    (expectedVersion : Version) (eventType : EventType) :
    Moves journalSteps (do
      let transitionId ← fresh env .stateTransition
      let at' ← now env
      let result ← checked (operation transitionId at')
      saveResult env result expectedVersion eventType) :=
  (moves_fresh env _).bind fun _ => (moves_now env).bind fun _ =>
    (reads_checked _).moves.bind fun _ => moves_saveResult env _ _ _

theorem moves_change (id : OpaqueId kind) (expectedVersion : Version)
    (operation : E → StateTransitionId → Instant → Except DomainError (TransitionResult E))
    (eventType : EventType) :
    Moves journalSteps (change env id expectedVersion operation eventType) :=
  (reads_getEntity E id).moves.bind fun entity => (Moves.raiseIf _ _).bind fun _ =>
    moves_transition env (operation entity) expectedVersion eventType

end Commands

/-- Every command moves the store by journal steps, whether it succeeds or raises. -/
theorem moves_issue (env : Env) (command : Command) : Moves journalSteps (command.issue env) := by
  -- The result is dropped; what counts is the transaction.
  have drop : ∀ {α : Type} {m : DomainTxn α}, Moves journalSteps m →
      Moves journalSteps (discard m) := fun h => h.bind fun _ => Moves.pure ()
  cases command with
  | createWorkspace name =>
      refine drop (Moves.atomic ?_)
      exact (moves_now env).bind fun _ => (moves_fresh env _).bind fun _ =>
        (reads_checked _).moves.bind fun _ => moves_addNew env _ rfl
  | createGoal command =>
      refine drop (Moves.atomic ?_)
      refine (reads_getEntity Workspace _).moves.bind fun _ => (moves_now env).bind fun _ =>
        (moves_fresh env _).bind fun _ => ?_
      exact (reads_checked _).moves.bind_of (yields_checked fun _ => Goal.status_create)
        fun goal h => moves_addNew env _ (congrArg (fun s => (GoalStatus.value s).val) h)
  | createTask command =>
      refine drop (Moves.atomic ?_)
      refine (reads_getEntity Workspace _).moves.bind fun _ =>
        (reads_getEntity Goal _).moves.bind fun _ => (Moves.raiseIf _ _).bind fun _ =>
        (Moves.raiseIf _ _).bind fun _ => (moves_now env).bind fun _ =>
        (moves_fresh env _).bind fun _ => ?_
      exact (reads_checked _).moves.bind_of (yields_checked fun _ => Task.status_create)
        fun task h => moves_addNew env _ (congrArg (fun s => (TaskStatus.value s).val) h)
  | createExecution command =>
      refine drop (Moves.atomic ?_)
      refine (reads_getEntity Workspace _).moves.bind fun _ =>
        (reads_getEntity Goal _).moves.bind fun goal => (Moves.raiseIf _ _).bind fun _ =>
        (Moves.raiseIf _ _).bind fun _ => (reads_checkRetry command goal).moves.bind fun _ =>
        (moves_now env).bind fun _ => (moves_fresh env _).bind fun _ =>
        (reads_checked _).moves.bind fun _ => ?_
      exact (reads_checked _).moves.bind_of (yields_checked fun _ => Execution.status_create)
        fun execution h => moves_addNew env _ (congrArg (fun s => (ExecutionStatus.value s).val) h)
  | createTaskAttempt command =>
      refine drop (Moves.atomic ?_)
      refine (reads_getEntity Workspace _).moves.bind fun _ =>
        (reads_getEntity Task _).moves.bind fun _ =>
        (reads_getEntity Execution _).moves.bind fun _ => (Moves.raiseIf _ _).bind fun _ =>
        (Moves.raiseIf _ _).bind fun _ => (Moves.raiseIf _ _).bind fun _ =>
        (Moves.raiseIf _ _).bind fun _ => (Moves.raiseIf _ _).bind fun _ =>
        Moves.getStore.bind fun _ => (Moves.raiseIf _ _).bind fun _ =>
        (Moves.raiseIf _ _).bind fun _ => (moves_now env).bind fun _ =>
        (moves_fresh env _).bind fun _ => ?_
      exact (reads_checked _).moves.bind_of (yields_checked fun _ => TaskAttempt.status_create)
        fun attempt h => moves_addNew env _
          (congrArg (fun s => (TaskAttemptStatus.value s).val) h)
  | satisfyGoal id v =>
      refine drop (Moves.atomic ?_)
      exact (reads_getEntity Goal _).moves.bind fun goal => (Moves.raiseIf _ _).bind fun _ =>
        Moves.getStore.bind fun _ => (Moves.raiseIf _ _).bind fun _ =>
        moves_transition env goal.satisfy v .goalSatisfied
  | readyTask id v =>
      refine drop (Moves.atomic ?_)
      exact (reads_getEntity Task _).moves.bind fun task => (Moves.raiseIf _ _).bind fun _ =>
        moves_transition env task.markReady v _
  | completeTask id attemptId v =>
      refine drop (Moves.atomic ?_)
      exact (reads_getEntity Task _).moves.bind fun task =>
        (reads_getEntity TaskAttempt _).moves.bind fun _ => (Moves.raiseIf _ _).bind fun _ =>
        (Moves.raiseIf _ _).bind fun _ => (Moves.raiseIf _ _).bind fun _ =>
        moves_transition env task.complete v .taskCompleted
  | succeedExecution id v =>
      refine drop (Moves.atomic ?_)
      exact (reads_getEntity Execution _).moves.bind fun execution =>
        (Moves.raiseIf _ _).bind fun _ => Moves.getStore.bind fun _ =>
        (Moves.raiseIf _ _).bind fun _ => (Moves.raiseIf _ _).bind fun _ =>
        moves_transition env execution.succeed v .executionSucceeded
  | activateGoal | closeGoalUnsatisfied | cancelGoal | startTask | failTask | cancelTask
  | startExecution | waitExecution | resumeExecution | failExecution | cancelExecution
  | startTaskAttempt | succeedTaskAttempt | failTaskAttempt | cancelTaskAttempt =>
      exact drop (Moves.atomic (moves_change env _ _ _ _))

/-- A sequence of commands is a run of journal steps. -/
theorem journal_runCommands (env : Env) (commands : List Command) (w : World DomainStore) :
    Relation.ReflTransGen (Journal.Step initialStatus allowedMove) (journal w.store)
      (journal (runCommands env commands w).store) := by
  induction commands generalizing w with
  | nil => exact .refl
  | cons command rest ih => exact (moves_issue env command w).2.trans (ih _)

/-- The journal of every reachable store is sound. -/
theorem sound_runCommands (env : Env) (commands : List Command) :
    Journal.Sound initialStatus allowedMove
      (journal (runCommands env commands emptyWorld).store) := by
  have start : Journal.Sound initialStatus allowedMove (journal DomainStore.empty) := by
    refine ⟨fun k s v h => ?_, fun k s v h => ?_, fun _ _ => rfl, fun _ _ => rfl⟩
    all_goals
      have absent : currentOf DomainStore.empty k = none := by
        obtain ⟨t, text⟩ := k
        cases t <;> simp [currentOf, getByText, DomainStore.empty]
      exact absurd (absent.symm.trans h) (by simp)
  exact start.run (journal_runCommands env commands emptyWorld)

/-! ## The replay of the stored entities -/

/-- The transitions and events recorded for a subject, in log order. -/
def transitionsFor (store : DomainStore) (subject : Subject) : List StateTransition :=
  store.transitions.filter fun t => (t.subjectType, t.subjectId.val) = subject

def eventsFor (store : DomainStore) (subject : Subject) : List Event :=
  store.events.filter fun e => (e.subjectType, e.subjectId.val) = subject

/-- The transition records of an entity form one unbroken chain from its creation
status at version 1 to the stored status and version, every step of it in the
lifecycle's table, and the event log holds one event for every version. -/
def LogReplays {E σ : Type} {kind : IdKind} [Entity E kind] [Lifecycle E kind σ]
    (created : σ) (store : DomainStore) (entity : E) : Prop :=
  let subject : Subject := (Entity.subjectType E, (Entity.id entity).value)
  Replays (allowedText E) (Lifecycle.value E created).val 1
      ((transitionsFor store subject).map moveOf)
      (Lifecycle.value E (Lifecycle.status entity)).val (Entity.version entity).value ∧
    (eventsFor store subject).map (fun e => e.entityVersion.value) =
      List.range' 1 (Entity.version entity).value

theorem movesOf_journal (store : DomainStore) (subject : Subject) :
    (journal store).movesOf subject = (transitionsFor store subject).map moveOf := by
  simp only [Journal.movesOf, journal, transitionsFor, List.filter_map]
  rfl

theorem marksOf_journal (store : DomainStore) (subject : Subject) :
    (journal store).marksOf subject =
      (eventsFor store subject).map (fun e => e.entityVersion.value) := by
  simp only [Journal.marksOf, journal, eventsFor, List.filter_map, List.map_map]
  rfl

theorem logReplays_of_sound {E σ : Type} {kind : IdKind} [Entity E kind] [Table E kind]
    [Journalled E kind] [Lifecycle E kind σ] [JournalledLifecycle E kind σ] {created : σ}
    (initial : ∀ text, initialStatus (Entity.subjectType E, text) =
      (Lifecycle.value E created).val)
    {store : DomainStore} (sound : Journal.Sound initialStatus allowedMove (journal store))
    {entity : E} (stored : entity ∈ (Table.table (E := E) store).values) :
    LogReplays created store entity := by
  have current : currentOf store (Entity.subjectType E, (Entity.id entity).value) =
      some ((Lifecycle.value E (Lifecycle.status entity)).val, (Entity.version entity).value) := by
    rw [Journalled.currentOf_table, getByText_value, Registry.get?_of_mem_values stored]
    simp [JournalledLifecycle.statusText_eq]
  have replays := sound.replays _ _ _ current
  have marks := sound.marks _ _ _ current
  rw [movesOf_journal, JournalledLifecycle.allowedMove_eq, initial] at replays
  rw [marksOf_journal] at marks
  exact ⟨replays, marks⟩

/-- A subject that is stored: an entity of its type under its identifier text. -/
def Stored (store : DomainStore) (subject : Subject) : Prop := (currentOf store subject).isSome

theorem not_stored {store : DomainStore} {subject : Subject} :
    ¬Stored store subject ↔ (journal store).current subject = none :=
  Option.not_isSome_iff_eq_none

/-- After any sequence of commands, each of which may have raised, the logs replay
every stored goal, task, attempt and execution, and no record names a subject that
is not stored. -/
theorem runCommands_replays (env : Env) (commands : List Command) :
    let store := (runCommands env commands emptyWorld).store
    (∀ goal ∈ store.goals.values, LogReplays GoalStatus.draft store goal) ∧
    (∀ task ∈ store.tasks.values, LogReplays TaskStatus.proposed store task) ∧
    (∀ attempt ∈ store.attempts.values, LogReplays TaskAttemptStatus.created store attempt) ∧
    (∀ execution ∈ store.executions.values, LogReplays ExecutionStatus.created store execution) ∧
    (∀ t ∈ store.transitions, Stored store (t.subjectType, t.subjectId.val)) ∧
    (∀ e ∈ store.events, Stored store (e.subjectType, e.subjectId.val)) := by
  intro store
  have sound := sound_runCommands env commands
  refine ⟨fun _ h => logReplays_of_sound (fun _ => rfl) sound h,
    fun _ h => logReplays_of_sound (fun _ => rfl) sound h,
    fun _ h => logReplays_of_sound (fun _ => rfl) sound h,
    fun _ h => logReplays_of_sound (fun _ => rfl) sound h, fun t ht => ?_, fun e he => ?_⟩
  · by_contra missing
    have none := sound.noMoves _ (not_stored.mp missing)
    rw [movesOf_journal, List.map_eq_nil_iff] at none
    exact List.ne_nil_of_mem (List.mem_filter.mpr ⟨ht, by simp⟩) none
  · by_contra missing
    have none := sound.noMarks _ (not_stored.mp missing)
    rw [marksOf_journal, List.map_eq_nil_iff] at none
    exact List.ne_nil_of_mem (List.mem_filter.mpr ⟨he, by simp⟩) none

end AgentCompanyOS.Domain
