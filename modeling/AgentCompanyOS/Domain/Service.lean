import AgentCompanyOS.Domain.Store

/-!
# Domain commands

`DomainService`: every command is one transaction over the domain store that reads
what it needs, checks the caller's expected version and the command's own rule, and
ends in exactly one `add` or one `save`. `Command` lists the commands with their
arguments, and `runCommands` issues a sequence of them, each of which may raise.
-/

set_option autoImplicit false

namespace AgentCompanyOS.Domain

open Foundation Foundation.Txn

/-! ## Shared steps -/

/-- `DomainService._event`. -/
def newEvent (env : Env) (workspaceId : WorkspaceId) (eventType : EventType)
    (subjectType : SubjectType) (subjectId : Text) (version : Version) : DomainTxn Event := do
  let id ← fresh env .event
  let occurredAt ← now env
  pure ⟨id, workspaceId, eventType, subjectType, subjectId, version, occurredAt, [],
    List.nodup_nil⟩

/-- `DomainService._expect_version`. -/
def expectVersion (E : Type) {kind : IdKind} [Entity E kind] (entity : E) (expected : Version) :
    DomainTxn Unit :=
  raiseIf (expected ≠ Entity.version entity)
    (.domain (.versionConflict (py (Entity.typeName E)) (Entity.id entity).value expected.value
      (Entity.version entity).value))

/-- `DomainService._same_workspace`. -/
def sameWorkspace (relationship : String) (expected actual : WorkspaceId) : DomainTxn Unit :=
  raiseIf (expected ≠ actual)
    (.domain (.workspaceMismatch (py relationship) expected.value actual.value))

section

variable {E σ : Type} {kind : IdKind} [Entity E kind] [Table E kind]

/-- A new entity with its creation event. -/
def addNew (env : Env) (entity : E) (eventType : EventType) : DomainTxn E := do
  let event ← newEvent env (Entity.workspaceId entity) eventType (Entity.subjectType E)
    (Entity.id entity).text (Entity.version entity)
  add entity event
  pure entity

variable [Lifecycle E kind σ]

/-- `_save_goal`, `_save_task`, `_save_attempt` and `_save_execution`. -/
def saveResult (env : Env) (result : TransitionResult E) (expectedVersion : Version)
    (eventType : EventType) : DomainTxn E := do
  let transition := result.transition
  let event ← newEvent env transition.workspaceId eventType transition.subjectType
    transition.subjectId transition.toVersion
  save result.entity expectedVersion transition event
  pure result.entity

/-- `_change_execution`, `_change_attempt` and the goal and task commands without a
rule of their own. -/
def change (env : Env) (id : OpaqueId kind) (expectedVersion : Version)
    (operation : E → StateTransitionId → Instant → Except DomainError (TransitionResult E))
    (eventType : EventType) : DomainTxn E := do
  let entity ← getEntity E id
  expectVersion E entity expectedVersion
  let transitionId ← fresh env .stateTransition
  let occurredAt ← now env
  let result ← checked (operation entity transitionId occurredAt)
  saveResult env result expectedVersion eventType

end

/-! ## Workspace and goal commands -/

def createWorkspace (env : Env) (name : PyStr) : DomainTxn Workspace := atomic do
  let at' ← now env
  let id ← fresh env .workspace
  let workspace ← checked (Workspace.create id name at')
  addNew env workspace .workspaceCreated

/-- `CreateGoalCommand`. -/
structure CreateGoalCommand where
  workspaceId : WorkspaceId
  objective : PyStr
  acceptanceCriteria : List PyStr
  constraints : List PyStr

def createGoal (env : Env) (command : CreateGoalCommand) : DomainTxn Goal := atomic do
  let _ ← getWorkspace command.workspaceId
  let at' ← now env
  let id ← fresh env .goal
  let goal ← checked (Goal.create id command.workspaceId command.objective command.constraints
    command.acceptanceCriteria at')
  addNew env goal .goalCreated

def activateGoal (env : Env) (id : GoalId) (expectedVersion : Version) : DomainTxn Goal :=
  atomic (change env id expectedVersion Goal.activate .goalActivated)

def satisfyGoal (env : Env) (id : GoalId) (expectedVersion : Version) : DomainTxn Goal := atomic do
  let goal ← getGoal id
  expectVersion Goal goal expectedVersion
  let store ← getStore
  let tasks := store.tasksForGoal goal.id
  raiseIf (tasks = [] ∨ tasks.any (fun task => task.status ≠ .completed) = true)
    (violation "goal_satisfaction_requires_all_tasks_completed")
  let transitionId ← fresh env .stateTransition
  let at' ← now env
  let result ← checked (goal.satisfy transitionId at')
  saveResult env result expectedVersion .goalSatisfied

def closeGoalUnsatisfied (env : Env) (id : GoalId) (expectedVersion : Version) : DomainTxn Goal :=
  atomic (change env id expectedVersion Goal.closeUnsatisfied .goalClosedUnsatisfied)

def cancelGoal (env : Env) (id : GoalId) (expectedVersion : Version) : DomainTxn Goal :=
  atomic (change env id expectedVersion Goal.cancel .goalCancelled)

/-! ## Task commands -/

/-- `CreateTaskCommand`. -/
structure CreateTaskCommand where
  workspaceId : WorkspaceId
  goalId : GoalId
  title : PyStr
  acceptanceCriteria : List PyStr

def createTask (env : Env) (command : CreateTaskCommand) : DomainTxn Task := atomic do
  let _ ← getWorkspace command.workspaceId
  let goal ← getGoal command.goalId
  sameWorkspace "Task.goal" command.workspaceId goal.workspaceId
  raiseIf (goal.status ≠ .active) (violation "task_creation_requires_active_goal")
  let at' ← now env
  let id ← fresh env .task
  let task ← checked (Task.create id command.workspaceId command.goalId command.title
    command.acceptanceCriteria at')
  addNew env task .taskCreated

def readyTask (env : Env) (id : TaskId) (expectedVersion : Version) : DomainTxn Task := atomic do
  let task ← getTask id
  expectVersion Task task expectedVersion
  let transitionId ← fresh env .stateTransition
  let at' ← now env
  let result ← checked (task.markReady transitionId at')
  saveResult env result expectedVersion
    (if task.status = .proposed then .taskReady else .taskRetryReady)

def startTask (env : Env) (id : TaskId) (expectedVersion : Version) : DomainTxn Task :=
  atomic (change env id expectedVersion Task.start .taskStarted)

def completeTask (env : Env) (id : TaskId) (attemptId : TaskAttemptId)
    (expectedVersion : Version) : DomainTxn Task := atomic do
  let task ← getTask id
  let attempt ← getTaskAttempt attemptId
  expectVersion Task task expectedVersion
  sameWorkspace "Task.attempt" task.workspaceId attempt.workspaceId
  raiseIf (attempt.taskId ≠ task.id ∨ attempt.status ≠ .succeeded)
    (violation "task_completion_requires_its_succeeded_attempt")
  let transitionId ← fresh env .stateTransition
  let at' ← now env
  let result ← checked (task.complete transitionId at')
  saveResult env result expectedVersion .taskCompleted

def failTask (env : Env) (id : TaskId) (expectedVersion : Version) : DomainTxn Task :=
  atomic (change env id expectedVersion Task.fail .taskFailed)

def cancelTask (env : Env) (id : TaskId) (expectedVersion : Version) : DomainTxn Task :=
  atomic (change env id expectedVersion Task.cancel .taskCancelled)

/-! ## Execution commands -/

/-- `CreateExecutionCommand`. -/
structure CreateExecutionCommand where
  workspaceId : WorkspaceId
  goalId : GoalId
  initiatedBy : PyStr
  maxTaskAttempts : Int
  retryOf : Option ExecutionId

/-- The checks of `create_execution` on the execution it retries. -/
def checkRetry (command : CreateExecutionCommand) (goal : Goal) : DomainTxn Unit :=
  match command.retryOf with
  | none => pure ()
  | some retryOf => do
      let previous ← getExecution retryOf
      sameWorkspace "Execution.retry" command.workspaceId previous.workspaceId
      raiseIf (previous.goalId ≠ goal.id ∨ previous.status.terminal = false)
        (violation "execution_retry_requires_terminal_execution_for_goal")

theorem reads_checkRetry (command : CreateExecutionCommand) (goal : Goal) :
    Reads (checkRetry command goal) := by
  unfold checkRetry
  split
  · exact Reads.pure ()
  · exact (reads_getEntity Execution _).bind fun _ => (Reads.raiseIf _ _).bind fun _ =>
      Reads.raiseIf _ _

def createExecution (env : Env) (command : CreateExecutionCommand) : DomainTxn Execution :=
  atomic do
    let _ ← getWorkspace command.workspaceId
    let goal ← getGoal command.goalId
    sameWorkspace "Execution.goal" command.workspaceId goal.workspaceId
    raiseIf (goal.status ≠ .active) (violation "execution_creation_requires_active_goal")
    checkRetry command goal
    let at' ← now env
    let id ← fresh env .execution
    let bounds ← checked (ExecutionBounds.create command.maxTaskAttempts)
    let execution ← checked (Execution.create id command.workspaceId command.goalId
      command.initiatedBy bounds command.retryOf at')
    addNew env execution .executionCreated

def startExecution (env : Env) (id : ExecutionId) (expectedVersion : Version) :
    DomainTxn Execution :=
  atomic (change env id expectedVersion Execution.start .executionStarted)

def waitExecution (env : Env) (id : ExecutionId) (expectedVersion : Version) :
    DomainTxn Execution :=
  atomic (change env id expectedVersion Execution.wait .executionWaiting)

def resumeExecution (env : Env) (id : ExecutionId) (expectedVersion : Version) :
    DomainTxn Execution :=
  atomic (change env id expectedVersion Execution.resume .executionResumed)

def succeedExecution (env : Env) (id : ExecutionId) (expectedVersion : Version) :
    DomainTxn Execution := atomic do
  let execution ← getExecution id
  expectVersion Execution execution expectedVersion
  let store ← getStore
  let tasks := store.tasksForGoal execution.goalId
  let attempts := store.attemptsForExecution execution.id
  raiseIf (tasks = [] ∨ tasks.any (fun task => task.status ≠ .completed) = true)
    (violation "execution_success_requires_all_goal_tasks_completed")
  raiseIf (attempts.any (fun attempt => !attempt.status.terminal) = true)
    (violation "execution_success_requires_terminal_attempts")
  let transitionId ← fresh env .stateTransition
  let at' ← now env
  let result ← checked (execution.succeed transitionId at')
  saveResult env result expectedVersion .executionSucceeded

def failExecution (env : Env) (id : ExecutionId) (expectedVersion : Version) (reason : PyStr) :
    DomainTxn Execution :=
  atomic (change env id expectedVersion (fun execution transitionId at' =>
    execution.fail transitionId at' reason) .executionFailed)

def cancelExecution (env : Env) (id : ExecutionId) (expectedVersion : Version) :
    DomainTxn Execution :=
  atomic (change env id expectedVersion Execution.cancel .executionCancelled)

/-! ## Task attempt commands -/

/-- `CreateTaskAttemptCommand`. -/
structure CreateTaskAttemptCommand where
  workspaceId : WorkspaceId
  taskId : TaskId
  executionId : ExecutionId

def createTaskAttempt (env : Env) (command : CreateTaskAttemptCommand) :
    DomainTxn TaskAttempt := atomic do
  let _ ← getWorkspace command.workspaceId
  let task ← getTask command.taskId
  let execution ← getExecution command.executionId
  sameWorkspace "TaskAttempt.task" command.workspaceId task.workspaceId
  sameWorkspace "TaskAttempt.execution" command.workspaceId execution.workspaceId
  raiseIf (task.goalId ≠ execution.goalId)
    (violation "task_attempt_task_and_execution_share_goal")
  raiseIf (task.status ≠ .inProgress)
    (violation "task_attempt_creation_requires_in_progress_task")
  raiseIf (execution.status ≠ .running)
    (violation "task_attempt_creation_requires_running_execution")
  let store ← getStore
  let attempts := store.attemptsForTask task.id
  raiseIf (attempts.any (fun attempt => !attempt.status.terminal) = true)
    (violation "one_non_terminal_attempt_per_task")
  raiseIf (execution.bounds.maxTaskAttempts ≤ (store.attemptsForExecution execution.id).length)
    (violation "execution_task_attempt_bound")
  let at' ← now env
  let id ← fresh env .taskAttempt
  let attempt ← checked (TaskAttempt.create id command.workspaceId command.taskId
    command.executionId (attempts.length + 1) (attempts.getLast?.map TaskAttempt.id) at')
  addNew env attempt .taskAttemptCreated

def startTaskAttempt (env : Env) (id : TaskAttemptId) (expectedVersion : Version) :
    DomainTxn TaskAttempt :=
  atomic (change env id expectedVersion TaskAttempt.start .taskAttemptStarted)

def succeedTaskAttempt (env : Env) (id : TaskAttemptId) (expectedVersion : Version) :
    DomainTxn TaskAttempt :=
  atomic (change env id expectedVersion TaskAttempt.succeed .taskAttemptSucceeded)

def failTaskAttempt (env : Env) (id : TaskAttemptId) (expectedVersion : Version)
    (reason : PyStr) : DomainTxn TaskAttempt :=
  atomic (change env id expectedVersion (fun attempt transitionId at' =>
    attempt.fail transitionId at' reason) .taskAttemptFailed)

def cancelTaskAttempt (env : Env) (id : TaskAttemptId) (expectedVersion : Version) :
    DomainTxn TaskAttempt :=
  atomic (change env id expectedVersion TaskAttempt.cancel .taskAttemptCancelled)

/-! ## Command sequences -/

/-- A command of the service with its arguments. -/
inductive Command where
  | createWorkspace (name : PyStr)
  | createGoal (command : CreateGoalCommand)
  | activateGoal (id : GoalId) (expectedVersion : Version)
  | satisfyGoal (id : GoalId) (expectedVersion : Version)
  | closeGoalUnsatisfied (id : GoalId) (expectedVersion : Version)
  | cancelGoal (id : GoalId) (expectedVersion : Version)
  | createTask (command : CreateTaskCommand)
  | readyTask (id : TaskId) (expectedVersion : Version)
  | startTask (id : TaskId) (expectedVersion : Version)
  | completeTask (id : TaskId) (attemptId : TaskAttemptId) (expectedVersion : Version)
  | failTask (id : TaskId) (expectedVersion : Version)
  | cancelTask (id : TaskId) (expectedVersion : Version)
  | createExecution (command : CreateExecutionCommand)
  | startExecution (id : ExecutionId) (expectedVersion : Version)
  | waitExecution (id : ExecutionId) (expectedVersion : Version)
  | resumeExecution (id : ExecutionId) (expectedVersion : Version)
  | succeedExecution (id : ExecutionId) (expectedVersion : Version)
  | failExecution (id : ExecutionId) (expectedVersion : Version) (reason : PyStr)
  | cancelExecution (id : ExecutionId) (expectedVersion : Version)
  | createTaskAttempt (command : CreateTaskAttemptCommand)
  | startTaskAttempt (id : TaskAttemptId) (expectedVersion : Version)
  | succeedTaskAttempt (id : TaskAttemptId) (expectedVersion : Version)
  | failTaskAttempt (id : TaskAttemptId) (expectedVersion : Version) (reason : PyStr)
  | cancelTaskAttempt (id : TaskAttemptId) (expectedVersion : Version)

/-- Issue one command and drop its result. -/
def Command.issue (env : Env) : Command → DomainTxn Unit
  | .createWorkspace name => discard (Domain.createWorkspace env name)
  | .createGoal command => discard (Domain.createGoal env command)
  | .activateGoal id v => discard (Domain.activateGoal env id v)
  | .satisfyGoal id v => discard (Domain.satisfyGoal env id v)
  | .closeGoalUnsatisfied id v => discard (Domain.closeGoalUnsatisfied env id v)
  | .cancelGoal id v => discard (Domain.cancelGoal env id v)
  | .createTask command => discard (Domain.createTask env command)
  | .readyTask id v => discard (Domain.readyTask env id v)
  | .startTask id v => discard (Domain.startTask env id v)
  | .completeTask id attemptId v => discard (Domain.completeTask env id attemptId v)
  | .failTask id v => discard (Domain.failTask env id v)
  | .cancelTask id v => discard (Domain.cancelTask env id v)
  | .createExecution command => discard (Domain.createExecution env command)
  | .startExecution id v => discard (Domain.startExecution env id v)
  | .waitExecution id v => discard (Domain.waitExecution env id v)
  | .resumeExecution id v => discard (Domain.resumeExecution env id v)
  | .succeedExecution id v => discard (Domain.succeedExecution env id v)
  | .failExecution id v reason => discard (Domain.failExecution env id v reason)
  | .cancelExecution id v => discard (Domain.cancelExecution env id v)
  | .createTaskAttempt command => discard (Domain.createTaskAttempt env command)
  | .startTaskAttempt id v => discard (Domain.startTaskAttempt env id v)
  | .succeedTaskAttempt id v => discard (Domain.succeedTaskAttempt env id v)
  | .failTaskAttempt id v reason => discard (Domain.failTaskAttempt env id v reason)
  | .cancelTaskAttempt id v => discard (Domain.cancelTaskAttempt env id v)

/-- The world after a sequence of commands; a command that raised leaves what it
leaves. -/
def runCommands (env : Env) (commands : List Command) (w : World DomainStore) :
    World DomainStore :=
  commands.foldl (fun w command => World.after (command.issue env w)) w

/-- The world a service starts in: an empty store and unused counters. -/
def emptyWorld : World DomainStore := ⟨.empty, 0, 0⟩

end AgentCompanyOS.Domain
