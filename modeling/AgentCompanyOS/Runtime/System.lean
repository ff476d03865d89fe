import AgentCompanyOS.Runtime.Drive
import AgentCompanyOS.Runtime.Recovery
import AgentCompanyOS.Runtime.Operations

/-!
# Calls running side by side

The asynchronous services as one transition system. A call is at a program point, with
the frames of the calls that wait for it; one step of the system runs one transaction
of one call, lets an executor be entered or answer, or runs one synchronous command.
Any call may be dropped at any step, and a crash drops all of them, so that committed
work is what the next step finds. The remote ledger is not part of the store and no
step takes a row out of it.

The log records what a claim about a whole run speaks of: executor entries, ledger
lookups and the answers of recovery calls. No step reads it.
-/

set_option autoImplicit false

namespace AgentCompanyOS.Runtime

open Foundation Foundation.Txn Domain

/-! ## Points and frames -/

/-- The loop of a `drive` call: the iterations left and the run it last bound. -/
structure Loop where
  workspaceId : WorkspaceId
  runId : AgentRunId
  remaining : Nat
  run : AgentRun

/-- The code that `drive` hands to `_failure`; a timeout asks the clock first. -/
inductive FailureCode where
  | text (code : PyStr)
  | timedOut (deadline : Instant)

/-- Where a call stands between two transactions. -/
inductive Point where
  | driveEntry (workspaceId : WorkspaceId) (runId : AgentRunId) (expected : Version)
  | claim (loop : Loop)
  | model (loop : Loop) (iteration : ClaimedIteration)
  | failing (workspaceId : WorkspaceId) (runId : AgentRunId) (code : FailureCode)
      (cancelled : Bool)
  | invoke (workspaceId : WorkspaceId) (runId : AgentRunId) (action : Action)
      (expected : Version)
  | entering (d : Dispatch)
  | executing (d : Dispatch)
  | replied (d : Dispatch) (reply : Except Exc PyStr)
  | again (d : Dispatch) (error : Exc)
  | resumeExpire (workspaceId : WorkspaceId) (runId : AgentRunId) (intentId : ActionIntentId)
      (expected : Version)
  | resumeOpen (workspaceId : WorkspaceId) (runId : AgentRunId) (intentId : ActionIntentId)
      (expected : Version)
  | restoreWait (workspaceId : WorkspaceId) (runId : AgentRunId) (intentId : ActionIntentId)
      (resumed : Version) (error : Exc)
  | recoverOpen (workspaceId : WorkspaceId) (runId : AgentRunId)
      (invocationId : ToolInvocationId) (connector : Connector)
  | lookUp (workspaceId : WorkspaceId) (runId : AgentRunId) (invocationId : ToolInvocationId)
      (invocation : ToolInvocation) (connector : Connector)
  | recoverApply (workspaceId : WorkspaceId) (runId : AgentRunId)
      (invocationId : ToolInvocationId) (invocation : ToolInvocation) (lookup : RemoteLookup)
  | repair (receipt : ToolReceipt)

/-- A call that waits for the call above it. -/
inductive Frame where
  /-- `drive` around `invoke`. -/
  | loop (loop : Loop)
  /-- `resume_intent` around `invoke`. -/
  | approval (workspaceId : WorkspaceId) (runId : AgentRunId) (intentId : ActionIntentId)
      (resumed : Version)
  /-- `resume_approval` around `resume_intent`. -/
  | thenDrive (workspaceId : WorkspaceId) (runId : AgentRunId)

/-- A call in flight. -/
structure Call where
  id : Nat
  host : Host
  point : Point
  frames : List Frame

/-- What the environment contributes to a step. -/
inductive Input where
  /-- Nothing: the call's own next transaction or action. -/
  | next
  /-- The answers of the memory and message ports. -/
  | ports (answers : PortAnswers)
  /-- The model's reply, with the answers of the two ports after it. -/
  | model (reply : Except Exc PyStr) (answers : PortAnswers)
  /-- The reply of an executor that is not modelled. -/
  | executor (reply : Except Exc PyStr)
  /-- A timeout, a cancellation or another failure of a tool call. -/
  | interrupt (error : Exc)

/-! ## Control flow between transactions -/

/-- The next point of a loop. -/
def Loop.advance (loop : Loop) : Point :=
  match loop.remaining with
  | 0 => .failing loop.workspaceId loop.runId (.text (py "iteration_limit_exceeded")) false
  | remaining + 1 => .claim { loop with remaining := remaining }

/-- The `except` clauses of `drive`. -/
def Loop.handle (loop : Loop) (e : Exc) : Point :=
  let code (c : PyStr) := Point.failing loop.workspaceId loop.runId (.text c) false
  match e with
  | .timeout => .failing loop.workspaceId loop.runId (.timedOut loop.run.deadline) false
  | .cancelled => .failing loop.workspaceId loop.runId (.text (py "cancelled")) true
  | .model c => code c.value
  | .domain e => code e.code
  | _ => code (py "runtime_error")

/-- Where a result of the call on top goes; nothing when the outermost call has ended. -/
def resumeFrames : List Frame → Except Exc AgentRun → Option (Point × List Frame)
  | [], _ => none
  | .loop loop :: rest, .ok run =>
      if run.status ≠ .running then resumeFrames rest (.ok run)
      else some ({ loop with run := run }.advance, rest)
  | .loop loop :: rest, .error e => some (loop.handle e, rest)
  | .approval _ _ _ _ :: rest, .ok run => resumeFrames rest (.ok run)
  | .approval workspaceId runId intentId resumed :: rest, .error e =>
      -- `except Exception` does not see a cancellation.
      if e = .cancelled then resumeFrames rest (.error e)
      else some (.restoreWait workspaceId runId intentId resumed e, rest)
  | .thenDrive workspaceId runId :: rest, .ok run =>
      if run.status = .running ∧ run.workingState.invocationPending = false then
        some (.driveEntry workspaceId runId run.version, rest)
      else resumeFrames rest (.ok run)
  | .thenDrive _ _ :: rest, .error e => resumeFrames rest (.error e)

/-- What `drive` makes of an exception of the model call. -/
def modelError : Exc → Exc
  | .timeout => .timeout
  | .cancelled => .cancelled
  | .model c => .model c
  | _ => .model .providerUnavailable

/-- What `invoke` makes of the executor's reply: the validated output, the error it is
recorded with and the bytes of the output. -/
def judgeOutput (d : Dispatch) (reply : Except Exc PyStr) :
    Option ToolOutput × Option ToolError × Nat :=
  match reply with
  | .error .timeout => (none, some .timeout, 0)
  | .error .cancelled => (none, some .cancelled, 0)
  | .error (.tool code) => (none, some code, 0)
  | .error _ => (none, some .internalExecutorError, 0)
  | .ok raw =>
      match validateOutput raw d.invocation.toolVersion d.invocation.validatedInput with
      | .error code => (none, some code, 0)
      | .ok output => (some output, none, ((utf8 raw).map List.length).getD 0)

/-- The end of `invoke` after its reply is recorded. -/
def invokeResult (reply : Except Exc PyStr) (run : AgentRun) : Except Exc AgentRun :=
  match reply with
  | .error .cancelled => .error .cancelled
  | _ =>
      if run.status = .running ∧ run.workingState.invocationPending = true then
        .error (.model .versionConflict)
      else .ok run

/-! ## One step of one call -/

/-- What the log records. -/
inductive Entry where
  | entered (invocation : ToolInvocation)
  | looked (call : Nat) (key : PyStr) (row : Option LedgerRow)
  | answered (call : Nat) (case : RecoveryCase)

/-- What the steps of a call work on. -/
structure Shared where
  world : World RuntimeStore
  ledger : Ledger

/-- A step of a call: the shared state after it, where the call stands, and what the
log gains. -/
structure Advance where
  shared : Shared
  next : Option (Point × List Frame)
  entries : List Entry := []

/-- Run a transaction and continue with its result. -/
def Shared.commit {α : Type} (shared : Shared) (m : RuntimeTxn α)
    (next : Except Exc α → Option (Point × List Frame)) : Advance :=
  let result := m shared.world
  { shared := { shared with world := World.after result }, next := next (World.answer result) }

/-- Stay at the same point. -/
def Shared.stay (shared : Shared) (point : Point) (frames : List Frame) : Advance :=
  { shared := shared, next := some (point, frames) }

/-- After the entry of `drive`. -/
def afterEntry (workspaceId : WorkspaceId) (runId : AgentRunId) (frames : List Frame) :
    Except Exc AgentRun → Option (Point × List Frame)
  | .ok run => some (Loop.advance ⟨workspaceId, runId,
      run.limits.maxIterations - run.workingState.iteration, run⟩, frames)
  | .error e => resumeFrames frames (.error e)

/-- After the claim of an iteration. -/
def afterClaim (loop : Loop) (frames : List Frame) :
    Except Exc ClaimedIteration → Option (Point × List Frame)
  | .ok iteration => some (.model loop iteration, frames)
  | .error e => some (loop.handle e, frames)

/-- After the transaction of a decision that calls a tool. -/
def afterToolAction (loop : Loop) (frames : List Frame) :
    Except Exc (Action × Version) → Option (Point × List Frame)
  | .ok (action, version) =>
      some (.invoke loop.workspaceId loop.runId action version, .loop loop :: frames)
  | .error e => some (loop.handle e, frames)

/-- After the claiming transaction of `invoke`. -/
def afterInvoke (frames : List Frame) : Except Exc ClaimResult → Option (Point × List Frame)
  | .ok (.returned run) => resumeFrames frames (.ok run)
  | .ok (.dispatched d) => some (.entering d, frames)
  | .error e => resumeFrames frames (.error e)

/-- After the transaction that records a reply. -/
def afterReply (d : Dispatch) (reply : Except Exc PyStr) (frames : List Frame) :
    Except Exc AgentRun → Option (Point × List Frame)
  | .ok run => resumeFrames frames (invokeResult reply run)
  | .error e => some (.again d e, frames)

/-- After a transaction whose own result is not used: what the call has raised before
goes on, or what the transaction raises. -/
def afterRaise {α : Type} (error : Exc) (frames : List Frame) :
    Except Exc α → Option (Point × List Frame)
  | .ok _ => resumeFrames frames (.error error)
  | .error e => resumeFrames frames (.error e)

/-- After the lazy expiry of `resume_intent`. -/
def afterExpire (workspaceId : WorkspaceId) (runId : AgentRunId) (intentId : ActionIntentId)
    (expected : Version) (frames : List Frame) :
    Except Exc GovernedAction → Option (Point × List Frame)
  | .ok _ => some (.resumeOpen workspaceId runId intentId expected, frames)
  | .error e => resumeFrames frames (.error e)

/-- After the transaction of `resume_intent` that resumes the run. -/
def afterResume (workspaceId : WorkspaceId) (runId : AgentRunId) (intentId : ActionIntentId)
    (frames : List Frame) : Except Exc (Option (AgentRun × Action)) → Option (Point × List Frame)
  | .ok (some (run, action)) => some (.invoke workspaceId runId action run.version,
      .approval workspaceId runId intentId run.version :: frames)
  | .ok none => resumeFrames frames (.error (violation "approval_revalidation_failed"))
  | .error e => resumeFrames frames (.error e)

/-- The loop after an iteration that called no tool. -/
def afterAction (loop : Loop) (frames : List Frame) :
    Except Exc AgentRun → Option (Point × List Frame)
  | .ok run => resumeFrames (.loop loop :: frames) (.ok run)
  | .error e => some (loop.handle e, frames)

/-- The step of a call that has the model's reply. -/
def Shared.decide (shared : Shared) (platform : Platform) (host : Host) (loop : Loop)
    (iteration : ClaimedIteration) (frames : List Frame) (reply : Except Exc PyStr)
    (answers : PortAnswers) : Advance :=
  match reply with
  | .error e => { shared := shared, next := some (loop.handle (modelError e), frames) }
  | .ok raw =>
      match parseDecision platform.floatRepr raw iteration.claimed.limits.maxResponseChars with
      | .error e => { shared := shared, next := some (loop.handle e, frames) }
      | .ok decision =>
          if decision.actionType = .callTool then
            shared.commit (driveToolAction platform.toEnv host answers loop.workspaceId loop.runId
              iteration decision) (afterToolAction loop frames)
          else
            shared.commit (driveAction platform host answers loop.workspaceId loop.runId iteration
              decision) (afterAction loop frames)

/-- The failure transaction with its code. -/
def failingTxn (env : Env) (workspaceId : WorkspaceId) (runId : AgentRunId)
    (code : FailureCode) (cancelled : Bool) : RuntimeTxn AgentRun :=
  match code with
  | .text code => failure env workspaceId runId code cancelled
  | .timedOut deadline => do
      let at' ← now env
      failure env workspaceId runId
        (if deadline ≤ at' then py "deadline_exceeded" else py "model_timeout") cancelled

/-- The result of a failing `drive`: a cancelled one raises again. -/
def failingResult (cancelled : Bool) : Except Exc AgentRun → Except Exc AgentRun
  | .ok run => if cancelled = true then .error .cancelled else .ok run
  | .error e => .error e

/-- Where a transaction of `reconcile` leads; an answer ends the call. -/
def recoveryNext (workspaceId : WorkspaceId) (runId : AgentRunId)
    (invocationId : ToolInvocationId) (connector : Connector) (frames : List Frame) :
    Except Exc RecoveryStep → Option (Point × List Frame)
  | .ok (.lookUp invocation) =>
      some (.lookUp workspaceId runId invocationId invocation connector, frames)
  | .ok (.stored receipt) => some (.repair receipt, frames)
  | .ok (.answered _) => none
  | .error _ => none

/-- The log entry of a recovery answer. -/
def recoveryEntries (call : Nat) : Except Exc RecoveryStep → List Entry
  | .ok (.answered case) => [.answered call case]
  | _ => []

/-- A recovery transaction with its log entry. -/
def Shared.recover (shared : Shared) (call : Nat) (m : RuntimeTxn RecoveryStep)
    (next : Except Exc RecoveryStep → Option (Point × List Frame)) : Advance :=
  let result := m shared.world
  { shared := { shared with world := World.after result }
    next := next (World.answer result)
    entries := recoveryEntries call (World.answer result) }

/-- A step of the executor of a dispatched call. -/
def Shared.execute (shared : Shared) (platform : Platform) (d : Dispatch) (frames : List Frame)
    (input : Input) : Advance :=
  match d.executor, input with
  | .recoverable reject, .next =>
      let result := executeFixture platform reject d.invocation shared.ledger
      { shared := { shared with ledger := result.1 }
        next := some (.replied d result.2, frames) }
  | .external, .executor reply => { shared := shared, next := some (.replied d reply, frames) }
  | _, .interrupt e => { shared := shared, next := some (.replied d (.error e), frames) }
  | _, _ => shared.stay (.executing d) frames

/-- The last transaction of a `reconcile` that has stored a receipt. -/
def repairAnswer (platform : Platform) (host : Host) (receipt : ToolReceipt) :
    RuntimeTxn RecoveryStep := do
  let case ← repairReceipt platform host receipt
  pure (.answered case)

/-- The lookup between the two transactions of `reconcile`. -/
def Shared.lookUp (shared : Shared) (platform : Platform) (call : Call)
    (workspaceId : WorkspaceId) (runId : AgentRunId) (invocationId : ToolInvocationId)
    (invocation : ToolInvocation) (connector : Connector) : Advance :=
  match executionKey platform invocation, connector with
  | .ok key, .fixture unknown =>
      let row := shared.ledger.get? key
      { shared := shared
        next := some (.recoverApply workspaceId runId invocationId invocation
          (lookupStatus unknown row), call.frames)
        entries := [.looked call.id key row] }
  | _, _ => { shared := shared, next := none }

/-- One step of a call at a point. -/
def Shared.advance (shared : Shared) (platform : Platform) (call : Call) (input : Input) :
    Advance :=
  let env := platform.toEnv
  let frames := call.frames
  match call.point, input with
  | .driveEntry workspaceId runId expected, .next =>
      shared.commit (driveEntry workspaceId runId expected) (afterEntry workspaceId runId frames)
  | .claim loop, .ports answers =>
      shared.commit (driveClaim platform call.host answers loop.workspaceId loop.runId)
        (afterClaim loop frames)
  | .model loop iteration, .model reply answers =>
      shared.decide platform call.host loop iteration frames reply answers
  | .failing workspaceId runId code cancelled, .next =>
      shared.commit (failingTxn env workspaceId runId code cancelled) fun result =>
        resumeFrames frames (failingResult cancelled result)
  | .invoke workspaceId runId action expected, .next =>
      shared.commit (invokeClaim platform call.host workspaceId runId action expected)
        (afterInvoke frames)
  | .entering d, .next =>
      { shared := shared, next := some (.executing d, frames)
        entries := [.entered d.invocation] }
  | .entering d, .interrupt e => { shared := shared, next := some (.replied d (.error e), frames) }
  | .executing d, input => shared.execute platform d frames input
  -- The reply is lost to a timeout or a cancellation.
  | .replied d _, .interrupt e => { shared := shared, next := some (.replied d (.error e), frames) }
  | .replied d reply, .next =>
      let (output, error, outputBytes) := judgeOutput d reply
      shared.commit (reconcileReply platform call.host d.invocation d.action output error
        d.inputBytes outputBytes) (afterReply d reply frames)
  | .again d error, .next =>
      shared.commit (reconcileReply platform call.host d.invocation d.action none
        (some .internalExecutorError) d.inputBytes 0) (afterRaise error frames)
  | .resumeExpire workspaceId runId intentId expected, .next =>
      if call.host.governance = false then
        { shared := shared, next := resumeFrames frames (.error (violation "governance_required")) }
      else
        shared.commit (expire env workspaceId intentId)
          (afterExpire workspaceId runId intentId expected frames)
  | .resumeOpen workspaceId runId intentId expected, .next =>
      shared.commit (resumeOpen platform call.host workspaceId runId intentId expected)
        (afterResume workspaceId runId intentId frames)
  | .restoreWait workspaceId runId intentId resumed error, .next =>
      shared.commit (resumeRestore platform workspaceId runId intentId resumed)
        (afterRaise error frames)
  | .recoverOpen workspaceId runId invocationId connector, .next =>
      shared.recover call.id
        (recoverOpen platform call.host workspaceId runId invocationId connector)
        (recoveryNext workspaceId runId invocationId connector frames)
  | .lookUp workspaceId runId invocationId invocation connector, .next =>
      shared.lookUp platform call workspaceId runId invocationId invocation connector
  | .recoverApply workspaceId runId invocationId invocation lookup, .next =>
      shared.recover call.id
        (recoverApply platform call.host workspaceId runId invocationId invocation lookup)
        (recoveryNext workspaceId runId invocationId .withoutLookup frames)
  | .repair receipt, .next =>
      shared.recover call.id (repairAnswer platform call.host receipt) fun _ => none
  | point, _ => shared.stay point frames

/-! ## The system -/

/-- The store, the remote ledger, the calls in flight and the log. -/
structure Sys where
  shared : Shared
  calls : List Call
  issued : Nat
  log : List Entry

abbrev Sys.store (s : Sys) : RuntimeStore := s.shared.world.store

/-- A migrated database, an empty ledger, and no calls. -/
def Sys.empty : Sys := ⟨⟨⟨.empty, 0, 0⟩, .empty⟩, [], 0, []⟩

/-- A call that a host may make. -/
inductive Request where
  | drive (workspaceId : WorkspaceId) (runId : AgentRunId) (expected : Version)
  | invoke (workspaceId : WorkspaceId) (runId : AgentRunId) (action : Action)
      (expected : Version)
  | resumeIntent (workspaceId : WorkspaceId) (runId : AgentRunId) (intentId : ActionIntentId)
      (expected : Version)
  | resumeApproval (workspaceId : WorkspaceId) (runId : AgentRunId) (intentId : ActionIntentId)
      (expected : Version)
  | reconcile (workspaceId : WorkspaceId) (runId : AgentRunId) (invocationId : ToolInvocationId)
      (connector : Connector)

/-- The first point of a call and its frames. -/
def Request.enter : Request → Point × List Frame
  | .drive workspaceId runId expected => (.driveEntry workspaceId runId expected, [])
  | .invoke workspaceId runId action expected => (.invoke workspaceId runId action expected, [])
  | .resumeIntent workspaceId runId intentId expected =>
      (.resumeExpire workspaceId runId intentId expected, [])
  | .resumeApproval workspaceId runId intentId expected =>
      (.resumeExpire workspaceId runId intentId expected, [.thenDrive workspaceId runId])
  | .reconcile workspaceId runId invocationId connector =>
      (.recoverOpen workspaceId runId invocationId connector, [])

/-- A synchronous command; apart from a rejected retrieval it is one transaction. -/
inductive HostCommand where
  | domain (command : Domain.Command)
  | publishDefinition (definition : AgentDefinitionVersion)
  | publishTool (version : ToolVersion)
  | setToolEnabled (workspaceId : WorkspaceId) (toolId : ToolId) (enabled : Bool)
  | publishApprovalPolicy (policy : ApprovalPolicy)
  | createGraph (workspaceId : WorkspaceId) (name : Text)
  | publishGraph (draft : OrganizationGraphVersion) (expected : Version)
  | activateGraph (workspaceId : WorkspaceId) (version expected : Version)
  | startRun (host : Host) (command : StartCommand)
  | resumeRun (workspaceId : WorkspaceId) (runId : AgentRunId) (expected : Version)
      (context : SuppliedContext)
  | cancelRun (workspaceId : WorkspaceId) (runId : AgentRunId) (expected : Version)
  | yieldForHandoff (workspaceId : WorkspaceId) (runId : AgentRunId) (expected : Version)
  | publishSource (limits : IngestionLimits) (command : PublishKnowledgeSource)
  | publishSourceVersion (limits : IngestionLimits) (workspaceId : WorkspaceId)
      (sourceId : KnowledgeSourceId) (expected : Version)
      (normalized : Except Exc NormalizedContent)
  | disableSource (workspaceId : WorkspaceId) (sourceId : KnowledgeSourceId) (expected : Version)
  | retrieveKnowledge (retriever : Retriever) (workspaceId : WorkspaceId) (runId : AgentRunId)
      (expected : Version) (query : KnowledgeQuery)
  | retrieveMemory (answer : MemoryAnswer) (workspaceId : WorkspaceId) (runId : AgentRunId)
      (expected : Version)
  | decide (workspaceId : WorkspaceId) (intentId : ActionIntentId) (digest : PyStr)
      (reviewer : ReviewerPrincipal) (kind : DecisionKind) (reason : PyStr)
  | cancelIntent (workspaceId : WorkspaceId) (intentId : ActionIntentId)
  | expireIntent (workspaceId : WorkspaceId) (intentId : ActionIntentId)
  | restrict (workspaceId : WorkspaceId) (mode : OperationalMode) (principal : PyStr)
      (at' : Instant)
  | release (request : ReleaseRequest)

/-- The transaction of a command. -/
def HostCommand.txn (platform : Platform) : HostCommand → RuntimeTxn Unit
  | .domain command => inDomain (command.issue platform.toEnv)
  | .publishDefinition definition => Runtime.publishDefinition definition
  | .publishTool version => Runtime.publishTool version
  | .setToolEnabled workspaceId toolId enabled =>
      Runtime.setToolEnabled workspaceId toolId enabled
  | .publishApprovalPolicy policy => Runtime.publishApprovalPolicy policy
  | .createGraph workspaceId name => discard (Runtime.createGraph platform.toEnv workspaceId name)
  | .publishGraph draft expected => discard (Runtime.publishGraph platform.toEnv draft expected)
  | .activateGraph workspaceId version expected =>
      discard (Runtime.activateGraph platform.toEnv workspaceId version expected)
  | .startRun host command => discard (Runtime.startRun platform.toEnv host command)
  | .resumeRun workspaceId runId expected context =>
      discard (Runtime.resumeRun platform.toEnv workspaceId runId expected context)
  | .cancelRun workspaceId runId expected =>
      discard (Runtime.cancelRun platform.toEnv workspaceId runId expected)
  | .yieldForHandoff workspaceId runId expected =>
      discard (Runtime.yieldForHandoff platform.toEnv workspaceId runId expected)
  | .publishSource limits command => discard (Runtime.publishSource platform limits command)
  | .publishSourceVersion limits workspaceId sourceId expected normalized =>
      discard (Runtime.publishSourceVersion platform limits workspaceId sourceId expected
        normalized)
  | .disableSource workspaceId sourceId expected =>
      discard (Runtime.disableSource platform.toEnv workspaceId sourceId expected)
  | .retrieveKnowledge retriever workspaceId runId expected query =>
      discard (Runtime.retrieveKnowledge platform retriever workspaceId runId expected query)
  | .retrieveMemory answer workspaceId runId expected =>
      Runtime.retrieveMemory platform.toEnv answer workspaceId runId expected
  | .decide workspaceId intentId digest reviewer kind reason =>
      discard (Runtime.decide platform.toEnv workspaceId intentId digest reviewer kind reason)
  | .cancelIntent workspaceId intentId =>
      discard (Runtime.cancelIntent platform.toEnv workspaceId intentId)
  | .expireIntent workspaceId intentId =>
      discard (Runtime.expire platform.toEnv workspaceId intentId)
  | .restrict workspaceId mode principal at' => Runtime.restrict workspaceId mode principal at'
  | .release request => discard (Runtime.release request)

/-- What can happen next. -/
inductive Label where
  | open (host : Host) (request : Request)
  | advance (call : Nat) (input : Input)
  | drop (call : Nat)
  | crash
  | command (command : HostCommand)
  /-- The host moves to a database restored from a backup of this one. -/
  | restore (request : RestoreRequest)

/-- A call by its number. -/
def Sys.call? (s : Sys) (id : Nat) : Option Call := s.calls.find? (·.id = id)

/-- The calls after one of them has moved or ended. -/
def moveCall (calls : List Call) (call : Call) (next : Option (Point × List Frame)) : List Call :=
  match next with
  | some (point, frames) =>
      calls.map fun c => if c.id = call.id then { c with point := point, frames := frames } else c
  | none => calls.filter (·.id ≠ call.id)

/-- The system after a step of one call. -/
def Sys.moved (s : Sys) (call : Call) (a : Advance) : Sys :=
  { s with
    shared := a.shared
    calls := moveCall s.calls call a.next
    log := s.log ++ a.entries }

/-- The system after a synchronous transaction, whether it returned or raised. -/
def Sys.commanded (s : Sys) (m : RuntimeTxn Unit) : Sys :=
  { s with shared := { s.shared with world := World.after (m s.shared.world) } }

/-- The system in the restored database; a restore that fails leaves the host where
it is. -/
def Sys.restored (s : Sys) (request : RestoreRequest) : Sys :=
  match Runtime.restore request s.shared.world with
  | .ok _ w => { s with shared := { s.shared with world := w }, calls := [] }
  | .error _ _ => s

/-- One step of the system. -/
def Sys.step (platform : Platform) (s : Sys) : Label → Sys
  | .open host request =>
      let (point, frames) := request.enter
      { s with calls := s.calls ++ [⟨s.issued, host, point, frames⟩], issued := s.issued + 1 }
  | .advance id input =>
      match s.call? id with
      | some call => s.moved call (s.shared.advance platform call input)
      | none => s
  | .drop id => { s with calls := s.calls.filter (·.id ≠ id) }
  | .crash => { s with calls := [] }
  | .command command => s.commanded (command.txn platform)
  | .restore request => s.restored request

/-- A call moves when it is known; otherwise nothing happens. -/
theorem Sys.advance_cases (P : Sys → Prop) (platform : Platform) (s : Sys) (id : Nat)
    (input : Input)
    (known : ∀ call, s.call? id = some call →
      P (s.moved call (s.shared.advance platform call input)))
    (unknown : P s) : P (s.step platform (.advance id input)) := by
  unfold Sys.step
  dsimp only
  split
  · next call found => exact known call found
  · exact unknown

theorem Sys.step_advance {platform : Platform} {s : Sys} {id : Nat} {input : Input} {call : Call}
    (found : s.call? id = some call) :
    s.step platform (.advance id input) = s.moved call (s.shared.advance platform call input) := by
  unfold Sys.step
  dsimp only
  rw [found]

theorem Sys.step_unknown {platform : Platform} {s : Sys} {id : Nat} {input : Input}
    (unknown : s.call? id = none) : s.step platform (.advance id input) = s := by
  unfold Sys.step
  dsimp only
  rw [unknown]

/-- A whole run. -/
def Sys.run (platform : Platform) (s : Sys) (labels : List Label) : Sys :=
  labels.foldl (Sys.step platform) s

end AgentCompanyOS.Runtime
