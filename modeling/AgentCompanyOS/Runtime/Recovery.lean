import AgentCompanyOS.Runtime.Dispatch

/-!
# The fixture ledger and recovery

`RecoverableFixtureExecutor` writes each message into a ledger of its own, under a key
computed from the invocation; a second dispatch of the same key answers from the row.
`RecoveryService.reconcile` looks a claimed invocation up in that ledger and stores the
receipt that the ledger proves, in two transactions with the lookup between them.
-/

set_option autoImplicit false

namespace AgentCompanyOS.Runtime

open Foundation Foundation.Txn Domain

/-! ## The ledger -/

inductive RemoteStatus where
  | neverReceived | processedSuccess | processedFailure | unknown
deriving DecidableEq

def RemoteStatus.value : RemoteStatus → PyStr
  | neverReceived => py "never_received"
  | processedSuccess => py "processed_success"
  | processedFailure => py "processed_failure"
  | unknown => py "unknown"

/-- A row of `fixture_effects`. -/
structure LedgerRow where
  idempotencyKey : PyStr
  payloadDigest : PyStr
  destination : PyStr
  message : PyStr
  status : RemoteStatus
  outputJson : Option PyStr
deriving DecidableEq

/-- The remote ledger: rows with distinct keys. -/
abbrev Ledger := Registry LedgerRow.idempotencyKey

/-- The text that `execution_key` hashes. -/
def executionText (invocation : ToolInvocation) : PyStr :=
  Json.dumps (.compact true) (.arr [.str invocation.workspaceId.value,
    .str (py "intent:" ++ invocation.actionId.value), .str invocation.id.value,
    .str invocation.toolVersion.definition.id.value, .int invocation.toolVersion.version.value])

/-- `execution_key`. -/
def executionKey (platform : Platform) (invocation : ToolInvocation) : Except Exc PyStr :=
  platform.hexdigest (executionText invocation)

/-- The row that `dispatch` writes for a key that has none. -/
def newLedgerRow (reject : Bool) (key digest destination message : PyStr) : LedgerRow where
  idempotencyKey := key
  payloadDigest := digest
  destination := destination
  message := message
  status := if reject = true then .processedFailure else .processedSuccess
  outputJson := if reject = true then none
    else some (outputJson ⟨destination, [], py "fixture_delivery_observed"⟩)

/-- What a dispatch answers for a row. -/
def LedgerRow.reply (row : LedgerRow) : Except Exc PyStr :=
  if row.status = .processedFailure then .error (.tool .rejected)
  else .ok (row.outputJson.getD (py "None"))

/-- `RecoverableFixtureExecutor.dispatch`: the ledger after it, and its answer. -/
def dispatchFixture (reject : Bool) (key digest destination message : PyStr) (ledger : Ledger) :
    Ledger × Except Exc PyStr :=
  match ledger.get? key with
  | none =>
      let row := newLedgerRow reject key digest destination message
      (ledger.put row, row.reply)
  | some old =>
      if old.payloadDigest ≠ digest then
        (ledger, .error (violation "remote_idempotency_payload_mismatch"))
      else (ledger, old.reply)

/-- `RecoverableFixtureExecutor.execute`. -/
def executeFixture (platform : Platform) (reject : Bool) (invocation : ToolInvocation)
    (ledger : Ledger) : Ledger × Except Exc PyStr :=
  match invocation.validatedInput with
  | .fixtureMessage destination message =>
      match executionKey platform invocation,
        platform.hexdigest (inputJson invocation.validatedInput) with
      | .ok key, .ok digest => dispatchFixture reject key digest destination message ledger
      | .error e, _ => (ledger, .error e)
      | _, .error e => (ledger, .error e)
  | _ => (ledger, .error (.tool .validationError))

/-- What a status lookup answers. -/
structure RemoteLookup where
  status : RemoteStatus
  outputJson : Option PyStr
deriving DecidableEq

/-- A recovery connector: the fixture ledger, which may answer that it does not know,
or a connector without status lookup. -/
inductive Connector where
  | fixture (unknown : Bool)
  | withoutLookup
deriving DecidableEq

/-- `lookup_status` for the row of a key. -/
def lookupStatus (unknown : Bool) (row : Option LedgerRow) : RemoteLookup :=
  if unknown = true then ⟨.unknown, none⟩
  else
    match row with
    | some row => ⟨row.status, row.outputJson⟩
    | none => ⟨.neverReceived, none⟩

/-! ## Cases -/

inductive RecoveryReason where
  | resumeLocal | safeToRetry | awaitingApproval | connectorRequired | manualReview
  | terminalUnknown | expired | cancelled
deriving DecidableEq

/-- The outcomes that a case names. -/
inductive RecoveryOutcome where
  | outcomeUnknown | notExecuted | observedSuccess | observedFailure
deriving DecidableEq

/-- A `RecoveryCase` about a tool invocation. -/
structure RecoveryCase where
  workspaceId : WorkspaceId
  invocationId : ToolInvocationId
  reason : RecoveryReason
  outcome : RecoveryOutcome
deriving DecidableEq

/-- The outcome of a case about a stored receipt. -/
def receiptOutcome (receipt : ToolReceipt) : RecoveryOutcome :=
  if receipt.remoteOutcome = .unknown then .outcomeUnknown
  else if receipt.output.isSome then .observedSuccess else .observedFailure

/-- The reason of a case about a stored receipt. -/
def receiptReason (env : Env) (run : AgentRun) (receipt : ToolReceipt) :
    RuntimeTxn RecoveryReason :=
  if receipt.remoteOutcome = .unknown then pure .terminalUnknown
  else if run.status = .cancelled then pure .cancelled
  else do
    let execution ← inDomain (getExecution run.executionId)
    if execution.status = .cancelled then pure .cancelled
    else do
      let at' ← now env
      pure (if run.deadline ≤ at' then .expired
        else if run.workingState.invocationPending = true then .manualReview
        else .resumeLocal)

/-- `_repair_receipt`. -/
def repairReceipt (platform : Platform) (host : Host) (receipt : ToolReceipt) :
    RuntimeTxn RecoveryCase := do
  let run ← reconcileReceipt platform host receipt
  let reason ← receiptReason platform.toEnv run receipt
  pure ⟨run.workspaceId, receipt.invocation.id, reason, receiptOutcome receipt⟩

/-! ## Reconciliation -/

/-- `RecoveryService._event`. -/
def recoveryEvent (env : Env) (run : AgentRun) (invocation : ToolInvocation) (kind : EventType)
    (reason : PyStr) : RuntimeTxn Unit :=
  runEvent env run kind
    [("tool_invocation_id", invocation.id.value), ("action_id", invocation.actionId.value),
      ("execution_id", run.executionId.value), ("reason_code", reason)]

/-- How a transaction of `reconcile` ends. -/
inductive RecoveryStep where
  | answered (case : RecoveryCase)
  | lookUp (invocation : ToolInvocation)
  | stored (receipt : ToolReceipt)

/-- The invocation and the receipt that `reconcile` finds. -/
def findRecovery (workspaceId : WorkspaceId) (runId : AgentRunId)
    (invocationId : ToolInvocationId) :
    RuntimeTxn (AgentRun × Option ToolInvocation × Option ToolReceipt) := do
  let run ← getRun workspaceId runId
  let invocations ← toolInvocations workspaceId runId
  let receipts ← toolReceipts workspaceId runId
  pure (run, invocations.find? (·.id = invocationId),
    receipts.find? (·.invocation.id = invocationId))

/-- The first transaction of `reconcile`. -/
def recoverOpen (platform : Platform) (host : Host) (workspaceId : WorkspaceId)
    (runId : AgentRunId) (invocationId : ToolInvocationId) (connector : Connector) :
    RuntimeTxn RecoveryStep := atomic do
  let (run, invocation, receipt) ← findRecovery workspaceId runId invocationId
  let invocation ← need invocation (violation "recovery_invocation_missing")
  match receipt with
  | some existing => do
      let case ← repairReceipt platform host existing
      pure (.answered case)
  | none => do
      recoveryEvent platform.toEnv run invocation .recoveryDetected (py "claimed_without_receipt")
      match connector with
      | .withoutLookup =>
          pure (.answered ⟨workspaceId, invocationId, .manualReview, .outcomeUnknown⟩)
      | .fixture _ => pure (.lookUp invocation)

/-- The case of a lookup that proves nothing. -/
def unprovenCase (workspaceId : WorkspaceId) (invocationId : ToolInvocationId)
    (status : RemoteStatus) : RecoveryCase :=
  if status = .neverReceived then ⟨workspaceId, invocationId, .safeToRetry, .notExecuted⟩
  else ⟨workspaceId, invocationId, .manualReview, .outcomeUnknown⟩

/-- The output that a lookup proves. -/
def provenOutput (lookup : RemoteLookup) (invocation : ToolInvocation) :
    Validated (Option ToolOutput) :=
  if lookup.status = .processedFailure then .ok none
  else do
    let output ← validateOutput (lookup.outputJson.getD []) invocation.toolVersion
      invocation.validatedInput
    .ok (some output)

/-- The error that a lookup proves. -/
def provenError (lookup : RemoteLookup) : Option ToolError :=
  if lookup.status = .processedFailure then some .rejected else none

/-- The receipt that a lookup proves. -/
def recoverReceipt (platform : Platform) (host : Host) (run : AgentRun)
    (invocation : ToolInvocation) (lookup : RemoteLookup) : RuntimeTxn ToolReceipt := do
  let env := platform.toEnv
  let output ← validated (provenOutput lookup invocation)
  let id ← fresh env .toolReceipt
  let finishedAt ← now env
  let finished ← checked (invocation.finish finishedAt (provenError lookup))
  let bytes (text : PyStr) := ((utf8 text).map List.length).getD 0
  let receipt ← checked (ToolReceipt.create {
    id := id
    invocation := finished
    output := output
    inputBytes := bytes (inputJson invocation.validatedInput)
    outputBytes := if output.isSome then bytes (lookup.outputJson.getD []) else 0
    remoteOutcome := if output.isSome then .observed else .observedFailure })
  finishToolInvocation receipt
  consumeIfGoverned env host receipt.invocation
  recoveryEvent env run invocation .recoveryReceiptReconciled lookup.status.value
  pure receipt

/-- The second transaction of `reconcile`, after the lookup. -/
def recoverApply (platform : Platform) (host : Host) (workspaceId : WorkspaceId)
    (runId : AgentRunId) (invocationId : ToolInvocationId) (invocation : ToolInvocation)
    (lookup : RemoteLookup) : RuntimeTxn RecoveryStep := atomic do
  let (run, current, receipt) ← findRecovery workspaceId runId invocationId
  let current ← need current .other
  match receipt with
  | some existing => do
      let case ← repairReceipt platform host existing
      pure (.answered case)
  | none => do
      raiseIf (current ≠ invocation ∨ invocation.status ≠ .running)
        (violation "recovery_invocation_changed")
      recoveryEvent platform.toEnv run invocation .recoveryLookup lookup.status.value
      if lookup.status = .unknown ∨ lookup.status = .neverReceived then
        pure (.answered (unprovenCase workspaceId invocationId lookup.status))
      else do
        let receipt ← recoverReceipt platform host run invocation lookup
        pure (.stored receipt)

end AgentCompanyOS.Runtime
