import AgentCompanyOS.Domain.Service
import AgentCompanyOS.Runtime.Governance
import AgentCompanyOS.Runtime.Organization

/-!
# The runtime store

`InMemoryRuntimeStore` with the records that share its transaction: the domain store,
the tool registry, the organization graphs, the knowledge records, and the operational
tables of the SQLite store (`operational_modes`, `restored_intent_holds`,
`restore_incidents` and the two audit tables). With empty operational tables a store
behaves as the in-memory one, which has no modes and no holds.

Every write checks its argument against the stored records. What a write has
established is stated next to it, once, as an inversion lemma.
-/

set_option autoImplicit false

namespace AgentCompanyOS.Runtime

open Foundation Foundation.Txn Domain

/-! ## Records -/

def AgentDefinitionVersion.key (d : AgentDefinitionVersion) : AgentDefinitionId × Version :=
  (d.definition.id, d.version)

def AgentRun.key (run : AgentRun) : AgentRunId := run.id

def ToolInvocation.key (i : ToolInvocation) : ToolInvocationId := i.id

def ToolReceipt.key (r : ToolReceipt) : ToolReceiptId := r.id

def GovernedAction.key (g : GovernedAction) : ActionIntentId := g.intent.id

def KnowledgeSourceVersion.key (v : KnowledgeSourceVersion) : KnowledgeSourceId × Version :=
  (v.source.id, v.source.contentVersion)

def ChunkSet.key (c : ChunkSet) : KnowledgeSourceId × Version := (c.sourceId, c.version)

/-- A durable tool registration. -/
structure ToolRegistration where
  toolVersion : ToolVersion
  enabled : Bool
  revision : Nat
deriving DecidableEq

def ToolRegistration.grant (r : ToolRegistration) : ToolGrant := r.toolVersion.grant

inductive OperationalMode where
  | normal | maintenance | restoreQuarantine
deriving DecidableEq

def OperationalMode.value : OperationalMode → PyStr
  | normal => py "normal"
  | maintenance => py "maintenance"
  | restoreQuarantine => py "restore_quarantine"

/-- A row of `operational_modes`. -/
structure ModeRow where
  workspaceId : WorkspaceId
  mode : OperationalMode
  version : Nat
deriving DecidableEq

/-- A row of `restored_intent_holds`. -/
structure HoldRow where
  workspaceId : WorkspaceId
  intentId : ActionIntentId
  generation : Nat
deriving DecidableEq

/-- A row of `restore_incidents`. -/
structure IncidentRow where
  generation : Nat
  workspaceId : WorkspaceId
  backupId : PyStr
  backupDigest : PyStr
  restoredAt : PyStr
  principalId : PyStr
deriving DecidableEq

/-- A row of `operational_audit`. -/
structure OperationalAuditRow where
  workspaceId : WorkspaceId
  principalId : PyStr
  previousMode : OperationalMode
  mode : OperationalMode
  timestamp : PyStr
  reason : PyStr
deriving DecidableEq

/-- A row of `quarantine_release_audit`. -/
structure ReleaseAuditRow where
  workspaceId : WorkspaceId
  principalId : PyStr
  generation : Option Nat
  timestamp : PyStr
  previousMode : OperationalMode
  newMode : OperationalMode
  success : Bool
  reason : PyStr
  recoveryCount : Nat
  heldIntentCount : Nat
deriving DecidableEq

structure RuntimeStore where
  domain : DomainStore
  definitions : Registry AgentDefinitionVersion.key
  runs : Registry AgentRun.key
  events : List Event
  actions : Registry Action.id
  observations : Registry Observation.id
  transitions : List StateTransition
  toolInvocations : Registry ToolInvocation.key
  toolReceipts : Registry ToolReceipt.key
  approvalPolicies : Registry ApprovalPolicy.workspaceId
  governed : Registry GovernedAction.key
  tools : Registry ToolRegistration.grant
  graphs : Registry OrganizationGraph.workspaceId
  graphVersions : Registry OrganizationGraphVersion.key
  organizationEvents : List Event
  knowledgeSources : Registry KnowledgeSource.id
  knowledgeVersions : Registry KnowledgeSourceVersion.key
  knowledgeChunks : Registry ChunkSet.key
  evidencePacks : Registry EvidencePack.id
  knowledgeEvents : List Event
  modes : Registry ModeRow.workspaceId
  holds : List HoldRow
  incidents : List IncidentRow
  operationalAudit : List OperationalAuditRow
  releaseAudit : List ReleaseAuditRow
deriving DecidableEq

/-- A freshly migrated database. -/
def RuntimeStore.empty : RuntimeStore :=
  ⟨.empty, .empty, .empty, [], .empty, .empty, [], .empty, .empty, .empty, .empty, .empty, .empty,
    .empty, [], .empty, .empty, .empty, .empty, [], .empty, [], [], [], []⟩

/-- A program over the runtime store. -/
abbrev RuntimeTxn (α : Type) := Txn Exc RuntimeStore α

/-- A domain store method or a domain service command, inside the shared transaction. -/
def inDomain {α : Type} (m : DomainTxn α) : RuntimeTxn α :=
  zoom RuntimeStore.domain (fun d s => { s with domain := d }) m

/-! ## Reads -/

/-- `_scope`. -/
def scope (expected actual : WorkspaceId) : RuntimeTxn Unit :=
  raiseIf (expected ≠ actual)
    (.domain (.workspaceMismatch (py "runtime_record") expected.value actual.value))

def getRun (workspaceId : WorkspaceId) (runId : AgentRunId) : RuntimeTxn AgentRun := do
  let store ← getStore
  let run ← need (store.runs.get? runId) (.domain (.entityNotFound (py "AgentRun") runId.value))
  scope workspaceId run.workspaceId
  pure run

def getAction (workspaceId : WorkspaceId) (actionId : ActionId) : RuntimeTxn Action := do
  let store ← getStore
  let action ← need (store.actions.get? actionId)
    (.domain (.entityNotFound (py "Action") actionId.value))
  scope workspaceId action.workspaceId
  pure action

def getDefinition (workspaceId : WorkspaceId) (definitionId : AgentDefinitionId)
    (version : Version) : RuntimeTxn AgentDefinitionVersion := do
  let store ← getStore
  let definition ← need (store.definitions.get? (definitionId, version))
    (.domain (.entityNotFound (py "AgentDefinitionVersion") definitionId.value))
  scope workspaceId definition.definition.workspaceId
  pure definition

/-- `runs`. -/
def listRuns (workspaceId : WorkspaceId) : RuntimeTxn (List AgentRun) := do
  let _ ← inDomain (getWorkspace workspaceId)
  let store ← getStore
  pure (store.runs.values.filter (·.workspaceId = workspaceId))

def toolInvocations (workspaceId : WorkspaceId) (runId : AgentRunId) :
    RuntimeTxn (List ToolInvocation) := do
  let _ ← getRun workspaceId runId
  let store ← getStore
  pure (store.toolInvocations.values.filter (·.runId = runId))

def toolReceipts (workspaceId : WorkspaceId) (runId : AgentRunId) :
    RuntimeTxn (List ToolReceipt) := do
  let _ ← getRun workspaceId runId
  let store ← getStore
  pure (store.toolReceipts.values.filter (·.invocation.runId = runId))

def approvalPolicy (workspaceId : WorkspaceId) : RuntimeTxn (Option ApprovalPolicy) := do
  let _ ← inDomain (getWorkspace workspaceId)
  let store ← getStore
  pure (store.approvalPolicies.get? workspaceId)

def governedActions (workspaceId : WorkspaceId) : RuntimeTxn (List GovernedAction) := do
  let _ ← inDomain (getWorkspace workspaceId)
  let store ← getStore
  pure (store.governed.values.filter (·.intent.workspaceId = workspaceId))

def governedAction (workspaceId : WorkspaceId) (intentId : ActionIntentId) :
    RuntimeTxn GovernedAction := do
  let store ← getStore
  let record ← need (store.governed.get? intentId)
    (.domain (.entityNotFound (py "ActionIntent") intentId.value))
  scope workspaceId record.intent.workspaceId
  pure record

/-- The mode that the table gives a workspace. -/
def RuntimeStore.mode (store : RuntimeStore) (workspaceId : WorkspaceId) : OperationalMode :=
  ((store.modes.get? workspaceId).map ModeRow.mode).getD .normal

/-- Whether the table holds an intent. -/
def RuntimeStore.held (store : RuntimeStore) (workspaceId : WorkspaceId)
    (intentId : ActionIntentId) : Bool :=
  store.holds.any fun row => row.workspaceId = workspaceId ∧ row.intentId = intentId

def operationalMode (workspaceId : WorkspaceId) : RuntimeTxn OperationalMode := do
  let _ ← inDomain (getWorkspace workspaceId)
  let store ← getStore
  pure (store.mode workspaceId)

def intentHeld (workspaceId : WorkspaceId) (intentId : ActionIntentId) : RuntimeTxn Bool := do
  let _ ← inDomain (getWorkspace workspaceId)
  let store ← getStore
  pure (store.held workspaceId intentId)

/-- The second check of `require_consequential_dispatch`. -/
def requireNotHeld (workspaceId : WorkspaceId) (intentId : Option ActionIntentId) :
    RuntimeTxn Unit :=
  match intentId with
  | none => pure ()
  | some intentId => do
      let held ← intentHeld workspaceId intentId
      raiseIf (held = true) (violation "restored_intent_requires_new_work")

/-- `require_consequential_dispatch`. -/
def requireConsequentialDispatch (workspaceId : WorkspaceId) (intentId : Option ActionIntentId) :
    RuntimeTxn Unit := do
  let mode ← operationalMode workspaceId
  raiseIf (mode ≠ .normal) (violation "operational_mode_blocks_consequential_dispatch")
  requireNotHeld workspaceId intentId

/-! ## Runs, actions, observations and events -/

/-- The checks of `append_event`. -/
def checkEvent (event : Event) : RuntimeTxn Unit := do
  let runId ← checked (OpaqueId.parse .agentRun event.subjectId.val)
  let run ← getRun event.workspaceId runId
  let store ← getStore
  raiseIf (event.entityVersion ≠ run.version ∨ event.subjectType ≠ .agentRun ∨
      event.id ∈ store.events.map Event.id)
    (violation "runtime_event_binding")

/-- `append_event`. -/
def appendEvent (event : Event) : RuntimeTxn Unit := do
  checkEvent event
  modifyStore fun store => { store with events := store.events ++ [event] }

/-- The checks of `append_action`. -/
def checkAction (action : Action) : RuntimeTxn Unit := do
  let _ ← getRun action.workspaceId action.runId
  let store ← getStore
  raiseIf (store.actions.contains action.id = true) (violation "action_append_only")

/-- `append_action`. -/
def appendAction (action : Action) : RuntimeTxn Unit := do
  checkAction action
  modifyStore fun store => { store with actions := store.actions.put action }

/-- The check of `append_observation` on the action that it names. -/
def checkObservedAction (observation : Observation) : RuntimeTxn Unit :=
  match observation.actionId with
  | none => pure ()
  | some actionId => do
      let store ← getStore
      let action ← need (store.actions.get? actionId) .other
      raiseIf (action.runId ≠ observation.runId ∨ action.workspaceId ≠ observation.workspaceId)
        (violation "observation_action_binding")

/-- The checks of `append_observation`. -/
def checkObservation (observation : Observation) : RuntimeTxn Unit := do
  let _ ← getRun observation.workspaceId observation.runId
  let store ← getStore
  raiseIf (store.observations.contains observation.id = true)
    (violation "observation_append_only")
  checkObservedAction observation

/-- `append_observation`. -/
def appendObservation (observation : Observation) : RuntimeTxn Unit := do
  checkObservation observation
  modifyStore fun store => { store with observations := store.observations.put observation }

/-- The checks of `publish` of an agent definition. -/
def checkDefinition (definition : AgentDefinitionVersion) : RuntimeTxn Unit := do
  let _ ← inDomain (getWorkspace definition.definition.workspaceId)
  let store ← getStore
  raiseIf (store.definitions.contains definition.key = true)
    (violation "published_definition_is_immutable")
  let lineage := store.definitions.values.filter (·.definition.id = definition.definition.id)
  raiseIf (∃ first ∈ lineage.head?, first.definition ≠ definition.definition)
    (violation "definition_lineage_identity_is_immutable")
  raiseIf (definition.version.value ≠ lineage.length + 1)
    (violation "definition_version_sequence")

/-- `publish` of an agent definition. -/
def publishDefinition (definition : AgentDefinitionVersion) : RuntimeTxn Unit := atomic do
  checkDefinition definition
  modifyStore fun store => { store with definitions := store.definitions.put definition }

/-- The checks of `add_run`. -/
def checkAddRun (run : AgentRun) : RuntimeTxn Unit := do
  let store ← getStore
  raiseIf (store.runs.contains run.id = true ∨
      store.runs.values.any (·.taskAttemptId = run.taskAttemptId) = true)
    (violation "one_agent_run_per_attempt")
  raiseIf (store.runs.values.any (fun item => item.executionId = run.executionId ∧
      (item.status = .running ∨ item.status = .waiting)) = true)
    (violation "one_active_agent_run_per_execution")
  let attempt ← inDomain (getTaskAttempt run.taskAttemptId)
  scope run.workspaceId attempt.workspaceId
  let definition ← getDefinition run.workspaceId run.definitionVersion.definition.id
    run.definitionVersion.version
  raiseIf (definition ≠ run.definitionVersion ∨ attempt.executionId ≠ run.executionId)
    (violation "run_binding")
  raiseIf (run.version ≠ .initial ∨ run.status ≠ .running) (violation "initial_run_state")

/-- `add_run`. -/
def addRun (run : AgentRun) : RuntimeTxn Unit := atomic do
  checkAddRun run
  modifyStore fun store => { store with runs := store.runs.put run }

/-- The change that `save_run` applies again to the stored run. -/
def AgentRun.asChange (run : AgentRun) : RunChange where
  status := some run.status
  workingState := some run.workingState
  context := some run.context
  errorCode := run.errorCode
  result := run.result

/-- The transition that `save_run` asks for. -/
def checkRunTransition (previous run : AgentRun) (transition : Option StateTransition) :
    RuntimeTxn Unit :=
  match transition with
  | none => pure ()
  | some t =>
      raiseIf (t.subjectId.val ≠ run.id.value ∨ t.workspaceId ≠ run.workspaceId ∨
          t.subjectType ≠ .agentRun ∨ t.fromVersion ≠ previous.version ∨
          t.toVersion ≠ run.version ∨ t.previousStatus ≠ previous.status.value ∨
          t.newStatus ≠ run.status.value)
        (violation "run_transition_matches")

/-- The checks of `save_run`. -/
def checkSaveRun (run : AgentRun) (expectedVersion : Version)
    (transition : Option StateTransition) : RuntimeTxn Unit := do
  let previous ← getRun run.workspaceId run.id
  raiseIf (previous.version ≠ expectedVersion)
    (.domain (.versionConflict (py "AgentRun") run.id.value expectedVersion.value
      previous.version.value))
  let candidate ← checked (previous.evolve (run.endedAt.getD run.createdAt) run.asChange)
  raiseIf (candidate ≠ run) (violation "run_mutation_contract")
  raiseIf ((previous.status ≠ run.status) ≠ (transition ≠ none))
    (violation "run_transition_required")
  checkRunTransition previous run transition

/-- `save_run`. -/
def saveRun (run : AgentRun) (expectedVersion : Version) (transition : Option StateTransition) :
    RuntimeTxn Unit := atomic do
  checkSaveRun run expectedVersion transition
  modifyStore fun store =>
    { store with
      transitions := store.transitions ++ transition.toList
      runs := store.runs.put run }

/-! ## Governance records -/

/-- The check of `publish_approval_policy`. -/
def checkApprovalPolicy (policy : ApprovalPolicy) : RuntimeTxn Unit := do
  let old ← approvalPolicy policy.workspaceId
  raiseIf (policy.version ≠ ((old.map fun p => p.version.next).getD .initial))
    (violation "approval_policy_version_sequence")

/-- `publish_approval_policy`. -/
def publishApprovalPolicy (policy : ApprovalPolicy) : RuntimeTxn Unit := atomic do
  checkApprovalPolicy policy
  modifyStore fun store => { store with approvalPolicies := store.approvalPolicies.put policy }

/-- What `save_governed_action` asks of a new record. -/
def initialGoverned (store : RuntimeStore) (record : GovernedAction) (expected : Option Version) :
    Prop :=
  expected = none ∧ record.version = .initial ∧ record.decisions = [] ∧
    record.cancelled = false ∧ record.invocationId = none ∧ record.consumed = false ∧
    (store.governed.values.filter
      (·.intent.workspaceId = record.intent.workspaceId)).length < 200 ∧
    store.governed.values.any (·.intent.actionId = record.intent.actionId) = false

instance (store : RuntimeStore) (record : GovernedAction) (expected : Option Version) :
    Decidable (initialGoverned store record expected) :=
  inferInstanceAs (Decidable (_ ∧ _))

/-- What `save_governed_action` asks of a changed record. -/
def governedHistory (old record : GovernedAction) : Prop :=
  record.intent = old.intent ∧ record.request = old.request ∧
    record.version = old.version.next ∧ old.decisions <+: record.decisions ∧
    record.decisions.length ≤ old.decisions.length + 1 ∧ record.decisions.length ≤ 2 ∧
    (old.cancelled = true → record.cancelled = true) ∧
    (old.invocationId ≠ none → record.invocationId = old.invocationId) ∧
    (old.consumed = true → record.consumed = true)

instance (old record : GovernedAction) : Decidable (governedHistory old record) :=
  inferInstanceAs (Decidable (_ ∧ _))

/-- The checks of `save_governed_action` on the record that is stored, if there is one. -/
def checkGovernedHistory (store : RuntimeStore) (record : GovernedAction)
    (expected : Option Version) : RuntimeTxn Unit :=
  match store.governed.get? record.intent.id with
  | none => do
      -- `len(self.governed_actions(...))` looks the workspace up.
      let _ ← inDomain (getWorkspace record.intent.workspaceId)
      raiseIf (¬initialGoverned store record expected)
        (violation "governed_action_initial_state")
  | some old => do
      raiseIf (some old.version ≠ expected) (violation "governed_action_version_conflict")
      raiseIf (¬governedHistory old record) (violation "governed_action_history_immutable")

/-- The checks of `save_governed_action`. -/
def checkGoverned (record : GovernedAction) (expected : Option Version) : RuntimeTxn Unit := do
  let intent := record.intent
  let run ← getRun intent.workspaceId intent.runId
  let action ← getAction intent.workspaceId intent.actionId
  raiseIf (action.runId ≠ run.id ∨ intent.goalId ≠ run.goalId ∨ intent.taskId ≠ run.taskId ∨
      intent.executionId ≠ run.executionId)
    (violation "governed_action_lineage")
  let store ← getStore
  checkGovernedHistory store record expected

/-- `save_governed_action`. -/
def saveGovernedAction (record : GovernedAction) (expected : Option Version) :
    RuntimeTxn Unit := atomic do
  checkGoverned record expected
  modifyStore fun store => { store with governed := store.governed.put record }

/-! ## Invocations and receipts -/

/-- What `add_tool_invocation` asks. -/
def newInvocation (store : RuntimeStore) (run : AgentRun) (action : Action)
    (invocation : ToolInvocation) : Prop :=
  action.runId = run.id ∧ invocation.taskAttemptId = run.taskAttemptId ∧
    invocation.executionId = run.executionId ∧ invocation.runVersion = run.version ∧
    invocation.toolVersion.definition.workspaceId = run.workspaceId ∧
    invocation.toolVersion.grant ∈ run.definitionVersion.allowedTools ∧
    store.toolInvocations.contains invocation.id = false ∧ invocation.version = .initial ∧
    invocation.status = .running ∧
    store.toolInvocations.values.any (·.actionId = action.id) = false

instance (store : RuntimeStore) (run : AgentRun) (action : Action)
    (invocation : ToolInvocation) : Decidable (newInvocation store run action invocation) :=
  inferInstanceAs (Decidable (_ ∧ _))

/-- The checks of `add_tool_invocation`. -/
def checkInvocation (invocation : ToolInvocation) : RuntimeTxn Unit := do
  let run ← getRun invocation.workspaceId invocation.runId
  let action ← getAction invocation.workspaceId invocation.actionId
  let store ← getStore
  raiseIf (¬newInvocation store run action invocation)
    (violation "tool_invocation_binding_or_duplicate")

/-- `add_tool_invocation`. -/
def addToolInvocation (invocation : ToolInvocation) : RuntimeTxn Unit := atomic do
  checkInvocation invocation
  modifyStore fun store =>
    { store with toolInvocations := store.toolInvocations.put invocation }

/-- The checks of `finish_tool_invocation`. -/
def checkReceipt (receipt : ToolReceipt) : RuntimeTxn Unit := do
  let invocation := receipt.invocation
  let _ ← getRun invocation.workspaceId invocation.runId
  let store ← getStore
  let previous ← need (store.toolInvocations.get? invocation.id) .other
  raiseIf (store.toolReceipts.contains receipt.id = true)
    (violation "tool_receipt_append_only")
  let endedAt ← need invocation.endedAt (violation "tool_receipt_append_only")
  let finished ← checked (previous.finish endedAt invocation.errorCode)
  raiseIf (finished ≠ invocation) (violation "tool_receipt_append_only")

/-- `finish_tool_invocation`. -/
def finishToolInvocation (receipt : ToolReceipt) : RuntimeTxn Unit := atomic do
  checkReceipt receipt
  modifyStore fun store =>
    { store with
      toolInvocations := store.toolInvocations.put receipt.invocation
      toolReceipts := store.toolReceipts.put receipt }

/-! ## Reading leaves the store alone -/

theorem reads_inDomain {α : Type} {m : DomainTxn α} (h : Reads m) : Reads (inDomain m) :=
  Reads.zoom (fun _ => rfl) h

theorem reads_getWorkspace (id : WorkspaceId) : Reads (inDomain (getWorkspace id)) :=
  reads_inDomain (reads_getEntity Workspace id)

theorem reads_scope (expected actual : WorkspaceId) : Reads (scope expected actual) :=
  Reads.raiseIf _ _

theorem reads_getRun (workspaceId : WorkspaceId) (runId : AgentRunId) :
    Reads (getRun workspaceId runId) :=
  Reads.getStore.bind fun _ => (Reads.need _ _).bind fun _ => (reads_scope _ _).bind fun _ =>
    Reads.pure _

theorem reads_getAction (workspaceId : WorkspaceId) (actionId : ActionId) :
    Reads (getAction workspaceId actionId) :=
  Reads.getStore.bind fun _ => (Reads.need _ _).bind fun _ => (reads_scope _ _).bind fun _ =>
    Reads.pure _

theorem reads_getDefinition (workspaceId : WorkspaceId) (definitionId : AgentDefinitionId)
    (version : Version) : Reads (getDefinition workspaceId definitionId version) :=
  Reads.getStore.bind fun _ => (Reads.need _ _).bind fun _ => (reads_scope _ _).bind fun _ =>
    Reads.pure _

theorem reads_governedAction (workspaceId : WorkspaceId) (intentId : ActionIntentId) :
    Reads (governedAction workspaceId intentId) :=
  Reads.getStore.bind fun _ => (Reads.need _ _).bind fun _ => (reads_scope _ _).bind fun _ =>
    Reads.pure _

theorem reads_toolInvocations (workspaceId : WorkspaceId) (runId : AgentRunId) :
    Reads (toolInvocations workspaceId runId) :=
  (reads_getRun _ _).bind fun _ => Reads.getStore.bind fun _ => Reads.pure _

theorem reads_toolReceipts (workspaceId : WorkspaceId) (runId : AgentRunId) :
    Reads (toolReceipts workspaceId runId) :=
  (reads_getRun _ _).bind fun _ => Reads.getStore.bind fun _ => Reads.pure _

theorem reads_approvalPolicy (workspaceId : WorkspaceId) : Reads (approvalPolicy workspaceId) :=
  (reads_getWorkspace _).bind fun _ => Reads.getStore.bind fun _ => Reads.pure _

theorem reads_governedActions (workspaceId : WorkspaceId) : Reads (governedActions workspaceId) :=
  (reads_getWorkspace _).bind fun _ => Reads.getStore.bind fun _ => Reads.pure _

theorem reads_operationalMode (workspaceId : WorkspaceId) : Reads (operationalMode workspaceId) :=
  (reads_getWorkspace _).bind fun _ => Reads.getStore.bind fun _ => Reads.pure _

theorem reads_intentHeld (workspaceId : WorkspaceId) (intentId : ActionIntentId) :
    Reads (intentHeld workspaceId intentId) :=
  (reads_getWorkspace _).bind fun _ => Reads.getStore.bind fun _ => Reads.pure _

theorem reads_requireConsequentialDispatch (workspaceId : WorkspaceId)
    (intentId : Option ActionIntentId) :
    Reads (requireConsequentialDispatch workspaceId intentId) := by
  refine (reads_operationalMode _).bind fun _ => (Reads.raiseIf _ _).bind fun _ => ?_
  cases intentId with
  | none => exact Reads.pure ()
  | some intentId => exact (reads_intentHeld _ _).bind fun _ => Reads.raiseIf _ _

theorem reads_checkEvent (event : Event) : Reads (checkEvent event) :=
  (reads_checked _).bind fun _ => (reads_getRun _ _).bind fun _ => Reads.getStore.bind fun _ =>
    Reads.raiseIf _ _

theorem reads_checkAction (action : Action) : Reads (checkAction action) :=
  (reads_getRun _ _).bind fun _ => Reads.getStore.bind fun _ => Reads.raiseIf _ _

theorem reads_checkObservation (observation : Observation) :
    Reads (checkObservation observation) := by
  refine (reads_getRun _ _).bind fun _ => Reads.getStore.bind fun _ =>
    (Reads.raiseIf _ _).bind fun _ => ?_
  unfold checkObservedAction
  split
  · exact Reads.pure ()
  · exact Reads.getStore.bind fun _ => (Reads.need _ _).bind fun _ => Reads.raiseIf _ _

theorem reads_checkDefinition (definition : AgentDefinitionVersion) :
    Reads (checkDefinition definition) :=
  (reads_getWorkspace _).bind fun _ => Reads.getStore.bind fun _ =>
    (Reads.raiseIf _ _).bind fun _ => (Reads.raiseIf _ _).bind fun _ => Reads.raiseIf _ _

theorem reads_checkAddRun (run : AgentRun) : Reads (checkAddRun run) :=
  Reads.getStore.bind fun _ => (Reads.raiseIf _ _).bind fun _ => (Reads.raiseIf _ _).bind fun _ =>
    (reads_inDomain (reads_getEntity TaskAttempt _)).bind fun _ => (reads_scope _ _).bind fun _ =>
    (reads_getDefinition _ _ _).bind fun _ => (Reads.raiseIf _ _).bind fun _ => Reads.raiseIf _ _

theorem reads_checkSaveRun (run : AgentRun) (expectedVersion : Version)
    (transition : Option StateTransition) :
    Reads (checkSaveRun run expectedVersion transition) := by
  refine (reads_getRun _ _).bind fun _ => (Reads.raiseIf _ _).bind fun _ =>
    (reads_checked _).bind fun _ => (Reads.raiseIf _ _).bind fun _ =>
    (Reads.raiseIf _ _).bind fun _ => ?_
  cases transition with
  | none => exact Reads.pure ()
  | some t => exact Reads.raiseIf _ _

theorem reads_checkApprovalPolicy (policy : ApprovalPolicy) :
    Reads (checkApprovalPolicy policy) :=
  (reads_approvalPolicy _).bind fun _ => Reads.raiseIf _ _

theorem reads_checkGoverned (record : GovernedAction) (expected : Option Version) :
    Reads (checkGoverned record expected) := by
  refine (reads_getRun _ _).bind fun _ => (reads_getAction _ _).bind fun _ =>
    (Reads.raiseIf _ _).bind fun _ => Reads.getStore.bind fun store => ?_
  unfold checkGovernedHistory
  split
  · exact (reads_getWorkspace _).bind fun _ => Reads.raiseIf _ _
  · exact (Reads.raiseIf _ _).bind fun _ => Reads.raiseIf _ _

theorem reads_checkInvocation (invocation : ToolInvocation) :
    Reads (checkInvocation invocation) :=
  (reads_getRun _ _).bind fun _ => (reads_getAction _ _).bind fun _ => Reads.getStore.bind fun _ =>
    Reads.raiseIf _ _

theorem reads_checkReceipt (receipt : ToolReceipt) : Reads (checkReceipt receipt) :=
  (reads_getRun _ _).bind fun _ => Reads.getStore.bind fun _ => (Reads.need _ _).bind fun _ =>
    (Reads.raiseIf _ _).bind fun _ => (Reads.need _ _).bind fun _ =>
    (reads_checked _).bind fun _ => Reads.raiseIf _ _

/-! ## What the reads return -/

theorem entity_then {E β : Type} {kind : IdKind} [Entity E kind] [Table E kind]
    {id : OpaqueId kind} {f : E → RuntimeTxn β} {w w' : World RuntimeStore} {b : β}
    (h : (inDomain (getEntity E id) >>= f) w = .ok b w') :
    ∃ e, (Table.table (E := E) w.store.domain).get? id = some e ∧ f e w = .ok b w' := by
  obtain ⟨e, he, h⟩ := (reads_inDomain (reads_getEntity E id)).then h
  obtain ⟨v, found, -⟩ := zoom_eq_ok.mp he
  exact ⟨e, (getEntity_eq_ok.mp found).1, h⟩

theorem entity_of_found {E : Type} {kind : IdKind} [Entity E kind] [Table E kind]
    {id : OpaqueId kind} {e : E} {w : World RuntimeStore}
    (found : (Table.table (E := E) w.store.domain).get? id = some e) :
    inDomain (getEntity E id) w = .ok e w :=
  zoom_eq_ok.mpr ⟨⟨w.store.domain, w.issued, w.reads⟩, getEntity_eq_ok.mpr ⟨found, rfl⟩, rfl⟩

theorem workspace_of_found {id : WorkspaceId} {workspace : Workspace} {w : World RuntimeStore}
    (found : w.store.domain.workspaces.get? id = some workspace) :
    inDomain (getWorkspace id) w = .ok workspace w := entity_of_found (E := Workspace) found

theorem getRun_then {β : Type} {workspaceId : WorkspaceId} {runId : AgentRunId}
    {f : AgentRun → RuntimeTxn β} {w w' : World RuntimeStore} {b : β}
    (h : (getRun workspaceId runId >>= f) w = .ok b w') :
    ∃ run, w.store.runs.get? runId = some run ∧ run.workspaceId = workspaceId ∧
      f run w = .ok b w' := by
  obtain ⟨run, hr, h⟩ := (reads_getRun _ _).then h
  have hr := getStore_then hr
  obtain ⟨stored, found, hr⟩ := need_then hr
  obtain ⟨same, hr⟩ := raiseIf_then hr
  obtain ⟨rfl, -⟩ := pure_eq_ok.mp hr
  exact ⟨stored, found, (not_not.mp same).symm, h⟩

theorem getAction_then {β : Type} {workspaceId : WorkspaceId} {actionId : ActionId}
    {f : Action → RuntimeTxn β} {w w' : World RuntimeStore} {b : β}
    (h : (getAction workspaceId actionId >>= f) w = .ok b w') :
    ∃ action, w.store.actions.get? actionId = some action ∧ action.workspaceId = workspaceId ∧
      f action w = .ok b w' := by
  obtain ⟨action, hr, h⟩ := (reads_getAction _ _).then h
  have hr := getStore_then hr
  obtain ⟨stored, found, hr⟩ := need_then hr
  obtain ⟨same, hr⟩ := raiseIf_then hr
  obtain ⟨rfl, -⟩ := pure_eq_ok.mp hr
  exact ⟨stored, found, (not_not.mp same).symm, h⟩

theorem governedAction_then {β : Type} {workspaceId : WorkspaceId} {intentId : ActionIntentId}
    {f : GovernedAction → RuntimeTxn β} {w w' : World RuntimeStore} {b : β}
    (h : (governedAction workspaceId intentId >>= f) w = .ok b w') :
    ∃ record, w.store.governed.get? intentId = some record ∧
      record.intent.workspaceId = workspaceId ∧ f record w = .ok b w' := by
  obtain ⟨record, hr, h⟩ := (reads_governedAction _ _).then h
  have hr := getStore_then hr
  obtain ⟨stored, found, hr⟩ := need_then hr
  obtain ⟨same, hr⟩ := raiseIf_then hr
  obtain ⟨rfl, -⟩ := pure_eq_ok.mp hr
  exact ⟨stored, found, (not_not.mp same).symm, h⟩

/-- A read that looks something up and then answers from the store. -/
theorem lookup_then {α β γ : Type} {m : RuntimeTxn γ} (reads : Reads m) {g : RuntimeStore → α}
    {f : α → RuntimeTxn β} {w w' : World RuntimeStore} {b : β}
    (h : ((m >>= fun _ => getStore >>= fun store => pure (g store)) >>= f) w = .ok b w') :
    f (g w.store) w = .ok b w' := by
  have whole : Reads (m >>= fun _ => getStore >>= fun store => (pure (g store) : RuntimeTxn α)) :=
    reads.bind fun _ => Reads.getStore.bind fun _ => Reads.pure _
  obtain ⟨a, ha, h⟩ := whole.then h
  obtain ⟨_, -, ha⟩ := reads.then ha
  have ha := getStore_then ha
  obtain ⟨rfl, -⟩ := pure_eq_ok.mp ha
  exact h

/-! ## What the checks have established -/

theorem checkSaveRun_eq_ok {run : AgentRun} {expectedVersion : Version}
    {transition : Option StateTransition} {w w' : World RuntimeStore}
    (h : checkSaveRun run expectedVersion transition w = .ok () w') :
    ∃ previous, w.store.runs.get? run.id = some previous ∧ previous.version = expectedVersion ∧
      AgentRun.Evolved previous run (run.endedAt.getD run.createdAt) run.asChange := by
  obtain ⟨previous, found, -, h⟩ := getRun_then h
  obtain ⟨version, h⟩ := raiseIf_then h
  obtain ⟨candidate, evolved, h⟩ := (reads_checked _).then h
  obtain ⟨same, -⟩ := raiseIf_then h
  obtain rfl := not_not.mp same
  exact ⟨previous, found, not_not.mp version, AgentRun.evolve_eq_ok (checked_eq_ok.mp evolved).1⟩

/-- What `add_run` has established before it writes. -/
structure Startable (s : RuntimeStore) (run : AgentRun) : Prop where
  absent : s.runs.get? run.id = none
  alone : ∀ other ∈ s.runs.values, other.taskAttemptId ≠ run.taskAttemptId
  inactive : ∀ other ∈ s.runs.values, other.executionId = run.executionId →
    other.status.terminal = true
  attempt : ∃ attempt, s.domain.attempts.get? run.taskAttemptId = some attempt ∧
    attempt.workspaceId = run.workspaceId ∧ attempt.executionId = run.executionId
  initial : run.version = .initial
  running : run.status = .running

theorem checkAddRun_startable {run : AgentRun} {u : Unit} {w w' : World RuntimeStore}
    (h : checkAddRun run w = .ok u w') : Startable w.store run := by
  have h := getStore_then h
  obtain ⟨absent, h⟩ := raiseIf_then h
  obtain ⟨inactive, h⟩ := raiseIf_then h
  obtain ⟨attempt, found, h⟩ := entity_then (E := TaskAttempt) h
  obtain ⟨workspace, h⟩ := raiseIf_then h
  obtain ⟨_, -, h⟩ := (reads_getDefinition _ _ _).then h
  obtain ⟨binding, h⟩ := raiseIf_then h
  obtain ⟨initial, -⟩ := raiseIf_eq_ok.mp h
  simp only [not_or, not_not, Bool.not_eq_true] at absent initial binding
  refine ⟨Registry.contains_eq_false_iff.mp absent.1, ?_, ?_,
    ⟨attempt, found, (not_not.mp workspace).symm, binding.2⟩, initial.1, initial.2⟩
  · intro other mem same
    exact List.any_eq_false.mp absent.2 other mem (decide_eq_true same)
  · intro other mem same
    have open' : ¬(other.status = .running ∨ other.status = .waiting) := fun active =>
      List.any_eq_false.mp (Bool.eq_false_iff.mpr inactive) other mem
        (decide_eq_true ⟨same, active⟩)
    cases status : other.status <;> simp [status] at open' <;> rfl

theorem checkAction_eq_ok {action : Action} {w w' : World RuntimeStore}
    (h : checkAction action w = .ok () w') : w.store.actions.get? action.id = none := by
  obtain ⟨_, -, -, h⟩ := getRun_then h
  have h := getStore_then h
  obtain ⟨absent, -⟩ := raiseIf_eq_ok.mp h
  exact Registry.contains_eq_false_iff.mp (Bool.eq_false_iff.mpr absent)

/-- What `save_governed_action` has established before it writes. -/
structure GovernedSavable (store : RuntimeStore) (record : GovernedAction)
    (expected : Option Version) : Prop where
  action : ∃ action, store.actions.get? record.intent.actionId = some action ∧
    action.runId = record.intent.runId
  history : match store.governed.get? record.intent.id with
    | none => (∃ workspace, store.domain.workspaces.get? record.intent.workspaceId =
        some workspace) ∧ initialGoverned store record expected
    | some old => some old.version = expected ∧ governedHistory old record

theorem checkGoverned_eq_ok {record : GovernedAction} {expected : Option Version}
    {w w' : World RuntimeStore} (h : checkGoverned record expected w = .ok () w') :
    GovernedSavable w.store record expected := by
  obtain ⟨run, foundRun, -, h⟩ := getRun_then h
  obtain ⟨action, foundAction, -, h⟩ := getAction_then h
  obtain ⟨lineage, h⟩ := raiseIf_then h
  have h := getStore_then h
  simp only [not_or, not_not] at lineage
  have runId : AgentRun.key run = record.intent.runId := Registry.key_of_get? foundRun
  refine ⟨⟨action, foundAction, lineage.1.trans runId⟩, ?_⟩
  unfold checkGovernedHistory at h
  cases present : w.store.governed.get? record.intent.id with
  | none =>
      rw [present] at h
      obtain ⟨workspace, found, h⟩ := entity_then (E := Workspace) h
      exact ⟨⟨workspace, found⟩, not_not.mp (raiseIf_eq_ok.mp h).1⟩
  | some old =>
      rw [present] at h
      obtain ⟨version, h⟩ := raiseIf_then h
      exact ⟨not_not.mp version, not_not.mp (raiseIf_eq_ok.mp h).1⟩

theorem checkInvocation_eq_ok {invocation : ToolInvocation} {w w' : World RuntimeStore}
    (h : checkInvocation invocation w = .ok () w') :
    ∃ run action, w.store.runs.get? invocation.runId = some run ∧
      w.store.actions.get? invocation.actionId = some action ∧
      newInvocation w.store run action invocation := by
  obtain ⟨run, foundRun, -, h⟩ := getRun_then h
  obtain ⟨action, foundAction, -, h⟩ := getAction_then h
  have h := getStore_then h
  exact ⟨run, action, foundRun, foundAction, not_not.mp (raiseIf_eq_ok.mp h).1⟩

/-- What `finish_tool_invocation` has established before it writes. -/
structure ReceiptStorable (store : RuntimeStore) (previous : ToolInvocation)
    (receipt : ToolReceipt) : Prop where
  present : store.toolInvocations.get? receipt.invocation.id = some previous
  absent : store.toolReceipts.get? receipt.id = none
  running : previous.status = .running
  finished : ∃ at', receipt.invocation.toInvocationFields = { previous.toInvocationFields with
    status := finishedStatus receipt.invocation.errorCode
    endedAt := some at'
    errorCode := receipt.invocation.errorCode
    version := previous.version.next }

theorem checkReceipt_eq_ok {receipt : ToolReceipt} {w w' : World RuntimeStore}
    (h : checkReceipt receipt w = .ok () w') :
    ∃ previous, ReceiptStorable w.store previous receipt := by
  obtain ⟨_, -, -, h⟩ := getRun_then h
  have h := getStore_then h
  obtain ⟨previous, present, h⟩ := need_then h
  obtain ⟨absent, h⟩ := raiseIf_then h
  obtain ⟨endedAt, ended, h⟩ := need_then h
  obtain ⟨finished, hf, h⟩ := (reads_checked _).then h
  obtain ⟨same, -⟩ := raiseIf_eq_ok.mp h
  obtain ⟨running, fields⟩ := ToolInvocation.finish_eq_ok (checked_eq_ok.mp hf).1
  rw [not_not.mp same] at fields
  exact ⟨previous, present, Registry.contains_eq_false_iff.mp (Bool.eq_false_iff.mpr absent),
    running, endedAt, fields⟩

end AgentCompanyOS.Runtime
