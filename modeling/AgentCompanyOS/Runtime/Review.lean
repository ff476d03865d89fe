import AgentCompanyOS.Runtime.Store

/-!
# Review of consequential actions

`GovernanceService`: the intent of a consequential call is prepared and validated
inside the caller's transaction, reviewers decide on it, and `claim` binds it to one
invocation. The tool registry and the agent registry that these checks consult are
here as well, with the host that a service runs in.
-/

set_option autoImplicit false

namespace AgentCompanyOS.Runtime

open Foundation Foundation.Txn Domain

/-! ## Hosts -/

/-- The executor that a host has bound to a published tool: the fixture executor over
its own ledger, which may be told to reject, or any other one. -/
inductive Executor where
  | recoverable (reject : Bool)
  | external
deriving DecidableEq

/-- How a process has wired its services. -/
structure Host where
  /-- `ToolRuntimeService.governance is not None`. -/
  governance : Bool
  /-- `GovernanceService.registry is not None`. -/
  registry : Bool
  /-- The executor objects bound to published tools. -/
  executor : ToolGrant → Option Executor
  /-- `AgentRuntimeService.tools is not None`, and the same for the three context ports. -/
  tools : Bool
  knowledge : Bool
  memory : Bool
  communication : Bool
  modelName : Text

/-! ## Run events -/

/-- The check of `Event.__post_init__` on every pair of the metadata. -/
def cleanMetadata : List (String × PyStr) → Except DomainError (List (Text × Text))
  | [] => .ok []
  | (key, value) :: rest =>
      if hk : strip (py key) = [] then
        .error (.invariantViolation "required_text" [("field", py "metadata_key")])
      else if hv : strip value = [] then
        .error (.invariantViolation "required_text" [("field", py "metadata_value")])
      else do
        let cleaned ← cleanMetadata rest
        .ok ((⟨py key, hk⟩, ⟨value, hv⟩) :: cleaned)

/-- The event of a run that the four services append, each with its own metadata. -/
def runEvent (env : Env) (run : AgentRun) (kind : EventType) (metadata : List (String × PyStr)) :
    RuntimeTxn Unit := do
  let id ← fresh env .event
  let at' ← now env
  let pairs ← checked (cleanMetadata metadata)
  let event ← checked (Event.create id run.workspaceId kind .agentRun run.id.text run.version at'
    pairs)
  appendEvent event

/-! ## Tool registry -/

structure ResolvedTool where
  version : ToolVersion
  executor : Executor
  revision : Nat

/-- `ToolRegistry.resolve` on a store. -/
def RuntimeStore.resolve (store : RuntimeStore) (host : Host) (workspaceId : WorkspaceId)
    (grant : ToolGrant) : Except Exc ResolvedTool :=
  match store.tools.get? grant with
  | none => .error (.tool .notFound)
  | some record =>
      if record.toolVersion.definition.workspaceId ≠ workspaceId ∨ record.enabled = false then
        .error (.tool .unauthorized)
      else
        match host.executor grant with
        | none => .error (.tool .upstreamUnavailable)
        | some executor => .ok ⟨record.toolVersion, executor, record.revision⟩

/-- `ToolRegistry.resolve`. -/
def resolve (host : Host) (workspaceId : WorkspaceId) (grant : ToolGrant) :
    RuntimeTxn ResolvedTool := do
  let store ← getStore
  Txn.ofExcept (store.resolve host workspaceId grant)

/-- `ToolRegistry.known`. -/
def RuntimeStore.known (store : RuntimeStore) (workspaceId : WorkspaceId) (toolId : ToolId) :
    Bool :=
  store.tools.values.any fun r =>
    r.toolVersion.definition.workspaceId = workspaceId ∧ r.grant.toolId = toolId

/-- `ToolRegistry.publish`. -/
def publishTool (version : ToolVersion) : RuntimeTxn Unit := atomic do
  let _ ← inDomain (getWorkspace version.definition.workspaceId)
  let store ← getStore
  raiseIf (store.tools.contains version.grant = true) (violation "published_tool_version_immutable")
  let lineage := store.tools.values.filter (·.toolVersion.definition.id = version.definition.id)
  raiseIf (version.version.value ≠ lineage.length + 1 ∨
      ∃ first ∈ lineage.head?, first.toolVersion.definition ≠ version.definition)
    (violation "tool_version_lineage")
  let previous := store.tools.values.find? (·.toolVersion.definition = version.definition)
  let registration : ToolRegistration := {
    toolVersion := version
    enabled := (previous.map ToolRegistration.enabled).getD true
    revision := (previous.map ToolRegistration.revision).getD 0 }
  modifyStore fun store => { store with tools := store.tools.put registration }

/-- A registration after `set_enabled`. -/
def ToolRegistration.switched (r : ToolRegistration) (enabled : Bool) : ToolRegistration :=
  { r with enabled := enabled, revision := r.revision + 1 }

/-- `ToolRegistry.set_enabled`. -/
def setToolEnabled (workspaceId : WorkspaceId) (toolId : ToolId) (enabled : Bool) :
    RuntimeTxn Unit := atomic do
  let store ← getStore
  raiseIf (store.known workspaceId toolId = false) (.tool .unauthorized)
  forEach (store.tools.values.filter (·.grant.toolId = toolId)) fun r =>
    modifyStore fun store => { store with tools := store.tools.put (r.switched enabled) }

/-! ## Agent registry -/

/-- `InMemoryOrganizationStore.graph`. -/
def getGraph (workspaceId : WorkspaceId) : RuntimeTxn OrganizationGraph := do
  let _ ← inDomain (getWorkspace workspaceId)
  let store ← getStore
  need (store.graphs.get? workspaceId)
    (.domain (.entityNotFound (py "OrganizationGraph") workspaceId.value))

/-- `InMemoryOrganizationStore.version`. -/
def getGraphVersion (workspaceId : WorkspaceId) (version : Version) :
    RuntimeTxn OrganizationGraphVersion := do
  let _ ← getGraph workspaceId
  let store ← getStore
  need (store.graphVersions.get? (workspaceId, version))
    (.domain (.entityNotFound (py "OrganizationGraphVersion") (pyNat version.value)))

/-- `AgentRegistry.capture`. -/
def capture (env : Env) (workspaceId : WorkspaceId) : RuntimeTxn OrganizationSnapshot := do
  let graph ← getGraph workspaceId
  let active ← need graph.activeVersion (violation "organization_requires_active_version")
  let version ← getGraphVersion workspaceId active
  let at' ← now env
  pure ⟨version, at'⟩

/-- The registered definitions that a membership makes discoverable. -/
def discover (workspaceId : WorkspaceId) (members : List DepartmentMembership) :
    List RegisteredAgent → RuntimeTxn (List AgentDefinitionVersion)
  | [] => pure []
  | ref :: rest => do
      let item ← getDefinition workspaceId ref.agentId ref.version
      let found ← discover workspaceId members rest
      pure (if item.enabled = true ∧
          members.any (fun m => m.agentId = ref.agentId ∧ m.discoverable = true) = true then
        item :: found else found)

/-- `AgentRegistry.query` with no filter; its caller only looks for membership, so the
result is not sorted here. -/
def query (env : Env) (workspaceId : WorkspaceId) (snapshot : OrganizationSnapshot) :
    RuntimeTxn (List AgentDefinitionVersion) := do
  raiseIf (snapshot.graph.workspaceId ≠ workspaceId)
    (.domain (.workspaceMismatch (py "OrganizationSnapshot") workspaceId.value
      snapshot.graph.workspaceId.value))
  let stored ← getGraphVersion workspaceId snapshot.graph.version
  raiseIf (stored ≠ snapshot.graph) (violation "forged_organization_snapshot")
  let at' ← now env
  discover workspaceId (snapshot.members at') snapshot.graph.agents

/-! ## Organization commands -/

/-- `OrganizationService._event` with the check of the store's `append_event`. -/
def organizationEvent (env : Env) (version : OrganizationGraphVersion) (kind : EventType) :
    RuntimeTxn Unit := do
  let id ← fresh env .event
  let at' ← now env
  let pairs ← checked (cleanMetadata
    [("department_count", pyNat version.departments.length),
      ("membership_count", pyNat version.memberships.length),
      ("capability_count", pyNat version.capabilities.length)])
  let event ← checked (Event.create id version.workspaceId kind .organizationGraph
    version.graphId.text version.version at' pairs)
  let graph ← getGraph event.workspaceId
  let store ← getStore
  raiseIf (event.subjectId.val ≠ graph.id.value ∨
      event.id ∈ store.organizationEvents.map Event.id)
    (violation "organization_event_binding")
  modifyStore fun store =>
    { store with organizationEvents := store.organizationEvents ++ [event] }

/-- `OrganizationService._validate_definitions`. -/
def validateDefinitions (draft : OrganizationGraphVersion) : RuntimeTxn Unit :=
  forEach draft.agents fun ref => do
    let definition ← getDefinition draft.workspaceId ref.agentId ref.version
    raiseIf (definition.capabilityIds.any
        (· ∉ draft.capabilities.map CapabilityDefinition.id) = true)
      (violation "unknown_registered_capability")

/-- The version that a graph activates is stored. -/
def checkActiveVersion (graph : OrganizationGraph) : RuntimeTxn Unit :=
  match graph.activeVersion with
  | none => pure ()
  | some version => discard (getGraphVersion graph.workspaceId version)

/-- `save_graph`. -/
def saveGraph (graph : OrganizationGraph) (expected : Version) : RuntimeTxn Unit := do
  let previous ← getGraph graph.workspaceId
  raiseIf (previous.revision ≠ expected)
    (.domain (.versionConflict (py "OrganizationGraph") graph.id.value expected.value
      previous.revision.value))
  raiseIf (graph.id ≠ previous.id ∨ graph.name ≠ previous.name ∨ graph.revision ≠ expected.next)
    (violation "organization_graph_mutation")
  checkActiveVersion graph
  modifyStore fun store => { store with graphs := store.graphs.put graph }

/-- `OrganizationService.create`. -/
def createGraph (env : Env) (workspaceId : WorkspaceId) (name : Text) :
    RuntimeTxn OrganizationGraph := do
  raiseIf (200 < name.val.length) (violation "organization_label_bound")
  let id ← fresh env .organizationGraph
  let graph : OrganizationGraph := ⟨id, workspaceId, name, .initial, none⟩
  atomic do
    let _ ← inDomain (getWorkspace workspaceId)
    let store ← getStore
    raiseIf (store.graphs.contains workspaceId = true ∨
        store.graphs.values.any (·.id = id) = true)
      (violation "organization_graph_identity")
    modifyStore fun store => { store with graphs := store.graphs.put graph }
  pure graph

/-- `add_version`. -/
def addGraphVersion (version : OrganizationGraphVersion) : RuntimeTxn Unit := do
  let graph ← getGraph version.workspaceId
  let store ← getStore
  raiseIf (graph.id ≠ version.graphId ∨ version.version.value ≠
      (store.graphVersions.values.filter (·.workspaceId = version.workspaceId)).length + 1)
    (violation "organization_version_lineage")
  forEach version.agents fun ref => do
    let _ ← getDefinition version.workspaceId ref.agentId ref.version
    pure ()
  modifyStore fun store => { store with graphVersions := store.graphVersions.put version }

/-- `OrganizationService.publish`. -/
def publishGraph (env : Env) (draft : OrganizationGraphVersion) (expected : Version) :
    RuntimeTxn OrganizationGraphVersion := atomic do
  let graph ← getGraph draft.workspaceId
  raiseIf (graph.revision ≠ expected)
    (.domain (.versionConflict (py "OrganizationGraph") graph.id.value expected.value
      graph.revision.value))
  -- Reconstructed, to validate even a forged dataclass supplied by a host adapter.
  checked draft.check
  validateDefinitions draft
  addGraphVersion draft
  saveGraph { graph with revision := graph.revision.next } expected
  organizationEvent env draft .organizationGraphVersionCreated
  pure draft

/-- `OrganizationService.activate`. -/
def activateGraph (env : Env) (workspaceId : WorkspaceId) (version expected : Version) :
    RuntimeTxn OrganizationGraph := atomic do
  let graph ← getGraph workspaceId
  let draft ← getGraphVersion workspaceId version
  checked draft.check
  validateDefinitions draft
  let updated := { graph with activeVersion := some version, revision := graph.revision.next }
  saveGraph updated expected
  organizationEvent env draft .organizationGraphActivated
  pure updated

/-! ## Intents -/

/-- `GovernanceService.event`. -/
def governanceEvent (env : Env) (record : GovernedAction) (kind : EventType) (reason : PyStr) :
    RuntimeTxn Unit := do
  let intent := record.intent
  let run ← getRun intent.workspaceId intent.runId
  runEvent env run kind
    [("intent_id", intent.id.value), ("action_id", intent.actionId.value),
      ("fingerprint", intent.fingerprint), ("policy_version", pyNat intent.policy.version.value),
      ("risk", intent.tool.definition.risk.value.val), ("reason", reason)]

/-- The body of `organization_check` for a run that is bound to a version. -/
def checkOrganizationVersion (env : Env) (host : Host) (run : AgentRun) (version : Version) :
    RuntimeTxn Unit := do
  raiseIf (host.registry = false) (violation "approval_organization_registry_required")
  let snapshot ← capture env run.workspaceId
  raiseIf (snapshot.graph.version ≠ version) (violation "approval_organization_changed")
  let candidates ← query env run.workspaceId snapshot
  raiseIf (run.definitionVersion ∉ candidates) (violation "approval_organization_changed")

/-- `organization_check`. -/
def organizationCheck (env : Env) (host : Host) (run : AgentRun) : RuntimeTxn Unit :=
  match run.organizationVersion with
  | none => pure ()
  | some version => checkOrganizationVersion env host run version

/-- `fingerprint` inside a transaction. -/
def fingerprintOf (platform : Platform) (run : AgentRun) (action : Action) (tool : ToolVersion)
    (argumentsJson : PyStr) : RuntimeTxn PyStr :=
  Txn.ofExcept (fingerprint platform run.workspaceId run.id action.id tool argumentsJson)

/-- The part of `validate`'s condition that comes before the fingerprint. -/
def sameCall (record : GovernedAction) (run : AgentRun) (action : Action) (tool : ToolVersion)
    (request : ToolInput) : Prop :=
  record.intent.runId = run.id ∧ record.intent.actionId = action.id ∧ record.intent.tool = tool ∧
    record.intent.destination = request.subject ∧ record.intent.argumentsJson = inputJson request

/-- The part that comes after it. -/
def sameAuthority (record : GovernedAction) (run : AgentRun) (tool : ToolVersion)
    (request : ToolInput) (policy : Option ApprovalPolicy) : Prop :=
  some record.intent.policy = policy ∧ tool.grant ∈ run.definitionVersion.allowedTools ∧
    run.definitionVersion.enabled = true ∧
    record.intent.effect =
      record.intent.policy.evaluate run.definitionVersion.autonomyCeiling tool request.subject

instance (record : GovernedAction) (run : AgentRun) (action : Action) (tool : ToolVersion)
    (request : ToolInput) : Decidable (sameCall record run action tool request) :=
  inferInstanceAs (Decidable (_ ∧ _))

instance (record : GovernedAction) (run : AgentRun) (tool : ToolVersion) (request : ToolInput)
    (policy : Option ApprovalPolicy) : Decidable (sameAuthority record run tool request policy) :=
  inferInstanceAs (Decidable (_ ∧ _))

/-- `validate`. -/
def validate (platform : Platform) (host : Host) (record : GovernedAction) (run : AgentRun)
    (action : Action) (tool : ToolVersion) (request : ToolInput) : RuntimeTxn Unit := do
  let stored ← governedAction run.workspaceId record.intent.id
  raiseIf (stored ≠ record ∨ ¬sameCall record run action tool request)
    (violation "approval_binding_or_policy_changed")
  let digest ← fingerprintOf platform run action tool (inputJson request)
  raiseIf (record.intent.fingerprint ≠ digest) (violation "approval_binding_or_policy_changed")
  let policy ← approvalPolicy run.workspaceId
  raiseIf (¬sameAuthority record run tool request policy)
    (violation "approval_binding_or_policy_changed")
  organizationCheck platform.toEnv host run

/-- The preview of an approval request. -/
def previewText (run : AgentRun) (tool : ToolVersion) (destination : PyStr) : PyStr :=
  run.definitionVersion.definition.name.val.take 128 ++ py " v" ++
    pyNat run.definitionVersion.version.value ++ py ": " ++ tool.executorKind.value.val ++
    py " to " ++ destination ++ py "; " ++ tool.definition.risk.value.val

/-- The request that a new intent asks approval with. -/
def requestFor (run : AgentRun) (intent : ActionIntent) : Option ApprovalRequest :=
  if intent.effect = .required then
    some ⟨intent.id, intent.fingerprint, intent.expiresAt,
      previewText run intent.tool intent.destination⟩
  else none

/-- `ActionIntentId(f"intent:{action.id}")`. -/
def intentIdOf (actionId : ActionId) : Except DomainError ActionIntentId :=
  OpaqueId.parse .actionIntent (py "intent:" ++ actionId.value)

/-- The part of `prepare` that stores a new intent. -/
def prepareNew (platform : Platform) (host : Host) (run : AgentRun) (action : Action)
    (tool : ToolVersion) (request : ToolInput) : RuntimeTxn GovernedAction := do
  let current ← approvalPolicy run.workspaceId
  let policy ← need current (violation "approval_policy_missing")
  organizationCheck platform.toEnv host run
  let normalized := inputJson request
  let at' ← now platform.toEnv
  let id ← checked (intentIdOf action.id)
  let digest ← fingerprintOf platform run action tool normalized
  let intent ← Txn.ofExcept (ActionIntent.create platform {
    id := id
    workspaceId := run.workspaceId
    runId := run.id
    actionId := action.id
    goalId := run.goalId
    taskId := run.taskId
    executionId := run.executionId
    tool := tool
    argumentsJson := normalized
    destination := request.subject
    fingerprint := digest
    policy := policy
    effect := policy.evaluate run.definitionVersion.autonomyCeiling tool request.subject
    createdAt := at'
    expiresAt := min run.deadline (at' + seconds policy.expirySeconds) })
  let record ← checked (GovernedAction.create
    ⟨intent, requestFor run intent, [], false, none, false, .initial⟩)
  saveGovernedAction record none
  governanceEvent platform.toEnv record .actionIntentCreated (py "none")
  runIf (record.request ≠ none)
    (governanceEvent platform.toEnv record .approvalRequested (py "none"))
  pure record

/-- `prepare`. -/
def prepare (platform : Platform) (host : Host) (run : AgentRun) (action : Action)
    (tool : ToolVersion) (request : ToolInput) : RuntimeTxn GovernedAction := do
  let records ← governedActions run.workspaceId
  match records.find? (·.intent.actionId = action.id) with
  | some existing => do
      validate platform host existing run action tool request
      pure existing
  | none => prepareNew platform host run action tool request

/-- `allowed`, at a reading of the clock. Python reads the clock only when the first
test passes; a reading that is not used changes nothing but the number of readings. -/
def GovernedAction.allowedAt (record : GovernedAction) (at' : Instant) : Bool :=
  if record.cancelled = true ∨ record.invocationId ≠ none ∨ record.consumed = true then false
  else if record.intent.expiresAt ≤ at' then false
  else if record.intent.effect = .allow then true
  else record.intent.effect = .required &&
    record.decisions.getLast?.any fun d => d.kind = .approved

/-- `allowed`. -/
def allowed (env : Env) (record : GovernedAction) : RuntimeTxn Bool := do
  let at' ← now env
  pure (record.allowedAt at')

/-! ## Decisions -/

/-- A stored record replaced by its next version. -/
def saveNextGoverned (env : Env) (record : GovernedAction) (fields : GovernedFields)
    (kind : EventType) : RuntimeTxn GovernedAction := do
  let updated ← checked (GovernedAction.create { fields with version := record.version.next })
  saveGovernedAction updated (some record.version)
  governanceEvent env updated kind (py "none")
  pure updated

/-- The condition under which `decide` refuses. -/
def decisionUnavailable (record : GovernedAction) (policy : ApprovalPolicy) (digest : PyStr)
    (kind : DecisionKind) (at' : Instant) : Prop :=
  record.request = none ∨ digest ≠ record.intent.fingerprint ∨ record.intent.policy ≠ policy ∨
    record.cancelled = true ∨ record.invocationId ≠ none ∨ record.intent.expiresAt ≤ at' ∨
    kind = .expired ∨
    (kind = .revoked ∧ ¬∃ d ∈ record.decisions.getLast?, d.kind = .approved) ∨
    (kind ≠ .revoked ∧ record.decisions ≠ [])

instance (record : GovernedAction) (policy : ApprovalPolicy) (digest : PyStr)
    (kind : DecisionKind) (at' : Instant) :
    Decidable (decisionUnavailable record policy digest kind at') :=
  inferInstanceAs (Decidable (_ ∨ _))

/-- The event of each kind of decision. -/
def decisionEvent : DecisionKind → EventType
  | .approved => .approvalGranted
  | .rejected => .approvalRejected
  | .revoked => .approvalRevoked
  | .expired => .approvalExpired

/-- `decide`. -/
def decide (env : Env) (workspace : WorkspaceId) (intentId : ActionIntentId) (digest : PyStr)
    (reviewer : ReviewerPrincipal) (kind : DecisionKind) (reason : PyStr) :
    RuntimeTxn GovernedAction := atomic do
  let record ← governedAction workspace intentId
  let current ← approvalPolicy workspace
  let policy ← need current (violation "reviewer_not_authorized")
  raiseIf (reviewer ∉ policy.reviewers ∨ reviewer ∉ record.intent.policy.reviewers ∨
      reviewer.workspaceId ≠ workspace)
    (violation "reviewer_not_authorized")
  let at' ← now env
  raiseIf (decisionUnavailable record policy digest kind at')
    (violation "approval_decision_not_available")
  let decidedAt ← now env
  let decision ← checked (ApprovalDecision.create intentId digest policy.version kind
    (some reviewer) decidedAt reason)
  saveNextGoverned env record
    { record.toGovernedFields with decisions := record.decisions ++ [decision] }
    (decisionEvent kind)

/-- `cancel`. -/
def cancelIntent (env : Env) (workspace : WorkspaceId) (intentId : ActionIntentId) :
    RuntimeTxn GovernedAction := atomic do
  let record ← governedAction workspace intentId
  raiseIf (record.cancelled = true ∨ record.invocationId ≠ none)
    (violation "intent_already_cancelled_or_claimed")
  saveNextGoverned env record { record.toGovernedFields with cancelled := true }
    .actionIntentCancelled

/-- The condition under which `expire` records an expiry. -/
def expirable (record : GovernedAction) (at' : Instant) : Prop :=
  record.request ≠ none ∧ record.cancelled = false ∧ record.invocationId = none ∧
    record.intent.expiresAt ≤ at' ∧
    (record.decisions = [] ∨ ∃ d ∈ record.decisions.getLast?, d.kind = .approved)

instance (record : GovernedAction) (at' : Instant) : Decidable (expirable record at') :=
  inferInstanceAs (Decidable (_ ∧ _))

/-- `expire`. -/
def expire (env : Env) (workspace : WorkspaceId) (intentId : ActionIntentId) :
    RuntimeTxn GovernedAction := atomic do
  let record ← governedAction workspace intentId
  let at' ← now env
  if expirable record at' then do
    let expiredAt ← now env
    let decision ← checked (ApprovalDecision.create intentId record.intent.fingerprint
      record.intent.policy.version .expired none expiredAt [])
    saveNextGoverned env record
      { record.toGovernedFields with decisions := record.decisions ++ [decision] } .approvalExpired
  else pure record

/-- `claim`. -/
def claim (env : Env) (record : GovernedAction) (invocation : ToolInvocation) :
    RuntimeTxn GovernedAction := do
  let executable ← allowed env record
  raiseIf (executable = false) (violation "approval_not_executable")
  saveNextGoverned env record { record.toGovernedFields with invocationId := some invocation.id }
    .actionExecutionAuthorized

/-- `consumed`. -/
def consumed (env : Env) (invocation : ToolInvocation) : RuntimeTxn Unit := do
  let records ← governedActions invocation.workspaceId
  match records.find? (·.invocationId = some invocation.id) with
  | none => pure ()
  | some record =>
      if record.request ≠ none ∧ record.consumed = false then
        discard (saveNextGoverned env record { record.toGovernedFields with consumed := true }
          .approvalConsumed)
      else pure ()

end AgentCompanyOS.Runtime
