import AgentCompanyOS.Runtime.Writes

/-!
# The footprint of every service function

For each function of the services, the kinds of writes that it may make, whether it
returns or raises. Functions that only look at the store are `Idle`. The transaction
that claims a tool call is the only one that may add an invocation or claim a record.
-/

set_option autoImplicit false

namespace AgentCompanyOS.Runtime

open Foundation Foundation.Txn Domain

variable {K : List Kind}

/-! ## Looking -/

section Look

variable {G : Guarantee RuntimeStore}

theorem reads_entity (E : Type) {kind : IdKind} [Entity E kind] [Table E kind]
    (id : OpaqueId kind) : Reads (inDomain (getEntity E id)) :=
  reads_inDomain (reads_getEntity E id)

theorem reads_resolve (host : Host) (workspaceId : WorkspaceId) (grant : ToolGrant) :
    Reads (resolve host workspaceId grant) :=
  Reads.getStore.bind fun _ => Reads.ofExcept _

theorem reads_validated {α : Type} (r : Validated α) : Reads (validated r) := by
  cases r with
  | ok a => exact Reads.pure a
  | error code => exact Reads.raise _

theorem reads_toolParents (run : AgentRun) : Reads (toolParents run) :=
  (reads_entity Goal _).bind fun _ => (reads_entity Task _).bind fun _ =>
    (reads_entity TaskAttempt _).bind fun _ => (reads_entity Execution _).bind fun _ =>
    (Reads.raiseIf _ _).bind fun _ => Reads.pure _

theorem reads_parentVersions (run : AgentRun) : Reads (parentVersions run) :=
  (reads_entity Goal _).bind fun _ => (reads_entity Task _).bind fun _ =>
    (reads_entity TaskAttempt _).bind fun _ => (reads_entity Execution _).bind fun _ =>
    Reads.pure _

theorem reads_forEach {β : Type} {xs : List β} {f : β → RuntimeTxn Unit} (h : ∀ x, Reads (f x)) :
    Reads (forEach xs f) := by
  induction xs with
  | nil => exact Reads.pure ()
  | cons x rest ih => exact (h x).bind fun _ => ih

theorem reads_runParents (run : AgentRun) (waiting : Bool) : Reads (runParents run waiting) :=
  (reads_entity TaskAttempt _).bind fun _ => (reads_entity Task _).bind fun _ =>
    (reads_entity Execution _).bind fun _ => (reads_entity Goal _).bind fun _ =>
    (reads_forEach fun _ => Reads.raiseIf _ _).bind fun _ => (Reads.raiseIf _ _).bind fun _ =>
    (Reads.raiseIf _ _).bind fun _ => Reads.pure _

theorem reads_getGraph (workspaceId : WorkspaceId) : Reads (getGraph workspaceId) :=
  (reads_getWorkspace _).bind fun _ => Reads.getStore.bind fun _ => Reads.need _ _

theorem reads_getGraphVersion (workspaceId : WorkspaceId) (version : Version) :
    Reads (getGraphVersion workspaceId version) :=
  (reads_getGraph _).bind fun _ => Reads.getStore.bind fun _ => Reads.need _ _

theorem reads_discover (workspaceId : WorkspaceId) (members : List DepartmentMembership)
    (refs : List RegisteredAgent) : Reads (discover workspaceId members refs) := by
  induction refs with
  | nil => exact Reads.pure _
  | cons ref rest ih =>
      exact (reads_getDefinition _ _ _).bind fun _ => ih.bind fun _ => Reads.pure _

theorem reads_validateDefinitions (draft : OrganizationGraphVersion) :
    Reads (validateDefinitions draft) :=
  reads_forEach fun _ => (reads_getDefinition _ _ _).bind fun _ => Reads.raiseIf _ _

theorem idle_capture (env : Env) (workspaceId : WorkspaceId) : Idle (capture env workspaceId) :=
  (reads_getGraph _).moves.bind fun _ => (Reads.need _ _).moves.bind fun _ =>
    (reads_getGraphVersion _ _).moves.bind fun _ => (moves_now env).bind fun _ => Moves.pure _

theorem idle_query (env : Env) (workspaceId : WorkspaceId) (snapshot : OrganizationSnapshot) :
    Idle (query env workspaceId snapshot) :=
  (Moves.raiseIf _ _).bind fun _ => (reads_getGraphVersion _ _).moves.bind fun _ =>
    (Moves.raiseIf _ _).bind fun _ => (moves_now env).bind fun _ => (reads_discover _ _ _).moves

theorem idle_organizationCheck (env : Env) (host : Host) (run : AgentRun) :
    Idle (organizationCheck env host run) := by
  unfold organizationCheck
  split
  · exact Moves.pure ()
  · exact (Moves.raiseIf _ _).bind fun _ => (idle_capture env _).bind fun _ =>
      (Moves.raiseIf _ _).bind fun _ => (idle_query env _ _).bind fun _ => Moves.raiseIf _ _

theorem idle_validate (platform : Platform) (host : Host) (record : GovernedAction)
    (run : AgentRun) (action : Action) (tool : ToolVersion) (request : ToolInput) :
    Idle (validate platform host record run action tool request) :=
  (reads_governedAction _ _).moves.bind fun _ => (Moves.raiseIf _ _).bind fun _ =>
    (Moves.ofExcept _).bind fun _ => (Moves.raiseIf _ _).bind fun _ =>
    (reads_approvalPolicy _).moves.bind fun _ => (Moves.raiseIf _ _).bind fun _ =>
    idle_organizationCheck _ host run

theorem idle_allowed (env : Env) (record : GovernedAction) : Idle (allowed env record) :=
  (moves_now env).bind fun _ => Moves.pure _

theorem reads_parentsMoved (run : AgentRun) (invocation : ToolInvocation) :
    Reads (parentsMoved run invocation) := by
  unfold parentsMoved
  split
  · exact Reads.pure _
  · exact (reads_toolParents run).bind fun _ => Reads.pure _

theorem idle_staleCheck (host : Host) (run : AgentRun) (invocation : ToolInvocation) :
    Idle (staleCheck host run invocation) :=
  (reads_parentsMoved run invocation).moves.bind fun _ =>
    (reads_resolve host _ _).moves.bind fun _ => Moves.pure _

theorem moves_staleFailure (e : Exc) : Moves G (staleFailure e) := by
  cases e with
  | model _ => exact Moves.pure _
  | tool _ => exact Moves.pure _
  | domain _ => exact Moves.raise _
  | timeout => exact Moves.raise _
  | cancelled => exact Moves.raise _
  | other => exact Moves.raise _

theorem idle_judgeReply (env : Env) (host : Host) (run : AgentRun) (invocation : ToolInvocation)
    (error : Option ToolError) : Idle (judgeReply env host run invocation error) := by
  unfold judgeReply
  split
  · exact Moves.pure _
  · refine (Moves.catching (idle_staleCheck host run invocation) moves_staleFailure).bind
      fun stale => ?_
    split
    · exact Moves.pure _
    · exact (moves_now env).bind fun _ => Moves.pure _

theorem idle_receiptApplies (host : Host) (run : AgentRun) (invocation : ToolInvocation) :
    Idle (receiptApplies host run invocation) := by
  refine (reads_toolParents run).moves.bind fun _ => ?_
  split
  · exact Moves.pure _
  · exact (reads_resolve host _ _).moves.bind fun _ => Moves.pure _

theorem moves_receiptFailure (e : Exc) : Moves G (receiptFailure e) := by
  cases e with
  | model _ => exact Moves.pure _
  | tool _ => exact Moves.pure _
  | domain _ => exact Moves.raise _
  | timeout => exact Moves.raise _
  | cancelled => exact Moves.raise _
  | other => exact Moves.raise _

theorem idle_observationOf (receipt : ToolReceipt) : Idle (observationOf receipt) :=
  (Moves.ofExcept _).bind fun _ => (reads_checked _).moves

theorem idle_resumeChecks (platform : Platform) (host : Host) (record : GovernedAction)
    (run : AgentRun) (action : Action) (expectedVersion : Version) :
    Idle (resumeChecks platform host record run action expectedVersion) :=
  (reads_resolve host _ _).moves.bind fun _ => (reads_validated _).moves.bind fun _ =>
    (Moves.raiseIf _ _).bind fun _ => (moves_now _).bind fun _ => (Moves.raiseIf _ _).bind fun _ =>
    (idle_validate platform host record run action _ _).bind fun _ =>
    (idle_allowed _ record).bind fun _ => (Moves.raiseIf _ _).bind fun _ =>
    (reads_entity Execution _).moves.bind fun _ => (reads_entity Goal _).moves.bind fun _ =>
    (Moves.raiseIf _ _).bind fun _ => (reads_entity Task _).moves.bind fun _ =>
    (Moves.raiseIf _ _).bind fun _ => (reads_entity TaskAttempt _).moves.bind fun _ =>
    (Moves.raiseIf _ _).bind fun _ => Moves.pure _

theorem moves_beforeDeadline (env : Env) (run : AgentRun) : Moves G (beforeDeadline env run) :=
  (moves_now env).bind fun _ => Moves.raiseIf _ _

theorem reads_askPort (present : Bool) (answer : Except Exc Nat) :
    Reads (askPort present answer) := by
  unfold askPort
  split
  · exact Reads.ofExcept _
  · exact Reads.pure _

theorem idle_driveEntry (workspaceId : WorkspaceId) (runId : AgentRunId)
    (expectedVersion : Version) : Idle (driveEntry workspaceId runId expectedVersion) :=
  Moves.atomic ((reads_getRun _ _).moves.bind fun _ => (Moves.raiseIf _ _).bind fun _ =>
    (Moves.raiseIf _ _).bind fun _ => Moves.pure _)

theorem reads_checkConfiguration (host : Host) (run : AgentRun) :
    Reads (checkConfiguration host run) :=
  (Reads.raiseIf _ _).bind fun _ => (Reads.raiseIf _ _).bind fun _ =>
    (Reads.raiseIf _ _).bind fun _ => (Reads.raiseIf _ _).bind fun _ =>
    (Reads.raiseIf _ _).bind fun _ => Reads.raiseIf _ _

theorem reads_offeredTools (host : Host) (claimed : AgentRun) :
    Reads (offeredTools host claimed) := by
  unfold offeredTools
  split
  · exact Reads.getStore.bind fun _ => Reads.pure _
  · exact Reads.pure _

theorem reads_getSource (workspaceId : WorkspaceId) (sourceId : KnowledgeSourceId) :
    Reads (getSource workspaceId sourceId) :=
  Reads.getStore.bind fun _ => (Reads.need _ _).bind fun _ => (Reads.raiseIf _ _).bind fun _ =>
    Reads.pure _

theorem reads_getSourceVersion (workspaceId : WorkspaceId) (sourceId : KnowledgeSourceId)
    (version : Version) : Reads (getSourceVersion workspaceId sourceId version) :=
  (reads_getSource _ _).bind fun _ => Reads.getStore.bind fun _ => Reads.need _ _

theorem reads_getChunks (workspaceId : WorkspaceId) (sourceId : KnowledgeSourceId)
    (version : Version) : Reads (getChunks workspaceId sourceId version) :=
  (reads_getSourceVersion _ _ _).bind fun _ => Reads.getStore.bind fun _ =>
    (Reads.need _ _).bind fun _ => Reads.pure _

theorem reads_getPack (workspaceId : WorkspaceId) (runId : AgentRunId) (packId : EvidencePackId) :
    Reads (getPack workspaceId runId packId) :=
  (reads_getRun _ _).bind fun _ => Reads.getStore.bind fun _ => (Reads.need _ _).bind fun _ =>
    (Reads.raiseIf _ _).bind fun _ => (Reads.raiseIf _ _).bind fun _ => Reads.pure _

theorem reads_listPacks (workspaceId : WorkspaceId) (runId : AgentRunId) :
    Reads (listPacks workspaceId runId) :=
  (reads_getRun _ _).bind fun _ => Reads.getStore.bind fun _ => Reads.pure _

theorem reads_checkAuthorized (run : AgentRun) (item : EvidenceCandidate) :
    Reads (checkAuthorized run item) :=
  (reads_getSource _ _).bind fun _ => (Reads.raiseIf _ _).bind fun _ =>
    (reads_getChunks _ _ _).bind fun _ => Reads.raiseIf _ _

theorem reads_activePack (run : AgentRun) : Reads (activePack run) := by
  unfold activePack
  split
  · exact Reads.pure _
  · exact (reads_getPack _ _ _).bind fun _ =>
      (reads_forEach fun item => reads_checkAuthorized run item).bind fun _ => Reads.pure _

theorem reads_knowledgePack (host : Host) (run : AgentRun) : Reads (knowledgePack host run) := by
  unfold knowledgePack
  split
  · exact reads_activePack run
  · exact Reads.pure _

theorem reads_packChars (platform : Platform) (pack : Option EvidencePack) :
    Reads (packChars platform pack) := by
  cases pack with
  | some pack => exact Reads.ofExcept _
  | none => exact Reads.pure _

theorem reads_assembleRequest (platform : Platform) (host : Host) (ports : PortAnswers)
    (claimed : AgentRun) (snapshot : RuntimeSnapshot) :
    Reads (assembleRequest platform host ports claimed snapshot) :=
  (reads_offeredTools host claimed).bind fun _ => (reads_knowledgePack host claimed).bind fun _ =>
    (reads_askPort _ _).bind fun _ => (reads_askPort _ _).bind fun _ =>
    (reads_packChars platform _).bind fun _ => Reads.raiseIf _ _

theorem idle_currentIteration (env : Env) (host : Host) (ports : PortAnswers)
    (workspaceId : WorkspaceId) (runId : AgentRunId) (claimed : AgentRun) :
    Idle (currentIteration env host ports workspaceId runId claimed) :=
  (reads_getRun _ _).moves.bind fun _ => (Moves.raiseIf _ _).bind fun _ =>
    (moves_beforeDeadline env _).bind fun _ => (reads_knowledgePack host _).moves.bind fun _ =>
    (reads_askPort _ _).moves.bind fun _ => Moves.pure _

theorem reads_evidence (run : AgentRun) : Reads (evidence run) :=
  (reads_toolReceipts _ _).bind fun _ => (Reads.ofExcept _).bind fun _ => Reads.pure _

theorem reads_toolEvidence (host : Host) (run : AgentRun) : Reads (toolEvidence host run) := by
  unfold toolEvidence
  split
  · exact reads_evidence run
  · exact Reads.pure _

theorem reads_packEvidence (run : AgentRun) : Reads (packEvidence run) := by
  refine (reads_activePack run).bind fun pack => ?_
  cases pack with
  | none => exact Reads.pure _
  | some pack => exact Reads.ofExcept _

theorem reads_knowledgeEvidence (host : Host) (run : AgentRun) :
    Reads (knowledgeEvidence host run) := by
  unfold knowledgeEvidence
  split
  · exact reads_packEvidence run
  · exact Reads.pure _

theorem reads_authorizeDecision (run : AgentRun) (decision : ModelDecision) :
    Reads (authorizeDecision run decision) :=
  (Reads.raiseIf _ _).bind fun _ => Reads.raiseIf _ _

theorem reads_findRecovery (workspaceId : WorkspaceId) (runId : AgentRunId)
    (invocationId : ToolInvocationId) : Reads (findRecovery workspaceId runId invocationId) :=
  (reads_getRun _ _).bind fun _ => (reads_toolInvocations _ _).bind fun _ =>
    (reads_toolReceipts _ _).bind fun _ => Reads.pure _

end Look

/-! ## Events -/

theorem moves_runEvent [Allows K .audit] (env : Env) (run : AgentRun) (kind : EventType)
    (metadata : List (String × PyStr)) : Moves (writes K) (runEvent env run kind metadata) :=
  (moves_fresh env .event).bind fun _ => (moves_now env).bind fun _ =>
    (reads_checked _).moves.bind fun _ => (reads_checked _).moves.bind fun _ =>
    moves_appendEvent _

theorem moves_governanceEvent [Allows K .audit] (env : Env) (record : GovernedAction)
    (kind : EventType) (reason : PyStr) :
    Moves (writes K) (governanceEvent env record kind reason) :=
  (reads_getRun _ _).moves.bind fun run => moves_runEvent env run kind _

/-! ## Review -/

theorem moves_prepareNew [Allows K .prepare] [Allows K .audit] (platform : Platform) (host : Host)
    (run : AgentRun) (action : Action) (tool : ToolVersion) (request : ToolInput) :
    Moves (writes K) (prepareNew platform host run action tool request) :=
  (reads_approvalPolicy _).moves.bind fun _ => (Moves.need _ _).bind fun _ =>
    (idle_organizationCheck _ host run).moves.bind fun _ => (moves_now _).bind fun _ =>
    (reads_checked _).moves.bind fun _ => (Moves.ofExcept _).bind fun _ =>
    (Moves.ofExcept _).bind fun _ => (reads_checked _).moves.bind fun record =>
    (moves_saveGoverned_new record).bind fun _ => (moves_governanceEvent _ _ _ _).bind fun _ =>
    (Moves.runIf fun _ => moves_governanceEvent _ _ _ _).bind fun _ => Moves.pure _

theorem moves_prepare [Allows K .prepare] [Allows K .audit] (platform : Platform) (host : Host)
    (run : AgentRun) (action : Action) (tool : ToolVersion) (request : ToolInput) :
    Moves (writes K) (prepare platform host run action tool request) := by
  refine (reads_governedActions _).moves.bind fun records => ?_
  split
  · exact (idle_validate platform host _ run action tool request).moves.bind fun _ => Moves.pure _
  · exact moves_prepareNew platform host run action tool request

/-- The next version of a stored record that keeps its claim. -/
theorem movesAt_saveNext [Allows K .review] [Allows K .audit] {env : Env} {record : GovernedAction}
    {fields : GovernedFields} {kind : EventType} {w : World RuntimeStore}
    (present : w.store.governed.get? record.intent.id = some record)
    (sameIntent : fields.intent = record.intent) (claim : fields.invocationId = record.invocationId)
    (frozen : record.invocationId ≠ none →
      fields.decisions = record.decisions ∧ fields.cancelled = record.cancelled) :
    MovesAt (writes K) (saveNextGoverned env record fields kind) w := by
  refine MovesAt.bind_reads (reads_checked _) fun updated hu => ?_
  have created := GovernedAction.create_eq_ok (checked_eq_ok.mp hu).1
  have intent : updated.intent = record.intent :=
    (congrArg GovernedFields.intent created).trans sameIntent
  have kept : keepsClaim record updated := by
    refine ⟨(congrArg GovernedFields.invocationId created).trans claim, fun claimed => ?_⟩
    exact ⟨(congrArg GovernedFields.decisions created).trans (frozen claimed).1,
      (congrArg GovernedFields.cancelled created).trans (frozen claimed).2⟩
  exact MovesAt.bind (movesAt_saveGoverned_review present kept intent) fun _ w' _ =>
    ((moves_governanceEvent env updated kind _).bind fun _ => Moves.pure _) w'

/-- The claim of a record. -/
theorem moves_claim [Allows K .claim] [Allows K .audit] (env : Env) (record : GovernedAction)
    (invocation : ToolInvocation) : Moves (writes K) (claim env record invocation) :=
  (idle_allowed env record).moves.bind fun _ => (Moves.raiseIf _ _).bind fun _ =>
    (reads_checked _).moves.bind fun updated => (moves_saveGoverned_claim updated _).bind fun _ =>
    (moves_governanceEvent env updated _ _).bind fun _ => Moves.pure _

/-- A read record is the stored one, under its own intent. -/
theorem present_of_read {workspace : WorkspaceId} {intentId : ActionIntentId}
    {record : GovernedAction} {w w' : World RuntimeStore}
    (h : governedAction workspace intentId w = .ok record w') :
    w.store.governed.get? record.intent.id = some record := by
  have h := getStore_then h
  obtain ⟨stored, found, h⟩ := need_then h
  obtain ⟨-, h⟩ := raiseIf_then h
  obtain ⟨rfl, -⟩ := pure_eq_ok.mp h
  have key : GovernedAction.key stored = intentId := Registry.key_of_get? found
  exact (congrArg w.store.governed.get? key).trans found

theorem moves_decide [Allows K .review] [Allows K .audit] (env : Env) (workspace : WorkspaceId)
    (intentId : ActionIntentId) (digest : PyStr) (reviewer : ReviewerPrincipal)
    (kind : DecisionKind) (reason : PyStr) :
    Moves (writes K) (decide env workspace intentId digest reviewer kind reason) := by
  refine Moves.atomic fun w => MovesAt.bind_reads (reads_governedAction _ _) fun record hr => ?_
  refine MovesAt.bind_reads (reads_approvalPolicy _) fun current _ =>
    MovesAt.bind_reads (Reads.need _ _) fun policy _ =>
    MovesAt.bind_reads (Reads.raiseIf _ _) fun _ _ =>
    MovesAt.bind_idle (moves_now env) fun at' w₁ _ same₁ =>
    MovesAt.bind_reads (Reads.raiseIf _ _) fun _ ok =>
    MovesAt.bind_idle (moves_now env) fun decidedAt w₂ _ same₂ =>
    MovesAt.bind_reads (reads_checked _) fun decision _ => ?_
  have unclaimed : record.invocationId = none := by
    have available := (raiseIf_eq_ok.mp ok).1
    simp only [decisionUnavailable, not_or, not_not] at available
    exact available.2.2.2.2.1
  have present : w₂.store.governed.get? record.intent.id = some record := by
    rw [same₂, same₁]
    exact present_of_read hr
  exact movesAt_saveNext present rfl rfl fun claimed => absurd unclaimed claimed

theorem moves_cancelIntent [Allows K .review] [Allows K .audit] (env : Env)
    (workspace : WorkspaceId) (intentId : ActionIntentId) :
    Moves (writes K) (cancelIntent env workspace intentId) := by
  refine Moves.atomic fun w => MovesAt.bind_reads (reads_governedAction _ _) fun record hr =>
    MovesAt.bind_reads (Reads.raiseIf _ _) fun _ ok => ?_
  have unclaimed : record.invocationId = none := by
    have open' := (raiseIf_eq_ok.mp ok).1
    simp only [not_or, not_not] at open'
    exact open'.2
  exact movesAt_saveNext (present_of_read hr) rfl rfl fun claimed => absurd unclaimed claimed

theorem moves_expire [Allows K .review] [Allows K .audit] (env : Env) (workspace : WorkspaceId)
    (intentId : ActionIntentId) : Moves (writes K) (expire env workspace intentId) := by
  refine Moves.atomic fun w => MovesAt.bind_reads (reads_governedAction _ _) fun record hr =>
    MovesAt.bind_idle (moves_now env) fun at' w₁ _ same₁ => ?_
  split
  · next due =>
      refine MovesAt.bind_idle (moves_now env) fun expiredAt w₂ _ same₂ =>
        MovesAt.bind_reads (reads_checked _) fun decision _ => ?_
      have present : w₂.store.governed.get? record.intent.id = some record := by
        rw [same₂, same₁]
        exact present_of_read hr
      exact movesAt_saveNext present rfl rfl fun claimed => absurd due.2.2.1 claimed
  · exact Moves.pure _ _

/-- The records that `governed_actions` lists are stored under their own intents. -/
theorem present_of_listed {workspace : WorkspaceId} {records : List GovernedAction}
    {record : GovernedAction} {w w' : World RuntimeStore}
    (h : governedActions workspace w = .ok records w') (mem : record ∈ records) :
    w.store.governed.get? record.intent.id = some record := by
  obtain ⟨_, -, h⟩ := (reads_getWorkspace workspace).then h
  have h := getStore_then h
  obtain ⟨rfl, -⟩ := pure_eq_ok.mp h
  exact Registry.get?_of_mem_values (List.mem_of_mem_filter mem)

theorem moves_consumed [Allows K .review] [Allows K .audit] (env : Env)
    (invocation : ToolInvocation) : Moves (writes K) (consumed env invocation) := by
  intro w
  refine MovesAt.bind_reads (reads_governedActions _) fun records hr => ?_
  split
  · exact Moves.pure () w
  · next record found =>
      split
      · refine MovesAt.bind
          (movesAt_saveNext (present_of_listed hr (List.mem_of_find?_eq_some found)) rfl rfl
            fun _ => ⟨rfl, rfl⟩) fun _ w' _ => Moves.pure () w'
      · exact Moves.pure () w

theorem moves_consumeIfGoverned [Allows K .review] [Allows K .audit] (env : Env) (host : Host)
    (invocation : ToolInvocation) : Moves (writes K) (consumeIfGoverned env host invocation) :=
  Moves.runIf fun _ => moves_consumed env invocation

/-! ## Tool calls -/

theorem moves_command (k : Kind) [a : Allows K k] {α : Type} {m : DomainTxn α} (env : Env)
    (command : Command) (kind : commandKind command = k) (same : command.issue env = discard m) :
    Moves (writes K) (inDomain m) :=
  moves_inDomain (kind ▸ a.mem) (Moves.of_discard (same ▸ moves_served env command))

theorem moves_observe [Allows K .audit] [Allows K .run] (env : Env) (run : AgentRun)
    (action : Action) (data : ToolObservationData) :
    Moves (writes K) (observe env run action data) :=
  (moves_fresh env .observation).bind fun _ => (reads_checked _).moves.bind fun _ =>
    (moves_appendObservation _).bind fun _ => (moves_now env).bind fun _ =>
    (reads_checked _).moves.bind fun _ => (moves_saveRun _ _ _).bind fun _ =>
    (moves_runEvent _ _ _ _).bind fun _ => Moves.pure _

theorem moves_approvalTransition [Allows K .run] (env : Env) (run : AgentRun)
    (status : AgentRunStatus) : Moves (writes K) (approvalTransition env run status) :=
  (moves_now env).bind fun _ => (reads_checked _).moves.bind fun _ =>
    (moves_fresh env .stateTransition).bind fun _ => (moves_now env).bind fun _ =>
    (reads_checked _).moves.bind fun _ => (moves_saveRun _ _ _).bind fun _ => Moves.pure _

theorem moves_approvalWait [Allows K .domain] [Allows K .run] (env : Env) (run : AgentRun) :
    Moves (writes K) (approvalWait env run) :=
  (reads_entity Execution _).moves.bind fun execution =>
    (moves_command .domain env (.waitExecution execution.id execution.version) rfl rfl).bind
      fun _ => moves_approvalTransition env run _

theorem moves_refuseViolation {G : Guarantee RuntimeStore} {α : Type} (e : Exc) :
    Moves G (refuseViolation e : RuntimeTxn α) := by
  unfold refuseViolation
  split
  · exact Moves.raise _
  · exact Moves.raise _

section Authorize

variable [Allows K .prepare] [Allows K .audit] [Allows K .domain] [Allows K .run]

theorem moves_reviewMessage (platform : Platform) (host : Host) (run : AgentRun) (action : Action)
    (resolved : ResolvedTool) (request : ToolInput) :
    Moves (writes K) (reviewMessage platform host run action resolved request) := by
  refine (Moves.raiseIf _ _).bind fun _ =>
    (Moves.catching (moves_prepare platform host run action _ _) moves_refuseViolation).bind
      fun governed => ?_
  split
  · exact (moves_governanceEvent _ _ _ _).bind fun _ => Moves.raise _
  · refine (idle_allowed _ _).moves.bind fun executable => ?_
    split
    · exact Moves.pure _
    · exact (moves_approvalWait _ run).bind fun _ => Moves.pure _

theorem moves_authorizeTool (platform : Platform) (host : Host) (run : AgentRun) (action : Action)
    (toolId : ToolId) (argumentsJson : PyStr) (grant : Option ToolGrant) :
    Moves (writes K) (authorizeTool platform host run action toolId argumentsJson grant) := by
  cases grant with
  | none => exact Moves.getStore.bind fun _ => Moves.raise _
  | some grant =>
      refine (reads_resolve host _ _).moves.bind fun resolved =>
        (reads_validated _).moves.bind fun request => ?_
      split
      · exact moves_reviewMessage platform host run action resolved request
      · exact (Moves.raiseIf _ _).bind fun _ => Moves.pure _

theorem moves_toolRefusal {G : Guarantee RuntimeStore} (e : Exc) : Moves G (toolRefusal e) := by
  unfold toolRefusal
  split
  · exact Moves.pure _
  · exact Moves.raise _

end Authorize

theorem moves_refused [Allows K .audit] [Allows K .run] (platform : Platform) (run : AgentRun)
    (action : Action) (toolId : ToolId) (code : ToolError) (grant : Option ToolGrant) :
    Moves (writes K) (do
      toolEvent platform.toEnv run .toolRequestRejected
        [("action_id", action.id.value), ("tool_id", toolId.value), ("error_code", code.value)]
      let data ← checked (ToolObservationData.create
        ⟨none, toolId, grant.map ToolGrant.version, some code, [], []⟩)
      let observed ← observe platform.toEnv run action data
      pure (ClaimResult.returned observed)) :=
  (moves_runEvent _ _ _ _).bind fun _ => (reads_checked _).moves.bind fun _ =>
    (moves_observe _ _ _ _).bind fun _ => Moves.pure _

section Dispatching

variable [Allows K .prepare] [Allows K .audit] [Allows K .domain] [Allows K .run]
  [Allows K .invocation] [Allows K .claim]

omit [Allows K .prepare] [Allows K .domain] [Allows K .run] [Allows K .invocation] in
theorem moves_claimGoverned (env : Env) (host : Host) (governed : Option GovernedAction)
    (invocation : ToolInvocation) :
    Moves (writes K) (claimGoverned env host governed invocation) := by
  cases governed with
  | none => exact Moves.pure _
  | some record => exact Moves.runIf fun _ => (moves_claim env record invocation).discard

omit [Allows K .prepare] [Allows K .domain] in
theorem moves_claimDispatch (platform : Platform) (host : Host) (run : AgentRun) (action : Action)
    (toolId : ToolId) (invocations : List ToolInvocation) (parents : List Version)
    (resolved : ResolvedTool) (request : ToolInput) (governed : Option GovernedAction) :
    Moves (writes K) (claimDispatch platform host run action toolId invocations parents resolved
      request governed) :=
  (Moves.raiseIf _ _).bind fun _ =>
    (Moves.runIf fun _ => (reads_requireConsequentialDispatch _ _).moves).bind fun _ =>
    (moves_now _).bind fun _ => (reads_checked _).moves.bind fun _ =>
    (moves_saveRun _ _ _).bind fun _ => (moves_fresh _ _).bind fun _ =>
    (Moves.ofExcept _).bind fun _ => (moves_now _).bind fun _ =>
    (reads_checked _).moves.bind fun _ => (moves_addToolInvocation _).bind fun _ =>
    (moves_claimGoverned _ host governed _).bind fun _ => (moves_runEvent _ _ _ _).bind fun _ =>
    Moves.pure _

theorem moves_invokeFresh (platform : Platform) (host : Host) (run : AgentRun) (action : Action)
    (toolId : ToolId) (argumentsJson : PyStr) (invocations : List ToolInvocation)
    (expectedVersion : Version) :
    Moves (writes K) (invokeFresh platform host run action toolId argumentsJson invocations
      expectedVersion) := by
  refine (Moves.raiseIf _ _).bind fun _ => (Moves.raiseIf _ _).bind fun _ =>
    (Moves.raiseIf _ _).bind fun _ => (reads_toolParents run).moves.bind fun _ =>
    (moves_now _).bind fun _ => (Moves.raiseIf _ _).bind fun _ =>
    (Moves.catching (moves_authorizeTool platform host run action toolId _ _)
      moves_toolRefusal).bind fun verdict => ?_
  cases verdict with
  | refused code => exact moves_refused platform run action toolId code _
  | waiting waiting => exact Moves.pure _
  | granted resolved request governed => exact moves_claimDispatch _ _ _ _ _ _ _ _ _ _

theorem moves_invokeClaim (platform : Platform) (host : Host) (workspaceId : WorkspaceId)
    (runId : AgentRunId) (action : Action) (expectedVersion : Version) :
    Moves (writes K) (invokeClaim platform host workspaceId runId action expectedVersion) := by
  refine Moves.atomic ((reads_getRun _ _).moves.bind fun run => ?_)
  cases action.decision with
  | callTool toolId argumentsJson =>
      refine (Moves.raiseIf _ _).bind fun _ => (reads_getAction _ _).moves.bind fun _ =>
        (Moves.raiseIf _ _).bind fun _ => (Moves.raiseIf _ _).bind fun _ =>
        (reads_toolInvocations _ _).moves.bind fun _ => ?_
      split
      · exact (Moves.raiseIf _ _).bind fun _ => (Moves.raiseIf _ _).bind fun _ => Moves.pure _
      · exact moves_invokeFresh _ _ _ _ _ _ _ _
  | completeTask findings gaps => exact Moves.raise _
  | requestMoreContext missing => exact Moves.raise _
  | respond message => exact Moves.raise _

end Dispatching

theorem moves_storeReceipt [Allows K .receipt] [Allows K .review] [Allows K .audit]
    (platform : Platform) (host : Host) (run : AgentRun) (invocation : ToolInvocation)
    (output : Option ToolOutput) (error : Option ToolError) (inputBytes outputBytes : Nat) :
    Moves (writes K)
      (storeReceipt platform host run invocation output error inputBytes outputBytes) :=
  (moves_now _).bind fun _ => (reads_checked _).moves.bind fun _ =>
    (moves_fresh _ .toolReceipt).bind fun _ => (reads_checked _).moves.bind fun _ =>
    (moves_finishToolInvocation _).bind fun _ => (moves_consumeIfGoverned _ host _).bind fun _ =>
    (moves_now _).bind fun _ => (moves_runEvent _ _ _ _).bind fun _ => Moves.pure _

theorem moves_reconcileReply [Allows K .receipt] [Allows K .review] [Allows K .audit]
    [Allows K .run] (platform : Platform) (host : Host) (invocation : ToolInvocation)
    (action : Action) (output : Option ToolOutput) (error : Option ToolError)
    (inputBytes outputBytes : Nat) :
    Moves (writes K)
      (reconcileReply platform host invocation action output error inputBytes outputBytes) := by
  refine Moves.atomic ((reads_getRun _ _).moves.bind fun run =>
    (idle_judgeReply _ host run invocation error).moves.bind fun judged =>
    (moves_storeReceipt platform host run invocation _ _ _ _).bind fun receipt => ?_)
  split
  · exact Moves.pure _
  · exact (idle_observationOf receipt).moves.bind fun _ => moves_observe _ _ _ _

theorem moves_applyReceipt [Allows K .audit] [Allows K .run] (env : Env) (run : AgentRun)
    (receipt : ToolReceipt) : Moves (writes K) (applyReceipt env run receipt) :=
  (reads_getAction _ _).moves.bind fun _ => (idle_observationOf receipt).moves.bind fun _ =>
    (moves_observe env run _ _).bind fun _ => (moves_runEvent _ _ _ _).bind fun _ => Moves.pure _

theorem moves_reconcileReceipt [Allows K .review] [Allows K .audit] [Allows K .run]
    (platform : Platform) (host : Host) (receipt : ToolReceipt) :
    Moves (writes K) (reconcileReceipt platform host receipt) := by
  refine Moves.atomic ((reads_getRun _ _).moves.bind fun run =>
    (reads_toolReceipts _ _).moves.bind fun _ => (Moves.raiseIf _ _).bind fun _ =>
    (moves_consumeIfGoverned _ host _).bind fun _ => ?_)
  split
  · exact Moves.pure _
  · refine (moves_now _).bind fun _ => ?_
    split
    · exact Moves.pure _
    · refine (Moves.catching (idle_receiptApplies host run _).moves moves_receiptFailure).bind
        fun applies => ?_
      split
      · exact moves_applyReceipt _ run receipt
      · exact Moves.pure _

theorem moves_resumeDenied [Allows K .audit] (env : Env) (record : GovernedAction) (e : Exc) :
    Moves (writes K) (resumeDenied env record e) := by
  unfold resumeDenied
  split
  · exact (moves_governanceEvent _ _ _ _).bind fun _ => Moves.pure _
  · exact (moves_governanceEvent _ _ _ _).bind fun _ => Moves.pure _
  · exact Moves.raise _

theorem moves_resumeOpen [Allows K .domain] [Allows K .run] [Allows K .audit]
    (platform : Platform) (host : Host) (workspaceId : WorkspaceId) (runId : AgentRunId)
    (intentId : ActionIntentId) (expectedVersion : Version) :
    Moves (writes K) (resumeOpen platform host workspaceId runId intentId expectedVersion) := by
  refine Moves.atomic ((reads_governedAction _ _).moves.bind fun record =>
    (reads_getRun _ _).moves.bind fun run => (Moves.raiseIf _ _).bind fun _ =>
    (reads_getAction _ _).moves.bind fun action =>
    (Moves.catching ((idle_resumeChecks platform host record run action _).moves.bind
      fun _ => Moves.pure _) (moves_resumeDenied _ record)).bind fun checked => ?_)
  cases checked with
  | none => exact Moves.pure _
  | some execution =>
      exact (moves_command .domain platform.toEnv (.resumeExecution execution.id execution.version)
        rfl rfl).bind fun _ =>
        (moves_approvalTransition _ run _).bind fun _ => Moves.pure _

theorem moves_resumeRestore [Allows K .domain] [Allows K .run] (platform : Platform)
    (workspaceId : WorkspaceId) (runId : AgentRunId) (intentId : ActionIntentId)
    (resumedVersion : Version) :
    Moves (writes K) (resumeRestore platform workspaceId runId intentId resumedVersion) :=
  Moves.atomic ((reads_getRun _ _).moves.bind fun latest =>
    (reads_governedAction _ _).moves.bind fun _ =>
    Moves.runIf fun _ => (moves_approvalWait _ latest).discard)

/-! ## Driving -/

theorem moves_saveEvolved [Allows K .run] [Allows K .audit] (env : Env)
    (previous updated : AgentRun) (kind : EventType) :
    Moves (writes K) (saveEvolved env previous updated kind) := by
  refine Moves.bind ?_ fun _ => (moves_saveRun _ _ _).bind fun _ => moves_runEvent _ _ _ _
  unfold statusTransition
  split
  · exact (moves_fresh env _).bind fun _ => (moves_now env).bind fun _ =>
      (reads_checked _).moves.bind fun _ => Moves.pure _
  · exact Moves.pure _

theorem moves_startRun [Allows K .start] [Allows K .audit] (env : Env) (host : Host)
    (c : StartCommand) : Moves (writes K) (startRun env host c) :=
  Moves.atomic ((reads_getDefinition _ _ _).moves.bind fun _ =>
    (reads_entity TaskAttempt _).moves.bind fun _ => (reads_entity Task _).moves.bind fun _ =>
    (Moves.raiseIf _ _).bind fun _ => (moves_fresh env _).bind fun _ =>
    (moves_now env).bind fun _ => (moves_now env).bind fun _ =>
    (reads_checked _).moves.bind fun _ => (reads_runParents _ _).moves.bind fun _ =>
    (moves_addRun _).bind fun _ => (moves_runEvent _ _ _ _).bind fun _ => Moves.pure _)

theorem moves_driveClaim [Allows K .run] [Allows K .audit] (platform : Platform) (host : Host)
    (ports : PortAnswers) (workspaceId : WorkspaceId) (runId : AgentRunId) :
    Moves (writes K) (driveClaim platform host ports workspaceId runId) :=
  Moves.atomic ((reads_getRun _ _).moves.bind fun run => (reads_runParents _ _).moves.bind fun _ =>
    (moves_beforeDeadline _ run).bind fun _ =>
    (reads_checkConfiguration host run).moves.bind fun _ => (moves_now _).bind fun _ =>
    (reads_checked _).moves.bind fun _ => (moves_saveEvolved _ _ _ _).bind fun _ =>
    (reads_assembleRequest _ _ _ _ _).moves.bind fun _ => (moves_now _).bind fun _ => Moves.pure _)

theorem moves_driveToolAction [Allows K .action] [Allows K .audit] (env : Env) (host : Host)
    (ports : PortAnswers) (workspaceId : WorkspaceId) (runId : AgentRunId)
    (iteration : ClaimedIteration) (decision : ModelDecision) :
    Moves (writes K) (driveToolAction env host ports workspaceId runId iteration decision) :=
  Moves.atomic ((idle_currentIteration env host ports _ _ _).moves.bind fun current =>
    (reads_runParents _ _).moves.bind fun _ => (Moves.raiseIf _ _).bind fun _ =>
    (reads_authorizeDecision current decision).moves.bind fun _ =>
    (Moves.raiseIf _ _).bind fun _ => (moves_fresh env _).bind fun _ =>
    (moves_appendAction _).bind fun _ => (moves_runEvent _ _ _ _).bind fun _ =>
    (moves_runEvent _ _ _ _).bind fun _ => Moves.pure _)

theorem moves_completeParents [Allows K .domain] [Allows K .succeed] (env : Env)
    (latest : RuntimeSnapshot) :
    Moves (writes K) (completeParents env latest) :=
  (moves_command .succeed env (.succeedTaskAttempt latest.attempt.id latest.attempt.version)
    rfl rfl).bind fun attempt =>
  (moves_command .domain env (.completeTask latest.task.id attempt.id latest.task.version)
    rfl rfl).bind fun _ =>
  Moves.getStore.bind fun _ => Moves.runIf fun _ =>
    (moves_command .domain env (.succeedExecution latest.execution.id latest.execution.version)
      rfl rfl).discard

theorem moves_decisionEffect [Allows K .domain] [Allows K .succeed] (env : Env) (host : Host)
    (current : AgentRun) (latest : RuntimeSnapshot) (decision : ModelDecision) :
    Moves (writes K) (decisionEffect env host current latest decision) := by
  cases decision with
  | completeTask findings gaps =>
      exact (reads_governedActions _).moves.bind fun _ =>
        (reads_toolReceipts _ _).moves.bind fun _ => (Moves.raiseIf _ _).bind fun _ =>
        (reads_toolEvidence host current).moves.bind fun _ =>
        (reads_knowledgeEvidence host current).moves.bind fun _ => (Moves.ofExcept _).bind fun _ =>
        (moves_completeParents env latest).bind fun _ => Moves.pure _
  | requestMoreContext missing =>
      exact (Moves.raiseIf _ _).bind fun _ => (moves_command .domain env
        (.waitExecution latest.execution.id latest.execution.version) rfl rfl).bind fun _ =>
        Moves.pure _
  | respond message => exact Moves.pure _
  | callTool toolId argumentsJson => exact Moves.pure _

theorem moves_recordDecision [Allows K .run] [Allows K .audit] (env : Env) (current : AgentRun)
    (action : Action) (effect : DecisionEffect) :
    Moves (writes K) (recordDecision env current action effect) :=
  (moves_fresh env _).bind fun _ => (reads_checked _).moves.bind fun _ =>
    (moves_appendObservation _).bind fun _ => (moves_now env).bind fun _ =>
    (reads_checked _).moves.bind fun _ => (moves_saveEvolved env _ _ _).bind fun _ =>
    (Moves.runIf fun _ => moves_runEvent _ _ _ _).bind fun _ =>
    (moves_runEvent _ _ _ _).bind fun _ => Moves.pure _

theorem moves_driveAction [Allows K .domain] [Allows K .succeed] [Allows K .action] [Allows K .run]
    [Allows K .audit] (platform : Platform) (host : Host) (ports : PortAnswers)
    (workspaceId : WorkspaceId) (runId : AgentRunId) (iteration : ClaimedIteration)
    (decision : ModelDecision) :
    Moves (writes K) (driveAction platform host ports workspaceId runId iteration decision) :=
  Moves.atomic ((idle_currentIteration _ host ports _ _ _).moves.bind fun current =>
    (reads_parentVersions current).moves.bind fun _ => (Moves.raiseIf _ _).bind fun _ =>
    (reads_runParents _ _).moves.bind fun _ => (moves_now _).bind fun _ =>
    (moves_runEvent _ _ _ _).bind fun _ => (moves_fresh _ _).bind fun _ =>
    (moves_appendAction _).bind fun _ => (moves_runEvent _ _ _ _).bind fun _ =>
    (reads_authorizeDecision current decision).moves.bind fun _ =>
    (moves_decisionEffect _ host current _ decision).bind fun _ =>
    moves_recordDecision _ current _ _)

section Fail

variable [Allows K .domain] [Allows K .run] [Allows K .audit]

omit [Allows K .run] [Allows K .audit] in
theorem moves_failParents (env : Env) (attempt : TaskAttempt) (task : Task)
    (execution : Execution) (code : PyStr) (cancelled : Bool) :
    Moves (writes K) (failParents env attempt task execution code cancelled) := by
  refine (Moves.runIf fun _ => Moves.discard ?_).bind fun _ =>
    (Moves.runIf fun _ => Moves.discard ?_).bind fun _ =>
    Moves.runIf fun _ => Moves.discard ?_
  · split
    · exact moves_command .domain env (.cancelTaskAttempt attempt.id attempt.version) rfl rfl
    · exact moves_command .domain env (.failTaskAttempt attempt.id attempt.version code) rfl rfl
  · split
    · exact moves_command .domain env (.cancelTask task.id task.version) rfl rfl
    · exact moves_command .domain env (.readyTask task.id task.version) rfl rfl
  · split
    · exact moves_command .domain env (.cancelExecution execution.id execution.version) rfl rfl
    · exact moves_command .domain env (.failExecution execution.id execution.version code) rfl rfl

omit [Allows K .domain] in
theorem moves_failRun (env : Env) (run : AgentRun) (code : PyStr) (cancelled : Bool) :
    Moves (writes K) (failRun env run code cancelled) :=
  (moves_fresh env _).bind fun _ => (reads_checked _).moves.bind fun _ =>
    (moves_appendObservation _).bind fun _ => (moves_now env).bind fun _ =>
    (reads_checked _).moves.bind fun _ => (moves_saveEvolved env _ _ _).bind fun _ =>
    (moves_runEvent _ _ _ _).bind fun _ => (moves_runEvent _ _ _ _).bind fun _ => Moves.pure _

theorem moves_failure (env : Env) (workspaceId : WorkspaceId) (runId : AgentRunId) (code : PyStr)
    (cancelled : Bool) : Moves (writes K) (failure env workspaceId runId code cancelled) := by
  refine Moves.atomic ((reads_getRun _ _).moves.bind fun run => ?_)
  split
  · exact Moves.pure _
  · exact (reads_entity TaskAttempt _).moves.bind fun attempt =>
      (reads_entity Execution _).moves.bind fun execution =>
      (reads_entity Task _).moves.bind fun task =>
      (moves_failParents env attempt task execution code _).bind fun _ =>
      moves_failRun env run code _

theorem moves_resumeWith (env : Env) (run : AgentRun) (context : SuppliedContext) :
    Moves (writes K) (resumeWith env run context) :=
  (Moves.raiseIf _ _).bind fun _ => (moves_now env).bind fun _ =>
    (reads_checked _).moves.bind fun _ => (reads_runParents _ _).moves.bind fun snapshot =>
    (moves_command .domain env (.resumeExecution snapshot.execution.id snapshot.execution.version)
      rfl rfl).bind fun _ =>
    (moves_fresh env _).bind fun _ => (reads_checked _).moves.bind fun _ =>
    (moves_appendObservation _).bind fun _ => (moves_now env).bind fun _ =>
    (reads_checked _).moves.bind fun _ => (moves_saveEvolved env _ _ _).bind fun _ =>
    (moves_runEvent _ _ _ _).bind fun _ => Moves.pure _

theorem moves_resumeRun (env : Env) (workspaceId : WorkspaceId) (runId : AgentRunId)
    (expectedVersion : Version) (context : SuppliedContext) :
    Moves (writes K) (resumeRun env workspaceId runId expectedVersion context) := by
  refine Moves.atomic ((reads_getRun _ _).moves.bind fun run => (Moves.raiseIf _ _).bind fun _ =>
    (Moves.raiseIf _ _).bind fun _ => (Moves.raiseIf _ _).bind fun _ =>
      (moves_now env).bind fun _ => ?_)
  split
  · exact moves_failure env _ _ _ _
  · exact moves_resumeWith env run context

theorem moves_cancelRun (env : Env) (workspaceId : WorkspaceId) (runId : AgentRunId)
    (expectedVersion : Version) :
    Moves (writes K) (cancelRun env workspaceId runId expectedVersion) :=
  Moves.atomic ((reads_getRun _ _).moves.bind fun _ => (Moves.raiseIf _ _).bind fun _ =>
    (Moves.raiseIf _ _).bind fun _ => moves_failure env _ _ _ _)

theorem moves_yieldForHandoff (env : Env) (workspaceId : WorkspaceId) (runId : AgentRunId)
    (expectedVersion : Version) :
    Moves (writes K) (yieldForHandoff env workspaceId runId expectedVersion) :=
  (reads_getRun _ _).moves.bind fun _ => (Moves.raiseIf _ _).bind fun _ =>
    (Moves.raiseIf _ _).bind fun _ => moves_failure env _ _ _ _

theorem moves_failingTxn (env : Env) (workspaceId : WorkspaceId) (runId : AgentRunId)
    (code : FailureCode) (cancelled : Bool) :
    Moves (writes K) (failingTxn env workspaceId runId code cancelled) := by
  cases code with
  | text code => exact moves_failure env _ _ _ _
  | timedOut deadline => exact (moves_now env).bind fun _ => moves_failure env _ _ _ _

end Fail

/-! ## Recovery -/

section Recover

variable [Allows K .review] [Allows K .audit] [Allows K .run]

omit [Allows K .review] [Allows K .audit] [Allows K .run] in
theorem moves_receiptReason (env : Env) (run : AgentRun) (receipt : ToolReceipt) :
    Moves (writes K) (receiptReason env run receipt) := by
  unfold receiptReason
  split
  · exact Moves.pure _
  · split
    · exact Moves.pure _
    · refine (reads_entity Execution _).moves.bind fun execution => ?_
      split
      · exact Moves.pure _
      · exact (moves_now env).bind fun _ => Moves.pure _

theorem moves_repairReceipt (platform : Platform) (host : Host) (receipt : ToolReceipt) :
    Moves (writes K) (repairReceipt platform host receipt) :=
  (moves_reconcileReceipt platform host receipt).bind fun run =>
    (moves_receiptReason _ run receipt).bind fun _ => Moves.pure _

theorem moves_recoverOpen (platform : Platform) (host : Host) (workspaceId : WorkspaceId)
    (runId : AgentRunId) (invocationId : ToolInvocationId) (connector : Connector) :
    Moves (writes K)
      (recoverOpen platform host workspaceId runId invocationId connector) := by
  refine Moves.atomic ((reads_findRecovery _ _ _).moves.bind fun found =>
    (Moves.need _ _).bind fun invocation => ?_)
  split
  · exact (moves_repairReceipt platform host _).bind fun _ => Moves.pure _
  · refine (moves_runEvent _ _ _ _).bind fun _ => ?_
    cases connector with
    | withoutLookup => exact Moves.pure _
    | fixture unknown => exact Moves.pure _

variable [Allows K .receipt]

omit [Allows K .run] in
theorem moves_recoverReceipt (platform : Platform) (host : Host) (run : AgentRun)
    (invocation : ToolInvocation) (lookup : RemoteLookup) :
    Moves (writes K) (recoverReceipt platform host run invocation lookup) :=
  (reads_validated _).moves.bind fun _ => (moves_fresh _ _).bind fun _ =>
    (moves_now _).bind fun _ => (reads_checked _).moves.bind fun _ =>
    (reads_checked _).moves.bind fun _ => (moves_finishToolInvocation _).bind fun _ =>
    (moves_consumeIfGoverned _ host _).bind fun _ => (moves_runEvent _ _ _ _).bind fun _ =>
    Moves.pure _

theorem moves_recoverApply (platform : Platform) (host : Host) (workspaceId : WorkspaceId)
    (runId : AgentRunId) (invocationId : ToolInvocationId) (invocation : ToolInvocation)
    (lookup : RemoteLookup) :
    Moves (writes K)
      (recoverApply platform host workspaceId runId invocationId invocation lookup) := by
  refine Moves.atomic ((reads_findRecovery _ _ _).moves.bind fun found =>
    (Moves.need _ _).bind fun current => ?_)
  split
  · exact (moves_repairReceipt platform host _).bind fun _ => Moves.pure _
  · refine (Moves.raiseIf _ _).bind fun _ => (moves_runEvent _ _ _ _).bind fun _ => ?_
    split
    · exact Moves.pure _
    · exact (moves_recoverReceipt platform host _ invocation lookup).bind fun _ => Moves.pure _

end Recover

/-! ## Configuring -/

section Configure

/-- The records that configure a workspace, as the store has them. -/
def RuntimeStore.configuration (s : RuntimeStore) : Configuration :=
  ⟨s.definitions, s.tools, s.graphs, s.graphVersions, s.organizationEvents⟩

variable [a : Allows K .config]

theorem moves_configure {f : RuntimeStore → RuntimeStore} (c : RuntimeStore → Configuration)
    (same : ∀ s, f s = s.configure (c s)) (tools : ∀ s, (c s).tools = s.tools := by
      exact fun _ => rfl) : Moves (writes K) (modifyStore f : RuntimeTxn Unit) := fun w =>
  movesAt_write (by
    rw [same]
    exact .config a.mem w.store (c w.store) (tools w.store ▸ sameTools_refl _))

theorem sameTools_put {tools : Registry ToolRegistration.grant} {r : ToolRegistration}
    (h : ∀ old, tools.get? r.grant = some old → r.toolVersion = old.toolVersion) :
    SameTools tools (tools.put r) :=
  Registry.Evolves.put (R := ToolRegistration.Kept) (fun _ => rfl) h

theorem moves_publishTool (version : ToolVersion) : Moves (writes K) (publishTool version) := by
  intro w
  refine MovesAt.atomic (MovesAt.bind_reads (reads_getWorkspace _) fun _ _ =>
    MovesAt.bind_reads Reads.getStore fun store read =>
    MovesAt.bind_reads (Reads.raiseIf _ _) fun _ new =>
    MovesAt.bind_reads (Reads.raiseIf _ _) fun _ _ => movesAt_write ?_)
  obtain ⟨rfl, -⟩ := getStore_eq_ok.mp read
  have absent : w.store.tools.get? version.grant = none :=
    Registry.contains_eq_false_iff.mp (Bool.eq_false_iff.mpr (raiseIf_eq_ok.mp new).1)
  refine .config a.mem w.store { w.store.configuration with tools := w.store.tools.put _ }
    (sameTools_put fun old found => ?_)
  cases absent.symm.trans found

/-- Switching registrations that are stored replaces no tool version. -/
theorem sameTools_switched (enabled : Bool) (rs : List ToolRegistration)
    (tools : Registry ToolRegistration.grant)
    (stored : ∀ r ∈ rs, ∃ old, tools.get? r.grant = some old ∧ old.toolVersion = r.toolVersion) :
    SameTools tools (rs.foldl (fun t r => t.put (r.switched enabled)) tools) := by
  induction rs generalizing tools with
  | nil => exact sameTools_refl _
  | cons r rest ih =>
      have first : SameTools tools (tools.put (r.switched enabled)) := by
        refine sameTools_put fun old found => ?_
        obtain ⟨other, present, same⟩ := stored r List.mem_cons_self
        obtain rfl := Option.some.inj (present.symm.trans found)
        exact same.symm
      refine Registry.Evolves.trans (R := ToolRegistration.Kept) (fun h h' => h'.trans h) first
        (ih _ fun r' mem => ?_)
      obtain ⟨old, found, same⟩ := stored r' (List.mem_cons_of_mem _ mem)
      obtain ⟨later, found, kept⟩ := first.later found
      exact ⟨later, found, kept.trans same⟩

theorem switched_configure (enabled : Bool) (rs : List ToolRegistration) (s : RuntimeStore) :
    rs.foldl (fun t r => { t with tools := t.tools.put (r.switched enabled) }) s =
      s.configure { s.configuration with
        tools := rs.foldl (fun t r => t.put (r.switched enabled)) s.tools } := by
  induction rs generalizing s with
  | nil => rfl
  | cons r rest ih => exact ih _

theorem moves_setToolEnabled (workspaceId : WorkspaceId) (toolId : ToolId) (enabled : Bool) :
    Moves (writes K) (setToolEnabled workspaceId toolId enabled) := by
  intro w
  refine MovesAt.atomic (MovesAt.bind_reads Reads.getStore fun store read =>
    MovesAt.bind_reads (Reads.raiseIf _ _) fun _ _ => ?_)
  obtain ⟨rfl, -⟩ := getStore_eq_ok.mp read
  unfold MovesAt
  rw [forEach_modifyStore, switched_configure]
  refine ⟨.refl _, .single (.config a.mem w.store _ (sameTools_switched enabled _ _ ?_))⟩
  intro r mem
  exact ⟨r, Registry.get?_of_mem_values (List.mem_of_mem_filter mem), rfl⟩

theorem moves_organizationEvent (env : Env) (version : OrganizationGraphVersion)
    (kind : EventType) : Moves (writes K) (organizationEvent env version kind) :=
  (moves_fresh env _).bind fun _ => (moves_now env).bind fun _ =>
    (reads_checked _).moves.bind fun _ => (reads_checked _).moves.bind fun event =>
    (reads_getGraph _).moves.bind fun _ => Moves.getStore.bind fun _ =>
    (Moves.raiseIf _ _).bind fun _ =>
    moves_configure (fun s =>
      { s.configuration with organizationEvents := s.organizationEvents ++ [event] }) fun _ => rfl

theorem moves_saveGraph (graph : OrganizationGraph) (expected : Version) :
    Moves (writes K) (saveGraph graph expected) := by
  refine (reads_getGraph _).moves.bind fun _ => (Moves.raiseIf _ _).bind fun _ =>
    (Moves.raiseIf _ _).bind fun _ => Moves.bind ?_ fun _ =>
    moves_configure (fun s => { s.configuration with graphs := s.graphs.put graph }) fun _ => rfl
  unfold checkActiveVersion
  split
  · exact Moves.pure _
  · exact (reads_getGraphVersion _ _).moves.discard

theorem moves_createGraph (env : Env) (workspaceId : WorkspaceId) (name : Text) :
    Moves (writes K) (createGraph env workspaceId name) :=
  (Moves.raiseIf _ _).bind fun _ => (moves_fresh env _).bind fun _ =>
    (Moves.atomic ((reads_getWorkspace _).moves.bind fun _ => Moves.getStore.bind fun _ =>
      (Moves.raiseIf _ _).bind fun _ =>
      moves_configure (fun s => { s.configuration with graphs := s.graphs.put _ })
        fun _ => rfl)).bind fun _ => Moves.pure _

theorem moves_addGraphVersion (version : OrganizationGraphVersion) :
    Moves (writes K) (addGraphVersion version) :=
  (reads_getGraph _).moves.bind fun _ => Moves.getStore.bind fun _ =>
    (Moves.raiseIf _ _).bind fun _ =>
    (reads_forEach fun _ => (reads_getDefinition _ _ _).bind fun _ => Reads.pure ()).moves.bind
    fun _ => moves_configure
      (fun s => { s.configuration with graphVersions := s.graphVersions.put version }) fun _ => rfl

theorem moves_publishGraph (env : Env) (draft : OrganizationGraphVersion) (expected : Version) :
    Moves (writes K) (publishGraph env draft expected) :=
  Moves.atomic ((reads_getGraph _).moves.bind fun _ => (Moves.raiseIf _ _).bind fun _ =>
    (reads_checked _).moves.bind fun _ => (reads_validateDefinitions draft).moves.bind fun _ =>
    (moves_addGraphVersion draft).bind fun _ => (moves_saveGraph _ _).bind fun _ =>
    (moves_organizationEvent env _ _).bind fun _ => Moves.pure _)

theorem moves_activateGraph (env : Env) (workspaceId : WorkspaceId) (version expected : Version) :
    Moves (writes K) (activateGraph env workspaceId version expected) :=
  Moves.atomic ((reads_getGraph _).moves.bind fun _ =>
    (reads_getGraphVersion _ _).moves.bind fun _ => (reads_checked _).moves.bind fun _ =>
    (reads_validateDefinitions _).moves.bind fun _ => (moves_saveGraph _ _).bind fun _ =>
    (moves_organizationEvent env _ _).bind fun _ => Moves.pure _)

end Configure

/-! ## Retrieving -/

section Retrieve

/-- The knowledge records of a store. -/
def RuntimeStore.knowledge (s : RuntimeStore) : KnowledgeRecords :=
  ⟨s.knowledgeSources, s.knowledgeVersions, s.knowledgeChunks, s.evidencePacks,
    s.knowledgeEvents⟩

theorem moves_inform [a : Allows K .knowledge] {f : RuntimeStore → RuntimeStore}
    (k : RuntimeStore → KnowledgeRecords) (same : ∀ s, f s = s.informed (k s)) :
    Moves (writes K) (modifyStore f : RuntimeTxn Unit) :=
  fun w => movesAt_write (by rw [same]; exact .knowledge a.mem w.store (k w.store))

theorem reads_checkPublished (source : KnowledgeSource) (expected : Option Version) :
    Reads (checkPublished source expected) := by
  refine Reads.getStore.bind fun store => ?_
  split
  · exact (reads_getSource _ _).bind fun _ => (Reads.raiseIf _ _).bind fun _ => Reads.raiseIf _ _
  · exact (Reads.raiseIf _ _).bind fun _ => Reads.raiseIf _ _

theorem reads_checkPublish (platform : Platform) (version : KnowledgeSourceVersion)
    (chunks : List KnowledgeChunk) (expected : Option Version) :
    Reads (checkPublish platform version chunks expected) :=
  (reads_getWorkspace _).bind fun _ => (reads_checkPublished _ _).bind fun _ =>
    Reads.getStore.bind fun _ => (Reads.raiseIf _ _).bind fun _ => (Reads.ofExcept _).bind fun _ =>
    Reads.raiseIf _ _

variable [Allows K .knowledge]

theorem moves_storePublished (platform : Platform) (version : KnowledgeSourceVersion)
    (chunks : List KnowledgeChunk) (expected : Option Version) :
    Moves (writes K) (storePublished platform version chunks expected) :=
  Moves.atomic ((reads_checkPublish _ _ _ _).moves.bind fun _ =>
    moves_inform (fun s => (s.published version chunks).knowledge) fun _ => rfl)

theorem moves_sourceEvent (env : Env) (source : KnowledgeSource) (kind : EventType)
    (metadata : List (String × PyStr)) : Moves (writes K) (sourceEvent env source kind metadata) :=
  (moves_fresh env _).bind fun _ => (moves_now env).bind fun _ =>
    (reads_checked _).moves.bind fun _ => (reads_checked _).moves.bind fun event =>
    (reads_getSource _ _).moves.bind fun _ => Moves.getStore.bind fun _ =>
    (Moves.raiseIf _ _).bind fun _ =>
    moves_inform (fun s => { s.knowledge with events := s.knowledgeEvents ++ [event] }) fun _ => rfl

theorem moves_publishContent (platform : Platform) (limits : IngestionLimits)
    (source : KnowledgeSource) (normalized : Except Exc NormalizedContent)
    (expected : Option Version) :
    Moves (writes K) (publishContent platform limits source normalized expected) :=
  (Moves.ofExcept _).bind fun _ => (Moves.ofExcept _).bind fun _ => (moves_now _).bind fun _ =>
    (reads_checked _).moves.bind fun _ => (Moves.ofExcept _).bind fun _ =>
    (moves_storePublished platform _ _ _).bind fun _ => moves_sourceEvent _ _ _ _

theorem moves_publishSource (platform : Platform) (limits : IngestionLimits)
    (command : PublishKnowledgeSource) :
    Moves (writes K) (publishSource platform limits command) :=
  Moves.atomic ((reads_getWorkspace _).moves.bind fun _ => (moves_fresh _ _).bind fun _ =>
    (moves_now _).bind fun _ => (reads_checked _).moves.bind fun _ =>
    (moves_publishContent platform limits _ _ _).bind fun _ => Moves.pure _)

theorem moves_publishSourceVersion (platform : Platform) (limits : IngestionLimits)
    (workspaceId : WorkspaceId) (sourceId : KnowledgeSourceId) (expected : Version)
    (normalized : Except Exc NormalizedContent) :
    Moves (writes K)
      (publishSourceVersion platform limits workspaceId sourceId expected normalized) :=
  Moves.atomic ((reads_getSource _ _).moves.bind fun _ =>
    (moves_publishContent platform limits _ _ _).bind fun _ => Moves.pure _)

theorem moves_disableSource (env : Env) (workspaceId : WorkspaceId)
    (sourceId : KnowledgeSourceId) (expected : Version) :
    Moves (writes K) (disableSource env workspaceId sourceId expected) := by
  refine Moves.atomic (Moves.bind (Moves.atomic ?_) fun source =>
    (moves_sourceEvent env source _ _).bind fun _ => Moves.pure _)
  exact (reads_getSource _ _).moves.bind fun _ => (Moves.raiseIf _ _).bind fun _ =>
    (Moves.raiseIf _ _).bind fun _ =>
    (moves_inform (fun s => { s.knowledge with sources := s.knowledgeSources.put _ })
      fun _ => rfl).bind fun _ => Moves.pure _

omit [Allows K .knowledge] in
theorem reads_checkPackCandidates (pack : EvidencePack) (d : AgentDefinitionVersion)
    (candidates : List EvidenceCandidate) : ∀ before,
    Reads (checkPackCandidates pack d before candidates) := by
  induction candidates with
  | nil => exact fun _ => Reads.pure _
  | cons candidate rest ih =>
      intro before
      exact (reads_getSource _ _).bind fun _ => (reads_getSourceVersion _ _ _).bind fun _ =>
        (Reads.raiseIf _ _).bind fun _ => (reads_getChunks _ _ _).bind fun _ =>
        (Reads.raiseIf _ _).bind fun _ => (Reads.raiseIf _ _).bind fun _ => ih _

omit [Allows K .knowledge] in
theorem reads_checkPack (platform : Platform) (pack : EvidencePack) :
    Reads (checkPack platform pack) :=
  (reads_getRun _ _).bind fun _ => Reads.getStore.bind fun _ => (Reads.raiseIf _ _).bind fun _ =>
    (reads_listPacks _ _).bind fun _ => (Reads.raiseIf _ _).bind fun _ =>
    (Reads.ofExcept _).bind fun _ => (Reads.raiseIf _ _).bind fun _ =>
    (Reads.raiseIf _ _).bind fun _ => reads_checkPackCandidates _ _ _ _

theorem moves_savePack (platform : Platform) (pack : EvidencePack) :
    Moves (writes K) (savePack platform pack) :=
  Moves.atomic ((reads_checkPack platform pack).moves.bind fun _ =>
    moves_inform (fun s => { s.knowledge with packs := s.evidencePacks.put pack }) fun _ => rfl)

omit [Allows K .knowledge] in
theorem reads_eligibleCandidates (workspaceId : WorkspaceId) (trust : List TrustClass)
    (sources : List KnowledgeSourceId) :
    Reads (eligibleCandidates workspaceId trust sources) := by
  induction sources with
  | nil => exact Reads.pure _
  | cons sourceId rest ih =>
      refine (reads_getSource _ _).bind fun source => ?_
      split
      · exact ih
      · exact (reads_getSourceVersion _ _ _).bind fun _ => (reads_getChunks _ _ _).bind fun _ =>
          ih.bind fun _ => Reads.pure _

theorem reads_knowledgeParents (run : AgentRun) : Reads (knowledgeParents run) :=
  (reads_entity Goal _).bind fun _ => (reads_entity Task _).bind fun _ =>
    (reads_entity TaskAttempt _).bind fun _ => (reads_entity Execution _).bind fun _ =>
    Reads.raiseIf _ _

theorem idle_checkRetrieval (env : Env) (run : AgentRun) (expected : Version)
    (query : KnowledgeQuery) : Idle (checkRetrieval env run expected query) :=
  (Moves.raiseIf _ _).bind fun _ => (Moves.raiseIf _ _).bind fun _ => (moves_now env).bind fun _ =>
    (Moves.raiseIf _ _).bind fun _ => (reads_knowledgeParents run).moves.bind fun _ =>
    (Moves.raiseIf _ _).bind fun _ => (reads_listPacks _ _).moves.bind fun _ => Moves.raiseIf _ _

theorem idle_packOf (platform : Platform) (run : AgentRun) (query : KnowledgeQuery)
    (result : RetrievalResult) : Idle (packOf platform run query result) :=
  (moves_now _).bind fun _ => (Moves.raiseIf _ _).bind fun _ => (moves_fresh _ _).bind fun _ =>
    (moves_now _).bind fun _ => (reads_checked _).moves.bind fun _ =>
    (Moves.ofExcept _).bind fun _ => (Moves.ofExcept _).bind fun _ =>
    (Moves.raiseIf _ _).bind fun _ => Moves.pure _

variable [Allows K .run] [Allows K .audit]

theorem moves_retrievePack (platform : Platform) (retriever : Retriever)
    (workspaceId : WorkspaceId) (runId : AgentRunId) (expected : Version)
    (query : KnowledgeQuery) :
    Moves (writes K) (retrievePack platform retriever workspaceId runId expected query) :=
  Moves.atomic ((reads_getRun _ _).moves.bind fun run =>
    (idle_checkRetrieval _ run _ _).moves.bind fun _ => (moves_now _).bind fun _ =>
    (reads_eligibleCandidates _ _ _).moves.bind fun _ => (Moves.ofExcept _).bind fun _ =>
    (Moves.ofExcept _).bind fun _ => (idle_packOf platform run _ _).moves.bind fun _ =>
    (moves_savePack platform _).bind fun _ => (moves_now _).bind fun _ =>
    (reads_checked _).moves.bind fun _ => (moves_saveRun _ _ _).bind fun _ =>
    (moves_now _).bind fun _ => (Moves.ofExcept _).bind fun _ =>
    (moves_runEvent _ _ _ _).bind fun _ => (moves_runEvent _ _ _ _).bind fun _ => Moves.pure _)

omit [Allows K .knowledge] [Allows K .run] in
theorem moves_rejectRetrieval (env : Env) (workspaceId : WorkspaceId) (runId : AgentRunId)
    (e : Exc) : Moves (writes K) (rejectRetrieval env workspaceId runId e) := by
  unfold rejectRetrieval
  split
  · exact (Moves.atomic ((reads_getRun _ _).moves.bind fun _ => moves_runEvent _ _ _ _)).bind
      fun _ => Moves.raise _
  · exact Moves.raise _

theorem moves_retrieveKnowledge (platform : Platform) (retriever : Retriever)
    (workspaceId : WorkspaceId) (runId : AgentRunId) (expected : Version)
    (query : KnowledgeQuery) :
    Moves (writes K) (retrieveKnowledge platform retriever workspaceId runId expected query) :=
  Moves.catching (moves_retrievePack platform retriever _ _ _ _)
    (moves_rejectRetrieval platform.toEnv _ _)

omit [Allows K .knowledge] in
theorem moves_retrieveMemory (env : Env) (answer : MemoryAnswer) (workspaceId : WorkspaceId)
    (runId : AgentRunId) (expected : Version) :
    Moves (writes K) (retrieveMemory env answer workspaceId runId expected) :=
  Moves.atomic ((reads_getRun _ _).moves.bind fun _ => (Moves.raiseIf _ _).bind fun _ =>
    (moves_now env).bind fun _ => (Moves.raiseIf _ _).bind fun _ =>
    (moves_fresh env _).bind fun _ => (Moves.ofExcept _).bind fun _ =>
    (reads_checked _).moves.bind fun _ => (moves_saveRun _ _ _).bind fun _ =>
    (moves_runEvent _ _ _ _).bind fun _ => moves_runEvent _ _ _ _)

end Retrieve

end AgentCompanyOS.Runtime
