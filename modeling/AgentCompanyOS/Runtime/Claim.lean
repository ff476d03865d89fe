import AgentCompanyOS.Runtime.Footprints

/-!
# The transaction that claims a tool call

`invokeClaim` is the only transaction that adds an invocation or claims a governed
record. A claim that dispatches is taken apart here once: `Dispatched` says what it has
found in the store and what it has changed, and `GovernedClaim` what it has found of the
governed record. Every other outcome of the transaction neither adds nor claims.
-/

set_option autoImplicit false

namespace AgentCompanyOS.Runtime

open Foundation Foundation.Txn Domain

/-! ## Writes that succeeded -/

/-- A checked write that succeeded: the check passed and the store has the change. -/
theorem checked_write_ok {f : RuntimeStore → RuntimeStore} {m : RuntimeTxn Unit} (reads : Reads m)
    {u : Unit} {w w' : World RuntimeStore}
    (h : atomic (m >>= fun _ => modifyStore f) w = .ok u w') :
    m w = .ok () w ∧ w' = { w with store := f w.store } :=
  checked_update_ok reads h

theorem saveRun_eq_ok {run : AgentRun} {expected : Version} {transition : Option StateTransition}
    {u : Unit} {w w' : World RuntimeStore} (h : saveRun run expected transition w = .ok u w') :
    (∃ previous, w.store.runs.get? run.id = some previous ∧ previous.version = expected ∧
      AgentRun.Evolved previous run (run.endedAt.getD run.createdAt) run.asChange) ∧
    w' = { w with store := { w.store with
      transitions := w.store.transitions ++ transition.toList
      runs := w.store.runs.put run } } := by
  obtain ⟨passed, same⟩ := checked_write_ok (reads_checkSaveRun run _ _) h
  exact ⟨checkSaveRun_eq_ok passed, same⟩

theorem addToolInvocation_eq_ok {i : ToolInvocation} {u : Unit} {w w' : World RuntimeStore}
    (h : addToolInvocation i w = .ok u w') :
    (∃ run action, w.store.runs.get? i.runId = some run ∧
      w.store.actions.get? i.actionId = some action ∧ newInvocation w.store run action i) ∧
    w' = { w with store :=
      { w.store with toolInvocations := w.store.toolInvocations.put i } } := by
  obtain ⟨passed, same⟩ := checked_write_ok (reads_checkInvocation i) h
  exact ⟨checkInvocation_eq_ok passed, same⟩

theorem saveGovernedAction_eq_ok {record : GovernedAction} {expected : Option Version} {u : Unit}
    {w w' : World RuntimeStore} (h : saveGovernedAction record expected w = .ok u w') :
    GovernedSavable w.store record expected ∧
    w' = { w with store := { w.store with governed := w.store.governed.put record } } := by
  obtain ⟨passed, same⟩ := checked_write_ok (reads_checkGoverned record expected) h
  exact ⟨checkGoverned_eq_ok passed, same⟩

/-- Events leave everything but the logs as it was. -/
theorem audit_frame {s s' : RuntimeStore} (h : Relation.ReflTransGen (Write [.audit]) s s') :
    ∃ a, s' = s.audited a := by
  induction h with
  | refl => exact ⟨⟨s.events, s.observations⟩, rfl⟩
  | tail _ write ih =>
      obtain ⟨a, rfl⟩ := ih
      cases write with
      | audit _ _ b => exact ⟨b, rfl⟩
      | domain command allowed => simpa using commandKind_mem allowed
      | _ allowed => simp at allowed

/-! ## Preparing a record -/

/-- A stored record that is about this call, under the policy in force. -/
structure Prepared (platform : Platform) (store : RuntimeStore) (run : AgentRun)
    (action : Action) (tool : ToolVersion) (request : ToolInput) (record : GovernedAction) :
    Prop where
  stored : store.governed.get? record.intent.id = some record
  workspace : record.intent.workspaceId = run.workspaceId
  call : sameCall record run action tool request
  digest : fingerprint platform run.workspaceId run.id action.id tool (inputJson request) =
    .ok record.intent.fingerprint
  policy : store.approvalPolicies.get? run.workspaceId = some record.intent.policy
  effect : record.intent.effect =
    record.intent.policy.evaluate run.definitionVersion.autonomyCeiling tool request.subject

theorem validate_eq_ok {platform : Platform} {host : Host} {record : GovernedAction}
    {run : AgentRun} {action : Action} {tool : ToolVersion} {request : ToolInput} {u : Unit}
    {w w' : World RuntimeStore}
    (h : validate platform host record run action tool request w = .ok u w') :
    Prepared platform w.store run action tool request record := by
  obtain ⟨stored, found, workspace, h⟩ := governedAction_then h
  obtain ⟨same, h⟩ := raiseIf_then h
  obtain ⟨digest, computed, h⟩ := (Reads.ofExcept _).then h
  obtain ⟨matching, h⟩ := raiseIf_then h
  have h := lookup_then (reads_getWorkspace _) h
  obtain ⟨authority, -⟩ := raiseIf_then h
  simp only [not_or, not_not] at same
  obtain ⟨rfl, call⟩ := same
  have computed := (ofExcept_eq_ok.mp computed).1
  rw [← not_not.mp matching] at computed
  obtain ⟨policy, -, -, effect⟩ := not_not.mp authority
  exact ⟨found, workspace, call, computed, policy.symm, effect⟩

theorem prepareNew_eq_ok {platform : Platform} {host : Host} {run : AgentRun} {action : Action}
    {tool : ToolVersion} {request : ToolInput} {record : GovernedAction}
    {w w' : World RuntimeStore}
    (h : prepareNew platform host run action tool request w = .ok record w') :
    Prepared platform w'.store run action tool request record := by
  have h := lookup_then (reads_getWorkspace _) h
  obtain ⟨policy, current, h⟩ := need_then h
  obtain ⟨_, w₁, -, checkedOrganization, h⟩ := (idle_organizationCheck _ host run).then h
  obtain ⟨at', w₂, -, clock, h⟩ := Idle.then (moves_now platform.toEnv) h
  obtain ⟨id, -, h⟩ := (reads_checked _).then h
  obtain ⟨digest, computed, h⟩ := (Reads.ofExcept _).then h
  obtain ⟨intent, created, h⟩ := (Reads.ofExcept _).then h
  obtain ⟨stored, made, h⟩ := (reads_checked _).then h
  obtain ⟨_, w₃, saved, h⟩ := bind_eq_ok.mp h
  obtain ⟨_, w₄, created', h⟩ := bind_eq_ok.mp h
  obtain ⟨_, w₅, requested, h⟩ := bind_eq_ok.mp h
  obtain ⟨rfl, rfl⟩ := pure_eq_ok.mp h
  obtain ⟨-, rfl⟩ := saveGovernedAction_eq_ok saved
  have intentEq := (ActionIntent.create_eq_ok (ofExcept_eq_ok.mp created).1).1
  have fields := GovernedAction.create_eq_ok (checked_eq_ok.mp made).1
  have intentOf : stored.intent = intent := congrArg GovernedFields.intent fields
  have computed := (ofExcept_eq_ok.mp computed).1
  -- Both events are audit writes, so the record is where it was saved.
  obtain ⟨a, logged⟩ := audit_frame ((moves_governanceEvent _ _ _ _).of_ok created').2
  obtain ⟨b, logged'⟩ := audit_frame
    (Moves.of_ok (Moves.runIf fun _ => moves_governanceEvent _ _ _ _) requested).2
  rw [logged', logged]
  refine ⟨?_, ?_, ?_, ?_, ?_, ?_⟩
  · show (w₂.store.governed.put stored).get? stored.intent.id = some stored
    exact Registry.get?_put_self _ _
  · rw [intentOf, intentEq]
  · rw [sameCall, intentOf, intentEq]
    exact ⟨rfl, rfl, rfl, rfl, rfl⟩
  · rw [intentOf, intentEq]
    exact computed
  · show w₂.store.approvalPolicies.get? run.workspaceId = some stored.intent.policy
    rw [clock, checkedOrganization, intentOf, intentEq]
    exact current
  · rw [intentOf, intentEq]

theorem prepare_eq_ok {platform : Platform} {host : Host} {run : AgentRun} {action : Action}
    {tool : ToolVersion} {request : ToolInput} {record : GovernedAction}
    {w w' : World RuntimeStore}
    (h : prepare platform host run action tool request w = .ok record w') :
    Prepared platform w'.store run action tool request record := by
  have h := lookup_then (reads_getWorkspace _) h
  cases listed : (w.store.governed.values.filter
      (·.intent.workspaceId = run.workspaceId)).find? (·.intent.actionId = action.id) with
  | none =>
      rw [listed] at h
      exact prepareNew_eq_ok h
  | some existing =>
      rw [listed] at h
      obtain ⟨_, v, passed, same, h⟩ := (idle_validate platform host _ _ _ _ _).then h
      obtain ⟨rfl, rfl⟩ := pure_eq_ok.mp h
      rw [same]
      exact validate_eq_ok passed

/-! ## Reviewing a message -/

/-- What the authorization has found when it grants a reviewed call. -/
structure Granted (platform : Platform) (host : Host) (w w' : World RuntimeStore) (run : AgentRun)
    (action : Action) (tool : ToolVersion) (request : ToolInput) (record : GovernedAction) :
    Prop where
  governance : host.governance = true
  prepared : Prepared platform w'.store run action tool request record
  allowed : ∃ n, w.reads ≤ n ∧ n < w'.reads ∧ record.allowedAt (platform.clock n) = true

theorem allowed_eq_ok {env : Env} {record : GovernedAction} {b : Bool}
    {w w' : World RuntimeStore} (h : allowed env record w = .ok b w') :
    b = record.allowedAt (env.clock w.reads) ∧ w' = { w with reads := w.reads + 1 } := by
  obtain ⟨at', w₁, clock, h⟩ := bind_eq_ok.mp h
  obtain ⟨rfl, rfl⟩ := readClock_eq_ok.mp clock
  obtain ⟨rfl, rfl⟩ := pure_eq_ok.mp h
  exact ⟨rfl, rfl⟩

/-- What `allowed` has found in a record that it lets through. -/
structure Executable (record : GovernedAction) (at' : Instant) : Prop where
  live : record.cancelled = false
  unclaimed : record.invocationId = none
  inTime : at' < record.intent.expiresAt
  approval : record.intent.effect = .allow ∨ (record.intent.effect = .required ∧
    ∃ d, record.decisions.getLast? = some d ∧ d.kind = .approved)

theorem GovernedAction.executable_of_allowedAt {record : GovernedAction} {at' : Instant}
    (h : record.allowedAt at' = true) : Executable record at' := by
  unfold GovernedAction.allowedAt at h
  split at h
  · cases h
  · next open' =>
      simp only [not_or, Bool.not_eq_true, not_not] at open'
      split at h
      · cases h
      · next inTime =>
          refine ⟨open'.1, open'.2.1, lt_of_not_ge inTime, ?_⟩
          split at h
          · next allow => exact .inl allow
          · obtain ⟨required, last⟩ := Bool.and_eq_true_iff.mp h
            obtain ⟨d, found, approved⟩ := (Option.any_eq_true _ _).mp last
            exact .inr ⟨of_decide_eq_true required, d, found, of_decide_eq_true approved⟩

theorem refuseViolation_ne_ok {α : Type} {e : Exc} {a : α} {w w' : World RuntimeStore} :
    refuseViolation e w ≠ .ok a w' := by
  unfold refuseViolation
  split <;> intro h <;> cases h

theorem reviewMessage_granted {platform : Platform} {host : Host} {run : AgentRun}
    {action : Action} {resolved resolved' : ResolvedTool} {request request' : ToolInput}
    {governed : Option GovernedAction} {w w' : World RuntimeStore}
    (h : reviewMessage platform host run action resolved request w =
      .ok (.granted resolved' request' governed) w') :
    resolved' = resolved ∧ request' = request ∧ ∃ record, governed = some record ∧
      Granted platform host w w' run action resolved.version request record ∧
      Relation.ReflTransGen (Write [.prepare, .audit]) w.store w'.store := by
  obtain ⟨governance, h⟩ := raiseIf_then h
  obtain ⟨record, v, prepared, h⟩ := bind_eq_ok.mp h
  rcases catching_eq_ok.mp prepared with prepared | ⟨_, _, -, refused⟩
  · have found := prepare_eq_ok prepared
    have moved := (moves_prepare (K := [.prepare, .audit]) platform host _ _ _ _).of_ok prepared
    split at h
    · obtain ⟨_, _, -, h⟩ := bind_eq_ok.mp h
      exact (raise_eq_ok.mp h).elim
    · obtain ⟨executable, v', asked, h⟩ := bind_eq_ok.mp h
      obtain ⟨value, rfl⟩ := allowed_eq_ok asked
      split at h
      · next granted =>
          obtain ⟨verdict, rfl⟩ := pure_eq_ok.mp h
          cases verdict
          exact ⟨rfl, rfl, record, rfl, ⟨Bool.eq_true_of_not_eq_false governance,
            found, v.reads, moved.1.2, Nat.lt_succ_self _,
            value.symm.trans granted⟩, moved.2⟩
      · obtain ⟨_, _, -, h⟩ := bind_eq_ok.mp h
        cases (pure_eq_ok.mp h).1
  · exact (refuseViolation_ne_ok refused).elim

/-- How a call was granted: without a record, because its tool only reads, or with one. -/
inductive Grant (platform : Platform) (host : Host) (w w' : World RuntimeStore) (run : AgentRun)
    (action : Action) (tool : ToolVersion) (request : ToolInput) : Option GovernedAction → Prop
  | reading (risk : tool.definition.risk = .readOnly) (message : request.isFixtureMessage = false)
      (same : w'.store = w.store) : Grant platform host w w' run action tool request none
  | reviewed (record : GovernedAction)
      (granted : Granted platform host w w' run action tool request record) :
      Grant platform host w w' run action tool request (some record)

/-- A grant seen from an earlier world with the same store. -/
theorem Grant.widen {platform : Platform} {host : Host} {w₀ w w' : World RuntimeStore}
    {run : AgentRun} {action : Action} {tool : ToolVersion} {request : ToolInput}
    {governed : Option GovernedAction} (reads : w₀.reads ≤ w.reads) (store : w.store = w₀.store)
    (h : Grant platform host w w' run action tool request governed) :
    Grant platform host w₀ w' run action tool request governed := by
  cases h with
  | reading risk message same => exact .reading risk message (same.trans store)
  | reviewed record granted =>
      obtain ⟨n, lower, upper, allowed⟩ := granted.allowed
      exact .reviewed record
        ⟨granted.governance, granted.prepared, n, Nat.le_trans reads lower, upper, allowed⟩

/-- The tool version that is registered under its grant. -/
def RuntimeStore.Registers (store : RuntimeStore) (tool : ToolVersion) : Prop :=
  ∃ r, store.tools.get? tool.grant = some r ∧ r.toolVersion = tool

/-- The tool that a registry resolves is registered and bound by the host. -/
theorem resolve_eq_ok {store : RuntimeStore} {host : Host} {workspaceId : WorkspaceId}
    {grant : ToolGrant} {resolved : ResolvedTool}
    (h : store.resolve host workspaceId grant = .ok resolved) :
    resolved.version.grant = grant ∧ host.executor grant = some resolved.executor ∧
      store.Registers resolved.version := by
  unfold RuntimeStore.resolve at h
  split at h
  · cases h
  · next record found =>
      split at h
      · cases h
      · split at h
        · cases h
        · next executor bound =>
            cases h
            have key : ToolRegistration.grant record = grant := Registry.key_of_get? found
            refine ⟨key, bound, record, ?_, rfl⟩
            show store.tools.get? record.grant = some record
            rw [key]
            exact found

theorem validated_eq_ok {α : Type} {r : Validated α} {a : α} {w w' : World RuntimeStore}
    (h : validated r w = .ok a w') : r = .ok a := by
  cases r with
  | ok b =>
      obtain ⟨rfl, -⟩ := pure_eq_ok.mp h
      rfl
  | error code => exact (raise_eq_ok.mp h).elim

theorem authorizeTool_granted {platform : Platform} {host : Host} {run : AgentRun}
    {action : Action} {toolId : ToolId} {raw : PyStr} {grant : Option ToolGrant}
    {resolved : ResolvedTool} {request : ToolInput} {governed : Option GovernedAction}
    {w w' : World RuntimeStore}
    (h : authorizeTool platform host run action toolId raw grant w =
      .ok (.granted resolved request governed) w') :
    grant = some resolved.version.grant ∧
      host.executor resolved.version.grant = some resolved.executor ∧
      w.store.Registers resolved.version ∧ validateInput raw resolved.version = .ok request ∧
      Grant platform host w w' run action resolved.version request governed ∧
      Relation.ReflTransGen (Write [.prepare, .audit]) w.store w'.store := by
  cases grant with
  | none =>
      have h := getStore_then h
      exact (raise_eq_ok.mp h).elim
  | some grant =>
      obtain ⟨found, resolving, h⟩ := (reads_resolve host _ _).then h
      obtain ⟨input, validating, h⟩ := (reads_validated _).then h
      have resolving := getStore_then resolving
      have valid := validated_eq_ok validating
      obtain ⟨same, bound, registered⟩ := resolve_eq_ok (ofExcept_eq_ok.mp resolving).1
      rw [← same] at bound
      split at h
      · obtain ⟨rfl, rfl, record, rfl, granted, moved⟩ := reviewMessage_granted h
        exact ⟨congrArg some same.symm, bound, registered, valid, .reviewed record granted, moved⟩
      · next message =>
          obtain ⟨risk, h⟩ := raiseIf_then h
          obtain ⟨verdict, rfl⟩ := pure_eq_ok.mp h
          cases verdict
          exact ⟨congrArg some same.symm, bound, registered, valid,
            .reading (not_not.mp risk) (Bool.eq_false_iff.mpr message) rfl, .refl⟩

/-! ## Claiming -/

/-- The fields of a record after its claim. -/
def GovernedAction.claimedBy (record : GovernedAction) (id : ToolInvocationId) : GovernedFields :=
  { record.toGovernedFields with invocationId := some id, version := record.version.next }

/-- The next version of a record is stored, with an event. -/
theorem saveNextGoverned_eq_ok {env : Env} {record updated : GovernedAction}
    {fields : GovernedFields} {kind : EventType} {w w' : World RuntimeStore}
    (h : saveNextGoverned env record fields kind w = .ok updated w') :
    updated.toGovernedFields = { fields with version := record.version.next } ∧ ∃ a,
      w'.store = { w.store with governed := w.store.governed.put updated }.audited a := by
  obtain ⟨made, creating, h⟩ := (reads_checked _).then h
  obtain ⟨_, v, saved, h⟩ := bind_eq_ok.mp h
  obtain ⟨_, v', logged, h⟩ := bind_eq_ok.mp h
  obtain ⟨rfl, rfl⟩ := pure_eq_ok.mp h
  obtain ⟨-, rfl⟩ := saveGovernedAction_eq_ok saved
  obtain ⟨a, same⟩ := audit_frame ((moves_governanceEvent _ _ _ _).of_ok logged).2
  exact ⟨GovernedAction.create_eq_ok (checked_eq_ok.mp creating).1, a, same⟩

theorem claim_eq_ok {env : Env} {record claimed : GovernedAction} {invocation : ToolInvocation}
    {w w' : World RuntimeStore} (h : claim env record invocation w = .ok claimed w') :
    claimed.toGovernedFields = record.claimedBy invocation.id ∧ ∃ a,
      w'.store = { w.store with governed := w.store.governed.put claimed }.audited a := by
  obtain ⟨executable, v, asked, h⟩ := bind_eq_ok.mp h
  obtain ⟨-, rfl⟩ := allowed_eq_ok asked
  obtain ⟨-, h⟩ := raiseIf_then h
  exact saveNextGoverned_eq_ok h

/-- The governed records after a call: the same ones, or the record of the call claimed. -/
def recordClaimed (id : ToolInvocationId) (before after : Registry GovernedAction.key) :
    Option GovernedAction → Prop
  | none => after = before
  | some record => ∃ claimed : GovernedAction,
      claimed.toGovernedFields = record.claimedBy id ∧ after = before.put claimed

/-- What a call that reached its executor has changed: `base` is the store that the
authorization left. -/
structure Claimed (base final : RuntimeStore) (d : Dispatch) (governed : Option GovernedAction) :
    Prop where
  run : ∃ at' claimed, AgentRun.Evolved d.run claimed at' {} ∧
    d.invocation.runVersion = claimed.version ∧ final.runs = base.runs.put claimed
  absent : base.toolInvocations.get? d.invocation.id = none
  unused : ∀ i ∈ base.toolInvocations.values, i.actionId ≠ d.action.id
  invocations : final.toolInvocations = base.toolInvocations.put d.invocation
  binding : d.invocation.actionId = d.action.id ∧ d.invocation.runId = d.run.id ∧
    d.invocation.workspaceId = d.run.workspaceId
  parents : d.invocation.taskAttemptId = d.run.taskAttemptId ∧
    d.invocation.executionId = d.run.executionId
  started : d.invocation.version = .initial ∧ d.invocation.status = .running
  dispatchable : d.invocation.toolVersion.definition.risk ≠ .readOnly →
    base.mode d.run.workspaceId = .normal ∧
      ∀ record ∈ governed, base.held d.run.workspaceId record.intent.id = false
  governed : recordClaimed d.invocation.id base.governed final.governed governed
  rest : ∃ t g r i a, final = { base with
    transitions := t, governed := g, runs := r, toolInvocations := i }.audited a

theorem requireConsequentialDispatch_eq_ok {workspaceId : WorkspaceId}
    {intentId : Option ActionIntentId} {u : Unit} {w w' : World RuntimeStore}
    (h : requireConsequentialDispatch workspaceId intentId w = .ok u w') :
    w.store.mode workspaceId = .normal ∧
      ∀ id ∈ intentId, w.store.held workspaceId id = false := by
  have h := lookup_then (reads_getWorkspace _) h
  obtain ⟨normal, h⟩ := raiseIf_then h
  refine ⟨not_not.mp normal, ?_⟩
  rintro id rfl
  have h := lookup_then (reads_getWorkspace _) h
  exact Bool.eq_false_iff.mpr (raiseIf_eq_ok.mp h).1

/-- The optional check of a consequential tool, when it passed. -/
theorem dispatchable_of_ok {run : AgentRun} {tool : ToolVersion}
    {governed : Option GovernedAction} {u : Unit} {w w' : World RuntimeStore}
    (h : runIf (tool.definition.risk ≠ .readOnly) (requireConsequentialDispatch run.workspaceId
      (governed.map fun g => g.intent.id)) w = .ok u w') :
    w' = w ∧ (tool.definition.risk ≠ .readOnly → w.store.mode run.workspaceId = .normal ∧
      ∀ record ∈ governed, w.store.held run.workspaceId record.intent.id = false) := by
  by_cases risk : tool.definition.risk ≠ .readOnly
  · rw [runIf_of risk] at h
    have passed := requireConsequentialDispatch_eq_ok h
    refine ⟨(reads_requireConsequentialDispatch _ _).world_eq h, fun _ => ⟨passed.1, ?_⟩⟩
    rintro record rfl
    exact passed.2 _ rfl
  · have skipped : runIf (tool.definition.risk ≠ .readOnly)
        (requireConsequentialDispatch run.workspaceId (governed.map fun g => g.intent.id)) =
          pure () := if_neg risk
    rw [skipped] at h
    exact ⟨(pure_eq_ok.mp h).2.symm, fun consequential => (risk consequential).elim⟩

theorem claimGoverned_eq_ok {env : Env} {host : Host} {governed : Option GovernedAction}
    {invocation : ToolInvocation} {u : Unit} {w w' : World RuntimeStore}
    (governance : governed ≠ none → host.governance = true)
    (h : claimGoverned env host governed invocation w = .ok u w') :
    ∃ g a, w'.store = { w.store with governed := g }.audited a ∧
      recordClaimed invocation.id w.store.governed g governed := by
  cases governed with
  | none =>
      obtain ⟨-, rfl⟩ := pure_eq_ok.mp h
      exact ⟨w.store.governed, ⟨w.store.events, w.store.observations⟩, rfl, rfl⟩
  | some record =>
      have body : claimGoverned env host (some record) invocation =
          discard (claim env record invocation) := runIf_of (governance (by simp)) _
      rw [body] at h
      obtain ⟨claimed, h⟩ := discard_eq_ok.mp h
      obtain ⟨fields, a, same⟩ := claim_eq_ok h
      exact ⟨_, a, same, claimed, fields, rfl⟩

theorem claimDispatch_eq_ok {platform : Platform} {host : Host} {run : AgentRun} {action : Action}
    {toolId : ToolId} {invocations : List ToolInvocation} {parents : List Version}
    {resolved : ResolvedTool} {request : ToolInput} {governed : Option GovernedAction}
    {result : ClaimResult} {w w' : World RuntimeStore}
    (governance : governed ≠ none → host.governance = true)
    (h : claimDispatch platform host run action toolId invocations parents resolved request
      governed w = .ok result w') :
    ∃ d, result = .dispatched d ∧ d.run = run ∧ d.action = action ∧
      d.executor = resolved.executor ∧ d.invocation.toolVersion = resolved.version ∧
      d.invocation.validatedInput = request ∧ ¬budgetExceeded run toolId invocations ∧
      Claimed w.store w'.store d governed := by
  obtain ⟨budget, h⟩ := raiseIf_then h
  obtain ⟨_, w₁, dispatchable, h⟩ := bind_eq_ok.mp h
  obtain ⟨here, dispatchable⟩ := dispatchable_of_ok dispatchable
  rw [here] at h
  obtain ⟨claimedAt, w₂, -, s₂, h⟩ := Idle.then (moves_now platform.toEnv) h
  obtain ⟨claimed, evolving, h⟩ := (reads_checked _).then h
  have evolved := AgentRun.evolve_eq_ok (checked_eq_ok.mp evolving).1
  obtain ⟨_, w₃, saved, h⟩ := bind_eq_ok.mp h
  obtain ⟨-, rfl⟩ := saveRun_eq_ok saved
  obtain ⟨id, w₄, -, s₄, h⟩ := Idle.then (moves_fresh platform.toEnv _) h
  obtain ⟨digest, -, h⟩ := (Reads.ofExcept _).then h
  obtain ⟨startedAt, w₅, -, s₅, h⟩ := Idle.then (moves_now platform.toEnv) h
  obtain ⟨invocation, making, h⟩ := (reads_checked _).then h
  have fields := ToolInvocation.create_eq_ok (checked_eq_ok.mp making).1
  obtain ⟨_, w₆, added, h⟩ := bind_eq_ok.mp h
  obtain ⟨⟨_, stored, -, foundAction, new⟩, rfl⟩ := addToolInvocation_eq_ok added
  obtain ⟨_, w₇, claiming, h⟩ := bind_eq_ok.mp h
  obtain ⟨g, b, s₇, record⟩ := claimGoverned_eq_ok governance claiming
  obtain ⟨_, w₈, started, h⟩ := bind_eq_ok.mp h
  obtain ⟨rfl, rfl⟩ := pure_eq_ok.mp h
  obtain ⟨a, s₈⟩ := audit_frame ((moves_runEvent _ _ _ _).of_ok started).2
  have s : w₅.store = { w.store with
      transitions := w.store.transitions ++ (none : Option StateTransition).toList
      runs := w.store.runs.put claimed } := by rw [s₅, s₄, s₂]
  have final : w₈.store = { w.store with
      transitions := w.store.transitions ++ (none : Option StateTransition).toList
      governed := g
      runs := w.store.runs.put claimed
      toolInvocations := w.store.toolInvocations.put invocation }.audited a := by
    rw [s₈, s₇, s]
    rfl
  refine ⟨_, rfl, rfl, rfl, rfl, congrArg InvocationFields.toolVersion fields,
    congrArg InvocationFields.validatedInput fields, budget, ?_⟩
  have actionId : invocation.actionId = action.id := congrArg InvocationFields.actionId fields
  obtain ⟨-, -, -, -, -, -, absent, initial, running, unused⟩ := new
  rw [s] at absent unused record foundAction
  have key : stored.id = invocation.actionId := Registry.key_of_get? foundAction
  exact {
    run := ⟨claimedAt, claimed, evolved, congrArg InvocationFields.runVersion fields,
      by rw [final]; rfl⟩
    absent := Registry.contains_eq_false_iff.mp absent
    unused := fun i hi same => by
      have none := List.any_eq_false.mp unused i hi
      exact none (decide_eq_true (same.trans (key.trans actionId).symm))
    invocations := by rw [final]; rfl
    binding := ⟨actionId, congrArg InvocationFields.runId fields,
      congrArg InvocationFields.workspaceId fields⟩
    parents := ⟨congrArg InvocationFields.taskAttemptId fields,
      congrArg InvocationFields.executionId fields⟩
    started := ⟨initial, running⟩
    dispatchable := by
      rw [congrArg InvocationFields.toolVersion fields]
      exact dispatchable
    governed := by
      rw [final]
      exact record
    rest := ⟨_, _, _, _, a, final⟩ }

/-- A claim of the run `runId` that dispatches `d`: `v` is the world after the
authorization. -/
structure Dispatched (platform : Platform) (host : Host) (runId : AgentRunId)
    (expected : Version) (w v w' : World RuntimeStore) (d : Dispatch)
    (governed : Option GovernedAction) : Prop where
  run : w.store.runs.get? runId = some d.run
  current : d.run.version = expected
  action : w.store.actions.get? d.action.id = some d.action
  actionRun : d.action.runId = d.run.id
  input : ∃ toolId raw, d.action.decision = .callTool toolId raw ∧
    d.run.definitionVersion.allowedTools.find? (·.toolId = toolId) =
      some d.invocation.toolVersion.grant ∧
    validateInput raw d.invocation.toolVersion = .ok d.invocation.validatedInput
  tool : w.store.Registers d.invocation.toolVersion
  executor : host.executor d.invocation.toolVersion.grant = some d.executor
  grant : Grant platform host w v d.run d.action d.invocation.toolVersion
    d.invocation.validatedInput governed
  review : Relation.ReflTransGen (Write [.prepare, .audit]) w.store v.store
  budget : ¬budgetExceeded d.run d.invocation.toolVersion.definition.id
    (w.store.toolInvocations.values.filter (·.runId = d.run.id))
  later : v.reads ≤ w'.reads
  claimed : Claimed v.store w'.store d governed

/-- Where an invocation that dispatches nothing may write. -/
abbrev refusalKinds : List Kind := [.prepare, .audit, .domain, .run]

theorem toolRefusal_eq_ok {e : Exc} {verdict : Verdict} {w w' : World RuntimeStore}
    (h : toolRefusal e w = .ok verdict w') : ∃ code, verdict = .refused code := by
  cases e with
  | tool code =>
      obtain ⟨rfl, -⟩ := pure_eq_ok.mp h
      exact ⟨code, rfl⟩
  | _ => exact (raise_eq_ok.mp h).elim

/-- The two ways in which a claim that returns can end. -/
inductive ClaimEnd (platform : Platform) (host : Host) (runId : AgentRunId) (expected : Version)
    (action : Action) (w w' : World RuntimeStore) : ClaimResult → Prop
  | returned (run : AgentRun)
      (moved : Relation.ReflTransGen (Write refusalKinds) w.store w'.store) :
      ClaimEnd platform host runId expected action w w' (.returned run)
  | dispatched (d : Dispatch) (governed : Option GovernedAction) (v : World RuntimeStore)
      (same : d.action = action)
      (facts : Dispatched platform host runId expected w v w' d governed) :
      ClaimEnd platform host runId expected action w w' (.dispatched d)

theorem invokeFresh_eq_ok {platform : Platform} {host : Host} {run : AgentRun} {action : Action}
    {toolId : ToolId} {raw : PyStr} {invocations : List ToolInvocation} {expected : Version}
    {result : ClaimResult} {w w' : World RuntimeStore} {runId : AgentRunId}
    (foundRun : w.store.runs.get? runId = some run)
    (foundAction : w.store.actions.get? action.id = some action) (actionRun : action.runId = run.id)
    (decision : action.decision = .callTool toolId raw)
    (listed : invocations = w.store.toolInvocations.values.filter (·.runId = run.id))
    (h : invokeFresh platform host run action toolId raw invocations expected w = .ok result w') :
    ClaimEnd platform host runId expected action w w' result := by
  obtain ⟨current, h⟩ := raiseIf_then h
  obtain ⟨-, h⟩ := raiseIf_then h
  obtain ⟨-, h⟩ := raiseIf_then h
  obtain ⟨parents, -, h⟩ := (reads_toolParents run).then h
  obtain ⟨at', w₁, clock, s₁, h⟩ := Idle.then (moves_now platform.toEnv) h
  obtain ⟨-, h⟩ := raiseIf_then h
  obtain ⟨verdict, v, authorized, h⟩ := bind_eq_ok.mp h
  have later : w.reads ≤ w₁.reads := ((moves_now platform.toEnv).of_ok (G := writes []) clock).1.2
  have moved : Relation.ReflTransGen (Write refusalKinds) w₁.store v.store :=
    ((Moves.catching (moves_authorizeTool platform host run action toolId raw _)
      moves_toolRefusal).of_ok authorized).2
  rw [s₁] at moved
  cases verdict with
  | refused code =>
      have settled := (moves_refused (K := refusalKinds) platform run action toolId code _).of_ok h
      obtain ⟨_, _, -, h⟩ := bind_eq_ok.mp h
      obtain ⟨_, _, -, h⟩ := bind_eq_ok.mp h
      obtain ⟨observed, _, -, h⟩ := bind_eq_ok.mp h
      obtain ⟨rfl, -⟩ := pure_eq_ok.mp h
      exact .returned observed (moved.trans settled.2)
  | waiting waiting =>
      obtain ⟨rfl, rfl⟩ := pure_eq_ok.mp h
      exact .returned waiting moved
  | granted resolved request governed =>
      rcases catching_eq_ok.mp authorized with authorized | ⟨_, _, -, refused⟩
      · obtain ⟨named, bound, registered, valid, grant, review⟩ := authorizeTool_granted authorized
        have toolId' : resolved.version.definition.id = toolId := by
          have same := List.find?_some named
          exact of_decide_eq_true same
        have governance : governed ≠ none → host.governance = true := by
          cases grant with
          | reading risk message same => simp
          | reviewed record granted => exact fun _ => granted.governance
        have reads := ((moves_claimDispatch (K := [.run, .invocation, .claim, .audit]) platform
          host run action toolId invocations parents resolved request governed).of_ok h).1.2
        obtain ⟨d, rfl, rfl, rfl, executor, tool, input, budget, claimed⟩ :=
          claimDispatch_eq_ok governance h
        rw [s₁] at review registered
        refine .dispatched d governed v rfl ⟨foundRun, not_not.mp current, foundAction, actionRun,
          ⟨toolId, raw, decision, ?_, ?_⟩, ?_, ?_, ?_, review, ?_, reads, claimed⟩
        · rw [tool]
          exact named
        · rw [tool, input]
          exact valid
        · rw [tool]
          exact registered
        · rw [tool, executor]
          exact bound
        · rw [tool, input]
          exact grant.widen later s₁
        · rw [tool, toolId', ← listed]
          exact budget
      · obtain ⟨code, refused⟩ := toolRefusal_eq_ok refused
        cases refused

theorem invokeClaim_eq_ok {platform : Platform} {host : Host} {workspaceId : WorkspaceId}
    {runId : AgentRunId} {action : Action} {expected : Version} {result : ClaimResult}
    {w w' : World RuntimeStore}
    (h : invokeClaim platform host workspaceId runId action expected w = .ok result w') :
    ClaimEnd platform host runId expected action w w' result := by
  have h := atomic_eq_ok.mp h
  obtain ⟨run, foundRun, -, h⟩ := getRun_then h
  cases decision : action.decision with
  | callTool toolId raw =>
      rw [decision] at h
      obtain ⟨binding, h⟩ := raiseIf_then h
      obtain ⟨stored, foundAction, -, h⟩ := getAction_then h
      obtain ⟨same, h⟩ := raiseIf_then h
      rw [not_not.mp same] at foundAction
      obtain ⟨-, h⟩ := raiseIf_then h
      have h := lookup_then (reads_getRun _ _) h
      cases listed : (w.store.toolInvocations.values.filter (·.runId = run.id)).find?
          (·.actionId = action.id) with
      | none =>
          rw [listed] at h
          exact invokeFresh_eq_ok foundRun foundAction (not_not.mp binding) decision rfl h
      | some existing =>
          rw [listed] at h
          obtain ⟨-, h⟩ := raiseIf_then h
          obtain ⟨-, h⟩ := raiseIf_then h
          obtain ⟨rfl, rfl⟩ := pure_eq_ok.mp h
          exact .returned run .refl
  | completeTask findings gaps =>
      rw [decision] at h
      exact (raise_eq_ok.mp h).elim
  | requestMoreContext missing =>
      rw [decision] at h
      exact (raise_eq_ok.mp h).elim
  | respond message =>
      rw [decision] at h
      exact (raise_eq_ok.mp h).elim

end AgentCompanyOS.Runtime
